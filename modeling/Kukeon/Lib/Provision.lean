import Mathlib

/-! # Lists in which things are provided before they are needed

Items give resources and need resources. A need lists alternatives and any of them will do. Items
are worked off in order; an item with a need that nothing before it meets stops the work. If the
items are sorted by a rank, it is enough that every need is met by an item of lower rank.
-/

namespace Provision

variable {δ ρ : Type}

section Work

variable (needs : δ → List (List ρ)) (gives : δ → List ρ)

def Met (present need : List ρ) : Prop := ∃ r ∈ need, r ∈ present

instance [DecidableEq ρ] (present need : List ρ) : Decidable (Met present need) :=
  inferInstanceAs (Decidable (∃ r ∈ need, r ∈ present))

def provide [DecidableEq ρ] (present : List ρ) (item : δ) : Option (List ρ) :=
  if ∀ need ∈ needs item, Met present need then some (present ++ gives item) else none

def provideAll [DecidableEq ρ] (present : List ρ) (items : List δ) : Option (List ρ) :=
  items.foldlM (provide needs gives) present

def SelfContained (items : List δ) : Prop :=
  ∀ item ∈ items, ∀ need ∈ needs item, ∃ giver ∈ items, Met (gives giver) need

instance [DecidableEq ρ] (items : List δ) : Decidable (SelfContained needs gives items) :=
  inferInstanceAs (Decidable (∀ item ∈ items, ∀ need ∈ needs item, ∃ giver ∈ items,
    Met (gives giver) need))

end Work

variable {needs : δ → List (List ρ)} {gives : δ → List ρ} {rank : δ → Nat}

theorem Met.mono {present more need : List ρ} (met : Met present need) (sub : present ⊆ more) :
    Met more need := by
  obtain ⟨r, hin, hi⟩ := met
  exact ⟨r, hin, sub hi⟩

/-- The items before `rest` have been worked off. -/
theorem provideAll_of_ranked [DecidableEq ρ] (rank : δ → Nat) (before : List δ) {rest : List δ}
    {present : List ρ}
    (hs : (before ++ rest).Pairwise fun a b => rank a ≤ rank b)
    (hgv : ∀ item ∈ before, gives item ⊆ present)
    (hr : ∀ item ∈ rest, ∀ need ∈ needs item, ∃ giver ∈ before ++ rest,
      rank giver < rank item ∧ Met (gives giver) need) :
    ∃ final, provideAll needs gives present rest = some final := by
  induction rest generalizing before present with
  | nil => exact ⟨present, rfl⟩
  | cons item rest ih =>
    have ha : ∀ later ∈ item :: rest, rank item ≤ rank later := by
      have ht := (List.pairwise_append.mp hs).2.1
      rintro later (_ | ⟨_, hm⟩)
      · exact Nat.le_refl _
      · exact (List.pairwise_cons.mp ht).1 later hm
    have met : ∀ need ∈ needs item, Met present need := by
      intro need hm
      obtain ⟨giver, hil, hl, hmt⟩ := hr item List.mem_cons_self need hm
      rcases List.mem_append.mp hil with earlier | later
      · exact hmt.mono (hgv giver earlier)
      · exact absurd hl (Nat.not_lt.mpr (ha giver later))
    have hsp : before ++ item :: rest = (before ++ [item]) ++ rest := by simp
    have hg : ∀ earlier ∈ before ++ [item], gives earlier ⊆ present ++ gives item := by
      intro earlier hm
      rcases List.mem_append.mp hm with hi | hh
      · exact fun r hhl => List.mem_append_left _ (hgv earlier hi hhl)
      · rw [List.mem_singleton.mp hh]
        exact List.subset_append_right _ _
    rw [hsp] at hs
    obtain ⟨final, hd⟩ := ih _ hs hg fun later hm need hn => by
      rw [← hsp]
      exact hr later (List.mem_cons_of_mem _ hm) need hn
    refine ⟨final, ?_⟩
    unfold provideAll at hd ⊢
    rw [List.foldlM_cons, provide, if_pos met]
    exact hd

/-- In a list that is sorted by rank nothing depends on a later item exactly when every dependency
    is of lower rank. -/
theorem pairwise_independent_iff {Dep : δ → δ → Prop} {items : List δ}
    (hs : items.Pairwise fun a b => rank a ≤ rank b)
    (ha : ∀ a ∈ items, ∀ b ∈ items, Dep a b → rank a ≠ rank b) :
    (items.Pairwise fun earlier later => ¬ Dep earlier later) ↔
      ∀ a ∈ items, ∀ b ∈ items, Dep a b → rank b < rank a := by
  constructor
  · intro hi a hin b hii hd
    have hdf := ha a hin b hii hd
    have he : items.Pairwise fun a b =>
        (rank a ≤ rank b ∧ ¬ Dep a b) ∨ (rank b ≤ rank a ∧ ¬ Dep b a) :=
      (List.Pairwise.and hs hi).imp Or.inl
    have hsy : Std.Symm fun a b =>
        (rank a ≤ rank b ∧ ¬ Dep a b) ∨ (rank b ≤ rank a ∧ ¬ Dep b a) :=
      ⟨fun _ _ => Or.symm⟩
    rcases he.forall hin hii (fun hsm => hdf (congrArg rank hsm)) with
      ⟨_, hi⟩ | ⟨hab, _⟩
    · exact absurd hd hi
    · exact Nat.lt_of_le_of_ne hab hdf.symm
  · intro hl
    refine hs.imp_of_mem fun hin hii ho hd => ?_
    exact absurd (hl _ hin _ hii hd) (Nat.not_lt.mpr ho)

end Provision
