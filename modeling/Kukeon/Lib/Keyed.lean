import Mathlib.Data.List.Dedup
import Mathlib.Data.List.Forall2

/-! # Lists read through a key

A program that copies a list into a map under a key keeps, for each key, the last element
that carries it. `find` is the lookup in that map and `keys` its key set; both are computed
from the list, so no map has to be built. `isEqv` lemmas describe the usual comparison of two
slices, equal length and equal elements, through the projection that the element test reads.
-/

namespace Keyed

variable {α κ : Type} [DecidableEq κ] {key : α → κ} {k : κ} {items : List α} {item : α}

/-- The last element with key `k`. -/
def find (key : α → κ) (k : κ) (items : List α) : Option α :=
  items.reverse.find? fun item => key item = k

def keys (key : α → κ) (items : List α) : List κ := (items.map key).dedup

theorem mem_keys : k ∈ keys key items ↔ ∃ item ∈ items, key item = k := by
  simp [keys]

theorem find_some (hf : find key k items = some item) : item ∈ items ∧ key item = k := by
  have hmm := List.mem_of_find?_eq_some hf
  have hm := List.find?_some hf
  exact ⟨List.mem_reverse.mp hmm, by simpa using hm⟩

theorem find_eq_none : find key k items = none ↔ ∀ item ∈ items, key item ≠ k := by
  simp [find]

theorem find_isSome : (find key k items).isSome ↔ k ∈ keys key items := by
  rw [mem_keys, Option.isSome_iff_ne_none, ne_eq, find_eq_none]
  simp

theorem find_cons (key : α → κ) (k : κ) (item : α) (items : List α) :
    find key k (item :: items) = (find key k items).or (if key item = k then some item else none) := by
  unfold find
  rw [List.reverse_cons, List.find?_append, List.find?_singleton]
  simp

/-- The position of the last element with key `k`, where there is one. -/
def lastIdx (key : α → κ) (k : κ) : List α → Nat
  | [] => 0
  | _ :: rest => if (find key k rest).isSome then lastIdx key k rest + 1 else 0

variable {β : Type}

/-- A map over the positions that keeps the keys is looked up at the last position of the key. -/
theorem find_mapIdx {other : β → κ} {f : Nat → α → β}
    (hs : ∀ index item, other (f index item) = key item) :
    find other k (items.mapIdx f) = (find key k items).map (f (lastIdx key k items)) := by
  induction items generalizing f with
  | nil => rfl
  | cons item rest ih =>
    have hl := ih (f := fun index => f (index + 1)) fun index => hs (index + 1)
    rw [List.mapIdx_cons, find_cons, find_cons, hl, lastIdx, hs]
    cases find key k rest with
    | none =>
      by_cases hh : key item = k
      · simp [hh]
      · simp [hh]
    | some found => rfl

/-- The first match in a list of images is the image of the first match. -/
theorem find?_mapIdx {f : Nat → α → β} {p : β → Bool} {q : α → Bool} (hs : ∀ i a, p (f i a) = q a)
    {items : List α} {b : β} (hf : (items.mapIdx f).find? p = some b) :
    ∃ i a, items[i]? = some a ∧ items.find? q = some a ∧ b = f i a := by
  induction items generalizing f with
  | nil => cases hf
  | cons a rest ih =>
    rw [List.mapIdx_cons] at hf
    by_cases hh : q a = true
    · rw [List.find?_cons_of_pos (by rw [hs]; exact hh)] at hf
      exact ⟨0, a, rfl, List.find?_cons_of_pos hh, (Option.some.inj hf).symm⟩
    · rw [List.find?_cons_of_neg (by rw [hs]; exact hh)] at hf
      obtain ⟨i, item, hp, hfr, hi⟩ := ih (fun i a => hs (i + 1) a) hf
      exact ⟨i + 1, item, hp, by rw [List.find?_cons_of_neg hh]; exact hfr, hi⟩

theorem find_of_mem (hd : (items.map key).Nodup) (hm : item ∈ items) :
    find key (key item) items = some item := by
  cases hr : find key (key item) items with
  | none => exact absurd rfl (find_eq_none.mp hr item hm)
  | some other =>
    obtain ⟨ho, hs⟩ := find_some hr
    rw [List.inj_on_of_nodup_map hd ho hm hs]

/-- With distinct keys an association list answers for every entry. -/
theorem lookup_of_mem {ι : Type} [BEq ι] [LawfulBEq ι] {entries : List (ι × α)} {entry : ι × α}
    (hd : (entries.map Prod.fst).Nodup) (hm : entry ∈ entries) :
    entries.lookup entry.1 = some entry.2 := by
  obtain ⟨before, after, hs⟩ := List.append_of_mem hm
  refine List.lookup_eq_some_iff.mpr ⟨before, after, hs, ?_⟩
  intro other he
  rw [hs, List.map_append, List.map_cons, List.nodup_append] at hd
  have hdf := hd.2.2 other.1 (List.mem_map_of_mem he) entry.1 (by simp)
  simpa [bne_iff_ne] using hdf.symm

/-- With distinct keys the first element of a key is the only one. -/
theorem first_of_mem (hd : (items.map key).Nodup) (hm : item ∈ items)
    (hs : key item = k) : items.find? (fun other => key other = k) = some item := by
  cases hf : items.find? (fun other => key other = k) with
  | none =>
    have hn := List.find?_eq_none.mp hf item hm
    simp [hs] at hn
  | some other =>
    have ho : key other = k := by simpa using List.find?_some hf
    rw [List.inj_on_of_nodup_map hd (List.mem_of_find?_eq_some hf) hm
      (ho.trans hs.symm)]

/-- Put `item` in the place of the first element with its key, or at the end. -/
def upsert (key : α → κ) (item : α) : List α → List α
  | [] => [item]
  | other :: rest => if key other = key item then item :: rest else other :: upsert key item rest

theorem find?_upsert_self :
    (upsert key item items).find? (fun other => key other = key item) = some item := by
  induction items with
  | nil => simp [upsert]
  | cons other rest ih =>
    unfold upsert
    split
    · simp
    · next hd => simpa [hd] using ih

/-- The lookup of a field reads nothing but the keys and that field. -/
theorem find_map_congr {f : α → β} {items others : List α}
    (hs : items.map (fun item => (key item, f item)) =
      others.map fun item => (key item, f item)) :
    (find key k items).map f = (find key k others).map f := by
  have ht : ∀ items : List α, (find key k items).map f =
      ((items.map fun item => (key item, f item)).reverse.find? fun pair => pair.1 = k).map
        Prod.snd := by
    intro items
    rw [← List.map_reverse, List.find?_map, Option.map_map]
    rfl
  rw [ht, ht, hs]

theorem getD_find_congr (f : α → β) {items others : List α}
    (hs : items.map (fun item => (key item, f item)) =
      others.map fun item => (key item, f item)) (fallback : α) :
    f ((find key k items).getD fallback) = f ((find key k others).getD fallback) := by
  have ht : ∀ items : List α, f ((find key k items).getD fallback) =
      ((find key k items).map f).getD (f fallback) := by
    intro items
    cases find key k items <;> rfl
  rw [ht, ht, find_map_congr hs]

end Keyed

namespace Slices

variable {α β : Type}

/-- Comparing two slices element by element with a test that reads `f` compares their images
    under `f`. -/
theorem isEqv_iff_map_eq {e : α → α → Bool} {f : α → β}
    (hr : ∀ x y, e x y = true ↔ f x = f y) (xs ys : List α) :
    xs.isEqv ys e = true ↔ xs.map f = ys.map f := by
  induction xs generalizing ys with
  | nil => cases ys <;> simp [List.isEqv]
  | cons x xs ih =>
    cases ys with
    | nil => simp [List.isEqv]
    | cons y ys => simp [List.isEqv, ih, hr]

theorem isEqv_iff_eq {e : α → α → Bool} (hr : ∀ x y, e x y = true ↔ x = y)
    (xs ys : List α) : xs.isEqv ys e = true ↔ xs = ys := by
  simpa using isEqv_iff_map_eq (f := id) hr xs ys

/-- A flag that each step of a loop can only raise, and raises exactly on the elements that
    satisfy `p`, is raised at the end when it was at the start or some element does. -/
theorem foldl_flag {σ : Type} {f : σ → α → σ} {g : σ → Bool} {p : α → Bool}
    (hs : ∀ s x, g (f s x) = (g s || p x)) (s : σ) (xs : List α) :
    g (xs.foldl f s) = (g s || xs.any p) := by
  induction xs generalizing s with
  | nil => simp
  | cons x xs ih => rw [List.foldl_cons, ih, hs, List.any_cons, Bool.or_assoc]

theorem foldl_frame {σ γ : Type} {f : σ → α → σ} {r : σ → γ}
    (hs : ∀ s x, r (f s x) = r s) (s : σ) (xs : List α) :
    r (xs.foldl f s) = r s := by
  induction xs generalizing s with
  | nil => rfl
  | cons x xs ih => rw [List.foldl_cons, ih, hs]

/-- At most one element has the property, so that the order does not matter. -/
theorem find?_of_perm {p : α → Bool} {l l' : List α} (hs : l.Perm l')
    (one : ∀ a ∈ l', ∀ b ∈ l', p a → p b → a = b) : l.find? p = l'.find? p := by
  cases hh : l'.find? p with
  | none => simp_all [List.find?_eq_none, hs.mem_iff]
  | some b =>
    have hf := List.find?_some hh
    have hm := List.mem_of_find?_eq_some hh
    cases ht : l.find? p with
    | none => simp_all [List.find?_eq_none, hs.mem_iff]
    | some a =>
      rw [one a (hs.mem_iff.mp (List.mem_of_find?_eq_some ht)) b hm
        (List.find?_some ht) hf]

/-- Where keys are distinct, a change by key is a change by index. -/
theorem map_eq_modify [DecidableEq β] {key : α → β} {items : List α}
    (hd : (items.map key).Nodup) {i : Nat} {chosen : α} (at_ : items[i]? = some chosen)
    (g : α → α) :
    items.map (fun item => if key item = key chosen then g item else item) = items.modify i g := by
  refine List.ext_getElem? fun j => ?_
  rw [List.getElem?_map, List.getElem?_modify]
  cases hf : items[j]? with
  | none => simp
  | some item =>
    have hs : key item = key chosen ↔ i = j := by
      constructor
      · intro hs
        refine (List.getElem?_inj ?_ hd).mp ?_
        · exact (List.length_map key).symm ▸ (List.getElem?_eq_some_iff.mp at_).1
        · simp [at_, hf, hs]
      · rintro rfl
        rw [Option.some.inj (hf.symm.trans at_)]
    by_cases hh : i = j
    · simp [hh, hs.mpr hh]
    · simp [hh, mt hs.mp hh]

theorem map_modify_of_keeps {key : α → β} {g : α → α} (hk : ∀ a, key (g a) = key a)
    (items : List α) (i : Nat) : (items.modify i g).map key = items.map key := by
  refine List.ext_getElem? fun j => ?_
  rw [List.getElem?_map, List.getElem?_map, List.getElem?_modify]
  cases items[j]? with
  | none => rfl
  | some item =>
    by_cases hh : i = j
    · simp [hh, hk]
    · simp [hh]

end Slices
