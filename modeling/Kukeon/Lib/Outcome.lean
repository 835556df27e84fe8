import Mathlib.Data.List.Forall2

/-! # Computations that may fail

What it takes for a computation in `Except` to succeed, one rule for each way of composing them.
-/

namespace Outcome

variable {ε δ α β : Type}

variable {f : α → Except ε β}

theorem bind_eq_ok {x : Except ε α} {result : β} :
    x >>= f = .ok result ↔ ∃ a, x = .ok a ∧ f a = .ok result := by
  cases x with
  | error cause => simp [bind, Except.bind]
  | ok a => simp [bind, Except.bind]

theorem mapError_eq_ok {x : Except ε α} {f : ε → δ} {result : α} :
    x.mapError f = .ok result ↔ x = .ok result := by
  cases x with
  | error cause => simp [Except.mapError]
  | ok a => simp [Except.mapError]

theorem pure_eq_ok {a result : α} : (pure a : Except ε α) = .ok result ↔ a = result := by
  simp [pure, Except.pure]

/-- A refusal lets the rest run exactly when its condition fails. -/
theorem refusal_eq_ok {p : Prop} [Decidable p] {cause : ε} {never : β → Except ε α}
    {rest : Except ε α} {result : α} :
    (if p then (throw cause : Except ε β) >>= never else rest) = .ok result ↔
      ¬p ∧ rest = .ok result := by
  by_cases hr : p
  · simp [hr, throw, throwThe, MonadExceptOf.throw, bind, Except.bind]
  · simp [hr]

/-- A loop that collects results succeeds exactly when every turn does. -/
theorem mapM_eq_ok {items : List α} {results : List β} :
    items.mapM f = .ok results ↔ List.Forall₂ (fun a b => f a = .ok b) items results := by
  induction items generalizing results with
  | nil =>
    rw [List.mapM_nil, pure_eq_ok, List.forall₂_nil_left_iff]
    exact eq_comm
  | cons item rest ih =>
    simp only [List.mapM_cons, bind_eq_ok, pure_eq_ok, ih, List.forall₂_cons_left_iff]
    grind

theorem mapM_of_ok {g : α → β} {items : List α}
    (he : ∀ a ∈ items, f a = .ok (g a)) : items.mapM f = .ok (items.map g) := by
  rw [mapM_eq_ok, List.forall₂_map_right_iff, List.forall₂_same]
  exact he

variable {R : α → β → Prop} {as : List α} {bs : List β}

/-- Two loops in a row relate the first list to the last through what was between. -/
theorem forall₂_comp {γ : Type} {S : β → γ → Prop}
    {cs : List γ} (hf : List.Forall₂ R as bs) (hs : List.Forall₂ S bs cs) :
    List.Forall₂ (fun a c => ∃ b, R a b ∧ S b c) as cs := by
  induction hf generalizing cs with
  | nil =>
    cases hs
    exact .nil
  | cons hr _ ih =>
    cases hs with
    | cons ho hrs => exact .cons ⟨_, hr, ho⟩ (ih hrs)

variable (hr : List.Forall₂ R as bs)

include hr

/-- Related lists have related first matches, if related items match alike. -/
theorem find?_of_forall₂ {p : α → Bool} {q : β → Bool} {a : α}
    (ha : ∀ a b, R a b → q b = p a) (hf : as.find? p = some a) :
    ∃ b, bs.find? q = some b ∧ R a b := by
  induction hr with
  | nil => cases hf
  | cons hh _ ih =>
    rw [List.find?_cons] at hf ⊢
    rw [ha _ _ hh]
    split at hf
    · cases hf
      exact ⟨_, rfl, hh⟩
    · exact ih hf

/-- Every item of the first list is related to one of the second. -/
theorem exists_right_of_forall₂ {a : α} (hm : a ∈ as) : ∃ b ∈ bs, R a b := by
  induction hr with
  | nil => cases hm
  | cons hhr _ ih =>
    rcases List.mem_cons.mp hm with rfl | hl
    · exact ⟨_, List.mem_cons_self, hhr⟩
    · obtain ⟨b, hi, hh⟩ := ih hl
      exact ⟨b, List.mem_cons_of_mem _ hi, hh⟩

/-- Every item of the second list is related to one of the first. -/
theorem exists_left_of_forall₂ {b : β} (hm : b ∈ bs) : ∃ a ∈ as, R a b :=
  exists_right_of_forall₂ hr.flip hm

/-- Related items that say the same are found in both lists or in neither. -/
theorem exists_mem_iff_of_forall₂ {p : α → Prop} {q : β → Prop} (hs : ∀ a ∈ as, ∀ b, R a b → (p a ↔ q b)) :
    (∃ a ∈ as, p a) ↔ ∃ b ∈ bs, q b := by
  induction hr with
  | nil => simp
  | cons hh _ ih =>
    have hrs := ih fun a hm b => hs a (List.mem_cons_of_mem _ hm) b
    have hf := hs _ List.mem_cons_self _ hh
    simp only [List.mem_cons, exists_eq_or_imp, hrs, hf]

/-- What every related item satisfies, every item of the second list satisfies. -/
theorem forall_mem_of_forall₂ {q : β → Prop} (he : ∀ a ∈ as, ∀ b, R a b → q b) : ∀ b ∈ bs, q b := by
  induction hr with
  | nil => simp
  | cons hh _ ih =>
    have hrs := ih fun a hm b => he a (List.mem_cons_of_mem _ hm) b
    have hf := he _ List.mem_cons_self _ hh
    simp only [List.mem_cons, forall_eq_or_imp]
    exact ⟨hf, hrs⟩

end Outcome

namespace Checks

variable {ε α : Type}

/-- A check that refuses with the error unless the condition holds. -/
def require (p : Prop) [Decidable p] (err : ε) : Except ε Unit := if p then .ok () else .error err

/-- The check of every item together with its position, from `start` on. -/
def each (check : Nat → α → Except ε Unit) : Nat → List α → Except ε Unit
  | _, [] => .ok ()
  | start, item :: rest => do
      check start item
      each check (start + 1) rest

@[simp]
theorem require_eq_ok {p : Prop} [Decidable p] {err : ε} : require p err = .ok () ↔ p := by
  simp [require]

@[simp]
theorem seq_eq_ok {first second : Except ε Unit} :
    (do first; second) = .ok () ↔ first = .ok () ∧ second = .ok () := by
  cases first with
  | error err => simp [bind, Except.bind]
  | ok done => simp [bind, Except.bind]

@[simp]
theorem forM_eq_ok {check : α → Except ε Unit} {items : List α} :
    forM items check = .ok () ↔ ∀ item ∈ items, check item = .ok () := by
  induction items with
  | nil => simp [pure, Except.pure]
  | cons item rest ih => rw [List.forM_cons, seq_eq_ok, ih, List.forall_mem_cons]

/-- If a check does not look at the position but for its error, neither does the loop. -/
theorem each_eq_ok {check : Nat → α → Except ε Unit} {Good : α → Prop}
    (he : ∀ index item, check index item = .ok () ↔ Good item) {start : Nat} {items : List α} :
    each check start items = .ok () ↔ ∀ item ∈ items, Good item := by
  induction items generalizing start with
  | nil => simp [each]
  | cons item rest ih =>
    unfold each
    rw [seq_eq_ok, he, ih, List.forall_mem_cons]

end Checks
