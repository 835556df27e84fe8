import Mathlib.Data.List.Induction

/-! # Runs of a system

A system takes one step after another. `run` is the state after a list of steps, `Along` says that
every step of a run is taken where a condition allows it, and `Along.invariant` is the induction:
what each allowed step keeps, every run of allowed steps keeps. Steps may have a cost; `Along.spent` is
the induction for an invariant that depends on what has been spent.
-/

namespace Runs

variable {σ α : Type} (step : σ → α → σ)

def run (s : σ) (steps : List α) : σ := steps.foldl step s

/-- Each step is taken in a state in which the condition allows it. -/
def Along (condition : σ → α → Prop) (s : σ) (steps : List α) : Prop :=
  ∀ done a rest, steps = done ++ a :: rest → condition (run step s done) a

variable {step}

theorem run_concat (s : σ) (done : List α) (a : α) :
    run step s (done ++ [a]) = step (run step s done) a := by
  simp [run, List.foldl_append]

theorem run_append (s : σ) (done rest : List α) :
    run step s (done ++ rest) = run step (run step s done) rest :=
  List.foldl_append

variable {condition : σ → α → Prop} {s : σ}

theorem Along.nil : Along step condition s [] := by
  intro done a rest hs
  simp at hs

theorem Along.cons {a : α} {rest : List α}
    (hf : condition s a) (ha : Along step condition (step s a) rest) :
    Along step condition s (a :: rest) := by
  intro done b after hs
  cases done with
  | nil =>
    cases hs
    exact hf
  | cons c done =>
    cases hs
    exact ha done b after rfl

theorem along_cons {a : α} {rest : List α} :
    Along step condition s (a :: rest) ↔ condition s a ∧ Along step condition (step s a) rest := by
  constructor
  · intro ha
    refine ⟨ha [] a rest rfl, ?_⟩
    intro done b last hs
    exact ha (a :: done) b last (by rw [hs, List.cons_append])
  · rintro ⟨hf, hl⟩
    exact .cons hf hl

instance decidableAlong {condition : σ → α → Prop} [∀ s a, Decidable (condition s a)] :
    (s : σ) → (steps : List α) → Decidable (Along step condition s steps)
  | _, [] => isTrue .nil
  | s, a :: rest =>
    have : Decidable (Along step condition (step s a) rest) := decidableAlong (step s a) rest
    decidable_of_iff (condition s a ∧ Along step condition (step s a) rest) along_cons.symm

theorem Along.after {done rest : List α}
    (ha : Along step condition s (done ++ rest)) :
    Along step condition (run step s done) rest := by
  intro further a last hs
  rw [← run_append]
  exact ha (done ++ further) a last (by rw [hs, List.append_assoc])

theorem Along.invariant {holds : σ → Prop} {steps : List α}
    (hk : ∀ t a, holds t → condition t a → holds (step t a)) (hst : holds s)
    (ha : Along step condition s steps) :
    ∀ done rest, steps = done ++ rest → holds (run step s done) := by
  intro done
  induction done using List.reverseRecOn with
  | nil =>
    intro rest _
    exact hst
  | append_singleton done a ih =>
    intro rest hsp
    have hs : steps = done ++ a :: rest := by
      simpa using hsp
    rw [run_concat]
    exact hk _ a (ih _ hs) (ha done a rest hs)

def total (step : σ → α → σ) (cost : σ → α → Nat) : σ → List α → Nat
  | _, [] => 0
  | s, a :: rest => cost s a + total step cost (step s a) rest

theorem total_append (cost : σ → α → Nat) (s : σ) (done rest : List α) :
    total step cost s (done ++ rest) = total step cost s done + total step cost (run step s done) rest := by
  induction done generalizing s with
  | nil => simp [total, run]
  | cons a done ih =>
    rw [List.cons_append, total, total, ih, Nat.add_assoc]
    rfl

/-- An invariant that every step keeps together with what has been spent so far. -/
theorem Along.spent (cost : σ → α → Nat) (holds : Nat → σ → Prop)
    (hk : ∀ k t a, holds k t → condition t a → holds (k + cost t a) (step t a))
    {steps : List α} {k : Nat} (hs : holds k s) (hal : Along step condition s steps) :
    holds (k + total step cost s steps) (run step s steps) := by
  induction steps generalizing s k with
  | nil => exact hs
  | cons a rest ih =>
    obtain ⟨ha, hlt⟩ := along_cons.mp hal
    have hl := ih (hk k s a hs ha) hlt
    rw [Nat.add_assoc] at hl
    exact hl

end Runs
