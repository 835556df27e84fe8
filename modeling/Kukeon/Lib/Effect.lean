import Mathlib

/-! # Programs with state and failure

A step of a daemon reads and changes a state and can fail part way, with the changes it made so far
in place. `Effect σ ε` is that monad. Properties of such programs are Hoare triples whose
postcondition covers both endings; `Keeps` is the triple of an invariant.
-/

open Std.Do

set_option mvcgen.warning false

/-- A computation over a state `σ` that may fail with an `ε`, keeping the state it had reached. -/
abbrev Effect (σ ε : Type) := ExceptT ε (StateM σ)

namespace Effect

variable {σ ε α β : Type}

/-- Runs a computation and hands its failure to the caller as a value. -/
def attempt (m : Effect σ ε α) : Effect σ ε (Except ε α) :=
  tryCatch (Except.ok <$> m) fun e => pure (.error e)

def ofResult (r : Except ε α) : Effect σ ε α :=
  match r with
  | .ok a => pure a
  | .error e => throw e

def rewording (f : ε → ε) (m : Effect σ ε α) : Effect σ ε α :=
  tryCatch m fun e => throw (f e)

def finalState (m : Effect σ ε α) (s : σ) : σ := (m s).2

def ending (m : Effect σ ε α) (s : σ) : Except ε α := (m s).1

/-- The triple of an invariant: it holds after the computation, however it ended. -/
abbrev Keeps (i : σ → Prop) (m : Effect σ ε α) : Prop :=
  ⦃fun s => ⌜i s⌝⦄ m ⦃post⟨fun _ s => ⌜i s⌝, fun _ s => ⌜i s⌝⟩⦄

abbrev Gives (i : σ → Prop) (q : α → Prop) (m : Effect σ ε α) : Prop :=
  ⦃fun s => ⌜i s⌝⦄ m ⦃post⟨fun a s => ⌜i s ∧ q a⌝, fun _ s => ⌜i s⌝⟩⦄

abbrev Leads (i j : σ → Prop) (m : Effect σ ε α) : Prop :=
  ⦃fun s => ⌜i s⌝⦄ m ⦃post⟨fun _ s => ⌜j s⌝, fun _ s => ⌜j s⌝⟩⦄

abbrev Makes (i : σ → Prop) (m : Effect σ ε α) : Prop :=
  ⦃fun _ => ⌜True⌝⦄ m ⦃post⟨fun _ s => ⌜i s⌝, fun _ _ => ⌜True⌝⟩⦄

variable {m : Effect σ ε α} {f : α → Effect σ ε β} {s t : σ} {a : α} {e : ε} {i : σ → Prop}

theorem of_triple {p : σ → Prop} {q : α → σ → Prop} {f : ε → σ → Prop}
    (ht : ⦃fun s => ⌜p s⌝⦄ m ⦃post⟨fun a s => ⌜q a s⌝, fun e s => ⌜f e s⌝⟩⦄) (hh : p s) :
    (∀ a, ending m s = .ok a → q a (finalState m s)) ∧
      ∀ e, ending m s = .error e → f e (finalState m s) := by
  have run := ht s hh
  simp only [WP.wp, PredTrans.apply_pushExcept, PredTrans.apply_pushArg,
    PredTrans.apply_Pure_pure] at run
  have ran : (StateT.run (ExceptT.run m) s).run = (ending m s, finalState m s) := rfl
  rw [ran] at run
  constructor
  · intro a he
    rw [he] at run
    exact run
  · intro e he
    rw [he] at run
    exact run

theorem triple_of_runs {p : σ → Prop} {q : α → σ → Prop} {f : ε → σ → Prop}
    (hr : ∀ s, p s → (∀ a, ending m s = .ok a → q a (finalState m s)) ∧
      ∀ e, ending m s = .error e → f e (finalState m s)) :
    ⦃fun s => ⌜p s⌝⦄ m ⦃post⟨fun a s => ⌜q a s⌝, fun e s => ⌜f e s⌝⟩⦄ := by
  intro s hh
  obtain ⟨ho, hof⟩ := hr s hh
  simp only [WP.wp, PredTrans.apply_pushExcept, PredTrans.apply_pushArg,
    PredTrans.apply_Pure_pure]
  have ran : (StateT.run (ExceptT.run m) s).run = (ending m s, finalState m s) := rfl
  rw [ran]
  cases he : ending m s with
  | ok a => exact ho a he
  | error e => exact hof e he

/-- A postcondition that does not depend on the ending holds of the state it leaves. -/
theorem holds_finalState {p q : σ → Prop} (ht : Leads p q m) (hh : p s) :
    q (finalState m s) := by
  obtain ⟨ho, hof⟩ := of_triple ht hh
  cases he : ending m s with
  | ok a => exact ho a he
  | error e => exact hof e he

/-- A computation goes on from where its first part ended, unless that failed. -/
theorem bind_apply (m : Effect σ ε α) (f : α → Effect σ ε β) (s : σ) :
    (m >>= f) s =
      match ending m s with
      | .ok a => f a (finalState m s)
      | .error e => (.error e, finalState m s) := by
  have run : (m >>= f) s = ExceptT.bindCont f (ending m s) (finalState m s) := rfl
  rw [run]
  cases ending m s with
  | ok a => rfl
  | error e => rfl

theorem bind_of_ok (he : ending m s = .ok a) (f : α → Effect σ ε β) :
    (m >>= f) s = f a (finalState m s) := by
  rw [bind_apply, he]

theorem bind_of_error (he : ending m s = .error e) (f : α → Effect σ ε β) :
    (m >>= f) s = (.error e, finalState m s) := by
  rw [bind_apply, he]

theorem same_run {n : Effect σ ε α} (run : m s = n t) :
    ending m s = ending n t ∧ finalState m s = finalState n t :=
  ⟨congrArg Prod.fst run, congrArg Prod.snd run⟩

/-- What comes after a computation matters only where it has succeeded. -/
theorem bind_congr_of_ok {g : α → Effect σ ε β}
    (hs : ∀ a, ending m s = .ok a → f a (finalState m s) = g a (finalState m s)) :
    (m >>= f) s = (m >>= g) s := by
  cases he : ending m s with
  | ok a => rw [bind_of_ok he, bind_of_ok he, hs a he]
  | error e => rw [bind_of_error he, bind_of_error he]

theorem keeps_true (m : Effect σ ε α) : Keeps (fun _ => True) m :=
  triple_of_runs fun _ _ => ⟨fun _ _ => trivial, fun _ _ => trivial⟩

theorem keeps_forM {f : α → Effect σ ε PUnit} {items : List α}
    (he : ∀ item ∈ items, Keeps i (f item)) : Keeps i (items.forM f) := by
  induction items with
  | nil =>
    mvcgen
  | cons item rest ih =>
    have hf := he item List.mem_cons_self
    have hl := ih fun other hm => he other (List.mem_cons_of_mem _ hm)
    rw [List.forM]
    mvcgen [hf, hl]

/-- A loop establishes what one of its rounds establishes and the others keep. -/
theorem establishes_forM {f : α → Effect σ ε PUnit} {items : List α} {chosen : α}
    (hm : chosen ∈ items) (hec : ∀ item ∈ items, Keeps i (f item))
    (hr : Makes i (f chosen)) : Makes i (items.forM f) := by
  induction items with
  | nil => cases hm
  | cons item rest ih =>
    have he := fun other hm => hec other (List.mem_cons_of_mem item hm)
    rw [List.forM]
    rcases List.mem_cons.mp hm with rfl | hl
    · have hk := keeps_forM he
      mvcgen [hr, hk]
      all_goals simp
    · have hes := ih hl he
      have hf : Keeps (fun _ => True) (f item) := keeps_true (f item)
      mvcgen [hf, hes]

theorem forM_cons_of_ok {f : α → Effect σ ε PUnit} {item : α} {done : PUnit}
    (he : ending (f item) s = .ok done) (rest : List α) :
    (item :: rest).forM f s = rest.forM f (finalState (f item) s) :=
  bind_of_ok he fun _ => rest.forM f

theorem forM_cons_of_error {f : α → Effect σ ε PUnit} {item : α}
    (he : ending (f item) s = .error e) (rest : List α) :
    (item :: rest).forM f s = (.error e, finalState (f item) s) :=
  bind_of_error he fun _ => rest.forM f

theorem forM_append_of_ok {f : α → Effect σ ε PUnit} {items : List α} {done : PUnit}
    (he : ending (items.forM f) s = .ok done) (rest : List α) :
    (items ++ rest).forM f s = rest.forM f (finalState (items.forM f) s) := by
  induction items generalizing s with
  | nil => rfl
  | cons item items ih =>
    cases hf : ending (f item) s with
    | error e =>
      have hs : ending ((item :: items).forM f) s = .error e :=
        congrArg Prod.fst (forM_cons_of_error hf items)
      rw [hs] at he
      cases he
    | ok done =>
      have hg := same_run (forM_cons_of_ok hf items)
      rw [hg.1] at he
      rw [List.cons_append, forM_cons_of_ok hf, ih he, hg.2]

theorem keeps_ofResult_bind (r : Except ε α) (he : ∀ a, Keeps i (f a)) :
    Keeps i (ofResult r >>= f) := by
  cases r with
  | error e => mvcgen [ofResult]
  | ok a =>
    have hn := he a
    mvcgen [ofResult, hn]

/-- From `s` the computation succeeds with `a` and leaves the state `t`. -/
def Yields (m : Effect σ ε α) (s : σ) (a : α) (t : σ) : Prop := m s = (.ok a, t)

theorem bind_of_yields (hy : Yields m s a t) (f : α → Effect σ ε β) : (m >>= f) s = f a t := by
  have hf : finalState m s = t := congrArg Prod.snd hy
  rw [bind_of_ok (congrArg Prod.fst hy), hf]

theorem attempt_apply (m : Effect σ ε α) (s : σ) :
    attempt m s = (.ok (ending m s), finalState m s) := by
  unfold attempt ending finalState
  simp only [tryCatch, tryCatchThe, MonadExceptOf.tryCatch, ExceptT.tryCatch, ExceptT.mk, bind,
    StateT.bind, Functor.map, ExceptT.map]
  rcases ran : m s with ⟨result, last⟩
  cases result with
  | ok a => rfl
  | error e => rfl

namespace Yields

variable {u : σ} {b : β}

theorem ret (a : α) (s : σ) : Yields (pure a : Effect σ ε α) s a s := rfl

theorem bind (hf : Yields m s a t) (hr : Yields (f a) t b u) : Yields (m >>= f) s b u :=
  (bind_of_yields hf f).trans hr

theorem of_bind (hy : Yields (m >>= f) s b u) :
    ∃ a t, Yields m s a t ∧ Yields (f a) t b u := by
  unfold Yields at hy
  rw [bind_apply] at hy
  cases he : Effect.ending m s with
  | ok a =>
    rw [he] at hy
    exact ⟨a, _, Prod.ext he rfl, hy⟩
  | error e =>
    rw [he] at hy
    cases hy

theorem read (s : σ) : Yields (get : Effect σ ε σ) s s s := rfl

theorem put (s t : σ) : Yields (set t : Effect σ ε PUnit) s ⟨⟩ t := rfl

theorem update (f : σ → σ) (s : σ) : Yields (modify f : Effect σ ε PUnit) s ⟨⟩ (f s) := rfl

theorem ofResult {r : Except ε α} (ok : r = .ok a) (s : σ) :
    Yields (Effect.ofResult r) s a s := by
  subst ok
  rfl

theorem rewording (hy : Yields m s a t) (f : ε → ε) : Yields (Effect.rewording f m) s a t := by
  have run : Effect.rewording f m s =
      (match (m s).1 with
        | .ok a => (pure a : Effect σ ε α)
        | .error e => throw (f e)) (m s).2 := rfl
  unfold Yields at *
  rw [run, hy]
  rfl

theorem ending (hy : Yields m s a t) : ending m s = .ok a := congrArg Prod.fst hy

theorem finalState (hy : Yields m s a t) : finalState m s = t := congrArg Prod.snd hy

theorem finalState_bind (hf : Yields m s a t) :
    Effect.finalState (m >>= f) s = Effect.finalState (f a) t :=
  congrArg Prod.snd (bind_of_yields hf f)

theorem attempted (m : Effect σ ε α) (s : σ) :
    Yields (Effect.attempt m) s (Effect.ending m s) (Effect.finalState m s) :=
  attempt_apply m s

theorem attempt (hy : Yields m s a t) : Yields (Effect.attempt m) s (.ok a) t := by
  unfold Yields
  rw [attempt_apply, hy.ending, hy.finalState]

end Yields

/-- The computation succeeds from `s` exactly under the condition, with `a` and the state `t`. -/
structure Settles (m : Effect σ ε α) (s : σ) (condition : Prop) (a : α) (t : σ) : Prop where
  yields : condition → Yields m s a t
  fails : ¬ condition → ∃ e, ending m s = .error e

namespace Settles

variable {u : σ} {b : β} {p q : Prop}

theorem of_yields (hy : Yields m s a t) : Settles m s True a t :=
  ⟨fun _ => hy, fun hi => absurd trivial hi⟩

theorem of_iff (hs : Settles m s p a t) (hsm : p ↔ q) : Settles m s q a t :=
  ⟨fun hh => hs.yields (hsm.mpr hh), fun not => hs.fails (mt hsm.mp not)⟩

theorem bind (hfr : Settles m s p a t) (hr : p → Settles (f a) t q b u) :
    Settles (m >>= f) s (p ∧ q) b u := by
  constructor
  · rintro ⟨hh, hl⟩
    exact (hfr.yields hh).bind ((hr hh).yields hl)
  · intro not
    by_cases hh : p
    · obtain ⟨e, hf⟩ := (hr hh).fails fun hl => not ⟨hh, hl⟩
      exact ⟨e, (congrArg Prod.fst (bind_of_yields (hfr.yields hh) f)).trans hf⟩
    · obtain ⟨e, hf⟩ := hfr.fails hh
      exact ⟨e, congrArg Prod.fst (bind_of_error hf f)⟩

theorem after (hf : Yields m s a t) (hr : Settles (f a) t q b u) :
    Settles (m >>= f) s q b u :=
  ((of_yields hf).bind fun _ => hr).of_iff (by simp)

theorem before (hf : Settles m s p a t) (hr : p → Yields (f a) t b u) :
    Settles (m >>= f) s p b u :=
  (hf.bind fun hh => of_yields (hr hh)).of_iff (by simp)

end Settles

theorem finalState_bind_of_fails (hf : ending m s = .error e) :
    finalState (m >>= f) s = finalState m s :=
  congrArg Prod.snd (bind_of_error hf f)

theorem of_yields_rewording {f : ε → ε} (hy : Yields (rewording f m) s a t) :
    Yields m s a t := by
  have run : rewording f m s =
      (match (m s).1 with
        | .ok a => (pure a : Effect σ ε α)
        | .error e => throw (f e)) (m s).2 := rfl
  unfold Yields at *
  rw [run] at hy
  rcases he : m s with ⟨result, after⟩
  rw [he] at hy
  cases result with
  | ok b => exact hy
  | error e => cases hy

theorem of_yields_ofResult {r : Except ε α} (hy : Yields (ofResult r) s a t) :
    r = .ok a ∧ t = s := by
  cases r with
  | ok b =>
    cases hy
    exact ⟨rfl, rfl⟩
  | error e => cases hy

theorem error_of_ofResult {r : Except ε α} (he : ending (ofResult r) s = .error e) :
    r = .error e := by
  cases r with
  | ok b => cases he
  | error err => exact he

theorem finalState_ofResult (r : Except ε α) (s : σ) :
    finalState (ofResult r : Effect σ ε α) s = s := by
  cases r with
  | ok b => rfl
  | error e => rfl

section Loops

variable (f)

/-- The items of a loop, each with the state that its turn finds. -/
def turns : σ → List α → List (σ × α)
  | _, [] => []
  | s, item :: rest => (s, item) :: turns (finalState (f item) s) rest

variable {f}

theorem yields_mapM_cons {s t u : σ} {item : α} {rest : List α} {b : β} {bs : List β}
    (hf : Yields (f item) s b t) (hl : Yields (rest.mapM f) t bs u) :
    Yields ((item :: rest).mapM f) s (b :: bs) u := by
  rw [List.mapM_cons]
  exact hf.bind (hl.bind (.ret _ _))

/-- A loop over rounds that succeed with `answer` succeeds with the answers of its turns. -/
theorem yields_mapM {answer : σ → α → β}
    (he : ∀ s item, Yields (f item) s (answer s item) (finalState (f item) s)) (s : σ)
    (items : List α) :
    Yields (items.mapM f) s ((turns f s items).map fun turn => answer turn.1 turn.2)
      (items.foldl (fun s item => finalState (f item) s) s) := by
  induction items generalizing s with
  | nil => rfl
  | cons item rest ih => exact yields_mapM_cons (he s item) (ih (finalState (f item) s))

theorem yields_of_attempt {γ : Type} (m : Effect σ ε α) (g : Except ε α → γ) (s : σ) :
    Yields (do return g (← attempt m)) s (g (ending m s)) (finalState m s) := by
  have ran : Yields (attempt m >>= fun ended => (pure (g ended) : Effect σ ε γ)) s
      (g (ending m s)) (finalState m s) :=
    (Yields.attempted m s).bind (.ret _ _)
  exact ran

variable {g : β → α → Effect σ ε β}

theorem holds_finalState_bind {γ : Type} {k : α → Effect σ ε γ} (hf : i (finalState m s))
    (hl : ∀ a, ending m s = .ok a → i (finalState (k a) (finalState m s))) :
    i (finalState (m >>= k) s) := by
  cases he : ending m s with
  | ok a =>
    have run : finalState (m >>= k) s = finalState (k a) (finalState m s) :=
      congrArg Prod.snd (bind_of_ok he k)
    rw [run]
    exact hl a he
  | error e =>
    have run : finalState (m >>= k) s = finalState m s :=
      congrArg Prod.snd (bind_of_error he k)
    rw [run]
    exact hf

/-- A loop keeps what every round keeps, however either of them ends. -/
theorem holds_foldlM {items : List α}
    (he : ∀ b, ∀ item ∈ items, ∀ s, i s → i (finalState (g b item) s)) (b : β) (s : σ)
    (hh : i s) : i (finalState (items.foldlM g b) s) := by
  induction items generalizing b s with
  | nil => exact hh
  | cons item rest ih =>
    rw [List.foldlM_cons]
    have hf := he b item List.mem_cons_self s hh
    refine holds_finalState_bind hf fun b' _ => ?_
    exact ih (fun b next hm => he b next (List.mem_cons_of_mem _ hm)) b' _ hf

theorem Yields.of_foldlM_cons {s u : σ} {item : α} {rest : List α} {b c : β}
    (ran : Yields ((item :: rest).foldlM g b) s c u) :
    ∃ b' t, Yields (g b item) s b' t ∧ Yields (rest.foldlM g b') t c u := by
  rw [List.foldlM_cons] at ran
  exact ran.of_bind

theorem Yields.of_foldlM_append {s u : σ} {before after : List α} {b c : β}
    (ran : Yields ((before ++ after).foldlM g b) s c u) :
    ∃ b' t, Yields (before.foldlM g b) s b' t ∧ Yields (after.foldlM g b') t c u := by
  rw [List.foldlM_append] at ran
  exact ran.of_bind

end Loops

end Effect
