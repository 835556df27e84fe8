import Mathlib
import Kukeon.ModelHub.Cell

/-! # The per-cell lock

`internal/controller/runner/cell_lock.go`. A section under `m.mu` is one step, since the map and the
counts are touched under it only; `e.mu` is taken and given back in steps of its own. A call of `lock`
is under way from the section that counts it in to the one, in its release, that counts it out.
-/

namespace Kukeon.Runner.CellLock

open ModelHub GoText

def identity (cell : Cell) : List String :=
  [trimSpace cell.spec.realmName, trimSpace cell.spec.spaceName, trimSpace cell.spec.stackName,
    trimSpace cell.metadata.name]

def cellLockKey (cell : Cell) : String := "\x00".intercalate (identity cell)

def NulFree (cell : Cell) : Prop := ∀ name ∈ identity cell, '\x00' ∉ name.toList

inductive Stage where
  | waiting
  | holding
  | leaving
  deriving DecidableEq

structure Call where
  cell : Cell
  entry : Nat
  stage : Stage

def Call.on (e : Nat) (c : Call) : Bool := c.entry = e

def Call.holds (e : Nat) (c : Call) : Bool := c.entry = e ∧ c.stage = .holding

/-- The manager, the mutex of each entry ever made, and the calls under way. -/
structure LockManager where
  locks : String → Option Nat := fun _ => none
  waiters : Nat → Nat := fun _ => 0
  locked : Nat → Bool := fun _ => false
  made : Nat := 0
  calls : List Call := []

namespace LockManager

def lock (m : LockManager) (cell : Cell) : LockManager :=
  match m.locks (cellLockKey cell) with
  | some e =>
    { m with
      waiters := Function.update m.waiters e (m.waiters e + 1)
      calls := ⟨cell, e, .waiting⟩ :: m.calls }
  | none =>
    { locks := Function.update m.locks (cellLockKey cell) (some m.made)
      waiters := Function.update m.waiters m.made 1
      locked := Function.update m.locked m.made false
      made := m.made + 1
      calls := ⟨cell, m.made, .waiting⟩ :: m.calls }

/-- The section under `m.mu` of the release. -/
def drop (m : LockManager) (c : Call) : LockManager :=
  { m with
    waiters := Function.update m.waiters c.entry (m.waiters c.entry - 1)
    locks := if m.waiters c.entry - 1 = 0 then Function.update m.locks (cellLockKey c.cell) none
      else m.locks }

end LockManager

/-- One goroutine takes one step; any of the calls under way may be the next. -/
inductive Step : LockManager → LockManager → Prop where
  | lock (m : LockManager) {cell : Cell} (nulFree : NulFree cell) : Step m (m.lock cell)
  | take {m : LockManager} {l r : List Call} {c : Call} (calls : m.calls = l ++ c :: r)
      (waits : c.stage = .waiting) (free : m.locked c.entry = false) :
      Step m { m with
        locked := Function.update m.locked c.entry true
        calls := l ++ { c with stage := .holding } :: r }
  | unlock {m : LockManager} {l r : List Call} {c : Call} (calls : m.calls = l ++ c :: r)
      (holds : c.stage = .holding) :
      Step m { m with
        locked := Function.update m.locked c.entry false
        calls := l ++ { c with stage := .leaving } :: r }
  | drop {m : LockManager} {l r : List Call} {c : Call} (calls : m.calls = l ++ c :: r)
      (leaves : c.stage = .leaving) : Step m { m.drop c with calls := l ++ r }

def Reachable (m : LockManager) : Prop := Relation.ReflTransGen Step {} m

/-- Counts, mutexes and the map say the same about the calls under way. -/
structure Sound (m : LockManager) : Prop where
  counted : ∀ e, m.waiters e = m.calls.countP (·.on e)
  held : ∀ e, m.calls.countP (·.holds e) = (m.locked e).toNat
  entered : ∀ c ∈ m.calls, m.locks (cellLockKey c.cell) = some c.entry
  nulFree : ∀ c ∈ m.calls, NulFree c.cell
  needed : ∀ key e, m.locks key = some e → e < m.made ∧ 0 < m.waiters e
  apart : ∀ key key' e, m.locks key = some e → m.locks key' = some e → key = key'

theorem cellLockKey_inj {a b : Cell} (hf : NulFree a) (hfb : NulFree b)
    (same : cellLockKey a = cellLockKey b) : identity a = identity b := by
  have parts : ∀ {cell}, NulFree cell →
      (cellLockKey cell).toList.splitOn '\x00' = (identity cell).map String.toList := by
    intro cell free
    simpa [cellLockKey] using List.splitOn_intercalate '\x00'
      (by simpa [NulFree] using free) (by simp [identity])
  refine List.map_injective_iff.mpr (fun _ _ => String.toList_injective) ?_
  rw [← parts hf, same, parts hfb]

theorem sound_lock {m : LockManager} (hs : Sound m) {cell : Cell} (hfr : NulFree cell) :
    Sound (m.lock cell) := by
  obtain ⟨hc, hhl, he, hnf, hn, ha⟩ := hs
  have hy : ∀ c ∈ m.calls, c.entry ≠ m.made := fun c hm =>
    (hn _ _ (he c hm)).1.ne
  have hf : m.calls.countP (·.on m.made) = 0 ∧ m.calls.countP (·.holds m.made) = 0 := by
    simpa [List.countP_eq_zero, Call.on, Call.holds] using
      ⟨hy, fun c hm hh => absurd hh (hy c hm)⟩
  unfold LockManager.lock
  cases hk : m.locks (cellLockKey cell) with
  | some e =>
    constructor <;>
      simp only [List.countP_cons, List.forall_mem_cons, Function.update_apply, hc] at * <;>
      grind [Call.on, Call.holds]
  | none =>
    constructor <;>
      simp only [List.countP_cons, List.forall_mem_cons, Function.update_apply, hc] at * <;>
      grind [Call.on, Call.holds]

/-- Taking and giving back a mutex move one call to another stage. -/
theorem sound_restage {m : LockManager} (hsn : Sound m) {l r : List Call} {c : Call}
    (hcl : m.calls = l ++ c :: r) {stage : Stage} {b : Bool}
    (hf : (l ++ r).countP (·.holds c.entry) + (if stage = .holding then 1 else 0) = b.toNat) :
    Sound { m with
      locked := Function.update m.locked c.entry b
      calls := l ++ { c with stage := stage } :: r } := by
  obtain ⟨hc, hh, he, hn, hnd, ha⟩ := hsn
  simp only [hcl, List.countP_append, List.countP_cons, List.forall_mem_append,
    List.forall_mem_cons] at hc hh he hn hf
  constructor <;> simp only [List.countP_append, List.countP_cons, List.forall_mem_append,
    List.forall_mem_cons]
  · exact hc
  · intro e
    have hhr := hh e
    by_cases hs : c.entry = e
    · subst hs
      simp [Call.holds] at *
      omega
    · rw [Function.update_of_ne (Ne.symm hs), ← hhr]
      simp [Call.holds, hs]
  · exact he
  · exact hn
  · exact hnd
  · exact ha

theorem sound_drop {m : LockManager} (hsn : Sound m) {l r : List Call} {c : Call}
    (hcl : m.calls = l ++ c :: r) (hl : c.stage = .leaving) :
    Sound { m.drop c with calls := l ++ r } := by
  obtain ⟨hc, hh, he, hn, hnd, ha⟩ := hsn
  have hlf : ∀ e, m.waiters e = (l ++ r).countP (·.on e) + if c.entry = e then 1 else 0 := by
    intro e
    simp [hc, hcl, Call.on, List.countP_append, List.countP_cons]
    omega
  have hr : ∀ d ∈ l ++ r, d ∈ m.calls := by simp +contextual [hcl, or_imp]
  have own := he c (by simp [hcl])
  have hs : ∀ key e, (m.drop c).locks key = some e →
      m.locks key = some e ∧ (e = c.entry → m.waiters e - 1 ≠ 0) := by
    intro key e hf
    simp only [LockManager.drop] at hf
    split at hf
    · by_cases hsm : key = cellLockKey c.cell <;> simp [hsm] at hf
      exact ⟨hf, fun hhr => absurd (ha _ _ _ hf (hhr ▸ own)) hsm⟩
    · exact ⟨hf, by rintro rfl; assumption⟩
  constructor
  · intro e
    have := hlf e
    simp only [LockManager.drop, Function.update_apply]
    grind
  · simpa [LockManager.drop, hcl, hl, Call.holds, List.countP_append, List.countP_cons] using hh
  · intro d hm
    have hmn := he d (hr d hm)
    simp only [LockManager.drop]
    split
    · -- the entry goes only with the last call on it, so `d` is on another one
      rw [Function.update_of_ne, hmn]
      intro hsm
      have on : d.entry = c.entry := Option.some.inj (by rw [← hmn, hsm, own])
      have hu : 0 < (l ++ r).countP (·.on c.entry) :=
        List.countP_pos_iff.mpr ⟨d, hm, by simp [Call.on, on]⟩
      have := hlf c.entry
      simp only [if_true] at this
      omega
    · exact hmn
  · exact fun d hm => hn d (hr d hm)
  · intro key e hf
    obtain ⟨old, hmr⟩ := hs key e hf
    have := hnd key e old
    simp only [LockManager.drop, Function.update_apply]
    grind
  · exact fun key key' e hf hfn => ha _ _ _ (hs _ _ hf).1 (hs _ _ hfn).1

theorem sound_step {m m' : LockManager} (hs : Sound m) (hst : Step m m') : Sound m' := by
  cases hst with
  | lock hf => exact sound_lock hs hf
  | @take l r c hc hw hf =>
    have hh := hs.held c.entry
    refine sound_restage hs hc ?_
    simp_all [List.countP_append, Call.holds]
  | @unlock l r c hc hhl =>
    have hh := hs.held c.entry
    have := Bool.toNat_le (m.locked c.entry)
    refine sound_restage hs hc ?_
    rw [hc, List.countP_append, List.countP_cons_of_pos (by simp [Call.holds, hhl])] at hh
    rw [List.countP_append]
    change _ + 0 = 0
    omega
  | drop hc hl => exact sound_drop hs hc hl

theorem Reachable.sound {m : LockManager} (hr : Reachable m) : Sound m := by
  induction hr with
  | refl => constructor <;> simp
  | tail _ hs ih => exact sound_step ih hs

/-- At most one call holds the lock of a cell, cells of different identity have different mutexes,
    the map has the entry every call under way is on, and with no call under way it is empty. -/
structure Exclusive (m : LockManager) : Prop where
  one : ∀ cell, m.calls.countP (fun c => identity c.cell = identity cell ∧ c.stage = .holding) ≤ 1
  apart : ∀ c ∈ m.calls, ∀ d ∈ m.calls, identity c.cell ≠ identity d.cell → c.entry ≠ d.entry
  kept : ∀ c ∈ m.calls, m.locks (cellLockKey c.cell) = some c.entry
  emptied : m.calls = [] → ∀ key, m.locks key = none

theorem exclusive_of_reachable {m : LockManager} (hr : Reachable m) : Exclusive m := by
  obtain ⟨hc, hhl, he, hn, hnd, ha⟩ := hr.sound
  refine ⟨fun cell => ?_, fun c hm d hmd ho hsm => ?_, he, fun hnn key => ?_⟩
  · let e := (m.locks (cellLockKey cell)).getD 0
    refine (List.countP_mono_left (q := (·.holds e)) fun c hmm => ?_).trans
      ((hhl e).trans_le (Bool.toNat_le _))
    intro hh
    have := he c hmm
    simp_all [Call.holds, e, cellLockKey]
  · have hs := ha _ _ _ (he c hm) (hsm ▸ he d hmd)
    exact ho (cellLockKey_inj (hn c hm) (hn d hmd) hs)
  · rcases hh : m.locks key with _ | e
    · rfl
    · have := (hnd key e hh).2
      simp_all

def second : Cell := { metadata := { name := "second" } }

/-- Two cells are locked, and the call on the second one is served and returns. -/
theorem release_reachable : ∃ m, Reachable m ∧ m.calls = [⟨{}, 0, .waiting⟩] ∧
    m.locks (cellLockKey {}) = some 0 ∧ m.locks (cellLockKey second) = none := by
  have both : Reachable ((LockManager.lock {} {}).lock second) :=
    (Relation.ReflTransGen.single (.lock _ (by unfold NulFree; decide))).tail
      (.lock _ (by unfold NulFree; decide))
  have taken := both.tail (.take (l := []) (c := ⟨second, 1, .waiting⟩) rfl rfl rfl)
  have unlocked := taken.tail (.unlock (l := []) rfl rfl)
  exact ⟨_, unlocked.tail (.drop (l := []) rfl rfl), rfl, rfl, rfl⟩

theorem exclusive_after_release : ∃ m, Reachable m ∧ m.calls = [⟨{}, 0, .waiting⟩] ∧
    m.locks (cellLockKey second) = none ∧ Exclusive m := by
  obtain ⟨m, hr, calls, _, gone⟩ := release_reachable
  exact ⟨m, hr, calls, gone, exclusive_of_reachable hr⟩

/-- The steps that a call still has before it. -/
def Call.remaining (c : Call) : Nat :=
  match c.stage with
  | .waiting => 3
  | .holding => 2
  | .leaving => 1

def LockManager.remaining (m : LockManager) : Nat := (m.calls.map Call.remaining).sum

/-- A step of a call that is under way. -/
def Turn (m m' : LockManager) : Prop := Step m m' ∧ m'.calls.length ≤ m.calls.length

theorem remaining_turn {m m' : LockManager} (ht : Turn m m') : m'.remaining < m.remaining := by
  obtain ⟨hst, hn⟩ := ht
  cases hst with
  | lock => grind [LockManager.lock]
  | take hc hs _ => simp [LockManager.remaining, hc, Call.remaining, hs]
  | unlock hc hs => simp [LockManager.remaining, hc, Call.remaining, hs]
  | drop hc hs => simp [LockManager.remaining, hc, Call.remaining, hs]

/-- If no call holds or leaves, every mutex is free and the first one can take its own. -/
theorem exists_turn {m : LockManager} (hs : Sound m) (hu : m.calls ≠ []) : ∃ m', Turn m m' := by
  by_cases hw : ∀ c ∈ m.calls, c.stage = .waiting
  · obtain ⟨c, rest, hc⟩ := List.exists_cons_of_ne_nil hu
    have hz : m.calls.countP (·.holds c.entry) = 0 := by
      simp +contextual [List.countP_eq_zero, Call.holds, hw]
    have hf : m.locked c.entry = false := by simpa [hz] using (hs.held c.entry).symm
    exact ⟨_, .take (l := []) hc (hw c (by simp [hc])) hf, by simp [hc]⟩
  · push Not at hw
    obtain ⟨c, hm, hn⟩ := hw
    obtain ⟨l, r, hc⟩ := List.append_of_mem hm
    cases hst : c.stage with
    | waiting => exact absurd hst hn
    | holding => exact ⟨_, .unlock hc hst, by simp [hc]⟩
    | leaving => exact ⟨_, .drop hc hst, by simp [hc]⟩

/-- Whatever the scheduler does, the calls under way return: their turns end, and where there is none
    left no call is under way and the map is empty. -/
theorem calls_return {m : LockManager} (hr : Reachable m) :
    Acc (fun next last => Turn last next) m ∧
      ((∀ next, ¬ Turn m next) → m.calls = [] ∧ ∀ key, m.locks key = none) := by
  refine ⟨Subrelation.accessible remaining_turn
    ((measure LockManager.remaining).wf.apply m), fun hn => ?_⟩
  have hi : m.calls = [] := by
    by_contra hu
    obtain ⟨next, ht⟩ := exists_turn hr.sound hu
    exact hn next ht
  refine ⟨hi, fun key => Option.eq_none_iff_forall_ne_some.mpr fun e hk => ?_⟩
  have hw := (hr.sound.needed key e hk).2
  simp [hr.sound.counted, hi] at hw

theorem calls_return_after_release : ∃ m, m.calls = [⟨{}, 0, .waiting⟩] ∧
    m.locks (cellLockKey {}) = some 0 ∧ m.locks (cellLockKey second) = none ∧
      Acc (fun next last => Turn last next) m := by
  obtain ⟨m, hr, calls, kept, gone⟩ := release_reachable
  exact ⟨m, calls, kept, gone, (calls_return hr).1⟩

end Kukeon.Runner.CellLock
