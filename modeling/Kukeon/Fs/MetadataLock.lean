import Kukeon.Lib.Runs

/-! # The lock of a metadata file

`internal/metadata/lock.go` and `metadata.go`: writes, compare-and-swaps and deletes of one file lock
its sidecar. A call opens the sidecar under its path and then waits for the flock of the inode it has
opened; a delete unlinks the path while it holds the flock. Each step of each call is an event, and
processes take them in any order.
-/

namespace Kukeon.Fs.MetadataLock

abbrev Bytes := List UInt8

inductive Job where
  | write (doc : Bytes)
  | cas (prior doc : Bytes)
  | delete
  deriving DecidableEq

/-- How far a call has come; from `locked` on it is inside the section. -/
inductive Stage where
  | opened
  | locked
  | compared
  | changed
  | unlinked
  deriving DecidableEq

structure Call where
  job : Job
  inode : Nat
  stage : Stage
  deriving DecidableEq

/-- The file, the inode its sidecar has under the path, who holds the flock of each inode, and the
    call each process is in. -/
structure Files where
  data : Option Bytes
  sidecar : Option Nat := none
  made : Nat := 0
  flocks : Nat → Option Nat := fun _ => none
  calls : Nat → Option Call := fun _ => none

inductive Event where
  | acquire (p : Nat) (job : Job)
  | flock (p : Nat)
  | compare (p : Nat)
  | change (p : Nat)
  | unlink (p : Nat)
  | release (p : Nat)

def Files.put (f : Files) (p : Nat) (call : Option Call) : Files :=
  { f with calls := Function.update f.calls p call }

def step (f : Files) : Event → Files
  | .acquire p job =>
    -- a delete of a file that is not there returns before the lock
    if f.calls p ≠ none ∨ job = .delete ∧ f.data = none then f
    else
      match f.sidecar with
      | some inode => f.put p (some ⟨job, inode, .opened⟩)
      | none =>
        { f with sidecar := some f.made, made := f.made + 1 }.put p (some ⟨job, f.made, .opened⟩)
  | .flock p =>
    match f.calls p with
    | some ⟨job, inode, .opened⟩ =>
      if f.flocks inode = none then
        { f with flocks := Function.update f.flocks inode (some p) }.put p
          (some ⟨job, inode, .locked⟩)
      else f
    | _ => f
  | .compare p =>
    match f.calls p with
    | some ⟨.cas prior doc, inode, .locked⟩ =>
      if f.data.getD [] = prior then f.put p (some ⟨.cas prior doc, inode, .compared⟩)
      else f.put p (some ⟨.cas prior doc, inode, .changed⟩)
    | _ => f
  | .change p =>
    match f.calls p with
    | some ⟨.write doc, inode, .locked⟩ =>
      { f with data := some doc }.put p (some ⟨.write doc, inode, .changed⟩)
    | some ⟨.cas prior doc, inode, .compared⟩ =>
      { f with data := some doc }.put p (some ⟨.cas prior doc, inode, .changed⟩)
    | some ⟨.delete, inode, .locked⟩ =>
      { f with data := none }.put p (some ⟨.delete, inode, .changed⟩)
    | _ => f
  | .unlink p =>
    match f.calls p with
    | some ⟨.delete, inode, .changed⟩ =>
      { f with sidecar := none }.put p (some ⟨.delete, inode, .unlinked⟩)
    | _ => f
  | .release p =>
    -- a call that fails inside the section releases too
    match f.calls p with
    | some ⟨_, _, .opened⟩ => f
    | some call => { f with flocks := Function.update f.flocks call.inode none }.put p none
    | none => f

/-- At most one process is inside the section, and a compare-and-swap that is about to write still
    finds the bytes it was given. -/
structure Exclusive (f : Files) : Prop where
  one : ∀ p q c d, f.calls p = some c → f.calls q = some d → c.stage ≠ .opened →
    d.stage ≠ .opened → p = q
  fresh : ∀ p inode prior doc, f.calls p = some ⟨.cas prior doc, inode, .compared⟩ →
    f.data.getD [] = prior

/-- No other call has the sidecar open when it is unlinked, and none opens it until the delete that
    has unlinked it returns. -/
def Undisturbed (f : Files) : Event → Prop
  | .acquire _ _ => ∀ q c, f.calls q = some c → c.stage ≠ .unlinked
  | .unlink p => ∀ q, q ≠ p → f.calls q = none
  | _ => True

structure Guarded (f : Files) : Prop where
  path : ∀ p c, f.calls p = some c → c.stage ≠ .unlinked → f.sidecar = some c.inode
  alone : ∀ p c, f.calls p = some c → c.stage = .unlinked → ∀ q, q ≠ p → f.calls q = none
  held : ∀ p c, f.calls p = some c → c.stage ≠ .opened → f.flocks c.inode = some p
  fresh : ∀ p inode prior doc, f.calls p = some ⟨.cas prior doc, inode, .compared⟩ →
    f.data.getD [] = prior

theorem Guarded.one {f : Files} (hg : Guarded f) {p q : Nat} {c d : Call}
    (hp : f.calls p = some c) (hq : f.calls q = some d) (hc : c.stage ≠ .opened)
    (hd : d.stage ≠ .opened) : p = q := by
  by_cases hu : c.stage = .unlinked
  · by_contra hn
    simp [hg.alone p c hp hu q (Ne.symm hn)] at hq
  by_cases hv : d.stage = .unlinked
  · by_contra hn
    simp [hg.alone q d hq hv p hn] at hp
  have hi : c.inode = d.inode :=
    Option.some.inj ((hg.path p c hp hu).symm.trans (hg.path q d hq hv))
  exact Option.some.inj ((hg.held p c hp hc).symm.trans (hi ▸ hg.held q d hq hd))

theorem guarded_step {f : Files} {e : Event} (hg : Guarded f) (hu : Undisturbed f e) :
    Guarded (step f e) := by
  have one := @hg.one
  have ⟨hp, ha, hh, hf⟩ := hg
  cases e with
  | acquire p job =>
    simp only [Undisturbed, step] at *
    split
    · exact hg
    · split <;> constructor <;> simp only [Files.put, Function.update_apply] <;> grind
  | flock p =>
    simp only [step]
    split
    · split
      · constructor <;> simp only [Files.put, Function.update_apply] <;> grind
      · exact hg
    · exact hg
  | compare p =>
    simp only [step]
    split
    · split <;> constructor <;> simp only [Files.put, Function.update_apply] <;> grind
    · exact hg
  | change p =>
    -- the writer is inside, so no other call is between its comparison and its write
    simp only [step]
    split
    iterate 3 constructor <;> simp only [Files.put, Function.update_apply] <;> grind
    exact hg
  | unlink p =>
    simp only [Undisturbed, step] at *
    split
    · constructor <;> simp only [Files.put, Function.update_apply] <;> grind
    · exact hg
  | release p =>
    simp only [step]
    split
    · exact hg
    · next call hin _ =>
      have hi : call.stage ≠ .opened := fun ho => hin call.job call.inode (by rw [← ho])
      constructor <;> simp only [Files.put, Function.update_apply] <;> grind
    · exact hg

/-- Along every run in which no call disturbs a delete, wherever the file began. -/
theorem exclusive_along {data : Option Bytes} {sidecar : Option Nat} {made : Nat}
    {events : List Event}
    (undisturbed : Runs.Along step Undisturbed { data, sidecar, made } events) :
    ∀ done rest, events = done ++ rest →
      Exclusive (Runs.run step { data, sidecar, made } done) := by
  intro done rest hs
  have hst : Guarded { data, sidecar, made } := by constructor <;> simp
  have hg := undisturbed.invariant (fun _ _ => guarded_step) hst done rest hs
  exact ⟨fun _ _ _ _ => hg.one, hg.fresh⟩

/-- A compare-and-swap and a delete of two processes, then a write of a third. -/
def swapThenDelete : List Event :=
  [.acquire 0 (.cas [1] [2]), .flock 0, .acquire 1 .delete, .flock 1, .compare 0, .change 0,
    .release 0, .flock 1, .change 1, .unlink 1, .release 1, .acquire 2 (.write [3]), .flock 2]

/-- While the first process is about to write, the second one waits for the flock. -/
theorem exclusive_swapThenDelete :
    let f := Runs.run step { data := some [1], sidecar := none, made := 0 } (swapThenDelete.take 5)
    f.calls 0 = some ⟨.cas [1] [2], 0, .compared⟩ ∧ f.calls 1 = some ⟨.delete, 0, .opened⟩ ∧
      Exclusive f ∧
      Exclusive (Runs.run step { data := some [1], sidecar := none, made := 0 } swapThenDelete) := by
  have along : Runs.Along step Undisturbed { data := some [1], sidecar := none, made := 0 }
      swapThenDelete := by
    simp +contextual [swapThenDelete, Runs.along_cons, Undisturbed, step, Files.put, Runs.Along.nil,
      Function.update_apply]
  exact ⟨by decide, by decide, exclusive_along along _ _ (List.take_append_drop 5 _).symm,
    exclusive_along along _ [] rfl⟩

/-- A writer waits while the file is deleted; it then holds the flock of an inode no path leads to,
    and a compare-and-swap takes the flock of a new sidecar beside it. -/
def deletedUnder : List Event :=
  [.acquire 0 .delete, .flock 0, .acquire 1 (.write [1]), .change 0, .unlink 0, .release 0, .flock 1,
    .acquire 2 (.cas [] [2]), .flock 2, .compare 2, .change 1]

theorem deletedUnder_not_exclusive :
    let f := Runs.run step { data := some [0], sidecar := some 0, made := 1 } deletedUnder
    f.calls 1 = some ⟨.write [1], 0, .changed⟩ ∧ f.calls 2 = some ⟨.cas [] [2], 1, .compared⟩ ∧
      f.data = some [1] ∧ ¬ Exclusive f := by
  have one : (Runs.run step { data := some [0], sidecar := some 0, made := 1 } deletedUnder).calls 1 =
      some ⟨.write [1], 0, .changed⟩ := by decide
  have two : (Runs.run step { data := some [0], sidecar := some 0, made := 1 } deletedUnder).calls 2 =
      some ⟨.cas [] [2], 1, .compared⟩ := by decide
  refine ⟨one, two, by decide, fun he => ?_⟩
  exact absurd (he.one 1 2 _ _ one two (by decide) (by decide)) (by decide)

end Kukeon.Fs.MetadataLock
