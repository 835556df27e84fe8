import Kukeon.Ctr.Client
import Kukeon.Lib.Runs

/-! # Whose task the client has cached

`internal/ctr/cache.go` with `CreateContainer`, `StartContainer`, `StopContainer` and
`DeleteContainer` of `internal/ctr/container.go`, at one key of the caches and what containerd has
under it. A task is the number of the container it was made in. A delete that fails to look up the
task still removes the container, and leaves the task in the cache for the next one.
-/

namespace Kukeon.Ctr.TaskCache

structure Entry where
  /-- The number of the last container that was made under the key. -/
  made : Nat := 0
  present : Bool := false
  task : Bool := false
  containers : Bool := false
  tasks : Option Nat := none

/-- How the calls of one operation go. A call that fails has no effect. -/
structure Faults where
  load : Option ContainerdError := none
  task : Option ContainerdError := none
  status : Except ContainerdError Status := .ok { status := .running }
  /-- The image or the spec options, or the signals and waits of a stop. -/
  prepare : Bool := false
  /-- `NewContainer`, or `NewTask` with its log directory. -/
  make : Bool := false
  start : Bool := false
  deleteTask : Bool := false
  cleanup : Bool := false
  /-- Containerd's own look for a task before it removes a container. -/
  check : Bool := false
  delete : Option ContainerdError := none

section Operations

variable (faults : Faults) (entry : Entry)

def answered {α : Type} (fault : Option ContainerdError) (there : Bool) (a : α) :
    Except ContainerdError α :=
  match fault with
  | some cause => .error cause
  | none => if there then .ok a else .error .notFound

def isRunning : Bool :=
  match faults.status with
  | .ok report => report.status = .running
  | .error _ => false

def loadContainer : Except ContainerdError Entry :=
  if entry.containers then .ok entry
  else answered faults.load entry.present { entry with containers := true }

/-- `container.Task`. -/
def lookupTask : Except ContainerdError Nat :=
  answered faults.task (entry.present && entry.task) entry.made

def loadTask : Except ContainerdError Nat × Entry :=
  match entry.tasks with
  | some task => (.ok task, entry)
  | none =>
    match loadContainer faults entry with
    | .error cause => (.error cause, entry)
    | .ok entry =>
      match lookupTask faults entry with
      | .error cause => (.error cause, entry)
      | .ok task => (.ok task, { entry with tasks := some task })

def createContainer : Entry :=
  if faults.load = none ∧ entry.present then entry
  else if faults.prepare || faults.make || entry.present then entry
  else { entry with made := entry.made + 1, present := true, task := false, containers := true }

/-- `task.Delete`, after which the task is dropped from the cache however it went. -/
def discardTask : Entry :=
  { entry with task := entry.task && faults.deleteTask, tasks := none }

/-- `StartContainer` from `NewTask` on. -/
def launch : Entry :=
  if faults.make || !entry.present || entry.task then entry
  else if faults.start then { entry with task := faults.cleanup }
  else { entry with task := true, tasks := some entry.made }

def startContainer : Entry :=
  match loadContainer faults entry with
  | .error _ => entry
  | .ok entry =>
    if faults.prepare then entry
    else
      match lookupTask faults entry with
      | .error _ => launch faults entry
      | .ok task =>
        if isRunning faults then { entry with tasks := some task }
        else launch faults (discardTask faults entry)

def stopContainer : Entry :=
  match loadTask faults entry with
  | (.error _, entry) => entry
  | (.ok _, entry) =>
    if isRunning faults && !faults.prepare then discardTask faults entry else entry

/-- `container.Delete`, which refuses a container whose task it finds. -/
def removal : Except ContainerdError Unit :=
  if entry.present && entry.task && !faults.check then .error (.other "failed precondition")
  else answered faults.delete entry.present ()

/-- `DeleteContainer` from `container.Delete` on. -/
def removeContainer : Entry :=
  match removal faults entry with
  | .error .notFound => { entry with containers := false }
  | .error _ => entry
  | .ok _ => { entry with present := false, task := false, containers := false }

def deleteContainer : Entry :=
  match loadContainer faults entry with
  | .error _ => entry
  | .ok entry =>
    match lookupTask faults entry with
    | .error _ => removeContainer faults entry
    | .ok _ => removeContainer faults (discardTask faults entry)

end Operations

inductive Operation where
  | create
  | start
  | stop
  | delete
  | status
  deriving DecidableEq

structure Call where
  operation : Operation
  ns : String
  id : String
  faults : Faults := {}

def Call.act (call : Call) (entry : Entry) : Entry :=
  match call.operation with
  | .create => createContainer call.faults entry
  | .start => startContainer call.faults entry
  | .stop => stopContainer call.faults entry
  | .delete => deleteContainer call.faults entry
  | .status => (loadTask call.faults entry).2

def Call.key (call : Call) : String := cacheKey call.ns call.id

/-- The caches and containerd, by key. -/
abbrev Machine := String → Entry

def step (m : Machine) (call : Call) : Machine :=
  if call.id = "" then m else Function.update m call.key (call.act (m call.key))

/-- A cached task was made in the container that is there. -/
def Entry.Fits (entry : Entry) : Prop :=
  ∀ task, entry.tasks = some task → entry.present = true ∧ task = entry.made

def Current (m : Machine) : Prop := ∀ key, (m key).Fits

/-- Unless the lookup finds it, the container that a delete removes has no cached task. -/
def Careful (m : Machine) (call : Call) : Prop :=
  call.id ≠ "" → call.operation = .delete → (loadContainer call.faults (m call.key)).isOk = true →
    removal call.faults (m call.key) = .ok () →
    (lookupTask call.faults (m call.key)).isOk = false → (m call.key).tasks = none

section Steps

variable {faults : Faults} {entry loaded : Entry} {m : Machine} {call : Call}

theorem answered_eq_ok {α : Type} {fault : Option ContainerdError} {there : Bool} {a b : α} :
    answered fault there a = .ok b ↔ fault = none ∧ there = true ∧ a = b := by
  unfold answered
  grind

theorem loadContainer_eq_ok (hl : loadContainer faults entry = .ok loaded) :
    loaded = { entry with containers := true } := by
  unfold loadContainer at hl
  split at hl
  · next cached =>
    cases hl
    rw [← cached]
  · exact (answered_eq_ok.mp hl).2.2.symm

theorem lookupTask_eq_ok {task : Nat} (hf : lookupTask faults entry = .ok task) :
    entry.present = true ∧ task = entry.made := by
  obtain ⟨-, there, same⟩ := answered_eq_ok.mp hf
  exact ⟨(Bool.and_eq_true_iff.mp there).1, same.symm⟩

variable (hc : entry.Fits)

include hc

theorem createContainer_fits : (createContainer faults entry).Fits := by
  unfold createContainer
  grind [Entry.Fits]

theorem launch_fits : (launch faults entry).Fits := by
  unfold launch
  grind [Entry.Fits]

theorem startContainer_fits : (startContainer faults entry).Fits := by
  unfold startContainer
  grind [Entry.Fits, launch_fits, discardTask, loadContainer_eq_ok, lookupTask_eq_ok]

theorem loadTask_fits : (loadTask faults entry).2.Fits := by
  unfold loadTask
  grind [Entry.Fits, loadContainer_eq_ok, lookupTask_eq_ok]

theorem stopContainer_fits : (stopContainer faults entry).Fits := by
  have loaded : (loadTask faults entry).2.Fits := loadTask_fits hc
  unfold stopContainer
  grind [Entry.Fits, discardTask]

theorem removeContainer_fits_iff :
    (removeContainer faults entry).Fits ↔
      (removal faults entry = .ok () → entry.tasks = none) := by
  unfold removeContainer
  split
  · next failed => exact iff_of_true hc (by simp [failed])
  · next failed => exact iff_of_true hc (by simp [failed])
  · next removed =>
    -- With the container gone, no task is one of its own.
    simp [removed, Entry.Fits, Option.eq_none_iff_forall_ne_some]

theorem deleteContainer_fits_iff :
    (deleteContainer faults entry).Fits ↔
      ((loadContainer faults entry).isOk = true → removal faults entry = .ok () →
        (lookupTask faults entry).isOk = false → entry.tasks = none) := by
  unfold deleteContainer
  cases hl : loadContainer faults entry with
  | error cause => exact iff_of_true hc nofun
  | ok loaded =>
    cases loadContainer_eq_ok hl
    have held : Entry.Fits { entry with containers := true } := hc
    have same : lookupTask faults { entry with containers := true } = lookupTask faults entry := rfl
    dsimp only
    rw [same]
    cases lookupTask faults entry with
    | error cause =>
      refine (removeContainer_fits_iff held).trans ?_
      exact ⟨fun removed _ done _ => removed done, fun removed done => removed rfl done rfl⟩
    | ok task =>
      refine iff_of_true ((removeContainer_fits_iff ?_).mpr fun _ => rfl) nofun
      intro _ cached
      cases cached

omit hc in
theorem step_current_iff (hc : Current m) : Current (step m call) ↔ Careful m call := by
  have kept : Current (Function.update m call.key (call.act (m call.key))) ↔
      (call.act (m call.key)).Fits := by
    constructor
    · intro held
      simpa using held call.key
    · intro held key
      by_cases same : key = call.key
      · subst same
        simpa using held
      · simpa [Function.update_of_ne same] using hc key
  unfold step Careful
  split
  · next blank => exact iff_of_true hc fun named => absurd blank named
  · next named =>
    rw [kept, Call.act]
    cases call.operation with
    | create => simpa using createContainer_fits (hc _)
    | start => simpa using startContainer_fits (hc _)
    | stop => simpa using stopContainer_fits (hc _)
    | delete => simpa [named] using deleteContainer_fits_iff (hc _)
    | status => simpa using loadTask_fits (hc _)

end Steps

/-- Over every sequence of operations of a client that starts with no task cached, no cached task is
    one of another container than the one that is there, exactly if every delete is careful. -/
theorem cached_tasks_current_iff (m : Machine) (calls : List Call)
    (fresh : ∀ key, (m key).tasks = none) :
    (∀ done rest, calls = done ++ rest → Current (Runs.run step m done)) ↔
      Runs.Along step Careful m calls := by
  have start : Current m := fun key task cached => by simp [fresh key] at cached
  constructor
  · intro held done call rest split
    have after := held (done ++ [call]) rest (by simp [split])
    rw [Runs.run_concat] at after
    exact (step_current_iff (held done (call :: rest) split)).mp after
  · exact fun careful => careful.invariant (fun _ _ held => (step_current_iff held).mpr) start

/-- A container is made, started, deleted and made again under the same identifier. -/
def replaced (delete : Faults) : List Call :=
  [⟨.create, "main", "web", {}⟩, ⟨.start, "main", "web", {}⟩, ⟨.delete, "main", "web", delete⟩,
    ⟨.create, "main", "web", {}⟩]

theorem replaced_current :
    Runs.Along step Careful (fun _ => {}) (replaced {}) ∧
      ∀ done rest, replaced {} = done ++ rest → Current (Runs.run step (fun _ => {}) done) := by
  have careful : Runs.Along step Careful (fun _ => {}) (replaced {}) := by
    simp only [replaced, Runs.along_cons, Runs.Along.nil, and_true]
    refine ⟨?_, ?_, ?_, ?_⟩ <;> (unfold Careful; decide +kernel)
  exact ⟨careful, (cached_tasks_current_iff _ _ fun _ => rfl).mpr careful⟩

/-- Containerd does not answer while the task is looked up: the second container is served the task
    of the first. -/
theorem stale_task_served :
    ∃ entry, entry = Runs.run step (fun _ => {})
        (replaced { task := some .unavailable, check := true }) (cacheKey "main" "web") ∧
      entry.present = true ∧ entry.made = 2 ∧ (loadTask {} entry).1 = .ok 1 := by
  refine ⟨_, rfl, ?_⟩
  decide +kernel

end Kukeon.Ctr.TaskCache
