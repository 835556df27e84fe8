import Kukeon.Runner.CleanRecord
import Kukeon.Runner.Convergence
import Kukeon.Runner.ExitRecord

/-! # A crash of the root container

In a cell without workloads the root decides, and a tick reads it twice: once for its status, where
the exit is recorded, and once more for the state that is derived. Between the two reads the task may
end or be started anew. The derivation takes the exit from the status, so that it sees a crash only if
the first read saw it or the record already held it.
-/

namespace Kukeon.Runner

open ModelHub ApiScheme Effect Std.Do

set_option mvcgen.warning false

structure RootOnly (cell : Cell) (root : ContainerSpec) : Prop where
  only : cell.spec.containers = [root]
  isRoot : root.root = true

/-- When the container ended and with which code, as the statuses have it. -/
def exitOnRecord (statuses : List ContainerStatus) (containerID : String) : Time × Int :=
  (lifeOnRecord statuses containerID).exit

/-- What the last read of the root in a tick gives. Without knowledge of the cgroup no state is
    derived from the root, and it is not read again. -/
def lastRootRead (inputs : TickInputs) (second : Except RunnerError ContainerObservation) :
    Except RunnerError ContainerObservation :=
  match inputs.cgroup with
  | .error _ => inputs.survey.observation 0
  | .ok _ => second

/-- The first read of the root finds it down with that exit, or with none where the exit is on record
    already. -/
structure SeenAtFirst (inputs : TickInputs) (cell : Cell) (root : ContainerSpec)
    (exit : Time × Int) : Prop where
  checked : inputs.cgroup.toOption.isSome = true
  down : (inputs.survey.seen 0).state ≠ .ready
  shown : (inputs.survey.seen 0).exitTime ≠ 0 →
    ((inputs.survey.seen 0).exitTime, (inputs.survey.seen 0).exitCode) = exit
  onRecord : (inputs.survey.seen 0).exitTime = 0 →
    exitOnRecord cell.status.containers root.id = exit

/-- The tick takes the exit of the root for a crash: it derives an error, the exit is on record in
    the cell it returns and in what it writes, and the cell is not reaped. -/
structure CrashKept (inputs : TickInputs) (cell : Cell) (root : ContainerSpec) (before : CellHost)
    (exit : Time × Int) : Prop where
  derived : (finalState (reconcileCell inputs cell) before).derived = some .error
  computed : exitOnRecord (tickCell inputs before.now cell).status.containers root.id = exit
  returned : ∀ passed, ending (reconcileCell inputs cell) before = .ok passed →
    passed.1.status.state = .error ∧ exitOnRecord passed.1.status.containers root.id = exit
  written : ∀ passed, ending (reconcileCell inputs cell) before = .ok passed →
    passed.2.updated = true → ∃ doc, (finalState (reconcileCell inputs cell) before).disk = some doc ∧
      doc.status.state = .error ∧ exitOnRecord doc.status.containers root.id = exit
  kept : ¬ Reaps (finalState (reconcileCell inputs cell) { before with trace := [] }).trace

namespace RootOnly

variable {cell : Cell} {root : ContainerSpec} (rootOnly : RootOnly cell root)
include rootOnly

theorem noWorkload : hasNonRootContainerSpec cell.spec.containers = false := by
  unfold hasNonRootContainerSpec
  rw [rootOnly.only]
  simp [rootOnly.isRoot]

theorem findRoot : findRootContainerSpec cell.spec = some root := by
  unfold findRootContainerSpec
  rw [rootOnly.only]
  simp [rootOnly.isRoot]

theorem populated (now : Time) (survey : Survey) :
    (populateCellContainerStatuses now survey cell).status.containers =
      [populatedStatus now survey cell.status.containers 0 root] := by
  unfold populateCellContainerStatuses
  rw [rootOnly.only]
  rfl

theorem exit_populated (now : Time) (survey : Survey) :
    exitOnRecord (populateCellContainerStatuses now survey cell).status.containers root.id =
      exitAfter (exitOnRecord cell.status.containers root.id) (survey.seen 0) := by
  have hd : root.id ∈ cell.spec.containers.map ContainerSpec.id := by
    rw [rootOnly.only]
    simp
  have hl := lifeOnRecord_populatePass hd (now, survey)
  rw [observedIn, rootOnly.only] at hl
  exact congrArg ContainerLife.exit hl

theorem maybeRestart (starts : Nat → StartInputs) :
    maybeRestartExitedContainers starts cell = pure (cell, .restartNone) := by
  unfold maybeRestartExitedContainers
  split
  · rfl
  · split
    · rfl
    · rw [rootOnly.only]
      show restartTurns starts cell.status.containers [0] cell .restartNone = _
      have hf : cell.spec.containers[0]? = some root := by rw [rootOnly.only]; rfl
      unfold restartTurns restartTurn
      simp only [hf, rootOnly.isRoot]
      rfl

theorem settleCell (inputs : TickInputs) (original : CellStatus)
    (up : cell.status.state ≠ .exited) :
    settleCell inputs original cell = persistIf (statusChanged original cell) cell := by
  unfold Runner.settleCell
  rw [rootOnly.maybeRestart]
  show reapOrPersist inputs original cell.status.state cell = _
  unfold reapOrPersist shouldAutoDeleteCell shouldWindDownCell cellStateAutoDeleteTriggers
  simp [up]

/-- A second read that finds the root down derives an error if a failure is on record. -/
theorem derived_error {inputs : TickInputs} {now : Time} {exists_ : Bool}
    (hc : inputs.cgroup = .ok exists_) (hs : inputs.rootState = .ok .error)
    (hf : (exitOnRecord (populateCellContainerStatuses now inputs.survey cell).status.containers
      root.id).2 ≠ 0) :
    derivedState inputs (populateCellContainerStatuses now inputs.survey cell) = .error := by
  have hfn : findRootContainerSpec (populateCellContainerStatuses now inputs.survey cell).spec =
      some root := rootOnly.findRoot
  have ha : hasNonRootContainerSpec
      (populateCellContainerStatuses now inputs.survey cell).spec.containers = false :=
    rootOnly.noWorkload
  have hcr : rootContainerExitedNonZero root.id
      (populateCellContainerStatuses now inputs.survey cell).status.containers = true := by
    rw [rootOnly.populated] at hf ⊢
    unfold exitOnRecord lifeOnRecord at hf
    rw [Keyed.find_cons, if_pos populatedStatus_id] at hf
    unfold rootContainerExitedNonZero
    rw [List.find?_cons_of_pos (by simp [populatedStatus_id])]
    simp only [containerExitedNonZero, Bool.or_eq_true, decide_eq_true_eq]
    exact .inr hf
  unfold derivedState deriveCellState deriveCellStateFromRootContainer
  simp [hc, hs, hfn, ha, hcr, containerStateIsActive, containerStateIsTerminal]

end RootOnly

theorem reported_crash {report : Ctr.Status} (hs : report.status = .stopped)
    (hn : report.exitStatus ≠ 0) :
    (reported report).state = .error ∧ (reported report).exitCode ≠ 0 := by
  constructor
  · unfold reported Ctr.convertContainerdStatusToContainerState
    rw [hs]
    simp [hn]
  · intro hz
    have hnz : report.exitStatus.toNat = 0 := Int.ofNat_eq_zero.mp hz
    exact hn (UInt32.toNat_inj.mp hnz)

section Tick

theorem persistIf_derived (changed : Bool) (cell : Cell) (start : CellHost) :
    (finalState (persistIf changed cell) start).derived = start.derived := by
  have hw := of_triple (persistIf_writes changed cell start) rfl
  cases he : ending (persistIf changed cell) start with
  | ok passed => exact (hw.1 passed he).1
  | error err => exact hw.2 err he

theorem reconcileSticky_apply (survey : Survey) (cell : Cell) (host : CellHost) :
    reconcileSticky survey cell host =
      persistIf (!containerStatusesEqual cell.status.containers
          (populateCellContainerStatuses host.now survey cell).status.containers ||
          observedGenerationBehind cell.status cell.metadata.generation)
        (populateCellContainerStatuses host.now survey cell) host :=
  rfl

variable {inputs : TickInputs} {cell : Cell} {root : ContainerSpec} {before : CellHost}

theorem settles_of_derived
    (hd : (finalState (reconcileCell inputs cell) before).derived ≠ none) :
    cellStateIsSticky cell.status.state = false ∧
      ∃ healed, SameWork cell healed ∧
        (reconcileCell inputs cell) before =
          (settleCell inputs cell.status (deriveStatus inputs before.now cell.status healed))
            (settlingHost inputs cell healed { before with derived := none }) := by
  rcases reconcileCell_course inputs cell before with ⟨-, hg⟩ | ⟨-, hst⟩ |
    ⟨hs, healed, -, hw, run⟩
  · rw [show finalState (reconcileCell inputs cell) before = _ from congrArg Prod.snd hg] at hd
    exact absurd rfl hd
  · rw [(same_run hst).2, (same_run (reconcileSticky_apply ..)).2, persistIf_derived] at hd
    exact absurd rfl hd
  · exact ⟨hs, healed, hw, run⟩

theorem exitOnRecord_writtenStatus (now : Time) (written : Cell) (containerID : String) :
    exitOnRecord (writtenStatus now written).containers containerID =
      exitOnRecord written.status.containers containerID := by
  have he : (writtenStatus now written).containers.map
      (fun status => (status.id, (lifeOf status).exit)) =
        written.status.containers.map fun status => (status.id, (lifeOf status).exit) := by
    simp only [writtenStatus, statusWithoutSetup, stampCellLifecycle, List.map_map]
    rfl
  exact Keyed.getD_find_congr (fun status => (lifeOf status).exit) he {}

variable {exit : Time × Int}

theorem SeenAtFirst.exitAfter_eq (hs : SeenAtFirst inputs cell root exit) :
    exitAfter (exitOnRecord cell.status.containers root.id) (inputs.survey.seen 0) = exit := by
  unfold exitAfter
  rw [if_neg hs.down]
  split
  next he => exact hs.shown he
  next hn => exact hs.onRecord (not_not.mp hn)

theorem seenAtFirst_of_exitAfter (hf : exit.2 ≠ 0)
    (hc : inputs.cgroup.toOption.isSome = true)
    (ha : exitAfter (exitOnRecord cell.status.containers root.id) (inputs.survey.seen 0) = exit) :
    SeenAtFirst inputs cell root exit := by
  unfold exitAfter at ha
  split at ha
  next up =>
    rw [← ha] at hf
    exact absurd rfl hf
  next hd =>
    split at ha
    next he => exact ⟨hc, hd, fun _ => ha, fun hn => absurd hn he⟩
    next hn =>
      exact ⟨hc, hd, fun he => absurd he hn, fun _ => ha⟩

/-- Whatever the heal of the cgroup has changed, the tick derives an error from a crash that it has
    seen. -/
theorem SeenAtFirst.derives_error (hsn : SeenAtFirst inputs cell root exit)
    (rootOnly : RootOnly cell root) (hs : inputs.rootState = .ok .error) (hf : exit.2 ≠ 0)
    (now : Time) {healed : Cell} (hw : SameWork cell healed) :
    derivedState inputs (populateCellContainerStatuses now inputs.survey healed) = .error := by
  have ha : RootOnly healed root := ⟨by rw [hw.1]; exact rootOnly.only, rootOnly.isRoot⟩
  obtain ⟨exists_, hc⟩ : ∃ exists_, inputs.cgroup = .ok exists_ := by
    have hc := hsn.checked
    cases hch : inputs.cgroup with
    | ok exists_ => exact ⟨exists_, rfl⟩
    | error text =>
      rw [hch] at hc
      cases hc
  refine ha.derived_error hc hs ?_
  rw [ha.exit_populated, hw.2.1, hsn.exitAfter_eq]
  exact hf

theorem computed_exit (rootOnly : RootOnly cell root) (now : Time) :
    exitOnRecord (tickCell inputs now cell).status.containers root.id =
      exitAfter (exitOnRecord cell.status.containers root.id) (inputs.survey.seen 0) := by
  rw [tickCell, deriveStatus_containers]
  exact rootOnly.exit_populated now inputs.survey

/-- Unless it finds the cell exited, a tick that derives a state ends with a write. -/
theorem writes_of_derived (rootOnly : RootOnly cell root)
    (hd : (finalState (reconcileCell inputs cell) before).derived ≠ none) :
    ∃ healed, SameWork cell healed ∧
      ((deriveStatus inputs before.now cell.status healed).status.state ≠ .exited →
        (reconcileCell inputs cell) before =
          persistIf
            (statusChanged cell.status (deriveStatus inputs before.now cell.status healed))
            (deriveStatus inputs before.now cell.status healed)
            (settlingHost inputs cell healed { before with derived := none })) := by
  obtain ⟨-, healed, hw, run⟩ := settles_of_derived hd
  have ha : RootOnly (deriveStatus inputs before.now cell.status healed) root :=
    ⟨by rw [deriveStatus_spec, hw.1]; exact rootOnly.only, rootOnly.isRoot⟩
  refine ⟨healed, hw, ?_⟩
  intro up
  exact run.trans (congrFun (ha.settleCell inputs cell.status up) _)

theorem seen_of_crashKept (rootOnly : RootOnly cell root) (hf : exit.2 ≠ 0)
    (hdr : (finalState (reconcileCell inputs cell) before).derived ≠ none)
    (hk : CrashKept inputs cell root before exit) : SeenAtFirst inputs cell root exit := by
  obtain ⟨healed, hwr, hw⟩ := writes_of_derived rootOnly hdr
  refine seenAtFirst_of_exitAfter hf ?_
    ((computed_exit rootOnly before.now).symm.trans hk.computed)
  cases hc : inputs.cgroup with
  | ok exists_ => rfl
  | error text =>
    have hu : (deriveStatus inputs before.now cell.status healed).status.state =
        .unknown := by
      rw [deriveStatus_state]
      unfold derivedState
      rw [hc]
    have hd := hk.derived
    rw [(same_run (hw (by rw [hu]; decide))).2, persistIf_derived] at hd
    exact absurd (hu.symm.trans (Option.some.inj hd)) (by decide)

theorem crashKept_of_seen (rootOnly : RootOnly cell root) (hsc : inputs.rootState = .ok .error)
    (hf : exit.2 ≠ 0) (hd : (finalState (reconcileCell inputs cell) before).derived ≠ none)
    (hsn : SeenAtFirst inputs cell root exit) : CrashKept inputs cell root before exit := by
  obtain ⟨healed, hwr, hw⟩ := writes_of_derived rootOnly hd
  have hsa : (deriveStatus inputs before.now cell.status healed).status.state = .error := by
    rw [deriveStatus_state]
    exact hsn.derives_error rootOnly hsc hf before.now hwr
  have hc := (computed_exit rootOnly before.now).trans hsn.exitAfter_eq
  have hex := hc
  rw [← (samePass_derived inputs before.now hwr).containers] at hex
  have hed := hw (by rw [hsa]; decide)
  have hs := of_triple (persistIf_writes
    (statusChanged cell.status (deriveStatus inputs before.now cell.status healed))
    (deriveStatus inputs before.now cell.status healed)
    (settlingHost inputs cell healed { before with derived := none })) rfl
  refine ⟨?_, hc, ?_, ?_, ?_⟩
  · rw [(same_run hed).2, persistIf_derived]
    exact congrArg some hsa
  · intro passed hen
    rw [(same_run hed).1] at hen
    rw [(hs.1 passed hen).2.returned]
    exact ⟨hsa, hex⟩
  · intro passed hen hu
    rw [(same_run hed).1] at hen
    obtain ⟨doc, ho, hst⟩ := (hs.1 passed hen).2.written hu
    rw [(same_run hed).2]
    refine ⟨doc, ho, ?_, ?_⟩
    · rw [hst]
      exact hsa
    · rw [hst, exitOnRecord_writtenStatus]
      exact hex
  · intro hr
    refine due_of_reaps False inputs cell before ?_ hr
    intro now other hwr due
    have he := (exited_of_reapDue due).1
    rw [deriveStatus_state, hsn.derives_error rootOnly hsc hf now hwr] at he
    cases he

end Tick

/-- A tick that derives the state of a cell without workloads keeps a crash of the root, seen by its
    last read, exactly if the first read has seen it or the record held it before. -/
theorem root_crash_kept_iff (inputs : TickInputs) (cell : Cell) (root : ContainerSpec)
    (before : CellHost) (rootOnly : RootOnly cell root)
    (second : Except RunnerError ContainerObservation)
    (reads : inputs.rootState = second.map ContainerObservation.state) (report : Ctr.Status)
    (stopped : report.status = .stopped) (nonZero : report.exitStatus ≠ 0)
    (last : lastRootRead inputs second = .ok (reported report))
    (derives : (finalState (reconcileCell inputs cell) before).derived ≠ none) :
    CrashKept inputs cell root before ((reported report).exitTime, (reported report).exitCode) ↔
      SeenAtFirst inputs cell root ((reported report).exitTime, (reported report).exitCode) := by
  obtain ⟨hi, hf⟩ := reported_crash stopped nonZero
  refine ⟨seen_of_crashKept rootOnly hf derives, ?_⟩
  intro hsn
  have hs : inputs.rootState = .ok .error := by
    have hc := hsn.checked
    unfold lastRootRead at last
    cases hch : inputs.cgroup with
    | ok exists_ =>
      rw [hch] at last
      rw [reads, show second = _ from last, ← hi]
      rfl
    | error text =>
      rw [hch] at hc
      cases hc
  exact crashKept_of_seen rootOnly hs hf derives hsn

/-- A cell that is only its root, and goes away once that has ended. -/
def loneRootCell : Cell where
  metadata := { name := "web", generation := 1 }
  spec :=
    { id := "web", realmName := "main", spaceName := "default", stackName := "default"
      rootContainerID := "root", autoDelete := true
      containers := [{ id := "root", root := true, containerdID := "default_default_web_root" }] }
  status := { state := .ready, readyObserved := true }

def rootReport : Ctr.Status := { status := .stopped, exitStatus := 1, exitTime := 5 }

/-- A tick whose first read of the root is the given one, and whose second finds the crash. -/
def readThenCrash (first : ContainerObservation) : TickInputs :=
  { TickInputs.steady { observation := fun _ => .ok first } with
    rootState := .ok (reported rootReport).state }

theorem root_crash_kept_of_both_reads :
    CrashKept (readThenCrash (reported rootReport)) loneRootCell
      { id := "root", root := true, containerdID := "default_default_web_root" }
      { now := 10, disk := some loneRootCell }
      ((reported rootReport).exitTime, (reported rootReport).exitCode) :=
  (root_crash_kept_iff (readThenCrash (reported rootReport)) loneRootCell
    { id := "root", root := true, containerdID := "default_default_web_root" }
    { now := 10, disk := some loneRootCell } ⟨rfl, rfl⟩ (.ok (reported rootReport)) rfl rootReport rfl
    (by decide) rfl (by decide +kernel)).mpr
    ⟨rfl, by decide, fun _ => rfl, fun hn => absurd hn (by decide)⟩

/-- The root crashes between the two reads of the tick: it derives that the cell has exited cleanly
    and deletes it. -/
theorem root_crash_between_reads_deletes :
    let inputs := readThenCrash { state := .ready }
    let host := finalState (reconcileCell inputs loneRootCell) { now := 10, disk := some loneRootCell }
    lastRootRead inputs (.ok (reported rootReport)) = .ok (reported rootReport) ∧
      host.derived = some .exited ∧ .deleted ∈ host.trace ∧ host.disk = none := by
  decide +kernel

end Kukeon.Runner
