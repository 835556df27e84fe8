import Kukeon.Runner.ReapSafety
import Kukeon.Runner.TickRun

/-! # Restarts that are owed

The restart pass comes before the gates that reap a cell, and the gates are asked only after a pass
without a result. A pass that looks at the containers has no result only if it owes no restart, so
that an owed restart keeps the cell; and what opens the gate of the wind-down is a restart that is
owed, so that this gate is never passed. A pass that finds the root down looks at no container.
-/

namespace Kukeon.Runner

open ModelHub Effect Std.Do

set_option mvcgen.warning false

/-- Some container of the cell owes a restart in a tick that begins on this host. -/
def Owed (inputs : TickInputs) (cell : Cell) (before : CellHost) : Prop :=
  ∃ spec ∈ cell.spec.containers,
    Ledger.Owes (tickCell inputs before.now cell).status.containers before.ledger
      (restartFields spec)

instance (inputs : TickInputs) (cell : Cell) (before : CellHost) :
    Decidable (Owed inputs cell before) :=
  inferInstanceAs (Decidable (∃ spec ∈ cell.spec.containers, _ ∧ _))

variable {cell : Cell} {inputs : TickInputs}

/-- An owed restart is fired or deferred by a pass that looks at the containers. -/
theorem result_of_owed {cell derived : Cell} {before host : CellHost}
    (hs : SamePass (tickCell inputs before.now cell) derived)
    (hl : host.ledger = before.ledger) (hi : passOpen derived = true)
    (ho : Owed inputs cell before) {passed : Cell × RestartPassResult}
    (he : ending (maybeRestartExitedContainers inputs.starts derived) host = .ok passed) :
    passed.2 ≠ .restartNone := by
  intro hn
  obtain ⟨spec, hd, how⟩ := ho
  have hu : passed.2 ≠ .restartFired := by simp [hn]
  refine (maybeRestart_unfired inputs.starts derived he hu).2 hn hi spec ?_ ?_
  · rw [hs.spec, tickCell, deriveStatus_spec]
    exact hd
  · rw [hs.containers, hl]
    exact how

theorem ne_onFailure_of_acts {policy : String} (ha : policyActsOnExit policy 0 = true) :
    policy ≠ restartPolicyOnFailure := by
  rintro rfl
  exact absurd ha (by decide)

theorem decision_of_uncapped {ledger : Ledger} {fields : RestartFields}
    (hu : fields.policy ≠ restartPolicyOnFailure) :
    ledger.decision fields ≠ .restartNone := by
  unfold Ledger.decision restartDecisionFor
  cases ledger.restarts.lookup fields.id with
  | none => exact nofun
  | some state =>
    simp only [hu, false_and, if_false]
    split <;> exact nofun

theorem turnOf_exited {statuses : List ContainerStatus} {fields : RestartFields}
    {status : ContainerStatus} (hn : fields.root = false)
    (hf : Keyed.find ContainerStatus.id fields.id statuses = some status)
    (ht : containerStateIsTerminal status.state = true)
    (ha : restartPolicyRequiresRestart fields.policy status.exitCode = true) :
    turnOf statuses fields = .exited := by
  unfold turnOf
  rw [hn, hf]
  simp [ht, ha]

theorem passOpen_of_windDown {state : CellState} (due : shouldWindDownCell cell state = true) :
    passOpen cell = true := by
  unfold shouldWindDownCell at due
  unfold passOpen rootDown
  split at due
  · cases due
  next hl =>
  split at due
  · cases due
  simp only [Bool.or_eq_true, not_or, Bool.not_eq_true', Bool.not_eq_false] at hl
  rw [hl.2]
  cases hr : findRootContainerSpec cell.spec with
  | none => rfl
  | some spec =>
    simp only [hr] at due
    simp [due]

/-- What opens the gate of the wind-down is a workload whose policy restarts it. -/
theorem owes_of_windDown {now : Time} {original : CellStatus}
    (hds : (cell.spec.containers.map ContainerSpec.id).Nodup)
    (hp : restartPolicyPermitsCellReap (deriveStatus inputs now original cell) = true)
    (due : shouldWindDownCell (deriveStatus inputs now original cell)
      (deriveStatus inputs now original cell).status.state = true) (ledger : Ledger) :
    ∃ spec ∈ cell.spec.containers,
      Ledger.Owes (deriveStatus inputs now original cell).status.containers ledger
        (restartFields spec) := by
  have hr : reapDue (deriveStatus inputs now original cell) = true := by
    unfold reapDue
    rw [hp, due]
    exact Bool.or_true _
  have hh : hasNonRootContainerSpec cell.spec.containers = true := by
    unfold shouldWindDownCell at due
    rw [deriveStatus_spec] at due
    split at due
    · cases due
    · split at due
      · cases due
      · simpa using ‹¬ (!hasNonRootContainerSpec cell.spec.containers) = true›
  obtain ⟨spec, hm, hi⟩ := List.any_eq_true.mp hh
  have hn : spec.root = false := by simpa using hi
  obtain ⟨index, hd⟩ := List.mem_iff_getElem?.mp hm
  have hf := finishedCleanly_of_exited (exited_of_gate hr) hd hn
  -- With distinct identifiers the pass finds the status of this very container.
  let status := populatedStatus now inputs.survey cell.status.containers index spec
  have hfn : Keyed.find ContainerStatus.id spec.id
      (deriveStatus inputs now original cell).status.containers = some status := by
    have hl : status ∈ (deriveStatus inputs now original cell).status.containers := by
      rw [deriveStatus_containers]
      apply List.mem_of_getElem?
      rw [populateCellContainerStatuses, List.getElem?_mapIdx, hd]
      rfl
    refine Keyed.find_of_mem ?_ hl
    rw [deriveStatus_containers, populateCellContainerStatuses, populated_ids]
    exact hds
  have hnr : (inputs.survey.seen index).state ≠ .ready := by
    intro hrd
    have ht := hf.terminal
    rw [hrd] at ht
    cases ht
  have he : status.exitCode = 0 := (populatedStatus_exitCode hnr).trans hf.exitCode
  have ht : containerStateIsTerminal status.state = true := hf.terminal
  have hac : policyActsOnExit spec.restartPolicy 0 = true := by
    have ha := List.all_eq_true.mp hp spec (by
      rw [deriveStatus_spec]
      exact List.mem_filter.mpr ⟨hm, by simp [hn]⟩)
    simp only [hfn, ht, he] at ha
    exact ha
  exact ⟨spec, hm, turnOf_exited hn hfn ht (he ▸ hac),
    decision_of_uncapped (ne_onFailure_of_acts hac)⟩

/-- After a pass without a result the gate of the wind-down is shut. -/
theorem result_of_windDown {now : Time} {original : CellStatus}
    (hd : (cell.spec.containers.map ContainerSpec.id).Nodup) {host : CellHost}
    {passed : Cell × RestartPassResult} (he : ending (maybeRestartExitedContainers inputs.starts
      (deriveStatus inputs now original cell)) host = .ok passed)
    (hp : restartPolicyPermitsCellReap passed.1 = true)
    (due : shouldWindDownCell passed.1 (deriveStatus inputs now original cell).status.state =
      true) : passed.2 ≠ .restartNone := by
  intro hn
  have hu : passed.2 ≠ .restartFired := by simp [hn]
  obtain ⟨hsm, hs⟩ := maybeRestart_unfired inputs.starts _ he hu
  rw [hsm] at hp due
  obtain ⟨spec, hm, ho⟩ := owes_of_windDown hd hp due host.ledger
  refine hs hn (passOpen_of_windDown due) spec ?_ ho
  rw [deriveStatus_spec]
  exact hm

section Hole

variable (windDown : KillInputs → Cell → RunnerM (Cell × ReconcileOutcome))

variable {inputs : TickInputs}

theorem settleCell_windDown {original : CellStatus} {now : Time} {cell : Cell}
    (hd : (cell.spec.containers.map ContainerSpec.id).Nodup) :
    settleCell inputs original (deriveStatus inputs now original cell) windDown =
      settleCell inputs original (deriveStatus inputs now original cell) := by
  funext host
  unfold settleCell
  refine bind_congr_of_ok ?_
  rintro ⟨passed, result⟩ he
  cases result with
  | restartFired => rfl
  | restartDeferred => rfl
  | restartNone =>
    have hs : (restartPolicyPermitsCellReap passed && shouldWindDownCell passed
        (deriveStatus inputs now original cell).status.state) = false := by
      rw [← Bool.not_eq_true, Bool.and_eq_true]
      rintro ⟨hp, due⟩
      exact result_of_windDown hd he hp due rfl
    simp only [reapOrPersist, hs]
    rfl

theorem tickFrom_windDown {cell : Cell} (hd : (cell.spec.containers.map ContainerSpec.id).Nodup) :
    tickFrom inputs cell windDown = tickFrom inputs cell := by
  unfold tickFrom
  split
  · rfl
  · funext host
    refine bind_congr_of_ok fun healed he => ?_
    have hh := healCgroup_custody handedOn_true host.ledger inputs.cgroup inputs.heal cell trivial
    have hs : healed.spec = cell.spec :=
      ((of_triple hh (custody_true host)).1 healed he).2.1
    rw [← hs] at hd
    simp only [settleCell_windDown windDown hd]

theorem reconcileCell_windDown {cell : Cell}
    (hd : (cell.spec.containers.map ContainerSpec.id).Nodup) :
    reconcileCell inputs cell windDown = reconcileCell inputs cell := by
  unfold reconcileCell
  rw [tickFrom_windDown windDown hd]

end Hole

/-- In a tick on a cell with distinct container identifiers, the gate of the wind-down opens only
    where the restart pass has fired or deferred a restart, and the tick is the same whatever stands
    in the place of the wind-down. -/
theorem windDown_unreachable (inputs : TickInputs) (cell : Cell)
    (distinct : (cell.spec.containers.map ContainerSpec.id).Nodup) :
    (∀ now healed host passed, SameWork cell healed →
      ending (maybeRestartExitedContainers inputs.starts
        (deriveStatus inputs now cell.status healed)) host = .ok passed →
      restartPolicyPermitsCellReap passed.1 = true →
      shouldWindDownCell passed.1 (deriveStatus inputs now cell.status healed).status.state = true →
      passed.2 = .restartFired ∨ passed.2 = .restartDeferred) ∧
    ∀ windDown, reconcileCell inputs cell windDown = reconcileCell inputs cell := by
  refine ⟨?_, fun windDown => reconcileCell_windDown windDown distinct⟩
  intro now healed host passed hs he hp due
  rw [← hs.1] at distinct
  have hrs := result_of_windDown distinct he hp due
  cases hr : passed.2 with
  | restartFired => exact .inl rfl
  | restartDeferred => exact .inr rfl
  | restartNone => exact absurd hr hrs

/-- A cell whose workload is always restarted, to be deleted once it has exited. -/
def alwaysCell : Cell where
  metadata := { name := "job", generation := 1 }
  spec :=
    { id := "job", realmName := "main", spaceName := "default", stackName := "default"
      rootContainerID := "root", autoDelete := true
      containers :=
        [ { id := "root", root := true, containerdID := "default_default_job_root" },
          { id := "app", containerdID := "default_default_job_app"
            restartPolicy := restartPolicyAlways } ] }
  status := { state := .ready, readyObserved := true }

def workloadDone : Survey where
  observation index :=
    if index = 0 then .ok { state := .ready } else .ok { state := .exited, exitTime := 5 }

theorem windDown_unreachable_of_always :
    let derived := deriveStatus (.steady workloadDone) 9 alwaysCell.status alwaysCell
    ∃ passed, ending (maybeRestartExitedContainers (TickInputs.steady workloadDone).starts derived)
        { now := 9, disk := some alwaysCell } = .ok passed ∧
      restartPolicyPermitsCellReap passed.1 = true ∧
      shouldWindDownCell passed.1 derived.status.state = true ∧
      (passed.2 = .restartFired ∨ passed.2 = .restartDeferred) :=
  ⟨_, rfl, by decide, by decide,
    (windDown_unreachable (.steady workloadDone) alwaysCell (by decide)).1 9 alwaysCell
      { now := 9, disk := some alwaysCell } _ ⟨rfl, rfl, rfl⟩ rfl (by decide) (by decide)⟩

/-- The root container, if the cell has one, is seen with a task that holds the cell open. -/
def rootSeenUp (survey : Survey) (cell : Cell) : Bool :=
  match findRootContainerSpec cell.spec with
  | none => true
  | some root => containerStateIsActive
      (survey.seen (cell.spec.containers.findIdx fun spec => spec.id = root.id)).state

theorem first_populated (now : Time) (survey : Survey) {root : ContainerSpec}
    (hmm : root ∈ cell.spec.containers) :
    ∃ spec, (populateCellContainerStatuses now survey cell).status.containers.find?
        (fun status => status.id = root.id) = some (populatedStatus now survey cell.status.containers
          (cell.spec.containers.findIdx fun spec => spec.id = root.id) spec) := by
  let first := cell.spec.containers.findIdx fun spec => spec.id = root.id
  have hi : first < cell.spec.containers.length :=
    List.findIdx_lt_length_of_exists ⟨root, hmm, by simp⟩
  have hm : decide (cell.spec.containers[first].id = root.id) = true :=
    List.findIdx_getElem (w := hi)
  refine ⟨cell.spec.containers[first], ?_⟩
  rw [List.find?_eq_some_iff_getElem]
  refine ⟨hm, first, by rwa [populateCellContainerStatuses, List.length_mapIdx], ?_, ?_⟩
  · simp [populateCellContainerStatuses, first]
  · intro earlier hb
    have ho := List.not_of_lt_findIdx hb
    simpa [populateCellContainerStatuses, populatedStatus_id] using ho

theorem rootDown_tickCell (inputs : TickInputs) (now : Time) (cell : Cell) :
    rootDown (tickCell inputs now cell) = !rootSeenUp inputs.survey cell := by
  unfold rootDown rootSeenUp rootContainerStillRunning
  rw [tickCell, deriveStatus_spec, deriveStatus_containers]
  cases hr : findRootContainerSpec cell.spec with
  | none => rfl
  | some spec =>
    obtain ⟨first, hf⟩ := first_populated now inputs.survey (mem_of_findRoot hr)
    simp only [hf, populatedStatus_state]

def Deletes (inputs : TickInputs) (cell : Cell) (host : CellHost) : Prop :=
  .deleted ∈ (finalState (reconcileCell inputs cell) { host with trace := [] }).trace

instance (inputs : TickInputs) (cell : Cell) (host : CellHost) :
    Decidable (Deletes inputs cell host) :=
  inferInstanceAs (Decidable (_ ∈ _))

def keepRules : Rules where
  inv host := .deleted ∉ host.trace
  doc _ _ := True
  relaunch _ := True
  kill _ := True
  reap := False

theorem keepRules_sound : keepRules.Sound where
  edit := fun _ _ => trivial
  read := fun _ _ => trivial
  write := by
    intro host now cell doc hh _ _
    simpa [keepRules, CellHost.written, CellHost.logged] using hh
  idle := by
    intro host next hh _ ht _ hd
    exact hh (ht ▸ hd)
  markedFailed := by
    intro host reason hh
    simpa [keepRules, CellHost.logged] using hh
  relaunching := by
    intro host id hh _
    simpa [keepRules, CellHost.logged] using hh
  killed := by
    intro host ids hh _
    simpa [keepRules, CellHost.logged] using hh
  kill_mono := fun _ => trivial
  kill_after_failure := trivial
  kill_of_reap := fun _ => trivial
  derive := fun hh _ _ => hh
  doc_derive := fun _ => trivial

theorem not_deletes_of_owed {host : CellHost} (ho : Owed inputs cell host)
    (up : rootSeenUp inputs.survey cell = true) : ¬ Deletes inputs cell host := by
  have hsr : inputs.Allowed keepRules.survey := .ofAll (fun _ => trivial) inputs
  have hk : keepRules.Ended (finalState (reconcileCell inputs cell) { host with trace := [] }) := by
    rcases reconcileCell_reaches keepRules_sound inputs hsr cell trivial { host with trace := [] }
      (fun _ _ _ => trivial) (by simp [keepRules]) with he | ⟨-, healed, after, hs, run⟩
    · exact .inl he.1.inv
    · unfold finalState
      rw [run]
      refine settleCell_ends_of_pass keepRules_sound hsr trivial trivial
        (fun _ _ _ _ => trivial) hs.at_ ?_
      intro passed hen hn due
      have hsm := samePass_derived inputs host.now hs.work
      have hio : passOpen (deriveStatus inputs host.now cell.status healed) = true := by
        unfold passOpen
        rw [(exited_of_reapDue due).2, rootDown_congr hsm.spec hsm.containers,
          rootDown_tickCell, up]
        rfl
      have hf : Owed inputs cell { host with trace := [] } := ho
      refine result_of_owed ?_ hs.ledger hio hf hen hn
      exact hsm
  rcases hk with hh | ⟨hi, _⟩
  · exact hh
  · exact hi.elim

/-- Nothing but the restart pass stands between the cell and its deletion: it has been up, the tick
    derives that it has exited, and killing and deleting it succeed. -/
structure Ripe (inputs : TickInputs) (cell : Cell) (host : CellHost) : Prop where
  autoDelete : cell.spec.autoDelete = true
  notSticky : cellStateIsSticky cell.status.state = false
  cgroup : inputs.cgroup = .ok true
  exited : (tickCell inputs host.now cell).status.state = .exited
  hasBeenUp : (tickCell inputs host.now cell).status.readyObserved = true
  named : requireCoordinates cell = .ok ()
  onDisk : ∃ doc root, host.disk = some doc ∧ GoText.trimSpace doc.spec.id ≠ "" ∧
    requireCoordinates doc = .ok () ∧ getRootContainerContainerdID doc = .ok root
  kills : inputs.kill.read.fault = none ∧ inputs.kill.reach = .ok ()
  deletes : inputs.delete.read.fault = none ∧ inputs.delete.teardown = .ok () ∧
    inputs.delete.removeMetadata = .ok ()

section Ripe

attribute [local irreducible] GoText.trimSpace

variable {cell : Cell}

theorem named_of_required (hr : requireCoordinates cell = .ok ()) :
    GoText.trimSpace cell.metadata.name ≠ "" ∧ GoText.trimSpace cell.spec.realmName ≠ "" ∧
      GoText.trimSpace cell.spec.spaceName ≠ "" ∧ GoText.trimSpace cell.spec.stackName ≠ "" := by
  unfold requireCoordinates requireAll at hr
  grind [requireAll]

theorem getCell_found {read : CellRead} (doc : Cell) (hr : requireCoordinates cell = .ok ())
    (hrd : read.fault = none) :
    ⦃fun host => ⌜host.disk = some doc⌝⦄ getCell read cell
    ⦃post⟨fun loaded host => ⌜host.disk = some doc ∧ loaded.metadata = doc.metadata ∧
        loaded.spec = doc.spec⌝, fun _ _ => ⌜False⌝⟩⦄ := by
  refine triple_of_runs fun host ho => ?_
  rcases getCell_cases read cell host with ⟨_, _, _, not⟩ | ⟨_, _, run⟩
  · exact absurd ⟨hr, hrd⟩ not
  · simp [ending, finalState, run, ho, populateCellContainerStatuses]

theorem updateCellMetadata_present (cell : Cell) :
    Keeps (fun host : CellHost => host.disk.isSome) (updateCellMetadata cell) := by
  mvcgen [updateCellMetadata]

theorem killCellLocked_present {inputs : KillInputs} {cell doc : Cell} {root : String}
    (hr : requireCoordinates cell = .ok ()) (hi : GoText.trimSpace doc.spec.id ≠ "")
    (hs : requireCoordinates doc = .ok ()) (hrt : getRootContainerContainerdID doc = .ok root)
    (hrd : inputs.read.fault = none) (hrc : inputs.reach = .ok ()) :
    ⦃fun host => ⌜host.disk = some doc⌝⦄ killCellLocked inputs cell
    ⦃post⟨fun _ host => ⌜host.disk.isSome⌝, fun _ _ => ⌜False⌝⟩⦄ := by
  have hl := getCell_found doc hr hrd
  have hu := updateCellMetadata_present
  obtain ⟨hn, hrl, hsp, hst⟩ := named_of_required hs
  have hc : ∀ loaded : Cell, loaded.spec = doc.spec → requireAll
      [ (loaded.spec.id, .cellIDRequired), (loaded.spec.realmName, .realmNameRequired),
        (loaded.spec.spaceName, .spaceNameRequired), (loaded.spec.stackName, .stackNameRequired) ] =
      .ok () := by
    intro loaded hsm
    rw [hsm]
    simp [requireAll, hi, hrl, hsp, hst]
  have hro : ∀ loaded : Cell, loaded.metadata = doc.metadata → loaded.spec = doc.spec →
      getRootContainerContainerdID loaded = .ok root := by
    intro loaded hm hsc
    rw [← hrt]
    unfold getRootContainerContainerdID
    rw [hm, hsc]
  mvcgen [killCellLocked, signalContainers, rewording, outside, ofResult, log, attempt, hl, hu]
  all_goals grind [CellHost.logged, Except.mapError]

theorem deleteCellLocked_removes {inputs : DeleteInputs}
    (hr : requireCoordinates cell = .ok ()) (hrd : inputs.read.fault = none)
    (ht : inputs.teardown = .ok ()) (hrm : inputs.removeMetadata = .ok ()) :
    Leads (fun host => host.disk.isSome) (fun host => .deleted ∈ host.trace ∧ host.disk = none)
      (deleteCellLocked inputs cell) := by
  have hl : ⦃fun host => ⌜host.disk.isSome⌝⦄ getCell inputs.read cell
      ⦃post⟨fun _ host => ⌜host.disk.isSome⌝, fun _ _ => ⌜False⌝⟩⦄ := by
    refine triple_of_runs fun host hp => ?_
    obtain ⟨doc, ho⟩ := Option.isSome_iff_exists.mp hp
    obtain ⟨hs, hf⟩ := of_triple (getCell_found doc hr hrd) ho
    refine ⟨fun loaded he => ?_, hf⟩
    rw [(hs loaded he).1]
    rfl
  mvcgen [deleteCellLocked, attempt, outside, ofResult, hl]
  all_goals grind [CellHost.removed, CellHost.logged, Except.mapError]

theorem autoDeleteCell_removes {kill : KillInputs} {delete : DeleteInputs} {cell doc : Cell}
    {root : String} (hr : requireCoordinates cell = .ok ())
    (hi : GoText.trimSpace doc.spec.id ≠ "") (hs : requireCoordinates doc = .ok ())
    (hrt : getRootContainerContainerdID doc = .ok root)
    (hkl : kill.read.fault = none ∧ kill.reach = .ok ())
    (hd : delete.read.fault = none ∧ delete.teardown = .ok () ∧
      delete.removeMetadata = .ok ()) :
    Leads (fun host => host.disk = some doc) (fun host => .deleted ∈ host.trace ∧ host.disk = none)
      (autoDeleteCell kill delete cell) := by
  have hk := killCellLocked_present hr hi hs hrt hkl.1 hkl.2
  have hrm := deleteCellLocked_removes hr hd.1 hd.2.1 hd.2.2
  mvcgen [autoDeleteCell, rewording, hk, hrm]

theorem getCell_not_gone (read : CellRead) (cell : Cell) {host : CellHost} {doc : Cell}
    (ho : host.disk = some doc) : ending (getCell read cell) host ≠ .error .cellNotFound := by
  rcases getCell_cases read cell host with ⟨err, hn, run, _⟩ | ⟨_, _, run⟩
  · simp [ending, run, hn]
  · simp [ending, run, ho]

/-- A tick that finds the cell and its cgroup comes to settle it on the host it began with. -/
theorem reconcileCell_of_found {inputs : TickInputs} {doc : Cell} {host : CellHost}
    (hst : cellStateIsSticky cell.status.state = false) (hc : inputs.cgroup = .ok true)
    (ho : host.disk = some doc) :
    (reconcileCell inputs cell) host =
      (settleCell inputs cell.status
        (deriveStatus inputs host.now cell.status { cell with status.cgroupReady := true }))
        { host with derived := some (deriveStatus inputs host.now cell.status
          { cell with status.cgroupReady := true }).status.state } := by
  have hh : ({ host with derived := none } : CellHost).disk = some doc := ho
  have hg : (reconcileCell inputs cell) host =
      (tickFrom inputs cell) { host with derived := none } := by
    rw [reconcileCell_apply]
    split
    next hgn => exact absurd hgn (getCell_not_gone inputs.reread cell hh)
    next => rfl
  have hk : healCgroup inputs.cgroup inputs.heal cell =
      pure { cell with status.cgroupReady := true } := by
    rw [hc]
    rfl
  obtain ⟨healed, he, -, run⟩ := tickFrom_settles inputs { host with derived := none } hst
  unfold settlingHost at run
  rw [hk] at he run
  cases he
  exact hg.trans run

theorem removed_of_down {inputs : TickInputs} {host : CellHost} (hrp : Ripe inputs cell host)
    (hd : rootSeenUp inputs.survey cell = false) :
    let after := finalState (reconcileCell inputs cell) host
    .deleted ∈ after.trace ∧ after.disk = none := by
  let derived := deriveStatus inputs host.now cell.status { cell with status.cgroupReady := true }
  have hsm : SamePass (tickCell inputs host.now cell) derived :=
    samePass_derived inputs host.now ⟨rfl, rfl, rfl⟩
  have hc : passOpen derived = false := by
    unfold passOpen
    rw [rootDown_congr hsm.spec hsm.containers, rootDown_tickCell, hd, Bool.not_false,
      Bool.not_true, Bool.and_false]
  have due : shouldAutoDeleteCell derived.spec.autoDelete derived.status.state
      derived.status.readyObserved = true := by
    have ha : derived.spec.autoDelete = true := by
      rw [hsm.spec, tickCell, deriveStatus_spec]
      exact hrp.autoDelete
    rw [ha, hsm.state, hsm.readyObserved, hrp.exited, hrp.hasBeenUp]
    rfl
  obtain ⟨doc, root, ho, hi, hs, hrt⟩ := hrp.onDisk
  have hn : requireCoordinates derived = .ok () := by
    have hsp : derived.spec = cell.spec := deriveStatus_spec _ _ _ _
    have hm : derived.metadata = cell.metadata := deriveStatus_metadata _ _ _ _
    rw [← hrp.named]
    unfold requireCoordinates
    rw [hsp, hm]
  have run : ∀ after, (settleCell inputs cell.status derived) after =
      autoDeleteCell inputs.kill inputs.delete derived after := by
    intro after
    have hp := maybeRestart_closed inputs.starts derived hc
    rw [settleCell_of_ok (congrArg (ending · after) hp), hp]
    exact congrFun (if_pos due) after
  have hr := autoDeleteCell_removes hn hi hs hrt hrp.kills hrp.deletes
  unfold finalState
  rw [reconcileCell_of_found hrp.notSticky hrp.cgroup ho, run]
  exact holds_finalState hr ho

theorem deletes_of_down {inputs : TickInputs} {host : CellHost} (hrp : Ripe inputs cell host)
    (hd : rootSeenUp inputs.survey cell = false) : Deletes inputs cell host := by
  have hf : Ripe inputs cell { host with trace := [] } :=
    ⟨hrp.autoDelete, hrp.notSticky, hrp.cgroup, hrp.exited, hrp.hasBeenUp, hrp.named,
      hrp.onDisk, hrp.kills, hrp.deletes⟩
  exact (removed_of_down hf hd).1

end Ripe

/-- While the root is up, a tick does not delete a cell that owes a restart; and where nothing else
    keeps the cell, it is kept only if the root is up. -/
theorem autoDelete_waits_for_owed_iff (inputs : TickInputs) (cell : Cell) (host : CellHost)
    (owed : Owed inputs cell host) :
    (rootSeenUp inputs.survey cell = true → ¬ Deletes inputs cell host) ∧
      (Ripe inputs cell host →
        (¬ Deletes inputs cell host ↔ rootSeenUp inputs.survey cell = true)) := by
  refine ⟨not_deletes_of_owed owed, fun hr => ⟨?_, not_deletes_of_owed owed⟩⟩
  intro hk
  cases up : rootSeenUp inputs.survey cell with
  | true => rfl
  | false => exact absurd (deletes_of_down hr up) hk

theorem autoDelete_waits_for_owed_of_running :
    ¬ Deletes (.steady workloadDone) alwaysCell { now := 9, disk := some alwaysCell } :=
  (autoDelete_waits_for_owed_iff (.steady workloadDone) alwaysCell
    { now := 9, disk := some alwaysCell } (by decide)).1 (by decide)

/-- A workload that is always restarted is deleted with its cell when it is seen to end together
    with the root. -/
theorem autoDelete_overrides_always :
    Owed (.steady (.all .exited)) alwaysCell { now := 9, disk := some alwaysCell } ∧
      Deletes (.steady (.all .exited)) alwaysCell { now := 9, disk := some alwaysCell } := by
  decide

end Kukeon.Runner
