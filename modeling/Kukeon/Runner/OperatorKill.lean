import Kukeon.Runner.CleanRecord
import Kukeon.Runner.OwedRestarts
import Kukeon.Runner.Passes

/-! # An operator's kill and the ticks after it

`KillCell` signals the tasks of a cell and leaves their records, which report the exit status of the
signal from then on. The next tick reads that status like any other.
-/

namespace Kukeon.Runner

open ModelHub ApiScheme GoText Ctr Effect Std.Do

set_option mvcgen.warning false

/-- `128 + SIGKILL`. -/
def sigkillExitStatus : UInt32 := 137

def killed (time : Time) (report : Status) : Status :=
  if report.status = .stopped then report
  else { status := .stopped, exitStatus := sigkillExitStatus, exitTime := time }

def Tasks.kill (tasks : Tasks) (time : Time) (containerdIDs : List String) : Tasks :=
  fun id => if id ∈ containerdIDs then (tasks id).map (killed time) else tasks id

/-- The containers `KillCell` signals. -/
def signalledIDs (cell : Cell) : List String :=
  workloadContainerdIDs cell.spec.containers ++ (getRootContainerContainerdID cell).toOption.toList

def Tasks.afterKill (tasks : Tasks) (time : Time) (cell : Cell) : Tasks :=
  tasks.kill time (signalledIDs cell)

/-- A cell as provisioning leaves it, in the form its document is read back in: one root, which the
    cell names, and identifiers that are distinct and stored. -/
structure Provisioned (doc : Cell) : Prop where
  name : trimSpace doc.metadata.name ≠ ""
  id : trimSpace doc.spec.id ≠ ""
  realmName : trimSpace doc.spec.realmName ≠ ""
  spaceName : trimSpace doc.spec.spaceName ≠ ""
  stackName : trimSpace doc.spec.stackName ≠ ""
  distinct : (doc.spec.containers.map ContainerSpec.id).Nodup
  trimmed : ∀ spec ∈ doc.spec.containers, trimSpace spec.id = spec.id ∧ spec.id ≠ ""
  named : ∀ spec ∈ doc.spec.containers, spec.containerdID ≠ ""
  root : ∃ root ∈ doc.spec.containers, root.root = true ∧ root.id = doc.spec.rootContainerID
  onlyRoot : ∀ spec ∈ doc.spec.containers, spec.root = true → spec.id = doc.spec.rootContainerID
  stored : (storedSpec doc.spec).deref = doc.spec

def taskObservation : Option Status → ContainerObservation
  | none => { state := .stopped }
  | some report => reported report

def truthful (tasks : Tasks) (cell : Cell) : Survey where
  observation index :=
    match cell.spec.containers[index]? with
    | none => .error (.io "no such container")
    | some spec => .ok (taskObservation (tasks spec.containerdID))

/-- A kill whose status reads are honest: the first see the tasks before the signals, the last ones
    those after. -/
structure KillInputs.Honest (tasks : Tasks) (time : Time) (doc : Cell) (inputs : KillInputs) :
    Prop where
  before : HonestSurvey tasks doc inputs.read.survey
  after : HonestSurvey (tasks.afterKill time doc) doc inputs.after

def Tasks.Later (tasks later : Tasks) : Prop := ∀ id, later id = tasks id ∨ later id = none

/-- A step of a reconcile pass with honest reads, after the kill left `tasks` and while nothing is
    started. -/
def HonestPass (tasks : Tasks) (doc : Cell) : PassStep → Prop
  | .listForReconcile => True
  | .tick _ inputs => ∃ later, tasks.Later later ∧ inputs.Allowed (HonestSurvey later doc)
  | .listForRefresh | .refresh _ _ => False

def NoCrashDerived (tasks : Tasks) (doc : Cell) (host : CellHost) : Prop :=
  ∀ steps, (∀ step ∈ steps, HonestPass tasks doc step) →
    (Runs.run Daemon.pass { host := host } steps).host.derived ≠ some .error

/-- A tick in which nothing fails and every read sees the tasks as they are. -/
def undisturbedTick (tasks : Tasks) (doc : Cell) : TickInputs :=
  { TickInputs.steady (truthful tasks doc) with
    rootState :=
      match findRootContainerSpec doc.spec with
      | none => .ok .unknown
      | some root => .ok (taskObservation (tasks root.containerdID)).state }

/-- The pass after the kill deletes a cell that was to be deleted and has been up. -/
def AutoDeletedNext (tasks : Tasks) (doc : Cell) (host : CellHost) : Prop :=
  doc.spec.autoDelete = true → doc.status.readyObserved = true → ∀ moment : Moment,
    (Runs.run Daemon.pass { host := host }
      [.listForReconcile, .tick moment (undisturbedTick tasks doc)]).host.disk = none

section Steps

attribute [local irreducible] trimSpace

structure Kept (doc cell : Cell) : Prop where
  name : cell.metadata.name = doc.metadata.name
  spec : cell.spec = doc.spec
  readyObserved : cell.status.readyObserved = doc.status.readyObserved
  calm : cellStateIsSticky cell.status.state = false

def OnDisk (good : Cell → Prop) (host : CellHost) : Prop :=
  ∃ cell, host.disk = some cell ∧ good cell

def SurvivesWrites (good : Cell → Prop) : Prop :=
  ∀ {now : Time} {disk : Option Cell} {cell written : Cell}, good cell →
    writeDocWithGeneration cellAccess disk (persistedCell (stampCellLifecycle now cell)) =
      .ok written → good written

theorem updateCellMetadata_survives {good : Cell → Prop} (hs : SurvivesWrites good)
    (cell : Cell) (hi : good cell) : Keeps (OnDisk good) (updateCellMetadata cell) := by
  have hwr : ∀ (host : CellHost) (now : Time) (disk : Option Cell) (written : Cell),
      writeDocWithGeneration cellAccess disk (persistedCell (stampCellLifecycle now cell)) =
        .ok written → OnDisk good (host.written written) := by
    intro host now disk written hw
    exact ⟨written, rfl, hs hi hw⟩
  mvcgen [updateCellMetadata]
  all_goals grind [OnDisk]

/-- A kill leaves a property of the document that its two surveys do not touch. -/
theorem killCellLocked_survives {good : Cell → Prop} (hs : SurvivesWrites good)
    (inputs : KillInputs)
    (hr : ∀ now cell, good cell → good (populateCellContainerStatuses now inputs.read.survey cell))
    (hst : ∀ now cell, good cell → good (populateCellContainerStatuses now inputs.after
      { cell with status.state := .stopped }))
    (asked : Cell) : Keeps (OnDisk good) (killCellLocked inputs asked) := by
  have hu := updateCellMetadata_survives hs
  have hl : ⦃fun host => ⌜OnDisk good host⌝⦄ getCell inputs.read asked
      ⦃post⟨fun loaded host => ⌜good loaded ∧ OnDisk good host⌝,
        fun _ host => ⌜OnDisk good host⌝⟩⦄ := by
    mvcgen [getCell, ofResult]
    all_goals grind [OnDisk]
  mvcgen [killCellLocked, signalContainers, attempt, rewording, outside, ofResult, log, hl, hu]
  all_goals grind [OnDisk, CellHost.logged]

def derivedRules (state : CellState) : Rules where
  inv host := host.derived = some state
  doc _ _ := True
  relaunch _ := True
  kill _ := True
  reap := True

theorem derivedRules_sound (state : CellState) : (derivedRules state).Sound where
  edit := fun _ _ => trivial
  read := fun _ _ => trivial
  write := fun hh _ _ => hh
  idle := fun hh _ _ hd => hd.trans hh
  markedFailed := fun hh => hh
  relaunching := fun hh _ => hh
  killed := fun hh _ => hh
  kill_mono := fun _ => trivial
  kill_after_failure := trivial
  kill_of_reap := fun _ => trivial
  derive := by
    intro host other hh hu
    cases hu.symm.trans hh
  doc_derive := fun _ => trivial

theorem settleCell_derived (inputs : TickInputs) (original : CellStatus) (cell : Cell)
    {host : CellHost} {state : CellState} (hd : host.derived = some state) :
    (finalState (settleCell inputs original cell) host).derived = some state := by
  have he := holds_finalState
    (settleCell_ends (derivedRules_sound state) state inputs (.ofAll (fun _ => trivial) inputs)
      original cell trivial trivial (fun _ _ _ _ => trivial) (fun _ => trivial))
    ⟨hd, hd, fun _ => trivial⟩
  rcases he with hh | ⟨_, prior, hh, hl⟩
  · exact hh
  · rw [hl]
    exact hh

theorem run_list_tick {host : CellHost} {cell : Cell} (ho : host.disk = some cell)
    {moment : Moment} {inputs : TickInputs} :
    (Runs.run Daemon.pass { host := host } [.listForReconcile, .tick moment inputs]).host =
      finalState (reconcileCell inputs cell) ((host.begin {}).begin moment) := by
  simp [Runs.run, Daemon.pass, ho]

theorem seen_truthful {doc : Cell} {tasks : Tasks} {index : Nat} {spec : ContainerSpec}
    (hd : doc.spec.containers[index]? = some spec) :
    (truthful tasks doc).seen index = taskObservation (tasks spec.containerdID) := by
  unfold Survey.seen truthful
  simp only [hd]

section NoCrash

variable {specs : List ContainerSpec}

theorem EndedCleanly.afterKill {tasks : Tasks} (he : EndedCleanly tasks specs) (time : Time)
    (cell : Cell) : EndedCleanly (tasks.afterKill time cell) specs := by
  intro spec hd report ht
  unfold Tasks.afterKill Tasks.kill at ht
  split at ht
  · obtain ⟨before, hg, hsm⟩ := Option.map_eq_some_iff.mp ht
    obtain ⟨hs, hz⟩ := he spec hd before hg
    unfold killed at hsm
    rw [if_pos hs] at hsm
    exact hsm ▸ ⟨hs, hz⟩
  · exact he spec hd report ht

theorem EndedCleanly.later {tasks later : Tasks} (he : EndedCleanly tasks specs)
    (hi : tasks.Later later) : EndedCleanly later specs := by
  intro spec hd report ht
  rcases hi spec.containerdID with hs | hg
  · exact he spec hd report (hs ▸ ht)
  · rw [hg] at ht
    cases ht

theorem killCellLocked_clean (hd : (specs.map ContainerSpec.id).Nodup) {inputs : KillInputs}
    (hb : CleanSurvey specs inputs.read.survey) (ha : CleanSurvey specs inputs.after)
    (asked : Cell) : Keeps (OnDisk (CleanRecord specs)) (killCellLocked inputs asked) := by
  refine killCellLocked_survives (fun hc hw => hc.written hw) inputs ?_ ?_ asked
  · intro now cell hc
    exact hc.populate hd hb now
  · intro now cell hc
    have hs : CleanRecord specs { cell with status.state := .stopped } :=
      ⟨hc.marks, hc.exits⟩
    exact hs.populate hd ha now

-- The operations are wholes from here on.
attribute [local irreducible] reconcileCell killCellLocked

/-- The document and what a pass has listed of it show no failure, and no crash was derived. -/
structure Daemon.Clean (specs : List ContainerSpec) (daemon : Daemon) : Prop where
  disk : ∀ doc, daemon.host.disk = some doc → CleanRecord specs doc
  listed : ∀ cell, daemon.reconcileSnapshot = some cell → CleanRecord specs cell
  derived : daemon.host.derived ≠ some .error

theorem pass_clean {tasks : Tasks} {doc : Cell} (hd : (doc.spec.containers.map
      ContainerSpec.id).Nodup) (he : EndedCleanly tasks doc.spec.containers) {daemon : Daemon}
    (hc : daemon.Clean doc.spec.containers) {step : PassStep}
    (hh : HonestPass tasks doc step) : (daemon.pass step).Clean doc.spec.containers := by
  cases step with
  | listForRefresh => exact hh.elim
  | refresh moment inputs => exact hh.elim
  | listForReconcile => exact ⟨hc.disk, hc.disk, hc.derived⟩
  | tick moment inputs =>
    cases hl : daemon.reconcileSnapshot with
    | none =>
      simp only [Daemon.pass, hl]
      exact ⟨hc.disk, by simp, hc.derived⟩
    | some cell =>
      obtain ⟨later, hi, hs⟩ := hh
      have hic : ∀ survey, HonestSurvey later doc survey →
          CleanSurvey doc.spec.containers survey := by
        intro survey hh
        exact cleanSurvey_of_honest hh (he.later hi)
      obtain ⟨hds, hdr⟩ := tick_clean hd inputs (hs.mono hic)
        (hc.listed cell hl) (daemon.host.begin moment) hc.disk
      simp only [Daemon.pass, hl]
      exact ⟨hds, by simp, hdr⟩

theorem run_clean {tasks : Tasks} {doc : Cell} (hd : (doc.spec.containers.map
      ContainerSpec.id).Nodup) (he : EndedCleanly tasks doc.spec.containers)
    (steps : List PassStep) (hh : ∀ step ∈ steps, HonestPass tasks doc step) {daemon : Daemon}
    (hc : daemon.Clean doc.spec.containers) :
    (Runs.run Daemon.pass daemon steps).Clean doc.spec.containers := by
  induction steps generalizing daemon with
  | nil => exact hc
  | cons step rest ih =>
    have hs := pass_clean hd he hc (hh step List.mem_cons_self)
    exact ih (fun later hi => hh later (List.mem_cons_of_mem _ hi)) hs

end NoCrash

section Provisioned

variable {doc : Cell} (provisioned : Provisioned doc)
include provisioned

theorem Provisioned.findRoot : ∃ root ∈ doc.spec.containers,
    findRootContainerSpec doc.spec = some root ∧ root.id = doc.spec.rootContainerID := by
  obtain ⟨root, hm, hf, hnm⟩ := provisioned.root
  unfold findRootContainerSpec
  cases hfn : doc.spec.containers.find? fun container => container.root with
  | none =>
    have hn := List.find?_eq_none.mp hfn root hm
    exact absurd hf hn
  | some first =>
    have hi := List.mem_of_find?_eq_some hfn
    exact ⟨first, hi, rfl, provisioned.onlyRoot first hi (List.find?_some hfn)⟩

theorem Provisioned.rootID {cell : Cell} (hs : cell.spec = doc.spec) {spec : ContainerSpec}
    (hm : spec ∈ doc.spec.containers) (hnm : spec.id = doc.spec.rootContainerID) :
    getRootContainerContainerdID cell = .ok spec.containerdID := by
  have hn : doc.spec.rootContainerID ≠ "" := by
    rw [← hnm]
    exact (provisioned.trimmed spec hm).2
  unfold getRootContainerContainerdID
  dsimp only
  rw [hs, if_neg hn, Keyed.first_of_mem provisioned.distinct hm hnm]
  dsimp only
  rw [if_neg (provisioned.named spec hm)]

theorem Provisioned.coordinates {asked : Cell}
    (hs : asked.metadata.name = doc.metadata.name ∧ asked.spec = doc.spec) :
    requireCoordinates asked = .ok () := by
  refine requireAll_eq_ok.mpr ?_
  simp [hs, provisioned.realmName, provisioned.spaceName, provisioned.stackName,
    provisioned.name]

theorem Provisioned.signalled {spec : ContainerSpec} (hm : spec ∈ doc.spec.containers) :
    spec.containerdID ∈ signalledIDs doc := by
  unfold signalledIDs
  rw [List.mem_append]
  cases hi : spec.root with
  | false =>
    refine .inl ?_
    unfold workloadContainerdIDs nonRootSpecs
    simp only [List.mem_filter, List.mem_map, decide_eq_true_eq]
    exact ⟨⟨spec, ⟨hm, by simp [hi]⟩, rfl⟩, provisioned.named spec hm⟩
  | true =>
    refine .inr ?_
    rw [provisioned.rootID rfl hm (provisioned.onlyRoot spec hm hi)]
    simp [Except.toOption]

/-- The containers that a kill leaves are seen in a terminal state. -/
theorem Provisioned.terminal (tasks : Tasks) (time : Time) {spec : ContainerSpec}
    (hm : spec ∈ doc.spec.containers) :
    containerStateIsTerminal
      (taskObservation (tasks.afterKill time doc spec.containerdID)).state = true := by
  have hs : ∀ report : Status, report.status = .stopped →
      containerStateIsTerminal (taskObservation (some report)).state = true := by
    intro report hi
    unfold taskObservation reported convertContainerdStatusToContainerState
    simp only [hi]
    split <;> rfl
  unfold Tasks.afterKill Tasks.kill
  rw [if_pos (provisioned.signalled hm)]
  cases tasks spec.containerdID with
  | none => rfl
  | some report =>
    refine hs (killed time report) ?_
    unfold killed
    split
    · assumption
    · rfl

theorem Provisioned.truthful_honest (tasks : Tasks) : HonestSurvey tasks doc (truthful tasks doc) := by
  intro index spec hd
  have hm := List.mem_of_getElem? hd
  obtain ⟨ht, hn⟩ := provisioned.trimmed spec hm
  have hnm := provisioned.named spec hm
  -- Containerd knows the container, and its task if there is one.
  let answers : Answers :=
    { existsContainer := .ok ⟨spec.containerdID⟩
      loadContainer := .ok ⟨spec.containerdID⟩
      task := if (tasks spec.containerdID).isSome then .ok ⟨spec.containerdID, 0⟩ else .error .notFound
      status :=
        match tasks spec.containerdID with
        | some report => .ok report
        | none => .error .notFound }
  refine ⟨{ read := { realm := .ok "", containerd := answers } }, ?_, ?_⟩
  · have htr : observationTarget { realm := .ok "", containerd := answers } doc spec.id =
        .ok (.query (realmNamespace (trimSpace doc.spec.realmName)) spec.containerdID) := by
      unfold observationTarget
      simp [ht, hn, provisioned.name, provisioned.realmName, provisioned.spaceName,
        provisioned.stackName, Keyed.first_of_mem provisioned.distinct hm rfl, containerdIDOf, hnm,
        bind, Except.bind, pure, Except.pure]
    unfold truthful Circumstances.observe getContainerObservation
    simp only [hd, htr]
    cases hts : tasks spec.containerdID with
    | none =>
      simp [queryContainer, Client.existsContainer, Client.taskStatus, Client.loadTask,
        Client.loadContainer, Circumstances.client, hnm, answers, hts, taskObservation,
        ClientError.isTaskNotFound]
    | some report =>
      simp [queryContainer, Client.existsContainer, Client.taskStatus, Client.loadTask,
        Client.loadContainer, Circumstances.client, hnm, answers, hts, taskObservation, reported]
  · intro report hg
    cases hts : tasks spec.containerdID with
    | none => simp [answers, hts] at hg
    | some other =>
      simp only [answers, hts] at hg
      rw [Except.ok.inj hg]

theorem Kept.survives : SurvivesWrites (Kept doc) := by
  intro now disk cell written hk hw
  have hs : (storedSpec cell.spec).deref = doc.spec := by
    rw [hk.spec]
    exact provisioned.stored
  obtain ⟨generation, rfl⟩ := written_eq hw
  exact ⟨hk.name, hs, hk.readyObserved, hk.calm⟩

theorem killCellLocked_kept (inputs : KillInputs) (asked : Cell) :
    Keeps (OnDisk (Kept doc)) (killCellLocked inputs asked) := by
  refine killCellLocked_survives (Kept.survives provisioned) inputs ?_ ?_ asked
  · intro now cell hk
    exact ⟨hk.name, hk.spec, hk.readyObserved, hk.calm⟩
  · intro now cell hk
    exact ⟨hk.name, hk.spec, hk.readyObserved, rfl⟩

theorem find_populated {now : Time} {survey : Survey} {cell : Cell} (hs : cell.spec = doc.spec)
    {index : Nat} {spec : ContainerSpec} (hd : doc.spec.containers[index]? = some spec) :
    (populateCellContainerStatuses now survey cell).status.containers.find?
        (fun status => status.id = spec.id) =
      some (populatedStatus now survey cell.status.containers index spec) := by
  have ids : (populateCellContainerStatuses now survey cell).status.containers.map
      ContainerStatus.id = doc.spec.containers.map ContainerSpec.id := by
    rw [← hs]
    exact populated_ids now survey cell.spec.containers cell.status.containers
  refine Keyed.first_of_mem (by rw [ids]; exact provisioned.distinct) ?_ rfl
  apply List.mem_of_getElem?
  unfold populateCellContainerStatuses
  rw [List.getElem?_mapIdx, hs, hd]
  rfl

variable (tasks : Tasks) (time : Time)

/-- A task that was live when the kill came is seen to have failed. -/
theorem exitedNonZero_of_live {now : Time} {prior : List ContainerStatus} {index : Nat}
    {spec : ContainerSpec} (hd : doc.spec.containers[index]? = some spec) {report : Status}
    (ht : tasks spec.containerdID = some report) (hl : report.status ≠ .stopped) :
    containerExitedNonZero
      (populatedStatus now (truthful (tasks.afterKill time doc) doc) prior index spec) = true := by
  have hlf : tasks.afterKill time doc spec.containerdID =
      some { status := .stopped, exitStatus := sigkillExitStatus, exitTime := time } := by
    unfold Tasks.afterKill Tasks.kill
    rw [if_pos (provisioned.signalled (List.mem_of_getElem? hd)), ht]
    simp only [Option.map_some, killed, if_neg hl]
  unfold containerExitedNonZero
  rw [populatedStatus_state, seen_truthful hd, hlf]
  rfl

theorem rootDown_afterKill (now : Time) {cell : Cell} (hsm : cell.spec = doc.spec) :
    rootDown (populateCellContainerStatuses now (truthful (tasks.afterKill time doc) doc) cell) =
      true := by
  obtain ⟨root, hm, hf, _⟩ := provisioned.findRoot
  obtain ⟨index, hd⟩ := List.mem_iff_getElem?.mp hm
  have ht := provisioned.terminal tasks time hm
  unfold rootDown
  have hs : findRootContainerSpec (populateCellContainerStatuses now
      (truthful (tasks.afterKill time doc) doc) cell).spec = some root := by
    rw [← hf, ← hsm]
    rfl
  rw [hs]
  dsimp only
  unfold rootContainerStillRunning
  rw [find_populated provisioned hsm hd]
  dsimp only
  rw [populatedStatus_state, seen_truthful hd, (not_active_of_terminal ht).1]
  rfl

theorem derived_afterKill (now : Time) {cell : Cell} (hsm : cell.spec = doc.spec) :
    let derived := deriveCellState (undisturbedTick (tasks.afterKill time doc) doc).rootState
      (populateCellContainerStatuses now (truthful (tasks.afterKill time doc) doc) cell)
    (derived = .error ∨ derived = .exited) ∧
      ((∃ spec, Decisive doc.spec.containers spec ∧ ∃ report, tasks spec.containerdID = some report ∧
        report.status ≠ .stopped) → derived = .error) := by
  intro derived
  by_cases hh : hasNonRootContainerSpec doc.spec.containers = true
  · have hs : derived = if (populateCellContainerStatuses now
          (truthful (tasks.afterKill time doc) doc) cell).status.containers.any fun status =>
          isWorkload doc.spec.containers status && containerExitedNonZero status
        then .error else .exited := by
      rw [← hsm]
      refine derived_of_terminal ?_ ?_ ?_ _
      · rw [hsm]
        exact hh
      · rw [hsm]
        exact provisioned.distinct
      · intro index spec hd _
        rw [hsm] at hd
        rw [seen_truthful hd]
        exact provisioned.terminal tasks time (List.mem_of_getElem? hd)
    refine ⟨?_, ?_⟩
    · rw [hs]
      split
      · exact .inl rfl
      · exact .inr rfl
    · rintro ⟨spec, hdc, report, hts, hl⟩
      have hn : spec.root = false := by
        rcases hdc.2 with hn | hnw
        · exact hn
        · rw [hnw] at hh
          cases hh
      obtain ⟨index, hd⟩ := List.mem_iff_getElem?.mp hdc.1
      rw [hs, if_pos]
      rw [List.any_eq_true]
      refine ⟨_, List.mem_of_find?_eq_some (find_populated provisioned hsm hd), ?_⟩
      rw [Bool.and_eq_true]
      exact ⟨isWorkload_of_mem _ hdc.1 hn populatedStatus_id,
        exitedNonZero_of_live provisioned tasks time hd hts hl⟩
  · obtain ⟨root, hm, hf, hnm⟩ := provisioned.findRoot
    obtain ⟨index, hd⟩ := List.mem_iff_getElem?.mp hm
    have ht := provisioned.terminal tasks time hm
    have hs : derived = if containerExitedNonZero (populatedStatus now
          (truthful (tasks.afterKill time doc) doc) cell.status.containers index root)
        then .error else .exited := by
      have hr : derived = deriveCellStateFromRootContainer
          (undisturbedTick (tasks.afterKill time doc) doc).rootState
          (populateCellContainerStatuses now (truthful (tasks.afterKill time doc) doc) cell) := by
        refine if_neg ?_
        change ¬ hasNonRootContainerSpec cell.spec.containers = true
        rw [hsm]
        exact hh
      have hsr : findRootContainerSpec (populateCellContainerStatuses now
          (truthful (tasks.afterKill time doc) doc) cell).spec = some root := by
        rw [← hf, ← hsm]
        rfl
      rw [hr]
      unfold deriveCellStateFromRootContainer undisturbedTick
      rw [hsr, hf]
      dsimp only
      unfold rootContainerExitedNonZero
      rw [find_populated provisioned hsm hd, (not_active_of_terminal ht).1, ht]
      rfl
    refine ⟨?_, ?_⟩
    · rw [hs]
      split
      · exact .inl rfl
      · exact .inr rfl
    · rintro ⟨spec, hdc, report, hts, hl⟩
      have hi : spec.root = true := by
        by_contra hnr
        refine hh ?_
        unfold hasNonRootContainerSpec
        rw [List.any_eq_true]
        exact ⟨spec, hdc.1, by simpa using hnr⟩
      have he : spec = root := List.inj_on_of_nodup_map provisioned.distinct hdc.1 hm
        ((provisioned.onlyRoot spec hdc.1 hi).trans hnm.symm)
      rw [hs, if_pos]
      rw [he] at hts
      exact exitedNonZero_of_live provisioned tasks time hd hts hl

theorem autoDeleted_afterKill (tasks : Tasks) (time : Time)
    (hen : EndedCleanly (tasks.afterKill time doc) doc.spec.containers) {host : CellHost}
    (hst : OnDisk (Kept doc) host) (hcn : OnDisk (CleanRecord doc.spec.containers) host) :
    AutoDeletedNext (tasks.afterKill time doc) doc host := by
  intro ha hr moment
  obtain ⟨cell, ho, hk⟩ := hst
  obtain ⟨other, hs, hcc⟩ := hcn
  cases Option.some.inj (ho.symm.trans hs)
  let inputs := undisturbedTick (tasks.afterKill time doc) doc
  let begun := (host.begin {}).begin moment
  have hsn := cleanSurvey_of_honest (provisioned.truthful_honest (tasks.afterKill time doc)) hen
  obtain ⟨root, hm, _, hnm⟩ := provisioned.findRoot
  have hrp : Ripe inputs cell begun :=
    { autoDelete := by rw [hk.spec, ha]
      notSticky := hk.calm
      cgroup := rfl
      exited := by
        rw [tickCell, deriveStatus_state]
        exact (derived_afterKill provisioned tasks time begun.now hk.spec).1.resolve_left
          (deriveCellState_ne_error provisioned.distinct hcc hsn inputs.rootState begun.now)
      hasBeenUp := by
        rw [tickCell, deriveStatus_readyObserved, hk.readyObserved, hr]
        rfl
      named := provisioned.coordinates ⟨hk.name, hk.spec⟩
      onDisk := ⟨cell, root.containerdID, ho, hk.spec ▸ provisioned.id,
        provisioned.coordinates ⟨hk.name, hk.spec⟩, provisioned.rootID hk.spec hm hnm⟩
      kills := ⟨rfl, rfl⟩
      deletes := ⟨rfl, rfl, rfl⟩ }
  have hd : rootSeenUp inputs.survey cell = false := by
    have hs : rootDown (tickCell inputs begun.now cell) = true := by
      rw [← rootDown_afterKill provisioned tasks time begun.now hk.spec]
      exact rootDown_congr (deriveStatus_spec ..) (deriveStatus_containers ..)
    simpa [rootDown_tickCell] using hs
  rw [run_list_tick ho]
  exact (removed_of_down hrp hd).2

attribute [local irreducible] reconcileCell killCellLocked settleCell

def undisturbedKill (tasks : Tasks) (time : Time) (doc : Cell) : KillInputs where
  read := { survey := truthful tasks doc }
  after := truthful (tasks.afterKill time doc) doc

theorem undisturbedTick_honest (tasks : Tasks) :
    (undisturbedTick tasks doc).Allowed (HonestSurvey tasks doc) := by
  have hh := provisioned.truthful_honest tasks
  exact ⟨hh, hh, fun _ => ⟨hh, hh, ⟨hh, ⟨hh, hh⟩, hh⟩⟩,
    ⟨hh, hh⟩, hh⟩

/-- The first tick after the kill of a live task derives a crash. -/
theorem crash_derived {tasks : Tasks} {time : Time} {spec : ContainerSpec}
    (hd : Decisive doc.spec.containers spec) {report : Status}
    (ht : tasks spec.containerdID = some report) (hl : report.status ≠ .stopped)
    {host : CellHost} (hs : OnDisk (Kept doc) host) :
    ¬ NoCrashDerived (tasks.afterKill time doc) doc host := by
  intro hn
  obtain ⟨cell, ho, hk⟩ := hs
  let inputs := undisturbedTick (tasks.afterKill time doc) doc
  have hb : ((host.begin {}).begin {}).disk = some cell := ho
  refine hn [.listForReconcile, .tick {} inputs] ?_ ?_
  · intro step hi
    simp only [List.mem_cons, List.not_mem_nil, or_false] at hi
    rcases hi with rfl | rfl
    · exact trivial
    · exact ⟨_, fun _ => .inl rfl, undisturbedTick_honest provisioned _⟩
  · rw [run_list_tick ho, finalState, reconcileCell_of_found hk.calm rfl hb]
    refine settleCell_derived _ _ _ (congrArg some ?_)
    rw [deriveStatus_state]
    exact (derived_afterKill provisioned tasks time _ hk.spec).2 ⟨spec, hd, report, ht, hl⟩

end Provisioned

/-- A kill is followed by no crash, and by the deletion of a cell that was to be deleted, exactly
    when the tasks that decide the state of the cell had all stopped before it. -/
theorem kill_not_taken_for_crash_iff (doc : Cell) (tasks : Tasks) (provisioned : Provisioned doc)
    (calm : cellStateIsSticky doc.status.state = false)
    (clean : CleanRecord doc.spec.containers doc)
    (unfailed : ∀ spec, Decisive doc.spec.containers spec → ∀ report,
      tasks spec.containerdID = some report → report.status = .stopped → report.exitStatus = 0) :
    (∀ time inputs host stopped, KillInputs.Honest tasks time doc inputs →
      host.disk = some doc → ending (killCellLocked inputs doc) host = .ok stopped →
        let after : CellHost :=
          { finalState (killCellLocked inputs doc) host with derived := none }
        NoCrashDerived (tasks.afterKill time doc) doc after ∧
          AutoDeletedNext (tasks.afterKill time doc) doc after) ↔
      ∀ spec, Decisive doc.spec.containers spec → ∀ report,
        tasks spec.containerdID = some report → report.status = .stopped := by
  have hkp : Kept doc doc := ⟨rfl, rfl, rfl, calm⟩
  constructor
  · intro hhl spec hd report ht
    by_contra hl
    let inputs := undisturbedKill tasks 0 doc
    let host : CellHost := { disk := some doc }
    have hh : inputs.Honest tasks 0 doc :=
      ⟨provisioned.truthful_honest tasks, provisioned.truthful_honest _⟩
    obtain ⟨root, hm, _, hnm⟩ := provisioned.findRoot
    have hnd := provisioned.coordinates ⟨rfl, rfl⟩
    have kills := of_triple (@killCellLocked_present inputs doc doc _ hnd provisioned.id hnd
      (provisioned.rootID rfl hm hnm) rfl rfl) (s := host) rfl
    cases he : ending (killCellLocked inputs doc) host with
    | error err => exact kills.2 err he
    | ok stopped =>
      have hk : OnDisk (Kept doc) { finalState (killCellLocked inputs doc) host with derived := none } :=
        holds_finalState (killCellLocked_kept provisioned inputs doc) (s := host) ⟨doc, rfl, hkp⟩
      exact crash_derived provisioned hd ht hl hk (hhl 0 inputs host stopped hh rfl he).1
  · intro ha time inputs host stopped hh ho _
    have hen : EndedCleanly tasks doc.spec.containers := by
      intro spec hd report ht
      have hi := ha spec hd report ht
      exact ⟨hi, unfailed spec hd report ht hi⟩
    have he := hen.afterKill time doc
    have hk := holds_finalState (killCellLocked_kept provisioned inputs doc)
      (s := host) ⟨doc, ho, hkp⟩
    have hc := holds_finalState (killCellLocked_clean provisioned.distinct
      (cleanSurvey_of_honest hh.before hen) (cleanSurvey_of_honest hh.after he) doc)
      (s := host) ⟨doc, ho, clean⟩
    refine And.intro ?_ ?_
    · intro steps hhs
      refine (run_clean provisioned.distinct he steps hhs ⟨?_, by simp, by simp⟩).derived
      intro other hit
      obtain ⟨cell, hsm, hic⟩ := hc
      cases Option.some.inj (hsm.symm.trans hit)
      exact hic
    · exact autoDeleted_afterKill provisioned tasks time he hk hc

end Steps

def upCell : Cell :=
  { failedCell with status := { state := .ready, readyObserved := true } }

def Tasks.all (status : ProcessStatus) : Tasks := fun _ => some { status := status }

theorem kill_not_taken_for_crash_of_stopped :
    (∀ spec, Decisive upCell.spec.containers spec → ∀ report,
      Tasks.all .stopped spec.containerdID = some report → report.status = .stopped) ∧
    ∀ time inputs host stopped, KillInputs.Honest (.all .stopped) time upCell inputs →
      host.disk = some upCell → ending (killCellLocked inputs upCell) host = .ok stopped →
        let after : CellHost :=
          { finalState (killCellLocked inputs upCell) host with derived := none }
        NoCrashDerived ((Tasks.all .stopped).afterKill time upCell) upCell after ∧
          AutoDeletedNext ((Tasks.all .stopped).afterKill time upCell) upCell after := by
  have ha : ∀ spec, Decisive upCell.spec.containers spec → ∀ report,
      Tasks.all .stopped spec.containerdID = some report → report.status = .stopped := by
    intro spec _ report ht
    cases ht
    rfl
  refine ⟨ha, (kill_not_taken_for_crash_iff upCell (.all .stopped) ?_ ?_ ?_ ?_).mpr
    ha⟩
  · exact ⟨by decide, by decide, by decide, by decide, by decide, by decide, by decide, by decide,
      by decide, by decide, by decide⟩
  · decide
  · exact ⟨by decide, by simp [exitCodeOnRecord, upCell, Keyed.find]⟩
  · intro spec _ report ht _
    cases ht
    rfl

/-- The kill of a running cell is a crash to the next tick, which then leaves the cell alone. -/
theorem kill_recorded_as_crash :
    let tasks : Tasks := .all .running
    let inputs := undisturbedKill tasks 1 upCell
    let host : CellHost := { disk := some upCell }
    let after := finalState (killCellLocked inputs upCell) host
    let ticked := (Runs.run Daemon.pass { host := after }
      [.listForReconcile, .tick {} (undisturbedTick (tasks.afterKill 1 upCell) upCell)]).host
    (ending (killCellLocked inputs upCell) host).isOk = true ∧
      (after.disk.map fun doc => doc.status.state) = some .stopped ∧
      ticked.derived = some .error ∧
      (ticked.disk.map fun doc => (doc.spec.autoDelete, doc.status.readyObserved, doc.status.state)) =
        some (true, true, .error) := by
  intro tasks inputs host after ticked
  refine And.intro ?_ (And.intro ?_ (And.intro ?_ ?_))
  · decide
  · decide
  · decide
  · decide

end Kukeon.Runner
