import Kukeon.Runner.Tick

/-! # Rules for invariants of the runner's operations

A `Rules` says what an invariant makes of the things an operation can do to a cell: write a
document, relaunch a container, kill. When the rules are sound, every operation that keeps to them
keeps the invariant; each fact about a tick is then an instance. `Edit` is what all operations have
in common: an edit leaves the spec, the labels and the lifecycle times in place, and the state too
until the tick has derived one; the exit codes on record change with a survey only, and a cell that
was seen ready stays so.
-/

namespace Kukeon.Runner

open ModelHub ApiScheme Effect Std.Do

set_option mvcgen.warning false

/-- `after` has the labels and the lifecycle times of `before`, and, unless the tick has derived a
    state, its state with the reason and message. A time that was never stamped may be. -/
structure Carries (derived : Option CellState) (before after : Cell) : Prop where
  labels : after.metadata.labels = before.metadata.labels
  createdAt : before.status.createdAt ≠ 0 → after.status.createdAt = before.status.createdAt
  readyAt : before.status.readyAt ≠ 0 → after.status.readyAt = before.status.readyAt
  state : derived = none → after.status.state = before.status.state ∧
    after.status.reason = before.status.reason ∧ after.status.message = before.status.message

/-- The exit codes on record are kept, or populated from a survey of the allowed kind. -/
def Recorded (allowed : Survey → Prop) (before after : Cell) : Prop :=
  (∀ id, exitCodeOnRecord after.status.containers id =
      exitCodeOnRecord before.status.containers id) ∨
    ∃ now survey, allowed survey ∧
      after.status.containers =
        (populateCellContainerStatuses now survey before).status.containers

/-- An edit in memory leaves the spec and the token of the write alone as well. -/
structure Edit (allowed : Survey → Prop) (derived : Option CellState) (before after : Cell) : Prop
    extends Carries derived before after where
  generation : after.metadata.generation = before.metadata.generation
  spec : after.spec = before.spec
  recorded : Recorded allowed before after
  readyObserved : before.status.readyObserved = true → after.status.readyObserved = true

namespace Carries

variable {derived : Option CellState} {a b c : Cell}

theorem refl (derived : Option CellState) (cell : Cell) : Carries derived cell cell :=
  ⟨rfl, fun _ => rfl, fun _ => rfl, fun _ => ⟨rfl, rfl, rfl⟩⟩

theorem trans (hf : Carries derived a b) (hsc : Carries derived b c) :
    Carries derived a c := by
  refine ⟨hsc.labels.trans hf.labels, ?_, ?_, ?_⟩
  · intro hs
    have hk := hf.createdAt hs
    exact (hsc.createdAt (hk ▸ hs)).trans hk
  · intro hs
    have hk := hf.readyAt hs
    exact (hsc.readyAt (hk ▸ hs)).trans hk
  · intro hn
    obtain ⟨state, hrs, hms⟩ := hf.state hn
    obtain ⟨hst, hr, hm⟩ := hsc.state hn
    exact ⟨hst.trans state, hr.trans hrs, hm.trans hms⟩

theorem weaken (hc : Carries none a b) : Carries derived a b :=
  ⟨hc.labels, hc.createdAt, hc.readyAt, fun _ => hc.state rfl⟩

theorem stamp (now : Time) (cell : Cell) :
    Carries derived cell (stampCellLifecycle now cell) := by
  refine ⟨rfl, ?_, ?_, fun _ => ⟨rfl, rfl, rfl⟩⟩
  · intro hs
    simp [stampCellLifecycle, hs]
  · intro hs
    simp [stampCellLifecycle, hs]

theorem persisted (cell : Cell) : Carries derived cell (persistedCell cell) :=
  ⟨rfl, fun _ => rfl, fun _ => rfl, fun _ => ⟨rfl, rfl, rfl⟩⟩

theorem setGeneration (cell : Cell) (generation : Int) :
    Carries derived cell (cellAccess.setGeneration cell generation) :=
  ⟨rfl, fun _ => rfl, fun _ => rfl, fun _ => ⟨rfl, rfl, rfl⟩⟩

/-- The document a write leaves carries what the caller's cell had. -/
theorem written {now : Time} {disk : Option Cell} {cell doc : Cell}
    (hw : writeDocWithGeneration cellAccess disk
      (persistedCell (stampCellLifecycle now cell)) = .ok doc) :
    Carries derived cell doc := by
  have hs : Carries derived cell (persistedCell (stampCellLifecycle now cell)) :=
    (stamp now cell).trans (persisted _)
  obtain ⟨generation, rfl⟩ := written_eq hw
  exact hs.trans (setGeneration _ _)

end Carries

theorem Recorded.kept {allowed : Survey → Prop} {before after : Cell}
    (hs : after.status.containers = before.status.containers) :
    Recorded allowed before after := by
  refine .inl ?_
  intro id
  rw [hs]

namespace Edit

variable {allowed : Survey → Prop} {before after : Cell}

theorem ofStatus {derived : Option CellState} (hm : after.metadata = before.metadata)
    (hs : after.spec = before.spec) (hrc : Recorded allowed before after)
    (hc : after.status.createdAt = before.status.createdAt)
    (hra : after.status.readyAt = before.status.readyAt)
    (state : after.status.state = before.status.state ∧
      after.status.reason = before.status.reason ∧
      after.status.message = before.status.message)
    (hr : before.status.readyObserved = true → after.status.readyObserved = true) :
    Edit allowed derived before after where
  labels := by rw [hm]
  createdAt := fun _ => hc
  readyAt := fun _ => hra
  state := fun _ => state
  generation := by rw [hm]
  spec := hs
  recorded := hrc
  readyObserved := hr

/-- Once a state is derived, the state and its breadcrumb are free. -/
theorem ofDerived {state : CellState} (hm : after.metadata = before.metadata)
    (hs : after.spec = before.spec) (hrc : Recorded allowed before after)
    (hc : after.status.createdAt = before.status.createdAt)
    (hra : after.status.readyAt = before.status.readyAt)
    (hr : before.status.readyObserved = true → after.status.readyObserved = true) :
    Edit allowed (some state) before after where
  labels := by rw [hm]
  createdAt := fun _ => hc
  readyAt := fun _ => hra
  state := fun hi => by cases hi
  generation := by rw [hm]
  spec := hs
  recorded := hrc
  readyObserved := hr

theorem populate {derived : Option CellState} (now : Time) {survey : Survey}
    (ha : allowed survey) (cell : Cell) :
    Edit allowed derived cell (populateCellContainerStatuses now survey cell) :=
  .ofStatus rfl rfl (.inr ⟨now, survey, ha, rfl⟩) rfl rfl ⟨rfl, rfl, rfl⟩ id

end Edit

section Allowed

variable (allowed : Survey → Prop)

def KillInputs.Allowed (inputs : KillInputs) : Prop :=
  allowed inputs.read.survey ∧ allowed inputs.after

structure FailInputs.Allowed (inputs : FailInputs) : Prop where
  before : allowed inputs.before.survey
  kill : inputs.kill.Allowed allowed
  after : allowed inputs.after.survey

structure StartInputs.Allowed (inputs : StartInputs) : Prop where
  reread : allowed inputs.reread.survey
  survey : allowed inputs.survey
  failure : inputs.failure.Allowed allowed

structure TickInputs.Allowed (inputs : TickInputs) : Prop where
  reread : allowed inputs.reread.survey
  survey : allowed inputs.survey
  starts : ∀ index, (inputs.starts index).Allowed allowed
  kill : inputs.kill.Allowed allowed
  delete : allowed inputs.delete.read.survey

variable {allowed}

theorem KillInputs.Allowed.mono {wider : Survey → Prop} (all : ∀ survey, allowed survey →
      wider survey) {inputs : KillInputs} (ha : inputs.Allowed allowed) :
    inputs.Allowed wider :=
  ⟨all _ ha.1, all _ ha.2⟩

theorem TickInputs.Allowed.mono {wider : Survey → Prop} (all : ∀ survey, allowed survey →
      wider survey) {inputs : TickInputs} (ha : inputs.Allowed allowed) :
    inputs.Allowed wider where
  reread := all _ ha.reread
  survey := all _ ha.survey
  starts := by
    intro index
    obtain ⟨hr, survey, ⟨before, hk, after⟩⟩ := ha.starts index
    exact ⟨all _ hr, all _ survey, ⟨all _ before, hk.mono all, all _ after⟩⟩
  kill := ha.kill.mono all
  delete := all _ ha.delete

theorem TickInputs.Allowed.ofAll (all : ∀ survey, allowed survey) (inputs : TickInputs) :
    inputs.Allowed allowed :=
  ⟨all _, all _, fun _ => ⟨all _, all _, ⟨all _, ⟨all _, all _⟩, all _⟩⟩,
    ⟨all _, all _⟩, all _⟩

end Allowed

/-- An invariant of the host, with the documents, relaunches and kills it allows. -/
structure Rules where
  inv : CellHost → Prop
  /-- A cell that may be written while the tick has derived this state. -/
  doc : Option CellState → Cell → Prop
  relaunch : String → Prop
  /-- Containers may be killed after these events. -/
  kill : List Event → Prop
  /-- The tick may reap the cell. -/
  reap : Prop
  /-- The surveys that statuses may be populated from. -/
  survey : Survey → Prop := fun _ => True
  /-- The states that the tick may derive. -/
  derives : CellState → Prop := fun _ => True

structure Rules.Sound (rules : Rules) : Prop where
  edit : ∀ {derived a b}, rules.doc derived a → Edit rules.survey derived a b →
    rules.doc derived b
  read : ∀ {host doc}, rules.inv host → host.disk = some doc → rules.doc host.derived doc
  write : ∀ {host now cell doc}, rules.inv host → rules.doc host.derived cell →
    writeDocWithGeneration cellAccess host.disk (persistedCell (stampCellLifecycle now cell)) =
      .ok doc →
    rules.inv (host.written doc)
  idle : ∀ {host next}, rules.inv host → next.disk = host.disk → next.trace = host.trace →
    next.derived = host.derived → rules.inv next
  markedFailed : ∀ {host reason}, rules.inv host → rules.inv (host.logged (.markedFailed reason))
  relaunching : ∀ {host id}, rules.inv host → rules.relaunch id →
    rules.inv (host.logged (.relaunching id))
  killed : ∀ {host ids}, rules.inv host → rules.kill host.trace →
    rules.inv (host.logged (.killed ids))
  kill_mono : ∀ {trace event}, rules.kill trace → rules.kill (trace ++ [event])
  kill_after_failure : ∀ {trace reason}, rules.kill (trace ++ [.markedFailed reason])
  kill_of_reap : ∀ {trace}, rules.reap → rules.kill trace
  derive : ∀ {host state}, rules.inv host → host.derived = none → rules.derives state →
    rules.inv { host with derived := some state }
  doc_derive : ∀ {state cell}, rules.doc none cell → rules.doc (some state) cell

/-- The invariant holds, with the state derived so far and, if `mayKill`, the right to kill. -/
structure Rules.At (rules : Rules) (derived : Option CellState) (mayKill : Prop)
    (host : CellHost) : Prop where
  inv : rules.inv host
  derived : host.derived = derived
  mayKill : mayKill → rules.kill host.trace

namespace Rules.At

variable {rules : Rules} {derived : Option CellState} {mayKill : Prop} {host next : CellHost}

theorem weaken {other : Prop} (hh : rules.At derived mayKill host) (hf : other → mayKill) :
    rules.At derived other host :=
  ⟨hh.inv, hh.derived, fun hk => hh.mayKill (hf hk)⟩

variable (sound : rules.Sound) (hh : rules.At derived mayKill host)

include sound hh

theorem idle (hd : next.disk = host.disk) (ht : next.trace = host.trace)
    (hs : next.derived = host.derived) : rules.At derived mayKill next :=
  ⟨sound.idle hh.inv hd ht hs, hs.trans hh.derived, ht ▸ hh.mayKill⟩

theorem counted {n : Nat} :
    rules.At derived mayKill { host with attempts := n } :=
  hh.idle sound rfl rfl rfl

theorem written {now : Time} {cell doc : Cell} (may : rules.doc derived cell)
    (hw : writeDocWithGeneration cellAccess host.disk
      (persistedCell (stampCellLifecycle now cell)) = .ok doc) :
    rules.At derived mayKill (host.written doc) :=
  ⟨sound.write hh.inv (hh.derived ▸ may) hw, hh.derived,
    fun hk => sound.kill_mono (hh.mayKill hk)⟩

theorem killed (hk : mayKill)
    (ids : List String) : rules.At derived mayKill (host.logged (.killed ids)) :=
  ⟨sound.killed hh.inv (hh.mayKill hk), hh.derived,
    fun hk => sound.kill_mono (hh.mayKill hk)⟩

theorem relaunching {id : String}
    (may : rules.relaunch id) : rules.At derived mayKill (host.logged (.relaunching id)) :=
  ⟨sound.relaunching hh.inv may, hh.derived,
    fun hk => sound.kill_mono (hh.mayKill hk)⟩

theorem markedFailed
    (reason : String) : rules.At derived True (host.logged (.markedFailed reason)) :=
  ⟨sound.markedFailed hh.inv, hh.derived, fun _ => sound.kill_after_failure⟩

end Rules.At

/-- How a tick can end: with the invariant, or with the document removed after it held last. -/
def Rules.Ended (rules : Rules) (host : CellHost) : Prop :=
  rules.inv host ∨ rules.reap ∧ ∃ prior, rules.inv prior ∧ host = prior.removed

def Rules.Relaunches (rules : Rules) (statuses : List ContainerStatus) : Prop :=
  ∀ id status, Keyed.find ContainerStatus.id id statuses = some status →
    containerStateIsTerminal status.state = true → rules.relaunch id

/-- The spec, the recorded container statuses and whether the cell was seen ready are the same. -/
def SameWork (before after : Cell) : Prop :=
  after.spec = before.spec ∧ after.status.containers = before.status.containers ∧
    after.status.readyObserved = before.status.readyObserved

-- The checks for blank names are never evaluated below.
attribute [local irreducible] GoText.trimSpace

section Pass

variable {starts : Nat → StartInputs} {statuses : List ContainerStatus}
  {holds : Cell × RestartPassResult → CellHost → Prop} {fails : RunnerError → CellHost → Prop}

/-- What each turn of the restart pass hands on to the next, the turns hand on. -/
theorem restartTurns_rule {indices : List Nat} (passed : Cell × RestartPassResult)
    (turn : ∀ index ∈ indices, ∀ passed,
      ⦃fun host => ⌜holds passed host⌝⦄ restartTurn starts statuses index passed.1 passed.2
      ⦃post⟨fun next host => ⌜holds next host⌝, fun err host => ⌜fails err host⌝⟩⦄) :
    ⦃fun host => ⌜holds passed host⌝⦄ restartTurns starts statuses indices passed.1 passed.2
    ⦃post⟨fun last host => ⌜holds last host⌝, fun err host => ⌜fails err host⌝⟩⦄ := by
  induction indices generalizing passed with
  | nil => mvcgen [restartTurns]
  | cons index rest ih =>
    have first := turn index List.mem_cons_self passed
    have later := fun next => ih next fun other hm => turn other (List.mem_cons_of_mem _ hm)
    mvcgen [restartTurns, first, later]

theorem maybeRestart_rule {cell : Cell} {before : CellHost → Prop}
    (start : ∀ host, before host → holds (cell, .restartNone) host)
    (turn : ∀ index < cell.spec.containers.length, ∀ passed,
      ⦃fun host => ⌜holds passed host⌝⦄
        restartTurn starts cell.status.containers index passed.1 passed.2
      ⦃post⟨fun next host => ⌜holds next host⌝, fun err host => ⌜fails err host⌝⟩⦄) :
    ⦃fun host => ⌜before host⌝⦄ maybeRestartExitedContainers starts cell
    ⦃post⟨fun last host => ⌜holds last host⌝, fun err host => ⌜fails err host⌝⟩⦄ := by
  have turns := restartTurns_rule (cell, .restartNone) fun index hm => turn index (List.mem_range.mp hm)
  mvcgen [maybeRestartExitedContainers, turns]
  all_goals exact start _ ‹_›

end Pass

section Operations

variable {rules : Rules} (sound : rules.Sound)
include sound

section Anytime

variable (derived : Option CellState) (mayKill : Prop)

theorem updateCellMetadata_keeps (cell : Cell) (may : rules.doc derived cell) :
    Keeps (rules.At derived mayKill) (updateCellMetadata cell) := by
  mvcgen [updateCellMetadata]
  case vc5.h_2.h_2.h_3 host held _ _ _ _ doc written _ =>
    have counted : rules.At derived mayKill { host with attempts := host.attempts + 1 } :=
      held.idle sound rfl rfl rfl
    exact counted.written sound may written
  all_goals exact Rules.At.counted sound ‹_›

theorem persistCellStatusGuarded_keeps (cell : Cell) (may : rules.doc derived cell) :
    Keeps (rules.At derived mayKill) (persistCellStatusGuarded cell) := by
  have hm : rules.doc derived
      { cell with status.observedGeneration := cell.metadata.generation } :=
    sound.edit may (.ofStatus rfl rfl (.kept rfl) rfl rfl ⟨rfl, rfl, rfl⟩ id)
  have hw := updateCellMetadata_keeps sound derived mayKill _ hm
  mvcgen [persistCellStatusGuarded, attempt, hw]

theorem getCell_keeps (read : CellRead) (allowed : rules.survey read.survey) (asked : Cell) :
    Gives (rules.At derived mayKill) (rules.doc derived) (getCell read asked) := by
  mvcgen [getCell, ofResult]
  next host held _ _ _ doc stored =>
    refine ⟨held, ?_⟩
    exact sound.edit (held.derived ▸ sound.read held.inv stored) (.populate _ allowed _)

theorem signalContainers_keeps (hk : mayKill) (cell : Cell) :
    Keeps (rules.At derived mayKill) (signalContainers cell) := by
  mvcgen [signalContainers, log, ofResult]
  · exact (Rules.At.killed sound ‹_› hk _).killed sound hk _
  · exact Rules.At.killed sound ‹_› hk _

theorem reload_keeps (read : CellRead) (allowed : rules.survey read.survey) (asked : Cell)
    (may : rules.doc derived asked) :
    Gives (rules.At derived mayKill) (rules.doc derived) (reload read asked) := by
  have hl := getCell_keeps sound derived mayKill read allowed
  mvcgen [reload, attempt, hl]

theorem recordCgroup_keeps (inputs : CgroupInputs) (cell : Cell) (may : rules.doc derived cell) :
    Gives (rules.At derived mayKill) (fun healed => rules.doc derived healed ∧ SameWork cell healed)
      (recordCgroup inputs cell) := by
  have hw := updateCellMetadata_keeps sound derived mayKill
  have he : ∀ controllers,
      rules.doc derived { cell with status.subtreeControllers := controllers } := by
    intro controllers
    exact sound.edit may (.ofStatus rfl rfl (.kept rfl) rfl rfl ⟨rfl, rfl, rfl⟩ id)
  mvcgen [recordCgroup, hw]
  all_goals grind [SameWork]

theorem ensureCellCgroup_keeps (inputs : CgroupInputs) (cell : Cell)
    (may : rules.doc derived cell) :
    Gives (rules.At derived mayKill) (fun healed => rules.doc derived healed ∧ SameWork cell healed)
      (ensureCellCgroup inputs cell) := by
  have hw := updateCellMetadata_keeps sound derived mayKill
  have hr := recordCgroup_keeps sound derived mayKill
  have hm : rules.doc derived { cell with status.cgroupPath := inputs.group } :=
    sound.edit may (.ofStatus rfl rfl (.kept rfl) rfl rfl ⟨rfl, rfl, rfl⟩ id)
  mvcgen [ensureCellCgroup, outside, ofResult, hw, hr]
  all_goals grind [SameWork]

theorem healCgroup_keeps (cgroup : Except String Bool) (inputs : CgroupInputs) (cell : Cell)
    (may : rules.doc derived cell) :
    Gives (rules.At derived mayKill) (fun healed => rules.doc derived healed ∧ SameWork cell healed)
      (healCgroup cgroup inputs cell) := by
  have he := ensureCellCgroup_keeps sound derived mayKill
  have hc : ∀ ready (loaded : Cell), rules.doc derived loaded →
      rules.doc derived { loaded with status.cgroupReady := ready } := by
    intro ready loaded may
    exact sound.edit may (.ofStatus rfl rfl (.kept rfl) rfl rfl ⟨rfl, rfl, rfl⟩ id)
  mvcgen [healCgroup, attempt, he]
  all_goals grind [SameWork]

theorem persistIf_keeps (changed : Bool) (cell : Cell) (may : rules.doc derived cell) :
    Keeps (rules.At derived mayKill) (persistIf changed cell) := by
  have hp := persistCellStatusGuarded_keeps sound derived mayKill
  mvcgen [persistIf, rewording, hp]

theorem reconcileSticky_keeps (survey : Survey) (allowed : rules.survey survey) (cell : Cell)
    (may : rules.doc derived cell) :
    Keeps (rules.At derived mayKill) (reconcileSticky survey cell) := by
  have hp := persistIf_keeps sound derived mayKill
  mvcgen [reconcileSticky, hp]
  exact sound.edit may (.populate _ allowed _)

theorem recordRestartAttempt_keeps (id : String) :
    Keeps (rules.At derived mayKill) (recordRestartAttempt id) := by
  mvcgen [recordRestartAttempt]
  next host held _ => exact held.idle sound rfl rfl rfl

theorem clearRestartState_keeps (id : String) :
    Keeps (rules.At derived mayKill) (clearRestartState id) := by
  mvcgen [clearRestartState]
  next host held _ => exact held.idle sound rfl rfl rfl

end Anytime

section Derived

variable (state : CellState) (mayKill : Prop)

theorem killCellLocked_keeps (inputs : KillInputs) (allowed : inputs.Allowed rules.survey)
    (hk : mayKill) (cell : Cell) :
    Gives (rules.At (some state) mayKill) (rules.doc (some state)) (killCellLocked inputs cell) := by
  have hl := getCell_keeps sound (some state) mayKill inputs.read allowed.1
  have hs := signalContainers_keeps sound (some state) mayKill hk
  have hw := updateCellMetadata_keeps sound (some state) mayKill
  have hst : ∀ now (loaded : Cell), rules.doc (some state) loaded →
      rules.doc (some state) (populateCellContainerStatuses now inputs.after
        { loaded with status.state := .stopped }) := by
    intro now loaded may
    exact sound.edit may (.ofDerived rfl rfl (.inr ⟨now, _, allowed.2, rfl⟩) rfl rfl id)
  mvcgen [killCellLocked, attempt, rewording, outside, ofResult, hl, hs, hw]
  all_goals grind

theorem markCellFailed_keeps (inputs : FailInputs) (allowed : inputs.Allowed rules.survey)
    (cell : Cell) (reason : String) (may : rules.doc (some state) cell) :
    Keeps (rules.At (some state) mayKill) (markCellFailed inputs cell reason) := by
  have hl := reload_keeps sound (some state) True inputs.before allowed.before
  have hla := reload_keeps sound (some state) True inputs.after allowed.after
  have hw := updateCellMetadata_keeps sound (some state) True
  have hk := killCellLocked_keeps sound state True inputs.kill allowed.kill trivial
  have hs : ∀ message (loaded : Cell), rules.doc (some state) loaded →
      rules.doc (some state) (stampFailed reason message loaded) := by
    intro message loaded may
    exact sound.edit may (.ofDerived rfl rfl (.kept rfl) rfl rfl id)
  have hm : ∀ host, rules.At (some state) mayKill host →
      rules.At (some state) True (host.logged (.markedFailed reason)) := by
    intro host hh
    exact hh.markedFailed sound reason
  have hd : ∀ host, rules.At (some state) True host → rules.At (some state) mayKill host := by
    intro host hh
    exact hh.weaken fun _ => trivial
  mvcgen [markCellFailed, attempt, log, hl, hla, hw, hk]
  all_goals grind

theorem startContainer_keeps (inputs : StartInputs) (allowed : inputs.Allowed rules.survey)
    (cell : Cell) (containerID : String) (may : rules.doc (some state) cell) :
    Gives (rules.At (some state) mayKill) (rules.doc (some state))
      (startContainer inputs cell containerID) := by
  have hl := getCell_keeps sound (some state) mayKill inputs.reread allowed.reread
  have hw := updateCellMetadata_keeps sound (some state) mayKill
  have hf := markCellFailed_keeps sound state mayKill inputs.failure allowed.failure
  have hr : ∀ now (loaded : Cell), rules.doc (some state) loaded →
      rules.doc (some state)
        (populateCellContainerStatuses now inputs.survey (markCellReady loaded)) := by
    intro now loaded may
    exact sound.edit may (.ofDerived rfl rfl (.inr ⟨now, _, allowed.survey, rfl⟩) rfl rfl
      fun _ => rfl)
  mvcgen [startContainer, provisionContainer, attempt, rewording, outside, ofResult, hl, hw,
    hf]
  all_goals grind

/-- The pass goes on with the cell it was given until a container is relaunched. -/
def Unfired (cell : Cell) (result : RestartPassResult) (passed : Cell × RestartPassResult) :
    Prop :=
  passed.2 ≠ .restartFired → passed.1 = cell ∧ result ≠ .restartFired

theorem restartExited_keeps (start : StartInputs) (surveys : start.Allowed rules.survey)
    (cell : Cell) (spec : ContainerSpec) (result : RestartPassResult)
    (may : rules.doc (some state) cell) (hr : rules.relaunch spec.id) :
    Gives (rules.At (some state) mayKill)
      (fun passed => rules.doc (some state) passed.1 ∧ Unfired cell result passed)
      (restartExited start cell spec result) := by
  have hl := startContainer_keeps sound state mayKill start surveys
  have hrc := recordRestartAttempt_keeps sound (some state) mayKill
  have hrl : ∀ host, rules.At (some state) mayKill host →
      rules.At (some state) mayKill (host.logged (.relaunching spec.id)) := by
    intro host hh
    exact hh.relaunching sound hr
  have hc : ∀ now id (started : Cell), rules.doc (some state) started →
      rules.doc (some state)
        { started with
          status.containers := stampContainerRestart now id started.status.containers } := by
    intro now id started may
    exact sound.edit may
      (.ofDerived rfl rfl (.inl (exitCodeOnRecord_stamp now id _)) rfl rfl fun seen => seen)
  mvcgen [restartExited, attempt, log, hl, hrc]
  all_goals grind [Unfired]

section Pass

variable (starts : Nat → StartInputs) (surveys : ∀ index, (starts index).Allowed rules.survey)
include surveys

theorem restartTurn_keeps (statuses : List ContainerStatus) (index : Nat) (cell : Cell)
    (result : RestartPassResult) (may : rules.doc (some state) cell)
    (allowed : rules.Relaunches statuses) :
    Gives (rules.At (some state) mayKill)
      (fun passed => rules.doc (some state) passed.1 ∧ Unfired cell result passed)
      (restartTurn starts statuses index cell result) := by
  have hr := restartExited_keeps sound state mayKill (starts index) (surveys index)
  have hc := clearRestartState_keeps sound (some state) mayKill
  mvcgen [restartTurn, hr, hc]
  all_goals grind [Unfired, Rules.Relaunches]

theorem maybeRestartExitedContainers_keeps (cell : Cell) (may : rules.doc (some state) cell)
    (allowed : rules.Relaunches cell.status.containers) :
    Gives (rules.At (some state) mayKill)
      (fun passed => rules.doc (some state) passed.1 ∧ Unfired cell .restartNone passed)
      (maybeRestartExitedContainers starts cell) := by
  have ht := restartTurn_keeps sound state mayKill starts surveys cell.status.containers
  refine maybeRestart_rule (fun host hh => ⟨hh, may, fun _ => ⟨rfl, nofun⟩⟩) fun index _ passed => ?_
  mvcgen [ht]
  all_goals grind [Unfired]

end Pass

omit sound in
theorem Rules.At.ended {host : CellHost} (hh : rules.At (some state) mayKill host) :
    rules.Ended host :=
  .inl hh.inv

theorem deleteCellLocked_ends (inputs : DeleteInputs) (allowed : rules.survey inputs.read.survey)
    (cell : Cell) (reaps : rules.reap) :
    Leads (rules.At (some state) mayKill) rules.Ended (deleteCellLocked inputs cell) := by
  have hl := getCell_keeps sound (some state) mayKill inputs.read allowed
  have hr : ∀ host, rules.At (some state) mayKill host → rules.Ended host.removed := by
    intro host hh
    exact .inr ⟨reaps, host, hh.inv, rfl⟩
  mvcgen [deleteCellLocked, attempt, outside, ofResult, hl]
  all_goals grind [Rules.At.ended]

end Derived

def reapDue (cell : Cell) : Bool :=
  shouldAutoDeleteCell cell.spec.autoDelete cell.status.state cell.status.readyObserved ||
    (restartPolicyPermitsCellReap cell && shouldWindDownCell cell cell.status.state)

section Tick

variable (state : CellState) (inputs : TickInputs) (surveys : inputs.Allowed rules.survey)
include surveys

theorem reapOrPersist_ends (original : CellStatus) (cell : Cell) (may : rules.doc (some state) cell)
    (reaps : reapDue cell = true → rules.reap) :
    Leads (rules.At (some state) False) rules.Ended
      (reapOrPersist inputs original cell.status.state cell) := by
  have hp := persistIf_keeps sound (some state) False
  have hk := killCellLocked_keeps sound state rules.reap inputs.kill surveys.kill
  have hd := deleteCellLocked_ends sound state rules.reap inputs.delete surveys.delete
  have he : ∀ host, rules.reap → rules.At (some state) False host →
      rules.At (some state) rules.reap host := by
    intro host _ hh
    exact ⟨hh.inv, hh.derived, sound.kill_of_reap⟩
  mvcgen [reapOrPersist, windDownCell, autoDeleteCell, rewording, hp, hk, hd]
  all_goals grind [reapDue, Rules.At.ended]

theorem settleCell_ends (original : CellStatus) (cell : Cell) (may : rules.doc (some state) cell)
    (hd : rules.doc (some state) (holdDeferred original cell))
    (allowed : rules.Relaunches cell.status.containers) (reaps : reapDue cell = true → rules.reap) :
    Leads (rules.At (some state) False) rules.Ended (settleCell inputs original cell) := by
  have hr := maybeRestartExitedContainers_keeps sound state False inputs.starts surveys.starts
  have hp := persistIf_keeps sound (some state) False
  have hrp : ∀ passed : Cell, passed = cell →
      Leads (rules.At (some state) False) rules.Ended
        (reapOrPersist inputs original cell.status.state passed) := by
    intro passed hs
    subst hs
    exact reapOrPersist_ends sound state inputs surveys original passed may reaps
  have hh : ∀ (cell : Cell), rules.doc (some state) cell →
      rules.doc (some state) (holdDegraded original cell) := by
    intro cell may
    exact sound.edit may (.ofDerived rfl rfl (.kept rfl) rfl rfl id)
  mvcgen [settleCell, hr, hp, hrp]
  all_goals grind [Unfired, Rules.At.ended]

end Tick

section Deriving

variable (inputs : TickInputs) (allowed : rules.survey inputs.survey) (now : Time)
  (original : CellStatus) (cell : Cell) (may : rules.doc none cell)
  (seen : cell.status.readyObserved = original.readyObserved)
include allowed may seen

theorem deriveStatus_doc :
    rules.doc (some (deriveStatus inputs now original cell).status.state)
      (deriveStatus inputs now original cell) := by
  have ht := deriveStatus_times inputs now original cell
  refine sound.edit (sound.doc_derive may)
    (.ofDerived (by simp) (by simp) (.inr ⟨now, _, allowed, by simp⟩) ht.1 ht.2 ?_)
  intro ho
  rw [deriveStatus_readyObserved, ← seen, ho]
  rfl

/-- A deferred restart writes back whether the cell had been seen ready before the tick. -/
theorem holdDeferred_doc :
    rules.doc (some (deriveStatus inputs now original cell).status.state)
      (holdDeferred original (deriveStatus inputs now original cell)) := by
  have ht := deriveStatus_times inputs now original cell
  refine sound.edit (sound.doc_derive may)
    (.ofDerived (deriveStatus_metadata inputs now original cell)
      (deriveStatus_spec inputs now original cell)
      (.inr ⟨now, _, allowed, deriveStatus_containers inputs now original cell⟩) ht.1 ht.2 ?_)
  intro ho
  exact seen.symm.trans ho

end Deriving

section Wholes

variable (inputs : TickInputs) (surveys : inputs.Allowed rules.survey) (cell : Cell)
  (host : CellHost)
include surveys

omit sound surveys in
theorem Rules.At.start (hh : rules.inv { host with derived := none }) :
    rules.At none False { host with derived := none } :=
  ⟨hh, rfl, False.elim⟩

theorem reconcileCell_sticky_keeps (hi : cellStateIsSticky cell.status.state = true)
    (may : rules.doc none cell) :
    Leads (fun host => rules.inv { host with derived := none }) (rules.At none False)
      (reconcileCell inputs cell) := by
  have hl := getCell_keeps sound none False inputs.reread surveys.reread
  have hs := reconcileSticky_keeps sound none False inputs.survey surveys.survey
  mvcgen [reconcileCell, tickFrom, attempt, hl, hs]
  all_goals grind [Rules.At.start]

theorem reconcileCell_sticky (hi : cellStateIsSticky cell.status.state = true)
    (may : rules.doc none cell) (hs : rules.inv { host with derived := none }) :
    rules.At none False (finalState (reconcileCell inputs cell) host) :=
  holds_finalState (reconcileCell_sticky_keeps sound inputs surveys cell hi may) hs

variable (may : rules.doc none cell)
  (derives : ∀ now healed, SameWork cell healed →
    rules.derives (deriveStatus inputs now cell.status healed).status.state)
  (allowed : ∀ now healed, SameWork cell healed →
    rules.Relaunches (deriveStatus inputs now cell.status healed).status.containers)
  (reaps : ∀ now healed, SameWork cell healed →
    reapDue (deriveStatus inputs now cell.status healed) = true → rules.reap)
include may derives allowed reaps

theorem reconcileCell_keeps :
    Leads (fun host => rules.inv { host with derived := none }) rules.Ended
      (reconcileCell inputs cell) := by
  have hl := getCell_keeps sound none False inputs.reread surveys.reread
  have hs := reconcileSticky_keeps sound none False inputs.survey surveys.survey
  have hhl := healCgroup_keeps sound none False
  have hst : ∀ now healed, rules.doc none healed → SameWork cell healed →
      Leads (rules.At (some (deriveStatus inputs now cell.status healed).status.state) False)
        rules.Ended (settleCell inputs cell.status (deriveStatus inputs now cell.status healed)) := by
    intro now healed may hsm
    exact settleCell_ends sound _ inputs surveys cell.status _
      (deriveStatus_doc sound _ surveys.survey _ _ _ may hsm.2.2)
      (holdDeferred_doc sound _ surveys.survey _ _ _ may hsm.2.2)
      (allowed now healed hsm) (reaps now healed hsm)
  have derived : ∀ (host : CellHost) now healed, SameWork cell healed →
      rules.At none False host →
      rules.At (some (deriveStatus inputs now cell.status healed).status.state) False
        { host with derived := some (deriveStatus inputs now cell.status healed).status.state } := by
    intro host now healed hsm hh
    exact ⟨sound.derive hh.inv hh.derived (derives now healed hsm), rfl, False.elim⟩
  have hk : ∀ derived host, rules.At derived False host → rules.Ended host := by
    intro derived host hh
    exact .inl hh.inv
  mvcgen [reconcileCell, tickFrom, attempt, hl, hs, hhl, hst]
  all_goals grind [Rules.At.start]

-- The tick is a whole from here on.
attribute [local irreducible] reconcileCell

/-- A tick on `cell` keeps the invariant if `cell` may be written, if what it finds terminal may be
    relaunched, and if it may be reaped whenever one of the gates opens. -/
theorem reconcileCell_ends (hs : rules.inv { host with derived := none }) :
    rules.Ended (finalState (reconcileCell inputs cell) host) :=
  holds_finalState (reconcileCell_keeps sound inputs surveys cell may derives allowed reaps) hs

end Wholes

end Operations

end Kukeon.Runner
