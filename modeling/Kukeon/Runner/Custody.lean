import Kukeon.Runner.Derivation
import Kukeon.Runner.TickRules

/-! # What the operations of a tick hand on

Besides the restart pass, no part of a tick touches the bookkeeping of restarts, and none changes the
spec of the cell or the records of its containers other than by populating them again. `Custody`
says both for the host, and there is one lemma for each operation; the restart pass and the whole
tick are built over them.
-/

namespace Kukeon.Runner

open ModelHub ApiScheme Effect Std.Do

set_option mvcgen.warning false

def relaunches (trace : List Event) : List String :=
  trace.filterMap fun
    | .relaunching id => some id
    | _ => none

structure Ledger where
  now : Time
  restarts : GoMap String ContainerRestartState
  relaunched : List String

def CellHost.ledger (host : CellHost) : Ledger where
  now := host.now
  restarts := host.restarts
  relaunched := relaunches host.trace

section Ledger

variable (host : CellHost)

theorem ledger_logged (event : Event) (hq : ∀ id, event ≠ .relaunching id) :
    (host.logged event).ledger = host.ledger := by
  have hs : relaunches [event] = [] := by
    cases event with
    | relaunching id => exact absurd rfl (hq id)
    | wrote doc derived => rfl
    | markedFailed reason => rfl
    | killed ids => rfl
    | deleted => rfl
  simp only [CellHost.ledger, CellHost.logged]
  rw [show relaunches (host.trace ++ [event]) = relaunches host.trace ++ relaunches [event] from
    List.filterMap_append, hs, List.append_nil]

theorem ledger_written (doc : Cell) : (host.written doc).ledger = host.ledger :=
  ledger_logged host (.wrote doc host.derived) (by simp)

theorem ledger_removed : host.removed.ledger = host.ledger :=
  ledger_logged host .deleted (by simp)

theorem ledger_relaunching (id : String) :
    (host.logged (.relaunching id)).ledger =
      { host.ledger with relaunched := host.ledger.relaunched ++ [id] } := by
  simp [CellHost.ledger, CellHost.logged, relaunches]

end Ledger

/-- A property of the spec and the container records of a cell that survives an operation. -/
structure HandedOn (doc : Cell → Prop) : Prop where
  edit : ∀ {before after}, doc before → after.spec = before.spec →
    after.status.containers = before.status.containers → doc after
  populate : ∀ {cell} now survey, doc cell → doc (populateCellContainerStatuses now survey cell)
  persist : ∀ {cell}, doc cell → doc (persistedCell cell)

theorem HandedOn.written {doc : Cell → Prop} (handed : HandedOn doc) {now : Time}
    {disk : Option Cell} {cell stored : Cell} (hh : doc cell)
    (hw : writeDocWithGeneration cellAccess disk
      (persistedCell (stampCellLifecycle now cell)) = .ok stored) : doc stored := by
  have hp : doc (persistedCell (stampCellLifecycle now cell)) :=
    handed.persist (handed.edit hh rfl rfl)
  obtain ⟨generation, rfl⟩ := written_eq hw
  exact handed.edit hp rfl rfl

def Populated (cell : Cell) : Prop :=
  cell.status.containers.map ContainerStatus.id = cell.spec.containers.map ContainerSpec.id

theorem populated_populate (now : Time) (survey : Survey) (cell : Cell) :
    Populated (populateCellContainerStatuses now survey cell) :=
  populated_ids now survey cell.spec.containers cell.status.containers

/-- The ledger is as it was, and the document on disk has the property. -/
structure Custody (doc : Cell → Prop) (ledger : Ledger) (host : CellHost) : Prop where
  ledger : host.ledger = ledger
  disk : ∀ stored, host.disk = some stored → doc stored

namespace Custody

variable {doc : Cell → Prop} {ledger : Ledger} {host next : CellHost}

variable (hh : Custody doc ledger host)

include hh

theorem idle (hs : next.ledger = host.ledger)
    (hd : next.disk = host.disk) : Custody doc ledger next :=
  ⟨hs.trans hh.ledger, hd ▸ hh.disk⟩

theorem counted {n : Nat} :
    Custody doc ledger { host with attempts := n } :=
  hh.idle rfl rfl

theorem written {stored : Cell} (hk : doc stored) :
    Custody doc ledger (host.written stored) := by
  refine ⟨(ledger_written host stored).trans hh.ledger, ?_⟩
  intro found ho
  cases ho
  exact hk

theorem removed : Custody doc ledger host.removed := by
  refine ⟨(ledger_removed host).trans hh.ledger, ?_⟩
  intro found ho
  cases ho

theorem logged {event : Event}
    (hq : ∀ id, event ≠ .relaunching id) : Custody doc ledger (host.logged event) :=
  hh.idle (ledger_logged host event hq) rfl

end Custody

-- The checks for blank names are never evaluated below.
attribute [local irreducible] GoText.trimSpace

section Operations

variable {doc : Cell → Prop} (handed : HandedOn doc) (ledger : Ledger)
include handed

theorem updateCellMetadata_custody (cell : Cell) (hh : doc cell) :
    Keeps (Custody doc ledger) (updateCellMetadata cell) := by
  mvcgen [updateCellMetadata]
  case vc5.h_2.h_2.h_3 host kept _ _ _ _ stored written _ =>
    have counted : Custody doc ledger { host with attempts := host.attempts + 1 } := kept.counted
    exact counted.written (handed.written hh written)
  all_goals exact Custody.counted ‹_›

theorem persistCellStatusGuarded_custody (cell : Cell) (hh : doc cell) :
    Keeps (Custody doc ledger) (persistCellStatusGuarded cell) := by
  have hm : doc { cell with status.observedGeneration := cell.metadata.generation } :=
    handed.edit hh rfl rfl
  have hw := updateCellMetadata_custody handed ledger _ hm
  mvcgen [persistCellStatusGuarded, attempt, hw]

theorem persistIf_custody (changed : Bool) (cell : Cell) (hh : doc cell) :
    Keeps (Custody doc ledger) (persistIf changed cell) := by
  have hp := persistCellStatusGuarded_custody handed ledger
  mvcgen [persistIf, rewording, hp]

theorem getCell_custody (read : CellRead) (asked : Cell) :
    Gives (Custody doc ledger) doc (getCell read asked) := by
  mvcgen [getCell, ofResult]
  next host kept _ _ _ stored there =>
    exact ⟨kept, handed.populate _ _ (kept.disk stored there)⟩

omit handed in
theorem signalContainers_custody (cell : Cell) :
    Keeps (Custody doc ledger) (signalContainers cell) := by
  mvcgen [signalContainers, log, ofResult]
  · exact (Custody.logged ‹_› (by simp)).logged (by simp)
  · exact Custody.logged ‹_› (by simp)

theorem killCellLocked_custody (inputs : KillInputs) (cell : Cell) :
    Gives (Custody doc ledger) doc (killCellLocked inputs cell) := by
  have hl := getCell_custody handed ledger
  have hs : ∀ cell : Cell, Keeps (Custody doc ledger) (signalContainers cell) :=
    signalContainers_custody ledger
  have hw := updateCellMetadata_custody handed ledger
  have hst : ∀ now (loaded : Cell), doc loaded →
      doc (populateCellContainerStatuses now inputs.after
        { loaded with status.state := .stopped }) := by
    intro now loaded hh
    exact handed.populate _ _ (handed.edit hh rfl rfl)
  mvcgen [killCellLocked, attempt, rewording, outside, ofResult, hl, hs, hw]
  all_goals grind

theorem reload_custody (read : CellRead) (asked : Cell) (hh : doc asked) :
    Gives (Custody doc ledger) doc (reload read asked) := by
  have hl := getCell_custody handed ledger
  mvcgen [reload, attempt, hl]

theorem markCellFailed_custody (inputs : FailInputs) (cell : Cell) (reason : String)
    (hh : doc cell) : Keeps (Custody doc ledger) (markCellFailed inputs cell reason) := by
  have hl := reload_custody handed ledger
  have hw := updateCellMetadata_custody handed ledger
  have hk := killCellLocked_custody handed ledger
  have hs : ∀ message (loaded : Cell), doc loaded → doc (stampFailed reason message loaded) := by
    intro message loaded hh
    exact handed.edit hh rfl rfl
  have hm : ∀ host, Custody doc ledger host →
      Custody doc ledger (host.logged (.markedFailed reason)) := by
    intro host hkp
    exact hkp.logged (by simp)
  mvcgen [markCellFailed, attempt, log, hl, hw, hk]
  all_goals grind

/-- A container that was started is in a cell that was read again from disk. -/
theorem startContainer_custody (inputs : StartInputs) (cell : Cell) (containerID : String)
    (hh : doc cell) :
    Gives (Custody doc ledger) (fun started => doc started ∧ Populated started)
      (startContainer inputs cell containerID) := by
  have hl := getCell_custody handed ledger
  have hw := updateCellMetadata_custody handed ledger
  have hf := markCellFailed_custody handed ledger
  have hr : ∀ now (loaded : Cell), doc loaded →
      doc (populateCellContainerStatuses now inputs.survey (markCellReady loaded)) := by
    intro now loaded hh
    exact handed.populate _ _ (handed.edit hh rfl rfl)
  have hp := populated_populate
  mvcgen [startContainer, provisionContainer, attempt, rewording, outside, ofResult, hl, hw,
    hf]
  all_goals grind

theorem recordCgroup_custody (inputs : CgroupInputs) (cell : Cell) (hh : doc cell) :
    Gives (Custody doc ledger) (SameWork cell) (recordCgroup inputs cell) := by
  have hw := updateCellMetadata_custody handed ledger
  have he : ∀ controllers, doc { cell with status.subtreeControllers := controllers } := by
    intro controllers
    exact handed.edit hh rfl rfl
  mvcgen [recordCgroup, hw]
  all_goals grind [SameWork]

theorem ensureCellCgroup_custody (inputs : CgroupInputs) (cell : Cell) (hh : doc cell) :
    Gives (Custody doc ledger) (SameWork cell) (ensureCellCgroup inputs cell) := by
  have hw := updateCellMetadata_custody handed ledger
  have hr := recordCgroup_custody handed ledger
  have hm : doc { cell with status.cgroupPath := inputs.group } := handed.edit hh rfl rfl
  mvcgen [ensureCellCgroup, outside, ofResult, hw, hr]
  all_goals grind [SameWork]

theorem healCgroup_custody (cgroup : Except String Bool) (inputs : CgroupInputs) (cell : Cell)
    (hh : doc cell) :
    Gives (Custody doc ledger) (SameWork cell) (healCgroup cgroup inputs cell) := by
  have he := ensureCellCgroup_custody handed ledger
  have hc : ∀ ready, doc { cell with status.cgroupReady := ready } := by
    intro ready
    exact handed.edit hh rfl rfl
  mvcgen [healCgroup, attempt, he]
  all_goals grind [SameWork]

theorem reconcileSticky_custody (survey : Survey) (cell : Cell) (hh : doc cell) :
    Keeps (Custody doc ledger) (reconcileSticky survey cell) := by
  have hp := persistIf_custody handed ledger
  mvcgen [reconcileSticky, hp]
  exact handed.populate _ _ hh

theorem deleteCellLocked_custody (inputs : DeleteInputs) (cell : Cell) :
    Keeps (Custody doc ledger) (deleteCellLocked inputs cell) := by
  have hl := getCell_custody handed ledger
  have hr : ∀ host, Custody doc ledger host → Custody doc ledger host.removed := by
    intro host hk
    exact hk.removed
  mvcgen [deleteCellLocked, attempt, outside, ofResult, hl]
  all_goals grind

theorem reapOrPersist_custody (inputs : TickInputs) (original : CellStatus) (newState : CellState)
    (cell : Cell) (hh : doc cell) :
    Keeps (Custody doc ledger) (reapOrPersist inputs original newState cell) := by
  have hp := persistIf_custody handed ledger
  have hk := killCellLocked_custody handed ledger
  have hd := deleteCellLocked_custody handed ledger
  mvcgen [reapOrPersist, windDownCell, autoDeleteCell, rewording, hp, hk, hd]
  all_goals grind

end Operations

end Kukeon.Runner
