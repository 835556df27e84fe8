import Kukeon.Runner.OwedRestarts

/-! # A cell that owes a restart is held degraded

A crash derives the sticky `Error`, after which no tick would come to the restart pass again. While
a restart is owed, the tick overrides what it derived before it writes. The only other writer of a
sticky state in a tick is a relaunch that fails.
-/

namespace Kukeon.Runner

open ModelHub GoText ApiScheme Effect Std.Do

set_option mvcgen.warning false

def Unstuck (host : CellHost) : Prop :=
  ∀ doc derived, .wrote doc derived ∈ host.trace → cellStateIsSticky doc.status.state = false

def RelaunchFailed (err : RunnerError) : Prop :=
  ∃ id cause, err = .wrap ("restart container " ++ quoted id) cause

variable {host : CellHost}

theorem unstuck_logged {event : Event} (hh : Unstuck host)
    (hn : ∀ doc derived, event ≠ .wrote doc derived) : Unstuck (host.logged event) := by
  intro doc derived hm
  rcases List.mem_append.mp hm with old | new
  · exact hh doc derived old
  · exact absurd (List.mem_singleton.mp new).symm (hn doc derived)

theorem unstuck_written {doc : Cell} (hh : Unstuck host)
    (hc : cellStateIsSticky doc.status.state = false) : Unstuck (host.written doc) := by
  intro other derived hm
  rcases List.mem_append.mp hm with old | new
  · exact hh other derived old
  · cases List.mem_singleton.mp new
    exact hc

/-- The status that a document holds after the cell was persisted. -/
def writtenStatus (now : Time) (cell : Cell) : CellStatus :=
  statusWithoutSetup (stampCellLifecycle now
    { cell with status.observedGeneration := cell.metadata.generation }).status

theorem stored_writtenStatus {now : Time} {disk : Option Cell} {cell doc : Cell}
    (hw : writeDocWithGeneration cellAccess disk
      (persistedCell (stampCellLifecycle now cell)) = .ok doc) :
    doc.status = statusWithoutSetup (stampCellLifecycle now cell).status := by
  obtain ⟨generation, rfl⟩ := written_eq hw
  rfl

theorem written_derived (host : CellHost) (doc : Cell) :
    (host.written doc).derived = host.derived ∧ (host.written doc).disk = some doc :=
  ⟨rfl, rfl⟩

theorem refused_behind {now : Time} {disk : Option Cell} {cell : Cell} {observed onDisk : Int}
    (hr : writeDocWithGeneration cellAccess disk
      (persistedCell (stampCellLifecycle now cell)) = .error (.staleResource observed onDisk)) :
    ∃ doc, disk = some doc ∧ cell.metadata.generation < doc.metadata.generation := by
  cases disk with
  | none => cases hr
  | some prior =>
    unfold writeDocWithGeneration at hr
    dsimp only at hr
    split at hr
    next hb => exact ⟨prior, rfl, hb.2⟩
    next => cases hr

section Operations

-- The checks for blank names are never evaluated below.
attribute [local irreducible] GoText.trimSpace

theorem updateCellMetadata_unstuck (cell : Cell)
    (hcl : cellStateIsSticky cell.status.state = false) :
    Keeps Unstuck (updateCellMetadata cell) := by
  have hc : ∀ (host : CellHost) n, Unstuck host → Unstuck { host with attempts := n } :=
    fun _ _ hh => hh
  mvcgen [updateCellMetadata]
  rename_i host hh _ _ _ _ doc hw _
  refine unstuck_written (hc host _ hh) ?_
  rw [stored_writtenStatus hw]
  exact hcl

theorem startContainer_unstuck (inputs : StartInputs) (cell : Cell) (id : String) :
    ⦃fun host => ⌜Unstuck host⌝⦄ startContainer inputs cell id
    ⦃post⟨fun started host => ⌜Unstuck host ∧ started.status.readyObserved = true⌝,
      fun _ _ => ⌜True⌝⟩⦄ := by
  have hld : ∀ read (cell : Cell), Keeps Unstuck (getCell read cell) := by
    intro read cell
    mvcgen [getCell, ofResult]
  have hp : Keeps Unstuck (provisionContainer inputs cell) := by
    mvcgen [provisionContainer, outside, ofResult, rewording, hld]
  have hf := fun reason => keeps_true (markCellFailed inputs.failure cell reason)
  have hw : ∀ now updated, Keeps Unstuck (updateCellMetadata
      (populateCellContainerStatuses now inputs.survey (markCellReady updated))) := by
    intro now updated
    exact updateCellMetadata_unstuck _ rfl
  have hl : ∀ now updated, (populateCellContainerStatuses now inputs.survey
      (markCellReady updated)).status.readyObserved = true := fun _ _ => rfl
  mvcgen [startContainer, attempt, outside, ofResult, hp, hf, hw]

theorem restartExited_unstuck (start : StartInputs) (cell : Cell) (spec : ContainerSpec)
    (result : RestartPassResult) (hlt : cell.status.readyObserved = true) :
    ⦃fun host => ⌜Unstuck host⌝⦄ restartExited start cell spec result
    ⦃post⟨fun passed host => ⌜Unstuck host ∧ passed.1.status.readyObserved = true⌝,
      fun err _ => ⌜RelaunchFailed err⌝⟩⦄ := by
  have hl := startContainer_unstuck start
  have hrc : ∀ (host : CellHost) restarts, Unstuck host →
      Unstuck { host with restarts := restarts } := fun _ _ hh => hh
  have hr : ∀ host, Unstuck host → Unstuck (host.logged (.relaunching spec.id)) :=
    fun host hh => unstuck_logged hh (by simp)
  mvcgen [restartExited, attempt, log, recordRestartAttempt, hl]
  all_goals grind [RelaunchFailed]

theorem restartTurn_unstuck (starts : Nat → StartInputs) (statuses : List ContainerStatus)
    (index : Nat) (cell : Cell) (result : RestartPassResult)
    (hl : cell.status.readyObserved = true) :
    ⦃fun host => ⌜Unstuck host⌝⦄ restartTurn starts statuses index cell result
    ⦃post⟨fun passed host => ⌜Unstuck host ∧ passed.1.status.readyObserved = true⌝,
      fun err host => ⌜RelaunchFailed err ∨ Unstuck host⌝⟩⦄ := by
  have hr := restartExited_unstuck (starts index)
  have hc : ∀ id, Keeps Unstuck (clearRestartState id) := by
    intro id
    mvcgen [clearRestartState]
  mvcgen [restartTurn, hr, hc]
  all_goals grind

theorem maybeRestart_unstuck (starts : Nat → StartInputs) (cell : Cell)
    (hl : cell.status.readyObserved = true) :
    ⦃fun host => ⌜Unstuck host⌝⦄ maybeRestartExitedContainers starts cell
    ⦃post⟨fun passed host => ⌜Unstuck host ∧ passed.1.status.readyObserved = true⌝,
      fun err host => ⌜RelaunchFailed err ∨ Unstuck host⌝⟩⦄ := by
  have ht := restartTurn_unstuck starts cell.status.containers
  refine maybeRestart_rule (fun host hh => ⟨hh, hl⟩) fun index _ passed => ?_
  mvcgen [ht]
  all_goals grind

theorem healCgroup_unstuck (cgroup : Except String Bool) (inputs : CgroupInputs) (cell : Cell)
    (hc : cellStateIsSticky cell.status.state = false) :
    Keeps Unstuck (healCgroup cgroup inputs cell) := by
  have hw : ∀ next : Cell, next.status.state = cell.status.state →
      Keeps Unstuck (updateCellMetadata next) := by
    intro next hs
    exact updateCellMetadata_unstuck next (hs ▸ hc)
  have hr : ∀ next : Cell, next.status.state = cell.status.state →
      Keeps Unstuck (recordCgroup inputs next) := by
    intro next hs
    mvcgen [recordCgroup, hw]
  have he : ∀ next : Cell, next.status.state = cell.status.state →
      Keeps Unstuck (ensureCellCgroup inputs next) := by
    intro next hs
    mvcgen [ensureCellCgroup, outside, ofResult, hr, hw]
    exact fun _ _ => hs
  mvcgen [healCgroup, attempt, he]

/-- What the last write of a tick has left: the status of the cell, or a document of a later
    generation that refused it. -/
structure Settled (changed : Bool) (cell : Cell) (start : CellHost)
    (passed : Cell × ReconcileOutcome) (host : CellHost) : Prop where
  returned : passed.1 = cell
  reaped : passed.2.deleted = false ∧ passed.2.vanished = false
  written : passed.2.updated = true →
    ∃ doc, host.disk = some doc ∧ doc.status = writtenStatus start.now cell
  skipped : passed.2.updated = false → host.disk = start.disk
  gate : passed.2.updated = true → changed = true
  refused : passed.2.updated = false → changed = true →
    ∃ doc, host.disk = some doc ∧ cell.metadata.generation < doc.metadata.generation

theorem updateCellMetadata_writes (cell : Cell) (start : CellHost) :
    ⦃fun host => ⌜host = start⌝⦄ updateCellMetadata cell
    ⦃post⟨fun _ host => ⌜host.derived = start.derived ∧ ∃ doc, host.disk = some doc ∧
        doc.status = statusWithoutSetup (stampCellLifecycle start.now cell).status⌝,
      fun err host => ⌜host.derived = start.derived ∧ host.disk = start.disk ∧
        ∀ observed onDisk, err = .staleResource observed onDisk →
          ∃ doc, host.disk = some doc ∧ cell.metadata.generation < doc.metadata.generation⌝⟩⦄ := by
  mvcgen [updateCellMetadata]
  all_goals grind [stored_writtenStatus, written_derived, refused_behind]

theorem persistIf_writes (changed : Bool) (cell : Cell) (start : CellHost) :
    ⦃fun host => ⌜host = start⌝⦄ persistIf changed cell
    ⦃post⟨fun passed host => ⌜host.derived = start.derived ∧
        Settled changed cell start passed host⌝,
      fun _ host => ⌜host.derived = start.derived⌝⟩⦄ := by
  have hw := updateCellMetadata_writes
    { cell with status.observedGeneration := cell.metadata.generation } start
  mvcgen [persistIf, persistCellStatusGuarded, rewording, attempt, hw]
  all_goals grind [Settled, writtenStatus]

theorem persistIf_unstuck (changed : Bool) (cell : Cell)
    (hc : cellStateIsSticky cell.status.state = false) :
    Keeps Unstuck (persistIf changed cell) := by
  have hw := updateCellMetadata_unstuck
    { cell with status.observedGeneration := cell.metadata.generation } hc
  mvcgen [persistIf, persistCellStatusGuarded, rewording, attempt, hw]

end Operations

/-- What a tick leaves that holds its cell degraded: a document in that state, unless the cell was
    in it before or a later generation on disk has refused the write. -/
structure Held (original : CellStatus) (passed : Cell × ReconcileOutcome) (host : CellHost) :
    Prop where
  kept : passed.2.deleted = false
  updated : passed.2.updated = true → ∃ doc, host.disk = some doc ∧
    doc.status.state = .degraded ∧ doc.status.readyObserved = true
  refused : passed.2.updated = false → original.state = .degraded ∨
    ∃ doc, host.disk = some doc ∧ passed.1.metadata.generation < doc.metadata.generation

theorem persistIf_held {original : CellStatus} {changed : Bool} {held : Cell}
    (hd : held.status.state = .degraded) (hl : held.status.readyObserved = true)
    (hu : changed = false → original.state = .degraded) {passed : Cell × ReconcileOutcome}
    (he : ending (persistIf changed held) host = .ok passed) :
    Held original passed (finalState (persistIf changed held) host) := by
  obtain ⟨-, hp⟩ := (of_triple (persistIf_writes changed held host) rfl).1 passed he
  refine ⟨hp.reaped.1, ?_, ?_⟩
  · intro hup
    obtain ⟨doc, hod, hs⟩ := hp.written hup
    exact ⟨doc, hod, by rw [hs, ← hd]; rfl, by rw [hs, ← hl]; rfl⟩
  · intro hr
    cases hw : changed with
    | false => exact .inl (hu hw)
    | true =>
      rw [hp.returned]
      exact .inr (hw ▸ hp.refused hr hw)

/-- Settling holds the cell degraded after a pass that has fired or deferred a restart. -/
theorem settleCell_held {inputs : TickInputs} {original : CellStatus} {derived : Cell}
    (hun : Unstuck host) (ho : original.readyObserved = true)
    (hl : derived.status.readyObserved = true)
    (how : ∀ passed, ending (maybeRestartExitedContainers inputs.starts derived) host = .ok passed →
      passed.2 ≠ .restartNone)
    (hsp : ∀ err, ending (settleCell inputs original derived) host = .error err →
      ¬ RelaunchFailed err) :
    Unstuck (finalState (settleCell inputs original derived) host) ∧
      ∀ passed, ending (settleCell inputs original derived) host = .ok passed →
        Held original passed (finalState (settleCell inputs original derived) host) := by
  have hp := of_triple (maybeRestart_unstuck inputs.starts derived hl) hun
  cases he : ending (maybeRestartExitedContainers inputs.starts derived) host with
  | error err =>
    obtain ⟨hfl, hf⟩ := @settleCell_of_error inputs original _ _ _ he
    refine ⟨?_, fun passed ran => absurd (hfl.symm.trans ran) nofun⟩
    rw [hf]
    exact (hp.2 err he).resolve_left (hsp err hfl)
  | ok passed =>
    obtain ⟨hh, hsn⟩ := hp.1 passed he
    have run : (settleCell inputs original derived) host = _ := settleCell_of_ok he
    obtain ⟨ran, hfn⟩ := same_run run
    rw [ran, hfn]
    have hr := how passed he
    rcases passed with ⟨cell, reported⟩
    cases reported with
    | restartNone => exact absurd rfl hr
    | restartFired =>
      have hs : settlePassed inputs original derived.status.state (cell, .restartFired) =
          persistIf true (holdDegraded original cell) := rfl
      rw [hs]
      have hl : (holdDegraded original cell).status.readyObserved = true := hsn
      refine ⟨holds_finalState (persistIf_unstuck true (holdDegraded original cell) rfl) hh, ?_⟩
      intro last ran
      exact persistIf_held rfl hl (by simp) ran
    | restartDeferred =>
      have hu : statusChanged original (holdDeferred original cell) = false →
          original.state = .degraded := by
        intro hsm
        simp only [statusChanged, Bool.or_eq_false_iff] at hsm
        exact not_not.mp (of_decide_eq_false hsm.1.1.1.1)
      have hs : settlePassed inputs original derived.status.state
          (cell, .restartDeferred) = persistIf
            (statusChanged original (holdDeferred original cell))
            (holdDeferred original cell) := rfl
      rw [hs]
      have hl : (holdDeferred original cell).status.readyObserved = true := ho
      refine ⟨holds_finalState (persistIf_unstuck _ (holdDeferred original cell) rfl) hh, ?_⟩
      intro last ran
      exact persistIf_held rfl hl hu ran

/-- A tick of a cell that is on disk, in which a restart is owed and no relaunch fails, writes no
    sticky state, and what it leaves is degraded and has been seen ready, so that the next tick comes
    to the restart pass. -/
theorem owed_restart_holds_degraded (inputs : TickInputs) (cell : Cell) (before : CellHost)
    {doc : Cell} (onDisk : before.disk = some doc) (fresh : before.trace = [])
    (notSticky : cellStateIsSticky cell.status.state = false)
    (observed : cell.status.readyObserved = true) (up : rootSeenUp inputs.survey cell = true)
    (owed : Owed inputs cell before)
    (spared : ∀ err, ending (reconcileCell inputs cell) before = .error err →
      ¬ RelaunchFailed err) :
    Unstuck (finalState (reconcileCell inputs cell) before) ∧
      ∀ passed, ending (reconcileCell inputs cell) before = .ok passed →
        Held cell.status passed (finalState (reconcileCell inputs cell) before) := by
  have hb : Unstuck { before with derived := none } := by
    intro doc derived hm
    rw [show ({ before with derived := none } : CellHost).trace = [] from fresh] at hm
    cases hm
  rcases reconcileCell_course inputs cell before with ⟨gone, -⟩ | ⟨hs, -⟩ |
    ⟨-, healed, he, hw, run⟩
  · cases onDisk.symm.trans gone
  · exact absurd hs (by simp [notSticky])
  · obtain ⟨ran, hf⟩ := same_run run
    rw [ran] at spared
    rw [ran, hf]
    have hh : Unstuck (settlingHost inputs cell healed { before with derived := none }) :=
      (of_triple (healCgroup_unstuck inputs.cgroup inputs.heal cell notSticky) hb).1 healed he
    have hld : (settlingHost inputs cell healed { before with derived := none }).ledger =
        before.ledger := settlingHost_ledger inputs he
    have hsm := samePass_derived inputs before.now hw
    have hl : (deriveStatus inputs before.now cell.status healed).status.readyObserved =
        true := by
      rw [deriveStatus_readyObserved, observed]
      rfl
    have hi : passOpen (deriveStatus inputs before.now cell.status healed) = true := by
      unfold passOpen
      rw [hl, rootDown_congr hsm.spec hsm.containers, rootDown_tickCell, up]
      rfl
    have ho : ∀ passed, ending (maybeRestartExitedContainers inputs.starts
        (deriveStatus inputs before.now cell.status healed))
        (settlingHost inputs cell healed { before with derived := none }) = .ok passed →
        passed.2 ≠ .restartNone := by
      intro passed hp
      exact result_of_owed hsm hld hi owed hp
    exact settleCell_held hh observed hl ho spared

theorem owed_restart_holds_degraded_of_crash :
    Unstuck (finalState (reconcileCell (.steady oneCrashed) pairCell)
        { now := 9, disk := some pairCell }) ∧
      ∀ passed, ending (reconcileCell (.steady oneCrashed) pairCell)
          { now := 9, disk := some pairCell } = .ok passed →
        Held pairCell.status passed (finalState (reconcileCell (.steady oneCrashed) pairCell)
          { now := 9, disk := some pairCell }) :=
  owed_restart_holds_degraded (.steady oneCrashed) pairCell { now := 9, disk := some pairCell } rfl
    rfl (by decide) (by decide) (by decide) (by decide) (fun err hf => by
      have he : (ending (reconcileCell (.steady oneCrashed) pairCell)
        { now := 9, disk := some pairCell }).toOption.isSome = true := by decide
      rw [hf] at he
      cases he)

end Kukeon.Runner
