import Kukeon.Runner.RestartPass

/-! # The course of a tick

A tick ends early, or it comes to a derived status and then settles the cell from there. What the
heal of the cgroup changes on the way is nothing that the derivation or the restart pass reads, so
that both can be told from the cell that was listed.
-/

namespace Kukeon.Runner

open ModelHub ApiScheme Effect Std.Do

set_option mvcgen.warning false

/-- The two cells are the same to the restart pass and to the gates that reap a cell. -/
structure SamePass (a b : Cell) : Prop where
  spec : b.spec = a.spec
  containers : b.status.containers = a.status.containers
  readyObserved : b.status.readyObserved = a.status.readyObserved
  state : b.status.state = a.status.state

def tickCell (inputs : TickInputs) (now : Time) (cell : Cell) : Cell :=
  deriveStatus inputs now cell.status cell

theorem deriveCellState_congr (rootState : Except RunnerError ContainerState) {a b : Cell}
    (hs : b.spec = a.spec) (hc : b.status.containers = a.status.containers) :
    deriveCellState rootState b = deriveCellState rootState a := by
  unfold deriveCellState deriveCellStateFromRootContainer
  rw [hs, hc]

theorem samePass_derived (inputs : TickInputs) (now : Time) {cell healed : Cell}
    (hsm : SameWork cell healed) :
    SamePass (tickCell inputs now cell) (deriveStatus inputs now cell.status healed) := by
  obtain ⟨hsp, hc, -⟩ := hsm
  have hp : (populateCellContainerStatuses now inputs.survey healed).status.containers =
      (populateCellContainerStatuses now inputs.survey cell).status.containers := by
    unfold populateCellContainerStatuses
    rw [hsp, hc]
  have hst : derivedState inputs (populateCellContainerStatuses now inputs.survey healed) =
      derivedState inputs (populateCellContainerStatuses now inputs.survey cell) := by
    have hs : (populateCellContainerStatuses now inputs.survey healed).spec =
        (populateCellContainerStatuses now inputs.survey cell).spec := hsp
    unfold derivedState
    rw [deriveCellState_congr inputs.rootState hs hp]
  refine ⟨?_, ?_, ?_, ?_⟩
  · rw [tickCell, deriveStatus_spec, deriveStatus_spec, hsp]
  · rw [tickCell, deriveStatus_containers, deriveStatus_containers, hp]
  · rw [tickCell, deriveStatus_readyObserved, deriveStatus_readyObserved, deriveStatus_state,
      deriveStatus_state, hst]
  · rw [tickCell, deriveStatus_state, deriveStatus_state, hst]

theorem rootDown_congr {a b : Cell} (hs : b.spec = a.spec)
    (hc : b.status.containers = a.status.containers) : rootDown b = rootDown a := by
  unfold rootDown
  rw [hs, hc]

theorem SamePass.passOpen {a b : Cell} (hs : SamePass a b) : passOpen b = passOpen a := by
  unfold Runner.passOpen
  rw [rootDown_congr hs.spec hs.containers, hs.readyObserved]

attribute [local irreducible] GoText.trimSpace

structure Settling (rules : Rules) (inputs : TickInputs) (cell healed : Cell) (before : CellHost)
    (host : CellHost) : Prop where
  work : SameWork cell healed
  doc : rules.doc none healed
  at_ : rules.At (some (deriveStatus inputs before.now cell.status healed).status.state) False host
  ledger : host.ledger = before.ledger

theorem getCell_final (read : CellRead) (cell : Cell) (host : CellHost) :
    finalState (getCell read cell) host = host := by
  rcases getCell_cases read cell host with ⟨_, _, run, _⟩ | ⟨_, _, run⟩ <;> simp [finalState, run]

/-- A tick whose cell is still there goes on with the cell that was listed. -/
theorem reconcileCell_apply (inputs : TickInputs) (cell : Cell) (before : CellHost) :
    (reconcileCell inputs cell) before =
      match ending (getCell inputs.reread cell) { before with derived := none } with
      | .error .cellNotFound =>
        (.ok (cell, { vanished := true }), { before with derived := none })
      | _ => (tickFrom inputs cell) { before with derived := none } := by
  have hb : finalState (modify fun host : CellHost => { host with derived := none } :
      RunnerM PUnit) before = { before with derived := none } := rfl
  unfold reconcileCell
  rw [bind_of_ok (show ending (modify fun host : CellHost => { host with derived := none } :
    RunnerM PUnit) before = .ok ⟨⟩ from rfl), hb,
    bind_of_ok (Yields.attempted (getCell inputs.reread cell) _).ending,
    (Yields.attempted (getCell inputs.reread cell) _).finalState, getCell_final]
  cases ending (getCell inputs.reread cell) { before with derived := none } with
  | ok loaded => rfl
  | error err =>
    cases err with
    | cellNotFound => rfl
    | _ => rfl

theorem reconcileCell_cases (inputs : TickInputs) (cell : Cell) (before : CellHost) :
    before.disk = none ∧ (reconcileCell inputs cell) before =
        (.ok (cell, { vanished := true }), { before with derived := none }) ∨
      (reconcileCell inputs cell) before = (tickFrom inputs cell) { before with derived := none } := by
  rw [reconcileCell_apply]
  split
  · next missing =>
    refine .inl ⟨?_, rfl⟩
    rcases getCell_cases inputs.reread cell { before with derived := none } with
      ⟨err, other, read, _⟩ | ⟨_, _, read⟩
    · exact absurd (Except.error.inj ((congrArg Prod.fst read).symm.trans missing)) other
    · cases disk : before.disk with
      | none => rfl
      | some doc =>
        rw [ending, read, disk] at missing
        cases missing
  · exact .inr rfl

theorem tickFrom_sticky {inputs : TickInputs} {cell : Cell}
    (hi : cellStateIsSticky cell.status.state = true) :
    tickFrom inputs cell = reconcileSticky inputs.survey cell :=
  if_pos hi

theorem healCgroup_ends (cgroup : Except String Bool) (inputs : CgroupInputs) (cell : Cell)
    (host : CellHost) : ∃ healed, ending (healCgroup cgroup inputs cell) host = .ok healed := by
  have he := fun next => keeps_true (ensureCellCgroup inputs next)
  have hn : ⦃fun _ => ⌜True⌝⦄ healCgroup cgroup inputs cell
      ⦃post⟨fun _ _ => ⌜True⌝, fun _ _ => ⌜False⌝⟩⦄ := by
    mvcgen [healCgroup, attempt, he]
  cases hen : ending (healCgroup cgroup inputs cell) host with
  | ok healed => exact ⟨healed, rfl⟩
  | error err => exact ((of_triple hn trivial).2 err hen).elim

def settlingHost (inputs : TickInputs) (cell healed : Cell) (host : CellHost) : CellHost :=
  { finalState (healCgroup inputs.cgroup inputs.heal cell) host with
    derived := some (deriveStatus inputs host.now cell.status healed).status.state }

theorem settlingHost_ledger (inputs : TickInputs) {cell healed : Cell} {host : CellHost}
    (he : ending (healCgroup inputs.cgroup inputs.heal cell) host = .ok healed) :
    (settlingHost inputs cell healed host).ledger = host.ledger :=
  ((of_triple (healCgroup_custody handedOn_true host.ledger inputs.cgroup inputs.heal cell trivial)
    (custody_true host)).1 healed he).1.ledger

/-- After the heal the tick settles the cell with the status it derives. -/
theorem tickFrom_settles (inputs : TickInputs) {cell : Cell} (host : CellHost)
    (hs : cellStateIsSticky cell.status.state = false) :
    ∃ healed, ending (healCgroup inputs.cgroup inputs.heal cell) host = .ok healed ∧
      SameWork cell healed ∧
      (tickFrom inputs cell) host =
        (settleCell inputs cell.status (deriveStatus inputs host.now cell.status healed))
          (settlingHost inputs cell healed host) := by
  obtain ⟨healed, he⟩ := healCgroup_ends inputs.cgroup inputs.heal cell host
  obtain ⟨-, hw⟩ := (of_triple (healCgroup_custody handedOn_true host.ledger inputs.cgroup
    inputs.heal cell trivial) (custody_true host)).1 healed he
  have now : (finalState (healCgroup inputs.cgroup inputs.heal cell) host).now = host.now :=
    congrArg Ledger.now (settlingHost_ledger inputs he)
  have hd := congrArg (deriveStatus inputs · cell.status healed) now
  refine ⟨healed, he, hw, ?_⟩
  unfold tickFrom settlingHost
  rw [if_neg (by simp [hs]), bind_of_ok he, ← hd]
  rfl

/-- The course of a tick: the document is gone, the state of the cell is sticky, or the cell is
    settled. -/
theorem reconcileCell_course (inputs : TickInputs) (cell : Cell) (before : CellHost) :
    before.disk = none ∧ (reconcileCell inputs cell) before =
        (.ok (cell, { vanished := true }), { before with derived := none }) ∨
      cellStateIsSticky cell.status.state = true ∧
        (reconcileCell inputs cell) before =
          reconcileSticky inputs.survey cell { before with derived := none } ∨
      cellStateIsSticky cell.status.state = false ∧
        ∃ healed, ending (healCgroup inputs.cgroup inputs.heal cell)
            { before with derived := none } = .ok healed ∧
          SameWork cell healed ∧
          (reconcileCell inputs cell) before =
            (settleCell inputs cell.status (deriveStatus inputs before.now cell.status healed))
              (settlingHost inputs cell healed { before with derived := none }) := by
  rcases reconcileCell_cases inputs cell before with hgn | hg
  · exact .inl hgn
  · cases hs : cellStateIsSticky cell.status.state with
    | true => exact .inr (.inl ⟨rfl, hg.trans (congrFun (tickFrom_sticky hs) _)⟩)
    | false =>
      obtain ⟨healed, he, hw, run⟩ := tickFrom_settles inputs { before with derived := none }
        hs
      exact .inr (.inr ⟨rfl, healed, he, hw, hg.trans run⟩)

section Reaches

variable {rules : Rules} (sound : rules.Sound)
include sound

/-- A tick ends early, with the rules kept and no container relaunched, or it goes on to settle the
    cell from a host that has kept them. -/
theorem reconcileCell_reaches (inputs : TickInputs) (hs : inputs.Allowed rules.survey)
    (cell : Cell) (may : rules.doc none cell) (before : CellHost)
    (hd : ∀ now healed, SameWork cell healed →
      rules.derives (deriveStatus inputs now cell.status healed).status.state)
    (hsr : rules.inv { before with derived := none }) :
    (rules.At none False (finalState (reconcileCell inputs cell) before) ∧
        (finalState (reconcileCell inputs cell) before).ledger = before.ledger) ∨
      cellStateIsSticky cell.status.state = false ∧
      ∃ healed host, Settling rules inputs cell healed before host ∧
        (reconcileCell inputs cell) before =
          (settleCell inputs cell.status (deriveStatus inputs before.now cell.status healed))
            host := by
  have hb : rules.At none False { before with derived := none } := ⟨hsr, rfl, False.elim⟩
  have hkp := custody_true { before with derived := none }
  rcases reconcileCell_course inputs cell before with ⟨-, hg⟩ | ⟨-, hsc⟩ |
    ⟨hst, healed, he, hw, run⟩
  · refine .inl ?_
    rw [show finalState (reconcileCell inputs cell) before = _ from congrArg Prod.snd hg]
    exact ⟨hb, rfl⟩
  · refine .inl ?_
    rw [(same_run hsc).2]
    exact ⟨holds_finalState (reconcileSticky_keeps sound none False inputs.survey hs.survey
        cell may) hb,
      (holds_finalState (reconcileSticky_custody handedOn_true _ inputs.survey cell trivial)
        hkp).ledger⟩
  · obtain ⟨hk, doc, -⟩ := (of_triple (healCgroup_keeps sound none False inputs.cgroup
      inputs.heal cell may) hb).1 healed he
    refine .inr ⟨hst, healed, settlingHost inputs cell healed { before with derived := none },
      ⟨hw, doc, ⟨?_, rfl, False.elim⟩, settlingHost_ledger inputs he⟩, run⟩
    exact sound.derive hk.inv hk.derived (hd _ healed hw)

end Reaches

def settlePassed (inputs : TickInputs) (original : CellStatus) (newState : CellState)
    (passed : Cell × RestartPassResult) : RunnerM (Cell × ReconcileOutcome) :=
  match passed.2 with
  | .restartFired => persistIf true (holdDegraded original passed.1)
  | .restartDeferred =>
    persistIf (statusChanged original (holdDeferred original passed.1))
      (holdDeferred original passed.1)
  | .restartNone => reapOrPersist inputs original newState passed.1

section Settle

variable {inputs : TickInputs} {original : CellStatus} {derived : Cell} {host : CellHost}

theorem settleCell_of_ok {passed : Cell × RestartPassResult}
    (he : ending (maybeRestartExitedContainers inputs.starts derived) host = .ok passed) :
    (settleCell inputs original derived) host =
      settlePassed inputs original derived.status.state passed
        (finalState (maybeRestartExitedContainers inputs.starts derived) host) :=
  bind_of_ok he _

theorem settleCell_of_error {err : RunnerError}
    (he : ending (maybeRestartExitedContainers inputs.starts derived) host = .error err) :
    ending (settleCell inputs original derived) host = .error err ∧
      finalState (settleCell inputs original derived) host =
        finalState (maybeRestartExitedContainers inputs.starts derived) host :=
  have run := bind_of_error he _
  ⟨congrArg Prod.fst run, congrArg Prod.snd run⟩

/-- Settling keeps the rules if the cell may be reaped whenever a gate opens after a pass without
    a result. -/
theorem settleCell_ends_of_pass {rules : Rules} (sound : rules.Sound) {state : CellState}
    (hs : inputs.Allowed rules.survey) (may : rules.doc (some state) derived)
    (hd : rules.doc (some state) (holdDeferred original derived))
    (ha : ∀ id status,
      Keyed.find ContainerStatus.id id derived.status.containers = some status →
        containerStateIsTerminal status.state = true → rules.relaunch id)
    (hst : rules.At (some state) False host)
    (hr : ∀ passed, ending (maybeRestartExitedContainers inputs.starts derived) host = .ok passed →
      passed.2 = .restartNone → reapDue derived = true → rules.reap) :
    rules.Ended (finalState (settleCell inputs original derived) host) := by
  have hp := of_triple (maybeRestartExitedContainers_keeps sound state False inputs.starts
    hs.starts derived may ha) hst
  cases he : ending (maybeRestartExitedContainers inputs.starts derived) host with
  | error err =>
    rw [(settleCell_of_error he).2]
    exact .inl (hp.2 err he).inv
  | ok passed =>
    obtain ⟨hh, doc, hu⟩ := hp.1 passed he
    rw [(same_run (settleCell_of_ok he)).2]
    rcases passed with ⟨cell, result⟩
    cases result with
    | restartFired =>
      have hhl : rules.doc (some state) (holdDegraded original cell) :=
        sound.edit doc (.ofDerived rfl rfl (.kept rfl) rfl rfl id)
      exact .inl (holds_finalState (persistIf_keeps sound _ False true _ hhl) hh).inv
    | restartDeferred =>
      have hsm : cell = derived := by grind [Unfired]
      subst hsm
      exact .inl (holds_finalState (persistIf_keeps sound _ False _ _ hd) hh).inv
    | restartNone =>
      have hsm : cell = derived := by grind [Unfired]
      subst hsm
      exact holds_finalState (reapOrPersist_ends sound state inputs hs original cell may
        (hr _ he rfl)) hh

end Settle

end Kukeon.Runner
