import Kukeon.Runner.Passes
import Kukeon.Runner.TickRun

/-! # What a tick does to the bookkeeping of restarts

Nothing but the restart pass touches the bookkeeping, and the pass does so turn by turn. A property of
the ledger that every turn keeps is kept by every tick, and by every step of the daemon.
-/

namespace Kukeon.Runner

open ModelHub ApiScheme Effect Std.Do

set_option mvcgen.warning false

/-- What the restart pass reads of every container of the cell has the property. -/
def AllFields (allowed : RestartFields → Prop) (cell : Cell) : Prop :=
  ∀ spec ∈ cell.spec.containers, allowed (restartFields spec)

theorem fields_persisted (cell : Cell) :
    (persistedCell cell).spec.containers.map restartFields =
      cell.spec.containers.map restartFields := by
  simp only [persistedCell, storedSpec, CellSpec.deref, List.map_map]
  rfl

theorem handedOn_allFields (allowed : RestartFields → Prop) : HandedOn (AllFields allowed) where
  edit := by
    intro before after all hs _
    unfold AllFields
    rw [hs]
    exact all
  populate := fun _ _ all => all
  persist := by
    intro cell all
    have he : ∀ fields ∈ (persistedCell cell).spec.containers.map restartFields,
        allowed fields := by
      rw [fields_persisted]
      exact List.forall_mem_map.mpr all
    exact List.forall_mem_map.mp he

/-- A property of the ledger that the turn of every allowed container keeps. -/
def KeptByTurns (statuses : List ContainerStatus) (allowed : RestartFields → Prop)
    (holds : Ledger → Prop) : Prop :=
  ∀ ledger fields, allowed fields → holds ledger → holds (ledger.turn statuses fields)

/-- The ledger has the property, and the containers of the document are allowed. -/
structure Follows (allowed : RestartFields → Prop) (holds : Ledger → Prop) (host : CellHost) :
    Prop where
  ledger : holds host.ledger
  disk : ∀ stored, host.disk = some stored → AllFields allowed stored

section Follows

variable {allowed : RestartFields → Prop} {holds : Ledger → Prop} {statuses : List ContainerStatus}

theorem Follows.custody {host : CellHost} (hh : Follows allowed holds host) :
    Custody (AllFields allowed) host.ledger host :=
  ⟨rfl, hh.disk⟩

theorem Follows.ofCustody {ledger : Ledger} {host : CellHost}
    (hk : Custody (AllFields allowed) ledger host) (hh : holds ledger) :
    Follows allowed holds host :=
  ⟨hk.ledger ▸ hh, hk.disk⟩

theorem restartTurn_follows (hr : KeptByTurns statuses allowed holds)
    (starts : Nat → StartInputs) (index : Nat) (cell : Cell) (result : RestartPassResult)
    (hh : AllFields allowed cell) :
    Gives (Follows allowed holds) (fun passed => AllFields allowed passed.1)
      (restartTurn starts statuses index cell result) := by
  have handed := handedOn_allFields allowed
  cases hd : cell.spec.containers[index]? with
  | none =>
    simp only [restartTurn, hd]
    mvcgen
  | some spec =>
    refine triple_of_runs fun host hf => ?_
    obtain ⟨hs, hfl⟩ := of_triple
      (restartTurn_custody handed host.ledger starts statuses index cell spec result (fun _ => hh)
        hd) hf.custody
    have ht := hr host.ledger (restartFields spec)
      (hh spec (List.mem_of_getElem? hd)) hf.ledger
    refine ⟨?_, ?_⟩
    · intro passed he
      obtain ⟨hk, -, hi⟩ := hs passed he
      refine ⟨.ofCustody hk ht, ?_⟩
      dsimp only
      by_cases hfr : Ledger.Fires statuses host.ledger (restartFields spec)
      · obtain ⟨started, all, -, hsm⟩ := hi.1 hfr
        rw [hsm]
        exact all
      · rw [hi.2 hfr]
        exact hh
    · intro err he
      exact .ofCustody (hfl err he).2 ht

theorem maybeRestart_follows {cell : Cell}
    (hr : KeptByTurns cell.status.containers allowed holds) (starts : Nat → StartInputs)
    (hh : AllFields allowed cell) :
    Gives (Follows allowed holds) (fun passed => AllFields allowed passed.1)
      (maybeRestartExitedContainers starts cell) := by
  have ht := restartTurn_follows hr starts
  refine maybeRestart_rule (fun host hf => ⟨hf, hh⟩) fun index _ passed => ?_
  mvcgen [ht]
  all_goals grind

theorem keeps_of_custody {α : Type} {m : RunnerM α}
    (hc : ∀ ledger, Keeps (Custody (AllFields allowed) ledger) m) :
    Keeps (Follows allowed holds) m := by
  refine triple_of_runs fun host hf => ?_
  obtain ⟨hs, hfl⟩ := of_triple (hc host.ledger) hf.custody
  exact ⟨fun _ he => .ofCustody (hs _ he) hf.ledger,
    fun _ he => .ofCustody (hfl _ he) hf.ledger⟩

theorem settleCell_follows {inputs : TickInputs} {original : CellStatus} {derived : Cell}
    (hr : KeptByTurns derived.status.containers allowed holds)
    (hh : AllFields allowed derived) :
    Keeps (Follows allowed holds) (settleCell inputs original derived) := by
  have handed := handedOn_allFields allowed
  have hps := maybeRestart_follows hr inputs.starts hh
  have hp : ∀ changed (cell : Cell), AllFields allowed cell →
      Keeps (Follows allowed holds) (persistIf changed cell) := by
    intro changed cell hh
    exact keeps_of_custody fun ledger => persistIf_custody handed ledger changed cell hh
  have hrp : ∀ state (cell : Cell), AllFields allowed cell →
      Keeps (Follows allowed holds) (reapOrPersist inputs original state cell) := by
    intro state cell hh
    exact keeps_of_custody fun ledger =>
      reapOrPersist_custody handed ledger inputs original state cell hh
  have hhl : ∀ cell : Cell, AllFields allowed cell → AllFields allowed (holdDegraded original cell) ∧
      AllFields allowed (holdDeferred original cell) := fun _ hh => ⟨hh, hh⟩
  mvcgen [settleCell, hps, hp, hrp]
  all_goals grind

theorem reconcileCell_follows {inputs : TickInputs} {cell : Cell} {before : CellHost}
    (hr : KeptByTurns (tickCell inputs before.now cell).status.containers allowed holds)
    (hh : AllFields allowed cell) (hst : Follows allowed holds before) :
    Follows allowed holds (finalState (reconcileCell inputs cell) before) := by
  have handed := handedOn_allFields allowed
  have hb : Follows allowed holds { before with derived := none } := ⟨hst.ledger, hst.disk⟩
  rcases reconcileCell_course inputs cell before with ⟨-, hg⟩ | ⟨-, hs⟩ |
    ⟨-, healed, he, hw, run⟩
  · rw [show finalState (reconcileCell inputs cell) before = _ from congrArg Prod.snd hg]
    exact hb
  · rw [(same_run hs).2]
    exact .ofCustody (holds_finalState (reconcileSticky_custody handed _ inputs.survey cell hh)
      hb.custody) hb.ledger
  · have hk := ((of_triple (healCgroup_custody handed _ inputs.cgroup inputs.heal cell hh)
      hb.custody).1 healed he).1
    have hsm := samePass_derived inputs before.now hw
    rw [(same_run run).2]
    refine holds_finalState (settleCell_follows ?_ ?_) ?_
    · rw [hsm.containers]
      exact hr
    · unfold AllFields
      rw [deriveStatus_spec, hw.1]
      exact hh
    · exact .ofCustody (hk.idle rfl rfl) hb.ledger

end Follows

theorem handedOn_withFields (all : List RestartFields) : HandedOn (WithFields all) where
  edit := by
    intro before after hr hs _
    unfold WithFields
    rw [hs]
    exact hr
  populate := fun _ _ hr => hr
  persist := by
    intro cell hr
    exact (fields_persisted cell).trans hr

section Whole

variable {doc : Cell → Prop} {all : List RestartFields} (handed : HandedOn doc)
include handed

variable {inputs : TickInputs}

theorem derived_doc {cell healed : Cell} (hh : doc cell) (hw : SameWork cell healed)
    (now : Time) : doc (deriveStatus inputs now cell.status healed) := by
  refine handed.edit (handed.populate now inputs.survey (handed.edit hh hw.1 hw.2.1)) ?_ ?_
  · exact deriveStatus_spec _ _ _ _
  · exact deriveStatus_containers _ _ _ _

theorem settlePassed_custody (ledger : Ledger) (inputs : TickInputs) (original : CellStatus)
    (state : CellState) (passed : Cell × RestartPassResult) (hh : doc passed.1) :
    Keeps (Custody doc ledger) (settlePassed inputs original state passed) := by
  have hhl : doc (holdDegraded original passed.1) ∧ doc (holdDeferred original passed.1) :=
    ⟨handed.edit hh rfl rfl, handed.edit hh rfl rfl⟩
  have hp := persistIf_custody handed ledger
  have hr := reapOrPersist_custody handed ledger
  unfold settlePassed
  cases passed.2 with
  | restartFired => exact hp _ _ hhl.1
  | restartDeferred => exact hp _ _ hhl.2
  | restartNone => exact hr _ _ _ _ hh

/-- A tick that comes to the end of its restart pass has gone over all containers. -/
theorem settleCell_turns (hr : ∀ {cell}, doc cell → WithFields all cell)
    (hs : ∀ {cell} now id, doc cell → doc (stampedRestart now id cell)) {original : CellStatus}
    {derived : Cell} {host : CellHost} {ledger : Ledger} (hk : Custody doc ledger host)
    (hh : doc derived) (hi : passOpen derived = true) {passed : Cell × ReconcileOutcome}
    (he : ending (settleCell inputs original derived) host = .ok passed) :
    Custody doc (ledger.turns derived.status.containers all)
      (finalState (settleCell inputs original derived) host) := by
  have ht := of_triple (restartTurns_custody derived.status.containers handed hr inputs.starts
    (reading_range all) ledger (sustained_of_stamp hs ledger all) derived (hr hh) (fun _ => hh)
    .restartNone) hk
  rw [← maybeRestart_open inputs.starts derived hi (hr hh)] at ht
  cases hp : ending (maybeRestartExitedContainers inputs.starts derived) host with
  | error err =>
    cases (settleCell_of_error hp).1.symm.trans he
  | ok result =>
    obtain ⟨ha, -, hres⟩ := ht.1 result hp
    have hih : doc result.1 := by
      by_cases hq : ledger.Quiet derived.status.containers all
      · exact hres.1 hq ▸ hh
      · obtain ⟨started, id, hst, -, -, hsm⟩ := hres.2 hq
        exact hsm ▸ hs _ id hst
    rw [(same_run (settleCell_of_ok hp)).2]
    exact holds_finalState (settlePassed_custody handed _ inputs original _ result hih) ha

theorem reconcileCell_turns (hr : ∀ {cell}, doc cell → WithFields all cell)
    (hst : ∀ {cell} now id, doc cell → doc (stampedRestart now id cell)) {cell : Cell}
    {before : CellHost} (hhr : doc cell) (hd : ∀ stored, before.disk = some stored → doc stored)
    (hs : cellStateIsSticky cell.status.state = false)
    (hi : passOpen (tickCell inputs before.now cell) = true) {passed : Cell × ReconcileOutcome}
    (he : ending (reconcileCell inputs cell) before = .ok passed)
    (hp : passed.2.vanished = false) :
    Custody doc (before.ledger.turns (tickCell inputs before.now cell).status.containers all)
      (finalState (reconcileCell inputs cell) before) := by
  have hb : Custody doc before.ledger { before with derived := none } := ⟨rfl, hd⟩
  rcases reconcileCell_course inputs cell before with ⟨-, hg⟩ | ⟨hsc, -⟩ |
    ⟨-, healed, hh, hw, run⟩
  · have hv : ending (reconcileCell inputs cell) before = .ok (cell, { vanished := true }) :=
      congrArg Prod.fst hg
    cases hv.symm.trans he
    cases hp
  · exact absurd hsc (by simp [hs])
  · have hk := ((of_triple (healCgroup_custody handed _ inputs.cgroup inputs.heal cell hhr)
      hb).1 healed hh).1
    obtain ⟨ran, hf⟩ := same_run run
    rw [ran] at he
    have hsm := samePass_derived inputs before.now hw
    rw [← hsm.passOpen] at hi
    rw [hf, ← hsm.containers]
    refine settleCell_turns handed hr hst ?_ (derived_doc handed hhr hw _) hi he
    exact hk.idle rfl rfl

end Whole

theorem refreshCell_custody (ledger : Ledger) (inputs : RefreshInputs) (cell : Cell) :
    Keeps (Custody (fun _ => True) ledger) (refreshCell inputs cell) := by
  have hp : ∀ cell : Cell,
      Keeps (Custody (fun _ => True) ledger) (persistCellStatusGuarded cell) := by
    intro cell
    exact persistCellStatusGuarded_custody handedOn_true ledger cell trivial
  have hi : ∀ (host : CellHost) derived, Custody (fun _ => True) ledger host →
      Custody (fun _ => True) ledger { host with derived := derived } := by
    intro host derived hk
    exact hk.idle rfl rfl
  mvcgen [refreshCell, rewording, hp]
  all_goals grind

/-- The cell that a step ticks, with the inputs of the tick and the host it begins on. -/
def Daemon.ticks (daemon : Daemon) : Step → Option (TickInputs × Cell × CellHost)
  | .pass (.tick moment inputs) =>
    daemon.reconcileSnapshot.map fun cell => (inputs, cell, daemon.host.begin moment)
  | _ => none

theorem Daemon.step_of_ticks {daemon : Daemon} {step : Step} {inputs : TickInputs} {cell : Cell}
    {before : CellHost} (ht : daemon.ticks step = some (inputs, cell, before)) :
    (daemon.step step).host = finalState (reconcileCell inputs cell) before ∧
      before.restarts = daemon.host.restarts ∧ before.disk = daemon.host.disk ∧
      before.trace = [] := by
  match step with
  | .pass (.tick moment inputs) =>
    obtain ⟨listed, hi, hs⟩ := Option.map_eq_some_iff.mp ht
    cases hs
    refine ⟨?_, rfl, rfl, rfl⟩
    simp only [Daemon.step, Daemon.pass, hi]
  | .pass .listForReconcile | .pass .listForRefresh | .pass (.refresh _ _) | .operate _ =>
    cases ht

theorem Daemon.step_restarts {daemon : Daemon} {step : Step} (hi : daemon.ticks step = none) :
    (daemon.step step).host.restarts = daemon.host.restarts ∧
      relaunches (daemon.step step).host.trace = [] := by
  have ho : ∀ (moment : Moment) (after : CellHost),
      after.ledger = (daemon.host.begin moment).ledger →
      after.restarts = daemon.host.restarts ∧ relaunches after.trace = [] := by
    intro moment after hs
    exact ⟨congrArg Ledger.restarts hs, congrArg Ledger.relaunched hs⟩
  match step with
  | .pass .listForReconcile | .pass .listForRefresh => exact ⟨rfl, rfl⟩
  | .pass (.tick moment inputs) =>
    have hu : daemon.reconcileSnapshot = none := Option.map_eq_none_iff.mp hi
    simp only [Daemon.step, Daemon.pass, hu]
    exact ⟨rfl, rfl⟩
  | .pass (.refresh moment inputs) =>
    refine ho moment _ ?_
    simp only [Daemon.step, Daemon.pass]
    cases daemon.refreshSnapshot with
    | none => rfl
    | some cell =>
      exact (holds_finalState (refreshCell_custody _ inputs cell) (custody_true _)).ledger
  | .operate (.persist moment cell) =>
    refine ho moment _ ?_
    exact (holds_finalState (updateCellMetadata_custody handedOn_true _ cell trivial)
      (custody_true _)).ledger
  | .operate .delete => exact ho {} _ (ledger_removed _)

end Kukeon.Runner
