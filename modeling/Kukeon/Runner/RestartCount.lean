import Kukeon.Runner.Convergence
import Kukeon.Runner.RestartBudget

/-! # The counters of restarts

A relaunch reads the cell again from disk, and its counter is raised on that copy. The document is
written once, at the end of the pass, so that of several containers relaunched in one pass only the
last is counted. Where no pass relaunches two containers, the counters are exact.
-/

namespace Kukeon.Runner

open ModelHub ApiScheme Effect Std.Do Runs

set_option mvcgen.warning false

def countOn (statuses : List ContainerStatus) (id : String) : Int :=
  ((Keyed.find ContainerStatus.id id statuses).getD {}).restartCount

theorem countOn_congr {statuses others : List ContainerStatus}
    (hs : statuses.map (fun status => (status.id, status.restartCount)) =
      others.map fun status => (status.id, status.restartCount)) (id : String) :
    countOn statuses id = countOn others id :=
  Keyed.getD_find_congr ContainerStatus.restartCount hs {}

variable {id : String} {α : Type} {host : CellHost} {all : List RestartFields}

/-- Populating preserves the counter of every container of the spec. -/
theorem countOn_populated (now : Time) (survey : Survey) {cell : Cell}
    (hd : id ∈ cell.spec.containers.map ContainerSpec.id) :
    countOn (populateCellContainerStatuses now survey cell).status.containers id =
      countOn cell.status.containers id := by
  have hp : (Keyed.find ContainerStatus.id id
      (populateCellContainerStatuses now survey cell).status.containers).isSome := by
    rw [Keyed.find_isSome, Keyed.keys, List.mem_dedup, populateCellContainerStatuses, populated_ids]
    exact hd
  obtain ⟨status, hf⟩ := Option.isSome_iff_exists.mp hp
  obtain ⟨hm, hn⟩ := Keyed.find_some hf
  obtain ⟨index, spec, -, rfl⟩ := mem_populated hm
  unfold countOn
  rw [hf, ← hn, populatedStatus_id]
  rfl

theorem countOn_cons_other {status : ContainerStatus} {rest : List ContainerStatus}
    (hd : status.id ≠ id) : countOn (status :: rest) id = countOn rest id := by
  unfold countOn
  rw [Keyed.find_cons, if_neg hd, Option.or_none]

theorem countOn_cons_self {status : ContainerStatus} {rest : List ContainerStatus}
    (hn : status.id = id) (ha : id ∉ rest.map ContainerStatus.id) :
    countOn (status :: rest) id = status.restartCount := by
  have hnn : Keyed.find ContainerStatus.id id rest = none := by
    rw [Keyed.find_eq_none]
    intro other hm hs
    exact ha (List.mem_map.mpr ⟨other, hm, hs⟩)
  unfold countOn
  rw [Keyed.find_cons, if_pos hn, hnn, Option.none_or, Option.getD_some]

theorem countOn_stamped_self {now : Time} {statuses : List ContainerStatus}
    (hds : (statuses.map ContainerStatus.id).Nodup)
    (hp : id ∈ statuses.map ContainerStatus.id) :
    countOn (stampContainerRestart now id statuses) id = countOn statuses id + 1 := by
  induction statuses with
  | nil => cases hp
  | cons status rest ih =>
    rw [List.map_cons, List.nodup_cons] at hds
    unfold stampContainerRestart
    split
    next hn =>
      have ha : id ∉ rest.map ContainerStatus.id := hn ▸ hds.1
      rw [countOn_cons_self hn ha]
      exact countOn_cons_self hn ha
    next hd =>
      have hl : id ∈ rest.map ContainerStatus.id :=
        (List.mem_cons.mp hp).resolve_left (Ne.symm hd)
      rw [countOn_cons_other hd, countOn_cons_other hd, ih hds.2 hl]

theorem countOn_stamped_other {now : Time} {id other : String} (hd : other ≠ id)
    (statuses : List ContainerStatus) :
    countOn (stampContainerRestart now id statuses) other = countOn statuses other := by
  have hs : Keyed.find ContainerStatus.id other (stampContainerRestart now id statuses) =
      Keyed.find ContainerStatus.id other statuses := by
    induction statuses with
    | nil => rfl
    | cons status rest ih =>
      unfold stampContainerRestart
      split
      next hnm =>
        have hn : status.id ≠ other := fun hs => hd (hs.symm.trans hnm)
        rw [Keyed.find_cons, Keyed.find_cons, if_neg hn, if_neg hn]
      next => rw [Keyed.find_cons, Keyed.find_cons, ih]
  unfold countOn
  rw [hs]

/-- The containers are those of the pass, and this counter has this value. -/
structure CountsAs (all : List RestartFields) (id : String) (count : Int) (cell : Cell) : Prop where
  fields : WithFields all cell
  count : countOn cell.status.containers id = count

theorem handedOn_countsAs (count : Int) (hl : id ∈ all.map RestartFields.id) :
    HandedOn (CountsAs all id count) where
  edit := by
    intro before after hc hs hcn
    exact ⟨(handedOn_withFields all).edit hc.fields hs hcn,
      hcn ▸ hc.count⟩
  populate := by
    intro cell now survey hc
    refine ⟨hc.fields, (countOn_populated now survey ?_).trans hc.count⟩
    rw [← hc.fields, List.map_map] at hl
    exact hl
  persist := by
    intro cell hc
    refine ⟨(handedOn_withFields all).persist hc.fields, ?_⟩
    rw [← hc.count]
    refine countOn_congr ?_ id
    simp only [persistedCell, statusWithoutSetup, List.map_map]
    rfl

def bump (id relaunched : String) : Int := if relaunched = id then 1 else 0

theorem CountsAs.stamped {count : Int} {cell : Cell} (hc : CountsAs all id count cell)
    (hd : (all.map RestartFields.id).Nodup)
    (statuses : cell.status.containers.map ContainerStatus.id = all.map RestartFields.id)
    (now : Time) {relaunched : String} (hl : relaunched ∈ all.map RestartFields.id) :
    CountsAs all id (count + bump id relaunched) (stampedRestart now relaunched cell) := by
  refine ⟨hc.fields, ?_⟩
  unfold bump
  by_cases hs : relaunched = id
  · subst hs
    rw [if_pos rfl, ← hc.count]
    rw [← statuses] at hd hl
    exact countOn_stamped_self hd hl
  · rw [if_neg hs, add_zero, ← hc.count]
    exact countOn_stamped_other (Ne.symm hs) _

section Ledgers

variable {statuses : List ContainerStatus}

variable {ledger : Ledger} {fields : RestartFields} {all : List RestartFields}

/-- Whether a container is relaunched depends on its own bookkeeping only. -/
theorem fires_congr {ledger other : Ledger} (now : other.now = ledger.now)
    (hl : other.restarts.lookup fields.id = ledger.restarts.lookup fields.id) :
    Ledger.Fires statuses other fields ↔ Ledger.Fires statuses ledger fields := by
  unfold Ledger.Fires Ledger.decision
  rw [now, hl]

def dueOf (statuses : List ContainerStatus) (ledger : Ledger) (all : List RestartFields) :
    List RestartFields :=
  all.filter fun fields => Ledger.Fires statuses ledger fields

theorem dueOf_turn (hn : fields.id ∉ all.map RestartFields.id) :
    dueOf statuses (ledger.turn statuses fields) all = dueOf statuses ledger all := by
  refine List.filter_congr fun other hm => ?_
  rw [decide_eq_decide]
  refine fires_congr (Ledger.turn_now statuses ledger fields)
    (Ledger.lookup_turn statuses ledger fields fun hs => ?_)
  exact hn (hs ▸ List.mem_map_of_mem hm)

variable (hd : (all.map RestartFields.id).Nodup)
include hd

/-- The turns relaunch what is due when they begin. -/
theorem relaunched_turns : (ledger.turns statuses all).relaunched =
    ledger.relaunched ++ (dueOf statuses ledger all).map RestartFields.id := by
  induction all generalizing ledger with
  | nil => simp [Ledger.turns, dueOf]
  | cons fields rest ih =>
    rw [List.map_cons, List.nodup_cons] at hd
    rw [Ledger.turns_cons, ih hd.2, dueOf_turn hd.1]
    by_cases hf : Ledger.Fires statuses ledger fields
    · simp [dueOf, hf, Ledger.turn_of_fires hf, Ledger.fire]
    · simp [dueOf, hf, Ledger.relaunched_of_not_fires hf]

theorem quiet_of_none (hn : dueOf statuses ledger all = []) : ledger.Quiet statuses all := by
  induction all generalizing ledger with
  | nil => trivial
  | cons fields rest ih =>
    rw [List.map_cons, List.nodup_cons] at hd
    have hf : ¬ Ledger.Fires statuses ledger fields := by
      simpa using List.filter_eq_nil_iff.mp hn fields List.mem_cons_self
    refine ⟨hf, ih hd.2 ?_⟩
    rw [dueOf_turn hd.1]
    simpa [dueOf, hf] using hn

theorem sustained_of_single {doc : Cell → Prop} (hs : (dueOf statuses ledger all).length ≤ 1) :
    Sustained doc statuses ledger all := by
  induction all generalizing ledger with
  | nil => trivial
  | cons fields rest ih =>
    rw [List.map_cons, List.nodup_cons] at hd
    by_cases hf : Ledger.Fires statuses ledger fields
    · have hn : dueOf statuses ledger rest = [] := by simpa [dueOf, hf] using hs
      have hq : (ledger.turn statuses fields).Quiet statuses rest :=
        quiet_of_none hd.2 ((dueOf_turn hd.1).trans hn)
      exact ⟨fun _ => .inr hq, sustained_of_quiet hq⟩
    · refine ⟨fun fires => absurd fires hf, ih hd.2 ?_⟩
      rw [dueOf_turn hd.1]
      simpa [dueOf, hf] using hs

omit hd in
theorem quiet_of_outcomes {result : RestartPassResult}
    (hn : ledger.outcomes statuses result all ≠ .restartFired) : ledger.Quiet statuses all := by
  induction all generalizing ledger result with
  | nil => trivial
  | cons fields rest ih =>
    refine ⟨fun hf => hn ?_, ih hn⟩
    have fired : ledger.outcome statuses fields result = .restartFired := by
      simp [Ledger.outcome, Ledger.reported, hf.1, hf.2]
    rw [Ledger.outcomes, fired, Ledger.outcomes_fired]

end Ledgers

/-- The pass has relaunched one container, and goes on with the cell that the relaunch read. -/
def Relaunched (doc : Cell → Prop) (now : Time) (id : String)
    (passed : Cell × RestartPassResult) : Prop :=
  passed.2 = .restartFired ∧
    ∃ started, doc started ∧ Populated started ∧ passed.1 = stampedRestart now id started

/-- A write that goes through stores what is handed on of the cell. -/
theorem persistIf_stores {doc : Cell → Prop} (hh : HandedOn doc) (changed : Bool) (cell : Cell)
    (hhr : doc cell) :
    ⦃fun _ => ⌜True⌝⦄ persistIf changed cell
    ⦃post⟨fun passed host => ⌜passed.2.updated = true →
        ∀ stored, host.disk = some stored → doc stored⌝, fun _ _ => ⌜True⌝⟩⦄ := by
  have hm : doc { cell with status.observedGeneration := cell.metadata.generation } :=
    hh.edit hhr rfl rfl
  have hw : Makes (fun host => ∀ stored, host.disk = some stored → doc stored)
      (updateCellMetadata { cell with status.observedGeneration := cell.metadata.generation }) := by
    mvcgen [updateCellMetadata]
    all_goals grind [hh.written, CellHost.written]
  mvcgen [persistIf, persistCellStatusGuarded, rewording, attempt, hw]
  all_goals grind

/-- The containers that a computation has relaunched with success: if it failed, the last one has
    not come up. -/
def restarted {α : Type} (m : RunnerM α) (host : CellHost) : List String :=
  match ending m host with
  | .ok _ => relaunches (finalState m host).trace
  | .error _ => (relaunches (finalState m host).trace).dropLast

/-- What is written of a relaunch is written: the failures are those of the relaunch itself, and
    the write after a relaunch is not refused. -/
structure Writes (m : RunnerM (Cell × ReconcileOutcome)) (host : CellHost) : Prop where
  failed : ∀ err, ending m host = .error err → RelaunchFailed err
  written : ∀ passed, ending m host = .ok passed → relaunches (finalState m host).trace ≠ [] →
    passed.2.updated = true

theorem restarted_of_ok {m : RunnerM α} {a : α} (he : ending m host = .ok a) :
    restarted m host = relaunches (finalState m host).trace := by
  unfold restarted
  rw [he]

theorem restarted_of_error {m : RunnerM α} {err : RunnerError} (he : ending m host = .error err) :
    restarted m host = (relaunches (finalState m host).trace).dropLast := by
  unfold restarted
  rw [he]

theorem restarted_same_run {m n : RunnerM α} {host next : CellHost} (run : m host = n next) :
    restarted m host = restarted n next := by
  obtain ⟨ran, hf⟩ := same_run run
  unfold restarted
  rw [ran, hf]

theorem Writes.same_run {m n : RunnerM (Cell × ReconcileOutcome)} {host next : CellHost}
    (hw : Writes m host) (run : m host = n next) : Writes n next := by
  obtain ⟨ran, hf⟩ := Effect.same_run run
  exact ⟨ran ▸ hw.failed, ran ▸ hf ▸ hw.written⟩

theorem restarted_nil {m : RunnerM α} (hn : relaunches (finalState m host).trace = []) :
    restarted m host = [] := by
  cases he : ending m host with
  | ok a => rw [restarted_of_ok he, hn]
  | error err => rw [restarted_of_error he, hn, List.dropLast_nil]

theorem count_singleton (id relaunched : String) :
    (([relaunched].count id : Nat) : Int) = bump id relaunched := by
  unfold bump
  by_cases hs : relaunched = id <;> simp [hs]

theorem not_relaunchFailed (cause : RunnerError) :
    ¬ RelaunchFailed (.wrap "failed to update cell metadata" cause) := by
  rintro ⟨id, inner, hs⟩
  have ht := congrArg String.toList (RunnerError.wrap.inj hs).1
  simp at ht

section Settle

variable {all : List RestartFields} {id : String} {count : Int}

variable {host : CellHost} {ledger : Ledger}

theorem counts_of_quiet {α : Type} {m : RunnerM α}
    (hk : Custody (CountsAs all id count) ledger (finalState m host))
    (hn : ledger.relaunched = []) :
    ∀ stored, (finalState m host).disk = some stored →
      CountsAs all id (count + (restarted m host).count id) stored := by
  have hs : relaunches (finalState m host).trace = [] :=
    (congrArg Ledger.relaunched hk.ledger).trans hn
  rw [restarted_nil hs]
  simpa using hk.disk

theorem persistIf_fails {changed : Bool} {cell : Cell} {err : RunnerError}
    (he : ending (persistIf changed cell) host = .error err) : ¬ RelaunchFailed err := by
  have hr : ⦃fun _ => ⌜True⌝⦄ persistIf changed cell
      ⦃post⟨fun _ _ => ⌜True⌝, fun err _ => ⌜¬ RelaunchFailed err⌝⟩⦄ := by
    have hp := keeps_true (persistCellStatusGuarded cell)
    have hf := not_relaunchFailed
    mvcgen [persistIf, rewording, hp]
    exact hf _
  exact (of_triple hr trivial).2 err he

/-- One container was relaunched, and the write at the end of the tick counts it. -/
theorem settlePassed_counts (hd : (all.map RestartFields.id).Nodup)
    (hl : id ∈ all.map RestartFields.id) {inputs : TickInputs} {original : CellStatus}
    {state : CellState} {passed : Cell × RestartPassResult} {now : Time} {relaunched : String}
    (hi : relaunched ∈ all.map RestartFields.id) (ho : ledger.relaunched = [relaunched])
    (hk : Custody (CountsAs all id count) ledger host)
    (hf : Relaunched (CountsAs all id count) now relaunched passed)
    (hw : Writes (settlePassed inputs original state passed) host) :
    ∀ stored, (finalState (settlePassed inputs original state passed) host).disk = some stored →
      CountsAs all id
        (count + (restarted (settlePassed inputs original state passed) host).count id) stored := by
  obtain ⟨hr, started, hc, hp, hsm⟩ := hf
  have hst : settlePassed inputs original state passed =
      persistIf true (holdDegraded original (stampedRestart now relaunched started)) := by
    unfold settlePassed
    rw [hr, hsm]
  rw [hst] at hw ⊢
  have statuses : started.status.containers.map ContainerStatus.id = all.map RestartFields.id := by
    rw [hp, ← hc.fields, List.map_map]
    rfl
  have hb : CountsAs all id (count + bump id relaunched)
      (holdDegraded original (stampedRestart now relaunched started)) := by
    have hs := hc.stamped hd statuses now hi
    exact ⟨hs.fields, hs.count⟩
  have hsl := (holds_finalState (persistIf_custody handedOn_true ledger true
    (holdDegraded original (stampedRestart now relaunched started)) trivial)
    ⟨hk.ledger, fun _ _ => trivial⟩).ledger
  have ht : relaunches (finalState (persistIf true
      (holdDegraded original (stampedRestart now relaunched started))) host).trace = [relaunched] :=
    (congrArg Ledger.relaunched hsl).trans ho
  cases he : ending (persistIf true
      (holdDegraded original (stampedRestart now relaunched started))) host with
  | error err => exact absurd (hw.failed err he) (persistIf_fails he)
  | ok passed =>
    have hu := hw.written passed he (by rw [ht]; simp)
    rw [restarted_of_ok he, ht, count_singleton]
    exact (of_triple (persistIf_stores (handedOn_countsAs _ hl) true _ hb) trivial).1
      passed he hu

theorem settleCell_counts (hd : (all.map RestartFields.id).Nodup)
    (hl : id ∈ all.map RestartFields.id) {inputs : TickInputs} {original : CellStatus}
    {derived : Cell} (hfr : ledger.relaunched = [])
    (hk : Custody (CountsAs all id count) ledger host) (hhr : CountsAs all id count derived)
    (hs : passOpen derived = true → (dueOf derived.status.containers ledger all).length ≤ 1)
    (hw : Writes (settleCell inputs original derived) host) :
    ∀ stored, (finalState (settleCell inputs original derived) host).disk = some stored →
      CountsAs all id (count + (restarted (settleCell inputs original derived) host).count id)
        stored := by
  have hh := handedOn_countsAs count hl
  cases hi : passOpen derived with
  | false =>
    have hp := maybeRestart_closed inputs.starts derived hi
    have run : (settleCell inputs original derived) host = _ :=
      settleCell_of_ok (congrArg (ending · host) hp)
    refine counts_of_quiet ?_ hfr
    rw [(same_run run).2, hp]
    exact holds_finalState (settlePassed_custody hh ledger inputs original _ _ hhr) hk
  | true =>
    have hb := hs hi
    have ht := of_triple (restartTurns_custody derived.status.containers hh CountsAs.fields
      inputs.starts (reading_range all) ledger (sustained_of_single hd hb) derived hhr.fields
      (fun _ => hhr) .restartNone) hk
    rw [← maybeRestart_open inputs.starts derived hi hhr.fields] at ht
    cases he : ending (maybeRestartExitedContainers inputs.starts derived) host with
    | error err =>
      obtain ⟨after, ⟨done, fields, rest, rfl, -, rfl⟩, ha⟩ := ht.2 err he
      obtain ⟨hfl, hf⟩ := @settleCell_of_error inputs original _ _ _ he
      rw [restarted_of_error hfl, hf]
      -- At most one container was due, and its relaunch is the one that failed.
      have ho : (relaunches (finalState (maybeRestartExitedContainers inputs.starts derived)
          host).trace).length ≤ 1 := by
        have first : (done ++ [fields]).Sublist (done ++ fields :: rest) := by simp
        have most := (first.filter fun fields =>
          Ledger.Fires derived.status.containers ledger fields).length_le
        rw [show relaunches _ = _ from congrArg Ledger.relaunched ha.ledger,
          relaunched_turns (hd.sublist (first.map _)), hfr]
        simpa [dueOf] using most.trans hb
      rw [List.eq_nil_of_length_eq_zero (show (List.dropLast _).length = 0 by simp; omega)]
      simpa using ha.disk
    | ok passed =>
      obtain ⟨ha, ho, hr⟩ := ht.1 passed he
      have run : (settleCell inputs original derived) host = _ := settleCell_of_ok he
      by_cases hq : ledger.Quiet derived.status.containers all
      · refine counts_of_quiet ?_ ((Ledger.relaunched_quiet _ hq).trans hfr)
        rw [(same_run run).2]
        exact holds_finalState (settlePassed_custody hh _ inputs original _ passed
          (hr.1 hq ▸ hhr)) ha
      · obtain ⟨started, relaunched, hst, hp, hlast, hsm⟩ := hr.2 hq
        have hall : (ledger.turns derived.status.containers all).relaunched = _ :=
          relaunched_turns hd
        rw [hfr, List.nil_append] at hall
        obtain ⟨fields, hdue⟩ : ∃ fields, dueOf derived.status.containers ledger all = [fields] := by
          refine List.length_eq_one_iff.mp (le_antisymm hb (Nat.pos_of_ne_zero fun hz => hq ?_))
          exact quiet_of_none hd (List.eq_nil_of_length_eq_zero hz)
        rw [hdue] at hall
        rw [hall] at hlast
        obtain rfl : fields.id = relaunched := by simpa using hlast
        have hm : fields ∈ all := List.mem_of_mem_filter (hdue ▸ List.mem_singleton_self fields)
        have fired : passed.2 = .restartFired := by
          rw [ho]
          by_contra hn
          exact hq (quiet_of_outcomes hn)
        rw [restarted_same_run run, (same_run run).2]
        exact settlePassed_counts hd hl (List.mem_map_of_mem hm) hall ha
          ⟨fired, started, hst, hp, hsm⟩ (hw.same_run run)

end Settle

/-- The containers that the restart pass of a tick would relaunch, each by its own bookkeeping. -/
def due (inputs : TickInputs) (cell : Cell) (before : CellHost) : List RestartFields :=
  if cellStateIsSticky cell.status.state || !passOpen (tickCell inputs before.now cell) then []
  else (cell.spec.containers.map restartFields).filter fun fields =>
    Ledger.Fires (tickCell inputs before.now cell).status.containers before.ledger fields

theorem reconcileCell_counts {count : Int} (hd : (all.map RestartFields.id).Nodup)
    (hl : id ∈ all.map RestartFields.id) {inputs : TickInputs} {cell : Cell} {before : CellHost}
    (hhr : CountsAs all id count cell)
    (hds : ∀ stored, before.disk = some stored → CountsAs all id count stored)
    (hf : before.trace = []) (hs : (due inputs cell before).length ≤ 1)
    (hw : Writes (reconcileCell inputs cell) before) :
    ∀ stored, (finalState (reconcileCell inputs cell) before).disk = some stored →
      CountsAs all id (count + (restarted (reconcileCell inputs cell) before).count id) stored := by
  have hh := handedOn_countsAs count hl
  have hsl : before.ledger.relaunched = [] := by
    simp only [CellHost.ledger, hf]
    rfl
  have hb : Custody (CountsAs all id count) before.ledger { before with derived := none } :=
    ⟨rfl, hds⟩
  rcases reconcileCell_course inputs cell before with ⟨-, hg⟩ | ⟨-, hsc⟩ |
    ⟨hst, healed, he, hwr, run⟩
  · refine counts_of_quiet ?_ hsl
    rw [show finalState (reconcileCell inputs cell) before = _ from congrArg Prod.snd hg]
    exact hb
  · refine counts_of_quiet ?_ hsl
    rw [(same_run hsc).2]
    exact holds_finalState (reconcileSticky_custody hh _ inputs.survey cell hhr) hb
  · have hk := ((of_triple (healCgroup_custody hh _ inputs.cgroup inputs.heal cell hhr)
      hb).1 healed he).1
    have hsm := samePass_derived inputs before.now hwr
    rw [restarted_same_run run, (same_run run).2]
    refine settleCell_counts hd hl hsl ?_ (derived_doc hh hhr hwr _) ?_
      (hw.same_run run)
    · exact hk.idle rfl rfl
    · intro hi
      rw [hsm.passOpen] at hi
      unfold due at hs
      rw [hst, hi] at hs
      rw [hsm.containers, ← hhr.fields]
      exact hs

def CellHost.pass (host : CellHost) (step : Moment × TickInputs) : CellHost :=
  match host.disk with
  | none => host.begin step.1
  | some cell => finalState (reconcileCell step.2 cell) (host.begin step.1)

theorem CellHost.pass_eq (host : CellHost) (step : Moment × TickInputs) :
    host.pass step =
      (run Daemon.pass { host := host } [.listForReconcile, .tick step.1 step.2]).host := by
  cases disk : host.disk <;> simp [CellHost.pass, run, Daemon.pass, CellHost.begin, disk]

def CellHost.restartedBy (host : CellHost) (step : Moment × TickInputs) : List String :=
  match host.disk with
  | none => []
  | some cell => restarted (reconcileCell step.2 cell) (host.begin step.1)

theorem writes_of_updated {m : RunnerM (Cell × ReconcileOutcome)}
    (hu : (ending m host).toOption.any (fun passed => passed.2.updated) = true) :
    Writes m host := by
  constructor
  · intro err hf
    rw [hf] at hu
    exact absurd hu nofun
  · intro passed he _
    rw [he] at hu
    exact hu

/-- The pass relaunches at most one container, and its writes succeed. -/
def OneAtATime (host : CellHost) (step : Moment × TickInputs) : Prop :=
  ∀ cell, host.disk = some cell → (due step.2 cell (host.begin step.1)).length ≤ 1 ∧
    Writes (reconcileCell step.2 cell) (host.begin step.1)

section Runs

attribute [local irreducible] reconcileCell

theorem pass_counts {all : List RestartFields} {id : String} {count : Int}
    (hd : (all.map RestartFields.id).Nodup) (hl : id ∈ all.map RestartFields.id)
    {host : CellHost} {step : Moment × TickInputs}
    (hds : ∀ stored, host.disk = some stored → CountsAs all id count stored)
    (hc : OneAtATime host step) :
    ∀ stored, (host.pass step).disk = some stored →
      CountsAs all id (count + (host.restartedBy step).count id) stored := by
  unfold CellHost.pass CellHost.restartedBy
  cases hf : host.disk with
  | none =>
    intro stored ho
    cases hf.symm.trans ho
  | some cell =>
    obtain ⟨hs, hw⟩ := hc cell hf
    have hb : ∀ stored, (host.begin step.1).disk = some stored →
        CountsAs all id count stored := hds
    have hfr : (host.begin step.1).trace = [] := rfl
    exact reconcileCell_counts hd hl (hds cell hf) hb hfr hs hw

/-- Through every run of passes that relaunch at most one container at a time and whose writes
    succeed, the counter of each container is raised once for each of its relaunches. -/
theorem restart_counters_exact (host : CellHost) (cell : Cell) (onDisk : host.disk = some cell)
    (distinct : (cell.spec.containers.map ContainerSpec.id).Nodup) (id : String)
    (declared : id ∈ cell.spec.containers.map ContainerSpec.id)
    (passes : List (Moment × TickInputs))
    (along : Along CellHost.pass OneAtATime host passes) :
    ∀ stored, (run CellHost.pass host passes).disk = some stored →
      countOn stored.status.containers id = countOn cell.status.containers id +
        total CellHost.pass (fun host step => (host.restartedBy step).count id) host passes := by
  let all := cell.spec.containers.map restartFields
  let counted (spent : Nat) (host : CellHost) : Prop := ∀ stored, host.disk = some stored →
    CountsAs all id (countOn cell.status.containers id + spent) stored
  have ids : all.map RestartFields.id = cell.spec.containers.map ContainerSpec.id := by
    rw [List.map_map]
    rfl
  rw [← ids] at distinct declared
  have hs : counted 0 host := by
    intro stored hf
    cases onDisk.symm.trans hf
    exact ⟨rfl, by simp⟩
  have hcn := along.spent (fun host step => (host.restartedBy step).count id) counted
    (fun spent host step hh hc stored hf => by
      have hl := pass_counts distinct declared hh hc stored hf
      rwa [add_assoc, ← Nat.cast_add] at hl) hs
  intro stored hf
  have hl := (hcn stored hf).count
  rwa [Nat.zero_add] at hl

theorem restart_counters_exact_of_crash :
    ∃ stored, (run CellHost.pass { disk := some onceCell }
        [({ now := 10 }, .steady (workloadIn crashed))]).disk = some stored ∧
      countOn stored.status.containers "app" = 1 := by
  obtain ⟨stored, hf⟩ := Option.isSome_iff_exists.mp (show (run CellHost.pass
    { disk := some onceCell } [({ now := 10 }, .steady (workloadIn crashed))]).disk.isSome = true by
      decide +kernel)
  refine ⟨stored, hf, (restart_counters_exact { disk := some onceCell } onceCell rfl (by decide)
    "app" (by decide) [({ now := 10 }, .steady (workloadIn crashed))] ?_ stored hf).trans
    (by decide +kernel)⟩
  refine along_cons.mpr ⟨?_, by simp [Along]⟩
  intro cell hl
  cases hl
  exact ⟨by decide +kernel, writes_of_updated (by decide +kernel)⟩

def sidecarCell : Cell :=
  { onceCell with
    spec :=
      { onceCell.spec with
        containers :=
          [ { id := "root", root := true, containerdID := "default_default_web_root" },
            { id := "app", containerdID := "default_default_web_app"
              restartPolicy := ModelHub.restartPolicyAlways, restartBackoffSeconds := some 0 },
            { id := "sidecar", containerdID := "default_default_web_sidecar"
              restartPolicy := ModelHub.restartPolicyAlways, restartBackoffSeconds := some 0 } ] } }

/-- A tick relaunches two containers and writes the cell, and only the second is counted: the second
    relaunch reads the cell again and the count of the first is lost. -/
theorem first_of_two_relaunches_uncounted :
    let host : CellHost := { disk := some sidecarCell }
    let step : Moment × TickInputs := ({ now := 10 }, .steady (workloadIn crashed))
    (ending (reconcileCell step.2 sidecarCell) (host.begin step.1)).toOption.any
        (fun passed => passed.2.updated) = true ∧
      host.restartedBy step = ["app", "sidecar"] ∧
      (host.pass step).disk.map (fun stored =>
        (countOn stored.status.containers "app", countOn stored.status.containers "sidecar")) =
          some (0, 1) := by
  decide +kernel

end Runs

end Kukeon.Runner
