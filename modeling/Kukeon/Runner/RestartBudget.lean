import Kukeon.Runner.TickLedger

/-! # The budget of restarts

A container with policy `on-failure` is relaunched until its cap, and the count of attempts is kept in
the memory of the daemon until a tick finds the container up. What counts as up is every state that is
not terminal, an unknown one included, so that the cap bounds the relaunches between two sights of the
running container only if nothing else is seen in between than that it has ended. The memory is keyed
by names: neither deleting a cell nor creating it anew empties it.
-/

namespace Kukeon.Runner

open ModelHub Runs

def relaunchCost (id : String) (daemon : Daemon) (step : Step) : Nat :=
  (relaunches (daemon.step step).host.trace).count id

/-- Whatever the tick of this step observes of the container is one of these states. -/
def Observes (id : String) (states : ContainerState → Prop) (daemon : Daemon) (step : Step) : Prop :=
  ∀ inputs cell before, daemon.ticks step = some (inputs, cell, before) →
    ∀ index spec, cell.spec.containers[index]? = some spec → spec.id = id →
      states (inputs.survey.seen index).state

/-- A container of this name, in the listing or in the document that a tick works on, restarts on
    failure with this cap. -/
def Capped (id : String) (cap : Int) (daemon : Daemon) (step : Step) : Prop :=
  ∀ inputs cell before, daemon.ticks step = some (inputs, cell, before) →
    ∀ doc, doc = cell ∨ daemon.host.disk = some doc →
      ∀ spec ∈ doc.spec.containers, spec.id = id →
        spec.restartPolicy = restartPolicyOnFailure ∧ effectiveOnFailureMaxRestarts spec = cap

instance (id : String) (states : ContainerState → Prop) [DecidablePred states] (daemon : Daemon)
    (step : Step) : Decidable (Observes id states daemon step) :=
  decidable_of_iff (∀ tick ∈ daemon.ticks step, ∀ entry ∈ tick.2.1.spec.containers.zipIdx,
    entry.1.id = id → states (tick.1.survey.seen entry.2).state) <| by
      constructor
      · intro each inputs cell before ticks index spec declared
        exact each _ ticks (spec, index) (List.mem_zipIdx_iff_getElem?.mpr declared)
      · rintro observes ⟨inputs, cell, before⟩ ticks ⟨spec, index⟩ member
        exact observes inputs cell before ticks index spec (List.mem_zipIdx_iff_getElem?.mp member)

instance (id : String) (cap : Int) (daemon : Daemon) (step : Step) :
    Decidable (Capped id cap daemon step) :=
  decidable_of_iff (∀ tick ∈ daemon.ticks step,
    ∀ doc ∈ tick.2.1 :: daemon.host.disk.toList, ∀ spec ∈ doc.spec.containers, spec.id = id →
      spec.restartPolicy = restartPolicyOnFailure ∧ effectiveOnFailureMaxRestarts spec = cap) <| by
      constructor
      · intro each inputs cell before ticks doc isDoc
        refine each _ ticks doc ?_
        rw [List.mem_cons, Option.mem_toList]
        exact isDoc
      · rintro capped ⟨inputs, cell, before⟩ ticks doc member
        rw [List.mem_cons, Option.mem_toList] at member
        exact capped inputs cell before ticks doc member

variable {id : String} {fields : RestartFields} {daemon : Daemon} {statuses : List ContainerStatus}
  {ledger : Ledger}

theorem find_observed {states : ContainerState → Prop} {step : Step}
    (ho : Observes id states daemon step) {inputs : TickInputs} {cell : Cell}
    {before : CellHost} (ht : daemon.ticks step = some (inputs, cell, before))
    {status : ContainerStatus} (hf : Keyed.find ContainerStatus.id id
      (tickCell inputs before.now cell).status.containers = some status) : states status.state := by
  obtain ⟨hm, hn⟩ := Keyed.find_some hf
  rw [tickCell, deriveStatus_containers] at hm
  obtain ⟨index, hi, hs⟩ := List.mem_mapIdx.mp hm
  subst hs
  exact ho inputs cell before ht index _ (List.getElem?_eq_getElem hi) hn

/-- After `spent` relaunches the bookkeeping holds at least as many attempts. -/
structure Within (id : String) (cap : Int) (spent : Nat)
    (restarts : GoMap String ContainerRestartState) : Prop where
  cap : (spent : Int) ≤ cap
  none : restarts.lookup id = none → spent = 0
  some : ∀ state, restarts.lookup id = some state → (spent : Int) ≤ state.attempts

theorem find_of_up (up : turnOf statuses fields = .up) :
    ∃ status, Keyed.find ContainerStatus.id fields.id statuses = some status ∧
      containerStateIsTerminal status.state = false := by
  unfold turnOf at up
  split at up
  · cases up
  · split at up
    · cases up
    next status hf =>
      split at up
      next ha => exact ⟨status, hf, by simpa using ha⟩
      next => split at up <;> cases up

/-- A container with attempts on record is relaunched only below the cap. -/
theorem below_cap_of_fired (hp : fields.policy = restartPolicyOnFailure)
    (hf : ledger.decision fields = .restartFired) {state : ContainerRestartState}
    (ho : ledger.restarts.lookup fields.id = some state) : state.attempts < fields.cap := by
  unfold Ledger.decision restartDecisionFor at hf
  rw [ho] at hf
  by_contra hs
  simp only [hp, not_lt.mp hs, and_self, if_true] at hf
  cases hf

theorem within_fire {cap : Int} (hp : 1 ≤ cap) {spent : Nat} (hnm : fields.id = id)
    (hpl : fields.policy = restartPolicyOnFailure) (hcp : fields.cap = cap)
    (hf : ledger.decision fields = .restartFired) (hh : Within id cap spent ledger.restarts) :
    Within id cap (spent + 1) (ledger.fire fields.id).restarts := by
  subst hnm hcp
  have ha : (spent : Int) ≤ ((ledger.restarts.lookup fields.id).getD {}).attempts ∧
      (spent : Int) + 1 ≤ fields.cap := by
    cases ho : ledger.restarts.lookup fields.id with
    | none =>
      have hz := hh.none ho
      subst hz
      exact ⟨le_refl _, by simpa using hp⟩
    | some state =>
      have hb := below_cap_of_fired hpl hf ho
      have hc := hh.some state ho
      exact ⟨hc, by omega⟩
  refine ⟨by push_cast; exact ha.2, ?_, ?_⟩
  · intro hn
    rw [Ledger.fire, Finmap.lookup_insert] at hn
    cases hn
  · intro state ho
    rw [Ledger.fire, Finmap.lookup_insert] at ho
    cases ho
    push_cast
    omega

theorem within_turn {cap : Int} (hp : 1 ≤ cap) {spent : Nat}
    (hdw : ∀ status, Keyed.find ContainerStatus.id id statuses = some status →
      containerStateIsTerminal status.state = true) :
    KeptByTurns statuses (fun fields => fields.id = id →
        fields.policy = restartPolicyOnFailure ∧ fields.cap = cap)
      (fun ledger => Within id cap (spent + ledger.relaunched.count id) ledger.restarts) := by
  intro ledger fields hc hh
  by_cases hn : fields.id = id
  · obtain ⟨hpl, hs⟩ := hc hn
    rcases Ledger.turn_cases statuses ledger fields with ht | ⟨up, -⟩ | ⟨fired, ht⟩
    · rw [ht]
      exact hh
    · obtain ⟨status, hf, ha⟩ := find_of_up up
      rw [hn] at hf
      exact absurd (hdw status hf) (by simp [ha])
    · have hon : (ledger.fire fields.id).relaunched.count id =
          ledger.relaunched.count id + 1 := by
        simp [Ledger.fire, hn]
      rw [ht, hon, ← Nat.add_assoc]
      exact within_fire hp hn hpl hs fired.2 hh
  · have hl := Ledger.lookup_turn statuses ledger fields hn
    rw [Ledger.count_turn statuses ledger fields hn]
    exact ⟨hh.cap, fun hnn => hh.none (hl ▸ hnn),
      fun state ho => hh.some state (hl ▸ ho)⟩

theorem within_step {cap : Int} (hp : 1 ≤ cap) {spent : Nat} {step : Step}
    (hc : Capped id cap daemon step)
    (hd : Observes id (fun state => containerStateIsTerminal state = true) daemon step)
    (hh : Within id cap spent daemon.host.restarts) :
    Within id cap (spent + relaunchCost id daemon step) (daemon.step step).host.restarts := by
  unfold relaunchCost
  cases ht : daemon.ticks step with
  | none =>
    obtain ⟨hr, hq⟩ := Daemon.step_restarts ht
    rw [hr, hq]
    exact hh
  | some tick =>
    obtain ⟨inputs, cell, before⟩ := tick
    obtain ⟨hf, hr, hds, hfr⟩ := Daemon.step_of_ticks ht
    have ha := hc inputs cell before ht
    have hb : Follows (fun fields => fields.id = id →
        fields.policy = restartPolicyOnFailure ∧ fields.cap = cap)
        (fun ledger => Within id cap (spent + ledger.relaunched.count id) ledger.restarts)
        before := by
      refine ⟨?_, fun stored ho => ha stored (.inr (hds ▸ ho))⟩
      simp only [CellHost.ledger, hfr, hr]
      exact hh
    have hl := (reconcileCell_follows
      (within_turn hp fun status hfn => find_observed hd ht hfn)
      (ha cell (.inl rfl)) hb).ledger
    rw [hf]
    simp only [CellHost.ledger] at hl
    exact hl

def Counted (id : String) (restarts : GoMap String ContainerRestartState) : Prop :=
  ∀ state, restarts.lookup id = some state → 0 ≤ state.attempts

theorem counted_turn (id : String) (statuses : List ContainerStatus) :
    KeptByTurns statuses (fun _ => True) (fun ledger => Counted id ledger.restarts) := by
  intro ledger fields _ hh
  by_cases hn : fields.id = id
  · subst hn
    rcases Ledger.turn_cases statuses ledger fields with ht | ⟨-, ht⟩ | ⟨-, ht⟩
    · rw [ht]
      exact hh
    · intro state ho
      rw [ht, Finmap.lookup_erase] at ho
      cases ho
    · intro state ho
      rw [ht, Ledger.fire, Finmap.lookup_insert] at ho
      cases ho
      cases hb : ledger.restarts.lookup fields.id with
      | none => simp
      | some prior =>
        have hc := hh prior hb
        simp only [Option.getD_some]
        omega
  · intro state ho
    rw [Ledger.lookup_turn statuses ledger fields hn] at ho
    exact hh state ho

theorem counted_run (id : String) {start : Daemon} (hf : start.host.restarts = ∅)
    (steps : List Step) : Counted id (run Daemon.step start steps).host.restarts := by
  induction steps using List.reverseRecOn with
  | nil =>
    intro state ho
    rw [show (run Daemon.step start []).host.restarts = ∅ from hf] at ho
    cases ho
  | append_singleton done step ih =>
    rw [run_concat]
    cases ht : (run Daemon.step start done).ticks step with
    | none =>
      rw [(Daemon.step_restarts ht).1]
      exact ih
    | some tick =>
      obtain ⟨inputs, cell, before⟩ := tick
      obtain ⟨hfn, hr, -⟩ := Daemon.step_of_ticks ht
      have hb : Follows (fun _ => True) (fun ledger => Counted id ledger.restarts) before := by
        refine ⟨?_, fun _ _ _ _ => trivial⟩
        simp only [CellHost.ledger, hr]
        exact ih
      have all : AllFields (fun _ => True) cell := fun _ _ => trivial
      have hrl := counted_turn id (tickCell inputs before.now cell).status.containers
      have hl := (reconcileCell_follows hrl all hb).ledger
      rw [hfn]
      simp only [CellHost.ledger] at hl
      exact hl

/-- The observations show the container running or ended, and nothing in between. -/
def DecisivelySeen (id : String) : Daemon → Step → Prop :=
  Observes id fun state => state = .ready ∨ containerStateIsTerminal state = true

instance (id : String) (daemon : Daemon) (step : Step) : Decidable (DecisivelySeen id daemon step) :=
  inferInstanceAs (Decidable (Observes id _ daemon step))

def Unseen (id : String) : Daemon → Step → Prop :=
  Observes id fun state => state ≠ .ready

instance (id : String) (daemon : Daemon) (step : Step) : Decidable (Unseen id daemon step) :=
  inferInstanceAs (Decidable (Observes id _ daemon step))

/-- Where every observation of the container is decisive, an `on-failure` container is relaunched at
    most as often as its cap says while it is not seen running, and never again once the cap is
    reached. -/
theorem onFailure_cap (id : String) (cap : Int) (positive : 1 ≤ cap) (start : Daemon)
    (fresh : start.host.restarts = ∅) (done window : List Step)
    (capped : Along Daemon.step (Capped id cap) (run Daemon.step start done) window)
    (decisive : Along Daemon.step (DecisivelySeen id) (run Daemon.step start done) window)
    (unseen : Along Daemon.step (Unseen id) (run Daemon.step start done) window) :
    (total Daemon.step (relaunchCost id) (run Daemon.step start done) window : Int) ≤ cap ∧
      ∀ first rest, window = first ++ rest →
        (total Daemon.step (relaunchCost id) (run Daemon.step start done) first : Int) = cap →
        total Daemon.step (relaunchCost id) (run Daemon.step start (done ++ first)) rest = 0 := by
  have hb : Within id cap 0 (run Daemon.step start done).host.restarts := by
    have hct := counted_run id fresh done
    exact ⟨by push_cast; omega, fun _ => rfl, fun state ho => by
      have := hct state ho
      push_cast
      omega⟩
  have hcn : Along Daemon.step (fun daemon step => Capped id cap daemon step ∧
      Observes id (fun state => containerStateIsTerminal state = true) daemon step)
      (run Daemon.step start done) window := by
    intro before step after hs
    refine ⟨capped before step after hs, ?_⟩
    intro inputs cell host ht index spec hd hn
    rcases decisive before step after hs inputs cell host ht index spec hd hn with
      hrd | he
    · exact absurd hrd (unseen before step after hs inputs cell host ht index spec hd
        hn)
    · exact he
  have hbn : (total Daemon.step (relaunchCost id) (run Daemon.step start done) window : Int) ≤
      cap := by
    have spent := hcn.spent (relaunchCost id)
      (fun spent daemon => Within id cap spent daemon.host.restarts)
      (fun spent daemon step hh hc => within_step positive hc.1 hc.2 hh)
      hb
    simpa using spent.cap
  refine ⟨hbn, ?_⟩
  intro first rest hs hr
  rw [hs, total_append, ← run_append] at hbn
  push_cast at hbn
  omega

/-- A cell whose workload is restarted once on failure, without a backoff. -/
def onceCell : Cell where
  metadata := { name := "web", generation := 1 }
  spec :=
    { id := "web", realmName := "main", spaceName := "default", stackName := "default"
      rootContainerID := "root"
      containers :=
        [ { id := "root", root := true, containerdID := "default_default_web_root" },
          { id := "app", containerdID := "default_default_web_app"
            restartPolicy := restartPolicyOnFailure, restartBackoffSeconds := some 0
            restartMaxRetries := some 1 } ] }
  status := { state := .ready, readyObserved := true }

def workloadIn (observation : ContainerObservation) : Survey where
  observation index := if index = 0 then .ok { state := .ready } else .ok observation

def crashed : ContainerObservation := { state := .error, exitCode := 1, exitTime := 5 }

def passAt (now : Time) (observation : ContainerObservation) : List Step :=
  [.pass .listForReconcile,
    .pass (.tick { now := now } (.steady (workloadIn observation)))]

theorem onFailure_cap_of_crash :
    (total Daemon.step (relaunchCost "app") (run Daemon.step { host := { disk := some onceCell } } [])
      (passAt 10 crashed) : Int) ≤ 1 :=
  (onFailure_cap "app" 1 (by decide) { host := { disk := some onceCell } } rfl [] (passAt 10 crashed)
    (by decide +kernel) (by decide +kernel) (by decide +kernel)).1

/-- A container with a cap of one is relaunched twice without having been seen running: an unknown
    state in between resets the count. -/
theorem unknown_state_resets_cap :
    let daemon : Daemon := { host := { disk := some onceCell } }
    let steps := passAt 10 crashed ++ passAt 20 { state := .unknown } ++ passAt 30 crashed
    Along Daemon.step (Capped "app" 1) daemon steps ∧
      Along Daemon.step (Unseen "app") daemon steps ∧
      total Daemon.step (relaunchCost "app") daemon steps = 2 := by
  decide +kernel

/-- The bookkeeping that a tick has for a container that has ended, when its turn comes. -/
structure DecidesFrom (id : String) (daemon : Daemon) (step : Step)
    (state : Option ContainerRestartState) : Prop where
  decides : ∃ inputs cell before earlier fields rest,
    daemon.ticks step = some (inputs, cell, before) ∧
    WithFields (earlier ++ fields :: rest) cell ∧
    (∀ doc, daemon.host.disk = some doc → WithFields (earlier ++ fields :: rest) doc) ∧
    fields.id = id ∧ (∀ other ∈ earlier, other.id ≠ id) ∧
    turnOf (tickCell inputs before.now cell).status.containers fields = .exited ∧
    state = (before.ledger.turns (tickCell inputs before.now cell).status.containers
      earlier).restarts.lookup id

/-- The turns of other containers come before, so that the tick finds what was there when it began. -/
theorem DecidesFrom.state_eq {step : Step} {state : Option ContainerRestartState}
    (hd : DecidesFrom id daemon step state) : state = daemon.host.restarts.lookup id := by
  obtain ⟨inputs, cell, before, earlier, fields, rest, ht, -, -, hn, ho, -, rfl⟩ :=
    hd.decides
  obtain ⟨-, hr, -⟩ := Daemon.step_of_ticks ht
  rw [Ledger.lookup_turns _ _ ho]
  exact congrArg (Finmap.lookup id) hr

/-- A tick that completes goes over the containers and finds this one up. -/
structure Clears (id : String) (daemon : Daemon) (step : Step) : Prop where
  clears : ∃ inputs cell before all fields,
    daemon.ticks step = some (inputs, cell, before) ∧ WithFields all cell ∧
    (∀ doc, daemon.host.disk = some doc → WithFields all doc) ∧
    (all.map RestartFields.id).Nodup ∧ fields ∈ all ∧ fields.id = id ∧
    cellStateIsSticky cell.status.state = false ∧
    passOpen (tickCell inputs before.now cell) = true ∧
    turnOf (tickCell inputs before.now cell).status.containers fields = .up ∧
    ∃ passed, Effect.ending (reconcileCell inputs cell) before = .ok passed ∧
      passed.2.vanished = false

theorem lookup_turns_up {all : List RestartFields} (hd : (all.map RestartFields.id).Nodup)
    (hm : fields ∈ all) (up : turnOf statuses fields = .up) :
    (ledger.turns statuses all).restarts.lookup fields.id = none := by
  obtain ⟨earlier, later, rfl⟩ := List.append_of_mem hm
  have ho : ∀ other ∈ later, other.id ≠ fields.id := by
    intro other hi hs
    rw [List.map_append, List.map_cons, List.nodup_append] at hd
    exact (List.nodup_cons.mp hd.2.1).1 (hs ▸ List.mem_map_of_mem hi)
  rw [Ledger.turns_append, Ledger.turns_cons, Ledger.lookup_turns _ _ ho]
  unfold Ledger.turn
  rw [up]
  exact Finmap.lookup_erase _ _

section Wholes

-- A tick is a whole from here on.
attribute [local irreducible] reconcileCell

variable {daemon : Daemon}

theorem Clears.lookup {id : String} {step : Step} (hc : Clears id daemon step) :
    (daemon.step step).host.restarts.lookup id = none := by
  obtain ⟨inputs, cell, before, all, fields, htc, hl, hst, hd, hm, rfl, hs,
    hi, up, passed, he, hp⟩ := hc.clears
  obtain ⟨hf, -, hds, -⟩ := Daemon.step_of_ticks htc
  have ht := (reconcileCell_turns (handedOn_withFields all) id (fun _ _ hr => hr) hl
    (fun doc ho => hst doc (hds ▸ ho)) hs hi he hp).ledger
  rw [hf]
  show (Effect.finalState (reconcileCell inputs cell) before).ledger.restarts.lookup fields.id = none
  rw [ht]
  exact lookup_turns_up hd hm up

theorem untouched_turn (id : String) (state : Option ContainerRestartState)
    {statuses : List ContainerStatus}
    (hs : state = none ∨ ∀ status, Keyed.find ContainerStatus.id id statuses = some status →
      containerStateIsTerminal status.state = true) :
    KeptByTurns statuses (fun _ => True)
      (fun ledger => id ∉ ledger.relaunched → ledger.restarts.lookup id = state) := by
  intro ledger fields _ hh
  by_cases hn : fields.id = id
  · subst hn
    rcases Ledger.turn_cases statuses ledger fields with ht | ⟨up, ht⟩ | ⟨-, ht⟩
    · rw [ht]
      exact hh
    · intro _
      rw [ht]
      rcases hs with rfl | hd
      · exact Finmap.lookup_erase _ _
      · obtain ⟨status, hf, ha⟩ := find_of_up up
        exact absurd (hd status hf) (by simp [ha])
    · intro hq
      simp [ht, Ledger.fire] at hq
  · intro hq
    rw [← List.count_eq_zero, Ledger.count_turn statuses ledger fields hn] at hq
    rw [Ledger.lookup_turn statuses ledger fields hn]
    exact hh (List.count_eq_zero.mp hq)

theorem untouched_step {id : String} {state : Option ContainerRestartState} {step : Step}
    (hs : state = none ∨
      Observes id (fun state => containerStateIsTerminal state = true) daemon step)
    (hq : relaunchCost id daemon step = 0) (hh : daemon.host.restarts.lookup id = state) :
    (daemon.step step).host.restarts.lookup id = state := by
  cases ht : daemon.ticks step with
  | none =>
    rw [(Daemon.step_restarts ht).1]
    exact hh
  | some tick =>
    obtain ⟨inputs, cell, before⟩ := tick
    obtain ⟨hf, hr, -⟩ := Daemon.step_of_ticks ht
    have hrl := untouched_turn id state (hs.imp_right fun hd status hfn =>
      find_observed hd ht hfn)
    have hb : Follows (fun _ => True)
        (fun ledger => id ∉ ledger.relaunched → ledger.restarts.lookup id = state) before := by
      refine ⟨fun _ => ?_, fun _ _ _ _ => trivial⟩
      exact (congrArg (Finmap.lookup id) hr).trans hh
    have hl := (reconcileCell_follows hrl (fun _ _ => trivial) hb).ledger
    rw [relaunchCost, hf, List.count_eq_zero] at hq
    rw [hf]
    exact hl hq

theorem untouched_run {id : String} {state : Option ContainerRestartState} {steps : List Step}
    (hs : state = none ∨ Along Daemon.step
      (Observes id fun state => containerStateIsTerminal state = true) daemon steps)
    (hq : total Daemon.step (relaunchCost id) daemon steps = 0)
    (hh : daemon.host.restarts.lookup id = state) :
    (run Daemon.step daemon steps).host.restarts.lookup id = state := by
  induction steps generalizing daemon with
  | nil => exact hh
  | cons step rest ih =>
    obtain ⟨hf, hl⟩ := Nat.add_eq_zero_iff.mp hq
    refine ih ?_ hl (untouched_step ?_ hf hh)
    · exact hs.imp_right fun ha => (along_cons.mp ha).2
    · exact hs.imp_right fun ha => (along_cons.mp ha).1

/-- Whatever ends an incarnation leaves the bookkeeping. If there is none for a container at that time,
    its first restart in the next incarnation is decided from empty bookkeeping. While it is seen only
    in terminal states there, that is the only way; otherwise it is enough that a tick with its
    restart pass open has found the container up before. -/
theorem first_decision_from_empty_iff (id : String) (daemon : Daemon) (boundary : Operation)
    (gap : List Step) (tick : Step) (state : Option ContainerRestartState)
    (first : total Daemon.step (relaunchCost id) (daemon.step (.operate boundary)) gap = 0)
    (decides : DecidesFrom id (run Daemon.step (daemon.step (.operate boundary)) gap) tick state) :
    (daemon.host.restarts.lookup id = none → state = none) ∧
    (Along Daemon.step (Observes id fun state => containerStateIsTerminal state = true)
        (daemon.step (.operate boundary)) gap →
      (state = none ↔ daemon.host.restarts.lookup id = none)) ∧
    ∀ early sight late, gap = early ++ sight :: late →
      Clears id (run Daemon.step (daemon.step (.operate boundary)) early) sight → state = none := by
  have hl : (daemon.step (.operate boundary)).host.restarts = daemon.host.restarts :=
    (Daemon.step_restarts rfl).1
  refine ⟨?_, ?_, ?_⟩
  · intro empty
    rw [decides.state_eq]
    exact untouched_run (.inl rfl) first (hl ▸ empty)
  · intro hd
    rw [decides.state_eq, untouched_run (.inr hd) first rfl, hl]
  · rintro early sight late rfl hc
    rw [total_append, Nat.add_eq_zero_iff] at first
    rw [decides.state_eq, run_append]
    show (run Daemon.step ((run Daemon.step (daemon.step (.operate boundary)) early).step sight)
      late).host.restarts.lookup id = none
    exact untouched_run (.inl rfl) (Nat.add_eq_zero_iff.mp first.2).2 hc.lookup

end Wholes

/-- The daemon after it has relaunched the container once. -/
def relaunchedOnce : Daemon := run Daemon.step { host := { disk := some onceCell } } (passAt 10 crashed)

/-- The cell is created again; then a pass sees the container up, and the next one lists the cell. -/
def seenUp : List Step := passAt 50 { state := .ready } ++ [.pass .listForReconcile]

theorem seenUp_clears : Clears "app" (run Daemon.step
    (relaunchedOnce.step (.operate (.persist {} onceCell))) [.pass .listForReconcile])
    (.pass (.tick { now := 50 } (.steady (workloadIn { state := .ready })))) :=
  ⟨_, _, _, [⟨"root", true, "", restartBackoff, onFailureMaxRestarts⟩,
    ⟨"app", false, restartPolicyOnFailure, 0, 1⟩], ⟨"app", false, restartPolicyOnFailure, 0, 1⟩,
    rfl, by decide +kernel, fun doc ho => by cases ho; decide +kernel, by decide, by simp, rfl,
    by decide +kernel, by decide +kernel, by decide +kernel, _, rfl, by decide +kernel⟩

theorem first_decision_from_empty_of_relaunched :
    relaunchedOnce.host.restarts.lookup "app" = some { attempts := 1, lastAttempt := 10 } ∧
      ∃ state, DecidesFrom "app"
        (run Daemon.step (relaunchedOnce.step (.operate (.persist {} onceCell))) seenUp)
        (.pass (.tick { now := 90 } (.steady (workloadIn crashed)))) state ∧ state = none := by
  have decides : DecidesFrom "app"
      (run Daemon.step (relaunchedOnce.step (.operate (.persist {} onceCell))) seenUp)
      (.pass (.tick { now := 90 } (.steady (workloadIn crashed)))) _ :=
    ⟨_, _, _, [⟨"root", true, "", restartBackoff, onFailureMaxRestarts⟩],
      ⟨"app", false, restartPolicyOnFailure, 0, 1⟩, [], rfl, by decide +kernel,
      fun doc ho => by cases ho; decide +kernel, rfl, by decide, by decide +kernel, rfl⟩
  exact ⟨by decide +kernel, _, decides, (first_decision_from_empty_iff "app" relaunchedOnce
    (.persist {} onceCell) seenUp _ _ (by decide +kernel) decides).2.2 [.pass .listForReconcile] _
    [.pass .listForReconcile] rfl seenUp_clears⟩

/-- A cell that was deleted after its restarts were used up and then created again is not restarted:
    the count of attempts of the deleted cell still stands. -/
theorem recreated_cell_inherits_attempts :
    let daemon : Daemon := { host := { disk := some onceCell } }
    let recreated := passAt 10 crashed ++ [.operate .delete, .operate (.persist {} onceCell)]
    (run Daemon.step daemon recreated).host.restarts.lookup "app" =
        some { attempts := 1, lastAttempt := 10 } ∧
      total Daemon.step (relaunchCost "app") (run Daemon.step daemon recreated)
        (passAt 90 crashed) = 0 ∧
      total Daemon.step (relaunchCost "app") daemon (passAt 90 crashed) = 1 := by
  decide +kernel

end Kukeon.Runner
