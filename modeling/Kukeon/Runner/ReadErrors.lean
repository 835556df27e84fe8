import Kukeon.Runner.ReapSafety

/-! # Failed calls and exits

A tick learns the state of each container from calls to containerd, some of which the client's cache
makes unnecessary. A terminal state should rest on an answer of containerd that the container or its
task is gone or has stopped. There is one call whose failures all read as such an answer: the one for
the task of a container.
-/

namespace Kukeon.Runner

open ModelHub Ctr Effect

/-- The container exists and its task is not cached, so that containerd is asked for the task; the
    call fails, and not because there is no task. -/
structure TaskCallFails (answers : Answers) (ns containerdID : String) (client : Client) : Prop where
  named : containerdID ≠ ""
  found : ∃ container, answers.existsContainer = .ok container
  cold : client.tasks.lookup (cacheKey ns containerdID) = none
  loads : client.containers.lookup (cacheKey ns containerdID) = none →
    ∃ container, answers.loadContainer = .ok container
  fails : ∃ cause, answers.task = .error cause ∧ cause ≠ .notFound

theorem stopped_of_terminal {report : Status}
    (ht : containerStateIsTerminal (convertContainerdStatusToContainerState report) = true) :
    report.status = .stopped := by
  unfold convertContainerdStatusToContainerState at ht
  cases hk : report.status with
  | stopped => rfl
  | running | created | unknown | paused | pausing | other =>
    rw [hk] at ht
    cases ht

section Query

variable {answers : Answers} {ns containerdID : String} {client : Client}

/-- A terminal state without a word from containerd that the container is gone. -/
theorem taskCallFails_of_unsaid
    (ht :
      containerStateIsTerminal (queryContainer answers ns containerdID client).1.state = true)
    (hu : ∀ exchange ∈ (queryContainer answers ns containerdID client).2.heard,
      ¬ exchange.SaysGone) :
    TaskCallFails answers ns containerdID client := by
  unfold queryContainer at ht hu
  rcases he : client.existsContainer answers ns containerdID with ⟨_ | _ | _, asked⟩
  · rw [he] at ht
    cases ht
  · rw [he] at hu
    exact absurd rfl (hu _ (Client.existsContainer_false he))
  · rw [he] at ht hu
    dsimp only at ht hu
    obtain ⟨hnm, hfn, hst, hsc⟩ := Client.existsContainer_true he
    rcases hs : asked.taskStatus answers ns containerdID with ⟨err | report, told⟩
    · rw [hs] at ht hu
      dsimp only at ht hu
      split at ht
      · next hn =>
        rw [if_pos hn] at hu
        obtain ⟨cause, container, _, hf, hh, hc, hl⟩ :=
          Client.taskStatus_taskNotFound hs hn
        rw [hst] at hc
        rw [hsc] at hl
        refine ⟨hnm, hfn, hc, hl, cause, hf, ?_⟩
        intro hi
        exact hu _ hh (by rw [hi]; rfl)
      · cases ht
    · rw [hs] at ht hu
      dsimp only at ht hu
      obtain ⟨task, hh⟩ := Client.taskStatus_ok hs
      exact absurd ⟨report, rfl, stopped_of_terminal ht⟩ (hu _ hh)

/-- The failed call is recorded as a stopped container, on no word of containerd's. -/
theorem queryContainer_of_taskCallFails (hs : client.heard = [])
    (hm : TaskCallFails answers ns containerdID client) :
    (queryContainer answers ns containerdID client).1.state = .stopped ∧
      ∀ exchange ∈ (queryContainer answers ns containerdID client).2.heard,
        ¬ exchange.SaysGone := by
  obtain ⟨hn, ⟨container, hfn⟩, hcl, hld, ⟨cause, hf, ho⟩⟩ := hm
  cases hc : client.containers.lookup (cacheKey ns containerdID) with
  | some record =>
    simp [queryContainer, Client.existsContainer, Client.taskStatus, Client.loadTask,
      Client.loadContainer, hn, hfn, hcl, hc, hf, hs,
      ClientError.isTaskNotFound, Exchange.SaysGone, ho]
  | none =>
    obtain ⟨record, hl⟩ := hld hc
    simp [queryContainer, Client.existsContainer, Client.taskStatus, Client.loadTask,
      Client.loadContainer, hn, hfn, hcl, hc, hl, hf, hs,
      ClientError.isTaskNotFound, Exchange.SaysGone, ho]

theorem queryContainer_unknown (hsl : client.heard = [])
    (hsn : ¬ TaskCallFails answers ns containerdID client)
    {exchange : Exchange} (hh : exchange ∈ (queryContainer answers ns containerdID client).2.heard)
    (hfl : exchange.Fails) :
    (queryContainer answers ns containerdID client).1.state = .unknown := by
  unfold queryContainer at hh ⊢
  rcases he : client.existsContainer answers ns containerdID with ⟨err | found, asked⟩
  · rfl
  have hfr : ∀ exchange ∈ asked.heard, ¬ exchange.Fails := by
    intro exchange hii
    have ha := Client.existsContainer_answered he exchange hii
    rw [hsl] at ha
    exact ha.resolve_left List.not_mem_nil
  rw [he] at hh
  cases found with
  | false => exact absurd hfl (hfr exchange hh)
  | true =>
    dsimp only at hh ⊢
    obtain ⟨hnm, found, hst, hsc⟩ := Client.existsContainer_true he
    rcases hs : asked.taskStatus answers ns containerdID with ⟨err | report, told⟩
    · rw [hs] at hh
      dsimp only at hh ⊢
      split
      · next hn =>
        obtain ⟨cause, container, hi, hf, _, hc, hl⟩ :=
          Client.taskStatus_taskNotFound hs hn
        rw [hst] at hc
        rw [hsc] at hl
        by_cases hnn : cause = .notFound
        · -- There is no task: no call has failed.
          rw [if_pos hn] at hh
          have ha := Client.taskStatus_answered hs
            (fun _ hsm => by cases hsm; rw [hi, hnn]) exchange hh
          exact absurd hfl (ha.elim (hfr exchange) id)
        · exact absurd ⟨hnm, found, hc, hl, cause, hf, hnn⟩ hsn
      · rfl
    · rw [hs] at hh
      have ha := Client.taskStatus_answered hs nofun exchange hh
      exact absurd hfl (ha.elim (hfr exchange) id)

end Query

/-- The answers and the two caches that a read of a container's state finds. -/
structure Circumstances where
  read : StatusRead
  containers : GoMap String Container := ∅
  tasks : GoMap String Task := ∅

namespace Circumstances

def client (circumstances : Circumstances) : Client :=
  { containers := circumstances.containers, tasks := circumstances.tasks }

variable (circumstances : Circumstances) (cell : Cell) (containerID : String)

def observe : Except RunnerError ContainerObservation × List Exchange :=
  let (result, client) :=
    getContainerObservation circumstances.read cell containerID circumstances.client
  (result, client.heard)

def recorded : ContainerState :=
  match (circumstances.observe cell containerID).1 with
  | .ok seen => seen.state
  | .error _ => .unknown

def SaidGone : Prop :=
  ∃ exchange ∈ (circumstances.observe cell containerID).2, exchange.SaysGone

def SomeCallFailed : Prop :=
  ∃ exchange ∈ (circumstances.observe cell containerID).2, exchange.Fails

/-- A terminal state is on containerd's word, and a failed call leaves the state unknown. -/
structure Faithful : Prop where
  terminal : containerStateIsTerminal (circumstances.recorded cell containerID) = true →
    circumstances.SaidGone cell containerID
  unknown : circumstances.SomeCallFailed cell containerID →
    circumstances.recorded cell containerID = .unknown

/-- The read gets as far as asking for the task, and that call fails. -/
def Misread : Prop :=
  ∃ ns containerdID, observationTarget circumstances.read cell containerID =
      .ok (.query ns containerdID) ∧
    TaskCallFails circumstances.read.containerd ns containerdID circumstances.client

theorem faithful_of_unknown
    (hu : circumstances.recorded cell containerID = .unknown) :
    circumstances.Faithful cell containerID where
  terminal := by
    intro ht
    rw [hu] at ht
    cases ht
  unknown := fun _ => hu

theorem faithful_iff_of_query {ns containerdID : String}
    (htr : observationTarget circumstances.read cell containerID = .ok (.query ns containerdID)) :
    circumstances.Faithful cell containerID ↔
      ¬ TaskCallFails circumstances.read.containerd ns containerdID circumstances.client := by
  have ho : circumstances.observe cell containerID =
      (.ok (queryContainer circumstances.read.containerd ns containerdID circumstances.client).1,
        (queryContainer circumstances.read.containerd ns containerdID
          circumstances.client).2.heard) := by
    unfold observe getContainerObservation
    rw [htr]
  constructor
  · intro hf hm
    obtain ⟨hs, hu⟩ := queryContainer_of_taskCallFails rfl hm
    have ht : containerStateIsTerminal (circumstances.recorded cell containerID) = true := by
      unfold recorded
      rw [ho]
      dsimp only
      rw [hs]
      rfl
    obtain ⟨exchange, hh, hg⟩ := hf.terminal ht
    rw [ho] at hh
    exact hu exchange hh hg
  · intro hsn
    refine ⟨?_, ?_⟩
    · intro ht
      unfold recorded at ht
      unfold SaidGone
      rw [ho] at ht ⊢
      by_contra hu
      refine hsn (taskCallFails_of_unsaid ht ?_)
      intro exchange hh hg
      exact hu ⟨exchange, hh, hg⟩
    · intro hfl
      obtain ⟨exchange, hh, hfs⟩ := hfl
      unfold recorded
      rw [ho] at hh ⊢
      exact queryContainer_unknown rfl hsn hh hfs

theorem faithful_iff :
    circumstances.Faithful cell containerID ↔ ¬ circumstances.Misread cell containerID := by
  cases ht : observationTarget circumstances.read cell containerID with
  | error err =>
    have ho : circumstances.observe cell containerID = (.error err, []) := by
      unfold observe getContainerObservation
      rw [ht]
      rfl
    refine iff_of_true ?_ ?_
    · refine faithful_of_unknown _ _ _ ?_
      unfold recorded
      rw [ho]
    · rintro ⟨ns, containerdID, hq, _⟩
      rw [ht] at hq
      cases hq
  | ok found =>
    cases found with
    | absent =>
      have ho : circumstances.observe cell containerID =
          (.ok { state := .unknown }, []) := by
        unfold observe getContainerObservation
        rw [ht]
        rfl
      refine iff_of_true ?_ ?_
      · refine faithful_of_unknown _ _ _ ?_
        unfold recorded
        rw [ho]
      · rintro ⟨ns, containerdID, hq, _⟩
        rw [ht] at hq
        cases hq
    | query ns containerdID =>
      rw [faithful_iff_of_query circumstances cell containerID ht, not_iff_not]
      constructor
      · intro hf
        exact ⟨ns, containerdID, ht, hf⟩
      · rintro ⟨ns, containerdID, hq, hf⟩
        rw [ht] at hq
        cases hq
        exact hf

end Circumstances

/-- The circumstances of the read of each container, and of the second read of the root. -/
structure TickReads where
  container : Nat → Circumstances
  root : Circumstances

namespace TickReads

variable (reads : TickReads) (cell : Cell)

def survey (setup : Survey) : Survey :=
  { setup with
    observation := fun index =>
      match cell.spec.containers[index]? with
      | none => .error (.io "no such container")
      | some spec => ((reads.container index).observe cell spec.id).1 }

def rootState : Except RunnerError ContainerState :=
  match findRootContainerSpec cell.spec with
  | none => .ok .unknown
  | some root => (reads.root.observe cell root.id).1.map ContainerObservation.state

/-- The reads that decide the state of the cell: those of its workloads, or, if there are none, the
    second read of the root. -/
inductive Decides : Circumstances → String → Prop
  | workload {index : Nat} {spec : ContainerSpec} :
      cell.spec.containers[index]? = some spec → spec.root = false →
        Decides (reads.container index) spec.id
  | root {spec : ContainerSpec} :
      hasNonRootContainerSpec cell.spec.containers = false →
        findRootContainerSpec cell.spec = some spec → Decides reads.root spec.id

inductive Makes : Circumstances → String → Prop
  | container {index : Nat} {spec : ContainerSpec} :
      cell.spec.containers[index]? = some spec → Makes (reads.container index) spec.id
  | root {spec : ContainerSpec} :
      hasNonRootContainerSpec cell.spec.containers = false →
        findRootContainerSpec cell.spec = some spec → Makes reads.root spec.id

variable {reads cell}

theorem Decides.makes {circumstances : Circumstances} {containerID : String}
    (hdc : reads.Decides cell circumstances containerID) :
    reads.Makes cell circumstances containerID := by
  cases hdc with
  | workload hd hnr => exact .container hd
  | root hn hf => exact .root hn hf

theorem seen_survey {setup : Survey} {index : Nat} {spec : ContainerSpec}
    (hd : cell.spec.containers[index]? = some spec) :
    ((reads.survey cell setup).seen index).state = (reads.container index).recorded cell spec.id := by
  unfold Survey.seen survey Circumstances.recorded
  dsimp only
  rw [hd]
  dsimp only
  cases ((reads.container index).observe cell spec.id).1 <;> rfl

theorem recorded_rootState {state : ContainerState} {root : ContainerSpec}
    (hf : findRootContainerSpec cell.spec = some root)
    (hr : reads.rootState cell = .ok state) : reads.root.recorded cell root.id = state := by
  unfold rootState at hr
  unfold Circumstances.recorded
  rw [hf] at hr
  dsimp only at hr
  cases ho : (reads.root.observe cell root.id).1 with
  | error err =>
    rw [ho] at hr
    cases hr
  | ok seen =>
    rw [ho] at hr
    cases hr
    rfl

end TickReads

def TickInputs.observing (inputs : TickInputs) (reads : TickReads) (cell : Cell) : TickInputs :=
  { inputs with
    survey := reads.survey cell inputs.survey
    rootState := reads.rootState cell }

/-- Only the containers that `may` names are relaunched. -/
def relaunchRules (may : String → Prop) : Rules where
  inv host := ∀ id, .relaunching id ∈ host.trace → may id
  doc _ _ := True
  relaunch := may
  kill _ := True
  reap := True

theorem relaunchRules_logged {may : String → Prop} {host : CellHost} {event : Event}
    (hh : (relaunchRules may).inv host) (ha : ∀ id, event = .relaunching id → may id) :
    (relaunchRules may).inv (host.logged event) := by
  intro id hr
  rcases List.mem_append.mp hr with old | new
  · exact hh id old
  · exact ha id (List.mem_singleton.mp new).symm

theorem relaunchRules_sound (may : String → Prop) : (relaunchRules may).Sound where
  edit := fun _ _ => trivial
  read := fun _ _ => trivial
  write := by
    intro host now cell doc hh _ _
    exact relaunchRules_logged hh (by simp)
  idle := by
    intro host next hh _ ht _ id hr
    exact hh id (ht ▸ hr)
  markedFailed := by
    intro host reason hh
    exact relaunchRules_logged hh (by simp)
  relaunching := by
    intro host id hh ha
    refine relaunchRules_logged hh ?_
    intro other hs
    cases hs
    exact ha
  killed := by
    intro host ids hh _
    exact relaunchRules_logged hh (by simp)
  kill_mono := fun _ => trivial
  kill_after_failure := trivial
  kill_of_reap := fun _ => trivial
  derive := fun hh _ _ => hh
  doc_derive := fun _ => trivial

theorem terminal_of_relaunching (inputs : TickInputs) (cell : Cell) (host : CellHost) {id : String}
    (hr : .relaunching id ∈
      (finalState (reconcileCell inputs cell) { host with trace := [] }).trace) :
    ∃ index spec, cell.spec.containers[index]? = some spec ∧ spec.id = id ∧
      containerStateIsTerminal (inputs.survey.seen index).state = true := by
  have he := reconcileCell_ends
    (relaunchRules_sound fun id => ∃ index spec, cell.spec.containers[index]? = some spec ∧
      spec.id = id ∧ containerStateIsTerminal (inputs.survey.seen index).state = true)
    inputs (.ofAll (fun _ => trivial) inputs) cell { host with trace := [] } trivial
    (fun _ _ _ => trivial)
    (by
      intro now healed hs id status hf ht
      rw [deriveStatus_containers] at hf
      obtain ⟨hm, hi⟩ := Keyed.find_some hf
      obtain ⟨index, spec, hd, hp⟩ := mem_populated hm
      rw [hs.1] at hd
      rw [hp] at hi ht
      exact ⟨index, spec, hd, hi, ht⟩)
    (fun _ _ _ _ => trivial)
    (fun _ him => by cases him)
  rcases he with hh | ⟨_, prior, hh, hl⟩
  · exact hh id hr
  · rw [hl] at hr
    rcases List.mem_append.mp hr with old | new
    · exact hh id old
    · cases List.mem_singleton.mp new

theorem rootState_of_exited {rootState : Except RunnerError ContainerState} {cell : Cell}
    {root : ContainerSpec} (hf : findRootContainerSpec cell.spec = some root)
    (he : deriveCellStateFromRootContainer rootState cell = .exited) :
    ∃ state, rootState = .ok state ∧ containerStateIsTerminal state = true := by
  unfold deriveCellStateFromRootContainer at he
  rw [hf] at he
  cases rootState with
  | error err => cases he
  | ok state =>
    refine ⟨state, rfl, ?_⟩
    by_contra hn
    dsimp only at he
    rw [if_neg hn] at he
    split at he <;> cases he

/-- At a gate every read that decides the state has recorded a terminal one. -/
theorem terminal_of_gate {inputs : TickInputs} {reads : TickReads} {now : Time}
    {cell healed : Cell} (hs : SameWork cell healed)
    (due : reapDue (deriveStatus (inputs.observing reads cell) now cell.status healed) = true)
    {circumstances : Circumstances} {containerID : String}
    (hdd : reads.Decides cell circumstances containerID) :
    containerStateIsTerminal (circumstances.recorded cell containerID) = true := by
  have he := exited_of_gate due
  cases hdd with
  | workload hdc hnr =>
    have hd := hdc
    rw [← hs.1] at hd
    have hf := finishedCleanly_of_exited he hd hnr
    rw [← TickReads.seen_survey hdc]
    exact hf.terminal
  | @root spec hn hfn =>
    have hfr : deriveCellStateFromRootContainer (reads.rootState cell)
        (populateCellContainerStatuses now (reads.survey cell inputs.survey) healed) =
          .exited := by
      unfold deriveCellState at he
      rw [if_neg] at he
      · exact he
      · change ¬ hasNonRootContainerSpec healed.spec.containers = true
        rw [hs.1, hn]
        exact Bool.false_ne_true
    have hfd : findRootContainerSpec
        (populateCellContainerStatuses now (reads.survey cell inputs.survey) healed).spec =
          some spec := by
      change findRootContainerSpec healed.spec = some spec
      rw [hs.1]
      exact hfn
    obtain ⟨state, hr, ht⟩ := rootState_of_exited hfd hfr
    rw [TickReads.recorded_rootState hfn hr]
    exact ht

/-- For every cell, cache content and pattern of answers: terminal states, reaping and relaunches
    all rest on containerd's word exactly if no read of the tick fails at the call for the task. -/
theorem failed_calls_not_exits_iff (inputs : TickInputs) (reads : TickReads) (cell : Cell)
    (host : CellHost) :
    let trace := (finalState (reconcileCell (inputs.observing reads cell) cell)
      { host with trace := [] }).trace
    ((∀ circumstances containerID, reads.Makes cell circumstances containerID →
        circumstances.Faithful cell containerID) ∧
      (Reaps trace → ∀ circumstances containerID, reads.Decides cell circumstances containerID →
        circumstances.SaidGone cell containerID) ∧
      ∀ id, .relaunching id ∈ trace → ∃ index spec,
        cell.spec.containers[index]? = some spec ∧ spec.id = id ∧
          (reads.container index).SaidGone cell id) ↔
    ∀ circumstances containerID, reads.Makes cell circumstances containerID →
      ¬ circumstances.Misread cell containerID := by
  intro trace
  constructor
  · rintro ⟨hf, _, _⟩ circumstances containerID hm
    exact (circumstances.faithful_iff cell containerID).mp (hf _ _ hm)
  · intro hs
    have hf : ∀ circumstances containerID, reads.Makes cell circumstances containerID →
        circumstances.Faithful cell containerID := by
      intro circumstances containerID hm
      exact (circumstances.faithful_iff cell containerID).mpr (hs _ _ hm)
    refine ⟨hf, ?_, ?_⟩
    · intro hrp circumstances containerID hdc
      have ht := due_of_reaps _ (inputs.observing reads cell) cell host
        (fun now healed hsm due => terminal_of_gate hsm due hdc) hrp
      exact (hf _ _ hdc.makes).terminal ht
    · intro id hr
      obtain ⟨index, spec, hd, hn, ht⟩ :=
        terminal_of_relaunching _ cell host hr
      refine ⟨index, spec, hd, hn, ?_⟩
      subst hn
      refine (hf _ _ (.container hd)).terminal ?_
      rw [← TickReads.seen_survey hd]
      exact ht

/-- A cell that is up, and goes away once its workload has finished. -/
def shortLivedCell : Cell where
  metadata := { name := "web", generation := 1 }
  spec :=
    { id := "web", realmName := "main", spaceName := "default", stackName := "default"
      rootContainerID := "root", autoDelete := true
      containers :=
        [ { id := "root", root := true, containerdID := "default_default_web_root" },
          { id := "app", containerdID := "default_default_web_app" } ] }
  status := { state := .ready, readyObserved := true }

/-- Both containers run. The caches are cold, and the connection is lost at the call for the task of
    the workload. -/
def connectionLost : TickReads where
  container index :=
    { read :=
        { connect := .ok (), realm := .ok "main"
          containerd :=
            { existsContainer := .ok { id := "web" }
              loadContainer := .ok { id := "web" }
              task := if index = 1 then .error .unavailable else .ok { id := "web", pid := 7 }
              status := .ok { status := .running } } } }
  root :=
    { read :=
        { connect := .ok (), realm := .ok "main"
          containerd :=
            { existsContainer := .error .unavailable, loadContainer := .error .unavailable
              task := .error .unavailable, status := .error .unavailable } } }

/-- The workload is recorded as stopped, and its cell is deleted. -/
theorem lost_connection_deletes_cell :
    ((connectionLost.container 1).observe shortLivedCell "app").2 =
        [ .loadContainer "main" "default_default_web_app" (.ok { id := "web" }),
          .loadContainer "main" "default_default_web_app" (.ok { id := "web" }),
          .task "main" "web" (.error .unavailable) ] ∧
      (connectionLost.container 1).recorded shortLivedCell "app" = .stopped ∧
      .deleted ∈ (finalState (reconcileCell
        ((TickInputs.steady (.all .ready)).observing connectionLost shortLivedCell) shortLivedCell)
          { disk := some shortLivedCell }).trace := by
  refine And.intro ?_ (And.intro ?_ ?_)
  · decide
  · decide
  · decide

end Kukeon.Runner
