import Kukeon.Kuketty.Stages
import Kukeon.Lib.Runs
import Kukeon.Runner.Host

/-! # Create stages across boots

The record that a create stage is done goes from the agent in the container into the status of the
cell, to disk, and back into the document that the agent is given (`priorStagesForContainer` and
`applyStageRenderGate` of `internal/controller/runner/stage_status.go`). The document is rendered
when the container is created; a start that finds the container reuses it as it is.
-/

namespace Kukeon.Runner

open ModelHub GoText ApiScheme Kuketty

def priorStagesForContainer (cell : Cell) (containerID : String) : List StageStatus :=
  match cell.status.containers.find? fun status => status.id = containerID with
  | none => []
  | some status => status.stages

/-- Clears the script of every create stage whose content is on record as done. -/
def applyStageRenderGate (stageHash : TtyStage → String) (onInit : List TtyStage)
    (priorStages : List StageStatus) : List TtyStage :=
  let doneHashes :=
    (priorStages.filter fun prior => prior.state = stageDone ∧ prior.hash ≠ "").map
      StageStatus.hash
  onInit.map fun stage =>
    if stage.runOn = runOnCreate ∧ stageHash stage ∈ doneHashes then { stage with script := "" }
    else stage

/-- The stages that `writeKukettyDoc` puts into the document of a container. -/
def renderedStages (stageHash : TtyStage → String) (spec : ContainerSpec)
    (priorStages : List StageStatus) : List TtyStage :=
  if spec.attachable then
    match storedTty spec.tty with
    | none => []
    | some tty => applyStageRenderGate stageHash tty.onInit priorStages
  else []

structure StageHost where
  /-- The document of the cell on disk. -/
  cell : Cell
  /-- The stages in the document of the container's agent, once the container is created. -/
  rendered : Option (List TtyStage) := none
  /-- What the agent serves while it is up. -/
  serving : Option (List StageStatus) := none

inductive StageStep where
  /-- `StartCell` or `StartContainer` up to the write of the statuses, which is a `pass`. -/
  | boot (now : Time) (survey : Survey) (outcome : Boot)
  /-- A tick, a refresh or the end of a start populates the statuses and stores them. -/
  | pass (now : Time) (survey : Survey) (reachable : Bool)
  | stop
  /-- Any other write of the cell, such as an apply that leaves the container in place. -/
  | store (cell : Cell)

section Container

variable (containerID : String)

/-- The survey of a pass, with what the container's own socket answers. -/
def StageHost.surveyed (s : StageHost) (survey : Survey) (reachable : Bool) : Survey :=
  { survey with
    setup := fun index =>
      if (s.cell.spec.containers[index]?.map ContainerSpec.id) = some containerID then
        if reachable then s.serving.map fun stages => ([], stages) else none
      else survey.setup index }

def StageHost.populated (s : StageHost) (now : Time) (survey : Survey) (reachable : Bool) : Cell :=
  populateCellContainerStatuses now (s.surveyed containerID survey reachable) s.cell

/-- The stages the agent finds when the container boots: those it was created with, or those rendered
    now for a container that is created now. No agent is up yet to be asked. -/
def StageHost.bootStages (s : StageHost) (now : Time) (survey : Survey) : List TtyStage :=
  match s.rendered with
  | some stages => stages
  | none =>
    let cell := s.populated containerID now survey false
    match cell.spec.containers.find? fun spec => spec.id = containerID with
    | none => []
    | some spec =>
      renderedStages survey.stageHash spec (priorStagesForContainer cell containerID)

def StageHost.executed (s : StageHost) : StageStep → List Nat
  | .boot now survey outcome =>
    (agentRun outcome (createStages (s.bootStages containerID now survey))).executed
  | _ => []

def StageHost.step (s : StageHost) : StageStep → StageHost
  | .boot now survey outcome =>
    let stages := s.bootStages containerID now survey
    let ran := agentRun outcome (createStages stages)
    { s with
      rendered := some stages
      -- An agent that returned early or whose stages failed serves nothing.
      serving := if ran.failure.isSome then none else some ran.statuses }
  | .pass now survey reachable =>
    { s with
      cell :=
        persistedCell (stampCellLifecycle now (s.populated containerID now survey reachable)) }
  | .stop => { s with serving := none }
  | .store cell => { s with cell := persistedCell cell }

def Reports (s : StageHost) (index : Nat) : StageStep → Prop
  | .pass now survey reachable =>
    ∃ status ∈ (s.populated containerID now survey reachable).status.containers,
      status.id = containerID ∧
        ∃ stage ∈ status.stages, stage.index = index ∧ stage.state = stageDone
  | _ => False

/-- The stage at the position in the stored spec of the container. -/
def StageHost.stageAt (s : StageHost) (index : Nat) : Option TtyStage :=
  ((s.cell.spec.containers.find? fun spec => spec.id = containerID).bind ContainerSpec.tty).bind
    fun tty => tty.onInit[index]?

/-- The boot comes after a pass that stored the stage as done, and the stage has been left as it was
    then. -/
structure BootAfterDone (s : StageHost) (steps : List StageStep) (index : Nat)
    (before between : List StageStep) (pass : StageStep) (now : Time) (survey : Survey)
    (outcome : Boot) : Prop where
  split : ∃ rest, steps = before ++ pass :: (between ++ .boot now survey outcome :: rest)
  reports : Reports containerID (Runs.run (StageHost.step containerID) s before) index pass
  unchanged : ∀ part, part <+: between →
    (Runs.run (StageHost.step containerID) s (before ++ pass :: part)).stageAt containerID index =
      (Runs.run (StageHost.step containerID) s before).stageAt containerID index

/-- No boot runs the stage again once a pass has stored it as done. -/
def RunsOnce (s : StageHost) (steps : List StageStep) (index : Nat) : Prop :=
  ∀ before between pass now survey outcome,
    BootAfterDone containerID s steps index before between pass now survey outcome →
      index ∉ (Runs.run (StageHost.step containerID) s (before ++ pass :: between)).executed
        containerID (.boot now survey outcome)

end Container

/-- Neither the stored form of a cell nor what is read back of it carries stages. -/
theorem stages_persistedCell {cell : Cell} {status : ContainerStatus}
    (hm : status ∈ (persistedCell cell).status.containers) : status.stages = [] := by
  obtain ⟨_, _, rfl⟩ := List.mem_map.mp hm
  rfl

/-- What is on disk records no stage, and what the agent serves is the outcome of its own stages. -/
structure Genuine (s : StageHost) : Prop where
  disk : ∀ status ∈ s.cell.status.containers, status.stages = []
  agent : ∀ statuses ∈ s.serving, ∃ stages outcome, s.rendered = some stages ∧
    statuses = (processStages outcome (createStages stages)).statuses

section Runs

variable {containerID : String} {s : StageHost}

/-- An agent that serves has come to its stages. -/
theorem agent_of_boot {stages : List TtyStage} {outcome : Boot} {statuses : List StageStatus}
    (ran : ¬ (agentRun outcome (createStages stages)).failure.isSome = true)
    (serves : statuses ∈ some (agentRun outcome (createStages stages)).statuses) :
    ∃ shown ends, some stages = some shown ∧
      statuses = (processStages ends (createStages shown)).statuses := by
  cases outcome with
  | error cause => exact absurd rfl ran
  | ok ends => exact ⟨stages, ends, rfl, (Option.some.inj serves).symm⟩

theorem Genuine.step (hg : Genuine s) (step : StageStep) :
    Genuine (s.step containerID step) := by
  cases step with
  | boot now survey outcome =>
    refine ⟨hg.disk, ?_⟩
    intro statuses hs
    simp only [StageHost.step] at hs
    split at hs
    · cases hs
    · next ran => exact agent_of_boot ran hs
  | pass now survey reachable => exact ⟨fun _ => stages_persistedCell, hg.agent⟩
  | stop => exact ⟨hg.disk, fun _ hs => absurd hs (by simp [StageHost.step])⟩
  | store cell => exact ⟨fun _ => stages_persistedCell, hg.agent⟩

theorem Genuine.run (hg : Genuine s) (steps : List StageStep) :
    Genuine (Runs.run (StageHost.step containerID) s steps) := by
  induction steps using List.reverseRecOn with
  | nil => exact hg
  | append_singleton steps step ih =>
    rw [Runs.run_concat]
    exact ih.step step

theorem rendered_step {stages : List TtyStage} (hr : s.rendered = some stages)
    (step : StageStep) : (s.step containerID step).rendered = some stages := by
  cases step with
  | boot now survey outcome => simp [StageHost.step, StageHost.bootStages, hr]
  | pass => exact hr
  | stop => exact hr
  | store => exact hr

theorem rendered_run {stages : List TtyStage} (hr : s.rendered = some stages)
    (steps : List StageStep) :
    (Runs.run (StageHost.step containerID) s steps).rendered = some stages := by
  induction steps using List.reverseRecOn with
  | nil => exact hr
  | append_singleton steps step ih =>
    rw [Runs.run_concat]
    exact rendered_step ih step

/-- With nothing on record, an entry of the merge is one the agent serves, under the hash of the create
    stage that the spec has at its position. -/
theorem mem_mergeStageStatuses {stageHash : TtyStage → String} {spec : ContainerSpec}
    {live : List StageStatus} {record : StageStatus}
    (hmm : record ∈ mergeStageStatuses stageHash spec [] live) :
    ∃ tty stage, ∃ index : Nat, spec.tty = some tty ∧ tty.onInit[index]? = some stage ∧
      stage.runOn = runOnCreate ∧
        ∃ entry ∈ live, entry.index = index ∧ record = { entry with hash := stageHash stage } := by
  unfold mergeStageStatuses at hmm
  split at hmm
  · cases hmm
  · next tty hit =>
      rw [List.reduceOption_mem_iff, List.mem_mapIdx] at hmm
      obtain ⟨position, hi, hm⟩ := hmm
      unfold mergeStage at hm
      split at hm
      · cases hm
      · next hc =>
          split at hm
          · next entry hf =>
              obtain rfl := Option.some.inj hm
              exact ⟨tty, _, position, hit, List.getElem?_eq_getElem hi, not_not.mp hc,
                entry, (Keyed.find_some hf).1, (Keyed.find_some hf).2, rfl⟩
          · simp [Keyed.find] at hm

/-- Where the record of a stage comes from that a populated status of the container has. -/
theorem Genuine.origin (hg : Genuine s) {now : Time} {survey : Survey} {reachable : Bool}
    {position : Nat} {spec : ContainerSpec} (hp : s.cell.spec.containers[position]? = some spec)
    (own : spec.id = containerID) {record : StageStatus}
    (hr : record ∈ (populatedStatus now (s.surveyed containerID survey reachable)
      s.cell.status.containers position spec).stages) :
    reachable = true ∧ spec.attachable = true ∧ ∃ statuses, s.serving = some statuses ∧
      ∃ tty stage, ∃ index : Nat, spec.tty = some tty ∧ tty.onInit[index]? = some stage ∧
        stage.runOn = runOnCreate ∧ ∃ entry ∈ statuses, entry.index = index ∧
          record = { entry with hash := survey.stageHash stage } := by
  have hpr : ((Keyed.find ContainerStatus.id spec.id s.cell.status.containers).getD
      {}).stages = [] := by
    cases hf : Keyed.find ContainerStatus.id spec.id s.cell.status.containers with
    | none => rfl
    | some before => exact hg.disk before (Keyed.find_some hf).1
  simp only [populatedStatus] at hr
  rw [hpr] at hr
  obtain ⟨tty, stage, index, hit, ht, hc, entry, hi, hsm⟩ :=
    mem_mergeStageStatuses hr
  simp only [setupStatuses] at hi
  split at hi
  · cases hi
  · next hrd =>
      have ha : spec.attachable = true := by
        simp only [Bool.or_eq_true, not_or, Bool.not_eq_true, Bool.not_eq_false'] at hrd
        exact hrd.1
      split at hi
      · cases hi
      · simp only [StageHost.surveyed, hp, Option.map_some, own, if_true] at hi
        split at hi
        · next has =>
            cases hs : s.serving with
            | none => simp [hs] at hi
            | some statuses =>
              simp only [hs, Option.map_some, Option.getD_some] at hi
              exact ⟨has, ha, statuses, rfl, tty, stage, index, hit, ht, hc,
                entry, hi, hsm⟩
        · cases hi

/-- Every stage in a populated status of the container is one its agent serves. -/
theorem Genuine.served (hg : Genuine s) {now : Time} {survey : Survey} {reachable : Bool}
    {status : ContainerStatus}
    (hm : status ∈ (s.populated containerID now survey reachable).status.containers)
    (own : status.id = containerID) {stage : StageStatus} (hr : stage ∈ status.stages) :
    reachable = true ∧ ∃ statuses, s.serving = some statuses ∧
      ∃ entry ∈ statuses, entry.index = stage.index := by
  simp only [StageHost.populated, populateCellContainerStatuses, List.mem_mapIdx] at hm
  obtain ⟨position, hin, rfl⟩ := hm
  obtain ⟨ha, -, statuses, hs, -, -, -, -, -, -, entry, hi, -, rfl⟩ :=
    hg.origin (List.getElem?_eq_getElem hin) own hr
  exact ⟨ha, statuses, hs, entry, hi, rfl⟩

/-- A stage that a pass reports as done is a create stage of the agent's document. -/
theorem Genuine.reported (hg : Genuine s) {index : Nat} {pass : StageStep}
    (hr : Reports containerID s index pass) :
    ∃ stages stage, s.rendered = some stages ∧ (stage, index) ∈ createStages stages := by
  cases pass with
  | pass now survey reachable =>
    obtain ⟨status, hm, own, entry, hrc, ha, _⟩ := hr
    obtain ⟨_, statuses, hsr, served, hi, hsm⟩ := hg.served hm own hrc
    obtain ⟨stages, outcome, hrn, rfl⟩ := hg.agent statuses hsr
    obtain ⟨⟨stage, place⟩, hic, hs⟩ := index_of_mem_statuses hi
    have hp : place = index := by
      simp only at hs
      omega
    exact ⟨stages, stage, hrn, hp ▸ hic⟩
  | boot => exact hr.elim
  | stop => exact hr.elim
  | store => exact hr.elim

end Runs

/-- For every history of a container from before it was created, in which nothing recreates it: a
    create stage that was stored as done is run by no later boot exactly when, at every later boot,
    the script it was created with is blank, or the agent returns before it comes to the stage. -/
theorem create_stage_runs_once_iff (containerID : String) (cell : Cell) (steps : List StageStep)
    (index : Nat) :
    RunsOnce containerID { cell := persistedCell cell } steps index ↔
      ∀ before between pass now survey outcome,
        BootAfterDone containerID { cell := persistedCell cell } steps index before between pass now
            survey outcome →
          ∀ stages ∈ (Runs.run (StageHost.step containerID) { cell := persistedCell cell }
              before).rendered,
            (∀ stage ∈ stages[index]?, trimSpace stage.script = "") ∨
              NotReached outcome (createStages stages) index := by
  have hg : Genuine { cell := persistedCell cell } :=
    ⟨fun _ => stages_persistedCell, fun _ hs => absurd hs (by simp)⟩
  refine forall_congr' fun before => forall_congr' fun between => forall_congr' fun pass =>
    forall_congr' fun now => forall_congr' fun survey => forall_congr' fun outcome =>
      forall_congr' fun ha => ?_
  obtain ⟨stages, stage, hr, hi⟩ := (hg.run before).reported ha.reports
  have hl : (Runs.run (StageHost.step containerID) { cell := persistedCell cell }
      (before ++ pass :: between)).rendered = some stages := by
    have hu : Runs.run (StageHost.step containerID) { cell := persistedCell cell }
        (before ++ pass :: between) = Runs.run (StageHost.step containerID)
          (Runs.run (StageHost.step containerID) { cell := persistedCell cell } before)
          (pass :: between) := List.foldl_append
    rw [hu]
    exact rendered_run hr _
  have hp := (mem_createStages.mp hi).1
  rw [StageHost.executed, StageHost.bootStages, hl]
  simp only [mem_agentRun_iff (createStages_ordered stages) hi, hr, Option.mem_def,
    Option.some.injEq, forall_eq', hp, not_and_or, not_not]

def installCell : Cell where
  spec :=
    { containers :=
        [ { id := "main", attachable := true
            tty := some { onInit := [{ script := "npm ci", runOn := "create" }] } } ] }

def readySurvey : Survey := { Survey.all .ready with stageHash := TtyStage.script }

/-- The cell is started, a tick stores its statuses, it is stopped and started again. -/
def restartHistory : List StageStep :=
  [ .boot 1 readySurvey (.ok fun _ => none), .pass 2 readySurvey true, .stop,
    .boot 3 readySurvey (.ok fun _ => none) ]

theorem create_stage_runs_again :
    ¬ RunsOnce "main" { cell := persistedCell installCell } restartHistory 0 := by
  intro ho
  have ha : BootAfterDone "main" { cell := persistedCell installCell } restartHistory 0
      [.boot 1 readySurvey (.ok fun _ => none)] [.stop] (.pass 2 readySurvey true) 3 readySurvey
      (.ok fun _ => none) := by
    refine ⟨⟨[], rfl⟩, ?_, ?_⟩
    · exact ⟨_, List.mem_cons_self, rfl, _, List.mem_cons_self, rfl, rfl⟩
    · intro part hi
      rcases List.prefix_cons_iff.mp hi with rfl | ⟨rest, rfl, hn⟩
      · rfl
      · cases List.prefix_nil.mp hn
        rfl
  exact ho _ _ _ _ _ _ ha (by decide)

end Kukeon.Runner
