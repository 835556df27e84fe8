import Kukeon.Runner.CreateStages

/-! # The gate on create stages

`applyStageRenderGate` clears the script of a create stage that is on record as done. The record is the
one that `GetCell` has merged from the answer of the running agent, so it is there when an update or a
recovery replaces a container whose agent is up. It says at which position a stage is done and carries
the hash of the stage that the spec has there now, while the gate goes by hashes alone.
-/

namespace Kukeon.Runner.StageGate

open ModelHub GoText ApiScheme Kuketty Runs

/-- The stages that the document of the container is rendered from. -/
def authoredStages (spec : ContainerSpec) : List TtyStage :=
  if spec.attachable then ((storedTty spec.tty).map ContainerTty.onInit).getD [] else []

/-- The create stages that the gate clears, with their positions. -/
def cleared (stageHash : TtyStage → String) (onInit : List TtyStage)
    (priorStages : List StageStatus) : List (TtyStage × Nat) :=
  (createStages onInit).filter fun entry =>
    entry.1.script ≠ "" ∧
      (applyStageRenderGate stageHash onInit priorStages)[entry.2]?.map TtyStage.script = some ""

def completedBy (outcome : Boot) (stages : List TtyStage) : List (TtyStage × Nat) :=
  (createStages stages).filter fun entry =>
    (agentRun outcome (createStages stages)).statuses.any fun status =>
      status.index = entry.2 ∧ status.state = stageDone

structure GateHost where
  host : StageHost
  /-- What boots of the container have run to completion: scripts as the agent found them, and their
      positions. -/
  completed : List (TtyStage × Nat) := []

inductive GateStep where
  | stage (step : StageStep)
  /-- The container is deleted, and its document stays. -/
  | delete
  /-- `UpdateCell` with a change for which the container is deleted, created and started again, or the
      recovery of a cell by `RecreateCell`: both go on with the statuses that `GetCell` has read. -/
  | replace (now : Time) (survey : Survey) (reachable : Bool) (desired : Cell)
      (outcome : Boot)
  /-- `RecreateCell` with a cell that comes from a document, which has no record of stages. -/
  | recreate (survey : Survey) (desired : Cell) (outcome : Boot)

section Container

variable (containerID : String)

def ownSpec (cell : Cell) : Option ContainerSpec :=
  cell.spec.containers.find? fun spec => spec.id = containerID

def authoredOf (cell : Cell) : List TtyStage :=
  ((ownSpec containerID cell).map authoredStages).getD []

/-- The container after it was created from the desired cell and has booted. -/
def GateHost.rebuilt (g : GateHost) (stageHash : TtyStage → String) (desired : Cell)
    (priorStages : List StageStatus) (outcome : Boot) : GateHost :=
  match ownSpec containerID desired with
  | none => { g with host := { cell := persistedCell desired } }
  | some spec =>
    let stages := renderedStages stageHash spec priorStages
    let ran := agentRun outcome (createStages stages)
    { host :=
        { cell := persistedCell desired
          rendered := some stages
          serving := if ran.failure.isSome then none else some ran.statuses }
      completed := completedBy outcome stages ++ g.completed }

def GateHost.recorded (g : GateHost) (now : Time) (survey : Survey) (reachable : Bool) :
    List StageStatus :=
  priorStagesForContainer (g.host.populated containerID now survey reachable) containerID

def GateHost.step (g : GateHost) : GateStep → GateHost
  | .stage (.boot now survey outcome) =>
    { host := g.host.step containerID (.boot now survey outcome)
      completed :=
        completedBy outcome (g.host.bootStages containerID now survey) ++ g.completed }
  | .stage step => { g with host := g.host.step containerID step }
  | .delete => { g with host := { g.host with rendered := none, serving := none } }
  | .replace now survey reachable desired outcome =>
    g.rebuilt containerID survey.stageHash desired
      (g.recorded containerID now survey reachable) outcome
  | .recreate survey desired outcome => g.rebuilt containerID survey.stageHash desired [] outcome

/-- The create stages that the gate clears in a step, as they are authored. -/
def GateHost.skipped (g : GateHost) : GateStep → List (TtyStage × Nat)
  | .stage (.boot now survey _) =>
    match g.host.rendered with
    | some _ => []
    | none => cleared survey.stageHash (authoredOf containerID g.host.cell)
        (g.recorded containerID now survey false)
  | .stage _ | .delete => []
  | .replace now survey reachable desired _ =>
    cleared survey.stageHash (authoredOf containerID desired)
      (g.recorded containerID now survey reachable)
  | .recreate survey desired _ =>
    cleared survey.stageHash (authoredOf containerID desired) []

/-- Every stage that a step skips has been run to completion, with that script and at that
    position. -/
def Sound (g : GateHost) (step : GateStep) : Prop :=
  ∀ entry ∈ g.skipped containerID step, entry ∈ g.completed

instance (g : GateHost) (step : GateStep) : Decidable (Sound containerID g step) :=
  inferInstanceAs (Decidable (∀ entry ∈ g.skipped containerID step, _))

def CollisionFree (g : GateHost) : GateStep → Prop
  | .replace _ survey _ desired _ =>
    ∀ old ∈ authoredOf containerID g.host.cell, ∀ new ∈ authoredOf containerID desired,
      survey.stageHash old = survey.stageHash new → old = new
  | _ => True

/-- The create stages of a container that was created are not edited in place, and a replacement has no
    stage with the text of an earlier one at another position. -/
def Guarded (g : GateHost) : GateStep → Prop
  | .stage (.store cell) =>
    g.host.rendered.isSome → createStages (authoredOf containerID cell) =
      createStages (authoredOf containerID g.host.cell)
  | .replace _ _ _ desired _ =>
    ∀ new ∈ createStages (authoredOf containerID desired),
      ∀ old ∈ createStages (authoredOf containerID g.host.cell), old.1 = new.1 →
        new ∈ createStages (authoredOf containerID g.host.cell)
  | _ => True

instance (g : GateHost) : (step : GateStep) → Decidable (CollisionFree containerID g step)
  | .replace _ _ _ _ _ => inferInstanceAs (Decidable (∀ old ∈ _, ∀ new ∈ _, _ → _))
  | .stage _ | .delete | .recreate _ _ _ => isTrue trivial

instance (g : GateHost) : (step : GateStep) → Decidable (Guarded containerID g step)
  | .stage (.store _) => inferInstanceAs (Decidable (_ → _))
  | .replace _ _ _ _ _ => inferInstanceAs (Decidable (∀ new ∈ _, ∀ old ∈ _, _ → _))
  | .stage (.boot _ _ _) | .stage (.pass _ _ _) | .stage .stop | .delete | .recreate _ _ _ =>
    isTrue trivial

end Container

variable {containerID : String}

theorem renderedStages_eq (stageHash : TtyStage → String) (spec : ContainerSpec)
    (priorStages : List StageStatus) :
    renderedStages stageHash spec priorStages =
      applyStageRenderGate stageHash (authoredStages spec) priorStages := by
  unfold renderedStages authoredStages
  split
  · cases storedTty spec.tty with
    | none => rfl
    | some tty => rfl
  · rfl

/-- The gate leaves a create stage as it is, or clears it for a record with its hash. -/
theorem getElem?_gate (stageHash : TtyStage → String) (priorStages : List StageStatus)
    {onInit : List TtyStage} {stage : TtyStage} {index : Nat} (ht : onInit[index]? = some stage) :
    (applyStageRenderGate stageHash onInit priorStages)[index]? = some stage ∨
      ((applyStageRenderGate stageHash onInit priorStages)[index]? =
          some { stage with script := "" } ∧
        ∃ record ∈ priorStages, record.state = stageDone ∧ record.hash = stageHash stage) := by
  unfold applyStageRenderGate
  simp only [List.getElem?_map, ht, Option.map_some]
  split
  next hg =>
      obtain ⟨record, hd, hs⟩ := List.mem_map.mp hg.2
      obtain ⟨hr, hi⟩ := List.mem_filter.mp hd
      exact .inr ⟨rfl, record, hr, (of_decide_eq_true hi).1, hs⟩
  next => exact .inl rfl

theorem exists_record_of_cleared {stageHash : TtyStage → String} {onInit : List TtyStage}
    {priorStages : List StageStatus} {entry : TtyStage × Nat}
    (hsk : entry ∈ cleared stageHash onInit priorStages) :
    entry ∈ createStages onInit ∧
      ∃ record ∈ priorStages, record.state = stageDone ∧ record.hash = stageHash entry.1 := by
  obtain ⟨hi, hb⟩ := List.mem_filter.mp hsk
  obtain ⟨hn, hs⟩ := of_decide_eq_true hb
  refine ⟨hi, ?_⟩
  rcases getElem?_gate stageHash priorStages (mem_createStages.mp hi).1 with hsm | ⟨-, record⟩
  · rw [hsm] at hs
    exact absurd (Option.some.inj hs) hn
  · exact record

variable {g : GateHost} {outcome : Boot}

theorem completed_of_serving {stages : List TtyStage}
    (ht : (agentRun outcome (createStages stages)).failure = none) :
    ∀ entry ∈ createStages stages, entry ∈ completedBy outcome stages := by
  intro entry hm
  cases outcome with
  | error cause => cases ht
  | ok ends =>
    obtain ⟨status, hr, hd⟩ := done_of_no_failure ht hm
    refine List.mem_filter.mpr ⟨hm, ?_⟩
    exact List.any_eq_true.mpr ⟨status, hr, decide_eq_true hd⟩

theorem authoredOf_persistedCell (cell : Cell) :
    authoredOf containerID (persistedCell cell) = authoredOf containerID cell := by
  have tty : ∀ tty : Option ContainerTty, storedTty (storedTty tty) = storedTty tty := by
    intro tty
    unfold storedTty
    split <;> simp_all
  have hs : ownSpec containerID (persistedCell cell) =
      (ownSpec containerID cell).map fun spec => (storedContainer spec).deref := by
    unfold ownSpec
    simp only [persistedCell, CellSpec.deref, storedSpec, List.map_map, List.find?_map]
    rfl
  unfold authoredOf
  rw [hs, Option.map_map]
  congr 2
  funext spec
  simp only [Function.comp_apply, authoredStages, storedContainer, ContainerSpec.deref, tty]

/-- A create stage keeps the terminal block of its container from being dropped. -/
theorem storedTty_of_create {tty : ContainerTty} {stage : TtyStage} {index : Nat}
    (ht : tty.onInit[index]? = some stage) (hc : stage.runOn = runOnCreate) :
    storedTty (some tty) = some tty := by
  unfold storedTty
  rw [if_neg]
  intro he
  simp only [ContainerTty.isEmpty, Bool.and_eq_true, List.all_eq_true, beq_iff_eq] at he
  have hb := (he.2 stage (List.mem_of_getElem? ht)).2
  rw [hc] at hb
  exact absurd hb (by decide)

/-- A record that goes into the gate has the hash of a create stage on disk, and there is an agent
    that serves. -/
theorem recorded_origin (hg : Genuine g.host) {now : Time} {survey : Survey} {reachable : Bool}
    {record : StageStatus} (hr : record ∈ g.recorded containerID now survey reachable) :
    reachable = true ∧ g.host.serving.isSome = true ∧
      ∃ entry ∈ createStages (authoredOf containerID g.host.cell),
        record.hash = survey.stageHash entry.1 := by
  unfold GateHost.recorded priorStagesForContainer at hr
  split at hr
  · cases hr
  next status hf =>
      simp only [StageHost.populated, populateCellContainerStatuses] at hf
      obtain ⟨position, spec, hp, hfr, rfl⟩ :=
        Keyed.find?_mapIdx (q := fun spec => decide (spec.id = containerID)) (fun _ _ => rfl) hf
      have own : spec.id = containerID := by simpa using List.find?_some hfr
      obtain ⟨has, ha, statuses, hs, tty, stage, index, hi, ht, hc, entry,
        -, -, rfl⟩ := hg.origin hp own hr
      have hat : authoredOf containerID g.host.cell = tty.onInit := by
        unfold authoredOf ownSpec
        rw [hfr, Option.map_some, Option.getD_some, authoredStages, if_pos ha, hi,
          storedTty_of_create ht hc]
        rfl
      refine ⟨has, by rw [hs]; rfl, (stage, index), ?_, rfl⟩
      rw [hat]
      exact mem_createStages.mpr ⟨ht, hc⟩

/-- The record the daemon keeps agrees with what was run: the document of the container has every
    create stage on disk, or it was run before; and what an agent that is up was given has been run. -/
structure Faithful (containerID : String) (g : GateHost) : Prop where
  genuine : Genuine g.host
  document : ∀ stages, g.host.rendered = some stages →
    ∀ entry ∈ createStages (authoredOf containerID g.host.cell),
      entry ∈ createStages stages ∨ entry ∈ g.completed
  served : g.host.serving.isSome = true →
    ∃ stages, g.host.rendered = some stages ∧ ∀ entry ∈ createStages stages, entry ∈ g.completed

theorem Faithful.completed (hf : Faithful containerID g)
    (hs : g.host.serving.isSome = true) :
    ∀ entry ∈ createStages (authoredOf containerID g.host.cell), entry ∈ g.completed := by
  intro entry hm
  obtain ⟨stages, hr, ran⟩ := hf.served hs
  rcases hf.document stages hr entry hm with hi | hd
  · exact ran entry hi
  · exact hd

theorem recorded_unreachable (hg : Genuine g.host) (now : Time) (survey : Survey) :
    g.recorded containerID now survey false = [] := by
  rw [List.eq_nil_iff_forall_not_mem]
  intro record hr
  cases (recorded_origin hg hr).1

theorem cleared_nil (stageHash : TtyStage → String) (onInit : List TtyStage) :
    cleared stageHash onInit [] = [] := by
  rw [List.eq_nil_iff_forall_not_mem]
  intro entry hs
  obtain ⟨-, record, hn, -⟩ := exists_record_of_cleared hs
  cases hn

theorem Faithful.replaced (hf : Faithful containerID g) {now : Time} {survey : Survey}
    {reachable : Bool} {desired : Cell}
    (hc : CollisionFree containerID g (.replace now survey reachable desired outcome))
    (hg : Guarded containerID g (.replace now survey reachable desired outcome)) :
    ∀ entry ∈ createStages (authoredOf containerID desired),
      (∃ record ∈ g.recorded containerID now survey reachable,
        record.hash = survey.stageHash entry.1) → entry ∈ g.completed := by
  rintro entry hm ⟨record, hr, hh⟩
  obtain ⟨-, hs, old, ho, hor⟩ := recorded_origin hf.genuine hr
  have hos := List.mem_of_getElem? (mem_createStages.mp ho).1
  have hn := List.mem_of_getElem? (mem_createStages.mp hm).1
  have hsm : old.1 = entry.1 := hc old.1 hos entry.1 hn (hor.symm.trans hh)
  exact hf.completed hs entry (hg entry hm old ho hsm)

theorem Faithful.sound (hf : Faithful containerID g) {step : GateStep}
    (hc : CollisionFree containerID g step) (hg : Guarded containerID g step) :
    Sound containerID g step := by
  intro entry hs
  cases step with
  | stage step =>
    cases step with
    | boot now survey outcome =>
      simp only [GateHost.skipped] at hs
      split at hs
      · cases hs
      · rw [recorded_unreachable hf.genuine, cleared_nil] at hs
        cases hs
    | pass => cases hs
    | stop => cases hs
    | store => cases hs
  | delete => cases hs
  | replace now survey reachable desired outcome =>
    obtain ⟨hm, record, hr, -, hh⟩ := exists_record_of_cleared hs
    exact hf.replaced hc hg entry hm ⟨record, hr, hh⟩
  | recreate survey desired outcome =>
    simp only [GateHost.skipped] at hs
    rw [cleared_nil] at hs
    cases hs

/-- A container is created faithfully if the gate clears only what was run. -/
theorem Faithful.rebuilt {stageHash : TtyStage → String} {desired : Cell}
    {priorStages : List StageStatus}
    (hsn : ∀ entry ∈ createStages (authoredOf containerID desired),
      (∃ record ∈ priorStages, record.hash = stageHash entry.1) → entry ∈ g.completed) :
    Faithful containerID (g.rebuilt containerID stageHash desired priorStages outcome) := by
  unfold GateHost.rebuilt
  split
  · refine ⟨⟨fun _ => stages_persistedCell, ?_⟩, ?_, ?_⟩
    · rintro statuses ⟨⟩
    · rintro stages ⟨⟩
    · rintro ⟨⟩
  next spec hi =>
      refine ⟨⟨fun _ => stages_persistedCell, ?_⟩, ?_, ?_⟩
      · intro statuses hs
        simp only at hs
        split at hs
        · cases hs
        · next ran => exact agent_of_boot ran hs
      · rintro stages ⟨⟩ entry hm
        simp only [authoredOf_persistedCell] at hm
        have ha : authoredOf containerID desired = authoredStages spec := by
          unfold authoredOf
          rw [hi, Option.map_some, Option.getD_some]
        have hth := mem_createStages.mp hm
        rw [ha] at hth
        rw [renderedStages_eq]
        rcases getElem?_gate stageHash priorStages hth.1 with
          hk | ⟨-, record, hr, -, hh⟩
        · exact .inl (mem_createStages.mpr ⟨hk, hth.2⟩)
        · exact .inr (List.mem_append_right _ (hsn entry hm ⟨record, hr, hh⟩))
      · intro hsr
        refine ⟨_, rfl, ?_⟩
        intro entry hm
        refine List.mem_append_left _ (completed_of_serving ?_ entry hm)
        simp only at hsr
        split at hsr
        · cases hsr
        next ht => simpa using ht

theorem host_stage (g : GateHost) (step : StageStep) :
    (g.step containerID (.stage step)).host = g.host.step containerID step := by
  cases step with
  | boot => rfl
  | pass => rfl
  | stop => rfl
  | store => rfl

theorem genuine_stage (hg : Genuine g.host) (step : StageStep) :
    Genuine (g.step containerID (.stage step)).host := by
  rw [host_stage]
  exact hg.step step

/-- A boot finds every create stage on disk in the document, or it was run before. -/
theorem Faithful.bootStages (hf : Faithful containerID g) (now : Time) (survey : Survey) :
    ∀ entry ∈ createStages (authoredOf containerID g.host.cell),
      entry ∈ createStages (g.host.bootStages containerID now survey) ∨ entry ∈ g.completed := by
  intro entry hm
  unfold StageHost.bootStages
  split
  next stages hr => exact hf.document stages hr entry hm
  next =>
      cases hi : ownSpec containerID g.host.cell with
      | none =>
        unfold authoredOf at hm
        rw [hi] at hm
        cases hm
      | some spec =>
        have hfn : ((g.host.populated containerID now survey false).spec.containers.find?
            fun spec => spec.id = containerID) = some spec := hi
        have ha : authoredOf containerID g.host.cell = authoredStages spec := by
          unfold authoredOf
          rw [hi, Option.map_some, Option.getD_some]
        have hu : g.recorded containerID now survey false = [] :=
          recorded_unreachable hf.genuine now survey
        unfold GateHost.recorded at hu
        simp only [hfn, hu, renderedStages_eq]
        rw [ha] at hm
        have ht := mem_createStages.mp hm
        rcases getElem?_gate survey.stageHash [] ht.1 with
          hk | ⟨-, record, hn, -⟩
        · exact .inl (mem_createStages.mpr ⟨hk, ht.2⟩)
        · cases hn

theorem Faithful.boot (hf : Faithful containerID g) (now : Time) (survey : Survey)
    (outcome : Boot) :
    Faithful containerID (g.step containerID (.stage (.boot now survey outcome))) := by
  refine ⟨genuine_stage hf.genuine _, ?_, ?_⟩
  · rintro stages ⟨⟩ entry hm
    exact (hf.bootStages now survey entry hm).imp_right (List.mem_append_right _)
  · intro hs
    refine ⟨_, rfl, ?_⟩
    intro entry hm
    refine List.mem_append_left _ (completed_of_serving ?_ entry hm)
    simp only [GateHost.step, StageHost.step] at hs
    split at hs
    · cases hs
    next ht => simpa using ht

theorem Faithful.step (hf : Faithful containerID g) {step : GateStep}
    (hc : CollisionFree containerID g step) (hg : Guarded containerID g step) :
    Faithful containerID (g.step containerID step) := by
  cases step with
  | stage step =>
    cases step with
    | boot now survey outcome => exact hf.boot now survey outcome
    | pass now survey reachable =>
      refine ⟨genuine_stage hf.genuine _, ?_, hf.served⟩
      intro stages hr entry hm
      simp only [GateHost.step, StageHost.step, authoredOf_persistedCell] at hm
      exact hf.document stages hr entry hm
    | stop =>
      refine ⟨genuine_stage hf.genuine _, hf.document, ?_⟩
      rintro ⟨⟩
    | store cell =>
      refine ⟨genuine_stage hf.genuine _, ?_, hf.served⟩
      intro stages hr entry hm
      have hcr : g.host.rendered = some stages := hr
      simp only [GateHost.step, StageHost.step, authoredOf_persistedCell] at hm
      rw [hg (by rw [hcr]; rfl)] at hm
      exact hf.document stages hcr entry hm
  | delete =>
    refine ⟨⟨hf.genuine.disk, ?_⟩, ?_, ?_⟩
    · rintro statuses ⟨⟩
    · rintro stages ⟨⟩
    · rintro ⟨⟩
  | replace now survey reachable desired outcome =>
    exact Faithful.rebuilt (hf.replaced hc hg)
  | recreate survey desired outcome =>
    refine Faithful.rebuilt ?_
    rintro entry - ⟨record, hn, -⟩
    cases hn

def fresh (cell : Cell) : GateHost := { host := { cell := persistedCell cell } }

theorem faithful_fresh (cell : Cell) : Faithful containerID (fresh cell) := by
  refine ⟨⟨fun _ => stages_persistedCell, ?_⟩, ?_, ?_⟩
  · rintro statuses ⟨⟩
  · rintro stages ⟨⟩
  · rintro ⟨⟩

/-- Along every history in which hashes do not collide, the create stages of a container that was
    created are not edited in place and no replacement has the text of an earlier stage at another
    position, the gate skips a create stage only if a boot has run that script to completion at that
    position. -/
theorem skips_only_completed (containerID : String) (cell : Cell) (steps : List GateStep)
    (collisionFree : Along (GateHost.step containerID) (CollisionFree containerID) (fresh cell) steps)
    (guarded : Along (GateHost.step containerID) (Guarded containerID) (fresh cell) steps) :
    Along (GateHost.step containerID) (Sound containerID) (fresh cell) steps := by
  have hb : Along (GateHost.step containerID)
      (fun g step => CollisionFree containerID g step ∧ Guarded containerID g step) (fresh cell)
      steps := by
    intro done step rest hs
    exact ⟨collisionFree done step rest hs, guarded done step rest hs⟩
  have hf : ∀ done rest, steps = done ++ rest →
      Faithful containerID (run (GateHost.step containerID) (fresh cell) done) :=
    hb.invariant (fun _ _ hf hc => hf.step hc.1 hc.2)
      (faithful_fresh cell)
  intro done step rest hs
  exact (hf done (step :: rest) hs).sound (collisionFree done step rest hs)
    (guarded done step rest hs)

def withStages (onInit : List TtyStage) : Cell where
  spec := { containers := [{ id := "main", attachable := true, tty := some { onInit := onInit } }] }

def createStage (script : String) : TtyStage := { script := script, runOn := runOnCreate }

def allDone : Boot := .ok fun _ => none

def startStage (script : String) : TtyStage := { script := script, runOn := "start" }

/-- The cell is started, a start stage is edited in place, and the container is replaced with a create
    stage added; the first boot of the new one ends before its stages. -/
theorem added_stage_sound :
    Along (GateHost.step "main") (Sound "main")
      (fresh (withStages [createStage "npm ci", startStage "tmux"]))
      [ .stage (.boot 1 readySurvey allDone),
        .stage (.store (withStages [createStage "npm ci", startStage "screen"])),
        .replace 2 readySurvey true
          (withStages [createStage "npm ci", createStage "npm run build"]) (.error "clone"),
        .stage (.boot 3 readySurvey allDone) ] :=
  skips_only_completed "main" _ _ (by decide +kernel) (by decide +kernel)

/-- A stage that was edited in place while the container runs is skipped when the container is
    replaced, and so is a second stage with the text of one that was run. -/
theorem unrun_stages_skipped :
    (let edited := run (GateHost.step "main") (fresh (withStages [createStage "npm ci"]))
        [ .stage (.boot 1 readySurvey allDone),
          .stage (.store (withStages [createStage "npm install"])) ]
      let replace := GateStep.replace 2 readySurvey true
        (withStages [createStage "npm install"]) allDone
      (createStage "npm install", 0) ∈ edited.skipped "main" replace ∧
        (createStage "npm install", 0) ∉ edited.completed) ∧
    (let started := run (GateHost.step "main") (fresh (withStages [createStage "npm ci"]))
        [ .stage (.boot 1 readySurvey allDone) ]
      let replace := GateStep.replace 2 readySurvey true
        (withStages [createStage "npm ci", createStage "npm ci"]) allDone
      (createStage "npm ci", 1) ∈ started.skipped "main" replace ∧
        (createStage "npm ci", 1) ∉ started.completed) := by
  decide +kernel

end Kukeon.Runner.StageGate
