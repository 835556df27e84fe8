import Kukeon.Runner.Status

/-! # The create stages inside a container

`createStages` of `cmd/kuketty/spec.go` with `processStages` and `runStage` of
`cmd/kuketty/stages.go`, and their place in `run` of `cmd/kuketty/main.go`: when the agent of an
attachable container comes up, it runs the scripts of the create stages in its document, in order, and
stops at the first that fails. Before that it builds the terminal, claims its socket, opens its log and
clones the repos, and returns if one of these fails.
-/

namespace Kukeon.Kuketty

open ModelHub GoText Runner

def stageFailed : String := "failed"

def createStages (onInit : List TtyStage) : List (TtyStage × Nat) :=
  onInit.zipIdx.filter fun entry => entry.1.runOn = runOnCreate

structure StagesRun where
  statuses : List StageStatus := []
  /-- The positions whose scripts were handed to the shell. -/
  executed : List Nat := []
  failure : Option String := none
  deriving DecidableEq

/-- `outcome` is the error that the script at a position ends with, if any. -/
def processStages (outcome : Nat → Option String) : List (TtyStage × Nat) → StagesRun
  | [] => {}
  | (stage, index) :: rest =>
    let later := processStages outcome rest
    let done : StageStatus := { index := index, state := stageDone }
    if trimSpace stage.script = "" then { later with statuses := done :: later.statuses }
    else
      match outcome index with
      | none =>
        { later with
          statuses := done :: later.statuses
          executed := index :: later.executed }
      | some cause =>
        { statuses := [{ index := index, state := stageFailed, error := cause }]
          executed := [index]
          failure := some ("one or more required create stages failed: stage " ++
            toString index ++ ": " ++ cause) }

/-- How a boot of the agent goes: it returns for a cause before it comes to the create stages, or their
    scripts end as the outcome says. -/
abbrev Boot := Except String (Nat → Option String)

def agentRun (boot : Boot) (stages : List (TtyStage × Nat)) : StagesRun :=
  match boot with
  | .error cause => { failure := some cause }
  | .ok outcome => processStages outcome stages

/-- The script at the position is one that the shell would be handed. -/
def Runnable (entry : TtyStage × Nat) : Prop := trimSpace entry.1.script ≠ ""

/-- A stage before the position fails, so that the agent does not get there. -/
def StopsBefore (outcome : Nat → Option String) (stages : List (TtyStage × Nat)) (index : Nat) :
    Prop :=
  ∃ entry ∈ stages, entry.2 < index ∧ Runnable entry ∧ (outcome entry.2).isSome

/-- The agent returns before its stages, or at one before the position. -/
def NotReached (boot : Boot) (stages : List (TtyStage × Nat)) (index : Nat) : Prop :=
  match boot with
  | .error _ => True
  | .ok outcome => StopsBefore outcome stages index

theorem mem_createStages {onInit : List TtyStage} {stage : TtyStage} {index : Nat} :
    (stage, index) ∈ createStages onInit ↔
      onInit[index]? = some stage ∧ stage.runOn = runOnCreate := by
  simp [createStages, List.mk_mem_zipIdx_iff_getElem?]

theorem createStages_ordered (onInit : List TtyStage) :
    (createStages onInit).Pairwise fun a b => a.2 < b.2 := by
  apply List.Pairwise.filter
  have hp : (onInit.zipIdx.map Prod.snd).Pairwise (· < ·) := by
    rw [List.zipIdx_map_snd]
    exact List.pairwise_lt_range'
  exact List.pairwise_map.mp hp

variable {outcome : Nat → Option String} {stages : List (TtyStage × Nat)}

theorem exists_of_mem_executed {index : Nat} (ran : index ∈ (processStages outcome stages).executed) :
    ∃ entry ∈ stages, entry.2 = index := by
  induction stages with
  | nil => simp [processStages] at ran
  | cons first rest ih =>
    obtain ⟨stage, position⟩ := first
    have hl : index ∈ (processStages outcome rest).executed →
        ∃ entry ∈ (stage, position) :: rest, entry.2 = index := by
      intro ran
      obtain ⟨entry, hm, hs⟩ := ih ran
      exact ⟨entry, List.mem_cons_of_mem _ hm, hs⟩
    simp only [processStages] at ran
    split at ran
    · exact hl ran
    · split at ran
      · rcases List.mem_cons.mp ran with rfl | ran
        · exact ⟨_, List.mem_cons_self, rfl⟩
        · exact hl ran
      · exact ⟨_, List.mem_cons_self, (List.mem_singleton.mp ran).symm⟩

/-- The agent runs the script of a stage exactly when there is one and no earlier stage fails. -/
theorem mem_executed_iff (ho : stages.Pairwise fun a b => a.2 < b.2) {stage : TtyStage}
    {index : Nat} (hm : (stage, index) ∈ stages) :
    index ∈ (processStages outcome stages).executed ↔
      trimSpace stage.script ≠ "" ∧ ¬ StopsBefore outcome stages index := by
  induction stages with
  | nil => cases hm
  | cons first rest ih =>
    obtain ⟨firstStage, position⟩ := first
    rw [List.pairwise_cons] at ho
    rcases List.mem_cons.mp hm with hh | hl
    · -- Every other stage comes after this one.
      obtain ⟨rfl, rfl⟩ := Prod.mk.inj hh
      have hu : ¬ StopsBefore outcome ((stage, index) :: rest) index := by
        rintro ⟨entry, his, hb, _⟩
        rcases List.mem_cons.mp his with rfl | hi
        · exact lt_irrefl _ hb
        · exact lt_asymm hb (ho.1 entry hi)
      have hn : index ∉ (processStages outcome rest).executed := by
        intro ran
        obtain ⟨entry, hi, hsm⟩ := exists_of_mem_executed ran
        exact lt_irrefl index (hsm ▸ ho.1 entry hi)
      simp only [hu, not_false_eq_true, and_true, processStages]
      by_cases hbl : trimSpace stage.script = ""
      · simp [hbl, hn]
      · cases outcome index <;> simp [hbl]
    · have hb : position < index := ho.1 _ hl
      have hr := ih ho.2 hl
      have hs : StopsBefore outcome ((firstStage, position) :: rest) index ↔
          (trimSpace firstStage.script ≠ "" ∧ (outcome position).isSome) ∨
            StopsBefore outcome rest index := by
        simp [StopsBefore, Runnable, hb]
      rw [hs]
      simp only [processStages]
      by_cases hbl : trimSpace firstStage.script = ""
      · simp [hbl, hr]
      · cases he : outcome position with
        | none => simp [hbl, hr, hb.ne']
        | some cause => simp [hbl, hb.ne']

theorem mem_agentRun_iff {boot : Boot} (ordered : stages.Pairwise fun a b => a.2 < b.2)
    {stage : TtyStage} {index : Nat} (member : (stage, index) ∈ stages) :
    index ∈ (agentRun boot stages).executed ↔
      trimSpace stage.script ≠ "" ∧ ¬ NotReached boot stages index := by
  cases boot with
  | error cause => simp [agentRun, NotReached]
  | ok outcome => exact mem_executed_iff ordered member

theorem done_of_no_failure (ht : (processStages outcome stages).failure = none)
    {entry : TtyStage × Nat} (hm : entry ∈ stages) :
    ∃ status ∈ (processStages outcome stages).statuses,
      status.index = entry.2 ∧ status.state = stageDone := by
  induction stages with
  | nil => cases hm
  | cons first rest ih =>
    obtain ⟨stage, position⟩ := first
    simp only [processStages] at ht ⊢
    split at ht
    next hb =>
        rw [if_pos hb]
        rcases List.mem_cons.mp hm with rfl | hl
        · exact ⟨_, List.mem_cons_self, rfl, rfl⟩
        · obtain ⟨status, hr, hd⟩ := ih ht hl
          exact ⟨status, List.mem_cons_of_mem _ hr, hd⟩
    next hrn =>
        rw [if_neg hrn]
        split at ht
        next =>
            simp only
            rcases List.mem_cons.mp hm with rfl | hl
            · exact ⟨_, List.mem_cons_self, rfl, rfl⟩
            · obtain ⟨status, hr, hd⟩ := ih ht hl
              exact ⟨status, List.mem_cons_of_mem _ hr, hd⟩
        next => cases ht

theorem index_of_mem_statuses {status : StageStatus}
    (hr : status ∈ (processStages outcome stages).statuses) :
    ∃ entry ∈ stages, (entry.2 : Int) = status.index := by
  induction stages with
  | nil => simp [processStages] at hr
  | cons first rest ih =>
    obtain ⟨stage, position⟩ := first
    have hl : status ∈ (processStages outcome rest).statuses →
        ∃ entry ∈ (stage, position) :: rest, (entry.2 : Int) = status.index := by
      intro hr
      obtain ⟨entry, hm, hs⟩ := ih hr
      exact ⟨entry, List.mem_cons_of_mem _ hm, hs⟩
    simp only [processStages] at hr
    split at hr
    · rcases List.mem_cons.mp hr with rfl | hr
      · exact ⟨_, List.mem_cons_self, rfl⟩
      · exact hl hr
    · split at hr
      · rcases List.mem_cons.mp hr with rfl | hr
        · exact ⟨_, List.mem_cons_self, rfl⟩
        · exact hl hr
      · cases List.mem_singleton.mp hr
        exact ⟨_, List.mem_cons_self, rfl⟩

end Kukeon.Kuketty
