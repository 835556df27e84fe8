import Kukeon.Runner.Tick

/-! # What a derived state says about the observations

`deriveCellState` folds the statuses of the containers into a handful of counters. The lemmas here
read its result back: a cell that is exited has only workloads that were seen to finish, and cleanly.
-/

namespace Kukeon.Runner

open ModelHub

section Counters

variable (specs : List ContainerSpec)

def isWorkload (status : ContainerStatus) : Bool :=
  (Keyed.find ContainerSpec.id status.id (nonRootSpecs specs)).isSome

theorem isWorkload_of_mem {spec : ContainerSpec} {status : ContainerStatus}
    (hm : spec ∈ specs) (hn : spec.root = false) (hs : status.id = spec.id) :
    isWorkload specs status = true := by
  unfold isWorkload
  rw [Keyed.find_isSome, Keyed.mem_keys]
  refine ⟨spec, ?_, hs.symm⟩
  simp [nonRootSpecs, hm, hn]

/-- What the fold has counted, besides whether a workload is degraded. -/
theorem tally_count (statuses : List ContainerStatus) (tally : Tally) :
    let counted := statuses.foldl (Tally.count specs) tally
    let any (p : ContainerStatus → Bool) :=
      statuses.any fun status => isWorkload specs status && p status
    counted.seen = tally.seen + statuses.countP (isWorkload specs) ∧
      counted.anyActive = (tally.anyActive || any fun status => containerStateIsActive status.state) ∧
      counted.anyUnknown = (tally.anyUnknown || any fun status => status.state == .unknown) ∧
      counted.anyFailed = (tally.anyFailed || any fun status =>
        containerStateIsTerminal status.state && containerExitedNonZero status) := by
  induction statuses generalizing tally with
  | nil => simp
  | cons status rest ih =>
    obtain ⟨hs, ha, hu, hf⟩ := ih (Tally.count specs tally status)
    simp only [List.foldl_cons, hs, ha, hu, hf, List.countP_cons, List.any_cons]
    unfold Tally.count isWorkload
    cases Keyed.find ContainerSpec.id status.id (nonRootSpecs specs) with
    | none => simp
    | some spec =>
      cases status.state <;>
        simp [containerStateIsActive, containerStateIsTerminal, Bool.or_assoc] <;> grind

end Counters

theorem mem_of_findRoot {spec : CellSpec} {root : ContainerSpec}
    (hfn : findRootContainerSpec spec = some root) : root ∈ spec.containers := by
  unfold findRootContainerSpec at hfn
  split at hfn
  next hf =>
    cases hfn
    exact List.mem_of_find?_eq_some hf
  next =>
    split at hfn
    · exact List.mem_of_find?_eq_some hfn
    · cases hfn

theorem terminal_of_not_active {state : ContainerState}
    (hi : containerStateIsActive state = false) (hk : state ≠ .unknown) :
    containerStateIsTerminal state = true := by
  cases state with
  | unknown => exact absurd rfl hk
  | ready | pending | paused | pausing => cases hi
  | stopped | exited | error | failed | notCreated => rfl

theorem workload_of_exited {specs : List ContainerSpec} {statuses : List ContainerStatus}
    (he : deriveCellStateFromNonRootContainerStatuses specs statuses = .exited)
    {status : ContainerStatus} (hm : status ∈ statuses)
    (hw : isWorkload specs status = true) :
    containerStateIsTerminal status.state = true ∧ containerExitedNonZero status = false := by
  unfold deriveCellStateFromNonRootContainerStatuses at he
  dsimp only at he
  obtain ⟨_, ha, hu, hf⟩ := tally_count specs statuses {}
  rw [ha, hu, hf] at he
  -- Every branch but the last one ends in another state.
  split at he
  · cases he
  split at he
  · split at he <;> cases he
  next hna =>
  split at he
  · cases he
  next hn =>
  split at he
  · cases he
  next hnf =>
  simp only [Bool.false_or, List.any_eq_true, Bool.and_eq_true, not_exists, not_and,
    Bool.not_eq_true, beq_iff_eq] at hna hn hnf
  have ht := terminal_of_not_active (hna status hm hw)
    (hn status hm hw)
  exact ⟨ht, hnf status hm hw ht⟩

section Populated

variable {now : Time} {survey : Survey} {prior : List ContainerStatus} {index : Nat}
  {spec : ContainerSpec}

/-- The exit code on record after an observation that does not find the container ready. -/
def recordedExitCode (prior : List ContainerStatus) (containerID : String)
    (seen : ContainerObservation) : Int :=
  if seen.exitTime ≠ 0 then seen.exitCode
  else ((Keyed.find ContainerStatus.id containerID prior).getD {}).exitCode

theorem populatedStatus_id : (populatedStatus now survey prior index spec).id = spec.id := rfl

theorem populatedStatus_state :
    (populatedStatus now survey prior index spec).state = (survey.seen index).state := rfl

theorem populatedStatus_exitCode (hn : (survey.seen index).state ≠ .ready) :
    (populatedStatus now survey prior index spec).exitCode =
      recordedExitCode prior spec.id (survey.seen index) := by
  unfold populatedStatus recordedExitCode
  simp only [hn, if_false]
  split <;> rfl

/-- A terminal state is one that was read; a failed read is an unknown state. -/
theorem Survey.read_of_terminal
    (ht : containerStateIsTerminal (survey.seen index).state = true) :
    survey.observation index = .ok (survey.seen index) := by
  unfold Survey.seen at ht ⊢
  cases hr : survey.observation index with
  | ok observation => rfl
  | error err =>
    rw [hr] at ht
    cases ht

end Populated

variable {survey : Survey}

theorem mem_populated {now : Time} {cell : Cell} {status : ContainerStatus}
    (hm : status ∈ (populateCellContainerStatuses now survey cell).status.containers) :
    ∃ index spec, cell.spec.containers[index]? = some spec ∧
      status = populatedStatus now survey cell.status.containers index spec := by
  obtain ⟨index, hi, hs⟩ := List.mem_mapIdx.mp hm
  exact ⟨index, cell.spec.containers[index], List.getElem?_eq_getElem hi, hs.symm⟩

theorem populated_ids (now : Time) (survey : Survey) (specs : List ContainerSpec)
    (prior : List ContainerStatus) :
    (specs.mapIdx (populatedStatus now survey prior)).map ContainerStatus.id =
      specs.map ContainerSpec.id := by
  apply List.ext_getElem?
  intro index
  simp only [List.getElem?_map, List.getElem?_mapIdx]
  cases specs[index]? <;> rfl

/-- In this pass the container was seen in a terminal state, and no failure is on record since it
    last ran. -/
structure FinishedCleanly (survey : Survey) (prior : List ContainerStatus) (index : Nat)
    (containerID : String) (seen : ContainerObservation) : Prop where
  read : survey.observation index = .ok seen
  terminal : containerStateIsTerminal seen.state = true
  notFaulted : seen.state ≠ .error ∧ seen.state ≠ .failed
  exitCode : recordedExitCode prior containerID seen = 0

theorem finishedCleanly_of_status {now : Time} {prior : List ContainerStatus} {index : Nat}
    {spec : ContainerSpec}
    (ht : containerStateIsTerminal (populatedStatus now survey prior index spec).state = true)
    (hc : containerExitedNonZero (populatedStatus now survey prior index spec) = false) :
    FinishedCleanly survey prior index spec.id (survey.seen index) := by
  rw [populatedStatus_state] at ht
  have hnr : (survey.seen index).state ≠ .ready := by
    intro hr
    rw [hr] at ht
    cases ht
  unfold containerExitedNonZero at hc
  rw [populatedStatus_state, populatedStatus_exitCode hnr] at hc
  simp only [Bool.or_eq_false_iff, decide_eq_false_iff_not, not_not] at hc
  obtain ⟨⟨hn, hne⟩, hz⟩ := hc
  exact ⟨Survey.read_of_terminal ht, ht, ⟨hne, hn⟩, hz⟩

/-- Every workload of a cell that is derived as exited has finished cleanly. -/
theorem finishedCleanly_of_exited {rootState : Except RunnerError ContainerState} {now : Time}
    {cell : Cell}
    (he : deriveCellState rootState (populateCellContainerStatuses now survey cell) = .exited)
    {index : Nat} {spec : ContainerSpec} (hd : cell.spec.containers[index]? = some spec)
    (hn : spec.root = false) :
    FinishedCleanly survey cell.status.containers index spec.id (survey.seen index) := by
  have hm : spec ∈ cell.spec.containers := List.mem_of_getElem? hd
  have hh : hasNonRootContainerSpec cell.spec.containers = true := by
    unfold hasNonRootContainerSpec
    rw [List.any_eq_true]
    exact ⟨spec, hm, by simp [hn]⟩
  have hf : deriveCellStateFromNonRootContainerStatuses cell.spec.containers
      (cell.spec.containers.mapIdx (populatedStatus now survey cell.status.containers)) =
        .exited := by
    unfold deriveCellState at he
    exact (if_pos hh).symm.trans he
  have hp : populatedStatus now survey cell.status.containers index spec ∈
      cell.spec.containers.mapIdx (populatedStatus now survey cell.status.containers) := by
    apply List.mem_of_getElem?
    rw [List.getElem?_mapIdx, hd]
    rfl
  obtain ⟨ht, hc⟩ := workload_of_exited hf hp
    (isWorkload_of_mem _ hm hn populatedStatus_id)
  exact finishedCleanly_of_status ht hc

theorem not_active_of_terminal {state : ContainerState}
    (ht : containerStateIsTerminal state = true) :
    containerStateIsActive state = false ∧ state ≠ .unknown := by
  cases state with
  | pending | ready | paused | pausing | unknown => cases ht
  | stopped | exited | error | failed | notCreated => exact ⟨rfl, nofun⟩

section Ended

variable {now : Time} {survey : Survey} {cell : Cell}

theorem workloads_populated (specs : List ContainerSpec) (prior : List ContainerStatus) :
    (Keyed.keys ContainerSpec.id (nonRootSpecs specs)).length ≤
      (specs.mapIdx (populatedStatus now survey prior)).countP (isWorkload specs) := by
  have hr : isWorkload specs =
      (fun id => (Keyed.find ContainerSpec.id id (nonRootSpecs specs)).isSome) ∘
        ContainerStatus.id := rfl
  calc (Keyed.keys ContainerSpec.id (nonRootSpecs specs)).length
      ≤ ((nonRootSpecs specs).map ContainerSpec.id).length := (List.dedup_sublist _).length_le
    _ = specs.countP (fun spec => !spec.root) := by
        rw [List.length_map, nonRootSpecs, List.countP_eq_length_filter]
    _ ≤ specs.countP
          (fun spec => (Keyed.find ContainerSpec.id spec.id (nonRootSpecs specs)).isSome) := by
        refine List.countP_mono_left ?_
        intro spec hm hn
        rw [Keyed.find_isSome, Keyed.mem_keys]
        exact ⟨spec, List.mem_filter.mpr ⟨hm, hn⟩, rfl⟩
    _ = _ := by
        rw [hr, ← List.countP_map, populated_ids, List.countP_map]
        rfl

/-- Once every workload is seen in a terminal state, the cell has crashed or exited. -/
theorem derived_of_terminal (hh : hasNonRootContainerSpec cell.spec.containers = true)
    (hds : (cell.spec.containers.map ContainerSpec.id).Nodup)
    (ht : ∀ index spec, cell.spec.containers[index]? = some spec → spec.root = false →
      containerStateIsTerminal (survey.seen index).state = true)
    (rootState : Except RunnerError ContainerState) :
    deriveCellState rootState (populateCellContainerStatuses now survey cell) =
      if (populateCellContainerStatuses now survey cell).status.containers.any fun status =>
        isWorkload cell.spec.containers status && containerExitedNonZero status
      then .error else .exited := by
  let statuses := (populateCellContainerStatuses now survey cell).status.containers
  -- A counted status is that of a workload, so that its state is terminal.
  have he : ∀ status ∈ statuses, isWorkload cell.spec.containers status = true →
      containerStateIsTerminal status.state = true := by
    intro status hm hw
    obtain ⟨index, spec, hd, hp⟩ := mem_populated hm
    obtain ⟨other, hnr, hnm⟩ := Keyed.mem_keys.mp (Keyed.find_isSome.mp hw)
    obtain ⟨hi, hnt⟩ := List.mem_filter.mp hnr
    rw [hp, populatedStatus_id] at hnm
    have heq := List.inj_on_of_nodup_map hds hi (List.mem_of_getElem? hd) hnm
    rw [hp, populatedStatus_state]
    exact ht index spec hd (by simpa [heq] using hnt)
  have hna : (statuses.any fun status =>
      isWorkload cell.spec.containers status && containerStateIsActive status.state) = false := by
    rw [List.any_eq_false]
    intro status hm
    rw [Bool.and_eq_true, not_and, Bool.not_eq_true]
    intro hw
    exact (not_active_of_terminal (he status hm hw)).1
  have hn : (statuses.any fun status =>
      isWorkload cell.spec.containers status && status.state == .unknown) = false := by
    rw [List.any_eq_false]
    intro status hm
    rw [Bool.and_eq_true, not_and, beq_iff_eq]
    intro hw
    exact (not_active_of_terminal (he status hm hw)).2
  have hfl : (statuses.any fun status => isWorkload cell.spec.containers status &&
      (containerStateIsTerminal status.state && containerExitedNonZero status)) =
      statuses.any fun status =>
        isWorkload cell.spec.containers status && containerExitedNonZero status := by
    rw [Bool.eq_iff_iff, List.any_eq_true, List.any_eq_true]
    constructor
    · rintro ⟨status, hm, hc⟩
      simp only [Bool.and_eq_true] at hc
      exact ⟨status, hm, by simp [hc]⟩
    · rintro ⟨status, hm, hc⟩
      simp only [Bool.and_eq_true] at hc
      exact ⟨status, hm, by simp [hc, he status hm hc.1]⟩
  obtain ⟨hsc, hac, huc, hfc⟩ := tally_count cell.spec.containers statuses {}
  have ha : ¬ (statuses.foldl (Tally.count cell.spec.containers) {}).seen <
      (Keyed.keys ContainerSpec.id (nonRootSpecs cell.spec.containers)).length := by
    rw [hsc, not_lt, Nat.zero_add]
    exact workloads_populated cell.spec.containers cell.status.containers
  have hf : deriveCellState rootState (populateCellContainerStatuses now survey cell) =
      deriveCellStateFromNonRootContainerStatuses cell.spec.containers statuses := if_pos hh
  rw [hf]
  unfold deriveCellStateFromNonRootContainerStatuses
  dsimp only
  rw [if_neg ha]
  simp only [hac, huc, hfc, hna, hn, hfl]
  rfl

end Ended

end Kukeon.Runner
