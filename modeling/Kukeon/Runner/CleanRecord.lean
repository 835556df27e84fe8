import Kukeon.Runner.ReadErrors

/-! # Cells whose workloads never failed

The tasks of a cell's containers are records that containerd keeps. A survey is honest when each of
its observations comes from a read in which containerd reported no status but that of the task. Once
the tasks that decide the state of the cell have ended cleanly, honest surveys never put a failure on
record, and no tick derives the state of a crash.
-/

namespace Kukeon.Runner

open ModelHub ApiScheme Ctr Effect

abbrev Tasks := String → Option Status

def Decisive (specs : List ContainerSpec) (spec : ContainerSpec) : Prop :=
  spec ∈ specs ∧ (spec.root = false ∨ hasNonRootContainerSpec specs = false)

/-- Every task that decides the state of the cell has ended, and not in failure. -/
def EndedCleanly (tasks : Tasks) (specs : List ContainerSpec) : Prop :=
  ∀ spec, Decisive specs spec → ∀ report, tasks spec.containerdID = some report →
    report.status = .stopped ∧ report.exitStatus = 0

/-- Each observation comes from a read in which containerd reports the status of the task, if it
    reports one. -/
def HonestSurvey (tasks : Tasks) (cell : Cell) (survey : Survey) : Prop :=
  ∀ index spec, cell.spec.containers[index]? = some spec →
    ∃ circumstances : Circumstances,
      survey.observation index = (circumstances.observe cell spec.id).1 ∧
        ∀ report, circumstances.read.containerd.status = .ok report →
          tasks spec.containerdID = some report

def reported (report : Status) : ContainerObservation where
  state := convertContainerdStatusToContainerState report
  exitCode := report.exitStatus.toNat
  exitTime := report.exitTime

variable {cell : Cell} {specs : List ContainerSpec}

/-- An observation without an exit, or the one of a reported status. -/
theorem observe_ok {circumstances : Circumstances} {containerID : String}
    {seen : ContainerObservation} (hr : (circumstances.observe cell containerID).1 = .ok seen) :
    ((seen.state = .unknown ∨ seen.state = .notCreated ∨ seen.state = .stopped) ∧
        seen.exitTime = 0) ∨
      ∃ report, circumstances.read.containerd.status = .ok report ∧ seen = reported report := by
  unfold Circumstances.observe getContainerObservation at hr
  cases ht : observationTarget circumstances.read cell containerID with
  | error err =>
    rw [ht] at hr
    cases hr
  | ok found =>
    rw [ht] at hr
    cases found with
    | absent =>
      cases hr
      exact .inl ⟨.inl rfl, rfl⟩
    | query ns containerdID =>
      have hsm : (queryContainer circumstances.read.containerd ns containerdID
          circumstances.client).1 = seen := Except.ok.inj hr
      rw [← hsm]
      unfold queryContainer
      rcases circumstances.client.existsContainer circumstances.read.containerd ns containerdID
        with ⟨_ | _ | _, asked⟩
      · exact .inl ⟨.inl rfl, rfl⟩
      · exact .inl ⟨.inr (.inl rfl), rfl⟩
      · dsimp only
        rcases hs : asked.taskStatus circumstances.read.containerd ns containerdID
          with ⟨err | report, told⟩
        · dsimp only
          split
          · exact .inl ⟨.inr (.inr rfl), rfl⟩
          · exact .inl ⟨.inl rfl, rfl⟩
        · exact .inr ⟨report, Client.taskStatus_report hs, rfl⟩

structure CleanObservation (seen : ContainerObservation) : Prop where
  state : seen.state ≠ .error ∧ seen.state ≠ .failed
  exit : seen.exitTime ≠ 0 → seen.exitCode = 0

/-- No container that decides the state of the cell is seen to have failed. -/
def CleanSurvey (specs : List ContainerSpec) (survey : Survey) : Prop :=
  ∀ index spec, specs[index]? = some spec → Decisive specs spec →
    CleanObservation (survey.seen index)

theorem reported_clean {report : Status} (hs : report.status = .stopped)
    (hz : report.exitStatus = 0) : CleanObservation (reported report) := by
  have hst : (reported report).state = .exited := by
    unfold reported convertContainerdStatusToContainerState
    rw [hs]
    simp [hz]
  refine ⟨by simp [hst], ?_⟩
  intro _
  unfold reported
  simp [hz]

theorem cleanSurvey_of_honest {tasks : Tasks} {survey : Survey}
    (hh : HonestSurvey tasks cell survey) (hen : EndedCleanly tasks cell.spec.containers) :
    CleanSurvey cell.spec.containers survey := by
  intro index spec hd hdc
  obtain ⟨circumstances, ho, hot⟩ := hh index spec hd
  unfold Survey.seen
  rw [ho]
  cases hr : (circumstances.observe cell spec.id).1 with
  | error err => exact ⟨by simp, by simp⟩
  | ok seen =>
    rcases observe_ok hr with ⟨hp, hn⟩ | ⟨report, hg, hsm⟩
    · refine ⟨?_, fun he => absurd hn he⟩
      rcases hp with hst | hst | hst <;> simp [hst]
    · obtain ⟨hs, hz⟩ := hen spec hdc report (hot report hg)
      rw [hsm]
      exact reported_clean hs hz

/-- The cell has the containers `specs`, as far as identifiers and root flags go, and no failure on
    record for those that decide its state. -/
structure CleanRecord (specs : List ContainerSpec) (cell : Cell) : Prop where
  marks : cell.spec.containers.map rootMark = specs.map rootMark
  exits : ∀ spec, Decisive specs spec → exitCodeOnRecord cell.status.containers spec.id = 0

theorem hasNonRootContainerSpec_congr {specs others : List ContainerSpec}
    (hm : specs.map rootMark = others.map rootMark) :
    hasNonRootContainerSpec specs = hasNonRootContainerSpec others := by
  have ht : ∀ specs : List ContainerSpec, hasNonRootContainerSpec specs =
      (specs.map rootMark).any fun mark => !mark.1 := by
    intro specs
    simp [hasNonRootContainerSpec, List.any_map, Function.comp_def, rootMark]
  rw [ht, ht, hm]

section Populate

variable {specs : List ContainerSpec} {cell : Cell} {survey : Survey}

/-- The container that stands at a position of the cell, in the list of reference. -/
theorem CleanRecord.declared (hc : CleanRecord specs cell) {index : Nat} {spec : ContainerSpec}
    (hf : cell.spec.containers[index]? = some spec) :
    ∃ original, specs[index]? = some original ∧ original.id = spec.id ∧
      original.root = spec.root := by
  have marks := congrArg (fun marks => marks[index]?) hc.marks
  simp only [List.getElem?_map, hf, Option.map_some] at marks
  cases hh : specs[index]? with
  | none =>
    rw [hh] at marks
    cases marks
  | some original =>
    rw [hh] at marks
    have hs := Option.some.inj marks
    exact ⟨original, rfl, (congrArg Prod.snd hs).symm, (congrArg Prod.fst hs).symm⟩

/-- A clean observation of a container with no failure on record leaves none. -/
theorem populatedStatus_clean {now : Time} {prior : List ContainerStatus} {index : Nat}
    {spec : ContainerSpec} (hs : CleanObservation (survey.seen index))
    (hz : exitCodeOnRecord prior spec.id = 0) :
    containerExitedNonZero (populatedStatus now survey prior index spec) = false ∧
      (populatedStatus now survey prior index spec).exitCode = 0 := by
  have hc : (populatedStatus now survey prior index spec).exitCode = 0 := by
    by_cases hr : (survey.seen index).state = .ready
    · unfold populatedStatus
      simp [hr]
    · rw [populatedStatus_exitCode hr]
      unfold recordedExitCode
      split
      · next he => exact hs.exit he
      · exact hz
  refine ⟨?_, hc⟩
  unfold containerExitedNonZero
  rw [hc, populatedStatus_state]
  simp [hs.state]

/-- With distinct identifiers the container of a decisive one's identifier is that one. -/
theorem decisive_of_id (hds : (specs.map ContainerSpec.id).Nodup) {spec other : ContainerSpec}
    (hd : Decisive specs spec) (hm : other ∈ specs) (hs : other.id = spec.id) :
    Decisive specs other := by
  have he : other = spec := List.inj_on_of_nodup_map hds hm hd.1 hs
  exact he ▸ hd

theorem CleanRecord.populate (hd : (specs.map ContainerSpec.id).Nodup)
    (hc : CleanRecord specs cell) (hsn : CleanSurvey specs survey) (now : Time) :
    CleanRecord specs (populateCellContainerStatuses now survey cell) where
  marks := hc.marks
  exits := by
    intro spec hdc
    unfold exitCodeOnRecord
    cases hf : Keyed.find ContainerStatus.id spec.id
        (populateCellContainerStatuses now survey cell).status.containers with
    | none => rfl
    | some status =>
      obtain ⟨hm, hn⟩ := Keyed.find_some hf
      obtain ⟨index, declaredSpec, hdl, hp⟩ := mem_populated hm
      obtain ⟨original, hh, hs, _⟩ := hc.declared hdl
      rw [hp] at hn ⊢
      have hi := decisive_of_id hd hdc (List.mem_of_getElem? hh)
        (hs.trans hn)
      have hz := hc.exits original hi
      rw [hs] at hz
      exact (populatedStatus_clean (hsn index original hh hi) hz).2

/-- Through a write the marks and the exit codes come back as they were. -/
theorem CleanRecord.persisted (hc : CleanRecord specs cell) :
    CleanRecord specs (persistedCell cell) where
  marks := by
    rw [← hc.marks]
    simp [persistedCell, storedSpec, CellSpec.deref, rootMark, storedContainer,
      ContainerSpec.deref, Function.comp_def]
  exits := by
    intro spec hd
    rw [← hc.exits spec hd]
    refine exitCodeOnRecord_congr ?_ spec.id
    simp [persistedCell, statusWithoutSetup, withoutSetup, Function.comp_def]

theorem CleanRecord.written (hc : CleanRecord specs cell) {now : Time} {disk : Option Cell}
    {doc : Cell} (hw : writeDocWithGeneration cellAccess disk
      (persistedCell (stampCellLifecycle now cell)) = .ok doc) : CleanRecord specs doc := by
  have hst : CleanRecord specs (stampCellLifecycle now cell) := ⟨hc.marks, hc.exits⟩
  have hs := hst.persisted
  obtain ⟨generation, rfl⟩ := written_eq hw
  exact ⟨hs.marks, hs.exits⟩

end Populate

theorem failed_of_error {statuses : List ContainerStatus}
    (he : deriveCellStateFromNonRootContainerStatuses specs statuses = .error) :
    ∃ status ∈ statuses, isWorkload specs status = true ∧ containerExitedNonZero status = true := by
  unfold deriveCellStateFromNonRootContainerStatuses at he
  dsimp only at he
  rw [(tally_count specs statuses {}).2.2.2] at he
  split at he
  · cases he
  split at he
  · split at he <;> cases he
  split at he
  · cases he
  split at he
  · next hf =>
    rw [Bool.false_or] at hf
    obtain ⟨status, hm, hc⟩ := List.any_eq_true.mp hf
    simp only [Bool.and_eq_true] at hc
    exact ⟨status, hm, hc.1, hc.2.2⟩
  · cases he

theorem failed_of_rootError {rootState : Except RunnerError ContainerState}
    (he : deriveCellStateFromRootContainer rootState cell = .error) :
    ∃ root, findRootContainerSpec cell.spec = some root ∧
      rootContainerExitedNonZero root.id cell.status.containers = true := by
  unfold deriveCellStateFromRootContainer at he
  cases hfn : findRootContainerSpec cell.spec with
  | none =>
    rw [hfn] at he
    cases he
  | some root =>
    refine ⟨root, rfl, ?_⟩
    rw [hfn] at he
    cases rootState with
    | error err => cases he
    | ok state =>
      dsimp only at he
      split at he
      · cases he
      split at he
      · split at he
        · next hf => exact hf
        · cases he
      · cases he

/-- A cell with no failure on record is not derived as crashed from clean observations. -/
theorem deriveCellState_ne_error {survey : Survey} (hds : (specs.map ContainerSpec.id).Nodup)
    (hc : CleanRecord specs cell) (hsn : CleanSurvey specs survey)
    (rootState : Except RunnerError ContainerState) (now : Time) :
    deriveCellState rootState (populateCellContainerStatuses now survey cell) ≠ .error := by
  -- A populated status of a decisive container shows no failure.
  have hu : ∀ status ∈ (populateCellContainerStatuses now survey cell).status.containers,
      ∀ spec, Decisive specs spec → status.id = spec.id →
        containerExitedNonZero status = false := by
    intro status hm spec hd hnm
    obtain ⟨index, declaredSpec, hdc, hp⟩ := mem_populated hm
    obtain ⟨original, hh, hs, _⟩ := hc.declared hdc
    rw [hp] at hnm ⊢
    have hid := decisive_of_id hds hd (List.mem_of_getElem? hh)
      (hs.trans hnm)
    have hz := hc.exits original hid
    rw [hs] at hz
    exact (populatedStatus_clean (hsn index original hh hid) hz).1
  have hr : ∀ spec ∈ cell.spec.containers,
      ∃ original ∈ specs, original.id = spec.id ∧ original.root = spec.root := by
    intro spec hm
    obtain ⟨index, hfn⟩ := List.mem_iff_getElem?.mp hm
    obtain ⟨original, hh, hs, hsr⟩ := hc.declared hfn
    exact ⟨original, List.mem_of_getElem? hh, hs, hsr⟩
  intro he
  unfold deriveCellState at he
  split at he
  · obtain ⟨status, hm, hw, hf⟩ := failed_of_error he
    obtain ⟨spec, hnr, hnm⟩ := Keyed.mem_keys.mp (Keyed.find_isSome.mp hw)
    obtain ⟨hii, hnt⟩ := List.mem_filter.mp hnr
    obtain ⟨original, hi, hs, hsr⟩ := hr spec hii
    have hd : Decisive specs original :=
      ⟨hi, .inl (hsr.trans (by simpa using hnt))⟩
    rw [hu status hm original hd (hnm.symm.trans hs.symm)] at hf
    cases hf
  · next hn =>
    obtain ⟨root, hfn, hf⟩ := failed_of_rootError he
    unfold rootContainerExitedNonZero at hf
    split at hf
    · cases hf
    · next status hsf =>
      obtain ⟨original, hi, hs, _⟩ := hr root (mem_of_findRoot hfn)
      have hro : hasNonRootContainerSpec specs = false := by
        rw [← hasNonRootContainerSpec_congr hc.marks]
        exact Bool.eq_false_of_not_eq_true hn
      have hnm : status.id = root.id := by
        simpa using List.find?_some hsf
      rw [hu status (List.mem_of_find?_eq_some hsf) original
        ⟨hi, .inr hro⟩ (hnm.trans hs.symm)] at hf
      cases hf

def cleanRules (specs : List ContainerSpec) : Rules where
  inv host := (∀ doc, host.disk = some doc → CleanRecord specs doc) ∧ host.derived ≠ some .error
  doc _ cell := CleanRecord specs cell
  relaunch _ := True
  kill _ := True
  reap := True
  survey := CleanSurvey specs
  derives state := state ≠ .error

theorem cleanRules_sound (hds : (specs.map ContainerSpec.id).Nodup) :
    (cleanRules specs).Sound where
  edit := by
    intro derived a b may he
    rcases he.recorded with hk | ⟨now, survey, hs, hp⟩
    · refine ⟨?_, ?_⟩
      · rw [he.spec]
        exact may.marks
      · intro spec hd
        rw [hk spec.id]
        exact may.exits spec hd
    · have after := may.populate hds hs now
      refine ⟨?_, ?_⟩
      · rw [he.spec]
        exact may.marks
      · intro spec hd
        rw [hp]
        exact after.exits spec hd
  read := fun hh ho => hh.1 _ ho
  write := by
    intro host now cell doc hh may hw
    refine ⟨?_, hh.2⟩
    intro after ho
    cases ho
    exact may.written hw
  idle := by
    intro host next hh hdk _ derived
    refine ⟨?_, ?_⟩
    · rw [hdk]
      exact hh.1
    · rw [derived]
      exact hh.2
  markedFailed := fun hh => hh
  relaunching := fun hh _ => hh
  killed := fun hh _ => hh
  kill_mono := fun _ => trivial
  kill_after_failure := trivial
  kill_of_reap := fun _ => trivial
  derive := by
    intro host state hh _ hn
    exact ⟨hh.1, fun hsm => hn (Option.some.inj hsm)⟩
  doc_derive := fun may => may

/-- A tick on a document with a clean record leaves one, and derives no crash. -/
theorem tick_clean (hd : (specs.map ContainerSpec.id).Nodup) (inputs : TickInputs)
    (hs : inputs.Allowed (CleanSurvey specs)) (hcl : CleanRecord specs cell)
    (host : CellHost) (ho : ∀ doc, host.disk = some doc → CleanRecord specs doc) :
    (cleanRules specs).inv (finalState (reconcileCell inputs cell) host) := by
  have hdr : ∀ now healed, SameWork cell healed →
      (cleanRules specs).derives (deriveStatus inputs now cell.status healed).status.state := by
    intro now healed hsm
    have hc : CleanRecord specs healed := by
      refine ⟨?_, ?_⟩
      · rw [hsm.1]
        exact hcl.marks
      · rw [hsm.2.1]
        exact hcl.exits
    change (deriveStatus inputs now cell.status healed).status.state ≠ .error
    rw [deriveStatus_state]
    unfold derivedState
    split
    · simp
    · exact deriveCellState_ne_error hd hc hs.survey _ now
  have he := reconcileCell_ends (cleanRules_sound hd) inputs hs cell host hcl hdr
    (fun _ _ _ _ _ _ _ => trivial) (fun _ _ _ _ => trivial) ⟨ho, by simp⟩
  rcases he with hh | ⟨_, prior, hh, hl⟩
  · exact hh
  · rw [hl]
    refine ⟨?_, hh.2⟩
    intro doc hi
    cases hi

end Kukeon.Runner
