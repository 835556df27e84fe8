import Kukeon.Lib.Runs
import Kukeon.Runner.StartGuard

/-! # Spec-hash drift

Applies go through `UpdateCell`, which keeps containers in place, or `RecreateCell`, which makes them
anew; a stop and a start after them show whether they left the stamps in order.
-/

namespace Kukeon.Runner

open ModelHub GoText

section Update

variable {digest : ContainerSpecHashPayload → String} {host : ProvisionHost}
  {records after : Records} {existing desired stored : Cell}
  (steps : UpdateSteps digest host records existing desired stored after)

def CurrentStamp (records : Records) (container : ContainerSpec) : Prop :=
  ∃ record, records.lookup container.containerdID = some record ∧
    record.specHashVersion = specHashDomainVersion

/-- The containers that an update leaves in place, as they are and as it wants them. -/
def LeftInPlace (existing desired : Cell) (actual wanted : ContainerSpec) : Prop :=
  (preservedRoot existing desired = some actual ∧ wanted = actual) ∨
    (wanted ∈ desired.spec.containers ∧
      containerByID existing.spec.containers wanted.id = some actual ∧
      containerSpecChanged wanted actual = false)

theorem LeftInPlace.mem {actual wanted : ContainerSpec}
    (hi : LeftInPlace existing desired actual wanted) : actual ∈ existing.spec.containers := by
  rcases hi with ⟨hp, _⟩ | ⟨_, hk, _⟩
  · exact (preservedRoot_eq_some hp).1
  · exact (containerByID_eq_some hk).1

def KeepsHashes (digest : ContainerSpecHashPayload → String) (space : Space) (records : Records)
    (existing desired : Cell) : Prop :=
  ∀ actual wanted, LeftInPlace existing desired actual wanted → CurrentStamp records actual →
    computeContainerSpecHash digest
        (withDefaults space existing.spec.nestedCgroupRuntime wanted) =
      computeContainerSpecHash digest actual

/-- The ids that an update gives to the containers it creates are free. -/
def NewIDs (records : Records) (existing desired : Cell) : Prop :=
  ∀ left, remaining existing desired records.ids = .ok left →
    ∀ wanted ∈ desired.spec.containers, ∀ id,
      (containerByID existing.spec.containers wanted.id = none →
        (if wanted.containerdID ≠ "" then .ok wanted.containerdID else builtID existing wanted) =
          .ok id → id ∉ left) ∧
      (∀ actual, containerByID existing.spec.containers wanted.id = some actual →
        containerSpecChanged wanted actual = true → builtID existing wanted = .ok id → id ∉ left)

theorem payload_adopted (space : Space) (nested : Bool) (existing : Cell) (wanted : ContainerSpec)
    (containerdID : String) :
    specHashPayload (withDefaults space nested
      (adopted existing { wanted with containerdID := containerdID })) =
      specHashPayload (withDefaults space nested wanted) := by
  unfold withDefaults applySpaceDefaultsToContainer
  split <;> rfl

namespace UpdateSteps

variable {steps} in
theorem Stores.payload {merged container : ContainerSpec} (hs : steps.Stores merged container) :
    specHashPayload container =
      specHashPayload (withDefaults steps.space existing.spec.nestedCgroupRuntime merged) :=
  payload_of_unstamped (steps.builds _ _ hs).spec

structure StoredFor (actual wanted container : ContainerSpec) : Prop where
  inPlace : LeftInPlace existing desired actual wanted
  id : container.id = wanted.id
  containerdID : container.containerdID = actual.containerdID
  payload : specHashPayload container =
    specHashPayload (withDefaults steps.space existing.spec.nestedCgroupRuntime wanted)

variable {steps} in
theorem storedFor_root (hd : Deployed existing) {root container : ContainerSpec}
    (hp : preservedRoot existing desired = some root)
    (hs : steps.Stores root container) : steps.StoredFor root root container :=
  ⟨.inl ⟨hp, rfl⟩, hs.id,
    hs.containerdID (hd.given root (preservedRoot_eq_some hp).1), hs.payload⟩

variable {steps} in
theorem storedFor_kept (hd : Deployed existing) {wanted actual container : ContainerSpec}
    (hm : wanted ∈ desired.spec.containers)
    (hk : containerByID existing.spec.containers wanted.id = some actual)
    (hu : containerSpecChanged wanted actual = false)
    (hs : steps.Stores (adopted existing { wanted with containerdID := actual.containerdID })
      container) : steps.StoredFor actual wanted container :=
  ⟨.inr ⟨hm, hk, hu⟩, hs.id,
    hs.containerdID (hd.given actual (containerByID_eq_some hk).1),
    hs.payload.trans (payload_adopted _ _ _ _ _)⟩

/-- A stored container was left in place, or it comes under a free id. -/
theorem storedFor_or_new (hd : Deployed existing) (new : NewIDs records existing desired)
    {container : ContainerSpec} (hm : container ∈ stored.spec.containers) :
    (∃ actual wanted, steps.StoredFor actual wanted container) ∨
      container.containerdID ∉ steps.left := by
  obtain ⟨merged, hs, hp | ⟨wanted, hi, hfr⟩⟩ := steps.stored_cases hm
  · exact .inl ⟨merged, merged, storedFor_root hd hp hs⟩
  · have hf := new steps.left steps.leaves wanted hi container.containerdID
    cases hfr with
    | added hun => exact .inr (hf.1 hun hs.added_id)
    | recreated hk hc _ =>
      refine .inr (hf.2 _ hk hc ?_)
      rw [← builtID_blank]
      exact hs.assigned rfl
    | kept hk hu =>
      exact .inl ⟨_, wanted, storedFor_kept hd hi hk hu hs⟩

theorem exists_storedFor (hd : Deployed existing) {actual wanted : ContainerSpec}
    (hip : LeftInPlace existing desired actual wanted) :
    ∃ container ∈ stored.spec.containers, steps.StoredFor actual wanted container := by
  rcases hip with ⟨hp, rfl⟩ | ⟨hm, hk, hu⟩
  · have him : wanted ∈ (preservedRoot existing desired).toList ++ steps.updated := by
      simp [hp]
    obtain ⟨container, hi, hs⟩ := steps.exists_stored him
    exact ⟨container, hi, storedFor_root hd hp hs⟩
  · obtain ⟨merged, hf, container, hi, hs⟩ := steps.exists_stored_of_mem hm
    refine ⟨container, hi, ?_⟩
    cases hf with
    | added hun => cases hun.symm.trans hk
    | recreated hkn hc _ =>
      obtain rfl := Option.some.inj (hk.symm.trans hkn)
      cases hc.symm.trans hu
    | kept hkn _ =>
      obtain rfl := Option.some.inj (hk.symm.trans hkn)
      exact storedFor_kept hd hm hk hu hs

variable {steps} in
/-- A container that stands under a current stamp and is left in place is not removed. -/
theorem StoredFor.mem_left (hdp : Deployed existing)
    (hds : (desired.spec.containers.map ContainerSpec.id).Nodup)
    {actual wanted container : ContainerSpec} (hs : steps.StoredFor actual wanted container)
    (ht : actual.containerdID ∈ records.ids) : actual.containerdID ∈ steps.left := by
  have hm := hs.inPlace.mem
  refine steps.mem_left hdp hm ht ?_ ?_
  · rintro ⟨_, hch, hd⟩
    rcases hs.inPlace with ⟨hp, _⟩ | ⟨hi, hk, _⟩
    · cases (preservedRoot_eq_some hp).2.symm.trans hch
    · obtain ⟨_, hsi, hn⟩ := containerByID_eq_some hk
      rw [hsi] at hd
      exact (containerByID_eq_none hn).mp hd wanted hi rfl
  · intro hr
    rcases hs.inPlace with ⟨hp, _⟩ | ⟨hi, hk, hu⟩
    · cases (preservedRoot_eq_some hp).2.symm.trans
        (child_of_recreated steps.related hr)
    · obtain ⟨other, hid, hkn, hc⟩ := hr
      have hsm : other.id = wanted.id := by
        rw [← (containerByID_eq_some hkn).2.1, (containerByID_eq_some hk).2.1]
      obtain rfl := List.inj_on_of_nodup_map hds hid hi hsm
      cases hc.symm.trans hu

variable {steps} in
/-- The containers that an update starts are not among those it leaves in place. -/
theorem StoredFor.not_started (hd : Deployed existing)
    (hds : (desired.spec.containers.map ContainerSpec.id).Nodup)
    {actual wanted container : ContainerSpec} (hs : steps.StoredFor actual wanted container)
    {name : String} (hst : name ∈ recreatedIDs existing desired) :
    container.id ≠ trimSpace name := by
  obtain ⟨other, hid, rfl, actual', hk, hc⟩ := mem_recreatedIDs.mp hst
  obtain ⟨hi, hsi, _⟩ := containerByID_eq_some hk
  have hch : actual'.root = false :=
    child_of_recreated steps.related ⟨other, hid, hk, hc⟩
  intro hn
  have hsm : wanted.id = other.id := by
    rw [← hs.id, hn, ← hsi, hd.trimmed actual' hi]
  rcases hs.inPlace with ⟨hp, rfl⟩ | ⟨hin, hkn, hu⟩
  · obtain ⟨hic, hir⟩ := preservedRoot_eq_some hp
    obtain rfl := List.inj_on_of_nodup_map hd.ids hic hi (hsm.trans hsi.symm)
    cases hir.symm.trans hch
  · obtain rfl := List.inj_on_of_nodup_map hds hin hid hsm
    obtain rfl := Option.some.inj (hk.symm.trans hkn)
    cases hc.symm.trans hu

/-- Starting containers of a cell keeps the stamps of all its containers in order. -/
theorem stampedAs_starts {cell : Cell} {before later : Records}
    (hd : (cell.spec.containers.map ContainerSpec.containerdID).Nodup) {names : List String}
    (hs : names.foldlM (startContainerRecord digest cell) before = .ok later)
    {container : ContainerSpec} (hm : container ∈ cell.spec.containers)
    (hst : StampedAs digest before container) : StampedAs digest later container := by
  induction names generalizing before with
  | nil =>
    cases hs
    exact hst
  | cons name rest ih =>
    simp only [List.foldlM_cons, Outcome.bind_eq_ok] at hs
    obtain ⟨between, hf, ho⟩ := hs
    obtain ⟨spec, hfn, hl⟩ := startContainerRecord_eq_ok hf
    refine ih ho (hst.launch hl ?_)
    intro hsm
    rw [List.inj_on_of_nodup_map hd (List.mem_of_find?_eq_some hfn) hm hsm]

theorem stampedAs_of_keepsHashes (hd : Deployed existing)
    (ha : (stored.spec.containers.map ContainerSpec.containerdID).Nodup)
    (new : NewIDs records existing desired)
    (hst : ∀ container ∈ existing.spec.containers, StampedAs digest records container)
    (hk : KeepsHashes digest steps.space records existing desired) {container : ContainerSpec}
    (hm : container ∈ stored.spec.containers) : StampedAs digest after container := by
  refine stampedAs_starts ha steps.starts hm ?_
  intro record hf hc
  rw [steps.lookup_ensured] at hf
  by_cases hl : container.containerdID ∈ steps.left
  · obtain ⟨actual, wanted, hs⟩ : ∃ actual wanted, steps.StoredFor actual wanted container :=
      (steps.storedFor_or_new hd new hm).resolve_right (not_not.mpr hl)
    obtain ⟨before, ht⟩ :=
      Records.mem_ids_iff.mp ((mem_remaining hd steps.leaves).mp hl).1
    rw [if_pos hl, ht, Option.some_or, Option.some.injEq] at hf
    subst hf
    rw [hs.containerdID] at ht
    rw [hst actual hs.inPlace.mem before ht hc,
      ← hk actual wanted hs.inPlace ⟨before, ht, hc⟩, computeContainerSpecHash,
      computeContainerSpecHash, hs.payload]
  · have own : (stored.spec.containers.find? fun spec =>
        spec.containerdID = container.containerdID) = some container :=
      Keyed.first_of_mem ha hm rfl
    rw [if_neg hl, own, Option.none_or, Option.map_some, Option.some.injEq] at hf
    rw [← hf]
    rfl

/-- An update that changes a hash it leaves in place leaves a container that is refused. -/
theorem refused_of_not_keepsHashes (hn : ∀ payload, digest payload ≠ "")
    (hd : Deployed existing)
    (hds : (desired.spec.containers.map ContainerSpec.id).Nodup)
    (ha : (stored.spec.containers.map ContainerSpec.containerdID).Nodup)
    (hst : ∀ container ∈ existing.spec.containers, StampedAs digest records container)
    (hc : ¬ KeepsHashes digest steps.space records existing desired) :
    ∃ container ∈ stored.spec.containers, Refused digest after container := by
  simp only [KeepsHashes, not_forall] at hc
  obtain ⟨actual, wanted, hi, ⟨record, ht, hcr⟩, hdf⟩ := hc
  obtain ⟨container, hm, hs⟩ := steps.exists_storedFor hd hi
  have hl := hs.mem_left hd hds (Records.mem_ids_iff.mpr ⟨record, ht⟩)
  have hu : after.lookup container.containerdID = some record := by
    rw [(lookup_starts steps.starts).2.2 container.containerdID ?_, steps.lookup_ensured,
      hs.containerdID, if_pos hl, ht, Option.some_or]
    rintro name hsr spec hf hsm
    obtain rfl :=
      List.inj_on_of_nodup_map ha (List.mem_of_find?_eq_some hf) hm hsm
    exact hs.not_started hd hds hsr (by simpa using List.find?_some hf)
  have hsp := hst actual hi.mem record ht hcr
  refine ⟨container, hm, record, hu, classifySpecHashReuse_eq_refuse.mpr
    ⟨hcr, hsp ▸ hn _, ?_⟩⟩
  intro hsm
  rw [hsp, computeContainerSpecHash, computeContainerSpecHash, hs.payload] at hsm
  exact hdf hsm.symm

end UpdateSteps

end Update

section Recreate

variable {digest : ContainerSpecHashPayload → String} {host : ProvisionHost}
  {records after : Records} {existing desired stored : Cell}

/-- What reading a container back from its document leaves for the guards to compare. -/
theorem mem_persistedCell {cell : Cell} {container : ContainerSpec}
    (hm : container ∈ (persistedCell cell).spec.containers) :
    ∃ original ∈ cell.spec.containers,
      container.containerdID = original.containerdID ∧
        specHashPayload container = specHashPayload original := by
  obtain ⟨between, hi, rfl⟩ := List.mem_map.mp hm
  obtain ⟨original, hic, rfl⟩ := List.mem_map.mp hi
  refine ⟨original, hic, rfl, ?_⟩
  simp [specHashPayload, ContainerSpec.deref, ApiScheme.storedContainer, Function.comp_def,
    projectVolume, VolumeMount.deref]

theorem exists_persistedCell {cell : Cell} {original : ContainerSpec}
    (hm : original ∈ cell.spec.containers) :
    ∃ container ∈ (persistedCell cell).spec.containers,
      container.containerdID = original.containerdID ∧
        specHashPayload container = specHashPayload original := by
  refine ⟨(ApiScheme.storedContainer original).deref,
    List.mem_map_of_mem (List.mem_map_of_mem hm), rfl, ?_⟩
  simp [specHashPayload, ContainerSpec.deref, ApiScheme.storedContainer, Function.comp_def,
    projectVolume, VolumeMount.deref]

theorem persistedCell_containerdIDs (cell : Cell) :
    (persistedCell cell).spec.containers.map ContainerSpec.containerdID =
      cell.spec.containers.map ContainerSpec.containerdID := by
  simp [persistedCell, ApiScheme.storedSpec, CellSpec.deref, ContainerSpec.deref,
    ApiScheme.storedContainer, Function.comp_def]

theorem persistedCell_ids (cell : Cell) :
    (persistedCell cell).spec.containers.map ContainerSpec.id =
      cell.spec.containers.map ContainerSpec.id := by
  simp [persistedCell, ApiScheme.storedSpec, CellSpec.deref, ContainerSpec.deref,
    ApiScheme.storedContainer, Function.comp_def]

theorem stampedAs_launches {before later : Records} {specs : List ContainerSpec}
    {container : ContainerSpec} (hs : specs.foldlM (launch digest) before = .ok later)
    (ha : ∀ spec ∈ specs, spec.containerdID = container.containerdID →
      specHashPayload spec = specHashPayload container)
    (hst : StampedAs digest before container) : StampedAs digest later container := by
  induction specs generalizing before with
  | nil =>
    cases hs
    exact hst
  | cons spec rest ih =>
    simp only [List.foldlM_cons, Outcome.bind_eq_ok] at hs
    obtain ⟨between, hf, ho⟩ := hs
    simp only [List.mem_cons, forall_eq_or_imp] at ha
    exact ih ho ha.2 (hst.launch hf ha.1)

theorem stampedAs_startRecords {cell : Cell} {before : Records} (hi : Installed cell after)
    (hs : startRecords digest host before cell = .ok after) {container : ContainerSpec}
    (hm : container ∈ cell.spec.containers) (hst : StampedAs digest before container) :
    StampedAs digest after container := by
  obtain ⟨root, hin, _, hri, hn, _⟩ := hi.exists_root
  simp only [startRecords, hri, Outcome.bind_eq_ok, Outcome.mapError_eq_ok,
    Except.ok.injEq] at hs
  obtain ⟨rootID, rfl, hs⟩ := hs
  split at hs
  · cases hs
    exact hst
  · simp only [Outcome.bind_eq_ok, Outcome.mapError_eq_ok] at hs
    obtain ⟨resolved, hr, rooted, hf, ho⟩ := hs
    rw [foldlM_startChild fun spec hic =>
      hi.given spec (List.mem_filter.mp hic).1] at ho
    refine stampedAs_launches ho ?_ (hst.launch hf ?_)
    · intro spec hic hsm
      rw [List.inj_on_of_nodup_map hi.containerdIDs (List.mem_filter.mp hic).1 hm
        hsm]
    · intro hsm
      obtain rfl := List.inj_on_of_nodup_map hi.containerdIDs hin hm hsm
      have hp := payload_resolvedRoot hi.toDeployed hin hn hr
      exact hp

theorem createCellContainers_fresh {live made : List String} {cell created : Cell}
    (hm : createCellContainers host live cell = .ok (created, made)) :
    ∀ container ∈ created.spec.containers, container.containerdID ∉ live := by
  simp only [createCellContainers, Outcome.bind_eq_ok, Outcome.refusal_eq_ok, Outcome.pure_eq_ok,
    applyCellContainerDefaults_eq_ok] at hm
  obtain ⟨-, -, -, defaulted, -, path, -, containerd, -, root, -, ⟨containers, all⟩, hl, hs⟩ :=
    hm
  obtain rfl := (Prod.mk.inj hs).1
  exact (forContainers_create hl).2.1

theorem stampedAs_of_recreate (hi : Installed (persistedCell stored) after)
    (hr : recreateRecords digest host records existing desired = .ok (stored, after))
    {container : ContainerSpec} (hm : container ∈ (persistedCell stored).spec.containers) :
    StampedAs digest after container := by
  simp only [recreateRecords, recreateCell, storable, Outcome.bind_eq_ok, Outcome.mapError_eq_ok,
    Outcome.pure_eq_ok] at hr
  obtain ⟨rootID, hrt, ⟨written, all⟩, ⟨rootID', hri, ⟨created, made⟩, hmk, _,
    ⟨_, _, rfl⟩, hsa⟩, started, hst, hsm⟩ := hr
  obtain ⟨rfl, rfl⟩ := Prod.mk.inj hsa
  obtain ⟨rfl, rfl⟩ := Prod.mk.inj hsm
  obtain rfl := Except.ok.inj (hrt.symm.trans hri)
  refine stampedAs_startRecords hi hst hm ?_
  obtain ⟨original, hic, hsi, hs⟩ := mem_persistedCell hm
  rw [StampedAs.congr hsi hs]
  intro record hf _
  have ha := hi.containerdIDs
  rw [persistedCell_containerdIDs] at ha
  have own : (created.spec.containers.find? fun spec =>
      spec.containerdID = original.containerdID) = some original :=
    Keyed.first_of_mem ha hic rfl
  rw [Records.lookup_ensured, Records.lookup_keep,
    if_neg (createCellContainers_fresh hmk original hic), own, Option.none_or, Option.map_some,
    Option.some.injEq] at hf
  rw [← hf]
  rfl

end Recreate

/-- The document of a cell as it reads back, and the containers of its namespace. -/
structure RecordedCell where
  cell : Cell
  records : Records

/-- An apply that changes the cell. The host is the one that the apply finds. -/
inductive ApplyStep where
  | update (host : ProvisionHost) (desired : Cell)
  | recreate (host : ProvisionHost) (desired : Cell)

section Runs

variable (digest : ContainerSpecHashPayload → String)

def ApplyStep.outcome (state : RecordedCell) : ApplyStep → Except LaunchError (Cell × Records)
  | .update host desired => updateRecords digest host state.records state.cell desired
  | .recreate host desired => recreateRecords digest host state.records state.cell desired

def applied (state : RecordedCell) (step : ApplyStep) : RecordedCell :=
  match step.outcome digest state with
  | .ok (stored, after) => { cell := persistedCell stored, records := after }
  | .error _ => state

structure Succeeds (state : RecordedCell) (step : ApplyStep) : Prop where
  succeeds : ∃ stored after, step.outcome digest state = .ok (stored, after)
  installed : Installed (applied digest state step).cell (applied digest state step).records
  new : ∀ host desired, step = .update host desired → NewIDs state.records state.cell desired

/-- The condition on an apply: one that updates in place changes no hash that it leaves in place. -/
def KeepsStamps (state : RecordedCell) (step : ApplyStep) : Prop :=
  ∀ host desired, step = .update host desired → ∀ space,
    host.getSpace state.cell.spec.realmName state.cell.spec.spaceName = .ok space →
      KeepsHashes digest space state.records state.cell desired

/-- An installed cell whose containers have the stamps of their specs, as a start leaves it. -/
structure InOrder (state : RecordedCell) : Prop where
  installed : Installed state.cell state.records
  stamped : ∀ container ∈ state.cell.spec.containers, StampedAs digest state.records container

variable {digest}

theorem applied_of_ok {state : RecordedCell} {step : ApplyStep} {stored : Cell} {after : Records}
    (ho : step.outcome digest state = .ok (stored, after)) :
    applied digest state step = { cell := persistedCell stored, records := after } := by
  simp [applied, ho]

theorem InOrder.updateSteps {state : RecordedCell} (hi : InOrder digest state)
    {host : ProvisionHost} {desired stored : Cell} {after : Records}
    (hu : updateRecords digest host state.records state.cell desired = .ok (stored, after)) :
    Nonempty (UpdateSteps digest host state.records state.cell desired stored after) := by
  obtain ⟨root, hm, hmr, hr, _⟩ := hi.installed.exists_root
  exact updateRecords_steps hi.installed.toDeployed hr
    (hi.installed.rooted root hm hmr) hu

theorem InOrder.step {state : RecordedCell} (hio : InOrder digest state) {step : ApplyStep}
    (hs : Succeeds digest state step) (hk : KeepsStamps digest state step) :
    InOrder digest (applied digest state step) := by
  obtain ⟨stored, after, ho⟩ := hs.succeeds
  have hi := hs.installed
  refine ⟨hi, ?_⟩
  rw [applied_of_ok ho] at hi ⊢
  intro container hm
  cases step with
  | recreate host desired => exact stampedAs_of_recreate hi ho hm
  | update host desired =>
    obtain ⟨steps⟩ := hio.updateSteps ho
    have ha := hi.containerdIDs
    rw [persistedCell_containerdIDs] at ha
    obtain ⟨original, his, hsi, hsp⟩ := mem_persistedCell hm
    rw [StampedAs.congr hsi hsp]
    exact steps.stampedAs_of_keepsHashes hio.installed.toDeployed ha
      (hs.new host desired rfl) hio.stamped
      (hk host desired rfl steps.space steps.foundSpace) his

theorem InOrder.not_drifts {state : RecordedCell} (hi : InOrder digest state) :
    ¬ Drifts digest state.cell state.records := by
  rw [drifts_iff hi.installed]
  rintro ⟨container, hm, hr⟩
  exact (hi.stamped container hm).not_refused hr

/-- Where an apply changes a stamp that it leaves in place, the next start is refused. -/
theorem InOrder.drifts (hn : ∀ payload, digest payload ≠ "") {state : RecordedCell}
    (hio : InOrder digest state) {step : ApplyStep} (hs : Succeeds digest state step)
    (hc : ¬ KeepsStamps digest state step) :
    Drifts digest (applied digest state step).cell (applied digest state step).records := by
  obtain ⟨stored, after, ho⟩ := hs.succeeds
  have hi := hs.installed
  rw [drifts_iff hi]
  simp only [KeepsStamps, not_forall] at hc
  obtain ⟨host, desired, rfl, space, hf, hc⟩ := hc
  rw [applied_of_ok ho] at hi ⊢
  obtain ⟨steps⟩ := hio.updateSteps ho
  obtain rfl := Except.ok.inj (hf.symm.trans steps.foundSpace)
  have ha := hi.containerdIDs
  rw [persistedCell_containerdIDs] at ha
  have hd : (desired.spec.containers.map ContainerSpec.id).Nodup := by
    have ids := hi.ids
    rw [persistedCell_ids, ← steps.stored_ids, List.map_append] at ids
    exact ids.of_append_right
  obtain ⟨original, his, hr⟩ := steps.refused_of_not_keepsHashes hn
    hio.installed.toDeployed hd ha hio.stamped hc
  obtain ⟨container, hm, hsi, hsp⟩ := exists_persistedCell his
  exact ⟨container, hm, (Refused.congr hsi hsp).mpr hr⟩

end Runs

theorem applies_never_drift_iff (digest : ContainerSpecHashPayload → String)
    (nonempty : ∀ payload, digest payload ≠ "") (first : RecordedCell) (inOrder : InOrder digest first)
    (steps : List ApplyStep)
    (succeed : Runs.Along (applied digest) (Succeeds digest) first steps) :
    (∀ done rest, steps = done ++ rest →
        ¬ Drifts digest (Runs.run (applied digest) first done).cell
          (Runs.run (applied digest) first done).records) ↔
      Runs.Along (applied digest) (KeepsStamps digest) first steps := by
  constructor
  · intro hn
    -- Every state on the way is in order, since the first one that is not is refused.
    have hr : ∀ done rest, steps = done ++ rest →
        InOrder digest (Runs.run (applied digest) first done) := by
      intro done
      induction done using List.reverseRecOn with
      | nil => exact fun _ _ => inOrder
      | append_singleton done step ih =>
        intro rest hsp
        have hsl : steps = done ++ step :: rest := by simpa using hsp
        have hb := ih _ hsl
        have now := hn _ rest hsp
        rw [Runs.run_concat] at now ⊢
        have hs := succeed done step rest hsl
        exact hb.step hs
          (Classical.byContradiction fun hc => now (hb.drifts nonempty hs hc))
    intro done step rest hsp
    have now := hn (done ++ [step]) rest (by simpa using hsp)
    rw [Runs.run_concat] at now
    exact Classical.byContradiction fun hc =>
      now ((hr done _ hsp).drifts nonempty (succeed done step rest hsp) hc)
  · intro hk done rest hsp
    have hbt : Runs.Along (applied digest)
        (fun state step => Succeeds digest state step ∧ KeepsStamps digest state step) first steps :=
      fun done step rest hsp => ⟨succeed done step rest hsp, hk done step rest hsp⟩
    exact (Runs.Along.invariant (fun state step hi ha =>
      hi.step ha.1 ha.2) inOrder hbt done rest hsp).not_drifts

/-! The cell of the last module, stamped, and two edits of its container. -/

def quayDigest (payload : ContainerSpecHashPayload) : String := "sha256:" ++ payload.user

def quayState : RecordedCell where
  cell := quayCell
  records :=
    [ ("s_t_quay_root", { stampedRecord quayDigest (quayContainer "root") with running := true }),
      ("s_t_quay_app", { stampedRecord quayDigest (quayContainer "app") with running := true }) ]

def quayEdit (edit : ContainerSpec → ContainerSpec) : ApplyStep :=
  .update quayHost { quayCell with spec.containers := [edit (quayContainer "app")] }

def quayEnvEdit : ApplyStep := quayEdit fun container => { container with env := ["LOG=1"] }

def quayUserEdit : ApplyStep := quayEdit fun container => { container with user := "1000" }

theorem quay_installed : Installed quayState.cell quayState.records := by
  refine ⟨quay_running.toDeployed, by decide +kernel, by decide +kernel, quayHost, ?_⟩
  have hs : (ensureCellRootContainerSpec quayHost quayState.cell).isOk = true := by
    decide +kernel
  cases hr : ensureCellRootContainerSpec quayHost quayState.cell with
  | error cause =>
    rw [hr] at hs
    cases hs
  | ok root => exact ⟨root, rfl⟩

theorem quay_inOrder : InOrder quayDigest quayState := by
  refine ⟨quay_installed, ?_⟩
  have hs : ∀ container ∈ quayState.cell.spec.containers,
      quayState.records.lookup container.containerdID =
        some { stampedRecord quayDigest container with running := true } := by decide +kernel
  intro container hm record hf _
  rw [hs container hm] at hf
  rw [← Option.some.inj hf]
  rfl

theorem quay_envEdit_succeeds : Succeeds quayDigest quayState quayEnvEdit := by
  refine ⟨?_, ⟨⟨by decide +kernel, by decide +kernel, by decide +kernel, by decide +kernel,
    by decide +kernel, by decide +kernel⟩, by decide +kernel, by decide +kernel, quayHost, ?_⟩, ?_⟩
  · have hs : (quayEnvEdit.outcome quayDigest quayState).isOk = true := by decide +kernel
    cases ho : quayEnvEdit.outcome quayDigest quayState with
    | error cause =>
      rw [ho] at hs
      cases hs
    | ok result => exact ⟨result.1, result.2, rfl⟩
  · have hs : (ensureCellRootContainerSpec quayHost
        (applied quayDigest quayState quayEnvEdit).cell).isOk = true := by decide +kernel
    cases hr : ensureCellRootContainerSpec quayHost
        (applied quayDigest quayState quayEnvEdit).cell with
    | error cause =>
      rw [hr] at hs
      cases hs
    | ok root => exact ⟨root, rfl⟩
  · rintro host desired hsm left _ wanted hm id
    cases hsm
    obtain rfl := List.mem_singleton.mp hm
    have hk : containerByID quayState.cell.spec.containers "app" = some (quayContainer "app") := by
      decide +kernel
    constructor
    · intro hu
      cases hk.symm.trans hu
    · intro actual hkn hc
      obtain rfl := Option.some.inj (hk.symm.trans hkn)
      cases hc

theorem applies_never_drift_env :
    ¬ Drifts quayDigest (applied quayDigest quayState quayEnvEdit).cell
      (applied quayDigest quayState quayEnvEdit).records := by
  have hs : Runs.Along (applied quayDigest) (Succeeds quayDigest) quayState [quayEnvEdit] :=
    .cons quay_envEdit_succeeds .nil
  have hk : Runs.Along (applied quayDigest) (KeepsStamps quayDigest) quayState [quayEnvEdit] := by
    refine .cons ?_ .nil
    intro host desired hsm space hf actual wanted hi _
    cases hsm
    obtain rfl := Except.ok.inj hf
    have hu : ∀ container ∈ quayCell.spec.containers, container.user = "" := by decide +kernel
    have hw : wanted.user = "" := by
      rcases hi with ⟨hp, rfl⟩ | ⟨hm, _⟩
      · exact hu wanted (preservedRoot_eq_some hp).1
      · obtain rfl := List.mem_singleton.mp hm
        rfl
    have ha : actual.user = "" := hu actual hi.mem
    change "sha256:" ++ wanted.user = "sha256:" ++ actual.user
    rw [hw, ha]
  have hn : ∀ payload, quayDigest payload ≠ "" := by simp [quayDigest]
  exact (applies_never_drift_iff quayDigest hn quayState quay_inOrder [quayEnvEdit]
    hs).mpr hk [quayEnvEdit] [] rfl

/-- An edit of the user is applied in place, and the cell cannot be started again. -/
theorem user_edit_drifts :
    InOrder quayDigest quayState ∧
      (Apply.diffCell
          { quayCell with spec.containers := [{ quayContainer "app" with user := "1000" }] }
          quayCell).changeType = .compatible ∧
      (quayUserEdit.outcome quayDigest quayState).isOk = true ∧
      startRecords quayDigest quayHost
          (stopRecords (applied quayDigest quayState quayUserEdit).cell
            (applied quayDigest quayState quayUserEdit).records)
          (applied quayDigest quayState quayUserEdit).cell =
        .error (.specHashDrift "s_t_quay_app") :=
  ⟨quay_inOrder, by decide +kernel, by decide +kernel, by decide +kernel⟩

end Kukeon.Runner
