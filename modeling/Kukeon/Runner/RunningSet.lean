import Kukeon.Apply.Diff
import Kukeon.Runner.Records

/-! # What runs after an update

`UpdateCell` starts the containers it recreated. Those it left in place run on, and those it dropped
are gone; a container that the document adds is created and stays without a task.
-/

namespace Kukeon.Runner

open ModelHub GoText

def Running (records : Records) (id : String) : Prop :=
  ∃ record, records.lookup id = some record ∧ record.running = true

instance (records : Records) (id : String) : Decidable (Running records id) :=
  decidable_of_iff ((records.lookup id).any (·.running) = true) (by simp [Running, Option.any_eq_true])

structure AllRunning (cell : Cell) (records : Records) : Prop extends Deployed cell where
  running : ∀ container ∈ cell.spec.containers, Running records container.containerdID

theorem AllRunning.there {cell : Cell} {records : Records} (hr : AllRunning cell records)
    {container : ContainerSpec} (hm : container ∈ cell.spec.containers) :
    container.containerdID ∈ records.ids := by
  obtain ⟨record, hf, _⟩ := hr.running container hm
  exact Records.mem_ids_iff.mpr ⟨record, hf⟩

section Starts

variable {digest : ContainerSpecHashPayload → String} {cell : Cell} {records after : Records}

theorem startContainerRecord_eq_ok {name : String}
    (hs : startContainerRecord digest cell records name = .ok after) :
    ∃ spec, (cell.spec.containers.find? fun spec => spec.id = trimSpace name) = some spec ∧
      launch digest records spec = .ok after := by
  unfold startContainerRecord at hs
  split at hs
  · cases hs
  · next spec hf =>
      split at hs
      · cases hs
      · split at hs
        · cases hs
        · exact ⟨spec, hf, hs⟩

/-- A loop of starts leaves the named containers running, and touches no other record. -/
theorem lookup_starts {names : List String}
    (hs : names.foldlM (startContainerRecord digest cell) records = .ok after) :
    (∀ id, Running records id → Running after id) ∧
      (∀ name ∈ names, ∀ spec,
        (cell.spec.containers.find? fun spec => spec.id = trimSpace name) = some spec →
          Running after spec.containerdID) ∧
      ∀ id, (∀ name ∈ names, ∀ spec,
        (cell.spec.containers.find? fun spec => spec.id = trimSpace name) = some spec →
          spec.containerdID ≠ id) → after.lookup id = records.lookup id := by
  induction names generalizing records with
  | nil =>
    cases hs
    exact ⟨fun _ => id, by simp, fun _ _ => rfl⟩
  | cons name rest ih =>
    simp only [List.foldlM_cons, Outcome.bind_eq_ok] at hs
    obtain ⟨between, hfr, hlt⟩ := hs
    obtain ⟨spec, hf, hl⟩ := startContainerRecord_eq_ok hfr
    obtain ⟨hrn, hot⟩ := Records.lookup_launch hl
    obtain ⟨hst, hn, ha⟩ := ih hlt
    refine ⟨?_, ?_, ?_⟩
    · intro id hr
      apply hst
      by_cases own : id = spec.containerdID
      · exact own ▸ hrn
      · rw [Running, hot id own]
        exact hr
    · intro other hm otherSpec ho
      rcases List.mem_cons.mp hm with rfl | hi
      · obtain rfl := Option.some.inj (hf.symm.trans ho)
        exact hst _ hrn
      · exact hn other hi otherSpec ho
    · intro id hu
      simp only [List.mem_cons, forall_eq_or_imp] at hu
      rw [ha id hu.2, hot id (hu.1 spec hf).symm]

end Starts

@[simp] theorem withDefaults_id (space : Space) (nested : Bool) (container : ContainerSpec) :
    (withDefaults space nested container).id = container.id := by
  unfold withDefaults applySpaceDefaultsToContainer
  split <;> rfl

@[simp] theorem withDefaults_containerdID (space : Space) (nested : Bool)
    (container : ContainerSpec) :
    (withDefaults space nested container).containerdID = container.containerdID := by
  unfold withDefaults applySpaceDefaultsToContainer
  split <;> rfl

/-- The id that a container of the document gets when it has none. -/
def builtID (existing : Cell) (wanted : ContainerSpec) : Except ProvisionError String :=
  ownContainerdID (ownedBy (cellNames existing) "" "" (adopted existing wanted))

theorem builtID_blank (existing : Cell) (wanted : ContainerSpec) :
    ownContainerdID (ownedBy (cellNames existing) "" ""
      (adopted existing { wanted with containerdID := "" })) = builtID existing wanted :=
  ownContainerdID_congr rfl rfl rfl rfl

theorem ownContainerdID_withDefaults (space : Space) (nested : Bool) (names : CellNames)
    (path cgroup : String) (container : ContainerSpec) :
    ownContainerdID (ownedBy names path cgroup (withDefaults space nested container)) =
      ownContainerdID (ownedBy names "" "" container) := by
  unfold withDefaults applySpaceDefaultsToContainer
  split
  · exact ownContainerdID_congr rfl rfl rfl rfl
  · exact ownContainerdID_congr rfl rfl rfl rfl

theorem UpdatedFrom.id {existing : Cell} {wanted merged : ContainerSpec}
    (hf : UpdatedFrom existing wanted merged) : merged.id = wanted.id := by
  cases hf <;> rfl

namespace UpdateSteps

variable {digest : ContainerSpecHashPayload → String} {host : ProvisionHost}
  {records after : Records} {existing desired stored : Cell}
  (steps : UpdateSteps digest host records existing desired stored after)

def Stores (merged container : ContainerSpec) : Prop :=
  steps.complete (withDefaults steps.space existing.spec.nestedCgroupRuntime merged) = .ok container

variable {steps}

variable {merged container : ContainerSpec}

theorem Stores.id (hs : steps.Stores merged container) : container.id = merged.id := by
  simpa using (steps.builds _ _ hs).id

theorem Stores.containerdID (hs : steps.Stores merged container)
    (hg : merged.containerdID ≠ "") : container.containerdID = merged.containerdID := by
  simpa using (steps.builds _ _ hs).containerdID (by simpa using hg)

theorem Stores.assigned (hs : steps.Stores merged container) (hb : merged.containerdID = "") :
    ownContainerdID (ownedBy (cellNames existing) "" "" merged) = .ok container.containerdID := by
  have ha := (steps.builds _ _ hs).assigned (by simpa using hb)
  rwa [if_neg (by simp), ownContainerdID_withDefaults] at ha

/-- An added container keeps the id that the document gives it, or gets the one that is built. -/
theorem Stores.added_id {wanted container : ContainerSpec}
    (hs : steps.Stores (adopted existing wanted) container) :
    (if wanted.containerdID ≠ "" then .ok wanted.containerdID else builtID existing wanted) =
      Except.ok container.containerdID := by
  split
  · next hg =>
      rw [hs.containerdID hg]
      rfl
  · next hb => exact hs.assigned (not_not.mp hb)

variable (steps)

/-- A stored container is the root that the update kept, or comes from a container of the document. -/
theorem stored_cases {container : ContainerSpec} (hm : container ∈ stored.spec.containers) :
    ∃ merged, steps.Stores merged container ∧
      (preservedRoot existing desired = some merged ∨
        ∃ wanted ∈ desired.spec.containers, UpdatedFrom existing wanted merged) := by
  obtain ⟨defaulted, hi, hc⟩ :=
    Outcome.exists_left_of_forall₂ steps.completes hm
  obtain ⟨merged, him, rfl⟩ := List.mem_map.mp hi
  refine ⟨merged, hc, ?_⟩
  rcases List.mem_append.mp him with hr | hu
  · exact .inl (by simpa using hr)
  · obtain ⟨wanted, hid, hf⟩ := Outcome.exists_left_of_forall₂ steps.related hu
    exact .inr ⟨wanted, hid, hf⟩

theorem exists_stored {merged : ContainerSpec}
    (hm : merged ∈ (preservedRoot existing desired).toList ++ steps.updated) :
    ∃ container ∈ stored.spec.containers, steps.Stores merged container := by
  have hi : withDefaults steps.space existing.spec.nestedCgroupRuntime merged ∈
      (withSpaceDefaults steps.space (mergedCell existing desired steps.updated)).spec.containers :=
    List.mem_map_of_mem hm
  obtain ⟨container, his, hc⟩ :=
    Outcome.exists_right_of_forall₂ steps.completes hi
  exact ⟨container, his, hc⟩

theorem exists_stored_of_mem {wanted : ContainerSpec} (hm : wanted ∈ desired.spec.containers) :
    ∃ merged, UpdatedFrom existing wanted merged ∧
      ∃ container ∈ stored.spec.containers, steps.Stores merged container := by
  obtain ⟨merged, hi, hf⟩ := Outcome.exists_right_of_forall₂ steps.related hm
  exact ⟨merged, hf, steps.exists_stored (List.mem_append_right _ hi)⟩

include steps in
/-- The stored containers are named as the kept root and the containers of the document. -/
theorem stored_ids :
    ((preservedRoot existing desired).toList ++ desired.spec.containers).map ContainerSpec.id =
      stored.spec.containers.map ContainerSpec.id := by
  have hu : desired.spec.containers.map ContainerSpec.id =
      steps.updated.map ContainerSpec.id := by
    rw [← List.forall₂_eq_eq_eq, List.forall₂_map_left_iff, List.forall₂_map_right_iff]
    exact steps.related.imp fun _ _ hf => hf.id.symm
  have hs : ((preservedRoot existing desired).toList ++ steps.updated).map ContainerSpec.id =
      stored.spec.containers.map ContainerSpec.id := by
    rw [← List.forall₂_eq_eq_eq, List.forall₂_map_left_iff, List.forall₂_map_right_iff]
    have hc := steps.completes
    rw [withSpaceDefaults, List.forall₂_map_left_iff] at hc
    refine hc.imp ?_
    intro merged container hcm
    have hs : steps.Stores merged container := hcm
    exact hs.id.symm
  rw [← hs, List.map_append, List.map_append, hu]

/-- The record of an id once the containers are there and before any is started. -/
theorem lookup_ensured (id : String) :
    (stored.spec.containers.foldl (ensureRecord digest) (records.keep steps.left)).lookup id =
      (if id ∈ steps.left then records.lookup id else none).or
        ((stored.spec.containers.find? fun spec => spec.containerdID = id).map
          (stampedRecord digest)) := by
  rw [Records.lookup_ensured, Records.lookup_keep]

theorem running_of_left {id : String} (hr : Running records id) (hl : id ∈ steps.left) :
    Running after id := by
  apply (lookup_starts steps.starts).1
  obtain ⟨record, hf, hrn⟩ := hr
  exact ⟨record, by simp [steps.lookup_ensured, hl, hf], hrn⟩

end UpdateSteps

section Update

variable {digest : ContainerSpecHashPayload → String} {host : ProvisionHost}
  {records after : Records} {existing desired stored : Cell}
  (steps : UpdateSteps digest host records existing desired stored after)

theorem preservedRoot_eq_some {root : ContainerSpec}
    (hp : preservedRoot existing desired = some root) :
    root ∈ existing.spec.containers ∧ root.root = true := by
  unfold preservedRoot at hp
  split at hp
  · cases hp
  · exact ⟨List.mem_of_find?_eq_some hp, by simpa using List.find?_some hp⟩

variable {container : ContainerSpec}

theorem UpdateSteps.mem_left (hd : Deployed existing)
    (hm : container ∈ existing.spec.containers) (ht : container.containerdID ∈ records.ids)
    (hkp : ¬ Orphan existing desired container)
    (hu : ¬ Recreated existing desired container) : container.containerdID ∈ steps.left := by
  refine (mem_remaining hd steps.leaves).mpr ⟨ht, ?_, ?_⟩
  · rintro other ho hs
    obtain rfl := List.inj_on_of_nodup_map hd.containerdIDs hm ho.1 hs
    exact hkp ho
  · rintro other ⟨wanted, hi, hk, hc⟩ hs
    obtain rfl :=
      List.inj_on_of_nodup_map hd.containerdIDs hm (containerByID_eq_some hk).1 hs
    exact hu ⟨wanted, hi, hk, hc⟩

theorem UpdateSteps.find_recreated (hd : Deployed existing)
    (hds : (desired.spec.containers.map ContainerSpec.id).Nodup)
    {wanted actual : ContainerSpec} (hm : wanted ∈ desired.spec.containers)
    (hk : containerByID existing.spec.containers wanted.id = some actual)
    (hc : containerSpecChanged wanted actual = true)
    (hf : (stored.spec.containers.find? fun spec => spec.id = trimSpace wanted.id) =
      some container) : steps.Stores (adopted existing { wanted with containerdID := "" }) container := by
  obtain ⟨hi, hsi, _⟩ := containerByID_eq_some hk
  have hch : actual.root = false := child_of_recreated steps.related ⟨wanted, hm, hk, hc⟩
  have hn : container.id = wanted.id := by
    have hn : container.id = trimSpace wanted.id := by simpa using List.find?_some hf
    rw [hn, ← hsi, hd.trimmed actual hi]
  obtain ⟨merged, hs, hp | ⟨other, hid, hfr⟩⟩ :=
    steps.stored_cases (List.mem_of_find?_eq_some hf)
  · obtain ⟨hic, hir⟩ := preservedRoot_eq_some hp
    have hsm : merged.id = actual.id := by rw [← hs.id, hn, hsi]
    obtain rfl := List.inj_on_of_nodup_map hd.ids hic hi hsm
    cases hir.symm.trans hch
  · have hsm : other.id = wanted.id := by rw [← hfr.id, ← hs.id, hn]
    obtain rfl := List.inj_on_of_nodup_map hds hid hm hsm
    cases hfr with
    | added hun => cases hun.symm.trans hk
    | recreated _ _ _ => exact hs
    | kept hkn hu =>
      obtain rfl := Option.some.inj (hk.symm.trans hkn)
      cases hc.symm.trans hu

theorem mem_recreatedIDs {name : String} :
    name ∈ recreatedIDs existing desired ↔
      ∃ wanted ∈ desired.spec.containers, wanted.id = name ∧
        ∃ actual, containerByID existing.spec.containers wanted.id = some actual ∧
          containerSpecChanged wanted actual = true := by
  simp only [recreatedIDs, List.mem_map, List.mem_filter]
  constructor
  · rintro ⟨wanted, ⟨hm, hc⟩, rfl⟩
    cases hk : containerByID existing.spec.containers wanted.id with
    | none => simp [hk] at hc
    | some actual => exact ⟨wanted, hm, rfl, actual, hk, by simpa [hk] using hc⟩
  · rintro ⟨wanted, hm, rfl, actual, hk, hc⟩
    exact ⟨wanted, ⟨hm, by simpa [hk] using hc⟩, rfl⟩

/-- The containers of a running cell that the document still has run after the update. -/
theorem UpdateSteps.running_of_known (hrn : AllRunning existing records)
    (hd : (desired.spec.containers.map ContainerSpec.id).Nodup)
    {container merged : ContainerSpec} (hm : container ∈ stored.spec.containers)
    (hst : steps.Stores merged container)
    (ho : preservedRoot existing desired = some merged ∨
      ∃ wanted ∈ desired.spec.containers, UpdatedFrom existing wanted merged ∧
        (containerByID existing.spec.containers wanted.id).isSome) :
    Running after container.containerdID := by
  rcases ho with hp | ⟨wanted, hid, hfr, hk⟩
  · obtain ⟨hic, hir⟩ := preservedRoot_eq_some hp
    rw [hst.containerdID (hrn.given merged hic)]
    refine steps.running_of_left (hrn.running merged hic)
      (steps.mem_left hrn.toDeployed hic (hrn.there hic) ?_ ?_)
    · rintro ⟨_, hch, _⟩
      cases hir.symm.trans hch
    · intro hr
      cases hir.symm.trans (child_of_recreated steps.related hr)
  · cases hfr with
    | added hun => simp [hun] at hk
    | @recreated actual hk hc _ =>
      obtain ⟨hi, hs, _⟩ := containerByID_eq_some hk
      cases hf : stored.spec.containers.find? fun spec => spec.id = trimSpace wanted.id with
      | none =>
        have hnm : container.id = trimSpace wanted.id := by
          rw [← hs, hrn.trimmed actual hi, hs, hst.id]
          rfl
        have huf := List.find?_eq_none.mp hf container hm
        simp [hnm] at huf
      | some other =>
        have hsm : other = container :=
          Except.ok.inj
            ((steps.find_recreated hrn.toDeployed hd hid hk hc hf).symm.trans hst)
        subst hsm
        exact (lookup_starts steps.starts).2.1 wanted.id
          (mem_recreatedIDs.mpr ⟨wanted, hid, rfl, actual, hk, hc⟩) other hf
    | @kept actual hk hu =>
      obtain ⟨hi, hs, hn⟩ := containerByID_eq_some hk
      have hsc : container.containerdID = actual.containerdID :=
        hst.containerdID (hrn.given actual hi)
      rw [hsc]
      refine steps.running_of_left (hrn.running actual hi)
        (steps.mem_left hrn.toDeployed hi (hrn.there hi) ?_ ?_)
      · rintro ⟨_, _, hdr⟩
        rw [hs] at hdr
        exact (containerByID_eq_none hn).mp hdr wanted hid rfl
      · rintro ⟨other, hin, hkn, hc⟩
        have hsm : other.id = wanted.id := by rw [← (containerByID_eq_some hkn).2.1, hs]
        obtain rfl := List.inj_on_of_nodup_map hd hin hid hsm
        cases hc.symm.trans hu

include steps in
/-- A container of the old cell whose containerd id is stored no more is gone. -/
theorem UpdateSteps.removed_of_not_stored (hr : AllRunning existing records)
    (hm : container ∈ existing.spec.containers) (hch : container.root = false)
    (hu : ∀ other ∈ stored.spec.containers, other.containerdID ≠ container.containerdID) :
    container.containerdID ∉ after.ids := by
  have hg : container.containerdID ∉ steps.left := by
    intro hl
    obtain ⟨_, hno, hn⟩ := (mem_remaining hr.toDeployed steps.leaves).mp hl
    cases hf : containerByID desired.spec.containers container.id with
    | none => exact hno container ⟨hm, hch, hf⟩ rfl
    | some wanted =>
      obtain ⟨hid, hs, _⟩ := containerByID_eq_some hf
      have hk : containerByID existing.spec.containers wanted.id = some container := by
        rw [hs]
        exact hr.containerByID_of_mem hm
      obtain ⟨merged, hfr, other, hi, hst⟩ := steps.exists_stored_of_mem hid
      cases hfr with
      | added huk => cases huk.symm.trans hk
      | recreated hkn hc _ =>
        obtain rfl := Option.some.inj (hk.symm.trans hkn)
        exact hn container ⟨wanted, hid, hk, hc⟩ rfl
      | kept hkn _ =>
        obtain rfl := Option.some.inj (hk.symm.trans hkn)
        exact hu other hi (hst.containerdID (hr.given container hm))
  have hum : stored.spec.containers.find?
      (fun spec => spec.containerdID = container.containerdID) = none := by
    rw [List.find?_eq_none]
    intro other hi
    simpa using hu other hi
  have hun : after.lookup container.containerdID = none := by
    rw [(lookup_starts steps.starts).2.2 container.containerdID
      fun _ _ spec hf => hu spec (List.mem_of_find?_eq_some hf), steps.lookup_ensured]
    simp [hg, hum]
  intro ht
  obtain ⟨record, hf⟩ := Records.mem_ids_iff.mp ht
  cases hun.symm.trans hf

/-- Every container that the document adds comes under an id of its own. -/
def FreshIDs (records : Records) (existing desired : Cell) : Prop :=
  ∀ wanted ∈ desired.spec.containers, containerByID existing.spec.containers wanted.id = none →
    ∀ id, (if wanted.containerdID ≠ "" then .ok wanted.containerdID
      else builtID existing wanted) = .ok id →
    id ∉ records.ids ∧
      ∀ other ∈ desired.spec.containers, other.id ≠ wanted.id → builtID existing other ≠ .ok id

/-- A container that the document adds is created and not started. -/
theorem UpdateSteps.not_running_of_added (hr : AllRunning existing records)
    (hd : (desired.spec.containers.map ContainerSpec.id).Nodup)
    (hfr : FreshIDs records existing desired) {wanted container : ContainerSpec}
    (hm : wanted ∈ desired.spec.containers)
    (hu : containerByID existing.spec.containers wanted.id = none)
    (hst : steps.Stores (adopted existing wanted) container) :
    ¬ Running after container.containerdID := by
  obtain ⟨hus, hap⟩ := hfr wanted hm hu _ hst.added_id
  have ha : container.containerdID ∉ steps.left := fun hl =>
    hus ((mem_remaining hr.toDeployed steps.leaves).mp hl).1
  have hun : after.lookup container.containerdID =
      (stored.spec.containers.foldl (ensureRecord digest) (records.keep steps.left)).lookup
        container.containerdID := by
    refine (lookup_starts steps.starts).2.2 container.containerdID ?_
    rintro name hs spec hf hsm
    obtain ⟨other, hi, rfl, actual, hk, hc⟩ := mem_recreatedIDs.mp hs
    have hb := (steps.find_recreated hr.toDeployed hd hi hk hc hf).assigned rfl
    rw [builtID_blank, hsm] at hb
    have hdf : other.id ≠ wanted.id := by
      intro hsi
      rw [hsi, hu] at hk
      cases hk
    exact hap other hi hdf hb
  rintro ⟨record, hf, hir⟩
  rw [hun, steps.lookup_ensured, if_neg ha, Option.none_or, Option.map_eq_some_iff] at hf
  obtain ⟨first, _, rfl⟩ := hf
  cases hir

end Update

/-- After an update the containers of the document and the root run, and nothing else that the cell
    had is left. -/
structure RunsAsDesired (existing desired stored : Cell) (after : Records) : Prop where
  containers : ((preservedRoot existing desired).toList ++ desired.spec.containers).map
    ContainerSpec.id = stored.spec.containers.map ContainerSpec.id
  running : ∀ container ∈ stored.spec.containers, Running after container.containerdID
  removed : ∀ container ∈ existing.spec.containers, container.root = false →
    (∀ other ∈ stored.spec.containers, other.containerdID ≠ container.containerdID) →
      container.containerdID ∉ after.ids

theorem runs_as_desired_iff (digest : ContainerSpecHashPayload → String) (host : ProvisionHost)
    (records after : Records) (existing desired stored : Cell) (runs : AllRunning existing records)
    (distinct : (desired.spec.containers.map ContainerSpec.id).Nodup)
    (fresh : FreshIDs records existing desired)
    (updates : updateRecords digest host records existing desired = .ok (stored, after)) :
    RunsAsDesired existing desired stored after ↔
      ∀ wanted ∈ desired.spec.containers,
        (containerByID existing.spec.containers wanted.id).isSome := by
  obtain ⟨root, hic, _, hr⟩ := runs.root
  obtain ⟨steps⟩ := updateRecords_steps runs.toDeployed hr (runs.there hic) updates
  constructor
  · intro hp wanted hm
    obtain ⟨merged, hf, container, hi, hs⟩ := steps.exists_stored_of_mem hm
    cases hf with
    | added hu =>
      exact absurd (hp.running container hi)
        (steps.not_running_of_added runs distinct fresh hm hu hs)
    | recreated hk _ _ => simp [hk]
    | kept hk _ => simp [hk]
  · intro hk
    refine ⟨steps.stored_ids, ?_, ?_⟩
    · intro container hi
      obtain ⟨merged, hs, ho⟩ := steps.stored_cases hi
      refine steps.running_of_known runs distinct hi hs (ho.imp id ?_)
      rintro ⟨wanted, hm, hf⟩
      exact ⟨wanted, hm, hf, hk wanted hm⟩
    · intro container hm hc
      exact steps.removed_of_not_stored runs hm hc

/-! A cell with one container beside its root, and two edits of its document. -/

def quayHost : ProvisionHost where
  getSpace _ _ := .ok {}
  spaceNetworkConfigPath _ _ := .ok "/opt/kukeon/s/network.conflist"
  kukepauseHostPath := "/opt/kukeon/bin/kukepause"
  cellEtcHostnamePath _ _ _ _ := "/opt/kukeon/etc/hostname"
  cellEtcHostsPath _ _ _ _ := "/opt/kukeon/etc/hosts"

def quayContainer (id : String) : ContainerSpec :=
  { id := id, containerdID := "s_t_quay_" ++ id, image := "busybox" }

def quayCell : Cell :=
  { metadata.name := "quay"
    spec.id := "quay"
    spec.realmName := "r"
    spec.spaceName := "s"
    spec.stackName := "t"
    spec.rootContainerID := "root"
    spec.containers := [{ quayContainer "root" with root := true }, quayContainer "app"] }

def quayRecords : Records :=
  [("s_t_quay_root", { running := true }), ("s_t_quay_app", { running := true })]

def quayRebuilt : Cell :=
  { quayCell with spec.containers := [{ quayContainer "app" with image := "nginx" }] }

def quayExtended : Cell :=
  { quayCell with
    spec.containers := [quayContainer "app", { quayContainer "side" with containerdID := "" }] }

theorem quay_running : AllRunning quayCell quayRecords := by
  refine ⟨⟨by decide +kernel, by decide +kernel, by decide +kernel, by decide +kernel,
    by decide +kernel, ?_⟩, by decide +kernel⟩
  exact ⟨{ quayContainer "root" with root := true }, by simp [quayCell], rfl, by decide +kernel⟩

theorem runs_as_desired_rebuilt :
    ∃ stored after,
      updateRecords (fun payload => payload.image) quayHost quayRecords quayCell quayRebuilt =
        .ok (stored, after) ∧
      RunsAsDesired quayCell quayRebuilt stored after := by
  have hk : ∀ wanted ∈ quayRebuilt.spec.containers,
      (containerByID quayCell.spec.containers wanted.id).isSome := by decide +kernel
  have hf : FreshIDs quayRecords quayCell quayRebuilt := by
    intro wanted hm hun
    have ht := hk wanted hm
    rw [hun] at ht
    cases ht
  have hs : (updateRecords (fun payload => payload.image) quayHost quayRecords quayCell
      quayRebuilt).isOk = true := by decide +kernel
  cases hu : updateRecords (fun payload => payload.image) quayHost quayRecords quayCell
      quayRebuilt with
  | error cause =>
    rw [hu] at hs
    cases hs
  | ok result =>
    exact ⟨result.1, result.2, rfl,
      (runs_as_desired_iff (fun payload => payload.image) quayHost quayRecords result.2 quayCell
        quayRebuilt result.1 quay_running (by decide +kernel) hf hu).mpr hk⟩

/-- The added container is created, stored and left without a task. -/
theorem added_container_not_started :
    AllRunning quayCell quayRecords ∧
      (Apply.diffCell quayExtended quayCell).hasChanges = true ∧
      (Apply.diffCell quayExtended quayCell).changeType ≠ .breaking ∧
      ∃ stored after,
        updateRecords (fun payload => payload.image) quayHost quayRecords quayCell quayExtended =
          .ok (stored, after) ∧
        ¬ RunsAsDesired quayCell quayExtended stored after := by
  refine ⟨quay_running, by decide +kernel, by decide +kernel, ?_⟩
  have result : (updateRecords (fun payload => payload.image) quayHost quayRecords quayCell
      quayExtended).map (fun result => decide (∀ container ∈ result.1.spec.containers,
        Running result.2 container.containerdID)) = .ok false := by decide +kernel
  cases hu : updateRecords (fun payload => payload.image) quayHost quayRecords quayCell
      quayExtended with
  | error cause =>
    rw [hu] at result
    cases result
  | ok result' =>
    rw [hu] at result
    exact ⟨result'.1, result'.2, rfl,
      fun hp => of_decide_eq_false (Except.ok.inj result) hp.running⟩

end Kukeon.Runner
