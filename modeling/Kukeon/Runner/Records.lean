import Kukeon.Runner.CellWrites

/-! # What containerd keeps of a container

A container is created with a stamp of the spec it was created from (`internal/controller/runner/
spec_hash.go`) and runs once its task was started. Here the namespace of a realm is a list of such
records, and `UpdateCell` and `StartCell` say what becomes of them. The ids of the records are the
namespace that the write paths of a cell work on.
-/

namespace Kukeon.Runner

open ModelHub GoText

structure VolumeHashPayload where
  kind : VolumeKind
  source : String
  target : String
  readOnly : Bool
  sizeBytes : Int
  mode : Nat
  deriving DecidableEq

structure ResourcesHashPayload where
  memoryLimitBytes : Int := 0
  cpuShares : Int := 0
  pidsLimit : Int := 0
  deriving DecidableEq

structure ContainerSpecHashPayload where
  image : String
  command : String
  args : List String
  workingDir : String
  privileged : Bool
  user : String
  readOnlyRootFilesystem : Bool
  capabilities : ContainerCapabilities
  securityOpts : List String
  devices : List String
  tmpfs : List ContainerTmpfsMount
  resources : ResourcesHashPayload
  volumes : List VolumeHashPayload
  secrets : List ContainerSecret
  deriving DecidableEq

def projectVolume (mount : VolumeMount) : VolumeHashPayload where
  kind := mount.kind
  source := mount.source
  target := mount.target
  readOnly := mount.readOnly
  sizeBytes := mount.sizeBytes
  mode := mount.mode

def projectResources : Option ContainerResources → ResourcesHashPayload
  | none => {}
  | some resources =>
    { memoryLimitBytes := resources.memoryLimitBytes.getD 0
      cpuShares := resources.cpuShares.getD 0
      pidsLimit := resources.pidsLimit.getD 0 }

def specHashPayload (spec : ContainerSpec) : ContainerSpecHashPayload where
  image := spec.image
  command := spec.command
  args := spec.args
  workingDir := spec.workingDir
  privileged := spec.privileged
  user := spec.user
  readOnlyRootFilesystem := spec.readOnlyRootFilesystem
  capabilities := spec.capabilities.getD {}
  securityOpts := spec.securityOpts
  devices := spec.devices
  tmpfs := spec.tmpfs
  resources := projectResources spec.resources
  volumes := spec.volumes.map projectVolume
  secrets := spec.secrets

def specHashDomainVersion : String := "4"

/-- What the namespace keeps of a container: the two labels of its stamp, empty when they are
    missing, and whether its task runs. -/
structure ContainerRecord where
  specHash : String := ""
  specHashVersion : String := ""
  running : Bool := false
  deriving DecidableEq

inductive SpecHashReuseAction where
  | reuseAsIs
  | restamp
  | refuse
  deriving DecidableEq

def classifySpecHashReuse (record : ContainerRecord) (desiredHash : String) :
    SpecHashReuseAction :=
  if record.specHashVersion ≠ specHashDomainVersion then .restamp
  else if record.specHash ≠ "" ∧ record.specHash ≠ desiredHash then .refuse
  else .reuseAsIs

abbrev Records := List (String × ContainerRecord)

inductive LaunchError where
  | write (cause : CellWriteError)
  | containerNotFound (id : String)
  | rootContainer (id : String)
  | emptyContainerdID (id : String)
  /-- `ErrCellSpecHashDrift`. -/
  | specHashDrift (containerdID : String)
  deriving DecidableEq

namespace Records

def ids (records : Records) : List String := records.map Prod.fst

def keep (records : Records) (live : List String) : Records :=
  records.filter fun entry => entry.1 ∈ live

end Records

section Stamps

-- The hex digest of a payload in JSON.
variable (digest : ContainerSpecHashPayload → String)

def computeContainerSpecHash (spec : ContainerSpec) : String := digest (specHashPayload spec)

def stampedRecord (spec : ContainerSpec) : ContainerRecord where
  specHash := computeContainerSpecHash digest spec
  specHashVersion := specHashDomainVersion

/-- A container that the namespace has is left alone, another one is created. -/
def ensureRecord (records : Records) (spec : ContainerSpec) : Records :=
  if spec.containerdID ∈ records.ids then records
  else (spec.containerdID, stampedRecord digest spec) :: records

/-- The record of a container whose task was started again under the current stamp. -/
def launched (spec : ContainerSpec) (record : ContainerRecord) : ContainerRecord :=
  match classifySpecHashReuse record (computeContainerSpecHash digest spec) with
  | .restamp => { stampedRecord digest spec with running := true }
  | _ => { record with running := true }

/-- A container that is there is reused if its stamp allows it; a missing one is created. -/
def launch (records : Records) (spec : ContainerSpec) : Except LaunchError Records :=
  match records.lookup spec.containerdID with
  | none =>
    .ok ((spec.containerdID, { stampedRecord digest spec with running := true }) :: records)
  | some record =>
    if classifySpecHashReuse record (computeContainerSpecHash digest spec) = .refuse then
      .error (.specHashDrift spec.containerdID)
    else
      .ok (records.map fun entry =>
        if entry.1 = spec.containerdID then (entry.1, launched digest spec entry.2) else entry)

/-- `StartContainer`, in a cell whose root container is up. -/
def startContainerRecord (cell : Cell) (records : Records) (id : String) :
    Except LaunchError Records :=
  match cell.spec.containers.find? fun spec => spec.id = trimSpace id with
  | none => .error (.containerNotFound id)
  | some spec =>
    if spec.root then .error (.rootContainer id)
    else if spec.containerdID = "" then .error (.emptyContainerdID id)
    else launch digest records spec

/-- The namespace once `UpdateCell` has removed the containers it drops and those it recreates. -/
def remaining (existing desired : Cell) (live : List String) :
    Except CellWriteError (List String) := do
  let left ← removeOrphans existing desired live
  let (_, left) ← updatedContainers existing left desired.spec.containers
  return left

/-- The containers that `UpdateCell` recreates and starts. -/
def recreatedIDs (existing desired : Cell) : List String :=
  (desired.spec.containers.filter fun container =>
    ((containerByID existing.spec.containers container.id).map
      (containerSpecChanged container)).getD false).map ContainerSpec.id

/-- The root that `ensureCellContainers` creates ahead of the others when it is missing. -/
def restoredRoot (cell : Cell) (left : List String) : List ContainerSpec :=
  match rootContainerdID (cellNames cell) with
  | .error _ => []
  | .ok rootID =>
    if rootID ∈ left then []
    else (cell.spec.containers.find? fun spec => spec.id = cell.spec.rootContainerID).toList

/-- `UpdateCell` with the records: what it recreated is started at the end, what it added is not. -/
def updateRecords (host : ProvisionHost) (records : Records) (existing desired : Cell) :
    Except LaunchError (Cell × Records) := do
  let (stored, _) ← (updateCell host records.ids existing desired).mapError .write
  let left ← (remaining existing desired records.ids).mapError .write
  let ensured := (restoredRoot stored left ++ stored.spec.containers).foldl (ensureRecord digest)
    (records.keep left)
  let started ← (recreatedIDs existing desired).foldlM (startContainerRecord digest stored) ensured
  return (stored, started)

end Stamps

namespace Records

variable {records : Records} {id : String}

theorem mem_ids_iff : id ∈ records.ids ↔ ∃ record, records.lookup id = some record := by
  rw [← Option.isSome_iff_exists]
  induction records with
  | nil => simp [ids]
  | cons entry rest ih =>
    obtain ⟨key, record⟩ := entry
    by_cases hs : id = key
    · simp [ids, hs]
    · have hd : (id == key) = false := by simpa using hs
      have hr : id ∈ List.map Prod.fst rest ↔ (List.lookup id rest).isSome := ih
      simp [ids, List.lookup_cons, hs, hd, hr]

theorem lookup_keep (records : Records) (live : List String) (id : String) :
    (records.keep live).lookup id = if id ∈ live then records.lookup id else none := by
  induction records with
  | nil => simp [keep]
  | cons entry rest ih =>
    obtain ⟨key, record⟩ := entry
    have hl : List.lookup id (List.filter (fun entry => entry.1 ∈ live) rest) =
        if id ∈ live then List.lookup id rest else none := ih
    by_cases hs : id = key
    · subst hs
      by_cases left : id ∈ live
      · simp [keep, left]
      · simp [keep, left, hl]
    · have hd : (id == key) = false := by simpa using hs
      by_cases left : key ∈ live
      · simp [keep, List.lookup_cons, left, hd, hl]
      · simp [keep, List.lookup_cons, left, hd, hl]

variable {digest : ContainerSpecHashPayload → String}

theorem lookup_ensureRecord (records : Records) (spec : ContainerSpec) (id : String) :
    (ensureRecord digest records spec).lookup id =
      (records.lookup id).or
        (if spec.containerdID = id then some (stampedRecord digest spec) else none) := by
  unfold ensureRecord
  split
  · next ht =>
      obtain ⟨record, hf⟩ := mem_ids_iff.mp ht
      by_cases hs : spec.containerdID = id
      · simp [← hs, hf]
      · simp [hs]
  · next hm =>
      have ha : records.lookup spec.containerdID = none := by
        rw [Option.eq_none_iff_forall_ne_some]
        intro record hf
        exact hm (mem_ids_iff.mpr ⟨record, hf⟩)
      by_cases hs : spec.containerdID = id
      · subst hs
        simp [ha]
      · have hd : (id == spec.containerdID) = false := by simpa using Ne.symm hs
        simp [List.lookup_cons, hd, hs]

/-- A record that is there stays; a missing one is that of the first container with its id. -/
theorem lookup_ensured (specs : List ContainerSpec) (records : Records) (id : String) :
    (specs.foldl (ensureRecord digest) records).lookup id =
      (records.lookup id).or
        ((specs.find? fun spec => spec.containerdID = id).map (stampedRecord digest)) := by
  induction specs generalizing records with
  | nil => simp
  | cons spec rest ih =>
    rw [List.foldl_cons, ih, lookup_ensureRecord, List.find?_cons]
    by_cases hs : spec.containerdID = id
    · simp [hs]
    · simp [hs]

theorem lookup_map_own {own : String} {f : ContainerRecord → ContainerRecord} (records : Records)
    (id : String) :
    List.lookup id (records.map fun entry => if entry.1 = own then (entry.1, f entry.2) else entry) =
      (records.lookup id).map fun record => if id = own then f record else record := by
  induction records with
  | nil => rfl
  | cons entry rest ih =>
    obtain ⟨key, record⟩ := entry
    by_cases hs : id = key
    · subst hs
      by_cases hi : id = own
      · simp [hi]
      · simp [hi]
    · have hd : (id == key) = false := by simpa using hs
      by_cases hi : key = own
      · simp [List.lookup_cons, hi ▸ hd, hi, ih]
      · simp [List.lookup_cons, hd, hi, ih]

/-- A launch changes the record of its own container only, which then runs. -/
theorem lookup_launch {spec : ContainerSpec} {after : Records}
    (hs : launch digest records spec = .ok after) :
    (∃ record, after.lookup spec.containerdID = some record ∧ record.running = true) ∧
      ∀ id, id ≠ spec.containerdID → after.lookup id = records.lookup id := by
  unfold launch at hs
  split at hs
  · obtain rfl := Except.ok.inj hs
    refine ⟨⟨{ stampedRecord digest spec with running := true }, by simp, rfl⟩, ?_⟩
    intro id ho
    have hd : (id == spec.containerdID) = false := by simpa using ho
    simp [List.lookup_cons, hd]
  · next record hf =>
      split at hs
      · cases hs
      · obtain rfl := Except.ok.inj hs
        have hr : (launched digest spec record).running = true := by
          unfold launched
          split <;> rfl
        refine ⟨⟨launched digest spec record, by simp [lookup_map_own, hf], hr⟩, ?_⟩
        intro id ho
        simp [lookup_map_own, ho]

end Records

section Updates

variable {existing desired : Cell}

variable {id : String} {live left : List String} {container : ContainerSpec} {rootID : String}

theorem containerByID_eq_some {containers : List ContainerSpec}
    (hf : containerByID containers id = some container) :
    container ∈ containers ∧ container.id = id ∧ id ≠ "" := by
  obtain ⟨hm, hs⟩ := Keyed.find_some hf
  obtain ⟨hi, hn⟩ := List.mem_filter.mp hm
  refine ⟨hi, hs, ?_⟩
  simpa [hs] using hn

theorem containerByID_eq_none {containers : List ContainerSpec} (hnm : id ≠ "") :
    containerByID containers id = none ↔ ∀ container ∈ containers, container.id ≠ id := by
  unfold containerByID
  rw [Keyed.find_eq_none]
  constructor
  · intro hn container hm hs
    exact hn container (List.mem_filter.mpr ⟨hm, by simpa [hs] using hnm⟩) hs
  · intro hn container hm
    exact hn container (List.mem_filter.mp hm).1

/-- A cell as it stands in its namespace: its containers are told apart by their names and by their
    containerd ids, and the root has the id that the runner looks for. -/
structure Deployed (cell : Cell) : Prop where
  ids : (cell.spec.containers.map ContainerSpec.id).Nodup
  named : ∀ container ∈ cell.spec.containers, container.id ≠ ""
  trimmed : ∀ container ∈ cell.spec.containers, trimSpace container.id = container.id
  containerdIDs : (cell.spec.containers.map ContainerSpec.containerdID).Nodup
  given : ∀ container ∈ cell.spec.containers, container.containerdID ≠ ""
  root : ∃ root ∈ cell.spec.containers, root.root = true ∧
    rootContainerdID (cellNames cell) = .ok root.containerdID

namespace Deployed

theorem containerByID_of_mem (hd : Deployed existing) {container : ContainerSpec}
    (hm : container ∈ existing.spec.containers) :
    containerByID existing.spec.containers container.id = some container := by
  have hds : ((existing.spec.containers.filter (·.id != "")).map ContainerSpec.id).Nodup :=
    hd.ids.sublist (List.filter_sublist.map _)
  exact Keyed.find_of_mem hds
    (List.mem_filter.mpr ⟨hm, by simpa using hd.named container hm⟩)

theorem mem_deleteContainer (hd : Deployed existing) {container : ContainerSpec}
    (hm : container ∈ existing.spec.containers) (hc : container.root = false)
    {live : List String} {id : String} :
    id ∈ deleteContainer existing live container.id ↔ id ∈ live ∧ id ≠ container.containerdID := by
  have hf : existing.spec.containers.find? (fun other => other.id = trimSpace container.id) =
      some container := by
    rw [hd.trimmed container hm]
    exact Keyed.first_of_mem hd.ids hm rfl
  have hg : (container.containerdID == "") = false := by
    simpa using hd.given container hm
  simp [deleteContainer, hf, hc, hg]

/-- A loop that deletes containers of the cell removes their ids. -/
theorem mem_deleteContainers (hd : Deployed existing) {containers : List ContainerSpec}
    (hm : ∀ container ∈ containers, container ∈ existing.spec.containers)
    (hc : ∀ container ∈ containers, container.root = false) {live : List String}
    {id : String} :
    id ∈ containers.foldl (fun left container => deleteContainer existing left container.id) live ↔
      id ∈ live ∧ ∀ container ∈ containers, id ≠ container.containerdID := by
  induction containers generalizing live with
  | nil => simp
  | cons first rest ih =>
    simp only [List.mem_cons, forall_eq_or_imp] at hm hc
    rw [List.foldl_cons, ih hm.2 hc.2, hd.mem_deleteContainer hm.1 hc.1]
    simp only [List.mem_cons, forall_eq_or_imp, and_assoc]

end Deployed

def Orphan (existing desired : Cell) (container : ContainerSpec) : Prop :=
  container ∈ existing.spec.containers ∧ container.root = false ∧
    containerByID desired.spec.containers container.id = none

def Recreated (existing desired : Cell) (container : ContainerSpec) : Prop :=
  ∃ wanted ∈ desired.spec.containers,
    containerByID existing.spec.containers wanted.id = some container ∧
      containerSpecChanged wanted container = true

theorem mem_removeOrphans (hd : Deployed existing)
    (hr : removeOrphans existing desired live = .ok left) :
    id ∈ left ↔ id ∈ live ∧ ∀ container, Orphan existing desired container →
      id ≠ container.containerdID := by
  unfold removeOrphans at hr
  dsimp only at hr
  split at hr
  · cases hr
  · obtain rfl := Except.ok.inj hr
    have hi : ∀ container,
        container ∈ ((orphanIDs existing desired).filterMap
          (containerByID existing.spec.containers)).filter (!·.root) ↔
          Orphan existing desired container := by
      intro container
      simp only [List.mem_filter, List.mem_filterMap, orphanIDs, Keyed.mem_keys, Orphan,
        Option.isNone_iff_eq_none, Bool.not_eq_eq_eq_not, Bool.not_true]
      constructor
      · rintro ⟨⟨name, ⟨⟨other, ⟨_, _⟩, _⟩, hdr⟩, hf⟩, hc⟩
        obtain ⟨hm, hs, _⟩ := containerByID_eq_some hf
        exact ⟨hm, hc, hs ▸ hdr⟩
      · rintro ⟨hm, hc, hdr⟩
        refine ⟨⟨container.id, ⟨⟨container, ⟨hm, ?_⟩, rfl⟩, hdr⟩,
          hd.containerByID_of_mem hm⟩, hc⟩
        simpa using hd.named container hm
    rw [hd.mem_deleteContainers (fun container hm => ((hi container).mp hm).1)
      (fun container hm => ((hi container).mp hm).2.1)]
    exact and_congr_right fun _ => forall_congr' fun container => by rw [hi]

inductive UpdatedFrom (existing : Cell) (wanted : ContainerSpec) : ContainerSpec → Prop where
  | added (unknown : containerByID existing.spec.containers wanted.id = none) :
      UpdatedFrom existing wanted (adopted existing wanted)
  | recreated {actual : ContainerSpec}
      (known : containerByID existing.spec.containers wanted.id = some actual)
      (changed : containerSpecChanged wanted actual = true) (child : actual.root = false) :
      UpdatedFrom existing wanted (adopted existing { wanted with containerdID := "" })
  | kept {actual : ContainerSpec}
      (known : containerByID existing.spec.containers wanted.id = some actual)
      (unchanged : containerSpecChanged wanted actual = false) :
      UpdatedFrom existing wanted
        (adopted existing { wanted with containerdID := actual.containerdID })

theorem updatedContainers_spec (hd : Deployed existing) {wanted updated : List ContainerSpec}
    (hup : updatedContainers existing live wanted = .ok (updated, left)) :
    List.Forall₂ (UpdatedFrom existing) wanted updated ∧
      ∀ id, id ∈ left ↔ id ∈ live ∧ ∀ container ∈ wanted, ∀ actual,
        containerByID existing.spec.containers container.id = some actual →
          containerSpecChanged container actual = true → id ≠ actual.containerdID := by
  induction wanted generalizing live updated left with
  | nil =>
    simp only [updatedContainers, Except.ok.injEq, Prod.mk.injEq] at hup
    obtain ⟨rfl, rfl⟩ := hup
    exact ⟨.nil, by simp⟩
  | cons container rest ih =>
    simp only [updatedContainers, Outcome.bind_eq_ok, Outcome.pure_eq_ok, Prod.mk.injEq] at hup
    obtain ⟨⟨first, between⟩, ht, ⟨others, all⟩, hl, rfl, rfl⟩ := hup
    obtain ⟨hr, hm⟩ := ih hl
    unfold updatedContainer at ht
    split at ht
    · next hun =>
        obtain ⟨rfl, rfl⟩ := Prod.mk.inj (Except.ok.inj ht)
        refine ⟨.cons (.added hun) hr, ?_⟩
        intro id
        simp [hm, hun]
    · next actual hk =>
        split at ht
        · next hc =>
            split at ht
            · cases ht
            · next hch =>
                have hch : actual.root = false := by simpa using hch
                obtain ⟨rfl, rfl⟩ := Prod.mk.inj (Except.ok.inj ht)
                refine ⟨.cons (.recreated hk hc hch) hr, ?_⟩
                intro id
                obtain ⟨hmm, hs, _⟩ := containerByID_eq_some hk
                rw [hm, ← hs, hd.mem_deleteContainer hmm hch]
                simp [hk, hc, and_assoc]
        · next hu =>
            have hu : containerSpecChanged container actual = false := by
              simpa using hu
            obtain ⟨rfl, rfl⟩ := Prod.mk.inj (Except.ok.inj ht)
            refine ⟨.cons (.kept hk hu) hr, ?_⟩
            intro id
            simp [hm, hk, hu]

theorem mem_remaining (hd : Deployed existing)
    (hl : remaining existing desired live = .ok left) :
    id ∈ left ↔ id ∈ live ∧
      (∀ container, Orphan existing desired container → id ≠ container.containerdID) ∧
        ∀ container, Recreated existing desired container → id ≠ container.containerdID := by
  simp only [remaining, Outcome.bind_eq_ok, Outcome.pure_eq_ok] at hl
  obtain ⟨between, hr, ⟨updated, all⟩, hu, rfl⟩ := hl
  rw [(updatedContainers_spec hd hu).2, mem_removeOrphans hd hr, and_assoc]
  refine and_congr_right fun _ => and_congr_right fun _ => ?_
  constructor
  · rintro ha container ⟨wanted, hm, hk, hc⟩
    exact ha wanted hm container hk hc
  · intro ha wanted hm actual hk hc
    exact ha actual ⟨wanted, hm, hk, hc⟩

variable {host : ProvisionHost}

theorem mem_ensureContainer {live made : List String}
    (hmk : ensureContainer live container = .ok made) :
    id ∈ made ↔ container.containerdID = id ∨ id ∈ live := by
  unfold ensureContainer at hmk
  split at hmk
  · next ht =>
      obtain rfl := Except.ok.inj hmk
      constructor
      · exact .inr
      · rintro (rfl | hm)
        · exact ht
        · exact hm
  · unfold createContainer at hmk
    split at hmk
    · cases hmk
    split at hmk
    · cases hmk
    obtain rfl := Except.ok.inj hmk
    rw [List.mem_cons, eq_comm]

theorem mem_forContainers_ensure {complete : ContainerSpec → Except ProvisionError ContainerSpec}
    {live made : List String} {containers built : List ContainerSpec}
    (hl : forContainers complete ensureContainer live containers = .ok (built, made)) :
    id ∈ made ↔ id ∈ live ∨ ∃ container ∈ built, container.containerdID = id := by
  induction containers generalizing live built made with
  | nil =>
    simp only [forContainers, Except.ok.injEq, Prod.mk.injEq] at hl
    obtain ⟨rfl, rfl⟩ := hl
    simp
  | cons container rest ih =>
    simp only [forContainers, Outcome.bind_eq_ok, Outcome.pure_eq_ok, Prod.mk.injEq] at hl
    obtain ⟨completed, -, made', hf, ⟨others, all⟩, hlt, rfl, rfl⟩ := hl
    rw [ih hlt, mem_ensureContainer hf, or_assoc, or_left_comm]
    simp only [List.mem_cons, exists_eq_or_imp]

theorem createdContainer_of_ensuredSpec {names : CellNames} {placed : Cell} {path : String}
    {container built : ContainerSpec} (hc : ensuredSpec names placed path container = .ok built) :
    CreatedContainer names "" path container built := by
  refine ⟨builtFrom_owned hc, ?_⟩
  intro hb
  rcases withContainerdID_eq_ok.mp hc with ⟨hg, -⟩ | ⟨-, id, ha, rfl⟩
  · exact absurd hb hg
  · rw [if_neg (by simp), ← ha]
    exact ownContainerdID_congr rfl rfl rfl rfl

/-- With its root in place, a cell keeps its spec but for its containers, which are completed one by
    one after the defaults of the space. -/
theorem ensureCellContainers_spec {live made : List String} {cell ensured : Cell}
    (hm : ensureCellContainers host live cell = .ok (ensured, made))
    (hri : rootContainerdID (cellNames cell) = .ok rootID) (ht : rootID ∈ live) :
    ∃ space path, ∃ complete : ContainerSpec → Except ProvisionError ContainerSpec,
      host.getSpace cell.spec.realmName cell.spec.spaceName = .ok space ∧
      ensured = { cell with spec.containers := ensured.spec.containers } ∧
      List.Forall₂ (fun container built => complete container = .ok built)
        (withSpaceDefaults space cell).spec.containers ensured.spec.containers ∧
      (∀ container built, complete container = .ok built →
        CreatedContainer (cellNames cell) "" path container built) ∧
      ∀ id, id ∈ made ↔
        id ∈ live ∨ ∃ container ∈ ensured.spec.containers, container.containerdID = id := by
  simp only [ensureCellContainers, Outcome.bind_eq_ok, Outcome.refusal_eq_ok, Outcome.pure_eq_ok,
    applyCellContainerDefaults_eq_ok] at hm
  obtain ⟨-, -, -, defaulted, ⟨space, hf, rfl⟩, path, -, builtID, hs, ⟨rooted, left⟩,
    hr, ⟨containers, all⟩, hl, hsm⟩ := hm
  obtain rfl := Except.ok.inj (hri.symm.trans hs)
  rw [ensureRoot, if_pos ht] at hr
  obtain ⟨rfl, rfl⟩ := Prod.mk.inj (Except.ok.inj hr)
  obtain ⟨rfl, rfl⟩ := Prod.mk.inj hsm
  have hcm := forContainers_completes hl
  rw [stampCellEtcFilePathsOnContainers, List.forall₂_map_left_iff] at hcm
  refine ⟨space, path, _, hf, rfl, hcm, ?_, fun _ => mem_forContainers_ensure hl⟩
  intro container built hcp
  have hc := createdContainer_of_ensuredSpec hcp
  refine ⟨⟨hc.spec, hc.cniConfigPath, hc.containerdID⟩, ?_⟩
  intro hb
  rw [← hc.assigned hb, if_neg (by simp), if_neg (by simp)]
  exact ownContainerdID_congr rfl rfl rfl rfl

/-- The cell that an update completes: the root it keeps ahead of the containers of the document. -/
def mergedCell (existing desired : Cell) (updated : List ContainerSpec) : Cell :=
  { existing with
    metadata.labels := mergeManagedLabels existing.metadata.labels desired.metadata.labels
    spec.containers := (preservedRoot existing desired).toList ++ updated
    spec.rootContainerID :=
      if (preservedRoot existing desired).isSome ∧ desired.spec.rootContainerID = "" then
        existing.spec.rootContainerID
      else desired.spec.rootContainerID }

theorem child_of_recreated {updated : List ContainerSpec}
    (hrl : List.Forall₂ (UpdatedFrom existing) desired.spec.containers updated)
    (hr : Recreated existing desired container) : container.root = false := by
  obtain ⟨wanted, hm, hkn, hc⟩ := hr
  obtain ⟨result, _, hh⟩ := Outcome.exists_right_of_forall₂ hrl hm
  cases hh with
  | added hun => cases hun.symm.trans hkn
  | recreated hk _ hch =>
    obtain rfl := Option.some.inj (hkn.symm.trans hk)
    exact hch
  | kept hk hu =>
    obtain rfl := Option.some.inj (hkn.symm.trans hk)
    cases hc.symm.trans hu

/-- The root of a deployed cell is never among the containers that an update removes. -/
theorem root_mem_remaining (hd : Deployed existing)
    (hri : rootContainerdID (cellNames existing) = .ok rootID) (ht : rootID ∈ live)
    (hl : remaining existing desired live = .ok left)
    (hc : ∀ container, Recreated existing desired container → container.root = false) :
    rootID ∈ left := by
  obtain ⟨root, hm, hir, hs⟩ := hd.root
  obtain rfl := Except.ok.inj (hri.symm.trans hs)
  have ha : ∀ container ∈ existing.spec.containers, container.root = false →
      root.containerdID ≠ container.containerdID := by
    intro container hi hch hsm
    obtain rfl := List.inj_on_of_nodup_map hd.containerdIDs hm hi hsm
    rw [hir] at hch
    cases hch
  refine (mem_remaining hd hl).mpr ⟨ht, ?_, ?_⟩
  · rintro container ⟨hi, hch, _⟩
    exact ha container hi hch
  · intro container hr
    have hi : container ∈ existing.spec.containers := by
      obtain ⟨_, _, hk, _⟩ := hr
      exact (containerByID_eq_some hk).1
    exact ha container hi (hc container hr)

/-- What a successful update of a deployed cell did, step by step. -/
structure UpdateSteps (digest : ContainerSpecHashPayload → String) (host : ProvisionHost)
    (records : Records) (existing desired stored : Cell) (after : Records) where
  space : Space
  path : String
  complete : ContainerSpec → Except ProvisionError ContainerSpec
  updated : List ContainerSpec
  left : List String
  made : List String
  foundSpace : host.getSpace existing.spec.realmName existing.spec.spaceName = .ok space
  related : List.Forall₂ (UpdatedFrom existing) desired.spec.containers updated
  leaves : remaining existing desired records.ids = .ok left
  stores : stored =
    { mergedCell existing desired updated with spec.containers := stored.spec.containers }
  completes : List.Forall₂ (fun container built => complete container = .ok built)
    (withSpaceDefaults space (mergedCell existing desired updated)).spec.containers
    stored.spec.containers
  builds : ∀ container built, complete container = .ok built →
    CreatedContainer (cellNames existing) "" path container built
  writes : updateCell host records.ids existing desired = .ok (stored, made)
  ids : ∀ id, id ∈ made ↔
    id ∈ left ∨ ∃ container ∈ stored.spec.containers, container.containerdID = id
  starts : (recreatedIDs existing desired).foldlM (startContainerRecord digest stored)
    (stored.spec.containers.foldl (ensureRecord digest) (records.keep left)) = .ok after

theorem updateRecords_steps {digest : ContainerSpecHashPayload → String} {records after : Records}
    {stored : Cell} (hd : Deployed existing)
    (hr : rootContainerdID (cellNames existing) = .ok rootID) (hth : rootID ∈ records.ids)
    (hu : updateRecords digest host records existing desired = .ok (stored, after)) :
    Nonempty (UpdateSteps digest host records existing desired stored after) := by
  simp only [updateRecords, Outcome.bind_eq_ok, Outcome.mapError_eq_ok, Outcome.pure_eq_ok] at hu
  obtain ⟨⟨written, made⟩, hwr, left, hl, started, hs, hsm⟩ := hu
  obtain ⟨rfl, rfl⟩ := Prod.mk.inj hsm
  have hw := hwr
  simp only [updateCell, storable, Outcome.bind_eq_ok, Outcome.mapError_eq_ok,
    Outcome.pure_eq_ok] at hw
  obtain ⟨between, hrv, ⟨updated, left'⟩, ht, ⟨ensured, all⟩, he, _, ⟨_, _, rfl⟩, hsm⟩ :=
    hw
  obtain ⟨rfl, rfl⟩ := Prod.mk.inj hsm
  have hsl : left' = left := by
    have hlv := hl
    simp only [remaining, Outcome.bind_eq_ok, Outcome.pure_eq_ok] at hlv
    obtain ⟨between', hrm, ⟨updated', all'⟩, htr, rfl⟩ := hlv
    obtain rfl := Except.ok.inj (hrv.symm.trans hrm)
    exact (Prod.mk.inj (Except.ok.inj (ht.symm.trans htr))).2
  subst hsl
  have hrl := (updatedContainers_spec hd ht).1
  have hrt := root_mem_remaining hd hr hth hl
    fun container => child_of_recreated hrl
  have hm : ensureCellContainers host left' (mergedCell existing desired updated) =
      .ok (ensured, all) := he
  obtain ⟨space, path, complete, hf, hst, hc, hb, ids⟩ :=
    ensureCellContainers_spec hm hr hrt
  have hn : restoredRoot ensured left' = [] := by
    have hsn : cellNames ensured = cellNames existing := by
      rw [hst]
      rfl
    rw [restoredRoot, hsn, hr]
    exact if_pos hrt
  rw [hn, List.nil_append] at hs
  exact ⟨⟨space, path, complete, updated, left', all, hf, hrl, hl, hst, hc,
    hb, hwr, ids, hs⟩⟩

end Updates

end Kukeon.Runner
