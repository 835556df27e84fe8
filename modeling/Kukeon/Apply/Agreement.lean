import Kukeon.Apply.DiffSpec
import Kukeon.Ctr.Client

/-! # Completeness of the cell diff

When `DiffCell` reports no change, do the two cells agree on what a user can write? Agreement is
stated over whole records: `authored` keeps every field of a container except those the runner
owns, and `UserAgree` asks for agreement of the cells, their roots, their children, and the
containers the diff never looks at. The diff decides `DiffedAgree`, which is weaker, and the gap
between the two is `UndiffedAgree`.
-/

namespace Kukeon.Apply

open ModelHub Ctr

def OmittedOr (desired actual : String) : Prop := desired = "" ∨ desired = actual

/-- A container as its author wrote it, in normal form: empty blocks and missing ones are one,
    pointers are followed, and the fields that the runner fills in or owns are blank. -/
def authored (spec : ContainerSpec) : ContainerSpec :=
  { spec with
    volumes := spec.volumes.map VolumeMount.deref
    capabilities := some (spec.capabilities.getD {})
    resources := some (spec.resources.getD {})
    git := normalGit spec.git
    tty := normalBlock ContainerTty.isEmpty id spec.tty
    containerdID := ""
    realmName := ""
    spaceName := ""
    stackName := ""
    cellName := ""
    cniConfigPath := ""
    nestedCgroupRuntime := false
    cellCgroupPath := ""
    etcHostsPath := ""
    etcHostnamePath := "" }

/-- The two containers agree on everything a document can say about them. -/
structure ContainerAgree (desired actual : ContainerSpec) : Prop where
  authored : authored desired = authored actual
  containerdID : OmittedOr desired.containerdID actual.containerdID
  realmName : OmittedOr desired.realmName actual.realmName
  spaceName : OmittedOr desired.spaceName actual.spaceName
  stackName : OmittedOr desired.stackName actual.stackName
  cellName : OmittedOr desired.cellName actual.cellName
  cniConfigPath : OmittedOr desired.cniConfigPath actual.cniConfigPath

/-- The part of `ContainerAgree` that `diffContainerSpec` does not look at. -/
structure UndiffedSame (desired actual : ContainerSpec) : Prop where
  id : desired.id = actual.id
  root : desired.root = actual.root
  restartBackoffSeconds : desired.restartBackoffSeconds = actual.restartBackoffSeconds
  restartMaxRetries : desired.restartMaxRetries = actual.restartMaxRetries
  containerdID : OmittedOr desired.containerdID actual.containerdID
  realmName : OmittedOr desired.realmName actual.realmName
  spaceName : OmittedOr desired.spaceName actual.spaceName
  stackName : OmittedOr desired.stackName actual.stackName
  cellName : OmittedOr desired.cellName actual.cellName

theorem UndiffedSame.of_agree {desired actual : ContainerSpec}
    (ha : ContainerAgree desired actual) : UndiffedSame desired actual := by
  have hf := ha.authored
  simp only [Apply.authored, ContainerSpec.mk.injEq] at hf
  refine ⟨?_, ?_, ?_, ?_, ha.containerdID, ha.realmName, ha.spaceName,
    ha.stackName, ha.cellName⟩
  all_goals tauto

theorem ContainerAgree.of_same {desired actual : ContainerSpec}
    (hd : DiffedSame desired actual) (hu : UndiffedSame desired actual) :
    ContainerAgree desired actual := by
  refine ⟨?_, hu.containerdID, hu.realmName, hu.spaceName,
    hu.stackName, hu.cellName, hd.cniConfigPath⟩
  have hf := hd.fields
  simp only [diffedFields, ContainerSpec.mk.injEq] at hf
  simp only [Apply.authored, ContainerSpec.mk.injEq, hd.volumes, hu.id, hu.root,
    hu.restartBackoffSeconds, hu.restartMaxRetries]
  tauto

/-- The diff looks at this container: it is the root it found, or the child its id stands for. -/
def Compared (containers : List ContainerSpec) (container : ContainerSpec) : Prop :=
  findRootContainer containers = some container ∨
    childByID containers container.id = some container

/-- The two cells agree on every label and spec field a document can carry. -/
structure UserAgree (desired actual : Cell) : Prop where
  identity : SameIdentity desired actual
  labels :
    filterManagedLabels desired.metadata.labels = filterManagedLabels actual.metadata.labels
  id : OmittedOr desired.spec.id actual.spec.id
  rootContainerID : OmittedOr desired.spec.rootContainerID actual.spec.rootContainerID
  tty : desired.spec.tty.getD {} = actual.spec.tty.getD {}
  autoDelete : desired.spec.autoDelete = actual.spec.autoDelete
  nestedCgroupRuntime : desired.spec.nestedCgroupRuntime = actual.spec.nestedCgroupRuntime
  root : ∀ d, findRootContainer desired.spec.containers = some d →
    ∃ a, findRootContainer actual.spec.containers = some a ∧ ContainerAgree d a
  rootKept : ∀ a, findRootContainer actual.spec.containers = some a →
    isSynthesizedRoot a = false → (findRootContainer desired.spec.containers).isSome
  children : ∀ id d, childByID desired.spec.containers id = some d →
    ∃ a, childByID actual.spec.containers id = some a ∧ ContainerAgree d a
  childrenKept : ∀ id a, childByID actual.spec.containers id = some a →
    (childByID desired.spec.containers id).isSome
  unread : ∀ d ∈ desired.spec.containers, ¬ Compared desired.spec.containers d →
    ∃ a ∈ actual.spec.containers, ContainerAgree d a
  unreadKept : ∀ a ∈ actual.spec.containers, ¬ Compared actual.spec.containers a →
    isSynthesizedRoot a = false → ∃ d ∈ desired.spec.containers, ContainerAgree d a

structure DiffedAgree (desired actual : Cell) : Prop where
  identity : SameIdentity desired actual
  labels : userLabelsEqual desired.metadata.labels actual.metadata.labels = true
  tty : desired.spec.tty.getD {} = actual.spec.tty.getD {}
  autoDelete : desired.spec.autoDelete = actual.spec.autoDelete
  nestedCgroupRuntime : desired.spec.nestedCgroupRuntime = actual.spec.nestedCgroupRuntime
  root : ∀ d, findRootContainer desired.spec.containers = some d →
    ∃ a, findRootContainer actual.spec.containers = some a ∧ DiffedSame d a
  children : ∀ id d, childByID desired.spec.containers id = some d →
    ∃ a, childByID actual.spec.containers id = some a ∧ DiffedSame d a
  childrenKept : ∀ id a, childByID actual.spec.containers id = some a →
    (childByID desired.spec.containers id).isSome

/-- What the diff leaves out: no difference in anything it does not read. -/
structure UndiffedAgree (desired actual : Cell) : Prop where
  labelKeys :
    (filterManagedLabels desired.metadata.labels).keys =
      (filterManagedLabels actual.metadata.labels).keys
  id : OmittedOr desired.spec.id actual.spec.id
  rootContainerID : OmittedOr desired.spec.rootContainerID actual.spec.rootContainerID
  root : ∀ d a, findRootContainer desired.spec.containers = some d →
    findRootContainer actual.spec.containers = some a → UndiffedSame d a
  rootKept : ∀ a, findRootContainer actual.spec.containers = some a →
    isSynthesizedRoot a = false → (findRootContainer desired.spec.containers).isSome
  children : ∀ id d a, childByID desired.spec.containers id = some d →
    childByID actual.spec.containers id = some a → UndiffedSame d a
  unread : ∀ d ∈ desired.spec.containers, ¬ Compared desired.spec.containers d →
    ∃ a ∈ actual.spec.containers, ContainerAgree d a
  unreadKept : ∀ a ∈ actual.spec.containers, ¬ Compared actual.spec.containers a →
    isSynthesizedRoot a = false → ∃ d ∈ desired.spec.containers, ContainerAgree d a

theorem childByID_isSome {containers : List ContainerSpec} {id : String} :
    (childByID containers id).isSome ↔ id ∈ childIDs containers :=
  Keyed.find_isSome

theorem cellChecks_unchanged {desired actual : Cell} :
    (cellChecks desired actual).any FieldCheck.changed = false ↔
      userLabelsEqual desired.metadata.labels actual.metadata.labels = true ∧
        desired.spec.tty.getD {} = actual.spec.tty.getD {} ∧
        desired.spec.autoDelete = actual.spec.autoDelete ∧
        desired.spec.nestedCgroupRuntime = actual.spec.nestedCgroupRuntime := by
  simp [cellChecks, blockCheck, flagCheck, FieldCheck.at, cellTtyEqual_iff]

theorem rootChanged_eq_false {desired actual : Option ContainerSpec} :
    rootChanged desired actual = false ↔
      ∀ d, desired = some d → ∃ a, actual = some a ∧ DiffedSame d a := by
  cases desired with
  | none => simp [rootChanged]
  | some d =>
    cases actual with
    | none => simp [rootChanged]
    | some a => simp [rootChanged, diffContainerSpec_hasChanges]

theorem childChanged_eq_false {desired actual : List ContainerSpec} {id : String} :
    childChanged desired actual id = false ↔
      ∀ d, childByID desired id = some d →
        ∃ a, childByID actual id = some a ∧ DiffedSame d a := by
  cases hi : childByID desired id with
  | none => simp [childChanged, hi]
  | some d =>
    cases hia : childByID actual id with
    | none => simp [childChanged, hi, hia]
    | some a => simp [childChanged, hi, hia, diffContainerSpec_hasChanges]

theorem diffCell_hasChanges_eq_false {desired actual : Cell} :
    (diffCell desired actual).hasChanges = false ↔ DiffedAgree desired actual := by
  by_cases hi : SameIdentity desired actual
  · rw [diffCell_hasChanges_eq hi]
    rw [Bool.or_eq_false_iff, Bool.or_eq_false_iff, Bool.or_eq_false_iff, cellChecks_unchanged,
      rootChanged_eq_false]
    simp only [List.any_eq_false, Bool.not_eq_true, childChanged_eq_false,
      Option.isNone_eq_false_iff]
    constructor
    · rintro ⟨⟨⟨hc, hr⟩, hch⟩, ho⟩
      refine ⟨hi, hc.1, hc.2.1, hc.2.2.1, hc.2.2.2, hr, ?_, ?_⟩
      · intro id d hf
        exact hch id (childByID_isSome.mp (by simp [hf])) d hf
      · intro id a hf
        exact ho id (childByID_isSome.mp (by simp [hf]))
    · intro ha
      refine ⟨⟨⟨⟨ha.labels, ha.tty, ha.autoDelete, ha.nestedCgroupRuntime⟩,
        ha.root⟩, fun id _ => ha.children id⟩, ?_⟩
      intro id hp
      obtain ⟨a, hf⟩ := Option.isSome_iff_exists.mp (childByID_isSome.mpr hp)
      exact ha.childrenKept id a hf
  · constructor
    · intro hu
      -- A differing coordinate returns early, with the change recorded.
      cases he : firstChange (cellIdentityChecks desired actual) with
      | none => exact absurd (cellIdentityChecks_none.mp he) hi
      | some result =>
        have hcn := firstChange_hasChanges he
        simp [diffCell, he, hcn] at hu
    · intro ha
      exact absurd ha.identity hi

/-- With no difference in what the diff reads, agreement is the absence of a difference in what
    it does not read. -/
theorem userAgree_iff_undiffedAgree {desired actual : Cell}
    (hdf : DiffedAgree desired actual) :
    UserAgree desired actual ↔ UndiffedAgree desired actual := by
  constructor
  · intro hag
    refine ⟨by rw [hag.labels], hag.id, hag.rootContainerID, ?_, hag.rootKept, ?_,
      hag.unread, hag.unreadKept⟩
    · intro d a hd ha
      obtain ⟨a', har, hs⟩ := hag.root d hd
      rw [ha] at har
      cases har
      exact UndiffedSame.of_agree hs
    · intro id d a hi hia
      obtain ⟨a', hin, hs⟩ := hag.children id d hi
      rw [hia] at hin
      cases hin
      exact UndiffedSame.of_agree hs
  · intro hu
    refine ⟨hdf.identity, ?_, hu.id, hu.rootContainerID, hdf.tty,
      hdf.autoDelete, hdf.nestedCgroupRuntime, ?_, hu.rootKept, ?_,
      hdf.childrenKept, hu.unread, hu.unreadKept⟩
    · exact eq_iff_mapsEqual_and_keys.mpr ⟨hdf.labels, hu.labelKeys⟩
    · intro d hd
      obtain ⟨a, ha, hs⟩ := hdf.root d hd
      exact ⟨a, ha, .of_same hs (hu.root d a hd ha)⟩
    · intro id d hi
      obtain ⟨a, hia, hs⟩ := hdf.children id d hi
      exact ⟨a, hia, .of_same hs (hu.children id d a hi hia)⟩

/-- A silent diff means agreement for exactly the pairs of cells that do not differ only in what
    the diff leaves out. -/
theorem diffCell_complete_iff (desired actual : Cell) :
    ((diffCell desired actual).hasChanges = false → UserAgree desired actual) ↔
      (DiffedAgree desired actual → UndiffedAgree desired actual) := by
  rw [diffCell_hasChanges_eq_false]
  constructor
  · intro hc hd
    exact (userAgree_iff_undiffedAgree hd).mp (hc hd)
  · intro hcv hd
    exact (userAgree_iff_undiffedAgree hd).mpr (hcv hd)

namespace RetryEdit

def actual : Cell where
  metadata := { name := "web" }
  spec :=
    { id := "web", realmName := "r", spaceName := "s", stackName := "t"
      containers := [{ id := "app", image := "nginx", restartPolicy := "on-failure" }] }

/-- Its document after an edit that caps the retries of the workload. -/
def desired : Cell :=
  { actual with
    spec :=
      { actual.spec with
        containers :=
          [ { id := "app", image := "nginx", restartPolicy := "on-failure"
              restartMaxRetries := some 3 } ] } }

end RetryEdit

/-- A cap on the retries of a workload is an edit the diff does not see. -/
theorem diffCell_misses_retry_edit :
    (diffCell RetryEdit.desired RetryEdit.actual).hasChanges = false ∧
      ¬ UserAgree RetryEdit.desired RetryEdit.actual := by
  refine ⟨by decide, ?_⟩
  intro ha
  obtain ⟨a, hi, hs⟩ := ha.children "app"
    { id := "app", image := "nginx", restartPolicy := "on-failure", restartMaxRetries := some 3 }
    (by decide)
  have hia : a = { id := "app", image := "nginx", restartPolicy := "on-failure" } := by
    have hf : childByID RetryEdit.actual.spec.containers "app" =
        some { id := "app", image := "nginx", restartPolicy := "on-failure" } := by decide
    rw [hf] at hi
    exact (Option.some.inj hi).symm
  have hr := (UndiffedSame.of_agree hs).restartMaxRetries
  simp [hia] at hr

end Kukeon.Apply
