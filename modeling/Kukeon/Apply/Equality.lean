import Kukeon.Lib.Keyed
import Kukeon.ModelHub.Space

/-! # The equality helpers of the apply layer

The comparison functions at the end of `internal/controller/apply/diff.go`. Each one comes
with the normal form it compares: a nil and an explicitly empty block share a normal form
where the source says they are no change. Two helpers do not compare the values they are
given. `mapsEqual` reads an absent key as the empty string, and `volumeMountsEqual` compares
references by address.
-/

namespace Kukeon.Apply

open ModelHub

def slicesEqual (a b : List String) : Bool := a.isEqv b (· == ·)

theorem slicesEqual_iff {a b : List String} : slicesEqual a b = true ↔ a = b :=
  Slices.isEqv_iff_eq (by simp) a b

/-- Equal length, and every entry of `a` read back from `b` by an index expression. -/
def mapsEqual (a b : Labels) : Bool :=
  a.len == b.len && decide (∀ entry ∈ a.entries, b.index entry.1 = entry.2)

theorem mapsEqual_iff {a b : Labels} :
    mapsEqual a b = true ↔ a.len = b.len ∧ ∀ k v, a.lookup k = some v → b.index k = v := by
  simp only [mapsEqual, Bool.and_eq_true, beq_iff_eq, decide_eq_true_eq]
  refine and_congr_right fun _ => ⟨?_, ?_⟩
  · intro hr k v hf
    exact hr ⟨k, v⟩ (Finmap.lookup_eq_some_iff.mp hf)
  · intro hr entry hm
    exact hr entry.1 entry.2 (Finmap.lookup_eq_some_iff.mpr hm)

theorem mapsEqual_refl (a : Labels) : mapsEqual a a = true :=
  mapsEqual_iff.mpr ⟨rfl, fun _ _ hf => GoMap.index_of_lookup hf⟩

/-- What `mapsEqual` misses is exactly a difference between the key sets. -/
theorem eq_iff_mapsEqual_and_keys {a b : Labels} :
    a = b ↔ mapsEqual a b = true ∧ a.keys = b.keys := by
  constructor
  · rintro rfl
    exact ⟨mapsEqual_refl a, rfl⟩
  · rintro ⟨he, hs⟩
    exact GoMap.eq_of_keys_eq_of_index hs (mapsEqual_iff.mp he).2

def filterManagedLabels (labels : Labels) : Labels :=
  labels.filterKeys fun key => !isManagedLabel key

def userLabelsEqual (desired actual : Labels) : Bool :=
  mapsEqual (filterManagedLabels desired) (filterManagedLabels actual)

def cellTtyEqual : Option CellTty → Option CellTty → Bool
  | none, none => true
  | none, some b => b.default == ""
  | some a, none => a.default == ""
  | some a, some b => a.default == b.default

theorem cellTtyEqual_iff {a b : Option CellTty} :
    cellTtyEqual a b = true ↔ a.getD {} = b.getD {} := by
  rcases a with _ | ⟨⟨a⟩⟩ <;> rcases b with _ | ⟨⟨b⟩⟩ <;> simp [cellTtyEqual]

def capabilitiesDrop : Option ContainerCapabilities → List String
  | none => []
  | some c => c.drop

def capabilitiesAdd : Option ContainerCapabilities → List String
  | none => []
  | some c => c.add

def capabilitiesEqual : Option ContainerCapabilities → Option ContainerCapabilities → Bool
  | none, none => true
  | some a, some b => slicesEqual a.drop b.drop && slicesEqual a.add b.add
  | a, b =>
    (capabilitiesDrop a).length + (capabilitiesAdd a).length == 0 &&
      (capabilitiesDrop b).length + (capabilitiesAdd b).length == 0

theorem capabilitiesEqual_iff {a b : Option ContainerCapabilities} :
    capabilitiesEqual a b = true ↔ a.getD {} = b.getD {} := by
  rcases a with _ | ⟨⟨drop, add⟩⟩ <;> rcases b with _ | ⟨⟨drop', add'⟩⟩ <;>
    simp [capabilitiesEqual, capabilitiesDrop, capabilitiesAdd, slicesEqual_iff]

def tmpfsEqual (a b : List ContainerTmpfsMount) : Bool :=
  a.isEqv b fun x y =>
    x.path == y.path && x.sizeBytes == y.sizeBytes && slicesEqual x.options y.options

theorem tmpfsEqual_iff {a b : List ContainerTmpfsMount} : tmpfsEqual a b = true ↔ a = b := by
  apply Slices.isEqv_iff_eq
  rintro ⟨path, sizeBytes, options⟩ ⟨path', sizeBytes', options'⟩
  simp [slicesEqual_iff, and_assoc]

def int64PtrEqual : Option Int → Option Int → Bool
  | none, none => true
  | some a, some b => a == b
  | _, _ => false

theorem int64PtrEqual_iff {a b : Option Int} : int64PtrEqual a b = true ↔ a = b := by
  cases a <;> cases b <;> simp [int64PtrEqual]

def resourcesAreZero : Option ContainerResources → Bool
  | none => true
  | some r => r.memoryLimitBytes.isNone && r.cpuShares.isNone && r.pidsLimit.isNone

def resourcesEqual : Option ContainerResources → Option ContainerResources → Bool
  | none, none => true
  | some a, some b =>
    int64PtrEqual a.memoryLimitBytes b.memoryLimitBytes &&
      int64PtrEqual a.cpuShares b.cpuShares && int64PtrEqual a.pidsLimit b.pidsLimit
  | a, b => resourcesAreZero a && resourcesAreZero b

theorem resourcesEqual_iff {a b : Option ContainerResources} :
    resourcesEqual a b = true ↔ a.getD {} = b.getD {} := by
  rcases a with _ | ⟨⟨memory, cpu, pids⟩⟩ <;> rcases b with _ | ⟨⟨memory', cpu', pids'⟩⟩ <;>
    simp [resourcesEqual, resourcesAreZero, int64PtrEqual_iff, and_assoc]
  exact and_congr eq_comm (and_congr eq_comm eq_comm)

/-- The shape `ttyEqual`, `gitEqual` and `gitIdentityEqual` share: two blocks that both count
    as zero are equal, a missing block equals nothing else, and two present blocks are compared
    field by field. -/
def blockEqual {α : Type} (isZero : Option α → Bool) (fieldsEqual : α → α → Bool)
    (a b : Option α) : Bool :=
  if isZero a && isZero b then true
  else
    match a, b with
    | some a, some b => fieldsEqual a b
    | _, _ => false

def normalBlock {α : Type} (isZero : Option α → Bool) (normal : α → α) (block : Option α) :
    Option α :=
  if isZero block then none else block.map normal

theorem blockEqual_iff {α : Type} {isZero : Option α → Bool} {fieldsEqual : α → α → Bool}
    {normal : α → α} (hn : isZero none = true)
    (hf : ∀ x y, fieldsEqual x y = true ↔ normal x = normal y)
    (hz : ∀ x, isZero (some (normal x)) = isZero (some x)) (a b : Option α) :
    blockEqual isZero fieldsEqual a b = true ↔
      normalBlock isZero normal a = normalBlock isZero normal b := by
  cases a with
  | none =>
    cases b with
    | none => simp [blockEqual, normalBlock, hn]
    | some y => by_cases hzy : isZero (some y) = true <;>
        simp [blockEqual, normalBlock, hn, hzy]
  | some x =>
    cases b with
    | none => by_cases hzx : isZero (some x) = true <;>
        simp [blockEqual, normalBlock, hn, hzx]
    | some y =>
      have hs : normal x = normal y → isZero (some x) = isZero (some y) := by
        intro hsm
        rw [← hz x, ← hz y, hsm]
      by_cases hzx : isZero (some x) = true <;> by_cases hzy : isZero (some y) = true <;>
        simp_all [blockEqual, normalBlock]

def ttyEqual : Option ContainerTty → Option ContainerTty → Bool :=
  blockEqual ContainerTty.isEmpty fun a b =>
    a.prompt == b.prompt && a.logFile == b.logFile && a.logLevel == b.logLevel &&
      a.onInit.isEqv b.onInit (· == ·)

theorem ttyEqual_iff {a b : Option ContainerTty} :
    ttyEqual a b = true ↔
      normalBlock ContainerTty.isEmpty id a = normalBlock ContainerTty.isEmpty id b := by
  refine blockEqual_iff rfl ?_ (fun _ => rfl) a b
  rintro ⟨prompt, onInit, logFile, logLevel⟩ ⟨prompt', onInit', logFile', logLevel'⟩
  simp only [Bool.and_eq_true, beq_iff_eq, ContainerTty.mk.injEq,
    Slices.isEqv_iff_eq (e := fun x y : TtyStage => x == y) (by simp)]
  tauto

def gitIdentityIsZero : Option GitIdentity → Bool
  | none => true
  | some id => id.name == "" && id.email == ""

def gitIdentityEqual : Option GitIdentity → Option GitIdentity → Bool :=
  blockEqual gitIdentityIsZero (· == ·)

def normalGitIdentity : Option GitIdentity → Option GitIdentity :=
  normalBlock gitIdentityIsZero id

theorem gitIdentityEqual_iff {a b : Option GitIdentity} :
    gitIdentityEqual a b = true ↔ normalGitIdentity a = normalGitIdentity b :=
  blockEqual_iff rfl (by simp) (fun _ => rfl) a b

def gitIsZero : Option ContainerGit → Bool
  | none => true
  | some g =>
    gitIdentityIsZero g.author && gitIdentityIsZero g.committer && g.signingKey == "" &&
      g.allowedSigners == "" && g.sign.length == 0

def gitEqual : Option ContainerGit → Option ContainerGit → Bool :=
  blockEqual gitIsZero fun a b =>
    gitIdentityEqual a.author b.author && gitIdentityEqual a.committer b.committer &&
      a.signingKey == b.signingKey && a.allowedSigners == b.allowedSigners &&
      slicesEqual a.sign b.sign

def normalGit : Option ContainerGit → Option ContainerGit :=
  normalBlock gitIsZero fun git =>
    { git with author := normalGitIdentity git.author, committer := normalGitIdentity git.committer }

theorem gitIdentityIsZero_normal (identity : Option GitIdentity) :
    gitIdentityIsZero (normalGitIdentity identity) = gitIdentityIsZero identity := by
  by_cases hz : gitIdentityIsZero identity = true
  · rw [hz, normalGitIdentity, normalBlock, if_pos hz]
    rfl
  · rw [normalGitIdentity, normalBlock, if_neg hz, Option.map_id_fun, id_eq]

theorem gitEqual_iff {a b : Option ContainerGit} :
    gitEqual a b = true ↔ normalGit a = normalGit b := by
  refine blockEqual_iff rfl ?_ ?_ a b
  · rintro ⟨author, committer, key, sign, signers⟩ ⟨author', committer', key', sign', signers'⟩
    simp only [Bool.and_eq_true, beq_iff_eq, gitIdentityEqual_iff, slicesEqual_iff,
      ContainerGit.mk.injEq]
    tauto
  · intro git
    simp only [gitIsZero, gitIdentityIsZero_normal]

def reposEqual (a b : List ContainerRepo) : Bool := a.isEqv b (· == ·)

theorem reposEqual_iff {a b : List ContainerRepo} : reposEqual a b = true ↔ a = b :=
  Slices.isEqv_iff_eq (by simp) a b

def secretRefEqual : Option ContainerSecretRef → Option ContainerSecretRef → Bool
  | none, none => true
  | some a, some b => a == b
  | _, _ => false

theorem secretRefEqual_iff {a b : Option ContainerSecretRef} :
    secretRefEqual a b = true ↔ a = b := by
  cases a <;> cases b <;> simp [secretRefEqual]

def secretsEqual (a b : List ContainerSecret) : Bool :=
  a.isEqv b fun x y =>
    x.name == y.name && x.fromFile == y.fromFile && x.fromEnv == y.fromEnv &&
      x.mountPath == y.mountPath && secretRefEqual x.secretRef y.secretRef

theorem secretsEqual_iff {a b : List ContainerSecret} : secretsEqual a b = true ↔ a = b := by
  apply Slices.isEqv_iff_eq
  rintro ⟨name, fromFile, fromEnv, ref, path⟩ ⟨name', fromFile', fromEnv', ref', path'⟩
  simp only [Bool.and_eq_true, beq_iff_eq, secretRefEqual_iff, ContainerSecret.mk.injEq]
  tauto

/-- The language's `==` on each `VolumeMount`, which compares the references by address. A
    pointer holds its address and what memory stores there, so comparing both compares the
    addresses. -/
def volumeMountsEqual (a b : List VolumeMount) : Bool := a.isEqv b (· == ·)

theorem volumeMountsEqual_iff {a b : List VolumeMount} : volumeMountsEqual a b = true ↔ a = b :=
  Slices.isEqv_iff_eq (by simp) a b

def boolPtrEqual : Option Bool → Option Bool → Bool
  | none, none => true
  | some a, some b => a == b
  | _, _ => false

def spaceDefaultsContainer (d : Option SpaceDefaults) : Option SpaceContainerDefaults :=
  d.bind SpaceDefaults.container

def spaceContainerDefaultsIsZero : Option SpaceContainerDefaults → Bool
  | none => true
  | some c =>
    c.user == "" && c.readOnlyRootFilesystem.isNone && c.capabilities.isNone &&
      c.securityOpts.length == 0 && c.tmpfs.length == 0 && c.resources.isNone

def spaceDefaultsEqual (a b : Option SpaceDefaults) : Bool :=
  match spaceDefaultsContainer a, spaceDefaultsContainer b with
  | none, none => true
  | some ac, some bc =>
    ac.user == bc.user && boolPtrEqual ac.readOnlyRootFilesystem bc.readOnlyRootFilesystem &&
      capabilitiesEqual ac.capabilities bc.capabilities &&
      slicesEqual ac.securityOpts bc.securityOpts && tmpfsEqual ac.tmpfs bc.tmpfs &&
      resourcesEqual ac.resources bc.resources
  | ac, bc => spaceContainerDefaultsIsZero ac && spaceContainerDefaultsIsZero bc

end Kukeon.Apply
