import Kukeon.Apply.Diff

/-! # What the diff decides

One lemma for each function of the diff: which inputs make it report a change, and which make
the change a breaking one. Everything the apply layer does with a diff depends on these two
facts and on whether the root container was touched.
-/

namespace Kukeon.Apply

open ModelHub GoText

namespace DiffResult

/-- The result carries the classification that refuses an in-place update. -/
def isBreaking (result : DiffResult) : Bool := decide (result.changeType = .breaking)

@[simp] theorem hasChanges_empty : ({} : DiffResult).hasChanges = false := rfl

@[simp] theorem isBreaking_empty : ({} : DiffResult).isBreaking = false := rfl

theorem raise_eq_breaking {current incoming : ChangeType} (hm : incoming ≠ .breaking) :
    raise current incoming = .breaking ↔ current = .breaking := by
  cases current <;> simp [raise, hm]

theorem absorb_eq_breaking {current : ChangeType} {nested : DiffResult} :
    nested.absorb current = .breaking ↔
      current = .breaking ∨ nested.changeType = .breaking := by
  by_cases hb : nested.changeType = .breaking
  · simp [absorb, hb]
  · simp [absorb, hb, raise_eq_breaking hb]

theorem hasChanges_check (result : DiffResult) (field : FieldCheck) :
    (result.check field).hasChanges = (result.hasChanges || field.changed) := by
  cases hc : field.changed with
  | false => simp [check, hc]
  | true => cases hb : field.breaking <;> simp [check, record, hc, hb]

theorem isBreaking_check (result : DiffResult) (field : FieldCheck) :
    (result.check field).isBreaking =
      (result.isBreaking || (field.changed && field.breaking)) := by
  cases hc : field.changed with
  | false => simp [check, hc]
  | true =>
    cases hb : field.breaking with
    | false => simp [check, record, hc, hb, isBreaking, raise_eq_breaking]
    | true => simp [check, record, hc, hb, isBreaking]

theorem hasChanges_checkAll (result : DiffResult) (checks : List FieldCheck) :
    (result.checkAll checks).hasChanges =
      (result.hasChanges || checks.any FieldCheck.changed) :=
  Slices.foldl_flag hasChanges_check result checks

theorem isBreaking_checkAll (result : DiffResult) (checks : List FieldCheck) :
    (result.checkAll checks).isBreaking =
      (result.isBreaking || checks.any fun check => check.changed && check.breaking) :=
  Slices.foldl_flag isBreaking_check result checks

end DiffResult

/-- The fields of a container that the diff reads, in normal form, without the mounts and the
    network config path, which it compares by rules of their own. -/
def diffedFields (spec : ContainerSpec) : ContainerSpec :=
  { image := spec.image
    command := spec.command
    args := spec.args
    workingDir := spec.workingDir
    env := spec.env
    ports := spec.ports
    networks := spec.networks
    networksAliases := spec.networksAliases
    privileged := spec.privileged
    hostNetwork := spec.hostNetwork
    hostPID := spec.hostPID
    hostCgroup := spec.hostCgroup
    user := spec.user
    readOnlyRootFilesystem := spec.readOnlyRootFilesystem
    capabilities := some (spec.capabilities.getD {})
    securityOpts := spec.securityOpts
    devices := spec.devices
    tmpfs := spec.tmpfs
    resources := some (spec.resources.getD {})
    secrets := spec.secrets
    repos := spec.repos
    git := normalGit spec.git
    restartPolicy := spec.restartPolicy
    attachable := spec.attachable
    tty := normalBlock ContainerTty.isEmpty id spec.tty }

/-- Two containers between which `diffContainerSpec` sees no difference. -/
structure DiffedSame (desired actual : ContainerSpec) : Prop where
  fields : diffedFields desired = diffedFields actual
  volumes : desired.volumes = actual.volumes
  cniConfigPath : desired.cniConfigPath = "" ∨ desired.cniConfigPath = actual.cniConfigPath

theorem diffContainerSpec_hasChanges {desired actual : ContainerSpec} {rootContainer : Bool} :
    (diffContainerSpec desired actual rootContainer).hasChanges = false ↔
      DiffedSame desired actual := by
  have hc : (diffContainerSpec desired actual rootContainer).hasChanges =
      (containerChecks desired actual rootContainer).any FieldCheck.changed := by
    rw [diffContainerSpec, DiffResult.hasChanges_checkAll, DiffResult.hasChanges_empty,
      Bool.false_or]
  rw [hc]
  simp only [containerChecks, textCheck, flagCheck, blockCheck, List.any_cons, List.any_nil,
    Bool.or_eq_false_iff, bne_eq_false_iff_eq, Bool.not_eq_false', Bool.and_eq_false_iff,
    slicesEqual_iff, volumeMountsEqual_iff, capabilitiesEqual_iff, tmpfsEqual_iff,
    resourcesEqual_iff, secretsEqual_iff, reposEqual_iff, ttyEqual_iff, gitEqual_iff]
  constructor
  · intro hs
    refine ⟨?_, ?_, ?_⟩
    · simp only [diffedFields, ContainerSpec.mk.injEq, Option.some.injEq]
      tauto
    · tauto
    · tauto
  · rintro ⟨hf, hv, cni⟩
    simp only [diffedFields, ContainerSpec.mk.injEq, Option.some.injEq] at hf
    tauto

/-- A diff that reports a change has classified it, as compatible or as breaking. -/
def Graded (result : DiffResult) : Prop :=
  if result.hasChanges then result.changeType = .compatible ∨ result.changeType = .breaking
  else result.changeType = .none

theorem graded_checkAll {result : DiffResult} (hg : Graded result) (checks : List FieldCheck) :
    Graded (result.checkAll checks) := by
  induction checks generalizing result with
  | nil => exact hg
  | cons check rest ih =>
    refine ih ?_
    simp only [Graded, DiffResult.check, DiffResult.record, DiffResult.raise] at *
    grind

theorem graded_diffContainerSpec (desired actual : ContainerSpec) (rootContainer : Bool) :
    Graded (diffContainerSpec desired actual rootContainer) :=
  graded_checkAll (by simp [Graded]) _

theorem diffContainerSpec_hasChanges_of_isBreaking {desired actual : ContainerSpec}
    {rootContainer : Bool}
    (hb : (diffContainerSpec desired actual rootContainer).isBreaking = true) :
    (diffContainerSpec desired actual rootContainer).hasChanges = true := by
  have hg := graded_diffContainerSpec desired actual rootContainer
  simp only [Graded, DiffResult.isBreaking] at *
  grind

/-- Whether the comparison of the root containers reports a change. -/
def rootChanged : Option ContainerSpec → Option ContainerSpec → Bool
  | some desired, some actual => (diffContainerSpec desired actual true).hasChanges
  | some _, none => true
  | none, _ => false

def rootBreaks : Option ContainerSpec → Option ContainerSpec → Bool
  | some desired, some actual => (diffContainerSpec desired actual true).isBreaking
  | some _, none => true
  | none, _ => false

/-- Whether the turn of the desired loop for `id` reports a change. -/
def childChanged (desired actual : List ContainerSpec) (id : String) : Bool :=
  match childByID desired id, childByID actual id with
  | some desiredContainer, some actualContainer =>
    (diffContainerSpec desiredContainer actualContainer false).hasChanges
  | some _, none => true
  | none, _ => false

def childBreaks (desired actual : List ContainerSpec) (id : String) : Bool :=
  match childByID desired id, childByID actual id with
  | some desiredContainer, some actualContainer =>
    (diffContainerSpec desiredContainer actualContainer false).isBreaking
  | _, _ => false

section Loops

variable (result : CellDiffResult) (desired actual : List ContainerSpec) (id : String)

theorem diffRootContainer_changed (desiredRoot actualRoot : Option ContainerSpec) :
    (diffRootContainer result desiredRoot actualRoot).hasChanges =
        (result.hasChanges || rootChanged desiredRoot actualRoot) ∧
      (diffRootContainer result desiredRoot actualRoot).rootContainerChanged =
        (result.rootContainerChanged || rootChanged desiredRoot actualRoot) := by
  cases desiredRoot with
  | none => simp [diffRootContainer, rootChanged]
  | some d =>
    cases actualRoot with
    | none => simp [diffRootContainer, rootChanged]
    | some a =>
      cases hc : (diffContainerSpec d a true).hasChanges <;>
        simp [diffRootContainer, rootChanged, hc]

theorem diffRootContainer_isBreaking (desiredRoot actualRoot : Option ContainerSpec) :
    (diffRootContainer result desiredRoot actualRoot).isBreaking =
      (result.isBreaking || rootBreaks desiredRoot actualRoot) := by
  cases desiredRoot with
  | none => simp [diffRootContainer, rootBreaks]
  | some d =>
    cases actualRoot with
    | none => simp [diffRootContainer, rootBreaks, DiffResult.isBreaking]
    | some a =>
      cases hc : (diffContainerSpec d a true).hasChanges with
      | false =>
        have hm : (diffContainerSpec d a true).isBreaking = false := by
          by_contra hb
          have := diffContainerSpec_hasChanges_of_isBreaking (by simpa using hb)
          exact absurd this (by simp [hc])
        simp [diffRootContainer, rootBreaks, hc, hm]
      | true =>
        simp [diffRootContainer, rootBreaks, hc, DiffResult.isBreaking,
          DiffResult.absorb_eq_breaking]

def settle (current : ChangeType) (types : List ChangeType) : ChangeType :=
  types.foldl (fun t next => if next = .breaking then .breaking else DiffResult.raise t next) current

theorem settle_eq_breaking {t : ChangeType} {types : List ChangeType} :
    settle t types = .breaking ↔ t = .breaking ∨ .breaking ∈ types := by
  induction types generalizing t with
  | nil => simp [settle]
  | cons next rest ih =>
    refine ih.trans ?_
    grind [DiffResult.raise]

/-- What the turn for one container adds to the classification. -/
def childType (desired actual : List ContainerSpec) (id : String) : Option ChangeType :=
  match childByID desired id, childByID actual id with
  | some d, some a =>
    let diff := diffContainerSpec d a false
    if diff.hasChanges then some diff.changeType else none
  | some _, none => some .additive
  | none, _ => none

theorem breaking_mem_childTypes (ids : List String) :
    .breaking ∈ ids.filterMap (childType desired actual) ↔
      ids.any (childBreaks desired actual) = true := by
  have one : ∀ id, childType desired actual id = some .breaking ↔
      childBreaks desired actual id = true := by
    intro id
    cases hd : childByID desired id with
    | none => simp [childType, childBreaks, hd]
    | some d =>
      cases ha : childByID actual id with
      | none => simp [childType, childBreaks, hd, ha]
      | some a =>
        have := @diffContainerSpec_hasChanges_of_isBreaking d a false
        simp_all [childType, childBreaks, DiffResult.isBreaking]
  simp [one]

/-- The turns of the first loop add to the result, whatever stands there. -/
theorem foldl_diffChild (ids : List String) (result : CellDiffResult) :
    ids.foldl (diffChild desired actual) result =
      { result with
        hasChanges := result.hasChanges || ids.any (childChanged desired actual)
        changeType := settle result.changeType (ids.filterMap (childType desired actual))
        breakingChanges := result.breakingChanges ++
          ids.flatMap fun id => (diffChild desired actual {} id).breakingChanges
        containers := result.containers ++
          ids.flatMap fun id => (diffChild desired actual {} id).containers } := by
  induction ids generalizing result with
  | nil => simp [settle]
  | cons id rest ih =>
    rw [List.foldl_cons, ih]
    cases hd : childByID desired id with
    | none => simp [diffChild, childChanged, childType, hd]
    | some d =>
      cases ha : childByID actual id with
      | none => simp [diffChild, childChanged, childType, hd, ha, settle]
      | some a =>
        cases hc : (diffContainerSpec d a false).hasChanges <;>
          simp [diffChild, childChanged, childType, hd, ha, hc, settle, DiffResult.absorb]

theorem foldl_diffOrphan (ids : List String) (result : CellDiffResult) :
    let left := ids.filter fun id => (childByID desired id).isNone
    ids.foldl (diffOrphan desired) result =
      { result with
        hasChanges := result.hasChanges || ids.any fun id => (childByID desired id).isNone
        changeType := settle result.changeType (left.map fun _ => .additive)
        orphans := result.orphans ++ left } := by
  induction ids generalizing result with
  | nil => simp [settle]
  | cons id rest ih =>
    rw [List.foldl_cons, ih]
    cases hd : childByID desired id <;> simp [diffOrphan, hd, settle]

theorem loops_isBreaking (first second : List String) :
    (second.foldl (diffOrphan desired)
      (first.foldl (diffChild desired actual) result)).isBreaking =
        (result.isBreaking || first.any (childBreaks desired actual)) := by
  rw [foldl_diffOrphan, foldl_diffChild, Bool.eq_iff_iff, Bool.or_eq_true,
    ← breaking_mem_childTypes]
  simp [DiffResult.isBreaking, settle_eq_breaking]

end Loops

/-- The coordinates whose difference ends the comparison at once. -/
structure SameIdentity (desired actual : Cell) : Prop where
  name : desired.metadata.name = actual.metadata.name
  realmName : desired.spec.realmName = actual.spec.realmName
  spaceName : desired.spec.spaceName = actual.spec.spaceName
  stackName : desired.spec.stackName = actual.spec.stackName

theorem firstChange_eq_none {checks : List FieldCheck} :
    firstChange checks = none ↔ ∀ check ∈ checks, check.changed = false := by
  simp [firstChange]

theorem firstChange_hasChanges {checks : List FieldCheck} {result : DiffResult}
    (he : firstChange checks = some result) : result.hasChanges = true := by
  obtain ⟨check, _, rfl⟩ := Option.map_eq_some_iff.mp he
  cases hb : check.breaking <;> simp [DiffResult.record]

theorem cellIdentityChecks_none {desired actual : Cell} :
    firstChange (cellIdentityChecks desired actual) = none ↔ SameIdentity desired actual := by
  rw [firstChange_eq_none]
  simp only [cellIdentityChecks, textCheck, FieldCheck.at, List.mem_cons, List.not_mem_nil,
    or_false, forall_eq_or_imp, forall_eq, bne_eq_false_iff_eq]
  constructor
  · intro hs
    exact ⟨hs.1, hs.2.1, hs.2.2.1, hs.2.2.2⟩
  · intro hs
    exact ⟨hs.name, hs.realmName, hs.spaceName, hs.stackName⟩

section SameIdentity

variable {desired actual : Cell} (identity : SameIdentity desired actual)

include identity

theorem diffCell_of_sameIdentity :
    diffCell desired actual =
      (childIDs actual.spec.containers).foldl (diffOrphan desired.spec.containers)
        ((childIDs desired.spec.containers).foldl
          (diffChild desired.spec.containers actual.spec.containers)
          (diffRootContainer
            { toDiffResult := DiffResult.checkAll {} (cellChecks desired actual) }
            (findRootContainer desired.spec.containers)
            (findRootContainer actual.spec.containers))) := by
  unfold diffCell
  rw [cellIdentityChecks_none.mpr identity]

theorem diffCell_hasChanges_eq :
    (diffCell desired actual).hasChanges =
      ((cellChecks desired actual).any FieldCheck.changed ||
        rootChanged (findRootContainer desired.spec.containers)
          (findRootContainer actual.spec.containers) ||
        (childIDs desired.spec.containers).any
          (childChanged desired.spec.containers actual.spec.containers) ||
        (childIDs actual.spec.containers).any fun id =>
          (childByID desired.spec.containers id).isNone) := by
  rw [diffCell_of_sameIdentity identity, foldl_diffOrphan, foldl_diffChild]
  dsimp only
  rw [(diffRootContainer_changed _ _ _).1, DiffResult.hasChanges_checkAll, DiffResult.hasChanges_empty,
    Bool.false_or]

theorem diffCell_isBreaking_eq :
    (diffCell desired actual).isBreaking =
      ((desired.spec.nestedCgroupRuntime != actual.spec.nestedCgroupRuntime) ||
        rootBreaks (findRootContainer desired.spec.containers)
          (findRootContainer actual.spec.containers) ||
        (childIDs desired.spec.containers).any
          (childBreaks desired.spec.containers actual.spec.containers)) := by
  rw [diffCell_of_sameIdentity identity, loops_isBreaking, diffRootContainer_isBreaking,
    DiffResult.isBreaking_checkAll, DiffResult.isBreaking_empty, Bool.false_or]
  simp [cellChecks, blockCheck, flagCheck, FieldCheck.at]

theorem diffCell_rootContainerChanged_eq :
    (diffCell desired actual).rootContainerChanged =
      rootChanged (findRootContainer desired.spec.containers)
        (findRootContainer actual.spec.containers) := by
  rw [diffCell_of_sameIdentity identity, foldl_diffOrphan, foldl_diffChild]
  exact (diffRootContainer_changed _ _ _).2.trans (Bool.false_or _)

end SameIdentity

end Kukeon.Apply
