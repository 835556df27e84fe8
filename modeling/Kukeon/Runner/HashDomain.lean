import Kukeon.Apply.DiffSpec
import Kukeon.Runner.Records

/-! # The hash of a spec and the breaking differences

`ComputeContainerSpecHash` of `internal/controller/runner/spec_hash.go` is meant to change exactly
where `diffContainerSpec` of `internal/controller/apply/diff.go` calls a difference on the root
container breaking. The diff reads more: the switches for the namespaces of the host, the reference
and the ensure flag of a mount, and whether a limit of zero is written out.
-/

namespace Kukeon.Runner

open ModelHub Apply

/-- Two specs agree on the fields that the hash reads, a missing block being an empty one. -/
structure SameHashed (a b : ContainerSpec) : Prop where
  image : a.image = b.image
  command : a.command = b.command
  args : a.args = b.args
  workingDir : a.workingDir = b.workingDir
  privileged : a.privileged = b.privileged
  user : a.user = b.user
  readOnlyRootFilesystem : a.readOnlyRootFilesystem = b.readOnlyRootFilesystem
  capabilities : a.capabilities.getD {} = b.capabilities.getD {}
  securityOpts : a.securityOpts = b.securityOpts
  devices : a.devices = b.devices
  tmpfs : a.tmpfs = b.tmpfs
  resources : projectResources a.resources = projectResources b.resources
  volumes : a.volumes.map projectVolume = b.volumes.map projectVolume
  secrets : a.secrets = b.secrets

def limitsSet (resources : Option ContainerResources) : Bool × Bool × Bool :=
  let limits := resources.getD {}
  (limits.memoryLimitBytes.isSome, limits.cpuShares.isSome, limits.pidsLimit.isSome)

def unhashedMount (mount : VolumeMount) : Option (Ptr VolumeRef) × Bool :=
  (mount.volumeRef, mount.ensure)

structure SameUnhashed (a b : ContainerSpec) : Prop where
  hostNetwork : a.hostNetwork = b.hostNetwork
  hostPID : a.hostPID = b.hostPID
  hostCgroup : a.hostCgroup = b.hostCgroup
  limits : limitsSet a.resources = limitsSet b.resources
  volumes : a.volumes.map unhashedMount = b.volumes.map unhashedMount

section Agreement

variable {a b : ContainerSpec}

theorem volumes_eq_iff {xs ys : List VolumeMount} :
    xs = ys ↔ xs.map projectVolume = ys.map projectVolume ∧
      xs.map unhashedMount = ys.map unhashedMount := by
  induction xs generalizing ys with
  | nil => cases ys <;> simp
  | cons x xs ih =>
    cases ys with
    | nil => simp
    | cons y ys =>
      have hm : x = y ↔ projectVolume x = projectVolume y ∧
          unhashedMount x = unhashedMount y := by
        cases x
        cases y
        simp only [projectVolume, unhashedMount, VolumeMount.mk.injEq,
          VolumeHashPayload.mk.injEq, Prod.mk.injEq]
        tauto
      rw [List.cons.injEq, hm, ih]
      simp only [List.map_cons, List.cons.injEq]
      tauto

/-- A limit is known by its value and by whether it is written out. -/
theorem limit_eq_iff {left right : Option Int} :
    left = right ↔ left.getD 0 = right.getD 0 ∧ left.isSome = right.isSome := by
  cases left <;> cases right <;> simp

theorem projectResources_eq (resources : Option ContainerResources) :
    projectResources resources = projectResources (some (resources.getD {})) := by
  cases resources <;> rfl

theorem resources_eq_iff {left right : Option ContainerResources} :
    left.getD {} = right.getD {} ↔ projectResources left = projectResources right ∧
      limitsSet left = limitsSet right := by
  rw [projectResources_eq left, projectResources_eq right]
  unfold limitsSet projectResources
  generalize left.getD {} = x
  generalize right.getD {} = y
  cases x
  cases y
  simp only [ContainerResources.mk.injEq, limit_eq_iff, ResourcesHashPayload.mk.injEq,
    Prod.mk.injEq]
  tauto

theorem specHashPayload_eq_iff : specHashPayload a = specHashPayload b ↔ SameHashed a b := by
  constructor
  · intro hsm
    simp only [specHashPayload, ContainerSpecHashPayload.mk.injEq] at hsm
    constructor <;> tauto
  · rintro ⟨hi, hcm, ha, hw, hp, hu, hro, hc, hs,
      hd, ht, hr, hv, hsc⟩
    simp only [specHashPayload, hi, hcm, ha, hw, hp, hu, hro,
      hc, hs, hd, ht, hr, hv, hsc]

/-- On a root container the diff breaks unless the specs agree on both groups of fields. -/
theorem diffContainerSpec_isBreaking_root :
    (diffContainerSpec a b true).isBreaking = false ↔ SameHashed a b ∧ SameUnhashed a b := by
  rw [diffContainerSpec, DiffResult.isBreaking_checkAll, DiffResult.isBreaking_empty,
    Bool.false_or]
  simp only [containerChecks, textCheck, flagCheck, blockCheck, List.any_cons, List.any_nil,
    Bool.or_eq_false_iff, bne_eq_false_iff_eq, Bool.not_eq_false', Bool.and_true, Bool.and_false,
    slicesEqual_iff, volumeMountsEqual_iff, capabilitiesEqual_iff, tmpfsEqual_iff,
    resourcesEqual_iff, secretsEqual_iff]
  constructor
  · intro hsm
    have hv : a.volumes = b.volumes := by tauto
    have hr : a.resources.getD {} = b.resources.getD {} := by tauto
    have hm := volumes_eq_iff.mp hv
    have hl := resources_eq_iff.mp hr
    constructor
    · constructor <;> tauto
    · constructor <;> tauto
  · rintro ⟨hh, hu⟩
    have hv := volumes_eq_iff.mpr ⟨hh.volumes, hu.volumes⟩
    have hr := resources_eq_iff.mpr ⟨hh.resources, hu.limits⟩
    obtain ⟨hi, hcm, ha, hw, hp, hus, hro, hc, hs,
      hd, ht, -, -, hsc⟩ := hh
    obtain ⟨hhn, hhp, hhc, -, -⟩ := hu
    tauto

end Agreement

/-- Two specs whose payloads do not collide have different hashes exactly where the diff breaks,
    unless they differ only in what the hash does not read. -/
theorem hash_domain_iff (digest : ContainerSpecHashPayload → String) (a b : ContainerSpec)
    (distinct : digest (specHashPayload a) = digest (specHashPayload b) →
      specHashPayload a = specHashPayload b) :
    (computeContainerSpecHash digest a ≠ computeContainerSpecHash digest b ↔
        (diffContainerSpec a b true).isBreaking = true) ↔
      (SameHashed a b → SameUnhashed a b) := by
  have hh : computeContainerSpecHash digest a = computeContainerSpecHash digest b ↔
      SameHashed a b := by
    rw [← specHashPayload_eq_iff]
    exact ⟨distinct, congrArg digest⟩
  have hb : (diffContainerSpec a b true).isBreaking = true ↔
      ¬ (SameHashed a b ∧ SameUnhashed a b) := by
    rw [← diffContainerSpec_isBreaking_root, Bool.not_eq_false]
  rw [ne_eq, hh, hb]
  tauto

/-- The digests of two images differ, and so does the diff. -/
theorem hash_domain_of_image :
    computeContainerSpecHash (fun payload => payload.image) { image := "nginx:1" } ≠
        computeContainerSpecHash (fun payload => payload.image) { image := "nginx:2" } ↔
      (diffContainerSpec { image := "nginx:1" } { image := "nginx:2" } true).isBreaking = true :=
  (hash_domain_iff (fun payload => payload.image) { image := "nginx:1" } { image := "nginx:2" }
    (fun hs => absurd hs (by decide))).mpr fun hh => absurd hh.image (by decide)

def volumeNamed (name : String) : VolumeMount :=
  { kind := .volume, target := "/data", volumeRef := some { val := { name := name } } }

/-- The network namespace of the host, an explicit limit of zero and the volume that a mount refers
    to: each breaks in the diff and leaves what is hashed as it is. -/
theorem breaking_without_hash :
    ((diffContainerSpec { hostNetwork := true } {} true).isBreaking = true ∧
        specHashPayload { hostNetwork := true } = specHashPayload {}) ∧
      ((diffContainerSpec { resources := some { memoryLimitBytes := some 0 } } {} true).isBreaking =
          true ∧
        specHashPayload { resources := some { memoryLimitBytes := some 0 } } =
          specHashPayload {}) ∧
      (diffContainerSpec { volumes := [volumeNamed "new"] } { volumes := [volumeNamed "old"] }
          true).isBreaking = true ∧
        specHashPayload { volumes := [volumeNamed "new"] } =
          specHashPayload { volumes := [volumeNamed "old"] } := by
  refine ⟨⟨?_, rfl⟩, ⟨?_, rfl⟩, ?_, rfl⟩
  · decide
  · decide
  · decide

end Kukeon.Runner
