import Kukeon.ApiScheme.Cell

/-! # What the daemon writes and what it reads back

A stored cell is read back with its metadata, spec and status, except for what the source keeps
out of documents: the per-invocation cell fields, the container fields the runner stamps for one
build, and blocks that configure nothing. Reading also validates what writing does not.
-/

namespace Kukeon.ApiScheme

open ModelHub

@[simp] theorem convertSecret_build (secret : ContainerSecret) :
    convertSecretToInternal (buildSecretExternalFromInternal secret) = secret := by
  obtain ⟨name, fromFile, fromEnv, ref, path⟩ := secret
  cases ref <;> rfl

@[simp] theorem convertRepo_build (repo : ContainerRepo) :
    repoToInternal (repoToExternal repo) = repo := rfl

@[simp] theorem convertGit_build (git : ContainerGit) :
    gitToInternal (gitToExternal git) = git := by
  obtain ⟨author, committer, key, sign, signers⟩ := git
  cases author <;> cases committer <;> rfl

@[simp] theorem convertCapabilities_build (capabilities : ContainerCapabilities) :
    convertCapabilitiesToInternal (buildCapabilitiesExternalFromInternal capabilities) =
      capabilities := rfl

@[simp] theorem convertTmpfsMount_build (mount : ContainerTmpfsMount) :
    convertTmpfsMountToInternal (buildTmpfsMountExternalFromInternal mount) = mount := rfl

@[simp] theorem convertResources_build (resources : ContainerResources) :
    convertResourcesToInternal (buildResourcesExternalFromInternal resources) = resources := rfl

@[simp] theorem convertProvenance_build (provenance : CellProvenance) :
    convertCellProvenanceToInternal (buildCellProvenanceExternalFromInternal provenance) =
      provenance := rfl

@[simp] theorem convertStage_build (stage : TtyStage) :
    stageToInternal (stageToExternal stage) = stage := rfl

/-- A reference read back sits at a new address and holds the stored value. -/
theorem deref_volumeMountToInternal_build (addr : Addr) (mount : VolumeMount) :
    (volumeMountToInternal addr (volumeMountToExternal mount)).deref = mount.deref := by
  obtain ⟨kind, source, target, ref, readOnly, size, mode, ensure⟩ := mount
  cases ref <;> rfl

theorem deref_volumeMounts_build (decode container : Nat) (mounts : List VolumeMount) :
    (volumeMountsToInternal decode container (volumeMountsToExternal mounts)).map
        VolumeMount.deref = mounts.map VolumeMount.deref := by
  apply List.ext_getElem
  · simp [volumeMountsToInternal, volumeMountsToExternal]
  · intro index hil hi
    simp [volumeMountsToInternal, volumeMountsToExternal, deref_volumeMountToInternal_build]

def storedTty (tty : Option ContainerTty) : Option ContainerTty :=
  if ContainerTty.isEmpty tty then none else tty

theorem isEmpty_buildContainerTty (tty : ContainerTty) :
    V1Beta1.ContainerTty.isEmpty
        (some { prompt := tty.prompt
                onInit := tty.onInit.map stageToExternal
                logFile := tty.logFile
                logLevel := tty.logLevel }) = ContainerTty.isEmpty (some tty) := by
  simp [V1Beta1.ContainerTty.isEmpty, ContainerTty.isEmpty, List.all_map, Function.comp_def,
    stageToExternal]

theorem convertContainerTty_build (tty : Option ContainerTty) :
    convertContainerTtyToInternal (buildContainerTtyExternalFromInternal tty) = storedTty tty := by
  cases he : ContainerTty.isEmpty tty with
  | true => simp [buildContainerTtyExternalFromInternal, convertContainerTtyToInternal, storedTty,
      he, V1Beta1.ContainerTty.isEmpty]
  | false =>
    cases tty with
    | none => simp [ContainerTty.isEmpty] at he
    | some tty =>
      have hs := isEmpty_buildContainerTty tty
      rw [he] at hs
      simp [buildContainerTtyExternalFromInternal, convertContainerTtyToInternal, storedTty,
        he, hs, Function.comp_def]

def storedCellTty : Option CellTty → Option CellTty
  | none => none
  | some tty => if tty.default = "" then none else some tty

theorem convertCellTty_build (tty : Option CellTty) :
    convertCellTtyToInternal (buildCellTtyExternalFromInternal tty) = storedCellTty tty := by
  cases tty with
  | none => rfl
  | some tty =>
    by_cases he : tty.default = "" <;>
      simp [buildCellTtyExternalFromInternal, convertCellTtyToInternal, storedCellTty, he]

/-- A container as its stored form reads back: the fields that the runner stamps for one build
    and the source declares not part of the document are blank. -/
def storedContainer (spec : ContainerSpec) : ContainerSpec :=
  { spec with
    nestedCgroupRuntime := false
    cellCgroupPath := ""
    etcHostsPath := ""
    etcHostnamePath := ""
    tty := storedTty spec.tty }

theorem deref_convertContainerSpec_build (decode index : Nat) (spec : ContainerSpec) :
    (convertContainerSpecToInternal decode index
        (buildContainerSpecExternalFromInternal spec)).deref = (storedContainer spec).deref := by
  simp [convertContainerSpecToInternal, buildContainerSpecExternalFromInternal, storedContainer,
    ContainerSpec.deref, deref_volumeMounts_build, convertContainerTty_build, Function.comp_def]

theorem deref_convertContainers_build (decode : Nat) (specs : List ContainerSpec) :
    ((specs.map buildContainerSpecExternalFromInternal).mapIdx
        (convertContainerSpecToInternal decode)).map ContainerSpec.deref =
      (specs.map storedContainer).map ContainerSpec.deref := by
  apply List.ext_getElem
  · simp
  · intro index hil hi
    simp [deref_convertContainerSpec_build]

/-- What `resolveCellRootContainer` reads of a container. -/
def rootMark (spec : ContainerSpec) : Bool × String := (spec.root, spec.id)

theorem resolveCellRootContainer_congr {a b : CellSpec}
    (hs : a.rootContainerID = b.rootContainerID)
    (hmr : a.containers.map rootMark = b.containers.map rootMark) :
    resolveCellRootContainer a = resolveCellRootContainer b := by
  have hm : ∀ specs : List ContainerSpec,
      (specs.filter ContainerSpec.root).map ContainerSpec.id =
        ((specs.map rootMark).filter Prod.fst).map Prod.snd := by
    intro specs
    simp [List.filter_map, Function.comp_def, rootMark]
  have hn : ∀ specs : List ContainerSpec, ∀ id : String,
      (specs.any fun container => container.id == id) =
        (specs.map rootMark).any fun mark => mark.2 == id := by
    intro specs id
    simp [List.any_map, Function.comp_def, rootMark]
  simp only [resolveCellRootContainer, hm, hn, hmr, hs]

/-- The root container a spec resolves to, or nothing for a spec that is refused. -/
def resolvedRoot (spec : CellSpec) : String :=
  match resolveCellRootContainer spec with
  | .ok id => id
  | .error _ => ""

def storedSpec (spec : CellSpec) : CellSpec :=
  { spec with
    rootContainerID := resolvedRoot spec
    tty := storedCellTty spec.tty
    containers := spec.containers.map storedContainer
    runtimeEnv := []
    ignoreDiskPressure := false }

/-- A container status without the two records of the setup steps. -/
def withoutSetup (status : ContainerStatus) : ContainerStatus :=
  { status with repos := [], stages := [] }

def statusWithoutSetup (status : CellStatus) : CellStatus :=
  { status with containers := status.containers.map withoutSetup }

/-- The cell `back` is what reading the stored form of `cell` is meant to give. -/
structure ReadsBack (cell back : Cell) : Prop where
  metadata : back.metadata = cell.metadata
  spec : back.spec.deref = (storedSpec cell.spec).deref
  status : statusWithoutSetup back.status = statusWithoutSetup cell.status

def ReadValid (doc : V1Beta1.CellDoc) : Prop :=
  validateContainers doc.spec.containers = .ok () ∧ validateCellTty doc.spec = .ok ()

theorem rootMarks_convert_build (decode : Nat) (spec : CellSpec) :
    (convertCellSpecToInternal decode (buildCellSpecExternalFromInternal spec)).containers.map
        rootMark = spec.containers.map rootMark := by
  apply List.ext_getElem
  · simp [convertCellSpecToInternal, buildCellSpecExternalFromInternal]
  · intro index hil hi
    simp [convertCellSpecToInternal, buildCellSpecExternalFromInternal, rootMark,
      convertContainerSpecToInternal, buildContainerSpecExternalFromInternal]

theorem resolve_convert_build (decode : Nat) (spec : CellSpec) :
    resolveCellRootContainer
        (convertCellSpecToInternal decode (buildCellSpecExternalFromInternal spec)) =
      resolveCellRootContainer spec :=
  resolveCellRootContainer_congr rfl (rootMarks_convert_build decode spec)

theorem deref_convertCellSpec_build (decode : Nat) (spec : CellSpec) {root : String}
    (hr : resolveCellRootContainer spec = .ok root) :
    CellSpec.deref
        { convertCellSpecToInternal decode (buildCellSpecExternalFromInternal spec) with
          rootContainerID := root } = (storedSpec spec).deref := by
  simp [CellSpec.deref, storedSpec, resolvedRoot, hr, convertCellSpecToInternal,
    buildCellSpecExternalFromInternal, convertCellTty_build, deref_convertContainers_build,
    Function.comp_def]

theorem statusWithoutSetup_convert_build (status : CellStatus) :
    statusWithoutSetup (convertCellStatusToInternal (buildCellStatusExternalFromInternal status)) =
      statusWithoutSetup status := by
  simp [statusWithoutSetup, convertCellStatusToInternal, buildCellStatusExternalFromInternal,
    withoutSetup, convertContainerStatusToInternal, buildContainerStatusExternalFromInternal,
    Function.comp_def]

theorem buildCell_eq_ok {cell : Cell} {doc : V1Beta1.CellDoc}
    (ha : buildCellExternalFromInternal cell = .ok doc) :
    ∃ root, resolveCellRootContainer cell.spec = .ok root ∧
      doc =
        { apiVersion := .v1beta1
          metadata :=
            { name := cell.metadata.name
              labels := cell.metadata.labels
              annotations := cell.metadata.annotations
              generation := cell.metadata.generation }
          spec := buildCellSpecExternalFromInternal cell.spec
          status := buildCellStatusExternalFromInternal cell.status } := by
  unfold buildCellExternalFromInternal at ha
  cases hr : resolveCellRootContainer cell.spec with
  | error err => simp [hr, bind, Except.bind] at ha
  | ok root =>
    simp only [hr, bind, Except.bind, pure, Except.pure, Except.ok.injEq] at ha
    exact ⟨root, rfl, ha.symm⟩

/-- A stored cell can be read exactly when it passes the read-side checks, and then reads back as
    its stored form. -/
theorem convertCellDoc_build (decode : Nat) (cell : Cell) (doc : V1Beta1.CellDoc)
    (accepted : buildCellExternalFromInternal cell = .ok doc) :
    ((∃ back, convertCellDocToInternal decode doc = .ok back) ↔ ReadValid doc) ∧
      ∀ back, convertCellDocToInternal decode doc = .ok back → ReadsBack cell back := by
  obtain ⟨root, hr, rfl⟩ := buildCell_eq_ok accepted
  have hrb := (resolve_convert_build decode cell.spec).trans hr
  simp only [convertCellDocToInternal, ReadValid, hrb, bind, Except.bind, pure,
    Except.pure]
  cases hc : validateContainers (buildCellSpecExternalFromInternal cell.spec).containers with
  | error err => simp
  | ok _ =>
    cases tty : validateCellTty (buildCellSpecExternalFromInternal cell.spec) with
    | error err => simp
    | ok _ =>
      refine ⟨by simp, ?_⟩
      intro back hrd
      cases hrd
      exact ⟨rfl, deref_convertCellSpec_build decode cell.spec hr,
        statusWithoutSetup_convert_build cell.status⟩

namespace StoredCells

/-- A cell as the runner stores it after a build, with the cgroup path stamped on its workload. -/
def stamped : Cell where
  metadata := { name := "web", generation := 2 }
  spec :=
    { id := "web", realmName := "r", spaceName := "s", stackName := "t"
      containers := [{ id := "app", image := "nginx", cellCgroupPath := "/kukeon/r/s/t/web" }] }
  status :=
    { state := .ready, readyObserved := true
      containers := [{ id := "app", name := "app", state := .ready, restartCount := 2 }] }

def capped : Cell where
  metadata := { name := "web" }
  spec :=
    { id := "web", realmName := "r", spaceName := "s", stackName := "t"
      containers :=
        [{ id := "app", image := "nginx", restartPolicy := "always", restartMaxRetries := some 3 }] }

def stored (cell : Cell) : V1Beta1.CellDoc :=
  match buildCellExternalFromInternal cell with
  | .ok doc => doc
  | .error _ => {}

end StoredCells

theorem convertCellDoc_build_stamped :
    ∃ back, convertCellDocToInternal 1 (StoredCells.stored StoredCells.stamped) = .ok back ∧
      ReadsBack StoredCells.stamped back := by
  have hs := convertCellDoc_build 1 StoredCells.stamped
    (StoredCells.stored StoredCells.stamped) (by decide)
  obtain ⟨back, hr⟩ := hs.1.mpr ⟨by decide, by decide⟩
  exact ⟨back, hr, hs.2 back hr⟩

/-- The round trip without the exceptions: reading succeeds and changes nothing but the two
    per-invocation fields of the cell. -/
def RoundTripsExactly (cell : Cell) : Prop :=
  ∀ doc, buildCellExternalFromInternal cell = .ok doc →
    ∃ back, convertCellDocToInternal 1 doc = .ok back ∧ back.metadata = cell.metadata ∧
      back.spec.deref =
        { cell.spec.deref with runtimeEnv := [], ignoreDiskPressure := false } ∧
      back.status = cell.status

/-- A stamped path is not read back, and a cell that reading refuses can be written. -/
theorem roundTrip_not_exact :
    ¬ RoundTripsExactly StoredCells.stamped ∧ ¬ RoundTripsExactly StoredCells.capped := by
  constructor
  · intro he
    obtain ⟨back, hrd, -, hs, -⟩ :=
      he (StoredCells.stored StoredCells.stamped) (by decide)
    have hl : (convertCellDocToInternal 1 (StoredCells.stored StoredCells.stamped)).map
        (fun cell => cell.spec.deref) =
          .ok { StoredCells.stamped.spec.deref with
            runtimeEnv := [], ignoreDiskPressure := false } := by
      rw [hrd, Except.map, hs]
    exact absurd hl (by decide)
  · intro he
    obtain ⟨back, hrd, -⟩ := he (StoredCells.stored StoredCells.capped) (by decide)
    have hr : (convertCellDocToInternal 1 (StoredCells.stored StoredCells.capped)).isOk =
        false := by decide
    rw [hrd] at hr
    exact absurd hr (by simp [Except.isOk, Except.toBool])

end Kukeon.ApiScheme
