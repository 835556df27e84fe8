import Kukeon.ApiScheme.Validate

/-! # Conversion between cell documents and internal cells

`ConvertCellDocToInternal` and `BuildCellExternalFromInternal` of `internal/apischeme/scheme.go`
with the converters they call, under the source's names. Reading a document allocates its volume
references anew; `decode` numbers the reading.
-/

namespace Kukeon.ApiScheme

open GoText

def volumeRefToInternal (addr : ModelHub.Addr) (ref : V1Beta1.VolumeRef) :
    ModelHub.Ptr ModelHub.VolumeRef where
  addr := addr
  val := { name := ref.name, realm := ref.realm, space := ref.space, stack := ref.stack }

def volumeRefToExternal (ref : ModelHub.Ptr ModelHub.VolumeRef) : V1Beta1.VolumeRef where
  name := ref.val.name
  realm := ref.val.realm
  space := ref.val.space
  stack := ref.val.stack

def volumeMountToInternal (addr : ModelHub.Addr) (mount : V1Beta1.VolumeMount) :
    ModelHub.VolumeMount where
  kind := mount.kind
  source := mount.source
  target := mount.target
  volumeRef := mount.volumeRef.map (volumeRefToInternal addr)
  readOnly := mount.readOnly
  sizeBytes := mount.sizeBytes
  mode := mount.mode
  ensure := mount.ensure

def volumeMountToExternal (mount : ModelHub.VolumeMount) : V1Beta1.VolumeMount where
  kind := mount.kind
  source := mount.source
  target := mount.target
  volumeRef := mount.volumeRef.map volumeRefToExternal
  readOnly := mount.readOnly
  sizeBytes := mount.sizeBytes
  mode := mount.mode
  ensure := mount.ensure

/-- The mounts of the container at position `container` of the document. -/
def volumeMountsToInternal (decode container : Nat) (mounts : List V1Beta1.VolumeMount) :
    List ModelHub.VolumeMount :=
  mounts.mapIdx fun index mount => volumeMountToInternal ⟨decode, container, index⟩ mount

def volumeMountsToExternal (mounts : List ModelHub.VolumeMount) : List V1Beta1.VolumeMount :=
  mounts.map volumeMountToExternal

def secretRefToInternal (ref : V1Beta1.ContainerSecretRef) : ModelHub.ContainerSecretRef where
  name := ref.name
  realm := ref.realm
  space := ref.space
  stack := ref.stack
  cell := ref.cell

def secretRefToExternal (ref : ModelHub.ContainerSecretRef) : V1Beta1.ContainerSecretRef where
  name := ref.name
  realm := ref.realm
  space := ref.space
  stack := ref.stack
  cell := ref.cell

def convertSecretToInternal (secret : V1Beta1.ContainerSecret) : ModelHub.ContainerSecret where
  name := secret.name
  fromFile := secret.fromFile
  fromEnv := secret.fromEnv
  secretRef := secret.secretRef.map secretRefToInternal
  mountPath := secret.mountPath

def buildSecretExternalFromInternal (secret : ModelHub.ContainerSecret) :
    V1Beta1.ContainerSecret where
  name := secret.name
  fromFile := secret.fromFile
  fromEnv := secret.fromEnv
  secretRef := secret.secretRef.map secretRefToExternal
  mountPath := secret.mountPath

def repoToInternal (repo : V1Beta1.ContainerRepo) : ModelHub.ContainerRepo where
  name := repo.name
  target := repo.target
  branch := repo.branch
  ref := repo.ref
  url := repo.url
  required := repo.required

def repoToExternal (repo : ModelHub.ContainerRepo) : V1Beta1.ContainerRepo where
  name := repo.name
  target := repo.target
  branch := repo.branch
  ref := repo.ref
  url := repo.url
  required := repo.required

def gitIdentityToInternal (id : V1Beta1.GitIdentity) : ModelHub.GitIdentity :=
  { name := id.name, email := id.email }

def gitIdentityToExternal (id : ModelHub.GitIdentity) : V1Beta1.GitIdentity :=
  { name := id.name, email := id.email }

def gitToInternal (git : V1Beta1.ContainerGit) : ModelHub.ContainerGit where
  author := git.author.map gitIdentityToInternal
  committer := git.committer.map gitIdentityToInternal
  signingKey := git.signingKey
  sign := git.sign
  allowedSigners := git.allowedSigners

def gitToExternal (git : ModelHub.ContainerGit) : V1Beta1.ContainerGit where
  author := git.author.map gitIdentityToExternal
  committer := git.committer.map gitIdentityToExternal
  signingKey := git.signingKey
  sign := git.sign
  allowedSigners := git.allowedSigners

def stageToInternal (stage : V1Beta1.TtyStage) : ModelHub.TtyStage :=
  { script := stage.script, runOn := stage.runOn }

def stageToExternal (stage : ModelHub.TtyStage) : V1Beta1.TtyStage :=
  { script := stage.script, runOn := stage.runOn }

def convertContainerTtyToInternal (tty : Option V1Beta1.ContainerTty) :
    Option ModelHub.ContainerTty :=
  if V1Beta1.ContainerTty.isEmpty tty then none
  else
    tty.map fun tty =>
      { prompt := tty.prompt
        onInit := tty.onInit.map stageToInternal
        logFile := tty.logFile
        logLevel := tty.logLevel }

def buildContainerTtyExternalFromInternal (tty : Option ModelHub.ContainerTty) :
    Option V1Beta1.ContainerTty :=
  if ModelHub.ContainerTty.isEmpty tty then none
  else
    tty.map fun tty =>
      { prompt := tty.prompt
        onInit := tty.onInit.map stageToExternal
        logFile := tty.logFile
        logLevel := tty.logLevel }

def convertCapabilitiesToInternal (capabilities : V1Beta1.ContainerCapabilities) :
    ModelHub.ContainerCapabilities :=
  { drop := capabilities.drop, add := capabilities.add }

def buildCapabilitiesExternalFromInternal (capabilities : ModelHub.ContainerCapabilities) :
    V1Beta1.ContainerCapabilities :=
  { drop := capabilities.drop, add := capabilities.add }

def convertTmpfsMountToInternal (mount : V1Beta1.ContainerTmpfsMount) :
    ModelHub.ContainerTmpfsMount :=
  { path := mount.path, sizeBytes := mount.sizeBytes, options := mount.options }

def buildTmpfsMountExternalFromInternal (mount : ModelHub.ContainerTmpfsMount) :
    V1Beta1.ContainerTmpfsMount :=
  { path := mount.path, sizeBytes := mount.sizeBytes, options := mount.options }

def convertResourcesToInternal (resources : V1Beta1.ContainerResources) :
    ModelHub.ContainerResources where
  memoryLimitBytes := resources.memoryLimitBytes
  cpuShares := resources.cpuShares
  pidsLimit := resources.pidsLimit

def buildResourcesExternalFromInternal (resources : ModelHub.ContainerResources) :
    V1Beta1.ContainerResources where
  memoryLimitBytes := resources.memoryLimitBytes
  cpuShares := resources.cpuShares
  pidsLimit := resources.pidsLimit

def convertContainerSpecToInternal (decode index : Nat) (spec : V1Beta1.ContainerSpec) :
    ModelHub.ContainerSpec where
  id := spec.id
  containerdID := spec.containerdID
  realmName := spec.realmID
  spaceName := spec.spaceID
  stackName := spec.stackID
  cellName := spec.cellID
  root := spec.root
  image := spec.image
  command := spec.command
  args := spec.args
  workingDir := spec.workingDir
  env := spec.env
  ports := spec.ports
  volumes := volumeMountsToInternal decode index spec.volumes
  networks := spec.networks
  networksAliases := spec.networksAliases
  privileged := spec.privileged
  hostNetwork := spec.hostNetwork
  hostPID := spec.hostPID
  hostCgroup := spec.hostCgroup
  user := spec.user
  readOnlyRootFilesystem := spec.readOnlyRootFilesystem
  capabilities := spec.capabilities.map convertCapabilitiesToInternal
  securityOpts := spec.securityOpts
  devices := spec.devices
  tmpfs := spec.tmpfs.map convertTmpfsMountToInternal
  resources := spec.resources.map convertResourcesToInternal
  secrets := spec.secrets.map convertSecretToInternal
  repos := spec.repos.map repoToInternal
  git := spec.git.map gitToInternal
  cniConfigPath := spec.cniConfigPath
  restartPolicy := spec.restartPolicy
  restartBackoffSeconds := spec.restartBackoffSeconds
  restartMaxRetries := spec.restartMaxRetries
  attachable := spec.attachable
  tty := convertContainerTtyToInternal spec.tty

def buildContainerSpecExternalFromInternal (spec : ModelHub.ContainerSpec) :
    V1Beta1.ContainerSpec where
  id := spec.id
  containerdID := spec.containerdID
  realmID := spec.realmName
  spaceID := spec.spaceName
  stackID := spec.stackName
  cellID := spec.cellName
  root := spec.root
  image := spec.image
  command := spec.command
  args := spec.args
  workingDir := spec.workingDir
  env := spec.env
  ports := spec.ports
  volumes := volumeMountsToExternal spec.volumes
  networks := spec.networks
  networksAliases := spec.networksAliases
  privileged := spec.privileged
  hostNetwork := spec.hostNetwork
  hostPID := spec.hostPID
  hostCgroup := spec.hostCgroup
  user := spec.user
  readOnlyRootFilesystem := spec.readOnlyRootFilesystem
  capabilities := spec.capabilities.map buildCapabilitiesExternalFromInternal
  securityOpts := spec.securityOpts
  devices := spec.devices
  tmpfs := spec.tmpfs.map buildTmpfsMountExternalFromInternal
  resources := spec.resources.map buildResourcesExternalFromInternal
  secrets := spec.secrets.map buildSecretExternalFromInternal
  repos := spec.repos.map repoToExternal
  git := spec.git.map gitToExternal
  cniConfigPath := spec.cniConfigPath
  restartPolicy := spec.restartPolicy
  restartBackoffSeconds := spec.restartBackoffSeconds
  restartMaxRetries := spec.restartMaxRetries
  attachable := spec.attachable
  tty := buildContainerTtyExternalFromInternal spec.tty

/-- The two converters of a container status list leave out its `Repos` and `Stages`. -/
def convertContainerStatusToInternal (status : V1Beta1.ContainerStatus) :
    ModelHub.ContainerStatus where
  name := status.name
  id := status.id
  createdAt := status.createdAt
  state := status.state
  restartCount := status.restartCount
  restartTime := status.restartTime
  startTime := status.startTime
  finishTime := status.finishTime
  exitCode := status.exitCode
  exitSignal := status.exitSignal

def buildContainerStatusExternalFromInternal (status : ModelHub.ContainerStatus) :
    V1Beta1.ContainerStatus where
  name := status.name
  id := status.id
  createdAt := status.createdAt
  state := status.state
  restartCount := status.restartCount
  restartTime := status.restartTime
  startTime := status.startTime
  finishTime := status.finishTime
  exitCode := status.exitCode
  exitSignal := status.exitSignal

def convertCellTtyToInternal : Option V1Beta1.CellTty → Option ModelHub.CellTty
  | none => none
  | some tty => if tty.default = "" then none else some { default := tty.default }

def buildCellTtyExternalFromInternal : Option ModelHub.CellTty → Option V1Beta1.CellTty
  | none => none
  | some tty => if tty.default = "" then none else some { default := tty.default }

def convertCellProvenanceToInternal (provenance : V1Beta1.CellProvenance) :
    ModelHub.CellProvenance where
  bindingKind := provenance.bindingKind
  bindingRef :=
    { name := provenance.bindingRef.name
      realm := provenance.bindingRef.realm
      space := provenance.bindingRef.space
      stack := provenance.bindingRef.stack }
  params := provenance.params
  envOverrides := provenance.envOverrides

def buildCellProvenanceExternalFromInternal (provenance : ModelHub.CellProvenance) :
    V1Beta1.CellProvenance where
  bindingKind := provenance.bindingKind
  bindingRef :=
    { name := provenance.bindingRef.name
      realm := provenance.bindingRef.realm
      space := provenance.bindingRef.space
      stack := provenance.bindingRef.stack }
  params := provenance.params
  envOverrides := provenance.envOverrides

/-- The root container a spec designates, by id or by flag; an error when the two disagree. -/
def resolveCellRootContainer (spec : ModelHub.CellSpec) : Except String String :=
  let rootMarked := (spec.containers.filter ModelHub.ContainerSpec.root).map
    ModelHub.ContainerSpec.id
  if rootMarked.length > 1 then
    .error ("only one container in a cell may have root: true: [" ++
      String.intercalate " " rootMarked ++ "]")
  else if spec.rootContainerID ≠ "" then
    if (spec.containers.any fun container => container.id == spec.rootContainerID) = false then
      .error ("rootContainerId " ++ quoted spec.rootContainerID ++
        " not found in containers array")
    else
      match rootMarked with
      | [marked] =>
        if marked ≠ spec.rootContainerID then
          .error ("rootContainerId disagrees with container marked root: true: " ++
            "rootContainerId is " ++ quoted spec.rootContainerID ++ " but container " ++
            quoted marked ++ " has root: true")
        else .ok spec.rootContainerID
      | _ => .ok spec.rootContainerID
  else
    match rootMarked with
    | [marked] => .ok marked
    | _ => .ok ""

/-- The spec as converted, before its root container is resolved. -/
def convertCellSpecToInternal (decode : Nat) (spec : V1Beta1.CellSpec) : ModelHub.CellSpec where
  id := spec.id
  realmName := spec.realmID
  spaceName := spec.spaceID
  stackName := spec.stackID
  rootContainerID := spec.rootContainerID
  tty := convertCellTtyToInternal spec.tty
  containers := spec.containers.mapIdx (convertContainerSpecToInternal decode)
  autoDelete := spec.autoDelete
  nestedCgroupRuntime := spec.nestedCgroupRuntime
  runtimeEnv := spec.runtimeEnv
  provenance := spec.provenance.map convertCellProvenanceToInternal
  ignoreDiskPressure := spec.ignoreDiskPressure

def convertCellStatusToInternal (status : V1Beta1.CellStatus) : ModelHub.CellStatus where
  state := status.state
  cgroupPath := status.cgroupPath
  subtreeControllers := status.subtreeControllers
  bridgeName := status.bridgeName
  containers := status.containers.map convertContainerStatusToInternal
  readyObserved := status.readyObserved
  createdAt := status.createdAt
  updatedAt := status.updatedAt
  readyAt := status.readyAt
  reason := status.reason
  message := status.message
  cgroupReady := status.cgroupReady
  observedGeneration := status.observedGeneration
  outOfSync := status.outOfSync
  outOfSyncReason := status.outOfSyncReason
  outOfSyncError := status.outOfSyncError

def convertCellDocToInternal (decode : Nat) (doc : V1Beta1.CellDoc) :
    Except String ModelHub.Cell :=
  match doc.apiVersion with
  | .other version => .error ("unsupported apiVersion for Cell: " ++ version)
  | .unset | .v1beta1 => do
      validateContainers doc.spec.containers
      validateCellTty doc.spec
      let spec := convertCellSpecToInternal decode doc.spec
      let resolvedRoot ← resolveCellRootContainer spec
      return {
        metadata :=
          { name := doc.metadata.name
            labels := doc.metadata.labels
            annotations := doc.metadata.annotations
            generation := doc.metadata.generation }
        spec := { spec with rootContainerID := resolvedRoot }
        status := convertCellStatusToInternal doc.status }

/-- The per-invocation fields `RuntimeEnv` and `IgnoreDiskPressure` are left out. -/
def buildCellSpecExternalFromInternal (spec : ModelHub.CellSpec) : V1Beta1.CellSpec where
  id := spec.id
  realmID := spec.realmName
  spaceID := spec.spaceName
  stackID := spec.stackName
  rootContainerID := spec.rootContainerID
  tty := buildCellTtyExternalFromInternal spec.tty
  containers := spec.containers.map buildContainerSpecExternalFromInternal
  autoDelete := spec.autoDelete
  nestedCgroupRuntime := spec.nestedCgroupRuntime
  provenance := spec.provenance.map buildCellProvenanceExternalFromInternal

def buildCellStatusExternalFromInternal (status : ModelHub.CellStatus) : V1Beta1.CellStatus where
  state := status.state
  cgroupPath := status.cgroupPath
  subtreeControllers := status.subtreeControllers
  bridgeName := status.bridgeName
  containers := status.containers.map buildContainerStatusExternalFromInternal
  readyObserved := status.readyObserved
  createdAt := status.createdAt
  updatedAt := status.updatedAt
  readyAt := status.readyAt
  reason := status.reason
  message := status.message
  cgroupReady := status.cgroupReady
  observedGeneration := status.observedGeneration
  outOfSync := status.outOfSync
  outOfSyncReason := status.outOfSyncReason
  outOfSyncError := status.outOfSyncError

def buildCellExternalFromInternal (cell : ModelHub.Cell) : Except String V1Beta1.CellDoc := do
  let _ ← resolveCellRootContainer cell.spec
  return {
    apiVersion := .v1beta1
    metadata :=
      { name := cell.metadata.name
        labels := cell.metadata.labels
        annotations := cell.metadata.annotations
        generation := cell.metadata.generation }
    spec := buildCellSpecExternalFromInternal cell.spec
    status := buildCellStatusExternalFromInternal cell.status }

end Kukeon.ApiScheme
