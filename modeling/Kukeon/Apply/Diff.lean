import Kukeon.Apply.Equality

/-! # Comparing desired and actual state

`DiffSpace`, `DiffCell` and `diffContainerSpec` of `internal/controller/apply/diff.go`. The
source writes each comparison as one `if` that records the field and a text. Here a comparison
is a `FieldCheck`, and a function of the source is the list of its checks in source order.
-/

namespace Kukeon.Apply

open ModelHub GoText

inductive ChangeType where
  | none
  | additive
  | compatible
  | breaking
  deriving Repr, DecidableEq

structure DiffResult where
  hasChanges : Bool := false
  changeType : ChangeType := .none
  changedFields : List String := []
  breakingChanges : List String := []
  details : GoMap String String := ∅
  deriving DecidableEq

/-- One comparison: whether the field differs, whether that breaks, its path and the text. -/
structure FieldCheck where
  changed : Bool
  breaking : Bool
  field : String
  detail : String

namespace DiffResult

/-- The classification after a change that does not break: an earlier one stands. -/
def raise (current incoming : ChangeType) : ChangeType :=
  if current = .none then incoming else current

/-- `recordSpecFieldChange`, with the two flags already combined into `breaking`. -/
def record (result : DiffResult) (breaking : Bool) (field detail : String) : DiffResult :=
  if breaking then
    { result with
      hasChanges := true
      changeType := .breaking
      breakingChanges := result.breakingChanges ++ [field]
      details := result.details.insert field detail }
  else
    { result with
      hasChanges := true
      changeType := raise result.changeType .compatible
      changedFields := result.changedFields ++ [field]
      details := result.details.insert field detail }

def check (result : DiffResult) (field : FieldCheck) : DiffResult :=
  if field.changed then result.record field.breaking field.field field.detail else result

def checkAll (result : DiffResult) (checks : List FieldCheck) : DiffResult :=
  checks.foldl check result

end DiffResult

/-- A comparison of two texts whose message quotes both, with a note that some messages add. -/
def textCheck (breaking : Bool) (field : String) (desired actual : String)
    (note : String := "") : FieldCheck where
  changed := desired != actual
  breaking := breaking
  field := field
  detail := field ++ " changed from " ++ quoted actual ++ " to " ++ quoted desired ++ note

def flagCheck (breaking : Bool) (field : String) (desired actual : Bool)
    (note : String := "") : FieldCheck where
  changed := desired != actual
  breaking := breaking
  field := field
  detail := field ++ " changed from " ++ boolText actual ++ " to " ++ boolText desired ++ note

def blockCheck (breaking : Bool) (field : String) (equal : Bool) (detail : String) :
    FieldCheck where
  changed := !equal
  breaking := breaking
  field := field
  detail := detail

/-- The checks of `diffContainerSpec`. A field baked into the runtime spec at create time breaks
    on the root container; the host namespace toggles break on every container. -/
def containerChecks (desired actual : ContainerSpec) (rootContainer : Bool) : List FieldCheck :=
  [ textCheck rootContainer "image" desired.image actual.image,
    textCheck rootContainer "command" desired.command actual.command,
    blockCheck rootContainer "args" (slicesEqual desired.args actual.args) "args changed",
    blockCheck false "env" (slicesEqual desired.env actual.env) "environment variables changed",
    blockCheck false "ports" (slicesEqual desired.ports actual.ports) "ports changed",
    blockCheck rootContainer "volumes" (volumeMountsEqual desired.volumes actual.volumes)
      "volumes changed",
    flagCheck rootContainer "privileged" desired.privileged actual.privileged,
    textCheck rootContainer "user" desired.user actual.user,
    flagCheck rootContainer "readOnlyRootFilesystem" desired.readOnlyRootFilesystem
      actual.readOnlyRootFilesystem,
    blockCheck rootContainer "capabilities"
      (capabilitiesEqual desired.capabilities actual.capabilities) "capabilities changed",
    blockCheck rootContainer "securityOpts"
      (slicesEqual desired.securityOpts actual.securityOpts) "securityOpts changed",
    blockCheck rootContainer "devices" (slicesEqual desired.devices actual.devices)
      "devices changed",
    blockCheck rootContainer "tmpfs" (tmpfsEqual desired.tmpfs actual.tmpfs)
      "tmpfs mounts changed",
    blockCheck rootContainer "resources" (resourcesEqual desired.resources actual.resources)
      "resource limits changed",
    blockCheck rootContainer "secrets" (secretsEqual desired.secrets actual.secrets)
      "secrets changed",
    blockCheck false "repos" (reposEqual desired.repos actual.repos) "repos changed",
    textCheck rootContainer "workingDir" desired.workingDir actual.workingDir,
    blockCheck false "networks" (slicesEqual desired.networks actual.networks)
      "networks changed",
    blockCheck false "networksAliases"
      (slicesEqual desired.networksAliases actual.networksAliases) "networksAliases changed",
    flagCheck true "hostNetwork" desired.hostNetwork actual.hostNetwork " (breaking)",
    flagCheck true "hostPID" desired.hostPID actual.hostPID " (breaking)",
    flagCheck true "hostCgroup" desired.hostCgroup actual.hostCgroup " (breaking)",
    -- An omitted path is the one the runner stamped at provision time.
    { textCheck false "cniConfigPath" desired.cniConfigPath actual.cniConfigPath with
      changed := desired.cniConfigPath != "" && desired.cniConfigPath != actual.cniConfigPath },
    textCheck false "restartPolicy" desired.restartPolicy actual.restartPolicy,
    flagCheck false "attachable" desired.attachable actual.attachable,
    blockCheck false "tty" (ttyEqual desired.tty actual.tty) "tty changed",
    blockCheck false "git" (gitEqual desired.git actual.git) "git identity changed" ]

def diffContainerSpec (desired actual : ContainerSpec) (rootContainer : Bool) : DiffResult :=
  DiffResult.checkAll {} (containerChecks desired actual rootContainer)

/-- A check whose path in the document is not the word its message uses. -/
def FieldCheck.at (check : FieldCheck) (path : String) : FieldCheck :=
  { check with field := path }

/-- The first failing check of a function that returns at once, as its whole result. -/
def firstChange (checks : List FieldCheck) : Option DiffResult :=
  (checks.find? FieldCheck.changed).map fun check =>
    DiffResult.record {} check.breaking check.field check.detail

def spaceIdentityChecks (desired actual : Space) : List FieldCheck :=
  [ (textCheck true "name" desired.metadata.name actual.metadata.name " (breaking)").at
      "metadata.name",
    (textCheck true "realm" desired.spec.realmName actual.spec.realmName " (breaking)").at
      "spec.realmName",
    { textCheck true "CNI config path" desired.spec.cniConfigPath actual.spec.cniConfigPath
        " (breaking - requires network recreation)" with
      changed := desired.spec.cniConfigPath != "" &&
        desired.spec.cniConfigPath != actual.spec.cniConfigPath
      field := "spec.cniConfigPath" } ]

def spaceChecks (desired actual : Space) : List FieldCheck :=
  [ blockCheck false "metadata.labels" (mapsEqual desired.metadata.labels actual.metadata.labels)
      "labels changed",
    blockCheck false "spec.defaults.container"
      (spaceDefaultsEqual desired.spec.defaults actual.spec.defaults)
      "container defaults changed" ]

def diffSpace (desired actual : Space) : DiffResult :=
  (firstChange (spaceIdentityChecks desired actual)).getD
    (DiffResult.checkAll {} (spaceChecks desired actual))

inductive ContainerAction where
  | add
  | update
  deriving Repr, DecidableEq

structure ContainerDiff where
  name : String
  action : ContainerAction
  changedFields : List String := []
  breakingChanges : List String := []
  details : GoMap String String := ∅
  deriving DecidableEq

structure CellDiffResult extends DiffResult where
  rootContainerChanged : Bool := false
  rootContainerDetails : GoMap String String := ∅
  containers : List ContainerDiff := []
  orphans : List String := []
  deriving DecidableEq

/-- The comparisons after which `DiffCell` returns at once. -/
def cellIdentityChecks (desired actual : Cell) : List FieldCheck :=
  [ (textCheck true "name" desired.metadata.name actual.metadata.name " (breaking)").at
      "metadata.name",
    (textCheck true "realm" desired.spec.realmName actual.spec.realmName " (breaking)").at
      "spec.realmName",
    (textCheck true "space" desired.spec.spaceName actual.spec.spaceName " (breaking)").at
      "spec.spaceName",
    (textCheck true "stack" desired.spec.stackName actual.spec.stackName " (breaking)").at
      "spec.stackName" ]

def cellChecks (desired actual : Cell) : List FieldCheck :=
  [ blockCheck false "metadata.labels"
      (userLabelsEqual desired.metadata.labels actual.metadata.labels) "labels changed",
    blockCheck false "spec.tty" (cellTtyEqual desired.spec.tty actual.spec.tty)
      "tty default changed",
    (flagCheck false "autoDelete" desired.spec.autoDelete actual.spec.autoDelete).at
      "spec.autoDelete",
    (flagCheck true "nestedCgroupRuntime" desired.spec.nestedCgroupRuntime
      actual.spec.nestedCgroupRuntime " (breaking)").at "spec.nestedCgroupRuntime" ]

def findRootContainer (containers : List ContainerSpec) : Option ContainerSpec :=
  containers.find? ContainerSpec.root

def childContainers (containers : List ContainerSpec) : List ContainerSpec :=
  containers.filter fun container => !container.root && container.id != ""

/-- The lookup in the map of child containers: the last one of that id. -/
def childByID (containers : List ContainerSpec) (id : String) : Option ContainerSpec :=
  Keyed.find ContainerSpec.id id (childContainers containers)

/-- The key set of the map of child containers. The source ranges over it in no fixed order. -/
def childIDs (containers : List ContainerSpec) : List String :=
  Keyed.keys ContainerSpec.id (childContainers containers)

/-- The classification after a nested diff: a breaking one wins, another keeps what stands. -/
def DiffResult.absorb (current : ChangeType) (nested : DiffResult) : ChangeType :=
  if nested.changeType = .breaking then .breaking else raise current nested.changeType

def diffRootContainer (result : CellDiffResult) :
    Option ContainerSpec → Option ContainerSpec → CellDiffResult
  | some desired, some actual =>
    let rootDiff := diffContainerSpec desired actual true
    if rootDiff.hasChanges then
      { result with
        hasChanges := true
        changeType := rootDiff.absorb result.changeType
        breakingChanges :=
          result.breakingChanges ++ rootDiff.breakingChanges.map ("rootContainer." ++ ·)
        changedFields :=
          result.changedFields ++ rootDiff.changedFields.map ("rootContainer." ++ ·)
        rootContainerChanged := true
        rootContainerDetails := rootDiff.details ∪ result.rootContainerDetails }
    else result
  | some _, none =>
    { result with
      hasChanges := true
      changeType := .breaking
      breakingChanges := result.breakingChanges ++ ["spec.rootContainer"]
      rootContainerChanged := true
      rootContainerDetails :=
        result.rootContainerDetails.insert "rootContainer" "root container added" }
  -- A root the document omits is taken to be the one the runner synthesized.
  | none, _ => result

def diffChild (desired actual : List ContainerSpec) (result : CellDiffResult) (id : String) :
    CellDiffResult :=
  match childByID desired id, childByID actual id with
  | some desiredContainer, some actualContainer =>
    let containerDiff := diffContainerSpec desiredContainer actualContainer false
    if containerDiff.hasChanges then
      { result with
        hasChanges := true
        changeType := containerDiff.absorb result.changeType
        breakingChanges := result.breakingChanges ++
          if containerDiff.changeType = .breaking then
            containerDiff.breakingChanges.map fun field => "containers[" ++ id ++ "]." ++ field
          else []
        containers := result.containers ++
          [ { name := id
              action := .update
              changedFields := containerDiff.changedFields
              breakingChanges := containerDiff.breakingChanges
              details := containerDiff.details } ] }
    else result
  | some _, none =>
    { result with
      hasChanges := true
      changeType := DiffResult.raise result.changeType .additive
      containers := result.containers ++ [{ name := id, action := .add }] }
  | none, _ => result

def diffOrphan (desired : List ContainerSpec) (result : CellDiffResult) (id : String) :
    CellDiffResult :=
  if (childByID desired id).isSome then result
  else
    { result with
      hasChanges := true
      changeType := DiffResult.raise result.changeType .additive
      orphans := result.orphans ++ [id] }

def diffCell (desired actual : Cell) : CellDiffResult :=
  match firstChange (cellIdentityChecks desired actual) with
  | some result => { toDiffResult := result }
  | none =>
    let desiredContainers := desired.spec.containers
    let actualContainers := actual.spec.containers
    let checked : CellDiffResult :=
      { toDiffResult := DiffResult.checkAll {} (cellChecks desired actual) }
    let rooted := diffRootContainer checked (findRootContainer desiredContainers)
      (findRootContainer actualContainers)
    let updated := (childIDs desiredContainers).foldl
      (diffChild desiredContainers actualContainers) rooted
    (childIDs actualContainers).foldl (diffOrphan desiredContainers) updated

end Kukeon.Apply
