import Kukeon.ApiScheme.V1Beta1

/-! # Read-side validation of cell documents

The checks `ConvertCellDocToInternal` runs before it converts, from
`internal/apischeme/scheme.go`. A check answers with the text of its error.
-/

namespace Kukeon.ApiScheme

open V1Beta1 GoText
open ModelHub (VolumeKind)

/-- `filepath.IsAbs` on a Unix host. -/
def isAbs (path : String) : Bool := path.toList.head? == some '/'

/-- `strings.Contains` for the parent-directory token. -/
def containsDotDot (text : String) : Bool := text.toList.tails.any fun tail =>
  ['.', '.'].isPrefixOf tail

def containerText (id : String) : String := "container " ++ quoted id

def validateTtyLogLevel (level : String) : Except String Unit :=
  if level ∈ ["", "debug", "info", "warn", "error"] then .ok ()
  else .error ("tty.logLevel " ++ quoted level ++ ": must be one of debug, info, warn, error")

def validateTtyStageRunOn (runOn : String) : Except String Unit :=
  if runOn ∈ ["", "start", "create"] then .ok ()
  else
    .error ("tty stage runOn " ++ quoted runOn ++ ": must be one of " ++ quoted "start" ++ ", " ++
      quoted "create" ++ " (or empty)")

def isPersistentWritable (mount : VolumeMount) : Bool :=
  mount.kind != .tmpfs && !mount.readOnly

def validateContainerCreateStagePersistence (spec : ContainerSpec) : Except String Unit :=
  match spec.tty with
  | none => .ok ()
  | some tty =>
    if (tty.onInit.any fun stage => stage.runOn == "create") = false then .ok ()
    else if spec.volumes.any isPersistentWritable then .ok ()
    else
      .error (containerText spec.id ++ ": tty.onInit has runOn: " ++ quoted "create" ++
        " stages but the container has no persistent writable mount; " ++
        "declare a volumes: entry of kind bind covering the stage's write target so its side " ++
        "effects survive container recreate, or move the work into a runOn: " ++
        quoted "start" ++ " stage")

/-- The stages from position `index` on, with the errors of the loop over `onInit`. -/
def validateTtyStages (id : String) : Nat → List TtyStage → Except String Unit
  | _, [] => .ok ()
  | index, stage :: rest =>
    match validateTtyStageRunOn stage.runOn with
    | .error err =>
      .error (containerText id ++ ": onInit[" ++ toString index ++ "]: " ++ err)
    | .ok _ => validateTtyStages id (index + 1) rest

def validateContainerTty (spec : ContainerSpec) : Except String Unit :=
  if spec.attachable = false then
    if ContainerTty.isEmpty spec.tty then .ok ()
    else .error (containerText spec.id ++ ": tty fields require attachable: true")
  else
    match spec.tty with
    | none => .ok ()
    | some tty =>
      match validateTtyLogLevel tty.logLevel with
      | .error err => .error (containerText spec.id ++ ": " ++ err)
      | .ok _ =>
        match validateTtyStages spec.id 0 tty.onInit with
        | .error err => .error err
        | .ok _ => validateContainerCreateStagePersistence spec

def validateGitIdentity (role : String) : Option GitIdentity → Except String Unit
  | none => .ok ()
  | some id =>
    if id.name = "" ∨ id.email = "" then
      .error ("git." ++ role ++ " requires both name and email")
    else .ok ()

def validateContainerGit (spec : ContainerSpec) : Except String Unit :=
  match spec.git with
  | none => .ok ()
  | some git =>
    match validateGitIdentity "author" git.author with
    | .error err => .error (containerText spec.id ++ ": " ++ err)
    | .ok _ =>
      match validateGitIdentity "committer" git.committer with
      | .error err => .error (containerText spec.id ++ ": " ++ err)
      | .ok _ =>
        match git.sign.find? fun target => target != "commits" && target != "tags" with
        | some target =>
          .error (containerText spec.id ++ ": git.sign " ++ quoted target ++
            ": must be one of " ++ quoted "commits" ++ ", " ++ quoted "tags")
        | none =>
          if git.sign.length > 0 ∧ git.signingKey = "" then
            .error (containerText spec.id ++
              ": git.sign requires git.signingKey to be set")
          else .ok ()

def volumeSegmentSafe (segment : String) : Bool :=
  segment != "." && segment != ".." &&
    !(containsChar segment '/' || containsChar segment (Char.ofNat 0)) && !containsDotDot segment

def validateVolumeRefScope (ref : VolumeRef) : Except String Unit :=
  let name := trimSpace ref.name
  let realm := trimSpace ref.realm
  let space := trimSpace ref.space
  let stack := trimSpace ref.stack
  if name = "" then .error "volumeRef.name is required"
  else if realm = "" then .error "volumeRef.realm is required"
  else if stack ≠ "" ∧ space = "" then
    .error "volumeRef scope is incomplete; a deeper coordinate requires every shallower one"
  else if [name, realm, space, stack].any fun segment =>
      segment != "" && !volumeSegmentSafe segment then
    .error "volume name or scope coordinate is unsafe"
  else .ok ()

def validateVolumeTarget (target : String) : Except String Unit :=
  if trimSpace target = "" then .error "volume target is required"
  else if isAbs target = false then .error "volume target must be an absolute container path"
  else .ok ()

def validateVolumeKindMount (mount : VolumeMount) : Except String Unit :=
  match mount.volumeRef, decide (trimSpace mount.source = "") with
  | some _, false =>
    .error ("volume mount must set exactly one of source (same-scope name) or volumeRef " ++
      "(cross-scope)")
  | none, true =>
    .error "volume mount must set either source (same-scope name) or volumeRef (cross-scope)"
  | none, false =>
    if isAbs mount.source then
      .error "volume mount source must be a Volume name, not an absolute path"
    else if volumeSegmentSafe mount.source = false then
      .error "volume name or scope coordinate is unsafe"
    else validateVolumeTarget mount.target
  | some ref, true =>
    match validateVolumeRefScope ref with
    | .error err => .error err
    | .ok _ => validateVolumeTarget mount.target

/-- The check of one mount, without the container and position its error is prefixed with. -/
def validateVolume (mount : VolumeMount) : Except String Unit :=
  if mount.volumeRef.isSome ∧ mount.kind ≠ .volume then
    .error "volumeRef is only valid on a kind: volume mount"
  else
    match mount.kind with
    | .volume => validateVolumeKindMount mount
    | .tmpfs =>
      if mount.source ≠ "" then
        .error ("tmpfs volume must not set a source; tmpfs is in-memory and has no host " ++
          "backing")
      else .ok ()
    | .unset | .bind => .ok ()
    | .other text =>
      .error ("volume kind is not recognized; expected \"\", \"bind\", \"tmpfs\", or " ++
        "\"volume\" (got " ++ quoted text ++ ")")

def validateVolumes (id : String) : Nat → List VolumeMount → Except String Unit
  | _, [] => .ok ()
  | index, mount :: rest =>
    match validateVolume mount with
    | .error err =>
      .error (containerText id ++ " volume " ++ toString index ++ ": " ++ err)
    | .ok _ => validateVolumes id (index + 1) rest

def validateContainerVolumes (spec : ContainerSpec) : Except String Unit :=
  validateVolumes spec.id 0 spec.volumes

def restartPolicyAlways : String := "always"

def restartPolicyOnFailure : String := "on-failure"

def validateContainerRestart (spec : ContainerSpec) : Except String Unit :=
  let policy := spec.restartPolicy
  let restarts := policy = restartPolicyAlways ∨ policy = restartPolicyOnFailure
  let backoff : Except String Unit :=
    match spec.restartBackoffSeconds with
    | none => .ok ()
    | some seconds =>
      if seconds < 0 then
        .error (containerText spec.id ++ ": restartBackoffSeconds must be >= 0, got " ++
          toString seconds)
      else if ¬ restarts then
        .error (containerText spec.id ++ ": restartBackoffSeconds requires restartPolicy " ++
          quoted restartPolicyAlways ++ " or " ++ quoted restartPolicyOnFailure ++ ", got " ++
          quoted policy)
      else .ok ()
  match backoff with
  | .error err => .error err
  | .ok _ =>
    match spec.restartMaxRetries with
    | none => .ok ()
    | some retries =>
      if retries < 1 then
        .error (containerText spec.id ++ ": restartMaxRetries must be >= 1, got " ++
          toString retries)
      else if policy ≠ restartPolicyOnFailure then
        .error (containerText spec.id ++ ": restartMaxRetries requires restartPolicy " ++
          quoted restartPolicyOnFailure ++ ", got " ++ quoted policy)
      else .ok ()

def validateContainer (spec : ContainerSpec) : Except String Unit := do
  validateContainerTty spec
  validateContainerGit spec
  validateContainerVolumes spec
  validateContainerRestart spec

def validateContainers : List ContainerSpec → Except String Unit
  | [] => .ok ()
  | spec :: rest => do
      validateContainer spec
      validateContainers rest

def validateCellTty (spec : CellSpec) : Except String Unit :=
  match spec.tty with
  | none => .ok ()
  | some tty =>
    if tty.default = "" then .ok ()
    else
      match spec.containers.find? fun container => container.id == tty.default with
      | none =>
        .error ("cell tty.default " ++ quoted tty.default ++
          " does not match any container in this cell")
      | some container =>
        if container.attachable then .ok ()
        else
          .error ("cell tty.default " ++ quoted tty.default ++
            " references container that is not attachable")

end Kukeon.ApiScheme
