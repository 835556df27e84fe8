import Kukeon.Controller.VolumeGate
import Kukeon.Lib.Descent
import Kukeon.Runner.DeleteStack
import Kukeon.Runner.RetainedVolumes

/-! # Creating and listing in the metadata tree

What the creates of realms, spaces, stacks, cells, secrets and volumes put into the metadata tree,
and the walkers that list the tree: `childScopeNames` of `scope_children.go`, `ListVolumes` of
`volume.go` and `ListSecrets` of `secret.go`, all of `internal/controller/runner`. A scope is given
by the names from its realm on. What a create does outside of the tree, and the ways in which that
fails, are left out.
-/

namespace Kukeon.Runner.Walkers

open GoText Effect Teardown Volumes Naming

structure SecretMetadata where
  name : String := ""
  realm : String := ""
  space : String := ""
  stack : String := ""
  cell : String := ""
  deriving DecidableEq

def volumeAt (scope : TreePath) (name : String) : VolumeMetadata :=
  { name := name, realm := scope.getD 0 "", space := scope.getD 1 "", stack := scope.getD 2 "" }

def secretAt (scope : TreePath) (name : String) : SecretMetadata :=
  { name := name, realm := scope.getD 0 "", space := scope.getD 1 "", stack := scope.getD 2 ""
    cell := scope.getD 3 "" }

/-- `SecretScopeDir`, which drops the coordinates that are blank. -/
def secretScopeDir (realm space stack cell : String) : TreePath :=
  [realm, space, stack, cell].filter (· ≠ "")

def networkConflist : String := "network.conflist"

def containerTTYDir : String := "tty"

def attachableMetadataFile : String := "kuketty-metadata.json"

inductive Create where
  /-- A realm, a space, a stack or a cell, by the scope it is created in. A cell comes with the ids
      of its attachable containers. -/
  | scope (parent : TreePath) (name : String) (containers : List String)
  | secret (scope : TreePath) (name content : String)
  | volume (scope : TreePath) (name policy : String)

def accepting (result : Except String Unit) : VolumeEffect Unit :=
  match result with
  | .ok () => pure ()
  | .error text => throw (.io text)

/-- `os.MkdirAll`. -/
def makeDirectories (path : TreePath) : VolumeEffect Unit :=
  (path.inits.drop 1).forM (makeDirectory {})

def writeFile (path : TreePath) (e : Entry) : VolumeEffect Unit := do
  match (← get).read path with
  | some .dir => throw (.io "file exists")
  | _ => modify (·.put path e)

def validateScopeName : Nat → String → Except String Unit
  | 0, name => validateRealmName name
  | 1, name => validateHierarchyName "space" name
  | 2, name => validateHierarchyName "stack" name
  | 3, name => validateHierarchyName "cell" name
  | _, _ => .error "too deep"

/-- `GetRealm`, which takes its name as it is, and `GetSpace`, `GetStack` and `GetCell`, which trim
    theirs. -/
def lookupScope (tree : ScopeTree) (scope : TreePath) : Lookup :=
  if scope.length ≤ 1 then getScope tree scope
  else if (scope.map trimSpace).any (· = "") then .unreadable
  else getScope tree (scope.map trimSpace)

def requireScope (scope : TreePath) : VolumeEffect Unit := do
  match lookupScope (← get) scope with
  | .found => pure ()
  | .missing => throw (.scopeNotFound "" (scope.getLastD ""))
  | .unreadable => throw (.scopeLookup "" (scope.getLastD ""))

/-- `UpdateRealmMetadata` and the like, with the CNI configuration of a space. -/
def provisionScope (parent dir : TreePath) : VolumeEffect Unit := do
  makeDirectories dir
  writeFile (dir ++ [metadataLock]) (.data "")
  writeFile (dir ++ [metadataFile]) .document
  if parent.length = 1 then do
    writeFile (dir ++ [networkConflist]) (.data "")
    requireScope parent

/-- What `attachableBuildOpts` puts into the directory of a container, with the document of its agent
    that is rendered when the container is created. -/
def attachableBuildOpts (containerDir : TreePath) : VolumeEffect Unit := do
  makeDirectories (containerDir ++ [containerTTYDir])
  writeFile (containerDir ++ [attachableMetadataFile]) (.data "")

/-- Only the create of a space asks for the scope it is created in, and that of a cell for its
    realm. -/
def createScope (parent : TreePath) (name : String) (containers : List String) :
    VolumeEffect Unit := do
  accepting (validateScopeName parent.length name)
  accepting (containers.forM (validateHierarchyName "container"))
  match getScope (← get) (parent ++ [trimSpace name]) with
  | .unreadable => throw (.io "unreadable metadata")
  | .found => if parent.length = 2 then requireScope parent
  | .missing => provisionScope parent (parent ++ [trimSpace name])
  if parent.length = 3 then do
    requireScope (parent.take 1)
    containers.forM fun id => attachableBuildOpts (parent ++ [trimSpace name, trimSpace id])

/-- The segments are checked for a document that is applied, not here. -/
def validateSecretLookup (scope : TreePath) (name : String) : Except String Unit :=
  if trimSpace name = "" then .error "secret name is required"
  else if trimSpace (scope.getD 0 "") = "" then .error "secret realm is required"
  else .ok ()

def createSecret (scope : TreePath) (name content : String) : VolumeEffect Unit := do
  accepting (validateSecretLookup scope name)
  (scope.inits.drop 1).forM requireScope
  makeDirectories (scope ++ [secretsSubdir])
  writeFile (scope ++ [secretsSubdir, name]) (.data content)

/-- What the controller asks of a volume's name and scope. -/
def validateVolumeLookup (scope : TreePath) (name : String) : Except String Unit :=
  if 3 < scope.length then .error "too deep"
  else
    match Controller.VolumeGate.validateVolumeLookup (volumeAt scope name) with
    | .ok () => .ok ()
    | .error _ => .error "invalid volume"

def createVolume (scope : TreePath) (name policy : String) : VolumeEffect Unit := do
  accepting (validateVolumeLookup scope name)
  let _ ← reconcileVolume {} { metadata := volumeAt scope name, reclaimPolicy := policy }

def Create.perform : Create → VolumeEffect Unit
  | .scope parent name containers => createScope parent name containers
  | .secret owner name content => createSecret owner name content
  | .volume owner name policy => createVolume owner name policy

/-- The creates that have succeeded so far, the last one first, and the tree they have made. -/
inductive History : List Create → ScopeTree → Prop where
  | start : History [] []
  | create {creates : List Create} {tree after : ScopeTree} {next : Create} :
      History creates tree → Yields next.perform tree () after → History (next :: creates) after

def isDir (tree : ScopeTree) (path : TreePath) : Bool := tree.read path = some .dir

def childScopeNames (tree : ScopeTree) (dir : TreePath) (want : String) : List String :=
  if trimSpace want ≠ "" then if isDir tree (dir ++ [want]) then [want] else []
  else (tree.readDir dir).filter fun name =>
    isDir tree (dir ++ [name]) && !reservedScopeSubdirs.contains name

def resolveRealmDirs (tree : ScopeTree) (realm : String) : List String :=
  if trimSpace realm ≠ "" then if isDir tree [realm] then [realm] else []
  else (tree.readDir []).filter fun name => isDir tree [name]

def collectVolumesInScope (tree : ScopeTree) (realm space stack : String) :
    Except VolumeError (List Volume) :=
  let dir := volumeScopeDir realm space stack ++ [volumesSubdir]
  ((tree.readDir dir).filter fun name => isDir tree (dir ++ [name])).mapM fun name => do
    let metadata : VolumeMetadata := { name := name, realm := realm, space := space, stack := stack }
    let policy ← readVolumeReclaimPolicy tree metadata
    return { metadata := metadata, reclaimPolicy := policy }

/-- What is in a scope itself, which a filter that goes further leaves out. -/
def unlessFurther (coordinate : String) (own : Except VolumeError (List Volume)) :
    Except VolumeError (List Volume) :=
  if coordinate = "" then own else .ok []

def collectVolumeSubtree (tree : ScopeTree) (realm space stack : String) :
    Except VolumeError (List Volume) := do
  let own ← unlessFurther space (collectVolumesInScope tree realm "" "")
  let below ← (childScopeNames tree [realm] space).mapM fun sp => do
    let own ← unlessFurther stack (collectVolumesInScope tree realm sp "")
    let below ← (childScopeNames tree [realm, sp] stack).mapM fun st =>
      collectVolumesInScope tree realm sp st
    return own ++ below.flatten
  return own ++ below.flatten

def listVolumes (tree : ScopeTree) (realm space stack : String) :
    Except VolumeError (List Volume) := do
  let found ← (resolveRealmDirs tree realm).mapM fun realm =>
    collectVolumeSubtree tree realm space stack
  return found.flatten

/-- The names of the temporary files of `atomicWriteSecret`. -/
def isTemporary (name : String) : Bool := hasPrefix name ".secret-" && hasSuffix name ".tmp"

def collectSecretsInScope (tree : ScopeTree) (realm space stack cell : String) :
    List SecretMetadata :=
  let dir := secretScopeDir realm space stack cell ++ [secretsSubdir]
  ((tree.readDir dir).filter fun name =>
    !isDir tree (dir ++ [name]) && !isTemporary name).map fun name =>
      { name := name, realm := realm, space := space, stack := stack, cell := cell }

def collectSecretSubtree (tree : ScopeTree) (realm space stack cell : String) :
    List SecretMetadata :=
  (if space = "" then collectSecretsInScope tree realm "" "" "" else []) ++
    (childScopeNames tree [realm] space).flatMap fun sp =>
      (if stack = "" then collectSecretsInScope tree realm sp "" "" else []) ++
        (childScopeNames tree [realm, sp] stack).flatMap fun st =>
          (if cell = "" then collectSecretsInScope tree realm sp st "" else []) ++
            (childScopeNames tree [realm, sp, st] cell).flatMap fun ce =>
              collectSecretsInScope tree realm sp st ce

def listSecrets (tree : ScopeTree) (realm space stack cell : String) : List SecretMetadata :=
  (resolveRealmDirs tree realm).flatMap fun realm => collectSecretSubtree tree realm space stack cell

end Kukeon.Runner.Walkers
