import Kukeon.Lib.Effect
import Kukeon.Lib.FileTree

/-! # Taking scopes down

The metadata tree of the daemon, `<RunPath>/data/<realm>/<space>/<stack>/<cell>`, and what the
deletes and purges of `internal/controller/runner` do to it: `delete_*.go`, `purge_*.go` and the
selective reclaim of `reclaim_scope.go`. A scope is its directory. What these functions do to
containers, networks and cgroups shows here only as the errors that end them.
-/

namespace Kukeon.Runner.Teardown

open Effect GoText

def metadataFile : String := "metadata.json"
def metadataLock : String := "metadata.json.lock"
def secretsSubdir : String := "secrets"
def blueprintsSubdir : String := "blueprints"
def configsSubdir : String := "configs"
def volumesSubdir : String := "volumes"
def volumeMetaSubdir : String := "volume-meta"

inductive Entry where
  | dir
  /-- A metadata document that can be read. -/
  | document
  /-- A reclaim manifest. -/
  | manifest (reclaimPolicy : String)
  /-- Anything else. -/
  | data (content : String)
  deriving Repr, DecidableEq

abbrev ScopeTree := FileTree Entry

inductive TeardownError where
  | notFound (dir : TreePath)
  | unreadable (dir : TreePath)
  /-- `ErrConnectContainerd`. -/
  | connect
  /-- `ErrResourceHasDependencies`. -/
  | hasDependencies (dir : TreePath) (children : Nat)
  /-- Something other than the files of the stack itself is left in its directory. -/
  | residue (stack : TreePath) (names : List String)
  /-- A container of the cell could not be deleted. -/
  | containers (cell : TreePath)
  /-- The metadata file could not be removed. -/
  | metadata (dir : TreePath)
  /-- The cgroup or the containerd namespace of the realm could not be removed. -/
  | realm (dir : TreePath)
  /-- A reclaim manifest could not be parsed. -/
  | manifest (path : TreePath)
  deriving Repr, DecidableEq

structure HostFaults where
  connect : Bool := false
  containers : TreePath → Bool := fun _ => false
  metadata : TreePath → Bool := fun _ => false
  realm : TreePath → Bool := fun _ => false

abbrev ScopeEffect := Effect ScopeTree TeardownError

def refuse (condition : Bool) (error : TeardownError) : ScopeEffect Unit :=
  if condition then throw error else pure ()

inductive Lookup where
  | missing
  | unreadable
  | found
  deriving Repr, DecidableEq

/-- `GetRealm`, `GetSpace`, `GetStack` and `GetCell`. -/
def getScope (tree : ScopeTree) (dir : TreePath) : Lookup :=
  match tree.read (dir ++ [metadataFile]) with
  | none => .missing
  | some .document => .found
  | some _ => .unreadable

/-- `ListSpaces`, `ListStacks` and `ListCells`: the directories with a document that can be read. -/
def listScopes (tree : ScopeTree) (dir : TreePath) : List TreePath :=
  ((tree.readDir dir).map fun name => dir ++ [name]).filter fun child => getScope tree child = .found

/-- `json.Unmarshal` of a manifest. -/
def reclaimPolicy : Entry → Option String
  | .manifest policy => some policy
  | .document | .dir => some ""
  | .data _ => none

/-- Whether the walk comes to a file with these components, from the name of the directory that it
    starts in. It does not descend into volumes, and looks at the files of `volume-meta` only. -/
def walked : List String → Bool
  | [] => false
  | name :: rest =>
    if name = volumesSubdir then false
    else if name = volumeMetaSubdir then
      match rest with
      | [file] => hasSuffix file ".json"
      | _ => false
    else walked rest

def manifestsIn (tree : ScopeTree) (scope : TreePath) : ScopeTree :=
  tree.filter fun entry =>
    scope.isPrefixOf entry.1 && walked (entry.1.drop (scope.length - 1)) && entry.2 != .dir

def volumeName (file : String) : String :=
  String.ofList (file.toList.take (file.toList.length - 5))

def volumeOf (manifest : TreePath) : TreePath :=
  manifest.dropLast.dropLast ++ [volumesSubdir, volumeName (manifest.getLast?.getD "")]

/-- The manifests that mark a volume `Retain`, and the directories of these volumes. -/
def collectRetained (tree : ScopeTree) (scope : TreePath) : Except TeardownError (List TreePath) :=
  match (manifestsIn tree scope).find? fun entry => reclaimPolicy entry.2 = none with
  | some entry => .error (.manifest entry.1)
  | none =>
    .ok ((manifestsIn tree scope).flatMap fun entry =>
      if reclaimPolicy entry.2 = some "Retain" then [entry.1, volumeOf entry.1] else [])

def ancestors (scope : TreePath) (leaves : List TreePath) : List TreePath :=
  leaves.flatMap fun leaf => leaf.dropLast.inits.filter scope.isPrefixOf

/-- Whether what is at these components below a directory is left: a leaf with all it holds, an
    ancestor with what is left in it. -/
def survives (leaves ancestors : List TreePath) (dir : TreePath) : List String → Bool
  | [] => true
  | name :: rest =>
    if dir ++ [name] ∈ leaves then true
    else if dir ++ [name] ∈ ancestors then survives leaves ancestors (dir ++ [name]) rest
    else false

def pruneExcept (tree : ScopeTree) (scope : TreePath) (leaves : List TreePath) : ScopeTree :=
  tree.restrict fun path =>
    !scope.isPrefixOf path || survives leaves (ancestors scope leaves) scope (path.drop scope.length)

def reclaimScopeMetadata (scope : TreePath) : ScopeEffect Unit := do
  let leaves ← ofResult (collectRetained (← get) scope)
  if leaves = [] then modify (·.removeAll scope)
  else modify fun tree => pruneExcept tree scope leaves

section Faults

variable (faults : HostFaults)

/-- Removes the document of a scope with its lock file, and the directory if nothing is left in it. -/
def deleteMetadata (dir : TreePath) : ScopeEffect Unit := do
  if ((← get).read (dir ++ [metadataFile])).isSome then do
    refuse (faults.metadata dir) (.metadata dir)
    modify fun tree => (tree.remove (dir ++ [metadataFile])).remove (dir ++ [metadataLock])
    modify fun tree => if tree.readDir dir = [] then tree.remove dir else tree
  else pure ()

/-- The last step of the deletes: the document, then whatever the directory still holds. -/
def removeScopeFiles (dir : TreePath) : ScopeEffect Unit := do
  deleteMetadata faults dir
  modify (·.removeAll dir)

/-- `deleteCellLocked`. Without a document it sweeps containers and leaves the files alone. -/
def deleteCell (cell : TreePath) : ScopeEffect Unit := do
  match getScope (← get) cell with
  | .unreadable => throw (.unreadable cell)
  | .missing =>
    refuse faults.connect .connect
    match getScope (← get) (cell.take 1) with
    | .missing => pure ()
    | .unreadable => throw (.unreadable (cell.take 1))
    | .found => refuse (faults.containers cell) (.containers cell)
  | .found =>
    refuse faults.connect .connect
    refuse (getScope (← get) (cell.take 1) ≠ .found) (.unreadable (cell.take 1))
    refuse (faults.containers cell) (.containers cell)
    removeScopeFiles faults cell

/-- The names in the directory of a stack that are taken for cells left behind. -/
def scanStackDirCellResidue (tree : ScopeTree) (stack : TreePath) : List String :=
  (tree.readDir stack).filter fun name =>
    name ∉ [metadataFile, metadataLock, secretsSubdir, blueprintsSubdir, configsSubdir]

def deleteStack (stack : TreePath) : ScopeEffect Unit := do
  match getScope (← get) stack with
  | .missing => pure ()
  | .unreadable => throw (.unreadable stack)
  | .found =>
    refuse faults.connect .connect
    let residue := scanStackDirCellResidue (← get) stack
    refuse (residue ≠ []) (.residue stack residue)
    removeScopeFiles faults stack

def deleteSpace (space : TreePath) : ScopeEffect Unit := do
  match getScope (← get) space with
  | .missing => pure ()
  | .unreadable => throw (.unreadable space)
  | .found =>
    refuse faults.connect .connect
    removeScopeFiles faults space

/-- Leaves the directory of the realm in place, unless nothing is left in it. -/
def deleteRealm (realm : TreePath) : ScopeEffect Unit := do
  match getScope (← get) realm with
  | .missing => pure ()
  | .unreadable => throw (.unreadable realm)
  | .found =>
    refuse faults.connect .connect
    refuse (faults.realm realm) (.realm realm)
    deleteMetadata faults realm

def purgeCell (cell : TreePath) : ScopeEffect Unit := do
  let _ ← attempt (deleteCell faults cell)
  refuse (getScope (← get) cell = .unreadable) (.unreadable cell)
  refuse faults.connect .connect
  if getScope (← get) (cell.take 1) = .found then modify (·.removeAll cell) else pure ()

def purgeStack (stack : TreePath) : ScopeEffect Unit := do
  let _ ← attempt (deleteStack faults stack)
  refuse (getScope (← get) stack = .unreadable) (.unreadable stack)
  if getScope (← get) (stack.take 1) = .found ∧ getScope (← get) (stack.take 2) = .found then do
    let _ ← attempt (reclaimScopeMetadata stack)
  else pure ()

def purgeSpace (space : TreePath) : ScopeEffect Unit := do
  let _ ← attempt (deleteSpace faults space)
  refuse (getScope (← get) space = .unreadable) (.unreadable space)
  if getScope (← get) (space.take 1) = .found then do
    let _ ← attempt (reclaimScopeMetadata space)
  else pure ()

/-- Works without a document too. A namespace that could not be removed is reported at the end. -/
def purgeRealm (realm : TreePath) : ScopeEffect Unit := do
  refuse (getScope (← get) realm = .unreadable) (.unreadable realm)
  refuse faults.connect .connect
  let _ ← attempt (reclaimScopeMetadata realm)
  refuse (faults.realm realm) (.realm realm)

end Faults

end Kukeon.Runner.Teardown
