import Kukeon.Apply.Documents
import Kukeon.Lib.Effect

/-! # Deleting a set of documents

`DeleteDocuments` of `internal/controller/delete_documents.go`, and the deletes of
`delete_realm.go`, `delete_space.go`, `delete_stack.go` and `delete_cell.go` that it calls. The
runner is a parameter: its operations may do to the state and answer whatever they like.
-/

namespace Kukeon.Controller.Documents

open ModelHub GoText Effect ApplyParser

abbrev KukeEffect (σ : Type) := Effect σ KukeError

structure DeleteRunner (σ : Type) where
  getRealm : Realm → KukeEffect σ Realm
  getSpace : Space → KukeEffect σ Space
  getStack : Stack → KukeEffect σ Stack
  getCell : Cell → KukeEffect σ Cell
  listSpaces : String → KukeEffect σ (List Space)
  listStacks : String → String → KukeEffect σ (List Stack)
  listCells : String → String → String → KukeEffect σ (List Cell)
  deleteRealm : Realm → KukeEffect σ Unit
  deleteSpace : Space → KukeEffect σ Unit
  deleteStack : Stack → KukeEffect σ Unit
  deleteCell : Cell → KukeEffect σ Unit

section Deletes

variable {σ : Type} (runner : DeleteRunner σ) (force cascade : Bool)

def required (sentinel : Errdef) (name : String) : KukeEffect σ Unit :=
  if name = "" then throw sentinel.error else pure ()

def sayMissing (sentinel : Errdef) (text : String) (cause : KukeError) : KukeError :=
  if cause.is sentinel then { text := text } else cause

/-- With `cascade` the children are deleted one after the other; without it, and without `force`,
    there may be none. `listed` lists them, `parent` is what is deleted. -/
def deleteChildren {Child : Type} (kind parent : String) (listed : KukeEffect σ (List Child))
    (name : Child → String) (delete : Child → KukeEffect σ Unit) : KukeEffect σ Unit := do
  if cascade then
    let children ← rewording (.under ("failed to list " ++ kind ++ "s: ")) listed
    children.forM fun child =>
      rewording (.under ("failed to delete " ++ kind ++ " " ++ quoted (name child) ++ ": "))
        (delete child)
  else if !force then
    let children ← rewording (.under ("failed to list " ++ kind ++ "s: ")) listed
    if children.length > 0 then
      throw (Errdef.resourceHasDependencies.saying (": " ++ parent ++ " has " ++
        toString children.length ++ " " ++ kind ++
        "(s). Use --cascade to delete them or --force to skip validation"))

def deleteStackCascade (stack : Stack) : KukeEffect σ Unit := do
  let realmName := trimSpace stack.spec.realmName
  let spaceName := trimSpace stack.spec.spaceName
  let stackName := trimSpace stack.metadata.name
  deleteChildren force cascade "cell" ("stack " ++ quoted stackName)
    (runner.listCells realmName spaceName stackName) (·.metadata.name) runner.deleteCell
  runner.deleteStack stack

def deleteSpaceCascade (space : Space) : KukeEffect σ Unit := do
  let realmName := trimSpace space.spec.realmName
  let spaceName := trimSpace space.metadata.name
  deleteChildren force cascade "stack" ("space " ++ quoted spaceName)
    (runner.listStacks realmName spaceName) (·.metadata.name)
    (deleteStackCascade runner force cascade)
  runner.deleteSpace space

def deleteRealmCascade (realm : Realm) : KukeEffect σ Unit := do
  let realmName := trimSpace realm.metadata.name
  deleteChildren force cascade "space" ("realm " ++ quoted realmName)
    (runner.listSpaces realmName) (·.metadata.name) (deleteSpaceCascade runner force cascade)
  runner.deleteRealm realm

/-- The children that a cascade is about to delete, as the result of the delete names them. -/
def announced {Child : Type} (kind : String) (listed : KukeEffect σ (List Child))
    (name : Child → String) : KukeEffect σ (List String) := do
  if cascade then
    let children ← rewording (.under ("failed to list " ++ kind ++ "s: ")) listed
    return children.map fun child => kind ++ ":" ++ name child
  else return []

/-- `DeleteRealm`, with what it reports as deleted. The record is read under the name as it is
    given. -/
def deleteRealm (realm : Realm) : KukeEffect σ (List String) := do
  let name := trimSpace realm.metadata.name
  required .realmNameRequired name
  let found ← rewording (sayMissing .realmNotFound ("realm " ++ quoted name ++ " not found"))
    (runner.getRealm realm)
  let spaces ← announced cascade "space" (runner.listSpaces name) (·.metadata.name)
  rewording Errdef.deleteRealm.error.wrapping (deleteRealmCascade runner force cascade found)
  return spaces ++ ["metadata", "cgroup", "namespace"]

def deleteSpace (space : Space) : KukeEffect σ (List String) := do
  let name := trimSpace space.metadata.name
  required .spaceNameRequired name
  let realmName := trimSpace space.spec.realmName
  required .realmNameRequired realmName
  let found ← rewording (sayMissing .spaceNotFound ("space " ++ quoted name ++
    " not found in realm " ++ quoted realmName)) (runner.getSpace space)
  let children ← announced cascade "stack" (runner.listStacks realmName name) (·.metadata.name)
  rewording Errdef.deleteSpace.error.wrapping (deleteSpaceCascade runner force cascade found)
  return children ++ ["metadata", "cgroup", "network"]

def deleteStack (stack : Stack) : KukeEffect σ (List String) := do
  let name := trimSpace stack.metadata.name
  required .stackNameRequired name
  let realmName := trimSpace stack.spec.realmName
  required .realmNameRequired realmName
  let spaceName := trimSpace stack.spec.spaceName
  required .spaceNameRequired spaceName
  let found ← rewording (sayMissing .stackNotFound ("stack " ++ quoted name ++
    " not found in realm " ++ quoted realmName ++ ", space " ++ quoted spaceName))
    (runner.getStack stack)
  let children ← announced cascade "cell" (runner.listCells realmName spaceName name)
    (·.metadata.name)
  rewording Errdef.deleteStack.error.wrapping (deleteStackCascade runner force cascade found)
  return children ++ ["metadata", "cgroup"]

/-- `validateAndGetCell`: the cell is looked up by its trimmed coordinates. -/
def validateAndGetCell (cell : Cell) : KukeEffect σ Cell := do
  let name := trimSpace cell.metadata.name
  required .cellNameRequired name
  let realmName := trimSpace cell.spec.realmName
  required .realmNameRequired realmName
  let spaceName := trimSpace cell.spec.spaceName
  required .spaceNameRequired spaceName
  let stackName := trimSpace cell.spec.stackName
  required .stackNameRequired stackName
  rewording (sayMissing .cellNotFound ("cell " ++ quoted name ++ " not found in realm " ++
    quoted realmName ++ ", space " ++ quoted spaceName ++ ", stack " ++ quoted stackName))
    (runner.getCell
      { metadata := { name := name }
        spec := { realmName := realmName, spaceName := spaceName, stackName := stackName } })

/-- `DeleteCell`, with whether the cell had containers. -/
def deleteCell (cell : Cell) : KukeEffect σ Bool := do
  let found ← validateAndGetCell runner cell
  rewording Errdef.deleteCell.error.wrapping (runner.deleteCell found)
  return decide (found.spec.containers.length > 0)

end Deletes

inductive Resource where
  | realm (realm : Realm)
  | space (space : Space)
  | stack (stack : Stack)
  | cell (cell : Cell)

def Resource.name : Resource → String
  | .realm doc => doc.metadata.name
  | .space doc => doc.metadata.name
  | .stack doc => doc.metadata.name
  | .cell doc => doc.metadata.name

def target (doc : Document) : Except KukeError Resource :=
  match doc.body with
  | .realm realm => do return .realm (← normalize "Realm" doc.apiVersion (← notNil "realm" realm))
  | .space space => do return .space (← normalize "Space" doc.apiVersion (← notNil "space" space))
  | .stack stack => do return .stack (← normalize "Stack" doc.apiVersion (← notNil "stack" stack))
  | .cell cell => do return .cell (← normalizeCell doc.index (← notNil "cell" cell))
  | _ => .error (Errdef.unknownKind.saying (": " ++ doc.body.kindText))

inductive DeleteAction where
  | deleted
  | notFound
  | failed
  deriving DecidableEq

structure ResourceDeleteResult where
  index : Nat
  kind : String
  name : String := ""
  action : DeleteAction
  error : Option KukeError := none
  cascaded : List String := []
  /-- The entry `containers` of `Details`. -/
  containers : Option String := none
  deriving DecidableEq

def isNotFoundError (err : KukeError) : Bool :=
  err.is .realmNotFound || err.is .spaceNotFound || err.is .stackNotFound ||
    err.is .cellNotFound || contains (lower err.text) "not found"

structure Deletes (σ : Type) where
  realm : Realm → KukeEffect σ (List String)
  space : Space → KukeEffect σ (List String)
  stack : Stack → KukeEffect σ (List String)
  cell : Cell → KukeEffect σ Bool

def controllerDeletes {σ : Type} (runner : DeleteRunner σ) (force cascade : Bool) : Deletes σ where
  realm := deleteRealm runner force cascade
  space := deleteSpace runner force cascade
  stack := deleteStack runner force cascade
  cell := deleteCell runner

def extractCascadedResources (deleted : List String) (kind : String) : List String :=
  (deleted.filter fun item => hasPrefix item (kind ++ ":")).map fun item =>
    String.ofList (item.toList.drop (kind.toList.length + 1))

section Loop

variable {σ : Type} (deletes : Deletes σ)

/-- The delete of one resource, with the resources that went along and the entry of `Details`. -/
def Deletes.run : Resource → KukeEffect σ (List String × Option String)
  | .realm realm => do
      return (extractCascadedResources (← deletes.realm realm) "space", none)
  | .space space => do
      return (extractCascadedResources (← deletes.space space) "stack", none)
  | .stack stack => do
      return (extractCascadedResources (← deletes.stack stack) "cell", none)
  | .cell cell => do
      let containersDeleted ← deletes.cell cell
      let count := cell.spec.containers.length
      return ([], if containersDeleted ∧ count > 0 then some (toString count ++ " deleted")
        else none)

def report (doc : Document) (name : String) :
    Except KukeError (List String × Option String) → ResourceDeleteResult
  | .error cause =>
    if isNotFoundError cause then
      { index := doc.index, kind := doc.body.kindText, name := name, action := .notFound }
    else
      { index := doc.index, kind := doc.body.kindText, name := name, action := .failed
        error := some cause }
  | .ok (cascaded, containers) =>
    { index := doc.index, kind := doc.body.kindText, name := name, action := .deleted
      cascaded := cascaded, containers := containers }

def deleteDocument (doc : Document) : KukeEffect σ ResourceDeleteResult :=
  match target doc with
  | .error cause =>
    return { index := doc.index, kind := doc.body.kindText, action := .failed, error := some cause }
  | .ok resource => do
      return report doc resource.name (← attempt (deletes.run resource))

def deleteDocuments (docs : List Document) : KukeEffect σ (List ResourceDeleteResult) :=
  (sortDocumentsByKind docs true).mapM (deleteDocument deletes)

/-- What the loop reports of a document whose turn comes in the state `s`. -/
def resultAt (s : σ) (doc : Document) : ResourceDeleteResult :=
  match target doc with
  | .error cause =>
    { index := doc.index, kind := doc.body.kindText, action := .failed, error := some cause }
  | .ok resource => report doc resource.name (ending (deletes.run resource) s)

theorem deleteDocument_yields (s : σ) (doc : Document) :
    Yields (deleteDocument deletes doc) s (resultAt deletes s doc)
      (finalState (deleteDocument deletes doc) s) := by
  refine Prod.ext ?_ rfl
  unfold deleteDocument resultAt
  cases target doc with
  | error cause => rfl
  | ok resource => exact (yields_of_attempt (deletes.run resource) (report doc resource.name) s).ending

/-- A report that says of a resource that is there neither that it is missing nor anything but the
    error of its delete. -/
structure Honest (present : σ → Resource → Prop) (turn : σ × Document)
    (result : ResourceDeleteResult) : Prop where
  absent : result.action = .notFound →
    ∃ resource, target turn.2 = .ok resource ∧ ¬ present turn.1 resource
  failed : ∀ resource cause, target turn.2 = .ok resource → present turn.1 resource →
    ending (deletes.run resource) turn.1 = .error cause →
      result.action = .failed ∧ result.error = some cause

/-- The error of a delete that fails although its resource is there reads as if it were missing. -/
def Misleading (present : σ → Resource → Prop) (turn : σ × Document) : Prop :=
  ∃ resource cause, target turn.2 = .ok resource ∧ present turn.1 resource ∧
    ending (deletes.run resource) turn.1 = .error cause ∧ isNotFoundError cause = true

theorem honest_resultAt_iff (present : σ → Resource → Prop) (turn : σ × Document) :
    Honest deletes present turn (resultAt deletes turn.1 turn.2) ↔
      ¬ Misleading deletes present turn := by
  obtain ⟨s, doc⟩ := turn
  constructor
  · rintro hh ⟨resource, cause, ha, ht, he, hm⟩
    have hsd := (hh.failed resource cause ha ht he).1
    simp [resultAt, ha, he, report, hm] at hsd
  · intro hs
    cases ha : target doc with
    | error cause =>
      refine ⟨?_, ?_⟩
      · simp [resultAt, ha]
      · intro resource other
        simp [ha]
    | ok resource =>
      refine ⟨?_, ?_⟩
      · intro hsd
        refine ⟨resource, ha, ?_⟩
        intro ht
        cases he : ending (deletes.run resource) s with
        | ok done => simp [resultAt, ha, he, report] at hsd
        | error cause =>
          have hp : ¬ isNotFoundError cause = true := fun hm =>
            hs ⟨resource, cause, ha, ht, he, hm⟩
          simp [resultAt, ha, he, report, hp] at hsd
      · intro other cause hsm ht he
        obtain rfl : resource = other := by simpa [ha] using hsm
        have hp : ¬ isNotFoundError cause = true := fun hm =>
          hs ⟨resource, cause, ha, ht, he, hm⟩
        simp [resultAt, ha, he, report, hp]

/-- Every report is honest exactly when no delete that fails on a resource that is there ends with an
    error that wraps one of the four sentinels or has `not found` in its text. -/
theorem not_found_only_of_absent_iff (present : σ → Resource → Prop) (docs : List Document)
    (s : σ) :
    (∃ results last, Yields (deleteDocuments deletes docs) s results last ∧
      List.Forall₂ (Honest deletes present)
        (turns (deleteDocument deletes) s (sortDocumentsByKind docs true)) results) ↔
      ∀ turn ∈ turns (deleteDocument deletes) s (sortDocumentsByKind docs true),
        ¬ Misleading deletes present turn := by
  have ran := yields_mapM (deleteDocument_yields deletes) s (sortDocumentsByKind docs true)
  generalize turns (deleteDocument deletes) s (sortDocumentsByKind docs true) = taken at ran ⊢
  have hp : List.Forall₂ (Honest deletes present) taken
      (taken.map fun turn => resultAt deletes turn.1 turn.2) ↔
      ∀ turn ∈ taken, ¬ Misleading deletes present turn := by
    rw [List.forall₂_map_right_iff, List.forall₂_same]
    simp only [honest_resultAt_iff]
  rw [← hp]
  constructor
  · rintro ⟨results, _, ho, hh⟩
    have hs : results = taken.map fun turn => resultAt deletes turn.1 turn.2 := by
      have hb := ho.ending.symm.trans ran.ending
      cases hb
      rfl
    exact hs ▸ hh
  · intro hh
    exact ⟨_, _, ran, hh⟩

end Loop

def missing {σ : Type} (runner : DeleteRunner σ) (s : σ) : Resource → Bool
  | .realm doc => unread (runner.getRealm doc) .realmNotFound
  | .space doc => unread (runner.getSpace doc) .spaceNotFound
  | .stack doc => unread (runner.getStack doc) .stackNotFound
  | .cell doc => unread (runner.getCell doc) .cellNotFound
where
  unread {α : Type} (read : KukeEffect σ α) (sentinel : Errdef) : Bool :=
    match ending read s with
    | .error cause => cause.is sentinel
    | .ok _ => false

/-- A host with a cell whose realm has lost its record: the runner finds the cell and fails to read
    the namespace of its realm. -/
def lostRealm : DeleteRunner Unit where
  getRealm _ := throw Errdef.realmNotFound.error
  getSpace _ := throw Errdef.spaceNotFound.error
  getStack _ := throw Errdef.stackNotFound.error
  getCell cell := pure cell
  listSpaces _ := pure []
  listStacks _ _ := pure []
  listCells _ _ _ := pure []
  deleteRealm _ := pure ()
  deleteSpace _ := pure ()
  deleteStack _ := pure ()
  deleteCell _ := throw (.under "failed to get realm: " Errdef.realmNotFound.error)

def strandedCell : Document where
  body := .cell (some
    { metadata := { name := "web" }
      spec := { realmID := "prod", spaceID := "shop", stackID := "front"
                containers := [{ id := "main", image := "nginx" }] } })

/-- The cell is there and its delete has failed, and the report says that it was not found. -/
theorem stranded_cell_reported_missing :
    ∃ cell, target strandedCell = .ok (.cell cell) ∧ missing lostRealm () (.cell cell) = false ∧
      ending ((controllerDeletes lostRealm false false).run (.cell cell)) () =
        .error (Errdef.deleteCell.error.wrapping
          (.under "failed to get realm: " Errdef.realmNotFound.error)) ∧
      ending (deleteDocuments (controllerDeletes lostRealm false false) [strandedCell]) () =
        .ok [{ index := 0, kind := "Cell", name := "web", action := .notFound }] := by
  refine ⟨_, rfl, rfl, rfl, ?_⟩
  simp only [deleteDocuments, sortDocumentsByKind, List.mergeSort_singleton]
  rfl

end Kukeon.Controller.Documents
