import Kukeon.ModelHub.Space

/-! # Writing metadata documents

`writeDocWithGeneration` of `internal/controller/runner/metadata.go` and `mergeManagedLabels` of
`internal/controller/runner/labels.go`. A document on disk carries a generation that advances only
when a write changes its spec. A writer that read the document presents the generation it saw; the
write is refused when the disk has moved past it.
-/

namespace Kukeon.Runner

open ModelHub

structure DocAccess (D S : Type) where
  generation : D → Int
  setGeneration : D → Int → D
  specOf : D → S

inductive WriteError where
  /-- `ErrStaleResource`: the caller saw an older generation than the disk holds. -/
  | staleResource (observed onDisk : Int)
  | io (text : String)
  deriving Repr, DecidableEq

def firstGeneration : Int := 1

section WriteDoc

variable {D S : Type} [DecidableEq S] (access : DocAccess D S)

/-- The document a successful write leaves on disk. Generation `0` marks a document that was
    built rather than read, and skips the check of the token. -/
def writeDocWithGeneration (disk : Option D) (doc : D) : Except WriteError D :=
  match disk with
  | none => .ok (access.setGeneration doc firstGeneration)
  | some prior =>
    let onDisk := access.generation prior
    let incoming := access.generation doc
    if 0 < incoming ∧ incoming < onDisk then .error (.staleResource incoming onDisk)
    else
      .ok (access.setGeneration doc
        (if access.specOf prior = access.specOf doc then onDisk else onDisk + 1))

variable {access}

/-- A write over an existing document is refused for a stale token, and otherwise stores the
    caller's document under a generation of the writer's choice. -/
theorem writeDocWithGeneration_some {prior doc written : D}
    (hw : writeDocWithGeneration access (some prior) doc = .ok written) :
    ¬ (0 < access.generation doc ∧ access.generation doc < access.generation prior) ∧
      written = access.setGeneration doc
        (if access.specOf prior = access.specOf doc then access.generation prior
          else access.generation prior + 1) := by
  unfold writeDocWithGeneration at hw
  dsimp only at hw
  split at hw
  · cases hw
  · next hf => exact ⟨hf, (Except.ok.inj hw).symm⟩

theorem written_eq {disk : Option D} {doc written : D}
    (hw : writeDocWithGeneration access disk doc = .ok written) :
    ∃ generation, written = access.setGeneration doc generation := by
  cases disk with
  | none => exact ⟨_, (Except.ok.inj hw).symm⟩
  | some prior => exact ⟨_, (writeDocWithGeneration_some hw).2⟩

end WriteDoc

/-- Every key of `desired`, and the controller's own keys of `existing` that it does not author. -/
def mergeManagedLabels (existing desired : Labels) : Labels :=
  desired ∪ existing.filterKeys isManagedLabel

theorem lookup_mergeManagedLabels (existing desired : Labels) (key : String) :
    (mergeManagedLabels existing desired).lookup key =
      (desired.lookup key).or (if isManagedLabel key then existing.lookup key else none) := by
  have hk : (existing.filterKeys isManagedLabel).lookup key =
      if isManagedLabel key then existing.lookup key else none :=
    Option.ext fun value => by simp [GoMap.lookup_filterKeys_eq_some]
  rw [← hk, mergeManagedLabels]
  by_cases hd : key ∈ desired
  · obtain ⟨value, hv⟩ := Finmap.mem_iff.mp hd
    rw [Finmap.lookup_union_left hd, hv, Option.some_or]
  · rw [Finmap.lookup_union_right hd, Finmap.lookup_eq_none.mpr hd, Option.none_or]

def markCellReady (cell : Cell) : Cell :=
  { cell with
    status.state := .ready
    status.readyObserved := true
    status.reason := ""
    status.message := "" }

def cellAccess : DocAccess Cell CellSpec where
  generation cell := cell.metadata.generation
  setGeneration cell generation :=
    { cell with metadata := { cell.metadata with generation := generation } }
  specOf cell := cell.spec.deref

def spaceAccess : DocAccess Space SpaceSpec where
  generation space := space.metadata.generation
  setGeneration space generation :=
    { space with metadata := { space.metadata with generation := generation } }
  specOf space := space.spec

end Kukeon.Runner
