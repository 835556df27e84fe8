import Kukeon.ModelHub.Cell
import Kukeon.Runner.ScopeFiles

/-! # Retained volumes

Where a volume and its reclaim manifest lie, and that the selective reclaim of a scope keeps both of
every volume that is marked `Retain`, as long as no scope has the name of a directory for volumes.
-/

namespace Kukeon.Runner.Teardown

open Effect GoText

/-- A volume by its scope, a realm, a space or a stack, and its name. -/
structure VolumeKey where
  scope : TreePath
  name : String

namespace VolumeKey

def manifest (volume : VolumeKey) : TreePath :=
  volume.scope ++ [volumeMetaSubdir, volume.name ++ ".json"]

def directory (volume : VolumeKey) : TreePath := volume.scope ++ [volumesSubdir, volume.name]

def Holds (volume : VolumeKey) (path : TreePath) : Prop :=
  path = volume.manifest ∨ volume.directory <+: path

def Retained (volume : VolumeKey) (tree : ScopeTree) : Prop :=
  tree.read volume.manifest = some (.manifest "Retain")

end VolumeKey

/-- No component is the name of a directory for volumes or their manifests. -/
def Unreserved (path : TreePath) : Prop := volumesSubdir ∉ path ∧ volumeMetaSubdir ∉ path

instance (path : TreePath) : Decidable (Unreserved path) := inferInstanceAs (Decidable (_ ∧ _))

theorem prefix_of_prefix_append_cons {dir front rest : TreePath} {name : String}
    (hu : dir <+: front ++ name :: rest) (ha : name ∉ dir) : dir <+: front := by
  rcases List.prefix_or_prefix_of_prefix hu (List.prefix_append front (name :: rest)) with
    hs | ⟨more, rfl⟩
  · exact hs
  · rw [List.prefix_append_right_inj] at hu
    cases more with
    | nil => simp
    | cons first more =>
      obtain ⟨rfl, _⟩ := List.cons_prefix_cons.mp hu
      exact absurd (by simp) ha

variable {volume : VolumeKey} {scope : TreePath} {tree : ScopeTree}

/-- A scope above something that belongs to a volume is the volume's scope or above it. -/
theorem VolumeKey.prefix_scope {dir path : TreePath} (hu : Unreserved dir)
    (hh : volume.Holds path) (hun : dir <+: path) : dir <+: volume.scope := by
  rcases hh with rfl | ⟨rest, rfl⟩
  · exact prefix_of_prefix_append_cons hun hu.2
  · unfold directory at hun
    rw [List.append_assoc] at hun
    exact prefix_of_prefix_append_cons hun hu.1

theorem VolumeKey.not_holds {path : TreePath} (hu : Unreserved path) :
    ¬ volume.Holds path := by
  rintro (rfl | ⟨rest, rfl⟩)
  · exact hu.2 (by simp [manifest])
  · exact hu.1 (by simp [directory])

theorem hasSuffix_append (text suffix : String) : hasSuffix (text ++ suffix) suffix = true := by
  simp [hasSuffix]

theorem volumeName_append (name : String) : volumeName (name ++ ".json") = name := by
  simp [volumeName]

theorem walked_manifest {names : List String} (hu : Unreserved names) (file : String) :
    walked (names ++ [volumeMetaSubdir, file]) = hasSuffix file ".json" := by
  induction names with
  | nil => rfl
  | cons name rest ih =>
    obtain ⟨hn, hnm⟩ := hu
    rw [List.mem_cons, not_or] at hn hnm
    rw [List.cons_append]
    unfold walked
    rw [if_neg (Ne.symm hn.1), if_neg (Ne.symm hnm.1)]
    exact ih ⟨hn.2, hnm.2⟩

theorem volumeOf_manifest (volume : VolumeKey) : volumeOf volume.manifest = volume.directory := by
  unfold volumeOf VolumeKey.manifest VolumeKey.directory
  rw [List.dropLast_append_of_ne_nil (by simp)]
  simp [volumeName_append]

theorem walked_drop (hn : scope ≠ []) (hun : scope <+: volume.scope)
    (hu : Unreserved volume.scope) :
    walked (volume.manifest.drop (scope.length - 1)) = true := by
  obtain ⟨rest, hs⟩ := hun
  obtain ⟨front, base, rfl⟩ := (List.eq_nil_or_concat scope).resolve_left hn
  rw [List.concat_eq_append] at hs ⊢
  have hnm : volume.manifest.drop ((front ++ [base]).length - 1) =
      (base :: rest) ++ [volumeMetaSubdir, volume.name ++ ".json"] := by
    unfold VolumeKey.manifest
    rw [← hs]
    simp
  rw [hnm, walked_manifest ?_, hasSuffix_append]
  rw [← hs] at hu
  simp only [Unreserved, List.mem_append, not_or, List.mem_cons] at hu ⊢
  tauto

theorem mem_manifestsIn (hn : scope ≠ []) (hun : scope <+: volume.scope)
    (hu : Unreserved volume.scope)
    (hm : (volume.manifest, Entry.manifest "Retain") ∈ tree) :
    (volume.manifest, Entry.manifest "Retain") ∈ manifestsIn tree scope := by
  refine List.mem_filter.mpr ⟨hm, ?_⟩
  rw [walked_drop hn hun hu]
  simp only [Bool.and_true, Bool.and_eq_true, List.isPrefixOf_iff_prefix, bne_iff_ne, ne_eq,
    reduceCtorEq, not_false_eq_true, and_true]
  exact hun.trans (List.prefix_append _ _)

/-- The manifest and the directory of a retained volume below the scope are leaves. -/
theorem collectRetained_leaves {leaves : List TreePath} (hn : scope ≠ [])
    (hun : scope <+: volume.scope) (hu : Unreserved volume.scope)
    (hr : volume.Retained tree) (hc : collectRetained tree scope = .ok leaves) :
    volume.manifest ∈ leaves ∧ volume.directory ∈ leaves := by
  have hf := mem_manifestsIn hn hun hu (FileTree.mem_of_read hr)
  unfold collectRetained at hc
  split at hc
  · cases hc
  · cases hc
    constructor
    · exact List.mem_flatMap.mpr ⟨_, hf, by simp [reclaimPolicy]⟩
    · exact List.mem_flatMap.mpr ⟨_, hf, by simp [reclaimPolicy, volumeOf_manifest]⟩

theorem survives_leaf {leaves : List TreePath} {names : List String} (hn : names ≠ []) :
    ∀ {dir : TreePath} (rest : List String), scope <+: dir →
      dir ++ names ∈ leaves → names <+: rest →
        survives leaves (ancestors scope leaves) dir rest = true := by
  induction names with
  | nil => exact absurd rfl hn
  | cons name names ih =>
    intro dir rest hu hlf hal
    obtain ⟨more, rfl⟩ := hal
    rw [List.cons_append, survives]
    by_cases hi : dir ++ [name] ∈ leaves
    · rw [if_pos hi]
    · have hl : names ≠ [] := by
        rintro rfl
        exact hi hlf
      have ha : dir ++ [name] ∈ ancestors scope leaves := by
        refine List.mem_flatMap.mpr ⟨_, hlf, List.mem_filter.mpr ⟨?_, ?_⟩⟩
        · rw [List.mem_inits, List.dropLast_append_of_ne_nil (by simp),
            List.dropLast_cons_of_ne_nil hl]
          simp
        · exact List.isPrefixOf_iff_prefix.mpr (hu.trans (List.prefix_append _ _))
      rw [if_neg hi, if_pos ha]
      refine ih hl (names ++ more) (hu.trans (List.prefix_append _ _)) ?_ (by simp)
      simpa using hlf

def reclaimed (tree : ScopeTree) (scope : TreePath) : ScopeTree :=
  match collectRetained tree scope with
  | .error _ => tree
  | .ok leaves => if leaves = [] then tree.removeAll scope else pruneExcept tree scope leaves

theorem finalState_reclaim (tree : ScopeTree) (scope : TreePath) :
    finalState (reclaimScopeMetadata scope) tree = reclaimed tree scope := by
  unfold reclaimed reclaimScopeMetadata
  rw [Yields.finalState_bind (Yields.read tree)]
  cases hc : collectRetained tree scope with
  | error e => rfl
  | ok leaves =>
    rw [Yields.finalState_bind (Yields.ofResult rfl tree)]
    dsimp only
    split <;> rfl

/-- What a reclaim does not remove: what is outside its scope, and what is in a leaf. -/
theorem exists_reclaimed (tree : ScopeTree) (scope : TreePath) :
    ∃ keep, reclaimed tree scope = tree.restrict keep ∧
      ∀ path, (scope <+: path → ∀ leaves, collectRetained tree scope = .ok leaves →
        ∃ leaf ∈ leaves, scope <+: leaf ∧ scope ≠ leaf ∧ leaf <+: path) → keep path = true := by
  unfold reclaimed
  cases hc : collectRetained tree scope with
  | error e => exact ⟨fun _ => true, by simp [FileTree.restrict], fun _ _ => rfl⟩
  | ok leaves =>
    dsimp only
    split
    · next hnn =>
        refine ⟨_, rfl, ?_⟩
        intro path hs
        by_contra hr
        obtain ⟨leaf, hi, _⟩ := hs (by simpa using hr) leaves rfl
        rw [hnn] at hi
        cases hi
    · refine ⟨_, rfl, ?_⟩
      intro path hs
      by_cases hb : scope <+: path
      · obtain ⟨leaf, hi, hu, hst, ha⟩ := hs hb leaves rfl
        obtain ⟨names, rfl⟩ := hu
        have hn : names ≠ [] := by
          rintro rfl
          simp at hst
        obtain ⟨more, rfl⟩ := ha
        have hl := survives_leaf hn (names ++ more) (List.prefix_refl scope) hi
          (List.prefix_append names more)
        simp [hl]
      · simp [hb, ← Bool.not_eq_true]

/-- A reclaim keeps the volumes that are marked `Retain`. -/
theorem reclaimed_keeps (hn : scope ≠ []) (hu : Unreserved volume.scope)
    (hr : volume.Retained tree) (hs : Unreserved scope) :
    ∃ keep, reclaimed tree scope = tree.restrict keep ∧
      ∀ path, volume.Holds path → keep path = true := by
  obtain ⟨keep, hsm, hsp⟩ := exists_reclaimed tree scope
  refine ⟨keep, hsm, ?_⟩
  intro path hh
  refine hsp path ?_
  intro hb leaves hc
  have hun := VolumeKey.prefix_scope hs hh hb
  obtain ⟨hm, hd⟩ :=
    collectRetained_leaves hn hun hu hr hc
  rcases hh with rfl | ha
  · refine ⟨_, hm, hun.trans (List.prefix_append _ _), ?_, List.prefix_refl _⟩
    rintro rfl
    exact hs.2 (by simp [VolumeKey.manifest])
  · refine ⟨_, hd, hun.trans (List.prefix_append _ _), ?_, ha⟩
    rintro rfl
    exact hs.1 (by simp [VolumeKey.directory])

end Kukeon.Runner.Teardown

/-! ## Volumes on disk

`internal/controller/runner/volume.go` with the reclaim manifests of `volume_meta.go`, and
`ReconcileVolume` of `internal/controller/apply/reconcile.go`. A volume without a manifest beside its
directory has no policy recorded. -/

open Std.Do

set_option mvcgen.warning false

namespace Kukeon.Runner.Volumes

open ModelHub GoText Effect Teardown

structure VolumeMetadata where
  name : String := ""
  realm : String := ""
  space : String := ""
  stack : String := ""
  deriving DecidableEq

structure Volume where
  metadata : VolumeMetadata := {}
  reclaimPolicy : String := ""
  deriving DecidableEq

def reclaimRetain : String := "Retain"

/-- `VolumeScopeDir`: joining a path drops the coordinates that are blank. -/
def volumeScopeDir (realm space stack : String) : TreePath :=
  [realm, space, stack].filter (· ≠ "")

def VolumeMetadata.key (md : VolumeMetadata) : VolumeKey where
  scope := volumeScopeDir md.realm md.space md.stack
  name := md.name

inductive VolumeError where
  | scopeNotFound (level name : String)
  | scopeLookup (level name : String)
  | notDirectory (path : TreePath)
  | notFound
  | manifest (path : TreePath)
  | io (text : String)
  /-- The volume of a mount of a cell could not be provisioned. -/
  | ensure (volume cell : String) (cause : VolumeError)
  deriving DecidableEq

abbrev VolumeEffect := Effect ScopeTree VolumeError

/-- The calls on the directories and manifests of volumes that fail. -/
structure VolumeFaults where
  directory : TreePath → Option String := fun _ => none
  manifest : TreePath → Option String := fun _ => none

def failing (fault : Option String) : VolumeEffect Unit :=
  match fault with
  | some text => throw (.io text)
  | none => pure ()

/-- `GetSpace` trims its names and asks for both, `GetRealm` does neither. -/
def getSpaceScope (tree : ScopeTree) (realm space : String) : Lookup :=
  if trimSpace realm = "" ∨ trimSpace space = "" then .unreadable
  else getScope tree [trimSpace realm, trimSpace space]

def getStackScope (tree : ScopeTree) (realm space stack : String) : Lookup :=
  if trimSpace realm = "" ∨ trimSpace space = "" ∨ trimSpace stack = "" then .unreadable
  else getScope tree [trimSpace realm, trimSpace space, trimSpace stack]

/-- `volumeScopeLookupError`. -/
def scopeThere (level name : String) : Lookup → Except VolumeError Unit
  | .found => .ok ()
  | .missing => .error (.scopeNotFound level name)
  | .unreadable => .error (.scopeLookup level name)

def ensureVolumeScopeExists (tree : ScopeTree) (md : VolumeMetadata) : Except VolumeError Unit := do
  scopeThere "realm" md.realm (getScope tree [md.realm])
  if md.space ≠ "" then scopeThere "space" md.space (getSpaceScope tree md.realm md.space)
  if md.stack ≠ "" then
    scopeThere "stack" md.stack (getStackScope tree md.realm md.space md.stack)

section Faults

variable (faults : VolumeFaults)

/-- `MkdirAll` and `Chmod` of a directory whose parent is there. -/
def makeDirectory (path : TreePath) : VolumeEffect Unit := do
  match (← get).read path with
  | none => modify (·.put path .dir)
  | some .dir => pure ()
  | some _ => throw (.notDirectory path)
  failing (faults.directory path)

def withDirectory (tree : ScopeTree) (path : TreePath) : ScopeTree :=
  if tree.read path = none then tree.put path .dir else tree

theorem makeDirectory_spec (path : TreePath) (start : ScopeTree) :
    ⦃fun tree => ⌜tree = start⌝⦄
      makeDirectory faults path
    ⦃post⟨fun _ tree => ⌜tree = withDirectory start path ∧ tree.read path = some .dir⌝,
      fun _ tree => ⌜tree = start ∨ tree = withDirectory start path⌝⟩⦄ := by
  mvcgen [makeDirectory, failing]
  all_goals grind [withDirectory, FileTree.read_put]

/-- Any other policy than `Retain` removes the manifest. -/
def persistVolumeReclaimPolicy (volume : Volume) : VolumeEffect Unit := do
  let manifest := volume.metadata.key.manifest
  if volume.reclaimPolicy ≠ reclaimRetain then do
    failing (faults.manifest manifest)
    modify (·.remove manifest)
  else do
    makeDirectory faults (volume.metadata.key.scope ++ [volumeMetaSubdir])
    failing (faults.manifest manifest)
    modify (·.put manifest (.manifest reclaimRetain))

def writeVolume (volume : Volume) : VolumeEffect Bool := do
  makeDirectory faults (volume.metadata.key.scope ++ [volumesSubdir])
  let created := ((← get).read volume.metadata.key.directory).isNone
  makeDirectory faults volume.metadata.key.directory
  persistVolumeReclaimPolicy faults volume
  return created

inductive ReconcileAction where
  | created
  | updated
  deriving DecidableEq

def reconcileVolume (desired : Volume) : VolumeEffect ReconcileAction := do
  ofResult (ensureVolumeScopeExists (← get) desired.metadata)
  let created ← writeVolume faults desired
  return if created then .created else .updated

end Faults

def readVolumeReclaimPolicy (tree : ScopeTree) (md : VolumeMetadata) : Except VolumeError String :=
  match tree.read md.key.manifest with
  | none => .ok ""
  | some entry =>
    match reclaimPolicy entry with
    | some policy => .ok policy
    | none => .error (.manifest md.key.manifest)

def volumeDirExists (tree : ScopeTree) (md : VolumeMetadata) : Bool :=
  tree.read md.key.directory == some .dir

def deleteVolume (md : VolumeMetadata) : VolumeEffect Unit := do
  if volumeDirExists (← get) md then
    modify fun tree => (tree.removeAll md.key.directory).remove md.key.manifest
  else throw .notFound

end Kukeon.Runner.Volumes
