import Kukeon.Controller.UpdateRouting
import Kukeon.Runner.RetainedVolumes

/-! # Provisioning the volumes of a cell

`ensurePerCellVolumes` of `internal/controller/percell_volume.go`, which creating, starting and
reapplying a cell run before they build containers. It hands a volume without a policy to
`ReconcileVolume`, so that a volume that is there loses the policy recorded for it.
-/

/-! ## `internal/controller/create_cell.go` -/

namespace Kukeon.Controller

open ModelHub GoText Runner

inductive CreateCellError where
  | cellNameRequired
  | realmNameRequired
  | spaceNameRequired
  | stackNameRequired
  | containerNameRequired
  | invalidName (cause : String)

def kukeonRealmLabelKey : String := "realm.kukeon.io"

def kukeonSpaceLabelKey : String := "space.kukeon.io"

def kukeonStackLabelKey : String := "stack.kukeon.io"

def kukeonCellLabelKey : String := "cell.kukeon.io"

/-- `applyDefaultCellLabels`: a label the operator wrote stands. -/
def applyDefaultCellLabels (labels : Labels) (realm space stack name : String) : Labels :=
  labels ∪ GoMap.ofList
    [ (kukeonRealmLabelKey, realm), (kukeonSpaceLabelKey, space), (kukeonStackLabelKey, stack),
      (kukeonCellLabelKey, name) ]

def normalizeContainerID (container : ContainerSpec) : Except CreateCellError ContainerSpec := do
  if trimSpace container.id = "" then throw .containerNameRequired
  (Naming.validateHierarchyName "container" (trimSpace container.id)).mapError .invalidName
  return { container with id := trimSpace container.id }

/-- The ownership that `normalizeCellInputs` gives every container. -/
def ownedContainer (realm space stack name : String) (container : ContainerSpec) : ContainerSpec :=
  { container with
    realmName := realm
    spaceName := space
    stackName := stack
    cellName := name }

/-- The scope of the cell itself keeps the blanks around its names. -/
def normalizeCellInputs (cell : Cell) : Except CreateCellError Cell := do
  let name := trimSpace cell.metadata.name
  let realm := trimSpace cell.spec.realmName
  let space := trimSpace cell.spec.spaceName
  let stack := trimSpace cell.spec.stackName
  if name = "" then throw .cellNameRequired
  (Naming.validateHierarchyName "cell" name).mapError .invalidName
  if realm = "" then throw .realmNameRequired
  if space = "" then throw .spaceNameRequired
  if stack = "" then throw .stackNameRequired
  let containers ← cell.spec.containers.mapM normalizeContainerID
  return { cell with
    metadata.name := name
    metadata.labels := applyDefaultCellLabels cell.metadata.labels realm space stack name
    spec.id := orElse cell.spec.id name
    spec.containers := containers.map (ownedContainer realm space stack name) }

open Effect Teardown Volumes Std.Do

set_option mvcgen.warning false

/-- The mounts of a cell whose volume is provisioned on first use. -/
def ensureMounts (cell : Cell) : List VolumeMount :=
  cell.spec.containers.flatMap fun container =>
    container.volumes.filter fun mount => mount.kind = .volume && mount.ensure

/-- A reference names the volume by its own coordinates, a bare source in the scope of the cell. -/
def volumeForEnsureMount (cell : Cell) (mount : VolumeMount) : Volume :=
  match mount.volumeRef with
  | some ref =>
    { metadata :=
        { name := ref.val.name, realm := ref.val.realm, space := ref.val.space
          stack := ref.val.stack } }
  | none =>
    { metadata :=
        { name := mount.source, realm := cell.spec.realmName, space := cell.spec.spaceName
          stack := cell.spec.stackName } }

theorem volumeForEnsureMount_unmarked (cell : Cell) (mount : VolumeMount) :
    (volumeForEnsureMount cell mount).reclaimPolicy ≠ reclaimRetain := by
  have hb : (volumeForEnsureMount cell mount).reclaimPolicy = "" := by
    unfold volumeForEnsureMount
    split <;> rfl
  rw [hb]
  decide

def provisionMount (faults : VolumeFaults) (cell : Cell) (mount : VolumeMount) :
    VolumeEffect Unit := do
  let volume := volumeForEnsureMount cell mount
  let _ ← rewording (.ensure volume.metadata.name cell.metadata.name)
    (reconcileVolume faults volume)

def ensurePerCellVolumes (faults : VolumeFaults) (cell : Cell) : VolumeEffect Unit :=
  (ensureMounts cell).forM (provisionMount faults cell)

inductive Provisioning where
  /-- Of the cell that the operator has submitted. -/
  | create (cell : Cell)
  /-- Of the cell on disk. -/
  | start (cell : Cell)
  /-- A start that has materialized the cell again from its Config. -/
  | reapply (cell desired : Cell)

/-- The cell that the pass runs on, unless the operation ends before it. -/
def Provisioning.target : Provisioning → Option Cell
  | .create cell => (normalizeCellInputs cell).toOption
  | .start cell => some cell
  | .reapply cell desired => some (withIdentityOf cell desired)

def Provisioning.run (faults : VolumeFaults) (operation : Provisioning) : VolumeEffect Unit :=
  match operation.target with
  | none => pure ()
  | some cell => ensurePerCellVolumes faults cell

/-- One of the mounts refers to the volume, and those before it and it are provisioned. -/
def ReachedBy (faults : VolumeFaults) (cell : Cell) (md : VolumeMetadata) (tree : ScopeTree)
    (mounts : List VolumeMount) : Prop :=
  ∃ before mount after, mounts = before ++ mount :: after ∧
    (volumeForEnsureMount cell mount).metadata.key = md.key ∧
    ending ((before ++ [mount]).forM (provisionMount faults cell)) tree = .ok ()

def Provisioning.Reaches (faults : VolumeFaults) (operation : Provisioning) (md : VolumeMetadata)
    (tree : ScopeTree) : Prop :=
  ∃ cell, operation.target = some cell ∧ ReachedBy faults cell md tree (ensureMounts cell)

def Unmarked (md : VolumeMetadata) (tree : ScopeTree) : Prop :=
  readVolumeReclaimPolicy tree md = .ok ""

variable {tree : ScopeTree} {md : VolumeMetadata}

theorem unmarked_of_read
    (hr : tree.read md.key.manifest = none ∨ tree.read md.key.manifest = some .dir) :
    Unmarked md tree := by
  unfold Unmarked readVolumeReclaimPolicy
  rcases hr with hn | dir
  · rw [hn]
  · rw [dir]
    rfl

theorem Unmarked.put_dir (hu : Unmarked md tree) (path : TreePath) :
    Unmarked md (tree.put path .dir) := by
  by_cases hs : md.key.manifest = path
  · refine unmarked_of_read (.inr ?_)
    rw [FileTree.read_put, if_pos hs]
  · unfold Unmarked readVolumeReclaimPolicy at hu ⊢
    rw [FileTree.read_put, if_neg hs]
    exact hu

theorem Unmarked.remove (hu : Unmarked md tree) (path : TreePath) :
    Unmarked md (tree.remove path) := by
  by_cases hs : md.key.manifest = path
  · refine unmarked_of_read (.inl ?_)
    rw [FileTree.read_remove, if_pos hs]
  · unfold Unmarked readVolumeReclaimPolicy at hu ⊢
    rw [FileTree.read_remove, if_neg hs]
    exact hu

theorem unmarked_removed (md : VolumeMetadata) (tree : ScopeTree) :
    Unmarked md (tree.remove md.key.manifest) :=
  unmarked_of_read (.inl (by rw [FileTree.read_remove, if_pos rfl]))

section Pass

variable (faults : VolumeFaults)

theorem makeDirectory_unmarked (md : VolumeMetadata) (path : TreePath) :
    Keeps (Unmarked md) (makeDirectory faults path) := by
  mvcgen [makeDirectory, failing]
  all_goals grind [Unmarked.put_dir]

theorem provisionMount_unmarked (cell : Cell) (md : VolumeMetadata) (mount : VolumeMount) :
    Keeps (Unmarked md) (provisionMount faults cell mount) := by
  have hd := makeDirectory_unmarked faults md
  have hb := volumeForEnsureMount_unmarked cell mount
  mvcgen [provisionMount, rewording, reconcileVolume, writeVolume, persistVolumeReclaimPolicy,
    failing, ofResult, hd]
  all_goals grind [Unmarked.remove]

theorem provisionMount_unmarks (cell : Cell) (md : VolumeMetadata) (mount : VolumeMount)
    (hs : (volumeForEnsureMount cell mount).metadata.key = md.key) :
    Makes (Unmarked md) (provisionMount faults cell mount) := by
  have hb := volumeForEnsureMount_unmarked cell mount
  mvcgen [provisionMount, rewording, reconcileVolume, writeVolume, persistVolumeReclaimPolicy,
    makeDirectory, failing, ofResult]
  all_goals grind [unmarked_removed]

theorem manifest_injective {left right : VolumeKey} (hsm : left.manifest = right.manifest) :
    left = right := by
  obtain ⟨hs, hn⟩ := List.append_inj' hsm rfl
  have hnm : left.name = right.name := by
    rw [← volumeName_append left.name, ← volumeName_append right.name]
    exact congrArg volumeName (by simpa using hn)
  cases left
  cases right
  exact congrArg₂ VolumeKey.mk hs hnm

def Marked (md : VolumeMetadata) (entry : Entry) (tree : ScopeTree) : Prop :=
  tree.read md.key.manifest = some entry

theorem provisionMount_marked (cell : Cell) (md : VolumeMetadata) (mount : VolumeMount)
    (entry : Entry) :
    ⦃fun tree => ⌜Marked md entry tree⌝⦄ provisionMount faults cell mount
    ⦃post⟨fun _ tree => ⌜(volumeForEnsureMount cell mount).metadata.key ≠ md.key →
        Marked md entry tree⌝, fun _ tree => ⌜Marked md entry tree⌝⟩⦄ := by
  have hb := volumeForEnsureMount_unmarked cell mount
  mvcgen [provisionMount, rewording, reconcileVolume, writeVolume, persistVolumeReclaimPolicy,
    makeDirectory, failing, ofResult]
  all_goals grind [Marked, manifest_injective, FileTree.read_put, FileTree.read_remove]

/-- A pass leaves the manifest of a volume alone unless it provisions the volume. -/
theorem provisionMounts_marked (cell : Cell) (md : VolumeMetadata) (entry : Entry)
    (mounts : List VolumeMount) (tree : ScopeTree) (hm : Marked md entry tree) :
    Marked md entry (finalState (mounts.forM (provisionMount faults cell)) tree) ∨
      ReachedBy faults cell md tree mounts := by
  induction mounts generalizing tree with
  | nil => exact .inl hm
  | cons mount rest ih =>
    obtain ⟨ho, hof⟩ :=
      of_triple (provisionMount_marked faults cell md mount entry) hm
    cases he : ending (provisionMount faults cell mount) tree with
    | error err =>
      have hl : finalState ((mount :: rest).forM (provisionMount faults cell)) tree =
          finalState (provisionMount faults cell mount) tree := by
        unfold finalState
        rw [forM_cons_of_error he]
        rfl
      rw [hl]
      exact .inl (hof err he)
    | ok done =>
      by_cases hs : (volumeForEnsureMount cell mount).metadata.key = md.key
      · refine .inr ⟨[], mount, rest, rfl, hs, ?_⟩
        exact (same_run (forM_cons_of_ok he [])).1
      · rw [(same_run (forM_cons_of_ok he rest)).2]
        refine (ih _ (ho done he hs)).imp_right ?_
        rintro ⟨before, other, after, rfl, hr, hp⟩
        refine ⟨mount :: before, other, after, rfl, hr, ?_⟩
        rw [List.cons_append, (same_run (forM_cons_of_ok he _)).1]
        exact hp

theorem unmarked_of_reached (cell : Cell) (md : VolumeMetadata) (mounts : List VolumeMount)
    (tree : ScopeTree) (hr : ReachedBy faults cell md tree mounts) :
    Unmarked md (finalState (mounts.forM (provisionMount faults cell)) tree) := by
  obtain ⟨before, mount, after, rfl, hs, hp⟩ := hr
  have hm : mount ∈ before ++ [mount] := by simp
  have hun := establishes_forM hm
    (fun other _ => provisionMount_unmarked faults cell md other)
    (provisionMount_unmarks faults cell md mount hs)
  have hu := (of_triple hun (s := tree) trivial).1 () hp
  rw [List.append_cons, (same_run (forM_append_of_ok hp after)).2]
  exact holds_finalState (keeps_forM fun other _ => provisionMount_unmarked faults cell md other)
    hu

/-- A pass leaves the policy on record exactly if there is none or the volume is not provisioned. -/
theorem provisionMounts_policy (cell : Cell) (md : VolumeMetadata) (mounts : List VolumeMount)
    (tree : ScopeTree) :
    readVolumeReclaimPolicy (finalState (mounts.forM (provisionMount faults cell)) tree) md =
        readVolumeReclaimPolicy tree md ↔
      Unmarked md tree ∨ ¬ ReachedBy faults cell md tree mounts := by
  by_cases hu : Unmarked md tree
  · have hk : Unmarked md (finalState (mounts.forM (provisionMount faults cell)) tree) :=
      holds_finalState (keeps_forM fun other _ => provisionMount_unmarked faults cell md other)
        hu
    exact iff_of_true (Eq.trans hk (Eq.symm hu)) (.inl hu)
  · rw [or_iff_right hu]
    constructor
    · intro hs hr
      exact hu (hs.symm.trans (unmarked_of_reached faults cell md mounts tree hr))
    · intro hun
      cases hrd : tree.read md.key.manifest with
      | none => exact absurd (unmarked_of_read (.inl hrd)) hu
      | some entry =>
        have hk := (provisionMounts_marked faults cell md entry mounts tree hrd).resolve_right
          hun
        unfold readVolumeReclaimPolicy
        rw [hk, hrd]

end Pass

/-- Creating, starting or reapplying a cell leaves the policy on record for a volume exactly if there
    is none, or the volume is not provisioned: no mount refers to it, or the operation fails before
    it has come to one that does. -/
theorem ensured_policy_kept_iff (faults : VolumeFaults) (operation : Provisioning)
    (md : VolumeMetadata) (tree : ScopeTree) :
    readVolumeReclaimPolicy (finalState (operation.run faults) tree) md =
        readVolumeReclaimPolicy tree md ↔
      readVolumeReclaimPolicy tree md = .ok "" ∨ ¬ operation.Reaches faults md tree := by
  cases ht : operation.target with
  | none =>
    have hid : operation.run faults = pure () := by
      unfold Provisioning.run
      rw [ht]
    rw [hid]
    refine iff_of_true rfl (.inr ?_)
    rintro ⟨cell, hi, -⟩
    rw [ht] at hi
    cases hi
  | some cell =>
    have hp : operation.run faults = ensurePerCellVolumes faults cell := by
      unfold Provisioning.run
      rw [ht]
    have hr : operation.Reaches faults md tree ↔
        ReachedBy faults cell md tree (ensureMounts cell) := by
      unfold Provisioning.Reaches
      rw [ht]
      simp
    rw [hp, hr]
    exact provisionMounts_policy faults cell md (ensureMounts cell) tree

def cacheCell : Cell where
  metadata := { name := "web" }
  spec :=
    { realmName := "r", spaceName := "s", stackName := "t"
      containers := [{ id := "app", volumes := [{ kind := .volume, source := "cache", ensure := true }] }] }

/-- The stack of the cell with its volume, which is to be retained. -/
def retainedCache : ScopeTree :=
  [ (["r", "metadata.json"], .document), (["r", "s", "metadata.json"], .document),
    (["r", "s", "t", "metadata.json"], .document), (["r", "s", "t", "volumes", "cache"], .dir),
    (["r", "s", "t", "volume-meta", "cache.json"], .manifest "Retain") ]

/-- Starting the cell takes the mark off the volume. -/
theorem start_unmarks_retained :
    let volume : VolumeMetadata := { name := "cache", realm := "r", space := "s", stack := "t" }
    readVolumeReclaimPolicy retainedCache volume = .ok "Retain" ∧
      readVolumeReclaimPolicy
        (finalState (Provisioning.run {} (.start cacheCell)) retainedCache) volume = .ok "" := by
  decide +kernel

end Kukeon.Controller
