import Kukeon.Runner.RetainedVolumes

/-! # What a purge leaves alone

Every step of a purge removes entries of the tree. `Sheltered` says when a property of the tree
outlives such steps: if it does not depend on more than the sheltered paths, and no scope that a purge
visits can be removed with one of them below it. The rules below follow the cascades from the cells up
to the realm.
-/

/-! ## The cascades of `internal/controller/delete_*.go` and `purge_*.go` -/

namespace Kukeon.Controller

open Effect Runner.Teardown

section Cascades

variable (faults : HostFaults) (force cascade : Bool)

/-- With `cascade` the children go first; without it, and without `force`, there may be none. -/
def withChildren (dir : TreePath) (child : TreePath → ScopeEffect Unit) : ScopeEffect Unit := do
  let children := listScopes (← get) dir
  if cascade then children.forM child
  else refuse (!force && children ≠ []) (.hasDependencies dir children.length)

def deleteStackCascade (stack : TreePath) : ScopeEffect Unit := do
  withChildren force cascade stack (deleteCell faults)
  deleteStack faults stack

def deleteSpaceCascade (space : TreePath) : ScopeEffect Unit := do
  withChildren force cascade space (deleteStackCascade faults force cascade)
  deleteSpace faults space

def deleteRealmCascade (realm : TreePath) : ScopeEffect Unit := do
  withChildren force cascade realm (deleteSpaceCascade faults force cascade)
  deleteRealm faults realm

def purgeCellCascade (cell : TreePath) : ScopeEffect Unit := do
  deleteCell faults cell
  Runner.Teardown.purgeCell faults cell

def purgeStackCascade (stack : TreePath) : ScopeEffect Unit := do
  withChildren force cascade stack (purgeCellCascade faults)
  deleteStackCascade faults force cascade stack
  Runner.Teardown.purgeStack faults stack

def purgeSpaceCascade (space : TreePath) : ScopeEffect Unit := do
  withChildren force cascade space (purgeStackCascade faults force cascade)
  deleteSpaceCascade faults force cascade space
  Runner.Teardown.purgeSpace faults space

def purgeRealmCascade (metadataExists : Bool) (realm : TreePath) : ScopeEffect Unit := do
  if metadataExists then do
    withChildren force cascade realm (purgeSpaceCascade faults force cascade)
    let _ ← attempt (deleteRealmCascade faults force cascade realm)
    Runner.Teardown.purgeRealm faults realm
  else Runner.Teardown.purgeRealm faults realm

def purgeStack (stack : TreePath) : ScopeEffect Unit := do
  match getScope (← get) stack with
  | .missing => throw (.notFound stack)
  | .unreadable => throw (.unreadable stack)
  | .found => purgeStackCascade faults force cascade stack

def purgeSpace (space : TreePath) : ScopeEffect Unit := do
  match getScope (← get) space with
  | .missing => throw (.notFound space)
  | .unreadable => throw (.unreadable space)
  | .found => purgeSpaceCascade faults force cascade space

def purgeRealm (realm : TreePath) : ScopeEffect Unit := do
  match getScope (← get) realm with
  | .missing => purgeRealmCascade faults force cascade false realm
  | .unreadable => throw (.unreadable realm)
  | .found => purgeRealmCascade faults force cascade true realm

end Cascades

open Std.Do

set_option mvcgen.warning false

structure Sheltered (good : ScopeTree → Prop) (sheltered visited : TreePath → Prop) : Prop where
  restrict : ∀ tree keep, good tree → (∀ path, sheltered path → keep path = true) →
    good (tree.restrict keep)
  child : ∀ tree dir name, good tree → visited dir → dir.length < 4 →
    getScope tree (dir ++ [name]) = .found → visited (dir ++ [name])
  /-- The files of a scope itself. -/
  files : ∀ dir path, visited dir → path ∈ [dir, dir ++ [metadataFile], dir ++ [metadataLock]] →
    ¬ sheltered path
  cell : ∀ dir path, visited dir → dir.length = 4 → sheltered path → ¬ dir <+: path
  stack : ∀ tree dir path, good tree → visited dir → dir.length = 3 →
    scanStackDirCellResidue tree dir = [] → sheltered path → ¬ dir <+: path
  reclaim : ∀ tree dir, good tree → visited dir → good (reclaimed tree dir)

/-- A space is spared if its delete fails or nothing in it is sheltered. -/
abbrev Spared (sheltered : TreePath → Prop) (faults : HostFaults) (dir : TreePath) : Prop :=
  (faults.connect = true ∨ faults.metadata dir = true) ∨ ∀ path, sheltered path → ¬ dir <+: path

theorem withoutChildren_keeps {i : ScopeTree → Prop} {force : Bool} (dir : TreePath)
    (f : TreePath → ScopeEffect Unit) : Keeps i (withChildren force false dir f) := by
  mvcgen [withChildren, refuse]

section Rules

variable {good : ScopeTree → Prop} {sheltered visited : TreePath → Prop}
  (shelter : Sheltered good sheltered visited) (faults : HostFaults) (force cascade : Bool)
  {dir : TreePath} (visit : visited dir)

include shelter

theorem removeAll_good (hc : ∀ path, sheltered path → ¬ dir <+: path) (tree : ScopeTree)
    (hi : good tree) : good (tree.removeAll dir) := by
  refine shelter.restrict tree _ hi ?_
  intro path hh
  simpa [← Bool.not_eq_true] using hc path hh

theorem remove_good {other : TreePath} (ha : ¬ sheltered other) (tree : ScopeTree)
    (hi : good tree) : good (tree.remove other) := by
  refine shelter.restrict tree _ hi ?_
  intro path hh
  simp only [bne_iff_ne, ne_eq]
  rintro rfl
  exact ha hh

include visit

theorem deleteMetadata_keeps : Keeps good (deleteMetadata faults dir) := by
  have hd := remove_good shelter (shelter.files dir dir visit (by simp))
  have hdc :=
    remove_good shelter (shelter.files dir (dir ++ [metadataFile]) visit (by simp))
  have hl := remove_good shelter (shelter.files dir (dir ++ [metadataLock]) visit (by simp))
  mvcgen [deleteMetadata, refuse]
  all_goals grind

theorem removeScopeFiles_keeps :
    Leads (fun tree => good tree ∧ ((faults.metadata dir = true ∧ getScope tree dir = .found) ∨
      ∀ path, sheltered path → ¬ dir <+: path)) good (removeScopeFiles faults dir) := by
  by_cases hc : ∀ path, sheltered path → ¬ dir <+: path
  · have hm := deleteMetadata_keeps shelter faults visit
    have hr := removeAll_good shelter hc
    mvcgen [removeScopeFiles, hm]
    all_goals grind
  · mvcgen [removeScopeFiles, deleteMetadata, refuse]
    all_goals grind [getScope]

theorem deleteCell_keeps (hd : dir.length = 4) : Keeps good (deleteCell faults dir) := by
  have hf := removeScopeFiles_keeps shelter faults visit
  have hc := fun path => shelter.cell dir path visit hd
  mvcgen [deleteCell, refuse, hf]
  all_goals grind

theorem deleteStack_keeps (hd : dir.length = 3) : Keeps good (deleteStack faults dir) := by
  have hf := removeScopeFiles_keeps shelter faults visit
  have hc := fun tree path hi => shelter.stack tree dir path hi visit hd
  mvcgen [deleteStack, refuse, hf]
  all_goals grind

theorem deleteSpace_keeps (hs : Spared sheltered faults dir) :
    Keeps good (deleteSpace faults dir) := by
  have hf := removeScopeFiles_keeps shelter faults visit
  mvcgen [deleteSpace, refuse, hf]
  all_goals grind

theorem deleteRealm_keeps : Keeps good (deleteRealm faults dir) := by
  have hm := deleteMetadata_keeps shelter faults visit
  mvcgen [deleteRealm, refuse, hm]

theorem reclaim_keeps : Keeps good (reclaimScopeMetadata dir) := by
  have hk := fun tree hi => shelter.reclaim tree dir hi visit
  mvcgen [reclaimScopeMetadata, ofResult]
  all_goals grind [reclaimed]

theorem purgeCell_keeps (hdp : dir.length = 4) :
    Keeps good (Runner.Teardown.purgeCell faults dir) := by
  have hd := deleteCell_keeps shelter faults visit hdp
  have hr := removeAll_good shelter (fun path => shelter.cell dir path visit hdp)
  mvcgen [Runner.Teardown.purgeCell, attempt, refuse, hd]
  all_goals grind

theorem purgeStack_keeps (hdp : dir.length = 3) :
    Keeps good (Runner.Teardown.purgeStack faults dir) := by
  have hd := deleteStack_keeps shelter faults visit hdp
  have hr := reclaim_keeps shelter visit
  mvcgen [Runner.Teardown.purgeStack, attempt, refuse, hd, hr]

theorem purgeSpace_keeps (hs : Spared sheltered faults dir) :
    Keeps good (Runner.Teardown.purgeSpace faults dir) := by
  have hd := deleteSpace_keeps shelter faults visit hs
  have hr := reclaim_keeps shelter visit
  mvcgen [Runner.Teardown.purgeSpace, attempt, refuse, hd, hr]

theorem purgeRealm_keeps : Keeps good (Runner.Teardown.purgeRealm faults dir) := by
  have hr := reclaim_keeps shelter visit
  mvcgen [Runner.Teardown.purgeRealm, attempt, refuse, hr]

theorem listScopes_visited (hs : dir.length < 4) {tree : ScopeTree} (hi : good tree)
    {child : TreePath} (hl : child ∈ listScopes tree dir) :
    visited child ∧ child.length = dir.length + 1 := by
  obtain ⟨hm, hf⟩ := List.mem_filter.mp hl
  obtain ⟨name, _, rfl⟩ := List.mem_map.mp hm
  exact ⟨shelter.child tree dir name hi visit hs (by simpa using hf), by simp⟩

theorem withChildren_keeps (hs : dir.length < 4) {f : TreePath → ScopeEffect Unit}
    (he : ∀ child, visited child → child.length = dir.length + 1 → Keeps good (f child)) :
    Keeps good (withChildren force cascade dir f) := by
  have hlp : ∀ tree, good tree → Keeps good ((listScopes tree dir).forM f) := by
    intro tree hi
    refine keeps_forM ?_
    intro child hl
    obtain ⟨hv, hd⟩ := listScopes_visited shelter visit hs hi hl
    exact he child hv hd
  mvcgen [withChildren, refuse, hlp]

theorem deleteStackCascade_keeps (hdp : dir.length = 3) :
    Keeps good (deleteStackCascade faults force cascade dir) := by
  have hc := withChildren_keeps shelter force cascade visit (by omega) fun _ hv hd =>
    deleteCell_keeps shelter faults hv (hd.trans (congrArg (· + 1) hdp))
  have hdl := deleteStack_keeps shelter faults visit hdp
  mvcgen [deleteStackCascade, hc, hdl]

theorem purgeCellCascade_keeps (hdp : dir.length = 4) :
    Keeps good (purgeCellCascade faults dir) := by
  have hd := deleteCell_keeps shelter faults visit hdp
  have hp := purgeCell_keeps shelter faults visit hdp
  mvcgen [purgeCellCascade, hd, hp]

theorem purgeStackCascade_keeps (hdp : dir.length = 3) :
    Keeps good (purgeStackCascade faults force cascade dir) := by
  have hc := withChildren_keeps shelter force cascade visit (by omega) fun _ hv hd =>
    purgeCellCascade_keeps shelter faults hv (hd.trans (congrArg (· + 1) hdp))
  have hdl := deleteStackCascade_keeps shelter faults force cascade visit hdp
  have hp := purgeStack_keeps shelter faults visit hdp
  mvcgen [purgeStackCascade, hc, hdl, hp]

/-- Purging the stacks of a space, which comes before its delete. -/
theorem purgeStacks_keeps (hdp : dir.length = 2) :
    Keeps good (withChildren force cascade dir (purgeStackCascade faults force cascade)) :=
  withChildren_keeps shelter force cascade visit (by omega) fun _ hv hd =>
    purgeStackCascade_keeps shelter faults force cascade hv
      (hd.trans (congrArg (· + 1) hdp))

theorem deleteSpaceCascade_keeps (hdp : dir.length = 2) (hs : Spared sheltered faults dir) :
    Keeps good (deleteSpaceCascade faults force cascade dir) := by
  have hc := withChildren_keeps shelter force cascade visit (by omega) fun _ hv hd =>
    deleteStackCascade_keeps shelter faults force cascade hv
      (hd.trans (congrArg (· + 1) hdp))
  have hdl := deleteSpace_keeps shelter faults visit hs
  mvcgen [deleteSpaceCascade, hc, hdl]

theorem purgeSpaceCascade_keeps (hdp : dir.length = 2) (hs : Spared sheltered faults dir) :
    Keeps good (purgeSpaceCascade faults force cascade dir) := by
  have hc := purgeStacks_keeps shelter faults force cascade visit hdp
  have hd := deleteSpaceCascade_keeps shelter faults force cascade visit hdp hs
  have hp := purgeSpace_keeps shelter faults visit hs
  mvcgen [purgeSpaceCascade, hc, hd, hp]

/-- The delete and the purge of a realm whose spaces are spared or gone. -/
theorem deleteRealmCascade_keeps
    (hs : Keeps good (withChildren force cascade dir (deleteSpaceCascade faults force cascade))) :
    Keeps good (deleteRealmCascade faults force cascade dir) := by
  have hd := deleteRealm_keeps shelter faults visit
  mvcgen [deleteRealmCascade, hs, hd]

end Rules

section Confinement

def SameOutside (root : TreePath) (before after : ScopeTree) : Prop :=
  ∀ path, ¬ root <+: path → after.read path = before.read path

/-- What lies outside `root` is out of reach of every scope in it. -/
theorem outside_sheltered (root : TreePath) (before : ScopeTree) :
    Sheltered (SameOutside root before) (fun path => ¬ root <+: path) (root <+: ·) where
  restrict tree keep hg hk path ho := by
    rw [FileTree.read_restrict_of_keep (hk path ho), hg path ho]
  child _ _ _ _ hv _ _ := hv.trans (List.prefix_append _ _)
  files _ path hv hm ho := by
    simp only [List.mem_cons, List.not_mem_nil, or_false] at hm
    rcases hm with rfl | rfl | rfl
    · exact ho hv
    all_goals exact ho (hv.trans (List.prefix_append _ _))
  cell _ _ hv _ ho hu := ho (hv.trans hu)
  stack _ _ _ _ hv _ _ ho hu := ho (hv.trans hu)
  reclaim tree dir hg hv path ho := by
    obtain ⟨keep, hs, hk⟩ := exists_reclaimed tree dir
    have hi : keep path = true := hk path fun hu => absurd (hv.trans hu) ho
    rw [hs, FileTree.read_restrict_of_keep hi, hg path ho]

variable (faults : HostFaults) (force cascade : Bool) (tree : ScopeTree) {dir : TreePath}

theorem purgeRealmCascade_confined (hd : dir.length = 1) (known : Bool) :
    Keeps (SameOutside dir tree) (purgeRealmCascade faults force cascade known dir) := by
  have shelter := outside_sheltered dir tree
  have visit := List.prefix_refl dir
  have hs : ∀ child, dir <+: child → Spared (fun path => ¬ dir <+: path) faults child :=
    fun child hv => .inr fun path ho hu => ho (hv.trans hu)
  have hc := withChildren_keeps shelter force cascade visit (by omega) fun child hv hl =>
    purgeSpaceCascade_keeps shelter faults force cascade hv (by omega) (hs child hv)
  have hdl := deleteRealmCascade_keeps shelter faults force cascade visit
    (withChildren_keeps shelter force cascade visit (by omega) fun child hv hl =>
      deleteSpaceCascade_keeps shelter faults force cascade hv (by omega) (hs child hv))
  have hp := purgeRealm_keeps shelter faults visit
  mvcgen [purgeRealmCascade, attempt, hc, hdl, hp]

end Confinement

end Kukeon.Controller
