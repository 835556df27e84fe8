import Kukeon.Controller.PurgeRules

/-! # What a purge removes

When the purge of a cell, of a stack or of a space gets through, read off the tree before it, and that
it then leaves exactly what is outside of their directory.
-/

namespace Kukeon.Controller

open Effect Runner.Teardown

section Conditions

variable (faults : HostFaults) (force cascade : Bool) (tree : ScopeTree)

def CellClears (cell : TreePath) : Prop :=
  faults.connect = false ∧ getScope tree (cell.take 1) = .found ∧ faults.containers cell = false ∧
    faults.metadata cell = false

/-- With its cells, the purge of a stack gets through. Whatever else is in its directory, volumes too,
    is in the way. -/
def StackClears (stack : TreePath) : Prop :=
  (∀ cell ∈ listScopes tree stack, CellClears faults tree cell) ∧ faults.connect = false ∧
    (∀ name ∈ scanStackDirCellResidue tree stack, stack ++ [name] ∈ listScopes tree stack) ∧
    faults.metadata stack = false

def SpaceClears (space : TreePath) : Prop :=
  (if cascade then ∀ stack ∈ listScopes tree space, StackClears faults tree stack
    else force = true ∨ listScopes tree space = []) ∧
    faults.connect = false ∧ faults.metadata space = false

instance (cell : TreePath) : Decidable (CellClears faults tree cell) :=
  inferInstanceAs (Decidable (_ ∧ _))

instance (stack : TreePath) : Decidable (StackClears faults tree stack) :=
  inferInstanceAs (Decidable (_ ∧ _))

instance (space : TreePath) : Decidable (SpaceClears faults force cascade tree space) :=
  inferInstanceAs (Decidable (_ ∧ _))

end Conditions

def Proper (tree : ScopeTree) : Prop :=
  ∀ path e, tree.read path = some e → e ≠ .dir → ∀ name rest, tree.read (path ++ name :: rest) = none

variable {tree : ScopeTree}

theorem Proper.removeAll (hp : Proper tree) (dir : TreePath) : Proper (tree.removeAll dir) := by
  intro path e ht hi name rest
  have hb := (FileTree.read_of_restrict ht).2
  unfold FileTree.removeAll
  rw [FileTree.read_restrict, hp path e hb hi name rest, ite_self]

theorem getScope_found {dir : TreePath} :
    getScope tree dir = .found ↔ tree.read (dir ++ [metadataFile]) = some .document := by
  unfold getScope
  split <;> simp_all

theorem getScope_removeAll {dir other : TreePath} (ha : ¬ other <+: dir ++ [metadataFile]) :
    getScope (tree.removeAll other) dir = getScope tree dir := by
  unfold getScope
  rw [FileTree.read_removeAll, if_neg ha]

theorem getScope_removeAll_self {dir : TreePath} :
    getScope (tree.removeAll dir) dir = .missing := by
  unfold getScope
  rw [FileTree.read_removeAll, if_pos (List.prefix_append _ _)]

theorem reclaimed_removeAll (tree : ScopeTree) (dir : TreePath) :
    reclaimed (tree.removeAll dir) dir = tree.removeAll dir := by
  have hn : manifestsIn (tree.removeAll dir) dir = [] := by
    refine List.filter_eq_nil_iff.mpr ?_
    intro entry hm
    have ho := (List.mem_filter.mp hm).2
    simp only [Bool.not_eq_true'] at ho
    simp [ho]
  unfold reclaimed collectRetained
  rw [hn]
  exact FileTree.removeAll_removeAll (List.prefix_refl dir)

section Outcomes

variable {faults : HostFaults} {force cascade : Bool} {tree : ScopeTree} {dir : TreePath}

theorem refuse_settles (condition : Bool) (error : TeardownError) (tree : ScopeTree) :
    Settles (refuse condition error) tree (condition = false) () tree := by
  cases condition with
  | true => exact ⟨fun hi => (nomatch hi), fun _ => ⟨error, rfl⟩⟩
  | false => exact ⟨fun _ => rfl, fun hi => absurd rfl hi⟩

theorem removeScopeFiles_settles (hfn : getScope tree dir = .found) :
    Settles (removeScopeFiles faults dir) tree (faults.metadata dir = false) ()
      (tree.removeAll dir) := by
  have hd : (tree.read (dir ++ [metadataFile])).isSome = true := by
    rw [getScope_found.mp hfn]
    rfl
  let unlinked := (tree.remove (dir ++ [metadataFile])).remove (dir ++ [metadataLock])
  let left := if unlinked.readDir dir = [] then unlinked.remove dir else unlinked
  have hg : left.removeAll dir = tree.removeAll dir := by
    have hf : unlinked.removeAll dir = tree.removeAll dir := by
      rw [FileTree.remove_removeAll (List.prefix_append _ _),
        FileTree.remove_removeAll (List.prefix_append _ _)]
    dsimp only [left]
    split
    · rw [FileTree.remove_removeAll (List.prefix_refl _), hf]
    · exact hf
  have hm : Settles (deleteMetadata faults dir) tree (faults.metadata dir = false) () left := by
    unfold deleteMetadata
    refine .after (Yields.read tree) ?_
    rw [if_pos hd]
    exact (refuse_settles _ _ tree).before fun _ =>
      (Yields.update _ tree).bind (Yields.update _ unlinked)
  refine hm.before fun _ => ?_
  rw [← hg]
  exact Yields.update _ left

theorem deleteCell_settles (hf : getScope tree dir = .found) :
    Settles (deleteCell faults dir) tree (CellClears faults tree dir) () (tree.removeAll dir) := by
  unfold deleteCell
  refine .after (Yields.read tree) ?_
  rw [hf]
  refine (refuse_settles _ _ tree).bind fun _ => .after (Yields.read tree) ?_
  refine ((refuse_settles _ _ tree).of_iff (by simp)).bind fun _ => ?_
  exact (refuse_settles _ _ tree).bind fun _ => removeScopeFiles_settles hf

theorem deleteCell_missing (hm : getScope tree dir = .missing)
    (hcl : CellClears faults tree dir) : Yields (deleteCell faults dir) tree () tree := by
  obtain ⟨hcn, hr, hc, _⟩ := hcl
  unfold deleteCell
  refine (Yields.read tree).bind ?_
  rw [hm]
  refine ((refuse_settles _ _ tree).yields hcn).bind ((Yields.read tree).bind ?_)
  rw [hr]
  exact (refuse_settles _ _ tree).yields hc

theorem not_prefix_above {k : Nat} (hs : k + 1 < dir.length) :
    ¬ dir <+: dir.take k ++ [metadataFile] := by
  intro hu
  have hl := hu.length_le
  simp at hl
  omega

theorem purgeCellCascade_settles (hd : 2 < dir.length) (hf : getScope tree dir = .found) :
    Settles (purgeCellCascade faults dir) tree (CellClears faults tree dir) ()
      (tree.removeAll dir) := by
  refine (deleteCell_settles hf).before ?_
  intro hc
  have hr : getScope (tree.removeAll dir) (dir.take 1) = .found := by
    rw [getScope_removeAll (not_prefix_above (by omega))]
    exact hc.2.1
  have hs : CellClears faults (tree.removeAll dir) dir :=
    ⟨hc.1, hr, hc.2.2⟩
  have hg : getScope (tree.removeAll dir) dir = .missing := getScope_removeAll_self
  unfold Runner.Teardown.purgeCell
  refine (deleteCell_missing hg hs).attempt.bind ((Yields.read _).bind ?_)
  refine ((refuse_settles _ _ _).yields (by simp [hg])).bind ?_
  refine ((refuse_settles _ _ _).yields hc.1).bind ((Yields.read _).bind ?_)
  rw [if_pos hr]
  have ha := Yields.update (ε := TeardownError) (·.removeAll dir) (tree.removeAll dir)
  rwa [FileTree.removeAll_removeAll (List.prefix_refl dir)] at ha

def cleared (tree : ScopeTree) (children : List TreePath) : ScopeTree :=
  children.foldl FileTree.removeAll tree

variable {f : TreePath → ScopeEffect Unit} {children : List TreePath}

theorem read_cleared {path : TreePath} :
    (cleared tree children).read path =
      if ∃ child ∈ children, child <+: path then none else tree.read path := by
  unfold cleared
  induction children generalizing tree with
  | nil => simp
  | cons child rest ih =>
    rw [List.foldl_cons, ih, FileTree.read_removeAll]
    by_cases hl : ∃ other ∈ rest, other <+: path
    · simp [hl]
    · by_cases hf : child <+: path
      · simp [hl, hf]
      · simp [hl, hf]

theorem cleared_removeAll (hu : ∀ child ∈ children, dir <+: child) :
    (cleared tree children).removeAll dir = tree.removeAll dir := by
  unfold cleared
  induction children generalizing tree with
  | nil => rfl
  | cons child rest ih =>
    rw [List.foldl_cons, ih fun other hm => hu other (List.mem_cons_of_mem _ hm)]
    exact FileTree.removeAll_removeAll (hu child List.mem_cons_self)

theorem mem_listScopes {child : TreePath} :
    child ∈ listScopes tree dir ↔ getScope tree child = .found ∧ ∃ name, child = dir ++ [name] := by
  unfold listScopes
  rw [List.mem_filter, List.mem_map]
  constructor
  · rintro ⟨⟨name, _, rfl⟩, hf⟩
    exact ⟨by simpa using hf, name, rfl⟩
  · rintro ⟨hf, name, rfl⟩
    refine ⟨⟨name, ?_, rfl⟩, by simpa using hf⟩
    have hd := getScope_found.mp hf
    rw [List.append_assoc] at hd
    exact FileTree.mem_readDir_of_read hd

theorem nodup_listScopes : (listScopes tree dir).Nodup := by
  refine List.Nodup.filter _ (List.Nodup.map ?_ FileTree.nodup_readDir)
  intro a b hs
  simpa using hs

theorem not_prefix_sibling {a b : String} {rest : TreePath} (ha : a ≠ b) :
    ¬ dir ++ [a] <+: dir ++ [b] ++ rest := by
  rw [List.append_assoc, List.prefix_append_right_inj]
  simpa using ha

/-- What a loop over the children of a scope does with each, on trees that stay good: it removes the
    child when that clears, and does not change whether the others do. -/
structure ChildLoop (dir : TreePath) (f : TreePath → ScopeEffect Unit)
    (clears : ScopeTree → TreePath → Prop) (good : ScopeTree → Prop) : Prop where
  each : ∀ tree name, good tree → getScope tree (dir ++ [name]) = .found →
    Settles (f (dir ++ [name])) tree (clears tree (dir ++ [name])) ()
      (tree.removeAll (dir ++ [name]))
  kept : ∀ tree name, good tree → getScope tree (dir ++ [name]) = .found →
    good (tree.removeAll (dir ++ [name]))
  frame : ∀ tree a b, good tree → getScope tree (dir ++ [a]) = .found → a ≠ b →
    (clears (tree.removeAll (dir ++ [a])) (dir ++ [b]) ↔ clears tree (dir ++ [b]))

/-- A loop over children that are there gets through when it does for each. -/
theorem forM_settles {clears : ScopeTree → TreePath → Prop} {good : ScopeTree → Prop}
    (hlp : ChildLoop dir f clears good) (hds : children.Nodup) (hi : good tree)
    (hl : ∀ child ∈ children, getScope tree child = .found ∧ ∃ name, child = dir ++ [name]) :
    Settles (children.forM f) tree (∀ child ∈ children, clears tree child) ()
      (cleared tree children) := by
  induction children generalizing tree with
  | nil => exact (Settles.of_yields (Yields.ret _ _)).of_iff (by simp)
  | cons child rest ih =>
    obtain ⟨hf, a, rfl⟩ := hl _ List.mem_cons_self
    obtain ⟨hfr, hd⟩ := List.nodup_cons.mp hds
    have ho : ∀ other ∈ rest, ∃ b, a ≠ b ∧ other = dir ++ [b] ∧
        getScope tree other = .found := by
      intro other hm
      obtain ⟨ht, b, rfl⟩ := hl other (List.mem_cons_of_mem _ hm)
      refine ⟨b, ?_, rfl, ht⟩
      rintro rfl
      exact hfr hm
    rw [List.forM]
    refine ((hlp.each tree a hi hf).bind fun _ =>
      ih hd (hlp.kept tree a hi hf) ?_).of_iff ?_
    · intro other hm
      obtain ⟨b, ha, rfl, ht⟩ := ho other hm
      rw [getScope_removeAll (not_prefix_sibling ha)]
      exact ⟨ht, b, rfl⟩
    · rw [List.forall_mem_cons]
      refine and_congr_right fun _ => ?_
      constructor
      · intro all other hm
        obtain ⟨b, ha, rfl, _⟩ := ho other hm
        exact (hlp.frame tree a b hi hf ha).mp (all _ hm)
      · intro all other hm
        obtain ⟨b, ha, rfl, _⟩ := ho other hm
        exact (hlp.frame tree a b hi hf ha).mpr (all _ hm)

theorem listScopes_cleared : listScopes (cleared tree (listScopes tree dir)) dir = [] := by
  refine List.eq_nil_iff_forall_not_mem.mpr ?_
  intro child hl
  obtain ⟨hf, hi⟩ := mem_listScopes.mp hl
  have hd := getScope_found.mp hf
  rw [read_cleared] at hd
  split at hd
  · cases hd
  · next ha =>
      refine ha ⟨child, mem_listScopes.mpr ⟨getScope_found.mpr hd, hi⟩, ?_⟩
      exact List.prefix_append _ _

theorem getScope_cleared (hp : Proper tree) (hfn : getScope tree dir = .found) :
    getScope (cleared tree (listScopes tree dir)) dir = .found := by
  have hd := getScope_found.mp hfn
  rw [getScope_found, read_cleared, if_neg]
  · exact hd
  · rintro ⟨child, hl, hu⟩
    obtain ⟨hf, name, rfl⟩ := mem_listScopes.mp hl
    rw [List.prefix_append_right_inj] at hu
    obtain ⟨rfl, _⟩ := List.cons_prefix_cons.mp hu
    have hb := getScope_found.mp hf
    rw [hp _ _ hd (by simp)] at hb
    cases hb

/-- What a purge of the cells leaves in the directory of a stack. -/
theorem scanStackDirCellResidue_cleared :
    scanStackDirCellResidue (cleared tree (listScopes tree dir)) dir = [] ↔
      ∀ name ∈ scanStackDirCellResidue tree dir, dir ++ [name] ∈ listScopes tree dir := by
  have hlf : ∀ name, name ∈ (cleared tree (listScopes tree dir)).readDir dir ↔
      name ∈ tree.readDir dir ∧ dir ++ [name] ∉ listScopes tree dir := by
    intro name
    constructor
    · intro hm
      obtain ⟨rest, e, ht⟩ := FileTree.mem_readDir.mp hm
      obtain ⟨e, ht⟩ := FileTree.exists_read_of_mem ht
      rw [read_cleared] at ht
      split at ht
      · cases ht
      · next ha =>
          refine ⟨FileTree.mem_readDir_of_read ht, fun hl => ha ⟨_, hl, ?_⟩⟩
          simp
    · rintro ⟨hm, hk⟩
      obtain ⟨rest, e, ht⟩ := FileTree.mem_readDir.mp hm
      obtain ⟨e, ht⟩ := FileTree.exists_read_of_mem ht
      have ha : ¬ ∃ child ∈ listScopes tree dir, child <+: dir ++ name :: rest := by
        rintro ⟨child, hl, hu⟩
        obtain ⟨_, other, rfl⟩ := mem_listScopes.mp hl
        rw [List.prefix_append_right_inj] at hu
        obtain ⟨rfl, _⟩ := List.cons_prefix_cons.mp hu
        exact hk hl
      have hlf := (read_cleared.trans (if_neg ha)).trans ht
      exact FileTree.mem_readDir_of_read hlf
  unfold scanStackDirCellResidue
  simp only [List.filter_eq_nil_iff, List.mem_filter, hlf]
  constructor
  · rintro hn name ⟨hm, hi⟩
    by_contra hk
    exact hn name ⟨hm, hk⟩ hi
  · rintro all name ⟨hm, hk⟩ hi
    exact hk (all name ⟨hm, hi⟩)

theorem withChildren_settles {clears : ScopeTree → TreePath → Prop} {good : ScopeTree → Prop}
    (hl : ChildLoop dir f clears good) (hi : good tree) :
    Settles (withChildren force true dir f) tree (∀ child ∈ listScopes tree dir, clears tree child) ()
      (cleared tree (listScopes tree dir)) := by
  unfold withChildren
  refine .after (Yields.read tree) ?_
  exact forM_settles hl nodup_listScopes hi fun _ => mem_listScopes.mp

theorem withChildren_none (hn : listScopes tree dir = []) :
    Yields (withChildren force true dir f) tree () tree := by
  unfold withChildren
  refine (Yields.read tree).bind ?_
  rw [hn]
  exact Yields.ret _ _

theorem withoutChildren_settles :
    Settles (withChildren force false dir f) tree (force = true ∨ listScopes tree dir = []) ()
      tree := by
  unfold withChildren
  refine .after (Yields.read tree) ((refuse_settles _ _ tree).of_iff ?_)
  cases force with
  | true => simp
  | false => simp

theorem deleteStack_settles (hf : getScope tree dir = .found) :
    Settles (deleteStack faults dir) tree
      (faults.connect = false ∧ scanStackDirCellResidue tree dir = [] ∧ faults.metadata dir = false)
      () (tree.removeAll dir) := by
  unfold deleteStack
  refine .after (Yields.read tree) ?_
  rw [hf]
  refine (refuse_settles _ _ tree).bind fun _ => .after (Yields.read tree) ?_
  exact ((refuse_settles _ _ tree).of_iff (by simp)).bind fun _ => removeScopeFiles_settles hf

theorem purgeStack_gone :
    Yields (Runner.Teardown.purgeStack faults dir) (tree.removeAll dir) () (tree.removeAll dir) := by
  have hg : getScope (tree.removeAll dir) dir = .missing := getScope_removeAll_self
  have hd : Yields (deleteStack faults dir) (tree.removeAll dir) () (tree.removeAll dir) := by
    unfold deleteStack
    refine (Yields.read _).bind ?_
    rw [hg]
    exact Yields.ret _ _
  have hr := Yields.attempted (reclaimScopeMetadata dir) (tree.removeAll dir)
  rw [finalState_reclaim, reclaimed_removeAll] at hr
  unfold Runner.Teardown.purgeStack
  refine hd.attempt.bind ((Yields.read _).bind ?_)
  refine ((refuse_settles _ _ _).yields (by simp [hg])).bind ((Yields.read _).bind ?_)
  refine (Yields.read _).bind ?_
  split
  · exact hr.bind (Yields.ret _ _)
  · exact Yields.ret _ _

theorem cellClears_removeAll {cell other : TreePath}
    (ha : ¬ other <+: cell.take 1 ++ [metadataFile]) :
    CellClears faults (tree.removeAll other) cell ↔ CellClears faults tree cell := by
  unfold CellClears
  rw [getScope_removeAll ha]

theorem purgeStackCascade_settles (hdp : 2 ≤ dir.length) (hp : Proper tree)
    (hf : getScope tree dir = .found) :
    Settles (purgeStackCascade faults force true dir) tree (StackClears faults tree dir) ()
      (tree.removeAll dir) := by
  let emptied := cleared tree (listScopes tree dir)
  have hc : Settles (withChildren force true dir (purgeCellCascade faults)) tree
      (∀ cell ∈ listScopes tree dir, CellClears faults tree cell) () emptied := by
    refine withChildren_settles ⟨?_, fun _ _ hi _ => hi.removeAll _, ?_⟩ hp
    · intro tree name _ ht
      exact purgeCellCascade_settles (by simp; omega) ht
    · intro tree a b _ _ _
      refine cellClears_removeAll ?_
      intro hu
      have hl := hu.length_le
      simp at hl
      omega
  have hd : Settles (deleteStackCascade faults force true dir) emptied
      (faults.connect = false ∧
        (∀ name ∈ scanStackDirCellResidue tree dir, dir ++ [name] ∈ listScopes tree dir) ∧
        faults.metadata dir = false) () (tree.removeAll dir) := by
    refine .after (withChildren_none listScopes_cleared) ?_
    have hs : Settles (deleteStack faults dir) emptied _ () (emptied.removeAll dir) :=
      deleteStack_settles (getScope_cleared hp hf)
    rw [scanStackDirCellResidue_cleared, cleared_removeAll] at hs
    · exact hs
    · intro child hls
      obtain ⟨_, name, rfl⟩ := mem_listScopes.mp hls
      exact List.prefix_append _ _
  exact hc.bind fun _ => hd.before fun _ => purgeStack_gone

theorem listScopes_removeAll {other : TreePath} (ha : ∀ rest, ¬ other <+: dir ++ rest) :
    listScopes (tree.removeAll other) dir = listScopes tree dir := by
  have hs : (tree.removeAll other).readDir dir = tree.readDir dir := by
    refine FileTree.readDir_restrict ?_
    intro name rest
    simpa [← Bool.not_eq_true] using ha (name :: rest)
  unfold listScopes
  rw [hs]
  refine List.filter_congr ?_
  intro child hm
  obtain ⟨name, _, rfl⟩ := List.mem_map.mp hm
  rw [getScope_removeAll]
  rw [List.append_assoc]
  exact ha _

theorem stackClears_removeAll {stack other : TreePath} (ha : ∀ rest, ¬ other <+: stack ++ rest)
    (hab : ¬ other <+: stack.take 1 ++ [metadataFile]) (hn : stack ≠ []) :
    StackClears faults (tree.removeAll other) stack ↔ StackClears faults tree stack := by
  have hs : scanStackDirCellResidue (tree.removeAll other) stack =
      scanStackDirCellResidue tree stack := by
    unfold scanStackDirCellResidue FileTree.removeAll
    rw [FileTree.readDir_restrict]
    intro name rest
    simpa [← Bool.not_eq_true] using ha (name :: rest)
  have hsc : ∀ cell ∈ listScopes tree stack,
      (CellClears faults (tree.removeAll other) cell ↔ CellClears faults tree cell) := by
    intro cell hl
    obtain ⟨_, name, rfl⟩ := mem_listScopes.mp hl
    refine cellClears_removeAll ?_
    rwa [List.take_append_of_le_length (List.length_pos_iff.mpr hn)]
  unfold StackClears
  rw [listScopes_removeAll ha, hs]
  exact and_congr_left fun _ => forall₂_congr hsc

theorem purgeStacks_loop (hd : dir.length = 2) :
    ChildLoop dir (purgeStackCascade faults force true) (StackClears faults) Proper where
  each tree name hp hf := purgeStackCascade_settles (by simp; omega) hp hf
  kept tree name hp _ := hp.removeAll _
  frame tree a b _ _ ha := by
    refine stackClears_removeAll (fun rest => not_prefix_sibling ha) ?_ (by simp)
    intro hu
    have hl := hu.length_le
    simp at hl
    omega

theorem deleteSpace_settles (hf : getScope tree dir = .found) :
    Settles (deleteSpace faults dir) tree (faults.connect = false ∧ faults.metadata dir = false) ()
      (tree.removeAll dir) := by
  unfold deleteSpace
  refine .after (Yields.read tree) ?_
  rw [hf]
  exact (refuse_settles _ _ tree).bind fun _ => removeScopeFiles_settles hf

theorem purgeSpace_gone :
    Yields (Runner.Teardown.purgeSpace faults dir) (tree.removeAll dir) () (tree.removeAll dir) := by
  have hg : getScope (tree.removeAll dir) dir = .missing := getScope_removeAll_self
  have hd : Yields (deleteSpace faults dir) (tree.removeAll dir) () (tree.removeAll dir) := by
    unfold deleteSpace
    refine (Yields.read _).bind ?_
    rw [hg]
    exact Yields.ret _ _
  have hr := Yields.attempted (reclaimScopeMetadata dir) (tree.removeAll dir)
  rw [finalState_reclaim, reclaimed_removeAll] at hr
  unfold Runner.Teardown.purgeSpace
  refine hd.attempt.bind ((Yields.read _).bind ?_)
  refine ((refuse_settles _ _ _).yields (by simp [hg])).bind ((Yields.read _).bind ?_)
  split
  · exact hr.bind (Yields.ret _ _)
  · exact Yields.ret _ _

theorem purgeSpaceCascade_settles (hdp : dir.length = 2) (hp : Proper tree)
    (hf : getScope tree dir = .found) :
    Settles (purgeSpaceCascade faults force cascade dir) tree
      (SpaceClears faults force cascade tree dir) () (tree.removeAll dir) := by
  unfold SpaceClears
  cases cascade with
  | true =>
    let emptied := cleared tree (listScopes tree dir)
    have children : Settles (withChildren force true dir (purgeStackCascade faults force true)) tree
        (∀ stack ∈ listScopes tree dir, StackClears faults tree stack) () emptied :=
      withChildren_settles (purgeStacks_loop hdp) hp
    have hd : Settles (deleteSpaceCascade faults force true dir) emptied
        (faults.connect = false ∧ faults.metadata dir = false) () (tree.removeAll dir) := by
      refine .after (withChildren_none listScopes_cleared) ?_
      have hs : Settles (deleteSpace faults dir) emptied _ () (emptied.removeAll dir) :=
        deleteSpace_settles (getScope_cleared hp hf)
      rw [cleared_removeAll] at hs
      · exact hs
      · intro child hl
        obtain ⟨_, name, rfl⟩ := mem_listScopes.mp hl
        exact List.prefix_append _ _
    exact children.bind fun _ => hd.before fun _ => purgeSpace_gone
  | false =>
    refine withoutChildren_settles.bind fun hps => ?_
    have ha : Settles (deleteSpaceCascade faults force false dir) tree
        (faults.connect = false ∧ faults.metadata dir = false) () (tree.removeAll dir) :=
      .after (withoutChildren_settles.yields hps) (deleteSpace_settles hf)
    exact ha.before fun _ => purgeSpace_gone

theorem spaceClears_removeAll {space other : TreePath} (ha : ∀ rest, ¬ other <+: space ++ rest)
    (hab : ¬ other <+: space.take 1 ++ [metadataFile]) (hn : space ≠ []) :
    SpaceClears faults force cascade (tree.removeAll other) space ↔
      SpaceClears faults force cascade tree space := by
  have hs : ∀ stack ∈ listScopes tree space,
      (StackClears faults (tree.removeAll other) stack ↔ StackClears faults tree stack) := by
    intro stack hl
    obtain ⟨_, name, rfl⟩ := mem_listScopes.mp hl
    refine stackClears_removeAll ?_ ?_ (by simp)
    · intro rest
      rw [List.append_assoc]
      exact ha _
    · rwa [List.take_append_of_le_length (List.length_pos_iff.mpr hn)]
  unfold SpaceClears
  rw [listScopes_removeAll ha]
  cases cascade with
  | true => exact and_congr_left fun _ => forall₂_congr hs
  | false => exact Iff.rfl

def ProperRealm (realm : TreePath) (tree : ScopeTree) : Prop :=
  Proper tree ∧ getScope tree realm = .found

theorem ProperRealm.not_prefix {realm : TreePath} (hg : ProperRealm realm tree) {name : String}
    (hf : getScope tree (realm ++ [name]) = .found) :
    ¬ realm ++ [name] <+: realm ++ [metadataFile] := by
  intro hu
  rw [List.prefix_append_right_inj] at hu
  obtain ⟨rfl, _⟩ := List.cons_prefix_cons.mp hu
  have hb := getScope_found.mp hf
  rw [hg.1 _ _ (getScope_found.mp hg.2) (by simp)] at hb
  cases hb

theorem purgeSpaces_loop {realm : TreePath} (hd : realm.length = 1) :
    ChildLoop realm (purgeSpaceCascade faults force cascade)
      (SpaceClears faults force cascade) (ProperRealm realm) where
  each tree name hg hf := purgeSpaceCascade_settles (by simp [hd]) hg.1 hf
  kept tree name hg hf := by
    refine ⟨hg.1.removeAll _, ?_⟩
    rw [getScope_removeAll (hg.not_prefix hf)]
    exact hg.2
  frame tree a b hg hf ha := by
    refine spaceClears_removeAll (fun rest => not_prefix_sibling ha) ?_ (by simp)
    rw [List.take_append_of_le_length (by omega), List.take_of_length_le (by omega)]
    exact hg.not_prefix hf

end Outcomes

end Kukeon.Controller
