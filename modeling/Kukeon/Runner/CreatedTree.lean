import Kukeon.Runner.ScopeWalk

/-! # The tree that a history of creates makes

Scopes and the directories of resources share the names in the directory of a scope, and nothing but
the name tells one from the other. As long as no space, stack or cell has the name of such a
directory and every create is in a scope that was created before, every entry of the tree belongs to
something that was created, and everything that was created has its entry.
-/

open Std.Do

set_option mvcgen.warning false

namespace Kukeon.Runner.Walkers

open GoText Effect Teardown Volumes Naming

def scopesOf (creates : List Create) : List TreePath :=
  creates.filterMap fun
    | .scope parent name _ => some (parent ++ [trimSpace name])
    | _ => none

def secretsOf (creates : List Create) : List (TreePath × String) :=
  creates.filterMap fun
    | .secret owner name _ => some (owner, name)
    | _ => none

def volumesOf (creates : List Create) : List (TreePath × String) :=
  creates.filterMap fun
    | .volume owner name _ => some (owner, name)
    | _ => none

/-- A create in a scope that was created before, with a name that nothing else has a use for. -/
def Create.Plain (before : List Create) : Create → Prop
  | .scope parent name containers =>
    (parent = [] ∨ parent ∈ scopesOf before) ∧ trimSpace name ∉ [".", ".."] ∧
      (parent ≠ [] → trimSpace name ∉ reservedScopeSubdirs) ∧
      ∀ id ∈ containers, trimSpace id ∉ [".", "..", secretsSubdir]
  | .secret owner name _ =>
    owner ∈ scopesOf before ∧ segmentSafe name = true ∧ isTemporary name = false
  | .volume owner _ _ => owner ∈ scopesOf before

def Plain : List Create → Prop
  | [] => True
  | next :: before => next.Plain before ∧ Plain before

structure Hierarchy (creates : List Create) : Prop where
  nonempty : ∀ scope ∈ scopesOf creates, scope ≠ []
  depth : ∀ scope ∈ scopesOf creates, scope.length ≤ 4
  named : ∀ scope ∈ scopesOf creates, ∀ name ∈ scope, trimSpace name ≠ ""
  unreserved : ∀ scope ∈ scopesOf creates, ∀ name ∈ scope.tail, name ∉ reservedScopeSubdirs
  closed : ∀ path more, path ++ more ∈ scopesOf creates → path ≠ [] → path ∈ scopesOf creates
  secrets : ∀ secret ∈ secretsOf creates, secret.1 ∈ scopesOf creates ∧ isTemporary secret.2 = false
  volumes : ∀ volume ∈ volumesOf creates, volume.1 ∈ scopesOf creates ∧ volume.1.length ≤ 3

inductive Owned (creates : List Create) : TreePath → Entry → Prop where
  | scope {path : TreePath} : path ∈ scopesOf creates → Owned creates path .dir
  | document {owner : TreePath} {name : String} {e : Entry} : owner ∈ scopesOf creates →
      name ∈ [metadataFile, metadataLock, networkConflist] → e ≠ .dir →
      Owned creates (owner ++ [name]) e
  | resources {owner : TreePath} {name : String} : owner ∈ scopesOf creates →
      name ∈ reservedScopeSubdirs → Owned creates (owner ++ [name]) .dir
  | secret {owner : TreePath} {name content : String} : (owner, name) ∈ secretsOf creates →
      Owned creates (owner ++ [secretsSubdir, name]) (.data content)
  | volume {owner : TreePath} {name : String} : (owner, name) ∈ volumesOf creates →
      Owned creates (owner ++ [volumesSubdir, name]) .dir
  | manifest {owner : TreePath} {name policy : String} : owner ∈ scopesOf creates →
      Owned creates (owner ++ [volumeMetaSubdir, name]) (.manifest policy)
  | container {cell : TreePath} {id : String} : cell ∈ scopesOf creates → cell.length = 4 →
      Owned creates (cell ++ [id]) .dir
  | terminal {cell : TreePath} {id : String} : cell ∈ scopesOf creates → cell.length = 4 →
      Owned creates (cell ++ [id, containerTTYDir]) .dir
  | agent {cell : TreePath} {id : String} : cell ∈ scopesOf creates → cell.length = 4 →
      id ≠ secretsSubdir → Owned creates (cell ++ [id, attachableMetadataFile]) (.data "")

def Sound (creates : List Create) (tree : ScopeTree) : Prop :=
  ∀ path e, tree.read path = some e → Owned creates path e

structure Present (dirs files : TreePath → Prop) (tree : ScopeTree) : Prop where
  dir : ∀ path, dirs path → tree.read path = some .dir
  file : ∀ path, files path → ∃ content, tree.read path = some (.data content)

def dirsOf (creates : List Create) (path : TreePath) : Prop :=
  path ∈ scopesOf creates ∨
    ∃ volume ∈ volumesOf creates, path = volume.1 ++ [volumesSubdir, volume.2]

def filesOf (creates : List Create) (path : TreePath) : Prop :=
  ∃ secret ∈ secretsOf creates, path = secret.1 ++ [secretsSubdir, secret.2]

structure Reflects (creates : List Create) (tree : ScopeTree) : Prop where
  hierarchy : Hierarchy creates
  sound : Sound creates tree
  present : Present (dirsOf creates) (filesOf creates) tree

section Mono

variable {creates : List Create} {next : Create}

theorem made_mono {α : Type} {f : Create → Option α} {a : α} (ht : a ∈ creates.filterMap f) :
    a ∈ (next :: creates).filterMap f := by
  obtain ⟨create, hm, hmd⟩ := List.mem_filterMap.mp ht
  exact List.mem_filterMap.mpr ⟨create, List.mem_cons_of_mem _ hm, hmd⟩

theorem scopesOf_subset {path : TreePath} (ht : path ∈ scopesOf creates) :
    path ∈ scopesOf (next :: creates) :=
  made_mono ht

theorem Owned.mono {path : TreePath} {e : Entry} (ho : Owned creates path e) :
    Owned (next :: creates) path e := by
  cases ho with
  | scope ht => exact .scope (scopesOf_subset ht)
  | document ht hk hf => exact .document (scopesOf_subset ht) hk hf
  | resources ht hr => exact .resources (scopesOf_subset ht) hr
  | secret ht => exact .secret (made_mono ht)
  | volume ht => exact .volume (made_mono ht)
  | manifest ht => exact .manifest (scopesOf_subset ht)
  | container ht hd => exact .container (scopesOf_subset ht) hd
  | terminal ht hd => exact .terminal (scopesOf_subset ht) hd
  | agent ht hd other => exact .agent (scopesOf_subset ht) hd other

theorem Sound.mono {tree : ScopeTree} (hs : Sound creates tree) : Sound (next :: creates) tree :=
  fun path e ht => (hs path e ht).mono

end Mono

section Writes

variable {creates : List Create} {dirs files : TreePath → Prop} {tree : ScopeTree}

variable {path : TreePath} {e : Entry}

theorem Sound.put (hs : Sound creates tree) (ho : Owned creates path e) :
    Sound creates (tree.put path e) := by
  intro other found ht
  rw [FileTree.read_put] at ht
  split at ht
  · next hsm =>
      cases ht
      rw [hsm]
      exact ho
  · exact hs other found ht

theorem Sound.remove (hs : Sound creates tree) : Sound creates (tree.remove path) := by
  intro other found ht
  rw [FileTree.read_remove] at ht
  split at ht
  · cases ht
  · exact hs other found ht

theorem Present.put (hp : Present dirs files tree) (dir : dirs path → e = .dir)
    (hf : files path → ∃ content, e = .data content) : Present dirs files (tree.put path e) := by
  constructor
  · intro other hw
    rw [FileTree.read_put]
    split
    · next hs =>
        rw [hs] at hw
        rw [dir hw]
    · exact hp.dir other hw
  · intro other hw
    rw [FileTree.read_put]
    split
    · next hs =>
        rw [hs] at hw
        obtain ⟨content, hi⟩ := hf hw
        exact ⟨content, by rw [hi]⟩
    · exact hp.file other hw

theorem Present.remove (hp : Present dirs files tree) (hnd : ¬ dirs path)
    (hn : ¬ files path) : Present dirs files (tree.remove path) := by
  constructor
  · intro other hw
    rw [FileTree.read_remove, if_neg ?_]
    · exact hp.dir other hw
    · rintro rfl
      exact hnd hw
  · intro other hw
    rw [FileTree.read_remove, if_neg ?_]
    · exact hp.file other hw
    · rintro rfl
      exact hn hw

def Holding (creates : List Create) (dirs files : TreePath → Prop) (tree : ScopeTree) : Prop :=
  Sound creates tree ∧ Present dirs files tree

abbrev Between (next : Create) (creates : List Create) : ScopeTree → Prop :=
  Holding (next :: creates) (dirsOf creates) (filesOf creates)

theorem Holding.withDirectory (hh : Holding creates dirs files tree)
    (ho : Owned creates path .dir) : Holding creates dirs files (withDirectory tree path) := by
  unfold Volumes.withDirectory
  split
  · next hn =>
      refine ⟨hh.1.put ho, hh.2.put (fun _ => rfl) ?_⟩
      intro hw
      obtain ⟨content, ht⟩ := hh.2.file path hw
      rw [hn] at ht
      cases ht
  · exact hh

/-- A directory is made only where there is nothing, so that no file gives way to it. -/
theorem makeDirectory_holds (how : Owned creates path .dir) :
    Keeps (Holding creates dirs files) (makeDirectory {} path) := by
  refine triple_of_runs fun start hh => ?_
  obtain ⟨ho, hof⟩ := of_triple (makeDirectory_spec {} path start) rfl
  constructor
  · intro done he
    rw [(ho done he).1]
    exact hh.withDirectory how
  · intro e he
    rcases hof e he with hs | hm
    · rw [hs]
      exact hh
    · rw [hm]
      exact hh.withDirectory how

theorem makeDirectory_makes :
    Makes (fun tree => tree.read path = some .dir) (makeDirectory {} path) := by
  refine triple_of_runs fun start _ => ?_
  obtain ⟨ho, _⟩ := of_triple (makeDirectory_spec {} path start) rfl
  exact ⟨fun done he => (ho done he).2, fun _ _ => trivial⟩

theorem makeDirectory_keeps_dir {path other : TreePath} :
    Keeps (fun tree => tree.read other = some .dir) (makeDirectory {} path) := by
  refine triple_of_runs fun start ht => ?_
  have hs : (Volumes.withDirectory start path).read other = some .dir := by
    unfold Volumes.withDirectory
    split
    · rw [FileTree.read_put]
      split
      · rfl
      · exact ht
    · exact ht
  obtain ⟨ho, hof⟩ := of_triple (makeDirectory_spec {} path start) rfl
  constructor
  · intro done he
    rw [(ho done he).1]
    exact hs
  · intro e he
    rcases hof e he with hsm | hm
    · rw [hsm]
      exact ht
    · rw [hm]
      exact hs

theorem mem_parents {path other : TreePath} :
    other ∈ path.inits.drop 1 ↔ other <+: path ∧ other ≠ [] := by
  cases path with
  | nil => simp [List.inits]
  | cons first rest =>
    rw [List.inits_cons, List.drop_succ_cons, List.drop_zero, List.mem_map]
    constructor
    · rintro ⟨short, hm, rfl⟩
      exact ⟨List.cons_prefix_cons.mpr ⟨rfl, (List.mem_inits _ _).mp hm⟩, by simp⟩
    · rintro ⟨hb, hn⟩
      cases other with
      | nil => exact absurd rfl hn
      | cons name short =>
        obtain ⟨rfl, ht⟩ := List.cons_prefix_cons.mp hb
        exact ⟨short, (List.mem_inits _ _).mpr ht, rfl⟩

theorem makeDirectories_holds
    (ho : ∀ other, other <+: path → other ≠ [] → Owned creates other .dir) :
    Keeps (Holding creates dirs files) (makeDirectories path) := by
  refine keeps_forM ?_
  intro other hm
  obtain ⟨hb, hn⟩ := mem_parents.mp hm
  exact makeDirectory_holds (ho other hb hn)

theorem makeDirectories_makes (hn : path ≠ []) :
    Makes (fun tree => tree.read path = some .dir) (makeDirectories path) :=
  establishes_forM (mem_parents.mpr ⟨List.prefix_refl path, hn⟩)
    (fun _ _ => makeDirectory_keeps_dir) makeDirectory_makes

theorem makeDirectories_keeps_dir {path other : TreePath} :
    Keeps (fun tree => tree.read other = some .dir) (makeDirectories path) :=
  keeps_forM fun _ _ => makeDirectory_keeps_dir

theorem Holding.put (hh : Holding creates dirs files tree) (ho : Owned creates path e)
    (hn : tree.read path ≠ some .dir) (hd : files path → ∃ content, e = .data content) :
    Holding creates dirs files (tree.put path e) := by
  refine ⟨hh.1.put ho, hh.2.put ?_ hd⟩
  intro hw
  exact absurd (hh.2.dir path hw) hn

theorem writeFile_holds (ho : Owned creates path e)
    (hd : files path → ∃ content, e = .data content) :
    Keeps (Holding creates dirs files) (writeFile path e) := by
  mvcgen [writeFile]
  next tree hh found hn hi _ =>
    refine hh.put ho ?_ hd
    rw [hi]
    exact hn

theorem writeFile_writes : Makes (fun tree => tree.read path = some e) (writeFile path e) := by
  mvcgen [writeFile]
  all_goals grind [FileTree.read_put]

theorem writeFile_keeps_dir {path other : TreePath} :
    Keeps (fun tree => tree.read other = some .dir) (writeFile path e) := by
  mvcgen [writeFile]
  all_goals grind [FileTree.read_put]

theorem requireScope_keeps {i : ScopeTree → Prop} : Keeps i (requireScope path) := by
  mvcgen [requireScope]

theorem accepting_keeps {i : ScopeTree → Prop} {result : Except String Unit} :
    Keeps i (accepting result) := by
  mvcgen [accepting]

end Writes

section Scope

variable {creates : List Create} {parent : TreePath} {name : String} {containers : List String}

variable {path : TreePath}

theorem mem_scopesOf_scope :
    path ∈ scopesOf (.scope parent name containers :: creates) ↔
      path = parent ++ [trimSpace name] ∨ path ∈ scopesOf creates := by
  simp [scopesOf]

theorem provisionScope_holds {dirs files : TreePath → Prop} {dir : TreePath}
    (ha : ∀ other, other <+: dir → other ≠ [] → Owned creates other .dir)
    (ht : dir ∈ scopesOf creates) (hn : ¬ files (dir ++ [metadataFile])) :
    Keeps (Holding creates dirs files) (provisionScope parent dir) := by
  have hd : Keeps (Holding creates dirs files) (makeDirectories dir) :=
    makeDirectories_holds ha
  have hl : Keeps (Holding creates dirs files) (writeFile (dir ++ [metadataLock]) (.data "")) :=
    writeFile_holds (.document ht (by decide) (by decide)) fun _ => ⟨_, rfl⟩
  have hdc : Keeps (Holding creates dirs files) (writeFile (dir ++ [metadataFile]) .document) :=
    writeFile_holds (.document ht (by decide) (by decide)) fun hw => absurd hw hn
  have hc : Keeps (Holding creates dirs files)
      (writeFile (dir ++ [networkConflist]) (.data "")) :=
    writeFile_holds (.document ht (by decide) (by decide)) fun _ => ⟨_, rfl⟩
  have hr : Keeps (Holding creates dirs files) (requireScope parent) := requireScope_keeps
  mvcgen [provisionScope, hd, hl, hdc, hc, hr]

theorem provisionScope_makes {dir : TreePath} (hn : dir ≠ []) :
    Makes (fun tree => tree.read dir = some .dir) (provisionScope parent dir) := by
  have hd := makeDirectories_makes hn
  have hw : ∀ path e, Keeps (fun tree => tree.read dir = some .dir) (writeFile path e) :=
    fun _ _ => writeFile_keeps_dir
  have hr : Keeps (fun tree => tree.read dir = some .dir) (requireScope parent) :=
    requireScope_keeps
  mvcgen [provisionScope, hd, hw, hr]
  all_goals exact id

theorem mem_of_found {tree : ScopeTree} (hs : Sound creates tree)
    (hf : getScope tree path = .found) : path ∈ scopesOf creates := by
  unfold getScope at hf
  split at hf
  · cases hf
  · next ht =>
      have ho := hs _ _ ht
      generalize owner : path ++ [metadataFile] = file at ho
      cases ho with
      | document ht _ _ =>
        rw [(List.append_inj' owner rfl).1]
        exact ht
  · cases hf

theorem above_scope (hh : Hierarchy creates) (hk : parent = [] ∨ parent ∈ scopesOf creates)
    {other : TreePath} (hb : other <+: parent ++ [trimSpace name]) (hn : other ≠ []) :
    other ∈ scopesOf (.scope parent name containers :: creates) := by
  rw [mem_scopesOf_scope]
  rcases List.prefix_concat_iff.mp hb with hw | ha
  · exact .inl hw
  · refine .inr ?_
    obtain ⟨more, rfl⟩ := ha
    rcases hk with hnn | ht
    · exact absurd (List.append_eq_nil_iff.mp hnn).1 hn
    · exact hh.closed other more ht hn

/-- Everything above and in the directory of a container belongs to the hierarchy. -/
theorem owned_container (hh : Hierarchy creates)
    (hk : parent = [] ∨ parent ∈ scopesOf creates) (hd : parent.length = 3) {id : String}
    {other : TreePath} (hb : other <+: parent ++ [trimSpace name, trimSpace id, containerTTYDir])
    (hn : other ≠ []) :
    Owned (.scope parent name containers :: creates) other .dir := by
  have hc : parent ++ [trimSpace name] ∈ scopesOf (.scope parent name containers :: creates) :=
    mem_scopesOf_scope.mpr (.inl rfl)
  have hs : parent ++ [trimSpace name, trimSpace id, containerTTYDir] =
      parent ++ [trimSpace name] ++ [trimSpace id] ++ [containerTTYDir] := by simp
  rw [hs] at hb
  rcases List.prefix_concat_iff.mp hb with rfl | hi
  · have hl : Owned (.scope parent name containers :: creates)
        (parent ++ [trimSpace name] ++ [trimSpace id, containerTTYDir]) .dir :=
      .terminal hc (by simp [hd])
    simpa using hl
  · rcases List.prefix_concat_iff.mp hi with rfl | hic
    · exact .container hc (by simp [hd])
    · exact .scope (above_scope hh hk hic hn)

theorem attachableBuildOpts_holds {dirs files : TreePath → Prop} (hh : Hierarchy creates)
    (hk : parent = [] ∨ parent ∈ scopesOf creates) (hd : parent.length = 3) {id : String}
    (other : trimSpace id ≠ secretsSubdir) :
    Keeps (Holding (.scope parent name containers :: creates) dirs files)
      (attachableBuildOpts (parent ++ [trimSpace name, trimSpace id])) := by
  have tty : Keeps (Holding (.scope parent name containers :: creates) dirs files)
      (makeDirectories (parent ++ [trimSpace name, trimSpace id] ++ [containerTTYDir])) :=
    makeDirectories_holds fun path below nonempty =>
      owned_container hh hk hd (by simpa using below) nonempty
  have owned : Owned (.scope parent name containers :: creates)
      (parent ++ [trimSpace name] ++ [trimSpace id, attachableMetadataFile]) (.data "") :=
    .agent (mem_scopesOf_scope.mpr (.inl rfl)) (by simp [hd]) other
  have doc : Keeps (Holding (.scope parent name containers :: creates) dirs files)
      (writeFile (parent ++ [trimSpace name, trimSpace id] ++ [attachableMetadataFile])
        (.data "")) :=
    writeFile_holds (by simpa using owned) fun _ => ⟨_, rfl⟩
  mvcgen [attachableBuildOpts, tty, doc]

theorem attachableBuildOpts_keeps_dir {dir other : TreePath} :
    Keeps (fun tree => tree.read other = some .dir) (attachableBuildOpts dir) := by
  have tty : Keeps (fun tree => tree.read other = some .dir)
      (makeDirectories (dir ++ [containerTTYDir])) := makeDirectories_keeps_dir
  have doc : Keeps (fun tree => tree.read other = some .dir)
      (writeFile (dir ++ [attachableMetadataFile]) (.data "")) := writeFile_keeps_dir
  mvcgen [attachableBuildOpts, tty, doc]

theorem not_filesOf_document (hh : Hierarchy creates)
    (hu : parent ≠ [] → trimSpace name ∉ reservedScopeSubdirs) :
    ¬ filesOf creates (parent ++ [trimSpace name] ++ [metadataFile]) := by
  rintro ⟨⟨owner, secret⟩, hm, hs⟩
  have hsp : owner ++ [secretsSubdir, secret] = (owner ++ [secretsSubdir]) ++ [secret] := by simp
  rw [hsp] at hs
  have hsc := (List.append_inj' hs rfl).1
  have hp := List.append_inj' hsc (by simp only [List.length_singleton])
  have ho := (hh.secrets _ hm).1
  rw [← hp.1] at ho
  refine hu (hh.nonempty _ ho) ?_
  rw [List.singleton_inj.mp hp.2]
  decide

theorem createScope_holds (hh : Hierarchy creates)
    (hpl : (Create.scope parent name containers).Plain creates) :
    Keeps (Between (.scope parent name containers) creates)
      (createScope parent name containers) := by
  obtain ⟨hk, _, hu, hids⟩ := hpl
  have hp : Keeps (Between (.scope parent name containers) creates)
      (provisionScope parent (parent ++ [trimSpace name])) :=
    provisionScope_holds (fun other hb hn => .scope (above_scope hh hk hb hn))
      (mem_scopesOf_scope.mpr (.inl rfl)) (not_filesOf_document hh hu)
  have ha : ∀ result, Keeps (Between (.scope parent name containers) creates)
      (accepting result) := fun _ => accepting_keeps
  have hr : ∀ path, Keeps (Between (.scope parent name containers) creates)
      (requireScope path) := fun _ => requireScope_keeps
  unfold createScope
  by_cases hd : parent.length = 3
  · have hat : Keeps (Between (.scope parent name containers) creates)
        (containers.forM fun id =>
          attachableBuildOpts (parent ++ [trimSpace name, trimSpace id])) :=
      keeps_forM fun id member => attachableBuildOpts_holds hh hk hd (fun same => by
        simp at hids
        exact (hids id member).2.2 same)
    rw [if_pos hd]
    mvcgen [hp, ha, hr, hat]
  · rw [if_neg hd]
    mvcgen [hp, ha, hr]

theorem dir_of_found {tree : ScopeTree}
    (hh : Holding creates (dirsOf creates) (filesOf creates) tree)
    (hf : getScope tree path = .found) : tree.read path = some .dir :=
  hh.2.dir path (.inl (mem_of_found hh.1 hf))

theorem createScope_makes :
    ⦃fun tree => ⌜Holding creates (dirsOf creates) (filesOf creates) tree⌝⦄
      createScope parent name containers
    ⦃post⟨fun _ tree => ⌜tree.read (parent ++ [trimSpace name]) = some .dir⌝,
      fun _ _ => ⌜True⌝⟩⦄ := by
  have hp : Makes (fun tree => tree.read (parent ++ [trimSpace name]) = some .dir)
      (provisionScope parent (parent ++ [trimSpace name])) :=
    provisionScope_makes (by simp)
  have ha : ∀ result, Keeps (Holding creates (dirsOf creates) (filesOf creates))
      (accepting result) := fun _ => accepting_keeps
  have hr : ∀ path, Keeps (fun tree => tree.read (parent ++ [trimSpace name]) = some .dir)
      (requireScope path) := fun _ => requireScope_keeps
  have hat : Keeps (fun tree => tree.read (parent ++ [trimSpace name]) = some .dir)
      (containers.forM fun id => attachableBuildOpts (parent ++ [trimSpace name, trimSpace id])) :=
    keeps_forM fun _ _ => attachableBuildOpts_keeps_dir
  mvcgen [createScope, hp, ha, hr, hat]
  all_goals grind [dir_of_found]

/-- A scope that was created has an accepted name and at most three scopes above it. -/
theorem createScope_accepts {tree after : ScopeTree}
    (ran : Yields (createScope parent name containers) tree () after) :
    trimSpace name ≠ "" ∧ parent.length ≤ 3 := by
  obtain ⟨_, _, ha, _⟩ := Yields.of_bind ran
  have hv : validateScopeName parent.length name = .ok () := by
    cases hr : validateScopeName parent.length name with
    | ok done => rfl
    | error text =>
      rw [hr] at ha
      cases ha
  unfold validateScopeName at hv
  split at hv
  · next hn => exact ⟨(validateRealmName_eq_ok.mp hv).1, by omega⟩
  · next one => exact ⟨((validateHierarchyName_eq_ok (by decide)).mp hv).1, by omega⟩
  · next two => exact ⟨((validateHierarchyName_eq_ok (by decide)).mp hv).1, by omega⟩
  · next ht => exact ⟨((validateHierarchyName_eq_ok (by decide)).mp hv).1, by omega⟩
  · cases hv

theorem Hierarchy.scope (hh : Hierarchy creates)
    (hp : (Create.scope parent name containers).Plain creates) (hnm : trimSpace name ≠ "")
    (hd : parent.length ≤ 3) : Hierarchy (.scope parent name containers :: creates) where
  nonempty := by
    intro scope ht
    rcases mem_scopesOf_scope.mp ht with rfl | old
    · simp
    · exact hh.nonempty scope old
  depth := by
    intro scope ht
    rcases mem_scopesOf_scope.mp ht with rfl | old
    · rw [List.length_append, List.length_singleton]
      omega
    · exact hh.depth scope old
  named := by
    intro scope ht component hm
    rcases mem_scopesOf_scope.mp ht with rfl | old
    · rcases List.mem_append.mp hm with hi | hin
      · rcases hp.1 with hnn | ha
        · rw [hnn] at hi
          cases hi
        · exact hh.named parent ha component hi
      · rw [List.mem_singleton.mp hin, trimSpace_trimSpace]
        exact hnm
    · exact hh.named scope old component hm
  unreserved := by
    intro scope ht component hm
    rcases mem_scopesOf_scope.mp ht with rfl | old
    · rcases hp.1 with hnn | ha
      · rw [hnn] at hm
        cases hm
      · have hn := hh.nonempty parent ha
        rw [List.tail_append_of_ne_nil hn] at hm
        rcases List.mem_append.mp hm with hi | hin
        · exact hh.unreserved parent ha component hi
        · rw [List.mem_singleton.mp hin]
          exact hp.2.2.1 hn
    · exact hh.unreserved scope old component hm
  closed := by
    intro path more ht hn
    rcases mem_scopesOf_scope.mp ht with hw | old
    · exact above_scope hh hp.1 (hw ▸ List.prefix_append path more) hn
    · exact scopesOf_subset (hh.closed path more old hn)
  secrets := by
    intro secret ht
    have old := hh.secrets secret ht
    exact ⟨scopesOf_subset old.1, old.2⟩
  volumes := by
    intro volume ht
    have old := hh.volumes volume ht
    exact ⟨scopesOf_subset old.1, old.2⟩

theorem Reflects.scope {tree after : ScopeTree} (hr : Reflects creates tree)
    (hpl : (Create.scope parent name containers).Plain creates)
    (ran : Yields (createScope parent name containers) tree () after) :
    Reflects (.scope parent name containers :: creates) after := by
  have hs : Holding creates (dirsOf creates) (filesOf creates) tree :=
    ⟨hr.sound, hr.present⟩
  obtain ⟨hsn, hp⟩ :
      Between (.scope parent name containers) creates after :=
    ran.finalState ▸ holds_finalState (createScope_holds hr.hierarchy hpl)
      ⟨hs.1.mono, hs.2⟩
  have hm := (of_triple createScope_makes hs).1 () ran.ending
  rw [ran.finalState] at hm
  obtain ⟨hn, hd⟩ := createScope_accepts ran
  refine ⟨hr.hierarchy.scope hpl hn hd, hsn, ?_, hp.file⟩
  rintro path (his | hi)
  · rcases mem_scopesOf_scope.mp his with rfl | old
    · exact hm
    · exact hp.dir path (.inl old)
  · exact hp.dir path (.inr hi)

end Scope

section Secret

variable {creates : List Create} {owner : TreePath} {name content : String}

theorem mem_secretsOf_secret {secret : TreePath × String} :
    secret ∈ secretsOf (.secret owner name content :: creates) ↔
      secret = (owner, name) ∨ secret ∈ secretsOf creates := by
  simp [secretsOf]

/-- The paths above a directory of resources, with that directory. -/
theorem owned_resources (hh : Hierarchy creates) (ht : owner ∈ scopesOf creates)
    {subdir : String} (hr : subdir ∈ reservedScopeSubdirs) {other : TreePath}
    (hb : other <+: owner ++ [subdir]) (hn : other ≠ []) : Owned creates other .dir := by
  rcases List.prefix_concat_iff.mp hb with rfl | ⟨more, rfl⟩
  · exact .resources ht hr
  · exact .scope (hh.closed other more ht hn)

theorem createSecret_holds (hh : Hierarchy creates) (ht : owner ∈ scopesOf creates) :
    Keeps (Between (.secret owner name content) creates)
      (createSecret owner name content) := by
  have hr : Keeps (Between (.secret owner name content) creates)
      ((owner.inits.drop 1).forM requireScope) := keeps_forM fun _ _ => requireScope_keeps
  have hd : Keeps (Between (.secret owner name content) creates)
      (makeDirectories (owner ++ [secretsSubdir])) :=
    makeDirectories_holds fun other hb hn =>
      (owned_resources hh ht (by decide) hb hn).mono
  have hw : Keeps (Between (.secret owner name content) creates)
      (writeFile (owner ++ [secretsSubdir, name]) (.data content)) :=
    writeFile_holds (.secret (mem_secretsOf_secret.mpr (.inl rfl))) fun _ => ⟨content, rfl⟩
  have ha : ∀ result, Keeps (Between (.secret owner name content) creates)
      (accepting result) := fun _ => accepting_keeps
  mvcgen [createSecret, ha, hr, hd, hw]

theorem createSecret_writes :
    Makes (fun tree => tree.read (owner ++ [secretsSubdir, name]) = some (.data content))
      (createSecret owner name content) := by
  have any := fun program : VolumeEffect Unit => keeps_true program
  have ha := any (accepting (validateSecretLookup owner name))
  have hr := any ((owner.inits.drop 1).forM requireScope)
  have hd := any (makeDirectories (owner ++ [secretsSubdir]))
  have hw : Makes (fun tree => tree.read (owner ++ [secretsSubdir, name]) = some (.data content))
      (writeFile (owner ++ [secretsSubdir, name]) (.data content)) := writeFile_writes
  mvcgen [createSecret, ha, hr, hd, hw]

theorem Hierarchy.secret (hh : Hierarchy creates)
    (hp : (Create.secret owner name content).Plain creates) :
    Hierarchy (.secret owner name content :: creates) where
  nonempty := hh.nonempty
  depth := hh.depth
  named := hh.named
  unreserved := hh.unreserved
  closed := hh.closed
  secrets := by
    intro secret ht
    rcases mem_secretsOf_secret.mp ht with rfl | old
    · exact ⟨hp.1, hp.2.2⟩
    · exact hh.secrets secret old
  volumes := hh.volumes

theorem Reflects.secret {tree after : ScopeTree} (hr : Reflects creates tree)
    (hpl : (Create.secret owner name content).Plain creates)
    (ran : Yields (createSecret owner name content) tree () after) :
    Reflects (.secret owner name content :: creates) after := by
  have hk : Keeps (Between (.secret owner name content) creates)
      (createSecret owner name content) := createSecret_holds hr.hierarchy hpl.1
  have hh := holds_finalState hk ⟨hr.sound.mono, hr.present⟩
  rw [ran.finalState] at hh
  obtain ⟨hs, hp⟩ := hh
  have hw := (of_triple createSecret_writes trivial).1 () ran.ending
  rw [ran.finalState] at hw
  refine ⟨hr.hierarchy.secret hpl, hs, hp.dir, ?_⟩
  rintro path ⟨secret, ht, rfl⟩
  rcases mem_secretsOf_secret.mp ht with rfl | old
  · exact ⟨content, hw⟩
  · exact hp.file _ ⟨secret, old, rfl⟩

end Secret

section Volume

variable {creates : List Create} {owner : TreePath} {name policy : String}

theorem mem_volumesOf_volume {volume : TreePath × String} :
    volume ∈ volumesOf (.volume owner name policy :: creates) ↔
      volume = (owner, name) ∨ volume ∈ volumesOf creates := by
  simp [volumesOf]

theorem volumeAt_scope (hn : owner ≠ []) (hs : owner.length ≤ 3)
    (hnm : ∀ component ∈ owner, component ≠ "") : (volumeAt owner name).key.scope = owner := by
  match owner with
  | [] => exact absurd rfl hn
  | [realm] => simp_all [volumeAt, VolumeMetadata.key, volumeScopeDir]
  | [realm, space] => simp_all [volumeAt, VolumeMetadata.key, volumeScopeDir]
  | [realm, space, stack] => simp_all [volumeAt, VolumeMetadata.key, volumeScopeDir]
  | _ :: _ :: _ :: _ :: _ =>
    simp only [List.length_cons] at hs
    omega

theorem createVolume_accepts {tree after : ScopeTree}
    (ran : Yields (createVolume owner name policy) tree () after) :
    owner.length ≤ 3 ∧ ∃ action, Yields
      (reconcileVolume {} { metadata := volumeAt owner name, reclaimPolicy := policy }) tree action
      after := by
  obtain ⟨_, start, ha, ran⟩ := Yields.of_bind ran
  have hv : validateVolumeLookup owner name = .ok () ∧ start = tree := by
    cases hr : validateVolumeLookup owner name with
    | ok done =>
      rw [hr] at ha
      cases ha
      exact ⟨rfl, rfl⟩
    | error text =>
      rw [hr] at ha
      cases ha
  obtain ⟨action, _, ran, done⟩ := Yields.of_bind ran
  cases done
  rw [hv.2] at ran
  refine ⟨?_, action, ran⟩
  have ha := hv.1
  unfold validateVolumeLookup at ha
  split at ha
  · cases ha
  · next short => exact Nat.le_of_not_lt short

variable (hh : Hierarchy creates) (ht : owner ∈ scopesOf creates)

include hh ht

theorem ne_empty_of_named :
    ∀ component ∈ owner, component ≠ "" := by
  rintro component hm rfl
  exact hh.named owner ht "" hm (by decide)

/-- Neither a scope nor something that was created in one is where the manifests are. -/
theorem not_needed_manifest (file : String) :
    ¬ dirsOf creates (owner ++ [volumeMetaSubdir, file]) ∧
      ¬ filesOf creates (owner ++ [volumeMetaSubdir, file]) := by
  have hn := hh.nonempty owner ht
  constructor
  · rintro (hi | ⟨⟨other, volume⟩, _, hs⟩)
    · refine hh.unreserved _ hi volumeMetaSubdir ?_ (by decide)
      rw [List.tail_append_of_ne_nil hn]
      simp
    · have hp := (List.append_inj' hs rfl).2
      exact absurd (List.cons.inj hp).1 (by decide)
  · rintro ⟨⟨other, secret⟩, _, hs⟩
    have hp := (List.append_inj' hs rfl).2
    exact absurd (List.cons.inj hp).1 (by decide)

theorem createVolume_holds (hs : owner.length ≤ 3) :
    Keeps (Between (.volume owner name policy) creates)
      (reconcileVolume {} { metadata := volumeAt owner name, reclaimPolicy := policy }) := by
  have hsc : (volumeAt owner name).key.scope = owner :=
    volumeAt_scope (hh.nonempty owner ht) hs (ne_empty_of_named hh ht)
  have hk : owner ∈ scopesOf (.volume owner name policy :: creates) := scopesOf_subset ht
  have hv : Keeps (Between (.volume owner name policy) creates)
      (makeDirectory {} (owner ++ [volumesSubdir])) :=
    makeDirectory_holds (.resources hk (by decide))
  have hd : Keeps (Between (.volume owner name policy) creates)
      (makeDirectory {} (owner ++ [volumesSubdir, name])) :=
    makeDirectory_holds (.volume (mem_volumesOf_volume.mpr (.inl rfl)))
  have hm : Keeps (Between (.volume owner name policy) creates)
      (makeDirectory {} (owner ++ [volumeMetaSubdir])) :=
    makeDirectory_holds (.resources hk (by decide))
  have hu := not_needed_manifest hh ht (name ++ ".json")
  have hn : (volumeAt owner name).key.name = name := rfl
  simp only [reconcileVolume, writeVolume, persistVolumeReclaimPolicy, VolumeKey.manifest,
    VolumeKey.directory, hsc, hn]
  mvcgen [hv, hd, hm, failing, ofResult]
  · next hb _ _ => exact ⟨hb.1.remove, hb.2.remove hu.1 hu.2⟩
  · next hb _ =>
      exact ⟨hb.1.put (.manifest hk), hb.2.put (fun hw => absurd hw hu.1)
        fun hw => absurd hw hu.2⟩

theorem createVolume_makes (hs : owner.length ≤ 3) :
    Makes (fun tree => tree.read (owner ++ [volumesSubdir, name]) = some .dir)
      (reconcileVolume {} { metadata := volumeAt owner name, reclaimPolicy := policy }) := by
  have hsc : (volumeAt owner name).key.scope = owner :=
    volumeAt_scope (hh.nonempty owner ht) hs (ne_empty_of_named hh ht)
  have hn : (volumeAt owner name).key.name = name := rfl
  have hv := keeps_true (makeDirectory {} (owner ++ [volumesSubdir]))
  have hd : Makes (fun tree => tree.read (owner ++ [volumesSubdir, name]) = some .dir)
      (makeDirectory {} (owner ++ [volumesSubdir, name])) := makeDirectory_makes
  have hm : Keeps (fun tree => tree.read (owner ++ [volumesSubdir, name]) = some .dir)
      (makeDirectory {} (owner ++ [volumeMetaSubdir])) := makeDirectory_keeps_dir
  have ha : owner ++ [volumesSubdir, name] ≠ owner ++ [volumeMetaSubdir, name ++ ".json"] := by
    intro hsm
    exact absurd (List.cons.inj (List.append_cancel_left hsm)).1 (by decide)
  simp only [reconcileVolume, writeVolume, persistVolumeReclaimPolicy, VolumeKey.manifest,
    VolumeKey.directory, hsc, hn]
  mvcgen [hv, hd, hm, failing, ofResult]
  all_goals grind [FileTree.read_put, FileTree.read_remove]

theorem Hierarchy.volume
    (hs : owner.length ≤ 3) : Hierarchy (.volume owner name policy :: creates) where
  nonempty := hh.nonempty
  depth := hh.depth
  named := hh.named
  unreserved := hh.unreserved
  closed := hh.closed
  secrets := hh.secrets
  volumes := by
    intro volume hm
    rcases mem_volumesOf_volume.mp hm with rfl | old
    · exact ⟨ht, hs⟩
    · exact hh.volumes volume old

omit hh ht in
theorem Reflects.volume {tree after : ScopeTree} (hr : Reflects creates tree)
    (hpl : (Create.volume owner name policy).Plain creates)
    (ran : Yields (createVolume owner name policy) tree () after) :
    Reflects (.volume owner name policy :: creates) after := by
  obtain ⟨hs, action, ran⟩ := createVolume_accepts ran
  obtain ⟨hsn, hp⟩ :
      Between (.volume owner name policy) creates after :=
    ran.finalState ▸ holds_finalState (createVolume_holds hr.hierarchy hpl hs)
      ⟨hr.sound.mono, hr.present⟩
  have hm := (of_triple (createVolume_makes hr.hierarchy hpl hs) trivial).1 action
    ran.ending
  rw [ran.finalState] at hm
  refine ⟨hr.hierarchy.volume hpl hs, hsn, ?_, hp.file⟩
  rintro path (hi | ⟨volume, ht, rfl⟩)
  · exact hp.dir path (.inl hi)
  · rcases mem_volumesOf_volume.mp ht with rfl | old
    · exact hm
    · exact hp.dir _ (.inr ⟨volume, old, rfl⟩)

end Volume

theorem reflects_start : Reflects [] [] where
  hierarchy := by constructor <;> simp [scopesOf, secretsOf, volumesOf]
  sound := by
    intro path e ht
    cases ht
  present := by constructor <;> simp [dirsOf, filesOf, scopesOf, secretsOf, volumesOf]

/-- The tree of a history holds what was created and nothing else. -/
theorem reflects_of_history {creates : List Create} {tree : ScopeTree}
    (hh : History creates tree) (hp : Plain creates) : Reflects creates tree := by
  induction hh with
  | start => exact reflects_start
  | @create creates tree after next _ ran ih =>
    have hr := ih hp.2
    cases next with
    | scope parent name containers => exact hr.scope hp.1 ran
    | secret owner name content => exact hr.secret hp.1 ran
    | volume owner name policy => exact hr.volume hp.1 ran


end Kukeon.Runner.Walkers
