import Kukeon.Lib.GoText
import Kukeon.Lib.Outcome
import Mathlib.Data.List.Dedup

/-! # File trees

A tree of files is the list of its entries, each under the components of its path from the root.
Everything that removes entries is a `restrict`, so that what a removal leaves can be read off the
paths it keeps.
-/

abbrev TreePath := List String

instance : LawfulBEq TreePath := inferInstanceAs (LawfulBEq (List String))

abbrev FileTree (E : Type) := List (TreePath × E)

namespace FileTree

variable {E : Type} {tree : FileTree E} {path dir : TreePath} {keep : TreePath → Bool}

def read (tree : FileTree E) (path : TreePath) : Option E := tree.lookup path

def restrict (tree : FileTree E) (keep : TreePath → Bool) : FileTree E :=
  tree.filter fun entry => keep entry.1

def removeAll (tree : FileTree E) (dir : TreePath) : FileTree E :=
  tree.restrict fun path => !dir.isPrefixOf path

def remove (tree : FileTree E) (path : TreePath) : FileTree E :=
  tree.restrict fun other => other != path

def put (tree : FileTree E) (path : TreePath) (e : E) : FileTree E :=
  (path, e) :: tree.remove path

def childName (dir path : TreePath) : Option String :=
  if dir.isPrefixOf path then (path.drop dir.length).head? else none

def readDir (tree : FileTree E) (dir : TreePath) : List String :=
  (tree.filterMap fun entry => childName dir entry.1).dedup

theorem read_restrict :
    (tree.restrict keep).read path = if keep path then tree.read path else none := by
  unfold read restrict
  induction tree with
  | nil => simp
  | cons entry rest ih =>
    rcases entry with ⟨other, e⟩
    rw [List.filter_cons]
    by_cases hs : path = other
    · subst hs
      cases hk : keep path with
      | true => simp
      | false => simp [ih, hk]
    · cases keep other with
      | true => simp only [if_true, List.lookup_cons, beq_false_of_ne hs, ih]
      | false => simp only [Bool.false_eq_true, if_false, List.lookup_cons, beq_false_of_ne hs, ih]

theorem read_restrict_of_keep (hk : keep path = true) :
    (tree.restrict keep).read path = tree.read path := by
  rw [read_restrict, if_pos hk]

variable {e : E}

theorem read_of_restrict (ht : (tree.restrict keep).read path = some e) :
    keep path = true ∧ tree.read path = some e := by
  rw [read_restrict] at ht
  split at ht
  · next hk => exact ⟨hk, ht⟩
  · cases ht

theorem read_removeAll :
    (tree.removeAll dir).read path = if dir <+: path then none else tree.read path := by
  unfold removeAll
  rw [read_restrict]
  by_cases hb : dir <+: path
  · simp [hb, List.isPrefixOf_iff_prefix.mpr hb]
  · simp [hb]

theorem read_remove {other : TreePath} :
    (tree.remove other).read path = if path = other then none else tree.read path := by
  unfold remove
  rw [read_restrict]
  by_cases hs : path = other
  · simp [hs]
  · simp [hs]

theorem read_put {other : TreePath} :
    (tree.put other e).read path = if path = other then some e else tree.read path := by
  have hk : (tree.remove other).read path = if path = other then none else tree.read path :=
    read_remove
  unfold put
  unfold read at hk ⊢
  rw [List.lookup_cons]
  by_cases hs : path = other
  · simp [hs]
  · rw [if_neg hs] at hk ⊢
    rw [beq_false_of_ne hs]
    exact hk

theorem mem_of_read (ht : tree.read path = some e) : (path, e) ∈ tree := by
  unfold read at ht
  induction tree with
  | nil => cases ht
  | cons entry rest ih =>
    rcases entry with ⟨other, first⟩
    rw [List.lookup_cons] at ht
    by_cases hs : path = other
    · subst hs
      simp only [beq_self_eq_true] at ht
      cases ht
      exact List.mem_cons_self
    · rw [beq_false_of_ne hs] at ht
      exact List.mem_cons_of_mem _ (ih ht)

theorem exists_read_of_mem (hm : (path, e) ∈ tree) : ∃ e, tree.read path = some e := by
  unfold read
  induction tree with
  | nil => cases hm
  | cons entry rest ih =>
    rcases entry with ⟨other, first⟩
    rw [List.lookup_cons]
    by_cases hs : path = other
    · exact ⟨first, by simp [hs]⟩
    · rw [beq_false_of_ne hs]
      refine ih ?_
      rcases List.mem_cons.mp hm with hh | hl
      · cases hh
        exact absurd rfl hs
      · exact hl

theorem childName_append (dir : TreePath) (name : String) (rest : TreePath) :
    childName dir (dir ++ name :: rest) = some name := by
  simp [childName]

theorem childName_eq_some {name : String} :
    childName dir path = some name ↔ ∃ rest, path = dir ++ name :: rest := by
  constructor
  · intro hf
    unfold childName at hf
    split at hf
    · next hb =>
        obtain ⟨rest, rfl⟩ := List.isPrefixOf_iff_prefix.mp hb
        rw [List.drop_left] at hf
        cases rest with
        | nil => cases hf
        | cons first rest =>
          cases hf
          exact ⟨rest, rfl⟩
    · cases hf
  · rintro ⟨rest, rfl⟩
    exact childName_append dir name rest

theorem mem_readDir {name : String} :
    name ∈ tree.readDir dir ↔ ∃ rest e, (dir ++ name :: rest, e) ∈ tree := by
  unfold readDir
  rw [List.mem_dedup, List.mem_filterMap]
  constructor
  · rintro ⟨⟨path, e⟩, hm, hf⟩
    obtain ⟨rest, rfl⟩ := childName_eq_some.mp hf
    exact ⟨rest, e, hm⟩
  · rintro ⟨rest, e, hm⟩
    exact ⟨_, hm, childName_append dir name rest⟩

theorem nodup_readDir : (tree.readDir dir).Nodup := List.nodup_dedup _

theorem mem_readDir_of_read {name : String} {rest : TreePath}
    (ht : tree.read (dir ++ name :: rest) = some e) : name ∈ tree.readDir dir :=
  mem_readDir.mpr ⟨rest, e, mem_of_read ht⟩

/-- A removal that keeps everything below a directory does not change what is in it. -/
theorem readDir_restrict (hk : ∀ name rest, keep (dir ++ name :: rest) = true) :
    (tree.restrict keep).readDir dir = tree.readDir dir := by
  unfold readDir restrict
  rw [List.filterMap_filter]
  congr 1
  refine List.filterMap_congr ?_
  intro entry _
  split
  · rfl
  · next hr =>
      cases hf : childName dir entry.1 with
      | none => rfl
      | some name =>
        obtain ⟨rest, hs⟩ := childName_eq_some.mp hf
        rw [hs] at hr
        exact absurd (hk name rest) hr

theorem restrict_and {more : TreePath → Bool} :
    (tree.restrict keep).restrict more = tree.restrict fun path => keep path && more path := by
  unfold restrict
  rw [List.filter_filter]
  simp only [Bool.and_comm]

theorem restrict_congr {other : TreePath → Bool}
    (hs : ∀ path e, (path, e) ∈ tree → keep path = other path) :
    tree.restrict keep = tree.restrict other :=
  List.filter_congr fun entry hm => hs entry.1 entry.2 hm

theorem mem_restrict : (path, e) ∈ tree.restrict keep ↔ (path, e) ∈ tree ∧ keep path = true :=
  List.mem_filter

/-- A removal that removes less is not seen after one that removes more. -/
theorem restrict_restrict {more : TreePath → Bool} (le : ∀ path, more path = true → keep path = true) :
    (tree.restrict keep).restrict more = tree.restrict more := by
  unfold restrict
  rw [List.filter_filter]
  refine List.filter_congr ?_
  intro entry _
  cases hk : more entry.1 with
  | true => simp [le entry.1 hk]
  | false => simp

theorem removeAll_removeAll {below : TreePath} (hu : dir <+: below) :
    (tree.removeAll below).removeAll dir = tree.removeAll dir := by
  refine restrict_restrict ?_
  intro path hk
  simp only [Bool.not_eq_true', ← Bool.not_eq_true, List.isPrefixOf_iff_prefix] at hk ⊢
  exact fun hi => hk (hu.trans hi)

theorem remove_removeAll {below : TreePath} (hu : dir <+: below) :
    (tree.remove below).removeAll dir = tree.removeAll dir := by
  refine restrict_restrict ?_
  intro path hk
  simp only [Bool.not_eq_true', ← Bool.not_eq_true, List.isPrefixOf_iff_prefix] at hk
  simp only [bne_iff_ne, ne_eq]
  rintro rfl
  exact hk hu

end FileTree

namespace HostFiles

/-- One component of a path that is being cleaned. The root is its own parent. -/
def stepInto (dir : TreePath) (component : String) : TreePath :=
  if component = "" ∨ component = "." then dir
  else if component = ".." then dir.dropLast
  else dir ++ [component]

/-- `filepath.Join` of a clean absolute path and any other. -/
def join (dir : TreePath) (path : String) : TreePath := (GoText.split path '/').foldl stepInto dir

/-- The file that a path stands for in a process that works in `cwd`. -/
def resolve (cwd : TreePath) (path : String) : TreePath :=
  if GoText.hasPrefix path "/" then join [] path else join cwd path

def pathText (path : TreePath) : String := "/" ++ "/".intercalate path

def Inside (dir path : TreePath) : Prop := dir <+: path ∧ path ≠ dir

instance (dir path : TreePath) : Decidable (Inside dir path) :=
  inferInstanceAs (Decidable (_ ∧ _))

theorem inside_append {dir rest : TreePath} (hp : rest ≠ []) : Inside dir (dir ++ rest) :=
  ⟨List.prefix_append dir rest, by simpa using hp⟩

theorem Inside.sibling {dir path : TreePath} (hi : Inside dir path) (name : String) :
    Inside dir (path.dropLast ++ [name]) := by
  obtain ⟨⟨rest, rfl⟩, hp⟩ := hi
  have hb : rest ≠ [] := by
    rintro rfl
    exact hp (List.append_nil dir)
  rw [List.dropLast_append_of_ne_nil hb, List.append_assoc]
  exact inside_append (by simp)

inductive Node where
  | dir
  | file (value : String)
  deriving DecidableEq

inductive FileError where
  | notExist
  | notDir
  | isDir
  deriving DecidableEq

def FileError.text : FileError → String
  | .notExist => "no such file or directory"
  | .notDir => "not a directory"
  | .isDir => "is a directory"

variable {tree grown : FileTree Node} {path : TreePath}

def node (tree : FileTree Node) (path : TreePath) : Option Node :=
  if path = [] then some .dir else tree.read path

def missing (tree : FileTree Node) (path : TreePath) : FileError :=
  if path.inits.any fun above => ((node tree above).any (· ≠ .dir)) then .notDir else .notExist

def readFile (tree : FileTree Node) (path : TreePath) : Except FileError String :=
  match node tree path with
  | some (.file value) => .ok value
  | some .dir => .error .isDir
  | none => .error (missing tree path)

def mkdir (tree : FileTree Node) (path : TreePath) : Except FileError (FileTree Node) :=
  match node tree path with
  | some .dir => .ok tree
  | some (.file _) => .error .notDir
  | none => .ok (tree.put path .dir)

/-- `os.MkdirAll`. -/
def mkdirAll (tree : FileTree Node) (path : TreePath) : Except FileError (FileTree Node) :=
  path.inits.foldlM mkdir tree

theorem read_mkdir {made : TreePath} {entry : Node} (hd : mkdir tree made = .ok grown)
    (ht : tree.read path = some entry) : grown.read path = some entry := by
  unfold mkdir at hd
  split at hd
  · cases hd
    exact ht
  · cases hd
  · next ha =>
    cases hd
    rw [FileTree.read_put]
    split
    next hs =>
      subst hs
      unfold node at ha
      split at ha
      · cases ha
      · rw [ha] at ht
        cases ht
    next => exact ht

theorem read_mkdirAll {made : TreePath} {entry : Node} (hd : mkdirAll tree made = .ok grown)
    (ht : tree.read path = some entry) : grown.read path = some entry := by
  unfold mkdirAll at hd
  generalize made.inits = levels at hd
  induction levels generalizing tree with
  | nil =>
    cases hd
    exact ht
  | cons level rest ih =>
    rw [List.foldlM_cons, Outcome.bind_eq_ok] at hd
    obtain ⟨next, hf, hl⟩ := hd
    exact ih (read_mkdir hf ht) hl

end HostFiles
