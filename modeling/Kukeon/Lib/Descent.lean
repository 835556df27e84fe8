import Kukeon.Lib.FileTree

/-! # Walks down a hierarchy

A hierarchy is a set of paths, with every beginning of each of them. A walk goes down from a path to
a given depth. As long as it has a filter it goes into the one child that the filter names; when the
filter is used up it visits the path it has come to and goes into all the children. Where the
children are listed exactly, such a walk visits exactly what is below the filter, each path once.
-/

namespace Descent

/-- The paths that a walk visits. The children of a path are listed with the name of the one that is
    asked for, if there is one. -/
def visits (children : TreePath → Option String → List String) :
    Nat → TreePath → List String → List TreePath
  | 0, path, [] => [path]
  | 0, _, _ :: _ => []
  | depth + 1, path, [] =>
    path :: (children path none).flatMap fun name => visits children depth (path ++ [name]) []
  | depth + 1, path, want :: filter =>
    (children path (some want)).flatMap fun name => visits children depth (path ++ [name]) filter

/-- The children of the paths above a level are listed exactly, each once. -/
structure Lists (children : TreePath → Option String → List String) (hierarchy : TreePath → Prop)
    (level : Nat) : Prop where
  closed : ∀ path more, hierarchy (path ++ more) → path ≠ [] → hierarchy path
  nodup : ∀ path, (children path none).Nodup
  all : ∀ path, hierarchy path → path.length < level →
    ∀ name, name ∈ children path none ↔ hierarchy (path ++ [name])
  one : ∀ path name, hierarchy (path ++ [name]) → path.length < level →
    children path (some name) = [name]

variable {children : TreePath → Option String → List String} {hierarchy : TreePath → Prop}
  {level : Nat}

theorem mem_visits (hls : Lists children hierarchy level) (depth : Nat) :
    ∀ {path : TreePath} {filter : List String}, path ≠ [] → filter.length ≤ depth →
      path.length + depth ≤ level → hierarchy (path ++ filter) → ∀ {visited : TreePath},
        visited ∈ visits children depth path filter ↔
          hierarchy visited ∧ path ++ filter <+: visited ∧ visited.length ≤ path.length + depth := by
  induction depth with
  | zero =>
    intro path filter _ hs _ ht visited
    obtain rfl : filter = [] := List.eq_nil_of_length_eq_zero (Nat.le_zero.mp hs)
    rw [List.append_nil] at ht ⊢
    simp only [visits, List.mem_singleton, Nat.add_zero]
    constructor
    · rintro rfl
      exact ⟨ht, List.prefix_refl _, le_refl _⟩
    · rintro ⟨_, hbl, hb⟩
      exact (hbl.eq_of_length_le hb).symm
  | succ depth ih =>
    intro path filter hn hs hb ht visited
    have hf : ∀ name, (path ++ [name]).length + depth = path.length + (depth + 1) := by
      intro name
      rw [List.length_append, List.length_singleton]
      omega
    cases filter with
    | cons want filter =>
      have hsp : path ++ want :: filter = (path ++ [want]) ++ filter := by simp
      rw [hsp] at ht ⊢
      have hc := hls.closed _ _ ht (by simp)
      rw [visits, hls.one path want hc (by omega), List.flatMap_cons, List.flatMap_nil,
        List.append_nil, ih (by simp) (by simpa using hs) (by rw [hf]; exact hb) ht,
        hf]
    | nil =>
      rw [List.append_nil] at ht ⊢
      rw [visits, List.mem_cons, List.mem_flatMap]
      constructor
      · rintro (rfl | ⟨name, hl, hd⟩)
        · exact ⟨ht, List.prefix_refl _, Nat.le_add_right _ _⟩
        · have hc := (hls.all path ht (by omega) name).mp hl
          rw [ih (by simp) (Nat.zero_le _) (by rw [hf]; exact hb) (by simpa using hc),
            List.append_nil, hf] at hd
          exact ⟨hd.1, (List.prefix_append _ _).trans hd.2.1, hd.2.2⟩
      · rintro ⟨hi, ⟨rest, rfl⟩, hs⟩
        cases rest with
        | nil => exact .inl (by simp)
        | cons name rest =>
          have hsp : path ++ name :: rest = (path ++ [name]) ++ rest := by simp
          have hc := hls.closed (path ++ [name]) rest (by simpa using hi) (by simp)
          refine .inr ⟨name, (hls.all path ht (by omega) name).mpr hc, ?_⟩
          rw [ih (by simp) (Nat.zero_le _) (by rw [hf]; exact hb) (by simpa using hc),
            List.append_nil, hf]
          exact ⟨hi, hsp ▸ List.prefix_append _ _, hs⟩

theorem prefix_of_mem_visits (depth : Nat) :
    ∀ {path : TreePath} {filter : List String} {visited : TreePath},
      visited ∈ visits children depth path filter → path <+: visited := by
  induction depth with
  | zero =>
    intro path filter visited hm
    cases filter with
    | nil =>
      rw [visits, List.mem_singleton] at hm
      rw [hm]
    | cons want filter =>
      rw [visits] at hm
      cases hm
  | succ depth ih =>
    intro path filter visited hm
    cases filter with
    | nil =>
      rw [visits, List.mem_cons, List.mem_flatMap] at hm
      rcases hm with rfl | ⟨name, _, hd⟩
      · exact List.prefix_refl _
      · exact (List.prefix_append _ _).trans (ih hd)
    | cons want filter =>
      rw [visits, List.mem_flatMap] at hm
      obtain ⟨name, _, hd⟩ := hm
      exact (List.prefix_append _ _).trans (ih hd)

theorem disjoint_visits {depth : Nat} {path : TreePath} {filter : List String}
    {name other : String} (hd : name ≠ other) :
    (visits children depth (path ++ [name]) filter).Disjoint
      (visits children depth (path ++ [other]) filter) := by
  intro visited hh ht
  have hb := prefix_of_mem_visits depth hh
  have ho := prefix_of_mem_visits depth ht
  have hs := List.prefix_of_prefix_length_le hb ho (by simp)
  rw [List.prefix_append_right_inj, List.cons_prefix_cons] at hs
  exact hd hs.1

theorem nodup_visits (hn : ∀ path, (children path none).Nodup)
    (hs : ∀ path name, (children path (some name)).Nodup) (depth : Nat) :
    ∀ {path : TreePath} {filter : List String}, (visits children depth path filter).Nodup := by
  induction depth with
  | zero =>
    intro path filter
    cases filter with
    | nil => exact List.nodup_singleton _
    | cons want filter => exact List.nodup_nil
  | succ depth ih =>
    have hb : ∀ (path : TreePath) (filter names : List String), names.Nodup →
        (names.flatMap fun name => visits children depth (path ++ [name]) filter).Nodup := by
      intro path filter names hds
      refine List.nodup_flatMap.mpr ⟨fun _ _ => ih, ?_⟩
      exact hds.imp fun hd => disjoint_visits hd
    intro path filter
    cases filter with
    | cons want filter => exact hb path filter _ (hs path want)
    | nil =>
      refine List.nodup_cons.mpr ⟨?_, hb path [] _ (hn path)⟩
      intro hm
      obtain ⟨name, _, hdp⟩ := List.mem_flatMap.mp hm
      have hl := (prefix_of_mem_visits depth hdp).length_le
      rw [List.length_append, List.length_singleton] at hl
      omega

/-- What is collected along a walk: at the path itself once the filter is used up, then in the
    children. -/
theorem flatMap_visits {E : Type} (collect : TreePath → List E) (depth : Nat) (path : TreePath)
    (filter : List String) :
    (visits children (depth + 1) path filter).flatMap collect =
      (if filter = [] then collect path else []) ++
        (children path filter.head?).flatMap fun name =>
          (visits children depth (path ++ [name]) filter.tail).flatMap collect := by
  cases filter with
  | nil => simp [visits, List.flatMap_assoc]
  | cons want filter => simp [visits, List.flatMap_assoc]

theorem flatMap_visits_zero {E : Type} (collect : TreePath → List E) (path : TreePath) :
    (visits children 0 path []).flatMap collect = collect path := by
  simp [visits]

end Descent
