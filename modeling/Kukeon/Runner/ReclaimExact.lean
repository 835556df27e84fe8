import Kukeon.Runner.RetainedVolumes

/-! # What a selective reclaim leaves

`reclaimScopeMetadata` of `reclaim_scope.go` as it goes through the directories, and that it leaves
exactly the retained volumes with their manifests and the directories that lead to them. On a run
that succeeds it leaves what the reclaim of the teardowns leaves.
-/

namespace Kukeon.Runner.Teardown

open Effect GoText

namespace Walk

def isFile (tree : ScopeTree) (path : TreePath) : Bool :=
  match tree.read path with
  | none | some .dir => false
  | some _ => true

/-- Whether there is something at a path. A directory is there with what is in it. -/
def isThere (tree : ScopeTree) (path : TreePath) : Bool :=
  tree.any fun entry => path.isPrefixOf entry.1

section Prune

variable (broken : TreePath → Bool) (leaves ancestors : List TreePath)

/-- One entry of a directory. `broken` tells where `os.RemoveAll` fails. -/
def pruneEntry (descend : TreePath → ScopeEffect Unit) (full : TreePath) : ScopeEffect Unit :=
  if full ∈ leaves then pure ()
  else if full ∈ ancestors then descend full
  else do
    refuse (broken full) (.unreadable full)
    modify (·.removeAll full)

/-- The depth bounds how many directories below one another are gone into. -/
def pruneExcept : Nat → TreePath → ScopeEffect Unit
  | 0, _ => pure ()
  | depth + 1, dir => do
      refuse (isFile (← get) dir) (.unreadable dir)
      ((← get).readDir dir).forM fun name =>
        pruneEntry broken leaves ancestors (pruneExcept depth) (dir ++ [name])

end Prune

def depthOf (paths : List TreePath) : Nat := (paths.map List.length).sum

def reclaimScopeMetadata (broken : TreePath → Bool) (scope : TreePath) : ScopeEffect Unit := do
  refuse (!isThere (← get) scope) (.notFound scope)
  let leaves ← ofResult (collectRetained (← get) scope)
  if leaves = [] then do
    refuse (broken scope) (.unreadable scope)
    modify (·.removeAll scope)
  else pruneExcept broken leaves (ancestors scope leaves) (depthOf (ancestors scope leaves) + 1) scope

/-- A run that succeeds leaves the entries that are kept, and nothing else. -/
def Leaves (program : ScopeEffect Unit) (keep : TreePath → Bool) (tree : ScopeTree) : Prop :=
  ∀ done after, Yields program tree done after → after = tree.restrict keep

theorem leaves_pure (tree : ScopeTree) : Leaves (pure ()) (fun _ => true) tree := by
  rintro done after ⟨⟩
  simp [FileTree.restrict]

variable {tree after : ScopeTree} {done : Unit}

theorem of_refuse {condition : Bool} {error : TeardownError} {rest : ScopeEffect Unit}
        (ran : Yields (do refuse condition error; rest) tree done after) :
    condition = false ∧ Yields rest tree done after := by
  obtain ⟨_, reached, hp, ran⟩ := ran.of_bind
  unfold refuse at hp
  cases condition with
  | true => cases hp
  | false =>
    cases hp
    exact ⟨rfl, ran⟩

theorem of_get {rest : ScopeTree → ScopeEffect Unit}
    (ran : Yields (get >>= rest) tree done after) : Yields (rest tree) tree done after := by
  obtain ⟨_, _, hr, ran⟩ := ran.of_bind
  cases hr
  exact ran

theorem leaves_forM {round : String → ScopeEffect Unit} {keep : String → TreePath → Bool}
    {names : List String} (he : ∀ name ∈ names, ∀ tree, Leaves (round name) (keep name) tree)
    (tree : ScopeTree) :
    Leaves (names.forM round) (fun path => names.all fun name => keep name path) tree := by
  induction names generalizing tree with
  | nil => exact leaves_pure tree
  | cons name names ih =>
    intro done after ran
    have hs : Yields (round name >>= fun _ => names.forM round) tree done after := ran
    obtain ⟨_, middle, hfr, hrs⟩ := hs.of_bind
    have hf := he name List.mem_cons_self tree _ _ hfr
    have hr := ih (fun name hl => he name (List.mem_cons_of_mem _ hl)) middle _ _ hrs
    rw [hr, hf, FileTree.restrict_and]
    simp only [List.all_cons]

def keeps (leaves ancestors : List TreePath) (dir path : TreePath) : Bool :=
  !dir.isPrefixOf path || survives leaves ancestors dir (path.drop dir.length)

section Rounds

variable {leaves ancestors : List TreePath}

theorem keeps_append {dir rest : TreePath} :
    keeps leaves ancestors dir (dir ++ rest) = survives leaves ancestors dir rest := by
  simp [keeps]

variable {dir path : TreePath}

theorem keeps_of_not_below
    (hn : ¬ dir <+: path) : keeps leaves ancestors dir path = true := by
  simp [keeps, ← Bool.not_eq_true, hn]

def roundKeeps (leaves ancestors : List TreePath) (dir : TreePath) (name : String)
    (path : TreePath) : Bool :=
  if dir ++ [name] ∈ leaves then true
  else if dir ++ [name] ∈ ancestors then keeps leaves ancestors (dir ++ [name]) path
  else !(dir ++ [name]).isPrefixOf path

theorem roundKeeps_of_not_below
    {name : String} (hn : ¬ dir ++ [name] <+: path) :
    roundKeeps leaves ancestors dir name path = true := by
  unfold roundKeeps
  rw [keeps_of_not_below hn]
  simp [← Bool.not_eq_true, hn]

theorem roundKeeps_own {dir rest : TreePath} {name : String} :
    roundKeeps leaves ancestors dir name (dir ++ name :: rest) =
      survives leaves ancestors dir (name :: rest) := by
  have hs : dir ++ name :: rest = (dir ++ [name]) ++ rest := by simp
  have hb : (dir ++ [name]).isPrefixOf ((dir ++ [name]) ++ rest) = true :=
    List.isPrefixOf_iff_prefix.mpr (List.prefix_append _ _)
  unfold roundKeeps
  rw [survives, hs, keeps_append, hb, Bool.not_true]

variable {tree : ScopeTree}

/-- Together the rounds keep what the pruning of the directory keeps. -/
theorem all_roundKeeps
    {e : Entry} (hm : (path, e) ∈ tree) :
    ((tree.readDir dir).all fun name => roundKeeps leaves ancestors dir name path) =
      keeps leaves ancestors dir path := by
  by_cases hb : dir <+: path
  · obtain ⟨rest, rfl⟩ := hb
    cases rest with
    | nil =>
      rw [keeps_append, survives, List.all_eq_true]
      intro name _
      refine roundKeeps_of_not_below ?_
      intro hl
      simpa using hl.length_le
    | cons first rest =>
      rw [keeps_append, ← roundKeeps_own]
      have ht : first ∈ tree.readDir dir := FileTree.mem_readDir.mpr ⟨rest, e, hm⟩
      cases own : roundKeeps leaves ancestors dir first (dir ++ first :: rest) with
      | false => exact List.all_eq_false.mpr ⟨first, ht, by simp [own]⟩
      | true =>
        rw [List.all_eq_true]
        intro name _
        by_cases hs : name = first
        · rw [hs, own]
        · refine roundKeeps_of_not_below ?_
          intro ho
          rw [List.prefix_append_right_inj, List.cons_prefix_cons] at ho
          exact hs ho.1
  · rw [keeps_of_not_below hb, List.all_eq_true]
    intro name _
    refine roundKeeps_of_not_below ?_
    intro hu
    exact hb ((List.prefix_append _ _).trans hu)

variable {broken : TreePath → Bool}

theorem leaves_pruneEntry
    {descend : TreePath → ScopeEffect Unit} {dir : TreePath} {name : String}
    (hd : dir ++ [name] ∈ ancestors → ∀ tree,
      Leaves (descend (dir ++ [name])) (keeps leaves ancestors (dir ++ [name])) tree)
    (tree : ScopeTree) :
    Leaves (pruneEntry broken leaves ancestors descend (dir ++ [name]))
      (roundKeeps leaves ancestors dir name) tree := by
  unfold pruneEntry
  by_cases hl : dir ++ [name] ∈ leaves
  · have all : roundKeeps leaves ancestors dir name = fun _ => true := by
      funext path
      rw [roundKeeps, if_pos hl]
    rw [if_pos hl, all]
    exact leaves_pure tree
  · rw [if_neg hl]
    by_cases ha : dir ++ [name] ∈ ancestors
    · have hb : roundKeeps leaves ancestors dir name = keeps leaves ancestors (dir ++ [name]) := by
        funext path
        rw [roundKeeps, if_neg hl, if_pos ha]
      rw [if_pos ha, hb]
      exact hd ha tree
    · have ho : roundKeeps leaves ancestors dir name =
          fun path => !(dir ++ [name]).isPrefixOf path := by
        funext path
        rw [roundKeeps, if_neg hl, if_neg ha]
      rw [if_neg ha, ho]
      intro done after ran
      obtain ⟨_, ran⟩ := of_refuse ran
      cases ran
      rfl

theorem pruned {depth : Nat}
    {dir : TreePath}
    (hd : ∀ name, dir ++ [name] ∈ ancestors → ∀ tree,
      Leaves (pruneExcept broken leaves ancestors depth (dir ++ [name]))
        (keeps leaves ancestors (dir ++ [name])) tree)
    (ran : Yields (pruneExcept broken leaves ancestors (depth + 1) dir) tree done after) :
    after = tree.restrict (keeps leaves ancestors dir) := by
  rw [pruneExcept] at ran
  obtain ⟨_, ran⟩ := of_refuse (of_get ran)
  have hr := leaves_forM (fun name (_ : name ∈ tree.readDir dir) =>
    leaves_pruneEntry (hd name)) tree done after (of_get ran)
  rw [hr]
  exact FileTree.restrict_congr fun path e hm => all_roundKeeps hm

/-- The pruning of a directory, with enough depth for the ancestors below it. -/
theorem leaves_pruneExcept (broken : TreePath → Bool)
    (depth : Nat) : ∀ {dir : TreePath}, (∀ path ∈ ancestors, path.length ≤ dir.length + depth) →
      ∀ tree, Leaves (pruneExcept broken leaves ancestors (depth + 1) dir)
        (keeps leaves ancestors dir) tree := by
  -- An ancestor in the directory is longer by one, so that the depth has not run out when the
  -- pruning goes into it.
  induction depth with
  | zero =>
    intro dir hb tree done after ran
    refine pruned ?_ ran
    intro name ha
    simpa using hb _ ha
  | succ depth ih =>
    intro dir hb tree done after ran
    refine pruned ?_ ran
    intro name ha tree
    refine ih ?_ tree
    intro path hm
    have hs := hb path hm
    rw [List.length_append, List.length_singleton]
    omega

/-- A volume of the scope, or of a scope below it, that is marked `Retain`. -/
structure RetainedIn (tree : ScopeTree) (scope : TreePath) (volume : VolumeKey) : Prop where
  under : scope <+: volume.scope
  unreserved : Unreserved volume.scope
  named : volume.name ∉ ["", ".", ".."]
  marked : (volume.manifest, Entry.manifest "Retain") ∈ tree

end Rounds

/-- Every manifest that marks a volume `Retain` has the name of a volume. -/
def WellFormed (tree : ScopeTree) : Prop :=
  ∀ volume : VolumeKey, (volume.manifest, Entry.manifest "Retain") ∈ tree →
    volume.name ∉ ["", ".", ".."]

theorem of_walked {names : List String} (hc : walked names = true) :
    ∃ front file, names = front ++ [volumeMetaSubdir, file] ∧ Unreserved front ∧
      hasSuffix file ".json" = true := by
  induction names with
  | nil => cases hc
  | cons name rest ih =>
    unfold walked at hc
    split at hc
    · cases hc
    · next hn =>
        split at hc
        · next hi =>
            split at hc
            · next file => exact ⟨[], file, by simp [hi], by decide, hc⟩
            · cases hc
        · next hnm =>
            obtain ⟨front, file, rfl, hu, hj⟩ := ih hc
            refine ⟨name :: front, file, rfl, ?_, hj⟩
            simp only [Unreserved, List.mem_cons, not_or]
            exact ⟨⟨Ne.symm hn, hu.1⟩, Ne.symm hnm, hu.2⟩

theorem volumeName_json {file : String} (hj : hasSuffix file ".json" = true) :
    volumeName file ++ ".json" = file := by
  obtain ⟨front, hs⟩ := List.isSuffixOf_iff_suffix.mp hj
  have ht : file = String.ofList front ++ ".json" := by
    rw [← String.toList_inj, ← hs]
    simp
  rw [ht, volumeName_append]

variable {scope path : TreePath}

/-- A file that the walk comes to is the manifest of a volume of a scope below. -/
theorem exists_volume (hn : scope ≠ []) (hu : Unreserved scope)
    (hb : scope <+: path) (hc : walked (path.drop (scope.length - 1)) = true) :
    ∃ volume : VolumeKey, scope <+: volume.scope ∧ Unreserved volume.scope ∧
      path = volume.manifest := by
  obtain ⟨rest, rfl⟩ := hb
  obtain ⟨parents, base, rfl⟩ := (List.eq_nil_or_concat scope).resolve_left hn
  rw [List.concat_eq_append] at *
  have hnm : (parents ++ [base] ++ rest).drop ((parents ++ [base]).length - 1) = base :: rest := by
    simp
  rw [hnm] at hc
  obtain ⟨front, file, hs, hf, hj⟩ := of_walked hc
  cases front with
  | nil =>
    obtain ⟨rfl, _⟩ := List.cons.inj hs
    exact absurd (by simp) hu.2
  | cons first front =>
    obtain ⟨rfl, rfl⟩ := List.cons.inj hs
    refine ⟨⟨parents ++ [base] ++ front, volumeName file⟩, List.prefix_append _ _, ?_, ?_⟩
    · simp only [Unreserved, List.mem_append, List.mem_cons, not_or] at hu hf ⊢
      tauto
    · simp [VolumeKey.manifest, volumeName_json hj]

theorem reclaimPolicy_eq_retain {e : Entry} :
    reclaimPolicy e = some "Retain" ↔ e = .manifest "Retain" := by
  cases e with
  | manifest policy => simp [reclaimPolicy]
  | dir => simp [reclaimPolicy]
  | document => simp [reclaimPolicy]
  | data content => simp [reclaimPolicy]

variable {leaves : List TreePath}

/-- The leaves are the manifests and the directories of the retained volumes. -/
theorem mem_collectRetained {scope leaf : TreePath}
    (hn : scope ≠ []) (hu : Unreserved scope) (hw : WellFormed tree)
    (hc : collectRetained tree scope = .ok leaves) :
    leaf ∈ leaves ↔
      ∃ volume, RetainedIn tree scope volume ∧ (leaf = volume.manifest ∨ leaf = volume.directory) := by
  unfold collectRetained at hc
  split at hc
  · cases hc
  · cases hc
    rw [List.mem_flatMap]
    constructor
    · rintro ⟨⟨path, e⟩, hf, hi⟩
      obtain ⟨hm, hp⟩ := List.mem_filter.mp hf
      simp only [Bool.and_eq_true, List.isPrefixOf_iff_prefix] at hp
      obtain ⟨volume, hun, hfr, rfl⟩ := exists_volume hn hu hp.1.1 hp.1.2
      split at hi
      · next hrt =>
          have hmr := reclaimPolicy_eq_retain.mp hrt
          dsimp only at hmr
          subst hmr
          refine ⟨volume, ⟨hun, hfr, hw volume hm, hm⟩, ?_⟩
          simpa [volumeOf_manifest] using hi
      · cases hi
    · rintro ⟨volume, hr, hi⟩
      refine ⟨_, mem_manifestsIn hn hr.under hr.unreserved hr.marked, ?_⟩
      rw [if_pos (reclaimPolicy_eq_retain.mpr rfl), volumeOf_manifest]
      simpa using hi

theorem mem_ancestors :
    path ∈ ancestors scope leaves ↔ scope <+: path ∧ ∃ leaf ∈ leaves, path <+: leaf.dropLast := by
  simp only [ancestors, List.mem_flatMap, List.mem_filter, List.mem_inits,
    List.isPrefixOf_iff_prefix]
  constructor
  · rintro ⟨leaf, hi, ha, hb⟩
    exact ⟨hb, leaf, hi, ha⟩
  · rintro ⟨hb, leaf, hi, ha⟩
    exact ⟨leaf, hi, ha, hb⟩

theorem mem_ancestors_of_along {scope path longer : TreePath}
    (hb : scope <+: path) (hal : path <+: longer) (ha : longer ∈ ancestors scope leaves) :
    path ∈ ancestors scope leaves := by
  obtain ⟨_, leaf, hi, ht⟩ := mem_ancestors.mp ha
  exact mem_ancestors.mpr ⟨hb, leaf, hi, hal.trans ht⟩

theorem mem_ancestors_of_leaf {scope path leaf : TreePath}
    (hb : scope <+: path) (hi : leaf ∈ leaves) (ha : path <+: leaf) (hs : path ≠ leaf) :
    path ∈ ancestors scope leaves := by
  refine mem_ancestors.mpr ⟨hb, leaf, hi, ?_⟩
  obtain ⟨rest, rfl⟩ := ha
  rw [List.dropLast_append_of_ne_nil (by simpa using hs)]
  exact List.prefix_append _ _

theorem survives_iff {scope : TreePath} (rest : List String) :
    ∀ {dir : TreePath}, scope <+: dir → (∀ leaf ∈ leaves, ¬ leaf <+: dir) →
      (survives leaves (ancestors scope leaves) dir rest = true ↔
        rest = [] ∨ (∃ leaf ∈ leaves, leaf <+: dir ++ rest) ∨
          dir ++ rest ∈ ancestors scope leaves) := by
  induction rest with
  | nil => simp [survives]
  | cons name rest ih =>
    intro dir hb ho
    have hsp : dir ++ name :: rest = (dir ++ [name]) ++ rest := by simp
    have hu : scope <+: dir ++ [name] := hb.trans (List.prefix_append _ _)
    rw [survives, hsp]
    by_cases hi : dir ++ [name] ∈ leaves
    · rw [if_pos hi]
      simp only [true_iff]
      exact .inr (.inl ⟨_, hi, List.prefix_append _ _⟩)
    · rw [if_neg hi]
      -- A leaf on the way to the entry begins below the name.
      have hl : ∀ leaf ∈ leaves, ¬ leaf <+: dir ++ [name] := by
        intro leaf hm hal
        rcases List.prefix_concat_iff.mp hal with rfl | hs
        · exact hi hm
        · exact ho leaf hm hs
      by_cases ha : dir ++ [name] ∈ ancestors scope leaves
      · rw [if_pos ha, ih hu hl]
        constructor
        · rintro (rfl | hd)
          · exact .inr (.inr (by simpa using ha))
          · exact .inr hd
        · rintro (hn | hd)
          · cases hn
          · exact .inr hd
      · rw [if_neg ha]
        simp only [Bool.false_eq_true, reduceCtorEq, false_or, false_iff, not_or, not_exists,
          not_and]
        constructor
        · intro leaf hm hal
          rcases List.prefix_or_prefix_of_prefix hal (List.prefix_append (dir ++ [name]) rest)
            with hs | hln
          · exact hl leaf hm hs
          · refine ha (mem_ancestors_of_leaf hu hm hln ?_)
            rintro rfl
            exact hi hm
        · intro hd
          exact ha (mem_ancestors_of_along hu (List.prefix_append _ _) hd)

/-- The retained volumes with their manifests, and the directories that lead to them. -/
def Preserved (tree : ScopeTree) (scope path : TreePath) : Prop :=
  ∃ volume, RetainedIn tree scope volume ∧ ∃ leaf, (leaf = volume.manifest ∨ leaf = volume.directory) ∧
    (leaf <+: path ∨ path <+: leaf.dropLast)

theorem RetainedIn.below {scope leaf : TreePath} {volume : VolumeKey}
    (hr : RetainedIn tree scope volume)
    (hi : leaf = volume.manifest ∨ leaf = volume.directory) :
    scope <+: leaf.dropLast ∧ leaf.dropLast ≠ leaf := by
  rcases hi with rfl | rfl
  · refine ⟨hr.under.trans ?_, ?_⟩
    · unfold VolumeKey.manifest
      rw [List.dropLast_append_of_ne_nil (by simp)]
      exact List.prefix_append _ _
    · simp [VolumeKey.manifest]
  · refine ⟨hr.under.trans ?_, ?_⟩
    · unfold VolumeKey.directory
      rw [List.dropLast_append_of_ne_nil (by simp)]
      exact List.prefix_append _ _
    · simp [VolumeKey.directory]

/-- With something retained, what the pruning keeps of a scope is what is to be preserved. -/
theorem keeps_iff
    (hn : scope ≠ []) (hu : Unreserved scope) (hw : WellFormed tree)
    (hc : collectRetained tree scope = .ok leaves) (hsm : leaves ≠ []) :
    keeps leaves (ancestors scope leaves) scope path = true ↔
      (scope <+: path → Preserved tree scope path) := by
  have hi : ∀ leaf, leaf ∈ leaves ↔ _ := fun leaf =>
    mem_collectRetained hn hu hw hc
  by_cases hb : scope <+: path
  · obtain ⟨rest, rfl⟩ := hb
    have ho : ∀ leaf ∈ leaves, ¬ leaf <+: scope := by
      intro leaf hm hal
      obtain ⟨volume, hr, hwh⟩ := (hi leaf).mp hm
      obtain ⟨hun, hs⟩ := hr.below hwh
      exact hs ((List.dropLast_prefix leaf).eq_of_length_le (hal.trans hun).length_le)
    rw [keeps_append, survives_iff rest (List.prefix_refl scope) ho]
    simp only [List.prefix_append, true_implies]
    constructor
    · rintro (rfl | ⟨leaf, hm, hal⟩ | ha)
      · obtain ⟨leaf, hm⟩ := List.exists_mem_of_ne_nil leaves hsm
        obtain ⟨volume, hr, hwh⟩ := (hi leaf).mp hm
        exact ⟨volume, hr, leaf, hwh, .inr (by simpa using (hr.below hwh).1)⟩
      · obtain ⟨volume, hr, hwh⟩ := (hi leaf).mp hm
        exact ⟨volume, hr, leaf, hwh, .inl hal⟩
      · obtain ⟨_, leaf, hm, hal⟩ := mem_ancestors.mp ha
        obtain ⟨volume, hr, hwh⟩ := (hi leaf).mp hm
        exact ⟨volume, hr, leaf, hwh, .inr hal⟩
    · rintro ⟨volume, hr, leaf, hwh, hal | hl⟩
      · exact .inr (.inl ⟨leaf, (hi leaf).mpr ⟨volume, hr, hwh⟩, hal⟩)
      · refine .inr (.inr (mem_ancestors.mpr ⟨List.prefix_append _ _, leaf, ?_, hl⟩))
        exact (hi leaf).mpr ⟨volume, hr, hwh⟩
  · simp [keeps_of_not_below hb, hb]

theorem length_le_depthOf {paths : List TreePath} {path : TreePath} (hm : path ∈ paths) :
    path.length ≤ depthOf paths :=
  List.le_sum_of_mem (List.mem_map_of_mem hm)

/-- The tree that a reclaim leaves, from the leaves that it has collected. -/
theorem reclaim_leaves {scope : TreePath}
    (hs : Yields (reclaimScopeMetadata broken scope) tree () after) :
    ∃ leaves, collectRetained tree scope = .ok leaves ∧
      after = if leaves = [] then tree.removeAll scope
        else tree.restrict (keeps leaves (ancestors scope leaves) scope) := by
  obtain ⟨_, ran⟩ := of_refuse (of_get hs)
  have ran := of_get ran
  obtain ⟨leaves, reached, hc, ran⟩ := ran.of_bind
  cases hf : collectRetained tree scope with
  | error e =>
    rw [hf] at hc
    cases hc
  | ok leaves =>
    rw [hf] at hc
    cases hc
    refine ⟨leaves, rfl, ?_⟩
    split at ran
    · next hn =>
        obtain ⟨_, ran⟩ := of_refuse ran
        cases ran
        rw [if_pos hn]
    · next hsm =>
        rw [if_neg hsm]
        refine leaves_pruneExcept broken _ ?_ tree _ _ ran
        intro path hm
        exact (length_le_depthOf hm).trans (Nat.le_add_left _ _)

theorem finalState_of_reclaim {scope : TreePath}
    (succeeded : Yields (reclaimScopeMetadata broken scope) tree () after) :
    finalState (Teardown.reclaimScopeMetadata scope) tree = after := by
  obtain ⟨leaves, collected, left⟩ := reclaim_leaves succeeded
  rw [finalState_reclaim, reclaimed, collected, left]
  rfl

/-- A reclaim that succeeds leaves of its scope what is to be preserved and nothing else. Without a
    retained volume nothing of the scope is left. -/
theorem reclaim_leaves_preserved {broken : TreePath → Bool} {tree after : ScopeTree}
    {scope : TreePath} (nonempty : scope ≠ []) (unreserved : Unreserved scope)
    (wellFormed : WellFormed tree)
    (succeeded : Yields (reclaimScopeMetadata broken scope) tree () after) :
    (∀ path e, (path, e) ∈ after ↔
      (path, e) ∈ tree ∧ (scope <+: path → Preserved tree scope path)) ∧
    ((∀ volume, ¬ RetainedIn tree scope volume) → ¬ isThere after scope) := by
  obtain ⟨leaves, hc, hl⟩ := reclaim_leaves succeeded
  have hi : ∀ leaf, leaf ∈ leaves ↔ _ := fun leaf =>
    mem_collectRetained nonempty unreserved wellFormed hc
  have he : ∀ path e, (path, e) ∈ after ↔
      (path, e) ∈ tree ∧ (scope <+: path → Preserved tree scope path) := by
    intro path e
    rw [hl]
    split
    · next hnn =>
        have hn : ¬ Preserved tree scope path := by
          rintro ⟨volume, hr, leaf, hw, _⟩
          have hm := (hi leaf).mpr ⟨volume, hr, hw⟩
          rw [hnn] at hm
          cases hm
        rw [FileTree.removeAll, FileTree.mem_restrict]
        simp [hn, ← Bool.not_eq_true]
    · next hs =>
        rw [FileTree.mem_restrict, keeps_iff nonempty unreserved wellFormed hc hs]
  refine ⟨he, ?_⟩
  intro hnn ht
  obtain ⟨⟨path, e⟩, hm, hb⟩ := List.any_eq_true.mp ht
  obtain ⟨volume, hr, _⟩ :=
    ((he path e).mp hm).2 (List.isPrefixOf_iff_prefix.mp hb)
  exact hnn volume hr

/-- A realm with a retained volume, a volume that is not, and a space. -/
def keptRealm : ScopeTree :=
  [(["r"], .dir), (["r", "metadata.json"], .document), (["r", "volumes"], .dir),
    (["r", "volumes", "db"], .dir), (["r", "volumes", "db", "rows"], .data "1"),
    (["r", "volumes", "tmp"], .dir), (["r", "volume-meta"], .dir),
    (["r", "volume-meta", "db.json"], .manifest "Retain"), (["r", "s"], .dir),
    (["r", "s", "metadata.json"], .document)]

theorem wellFormed_keptRealm : WellFormed keptRealm := by
  intro volume hm hr
  have hl : (volume.manifest.getLast?, Entry.manifest "Retain") ∈
      keptRealm.map fun entry => (entry.1.getLast?, entry.2) :=
    List.mem_map_of_mem hm
  have hn : volume.manifest.getLast? = some (volume.name ++ ".json") := by
    simp [VolumeKey.manifest]
  rw [hn] at hl
  simp only [List.mem_cons, List.not_mem_nil, or_false] at hr
  rcases hr with he | dot | hd
  · rw [he] at hl
    exact absurd hl (by decide)
  · rw [dot] at hl
    exact absurd hl (by decide)
  · rw [hd] at hl
    exact absurd hl (by decide)

/-- The directory of the volume that is not retained goes, and so does the space. -/
theorem keptRealm_leaves_preserved :
    ∃ after, Yields (reclaimScopeMetadata (fun _ => false) ["r"]) keptRealm () after ∧
      after.map Prod.fst = [["r"], ["r", "volumes"], ["r", "volumes", "db"],
        ["r", "volumes", "db", "rows"], ["r", "volume-meta"], ["r", "volume-meta", "db.json"]] ∧
      ∀ path e, (path, e) ∈ after ↔
        (path, e) ∈ keptRealm ∧ (["r"] <+: path → Preserved keptRealm ["r"] path) := by
  have ran : Yields (reclaimScopeMetadata (fun _ => false) ["r"]) keptRealm ()
      (finalState (reclaimScopeMetadata (fun _ => false) ["r"]) keptRealm) := by rfl
  refine ⟨_, ran, by decide +kernel, ?_⟩
  exact (reclaim_leaves_preserved (by decide) (by decide) wellFormed_keptRealm ran).1

end Walk

end Kukeon.Runner.Teardown
