import Kukeon.Controller.PurgeOutcome

/-! # Retained volumes under a purge

A purge keeps the volumes marked `Retain` wherever the selective reclaim is what removes a directory.
The delete that runs before it removes the whole directory of a space, and with it every volume of the
space and of stacks that are not listed.
-/

namespace Kukeon.Controller

open Effect Runner.Teardown

/-- No realm, space, stack or cell has the name of a directory for volumes, and no scope of a retained
    volume has. -/
structure Named (tree : ScopeTree) : Prop where
  scopes : ∀ dir name, Unreserved dir → dir.length < 4 → getScope tree (dir ++ [name]) = .found →
    Unreserved [name]
  volumes : ∀ volume : VolumeKey, volume.Retained tree → Unreserved volume.scope

/-- A volume at a realm, a space or a stack that is marked `Retain`. -/
structure RetainedVolume (tree : ScopeTree) (volume : VolumeKey) : Prop where
  depth : volume.scope ≠ [] ∧ volume.scope.length ≤ 3
  retained : volume.Retained tree

def Unchanged (volume : VolumeKey) (before after : ScopeTree) : Prop :=
  ∀ path, volume.Holds path → after.read path = before.read path

def RetainedSurvive (before after : ScopeTree) : Prop :=
  ∀ volume, RetainedVolume before volume → Unchanged volume before after

structure Intact (volume : VolumeKey) (before tree : ScopeTree) : Prop where
  shrunk : ∀ path e, tree.read path = some e → before.read path = some e
  unchanged : Unchanged volume before tree

theorem Intact.refl (volume : VolumeKey) (tree : ScopeTree) : Intact volume tree tree :=
  ⟨fun _ _ ht => ht, fun _ _ => rfl⟩

def Visited (dir : TreePath) : Prop := Unreserved dir ∧ dir ≠ []

theorem unreserved_append {a b : TreePath} :
    Unreserved (a ++ b) ↔ Unreserved a ∧ Unreserved b := by
  simp only [Unreserved, List.mem_append, not_or]
  tauto

variable {volume : VolumeKey}

theorem Intact.restrict {before tree : ScopeTree} {keep : TreePath → Bool}
    (hi : Intact volume before tree) (hk : ∀ path, volume.Holds path → keep path = true) :
    Intact volume before (tree.restrict keep) := by
  refine ⟨?_, ?_⟩
  · intro path e ht
    exact hi.shrunk path e (FileTree.read_of_restrict ht).2
  · intro path hh
    rw [FileTree.read_restrict_of_keep (hk path hh)]
    exact hi.unchanged path hh

theorem Intact.retained {before tree : ScopeTree} (hi : Intact volume before tree)
    (hr : volume.Retained before) : volume.Retained tree :=
  (hi.unchanged _ (.inl rfl)).trans hr

theorem residue_of_retained {tree : ScopeTree} (hr : volume.Retained tree) :
    scanStackDirCellResidue tree volume.scope ≠ [] := by
  have ht : volumeMetaSubdir ∈ tree.readDir volume.scope := FileTree.mem_readDir_of_read hr
  refine List.ne_nil_of_mem (List.mem_filter.mpr ⟨ht, ?_⟩)
  decide

theorem intact_sheltered {tree : ScopeTree} (named : Named tree)
    (isRetained : RetainedVolume tree volume) :
    Sheltered (Intact volume tree) volume.Holds Visited where
  restrict _ _ hi hk := hi.restrict hk
  child later dir name hi hv hs hf := by
    have hb := getScope_found.mpr (hi.shrunk _ _ (getScope_found.mp hf))
    refine ⟨unreserved_append.mpr ⟨hv.1, ?_⟩, by simp⟩
    exact named.scopes dir name hv.1 hs hb
  files dir path hv hif := by
    refine VolumeKey.not_holds ?_
    rcases List.mem_cons.mp hif with rfl | hm
    · exact hv.1
    · rcases List.mem_cons.mp hm with rfl | hl
      · exact unreserved_append.mpr ⟨hv.1, by decide⟩
      · rw [List.mem_singleton.mp hl]
        exact unreserved_append.mpr ⟨hv.1, by decide⟩
  cell dir path hv depth hh hu := by
    have hsh := (VolumeKey.prefix_scope hv.1 hh hu).length_le
    have hs := isRetained.depth.2
    omega
  stack later dir path hi hv depth hn hh hu := by
    have ha := VolumeKey.prefix_scope hv.1 hh hu
    have hsm : dir = volume.scope :=
      ha.eq_of_length_le (by rw [depth]; exact isRetained.depth.2)
    rw [hsm] at hn
    exact residue_of_retained (hi.retained isRetained.retained) hn
  reclaim later dir hi hv := by
    obtain ⟨keep, hsm, hk⟩ := reclaimed_keeps hv.2 (named.volumes volume isRetained.retained)
      (hi.retained isRetained.retained) hv.1
    rw [hsm]
    exact hi.restrict hk

theorem gone_sheltered (path : TreePath) :
    Sheltered (fun tree => tree.read path = none) (fun _ => False) (fun _ => True) where
  restrict tree keep hg _ := by
    rw [FileTree.read_restrict, hg, ite_self]
  child _ _ _ _ _ _ _ := trivial
  files _ _ _ _ := id
  cell _ _ _ _ := False.elim
  stack _ _ _ _ _ _ _ := False.elim
  reclaim tree dir hg _ := by
    obtain ⟨keep, hs, _⟩ := exists_reclaimed tree dir
    rw [hs, FileTree.read_restrict, hg, ite_self]

section Purge

variable {tree : ScopeTree} {faults : HostFaults} {force cascade : Bool}

variable {volume : VolumeKey}

theorem purgeSpaceCascade_intact (hp : Proper tree) (named : Named tree) {space : TreePath}
    (hv : Visited space) (depth : space.length = 2)
    (hst : ¬ SpaceClears faults force cascade tree space)
    (isRetained : RetainedVolume tree volume) :
    Intact volume tree (finalState (purgeSpaceCascade faults force cascade space) tree) := by
  have hs := intact_sheltered named isRetained
  by_cases hfl : faults.connect = true ∨ faults.metadata space = true
  · exact holds_finalState
      (purgeSpaceCascade_keeps hs faults force cascade hv depth (.inl hfl))
      (Intact.refl volume tree)
  · -- Then it ends with its stacks, before the delete of the space.
    have hb : ∃ e, ending
        (withChildren force cascade space (purgeStackCascade faults force cascade)) tree =
          .error e := by
      simp only [not_or, Bool.not_eq_true] at hfl
      simp only [SpaceClears, hfl, and_self, and_true] at hst
      cases cascade with
      | true => exact (withChildren_settles (purgeStacks_loop depth) hp).fails hst
      | false => exact withoutChildren_settles.fails hst
    obtain ⟨e, hf⟩ := hb
    unfold purgeSpaceCascade
    rw [finalState_bind_of_fails hf]
    exact holds_finalState (purgeStacks_keeps hs faults force cascade hv depth)
      (Intact.refl volume tree)

theorem manifest_gone {dir : TreePath} (ha : dir <+: volume.scope) :
    (tree.removeAll dir).read volume.manifest = none := by
  have hu : dir <+: volume.manifest := ha.trans (List.prefix_append _ _)
  rw [FileTree.read_removeAll, if_pos hu]

theorem removeAll_intact {dir : TreePath} (hv : Visited dir) (ha : ¬ dir <+: volume.scope) :
    Intact volume tree (tree.removeAll dir) := by
  refine (Intact.refl volume tree).restrict ?_
  intro path hh
  have ho : ¬ dir <+: path := fun hu => ha (VolumeKey.prefix_scope hv.1 hh hu)
  simpa [← Bool.not_eq_true] using ho

/-- The spaces that the purge of a realm removes: those that get through up to the first that does
    not. -/
def purgedSpaces (faults : HostFaults) (force cascade : Bool) (tree : ScopeTree)
    (spaces : List TreePath) : List TreePath :=
  spaces.takeWhile fun space => SpaceClears faults force cascade tree space

theorem Named.restrict (named : Named tree) (keep : TreePath → Bool) :
    Named (tree.restrict keep) where
  scopes dir name unreserved hs hf :=
    named.scopes dir name unreserved hs
      (getScope_found.mpr (FileTree.read_of_restrict (getScope_found.mp hf)).2)
  volumes volume hr := named.volumes volume (FileTree.read_of_restrict hr).2

theorem purgedSpaces_congr {later : ScopeTree} {spaces : List TreePath}
    (hs : ∀ space ∈ spaces, (SpaceClears faults force cascade later space ↔
      SpaceClears faults force cascade tree space)) :
    purgedSpaces faults force cascade later spaces =
      purgedSpaces faults force cascade tree spaces := by
  unfold purgedSpaces
  induction spaces with
  | nil => rfl
  | cons space rest ih =>
    have hf := hs space List.mem_cons_self
    rw [List.takeWhile_cons, List.takeWhile_cons, decide_eq_decide.mpr hf,
      ih fun other hm => hs other (List.mem_cons_of_mem _ hm)]

theorem Intact.trans {before middle after : ScopeTree} (hf : Intact volume before middle)
    (hs : Intact volume middle after) : Intact volume before after :=
  ⟨fun path e ht => hf.shrunk path e (hs.shrunk path e ht),
    fun path hh => (hs.unchanged path hh).trans (hf.unchanged path hh)⟩

structure LostWith (spaces : List TreePath) (volume : VolumeKey) (before after : ScopeTree) : Prop where
  spared : (∀ space ∈ spaces, ¬ space <+: volume.scope) → Intact volume before after
  lost : (∃ space ∈ spaces, space <+: volume.scope) → after.read volume.manifest = none

/-- A loop over spaces loses exactly the retained volumes in those that it removes. -/
theorem purgeSpaces_outcome {realm : TreePath} (depth : realm.length = 1)
    (unreserved : Unreserved realm) {spaces : List TreePath} (hds : spaces.Nodup)
    (hg : ProperRealm realm tree) (named : Named tree) (isRetained : RetainedVolume tree volume)
    (hl : ∀ space ∈ spaces, getScope tree space = .found ∧ ∃ name, space = realm ++ [name]) :
    LostWith (purgedSpaces faults force cascade tree spaces) volume tree
      (finalState (spaces.forM (purgeSpaceCascade faults force cascade)) tree) := by
  induction spaces generalizing tree with
  | nil => exact ⟨fun _ => Intact.refl volume tree, by simp [purgedSpaces]⟩
  | cons space rest ih =>
    obtain ⟨hfn, a, rfl⟩ := hl _ List.mem_cons_self
    obtain ⟨hfr, hd⟩ := List.nodup_cons.mp hds
    have hlp : ChildLoop realm (purgeSpaceCascade faults force cascade)
        (SpaceClears faults force cascade) (ProperRealm realm) := purgeSpaces_loop depth
    have hst := hlp.each tree a hg hfn
    have hv : Visited (realm ++ [a]) := by
      refine ⟨unreserved_append.mpr ⟨unreserved, ?_⟩, by simp⟩
      exact named.scopes realm a unreserved (by omega) hfn
    rw [List.forM]
    unfold purgedSpaces
    rw [List.takeWhile_cons]
    by_cases hc : SpaceClears faults force cascade tree (realm ++ [a])
    · rw [if_pos (by simpa using hc), (hst.yields hc).finalState_bind]
      by_cases ha : realm ++ [a] <+: volume.scope
      · -- The volume went with this space.
        refine ⟨fun hs => absurd ha (hs _ List.mem_cons_self), fun _ => ?_⟩
        have hsy : Keeps (fun later => later.read volume.manifest = none)
            (rest.forM (purgeSpaceCascade faults force cascade)) := by
          refine keeps_forM ?_
          intro other hm
          obtain ⟨_, b, rfl⟩ := hl other (List.mem_cons_of_mem _ hm)
          exact purgeSpaceCascade_keeps (gone_sheltered _) faults force cascade trivial
            (by simp [depth]) (.inr fun _ => False.elim)
        exact holds_finalState hsy (manifest_gone ha)
      · have hk : Intact volume tree (tree.removeAll (realm ++ [a])) :=
          removeAll_intact hv ha
        have ho : ∀ other ∈ rest, ∃ b, a ≠ b ∧ other = realm ++ [b] ∧
            getScope tree other = .found := by
          intro other hm
          obtain ⟨ht, b, rfl⟩ := hl other (List.mem_cons_of_mem _ hm)
          refine ⟨b, ?_, rfl, ht⟩
          rintro rfl
          exact hfr hm
        have hsr : purgedSpaces faults force cascade (tree.removeAll (realm ++ [a])) rest =
            purgedSpaces faults force cascade tree rest := by
          refine purgedSpaces_congr ?_
          intro other hm
          obtain ⟨b, hap, rfl, _⟩ := ho other hm
          exact hlp.frame tree a b hg hfn hap
        obtain ⟨hs, hls⟩ := ih hd (hlp.kept tree a hg hfn)
          (named.restrict _) ⟨isRetained.depth, hk.retained isRetained.retained⟩ (by
            intro other hm
            obtain ⟨b, hap, rfl, ht⟩ := ho other hm
            rw [getScope_removeAll (not_prefix_sibling hap)]
            exact ⟨ht, b, rfl⟩)
        rw [hsr] at hs hls
        refine ⟨fun all => hk.trans (hs (List.forall_mem_cons.mp all).2), ?_⟩
        rintro ⟨other, hm, hu⟩
        rcases List.mem_cons.mp hm with rfl | later
        · exact absurd hu ha
        · exact hls ⟨other, later, hu⟩
    · obtain ⟨e, hf⟩ := hst.fails hc
      rw [if_neg (by simpa using hc), finalState_bind_of_fails hf]
      refine ⟨fun _ => ?_, by simp⟩
      exact purgeSpaceCascade_intact hg.1 named hv (by simp [depth]) hc isRetained

/-- A volume that is marked `Retain` at a scope or below it. -/
def RetainedBelow (tree : ScopeTree) (dir : TreePath) : Prop :=
  ∃ volume, RetainedVolume tree volume ∧ dir <+: volume.scope

theorem not_unchanged {after : ScopeTree} (isRetained : RetainedVolume tree volume)
    (hg : after.read volume.manifest = none) : ¬ Unchanged volume tree after := by
  intro hu
  have ht := hu _ (.inl rfl)
  rw [hg, isRetained.retained] at ht
  cases ht

theorem purgeStack_survive (named : Named tree) {stack : TreePath} (unreserved : Unreserved stack)
    (depth : stack.length = 3) :
    RetainedSurvive tree (finalState (purgeStack faults force cascade stack) tree) := by
  intro volume isRetained
  have hn : stack ≠ [] := by
    rintro rfl
    cases depth
  unfold purgeStack
  rw [Yields.finalState_bind (Yields.read tree)]
  cases getScope tree stack with
  | missing => exact fun _ _ => rfl
  | unreadable => exact fun _ _ => rfl
  | found =>
    have hk := purgeStackCascade_keeps (intact_sheltered named isRetained) faults force cascade
      ⟨unreserved, hn⟩ depth
    exact (holds_finalState hk (Intact.refl volume tree)).unchanged

theorem purgeSpace_survive_iff (hp : Proper tree) (named : Named tree) {space : TreePath}
    (unreserved : Unreserved space) (depth : space.length = 2) :
    RetainedSurvive tree (finalState (purgeSpace faults force cascade space) tree) ↔
      (getScope tree space = .found → SpaceClears faults force cascade tree space →
        ¬ RetainedBelow tree space) := by
  have hn : space ≠ [] := by
    rintro rfl
    cases depth
  unfold purgeSpace
  rw [Yields.finalState_bind (Yields.read tree)]
  cases hf : getScope tree space with
  | missing => exact iff_of_true (fun _ _ _ _ => rfl) nofun
  | unreadable => exact iff_of_true (fun _ _ _ _ => rfl) nofun
  | found =>
    by_cases hc : SpaceClears faults force cascade tree space
    · have ht : Yields (purgeSpaceCascade faults force cascade space) tree ()
          (tree.removeAll space) := (purgeSpaceCascade_settles depth hp hf).yields hc
      dsimp only
      rw [ht.finalState]
      constructor
      · rintro hs - - ⟨volume, isRetained, ha⟩
        exact not_unchanged isRetained (manifest_gone ha) (hs volume isRetained)
      · intro hnn volume isRetained
        have hap : ¬ space <+: volume.scope := fun ha =>
          hnn rfl hc ⟨volume, isRetained, ha⟩
        exact (removeAll_intact ⟨unreserved, hn⟩ hap).unchanged
    · refine iff_of_true ?_ (fun _ hi => absurd hi hc)
      intro volume isRetained
      exact (purgeSpaceCascade_intact hp named ⟨unreserved, hn⟩ depth hc
        isRetained).unchanged

def realmPurges (faults : HostFaults) (force cascade : Bool) (tree : ScopeTree)
    (realm : TreePath) : List TreePath :=
  if cascade then purgedSpaces faults force cascade tree (listScopes tree realm) else []

section Realm

variable {realm : TreePath} (depth : realm.length = 1) (unreserved : Unreserved realm)
  {volume : VolumeKey} (named : Named tree) (isRetained : RetainedVolume tree volume)

include depth unreserved named isRetained

variable (hg : ProperRealm realm tree)

include hg

theorem purgeRealmSpaces_outcome :
    LostWith (realmPurges faults force cascade tree realm) volume tree
      (finalState (withChildren force cascade realm (purgeSpaceCascade faults force cascade))
        tree) := by
  cases cascade with
  | true =>
    unfold withChildren
    rw [Yields.finalState_bind (Yields.read tree)]
    exact purgeSpaces_outcome depth unreserved nodup_listScopes hg named isRetained
      fun _ => mem_listScopes.mp
  | false =>
    refine ⟨fun _ => ?_, by simp [realmPurges]⟩
    exact holds_finalState (withoutChildren_keeps realm _) (Intact.refl volume tree)

theorem deleteRealmCascade_intact {later : ScopeTree}
    (hp : Yields (withChildren force cascade realm (purgeSpaceCascade faults force cascade)) tree
      () later) (hi : Intact volume tree later) :
    Intact volume tree (finalState (deleteRealmCascade faults force cascade realm) later) := by
  have hv : Visited realm := ⟨unreserved, by rintro rfl; cases depth⟩
  have hd := deleteRealm_keeps (intact_sheltered named isRetained) faults hv
  cases cascade with
  | true =>
    have hs : Settles (withChildren force true realm (purgeSpaceCascade faults force true))
        tree _ () (cleared tree (listScopes tree realm)) :=
      withChildren_settles (purgeSpaces_loop depth) hg
    have hsm : later = cleared tree (listScopes tree realm) := by
      by_cases hc : ∀ space ∈ listScopes tree realm, SpaceClears faults force true tree space
      · rw [← hp.finalState, (hs.yields hc).finalState]
      · obtain ⟨e, hf⟩ := hs.fails hc
        rw [hp.ending] at hf
        cases hf
    subst hsm
    unfold deleteRealmCascade
    rw [(withChildren_none listScopes_cleared).finalState_bind]
    exact holds_finalState hd hi
  | false =>
    exact holds_finalState
      (deleteRealmCascade_keeps (intact_sheltered named isRetained) faults force false hv
        (withoutChildren_keeps realm _)) hi

theorem purgeRealmCascade_outcome :
    LostWith (realmPurges faults force cascade tree realm) volume tree
      (finalState (purgeRealmCascade faults force cascade true realm) tree) := by
  have hv : Visited realm := ⟨unreserved, by rintro rfl; cases depth⟩
  have hf : LostWith (realmPurges faults force cascade tree realm) volume tree
      (finalState (withChildren force cascade realm (purgeSpaceCascade faults force cascade)) tree) :=
    purgeRealmSpaces_outcome depth unreserved named isRetained hg
  unfold purgeRealmCascade
  rw [if_pos rfl]
  cases he : ending
      (withChildren force cascade realm (purgeSpaceCascade faults force cascade)) tree with
  | error e =>
    rw [finalState_bind_of_fails he]
    exact hf
  | ok =>
    have hp : Yields
        (withChildren force cascade realm (purgeSpaceCascade faults force cascade)) tree ()
        (finalState
          (withChildren force cascade realm (purgeSpaceCascade faults force cascade)) tree) :=
      Prod.ext he rfl
    rw [hp.finalState_bind, (Yields.attempted _ _).finalState_bind]
    constructor
    · intro hsp
      exact holds_finalState (purgeRealm_keeps (intact_sheltered named isRetained) faults hv)
        (deleteRealmCascade_intact depth unreserved named isRetained hg hp
          (hf.spared hsp))
    · intro hsm
      have hs := gone_sheltered volume.manifest
      have hsc : Keeps (fun later => later.read volume.manifest = none)
          (withChildren force cascade realm (deleteSpaceCascade faults force cascade)) := by
        refine withChildren_keeps hs force cascade trivial (by omega) ?_
        intro space _ hd
        exact deleteSpaceCascade_keeps hs faults force cascade trivial (by omega)
          (.inr fun _ => False.elim)
      exact holds_finalState (purgeRealm_keeps hs faults trivial)
        (holds_finalState (deleteRealmCascade_keeps hs faults force cascade trivial hsc)
          (hf.lost hsm))

end Realm

theorem purgeRealm_survive_iff (hp : Proper tree) (named : Named tree) {realm : TreePath}
    (unreserved : Unreserved realm) (depth : realm.length = 1) :
    RetainedSurvive tree (finalState (purgeRealm faults force cascade realm) tree) ↔
      (getScope tree realm = .found → ∀ space ∈ realmPurges faults force cascade tree realm,
        ¬ RetainedBelow tree space) := by
  have hv : Visited realm := ⟨unreserved, by rintro rfl; cases depth⟩
  unfold purgeRealm
  rw [Yields.finalState_bind (Yields.read tree)]
  cases hf : getScope tree realm with
  | missing =>
    refine iff_of_true ?_ nofun
    intro volume isRetained
    have hk := purgeRealm_keeps (intact_sheltered named isRetained) faults hv
    exact (holds_finalState hk (Intact.refl volume tree)).unchanged
  | unreadable => exact iff_of_true (fun _ _ _ _ => rfl) nofun
  | found =>
    have ho : ∀ volume, RetainedVolume tree volume →
        LostWith (realmPurges faults force cascade tree realm) volume tree
          (finalState (purgeRealmCascade faults force cascade true realm) tree) :=
      fun _ isRetained =>
        purgeRealmCascade_outcome depth unreserved named isRetained ⟨hp, hf⟩
    constructor
    · rintro hs - space hr ⟨volume, isRetained, ha⟩
      exact not_unchanged isRetained ((ho volume isRetained).lost ⟨space, hr, ha⟩)
        (hs volume isRetained)
    · intro hn volume isRetained
      refine ((ho volume isRetained).spared ?_).unchanged
      intro space hr ha
      exact hn rfl space hr ⟨volume, isRetained, ha⟩

end Purge

/-- A purge of a stack keeps every retained volume. A purge of a space loses exactly those at the space
    or below when it gets through, and a purge of a realm those in the spaces that it removes. -/
theorem retained_volumes_survive_purge_iff (tree : ScopeTree) (proper : Proper tree)
    (named : Named tree) (faults : HostFaults) (force cascade : Bool) (realm space stack : String)
    (unreserved : Unreserved [realm, space, stack]) :
    RetainedSurvive tree (finalState (purgeStack faults force cascade [realm, space, stack]) tree) ∧
    (RetainedSurvive tree (finalState (purgeSpace faults force cascade [realm, space]) tree) ↔
      (getScope tree [realm, space] = .found →
        SpaceClears faults force cascade tree [realm, space] →
          ¬ RetainedBelow tree [realm, space])) ∧
    (RetainedSurvive tree (finalState (purgeRealm faults force cascade [realm]) tree) ↔
      (getScope tree [realm] = .found →
        ∀ removed ∈ realmPurges faults force cascade tree [realm],
          ¬ RetainedBelow tree removed)) := by
  have ho : Unreserved [realm, space] :=
    (unreserved_append.mp (show Unreserved ([realm, space] ++ [stack]) from unreserved)).1
  have hor : Unreserved [realm] :=
    (unreserved_append.mp (show Unreserved ([realm] ++ [space]) from ho)).1
  exact ⟨purgeStack_survive named unreserved rfl,
    purgeSpace_survive_iff proper named ho rfl, purgeRealm_survive_iff proper named hor rfl⟩

def realmTree : ScopeTree :=
  [ (["prod", metadataFile], .document),
    (["prod", volumeMetaSubdir, "db.json"], .manifest "Retain"),
    (["prod", volumesSubdir, "db", "rows"], .data "1"),
    (["prod", "web", metadataFile], .document) ]

theorem realmTree_proper : Proper realmTree := by
  intro path e ht _ name rest
  cases hb : realmTree.read (path ++ name :: rest) with
  | none => rfl
  | some other =>
    have hu := FileTree.mem_of_read ht
    have hl := FileTree.mem_of_read hb
    simp only [realmTree, List.mem_cons, Prod.mk.injEq, List.not_mem_nil, or_false] at hu hl
    rcases hu with ⟨rfl, _⟩ | ⟨rfl, _⟩ | ⟨rfl, _⟩ | ⟨rfl, _⟩ <;>
      simp [metadataFile, volumeMetaSubdir, volumesSubdir] at hl

theorem realmTree_scope (hr : volume.Retained realmTree) : volume.scope = ["prod"] := by
  have ht := FileTree.mem_of_read hr
  simp only [realmTree, List.mem_cons, Prod.mk.injEq, reduceCtorEq, and_false, false_or, and_true,
    List.not_mem_nil, or_false] at ht
  have hs := congrArg (fun path => path.dropLast.dropLast) ht
  simpa [VolumeKey.manifest, List.dropLast_append_of_ne_nil] using hs

theorem realmTree_named : Named realmTree where
  scopes dir name _ _ hf := by
    have ht := FileTree.mem_of_read (getScope_found.mp hf)
    simp only [realmTree, List.mem_cons, Prod.mk.injEq, reduceCtorEq, and_false, false_or, and_true,
      List.not_mem_nil, or_false] at ht
    have hi : name = "prod" ∨ name = "web" := by
      rcases ht with hs | hs
      · exact .inl (by simpa using congrArg (fun path => path.dropLast.getLast?) hs)
      · exact .inr (by simpa using congrArg (fun path => path.dropLast.getLast?) hs)
    rcases hi with rfl | rfl <;> decide
  volumes volume hr := by
    rw [realmTree_scope hr]
    decide

theorem retained_volumes_survive_purge_of_realm :
    realmPurges {} false true realmTree ["prod"] = [["prod", "web"]] ∧
      RetainedSurvive realmTree (finalState (purgeRealm {} false true ["prod"]) realmTree) := by
  have hp : realmPurges {} false true realmTree ["prod"] = [["prod", "web"]] := by decide
  refine ⟨hp, (retained_volumes_survive_purge_iff realmTree realmTree_proper realmTree_named {}
    false true "prod" "web" "blue" (by decide)).2.2.mpr ?_⟩
  rw [hp]
  rintro - removed hi ⟨volume, isRetained, ha⟩
  rw [List.mem_singleton.mp hi, realmTree_scope isRetained.retained] at ha
  exact absurd ha (by decide)

/-- A space with a retained volume, and a stack with one and with a cell that has the name of the
    directory for volumes. -/
def spaceTree : ScopeTree :=
  [ (["prod", metadataFile], .document),
    (["prod", "web", metadataFile], .document),
    (["prod", "web", volumeMetaSubdir, "db.json"], .manifest "Retain"),
    (["prod", "web", volumesSubdir, "db", "rows"], .data "1"),
    (["prod", "web", "blue", metadataFile], .document),
    (["prod", "web", "blue", volumeMetaSubdir, "logs.json"], .manifest "Retain"),
    (["prod", "web", "blue", volumesSubdir, "logs", "today"], .data "2"),
    (["prod", "web", "blue", volumesSubdir, metadataFile], .document) ]

/-- A forced purge of the space takes its retained volume away, manifest and all. A purge of the stack
    with its cells takes the directory of the volumes for the one of the cell. -/
theorem purge_loses_retained_volumes :
    let space := finalState (purgeSpace {} true false ["prod", "web"]) spaceTree
    let stack := finalState (purgeStack {} false true ["prod", "web", "blue"]) spaceTree
    spaceTree.read ["prod", "web", volumeMetaSubdir, "db.json"] = some (.manifest "Retain") ∧
      space.read ["prod", "web", volumeMetaSubdir, "db.json"] = none ∧
      space.read ["prod", "web", volumesSubdir, "db", "rows"] = none ∧
      spaceTree.read ["prod", "web", "blue", volumeMetaSubdir, "logs.json"] =
        some (.manifest "Retain") ∧
      stack.read ["prod", "web", "blue", volumesSubdir, "logs", "today"] = none := by
  decide

end Kukeon.Controller
