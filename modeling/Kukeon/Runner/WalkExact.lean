import Kukeon.Runner.CreatedTree

/-! # The walkers list what was created

Over the tree of a history of creates, `childScopeNames` lists the scopes that were created in a
scope, and `ListVolumes` and `ListSecrets` list the volumes and the secrets that were created in the
scope of their filter or below it, each once. This needs the names to be plain: a space with the name
of the directory of the secrets is not found, and its document is listed as a secret.
-/

namespace Kukeon.Runner.Walkers

open GoText Effect Teardown Volumes

section Entries

variable {creates : List Create} {scope : TreePath} {e : Entry}

variable {subdir : String}

theorem documents_unreserved : ∀ name ∈ [metadataFile, metadataLock, networkConflist],
    name ∉ reservedScopeSubdirs := by decide

inductive InResources (creates : List Create) (scope : TreePath) (subdir : String) :
    TreePath → Entry → Prop where
  | itself : InResources creates scope subdir [] .dir
  | secret {name content : String} : subdir = secretsSubdir → (scope, name) ∈ secretsOf creates →
      InResources creates scope subdir [name] (.data content)
  | volume {name : String} : subdir = volumesSubdir → (scope, name) ∈ volumesOf creates →
      InResources creates scope subdir [name] .dir
  | manifest {name policy : String} : subdir = volumeMetaSubdir →
      InResources creates scope subdir [name] (.manifest policy)
  | terminal : scope.length = 4 → InResources creates scope subdir [containerTTYDir] .dir
  | agent : scope.length = 4 → subdir ≠ secretsSubdir →
      InResources creates scope subdir [attachableMetadataFile] (.data "")

theorem split_one {first subdir : String} {more rest : TreePath}
    (hs : [first] = more ++ subdir :: rest) : more = [] ∧ first = subdir ∧ rest = [] := by
  cases more with
  | nil =>
    obtain ⟨hsm, hn⟩ := List.cons.inj hs
    exact ⟨rfl, hsm, hn.symm⟩
  | cons _ more => simp at hs

/-- Of two names the first is that of the directory, or else it ends the scope. -/
theorem split_two {first second subdir : String} {more rest : TreePath}
    (hs : [first, second] = more ++ subdir :: rest) :
    (more = [] ∧ first = subdir ∧ rest = [second]) ∨ more = [first] := by
  cases more with
  | nil =>
    obtain ⟨hsm, hl⟩ := List.cons.inj hs
    exact .inl ⟨rfl, hsm, hl.symm⟩
  | cons name more =>
    obtain ⟨rfl, hl⟩ := List.cons.inj hs
    obtain ⟨rfl, _, _⟩ := split_one hl
    exact .inr rfl

variable (hh : Hierarchy creates)

include hh

/-- A scope on the way to a directory of resources lies above it. -/
theorem above_reserved {owner tail rest : TreePath}
    (ht : scope ∈ scopesOf creates) (hr : subdir ∈ reservedScopeSubdirs)
    (hi : owner ∈ scopesOf creates) (hsm : owner ++ tail = scope ++ subdir :: rest) :
    ∃ more, scope = owner ++ more ∧ tail = more ++ subdir :: rest := by
  rcases List.append_eq_append_iff.mp hsm with ⟨more, rfl, rfl⟩ | ⟨more, rfl, hs⟩
  · exact ⟨more, rfl, rfl⟩
  · cases more with
    | nil => exact ⟨[], by simp, by simpa using hs.symm⟩
    | cons first more =>
      obtain ⟨rfl, _⟩ := List.cons.inj hs
      refine absurd hr (hh.unreserved _ hi subdir ?_)
      rw [List.tail_append_of_ne_nil (hh.nonempty scope ht)]
      simp

theorem not_reserved_last {owner : TreePath}
    (hi : owner ∈ scopesOf creates) (hr : subdir ∈ reservedScopeSubdirs) :
    owner ++ [subdir] ∉ scopesOf creates := by
  intro ht
  refine hh.unreserved _ ht subdir ?_ hr
  rw [List.tail_append_of_ne_nil (hh.nonempty owner hi)]
  simp

/-- An entry below a directory of resources is that of a resource. -/
theorem inResources_of_owned (hth : scope ∈ scopesOf creates)
    (hr : subdir ∈ reservedScopeSubdirs) {rest : TreePath}
    (ho : Owned creates (scope ++ subdir :: rest) e) :
    InResources creates scope subdir rest e := by
  generalize hf : scope ++ subdir :: rest = path at ho
  have hl := fun {owner tail : TreePath} (hi : owner ∈ scopesOf creates)
    (hsm : owner ++ tail = scope ++ subdir :: rest) =>
      above_reserved hh hth hr hi hsm
  cases ho with
  | scope his =>
    obtain ⟨more, _, hs⟩ := hl his (by rw [List.append_nil]; exact hf.symm)
    cases more <;> cases hs
  | document hi hk _ =>
    obtain ⟨more, rfl, hs⟩ := hl hi hf.symm
    obtain ⟨_, rfl, _⟩ := split_one hs
    exact absurd hr (documents_unreserved _ hk)
  | resources hi _ =>
    obtain ⟨more, rfl, hs⟩ := hl hi hf.symm
    obtain ⟨_, _, rfl⟩ := split_one hs
    exact .itself
  | @secret owner name content hm =>
    obtain ⟨more, rfl, hs⟩ := hl (hh.secrets _ hm).1 hf.symm
    rcases split_two hs with ⟨rfl, hsm, rfl⟩ | rfl
    · exact .secret hsm.symm (by simpa using hm)
    · exact absurd hth (not_reserved_last hh (hh.secrets _ hm).1 (by decide))
  | @volume owner name hm =>
    obtain ⟨more, rfl, hs⟩ := hl (hh.volumes _ hm).1 hf.symm
    rcases split_two hs with ⟨rfl, hsm, rfl⟩ | rfl
    · exact .volume hsm.symm (by simpa using hm)
    · exact absurd hth (not_reserved_last hh (hh.volumes _ hm).1 (by decide))
  | manifest hi =>
    obtain ⟨more, rfl, hs⟩ := hl hi hf.symm
    rcases split_two hs with ⟨_, hsm, rfl⟩ | rfl
    · exact .manifest hsm.symm
    · exact absurd hth (not_reserved_last hh hi (by decide))
  | container hic _ =>
    obtain ⟨more, rfl, hs⟩ := hl hic hf.symm
    obtain ⟨_, _, rfl⟩ := split_one hs
    exact .itself
  | terminal hic hd =>
    obtain ⟨more, rfl, hs⟩ := hl hic hf.symm
    rcases split_two hs with ⟨rfl, _, rfl⟩ | rfl
    · exact .terminal (by simpa using hd)
    · have ht := hh.depth _ hth
      rw [List.length_append, List.length_singleton] at ht
      omega
  | agent hic hd other =>
    obtain ⟨more, rfl, hs⟩ := hl hic hf.symm
    rcases split_two hs with ⟨rfl, hsm, rfl⟩ | rfl
    · exact .agent (by simpa using hd) (hsm ▸ other)
    · have ht := hh.depth _ hth
      rw [List.length_append, List.length_singleton] at ht
      omega

/-- A directory in the directory of a scope above the cells is a scope, if its name is not reserved. -/
theorem scope_of_owned (ht : scope ∈ scopesOf creates)
    (hsh : scope.length ≤ 3) {name : String} (hu : name ∉ reservedScopeSubdirs)
    (ho : Owned creates (scope ++ [name]) .dir) : scope ++ [name] ∈ scopesOf creates := by
  generalize hf : scope ++ [name] = path at ho
  cases ho with
  | scope hi => exact hi
  | document _ _ hfl => exact absurd rfl hfl
  | resources _ hr =>
    have hs := (List.append_inj' hf rfl).2
    exact absurd (List.singleton_inj.mp hs ▸ hr) hu
  | @volume owner volume hm =>
    have hsp : owner ++ [volumesSubdir, volume] = owner ++ [volumesSubdir] ++ [volume] := by simp
    rw [hsp] at hf
    have hs := (List.append_inj' hf rfl).1
    exact absurd (hs ▸ ht) (not_reserved_last hh (hh.volumes _ hm).1 (by decide))
  | container _ hd =>
    have hs := (List.append_inj' hf rfl).1
    rw [hs] at hsh
    omega
  | @terminal cell id _ hd =>
    have hl := congrArg List.length hf
    simp only [List.length_append, List.length_cons, List.length_nil] at hl
    omega

end Entries

section Walks

variable {creates : List Create} {tree : ScopeTree}

variable {path : TreePath}

theorem isDir_iff : isDir tree path = true ↔ tree.read path = some .dir := by
  simp [isDir]

theorem nodup_childScopeNames (dir : TreePath) (want : String) :
    (childScopeNames tree dir want).Nodup := by
  unfold childScopeNames
  split
  · split
    · exact List.nodup_singleton want
    · exact List.nodup_nil
  · exact FileTree.nodup_readDir.filter _

def children (tree : ScopeTree) (path : TreePath) (want : Option String) : List String :=
  childScopeNames tree path (want.getD "")

theorem nodup_children (path : TreePath) (want : Option String) : (children tree path want).Nodup :=
  nodup_childScopeNames path (want.getD "")

theorem nodup_resolveRealmDirs (realm : String) : (resolveRealmDirs tree realm).Nodup := by
  unfold resolveRealmDirs
  split
  · split
    · exact List.nodup_singleton realm
    · exact List.nodup_nil
  · exact FileTree.nodup_readDir.filter _

/-- The scopes that a listing visits: those of its filter and below, down to a depth. -/
def visited (tree : ScopeTree) (depth : Nat) (filter : TreePath) : List TreePath :=
  (resolveRealmDirs tree (filter.getD 0 "")).flatMap fun realm =>
    Descent.visits (children tree) depth [realm] filter.tail

theorem nodup_visited (depth : Nat) (filter : TreePath) : (visited tree depth filter).Nodup := by
  refine List.nodup_flatMap.mpr ⟨?_, ?_⟩
  · intro realm _
    exact Descent.nodup_visits (fun path => nodup_children path none)
      (fun path name => nodup_children path (some name)) depth
  · refine (nodup_resolveRealmDirs _).imp fun {realm other} hd => ?_
    intro path hh ht
    have hb := Descent.prefix_of_mem_visits depth hh
    have ho := Descent.prefix_of_mem_visits depth ht
    have hs := List.prefix_of_prefix_length_le hb ho (by simp)
    exact hd (List.cons_prefix_cons.mp hs).1

variable (hr : Reflects creates tree)

include hr

theorem Reflects.isDir_scope (ht : path ∈ scopesOf creates) :
    isDir tree path = true :=
  isDir_iff.mpr (hr.present.dir path (.inl ht))

/-- The children of a scope are the scopes that were created in it. -/
theorem mem_childScopeNames {dir : TreePath}
    (ht : dir ∈ scopesOf creates) (hs : dir.length ≤ 3) {name : String} :
    name ∈ childScopeNames tree dir "" ↔ dir ++ [name] ∈ scopesOf creates := by
  unfold childScopeNames
  rw [if_neg (by decide), List.mem_filter, Bool.and_eq_true, Bool.not_eq_true',
    List.contains_eq_mem, decide_eq_false_iff_not]
  constructor
  · rintro ⟨_, hi, hu⟩
    exact scope_of_owned hr.hierarchy ht hs hu
      (hr.sound _ _ (isDir_iff.mp hi))
  · intro hc
    have hi := hr.isDir_scope hc
    refine ⟨FileTree.mem_readDir_of_read (isDir_iff.mp hi), hi, ?_⟩
    refine hr.hierarchy.unreserved _ hc name ?_
    rw [List.tail_append_of_ne_nil (hr.hierarchy.nonempty dir ht)]
    simp

theorem childScopeNames_one {dir : TreePath} {name : String}
    (hc : dir ++ [name] ∈ scopesOf creates) : childScopeNames tree dir name = [name] := by
  unfold childScopeNames
  rw [if_pos (hr.hierarchy.named _ hc name (by simp)), if_pos (hr.isDir_scope hc)]

theorem lists_children :
    Descent.Lists (children tree) (· ∈ scopesOf creates) 4 where
  closed := hr.hierarchy.closed
  nodup := fun path => nodup_children path none
  all := by
    intro path ht hs name
    exact mem_childScopeNames hr ht (by omega)
  one := by
    intro path name hc _
    exact childScopeNames_one hr hc

theorem mem_resolveRealmDirs {name : String} :
    name ∈ resolveRealmDirs tree "" ↔ [name] ∈ scopesOf creates := by
  unfold resolveRealmDirs
  rw [if_neg (by decide), List.mem_filter]
  constructor
  · rintro ⟨_, hi⟩
    have ho := hr.sound _ _ (isDir_iff.mp hi)
    generalize hf : [name] = path at ho
    have hl := congrArg List.length hf
    cases ho with
    | scope his => exact his
    | document _ _ hfl => exact absurd rfl hfl
    | @resources owner _ hio _ =>
      cases owner with
      | nil => exact absurd rfl (hr.hierarchy.nonempty [] hio)
      | cons first owner => simp at hl
    | volume _ => simp at hl
    | container _ hd =>
      rw [List.length_append, hd] at hl
      cases hl
    | terminal _ hd =>
      rw [List.length_append, hd] at hl
      cases hl
  · intro ht
    have hi := hr.isDir_scope ht
    exact ⟨FileTree.mem_readDir_of_read (isDir_iff.mp hi), hi⟩

theorem resolveRealmDirs_one {realm : String}
    (ht : [realm] ∈ scopesOf creates) : resolveRealmDirs tree realm = [realm] := by
  unfold resolveRealmDirs
  rw [if_pos (hr.hierarchy.named _ ht realm (by simp)), if_pos (hr.isDir_scope ht)]

/-- A listing visits the scopes that were created in the scope of its filter and below. -/
theorem mem_visited {depth : Nat} (hd : depth ≤ 3)
    {filter : TreePath} (hg : filter = [] ∨ filter ∈ scopesOf creates)
    (hs : filter.length ≤ depth + 1) :
    path ∈ visited tree depth filter ↔
      path ∈ scopesOf creates ∧ filter <+: path ∧ path.length ≤ depth + 1 := by
  have hw : ∀ {realm : String} {rest : TreePath}, rest.length ≤ depth → [realm].length + depth ≤ 4 →
      [realm] ++ rest ∈ scopesOf creates →
        (path ∈ Descent.visits (children tree) depth [realm] rest ↔
          path ∈ scopesOf creates ∧ [realm] ++ rest <+: path ∧ path.length ≤ [realm].length + depth) :=
    fun hb hlv ht => Descent.mem_visits (lists_children hr) depth (by simp) hb hlv
      ht
  unfold visited
  rw [List.mem_flatMap]
  cases filter with
  | nil =>
    constructor
    · rintro ⟨realm, hl, hm⟩
      have ht := (mem_resolveRealmDirs hr).mp hl
      obtain ⟨hi, _, hb⟩ := (hw (Nat.zero_le _) (by simp; omega) ht).mp hm
      exact ⟨hi, List.nil_prefix, by simpa [Nat.add_comm] using hb⟩
    · rintro ⟨hi, _, hb⟩
      cases path with
      | nil => exact absurd rfl (hr.hierarchy.nonempty [] hi)
      | cons realm rest =>
        have ht := hr.hierarchy.closed [realm] rest hi (by simp)
        refine ⟨realm, (mem_resolveRealmDirs hr).mpr ht, ?_⟩
        refine (hw (Nat.zero_le _) (by simp; omega) ht).mpr ⟨hi, ?_, ?_⟩
        · exact List.prefix_append [realm] rest
        · simpa [Nat.add_comm] using hb
  | cons realm rest =>
    have ht := hg.resolve_left (by simp)
    have hrt := hr.hierarchy.closed [realm] rest ht (by simp)
    have one : resolveRealmDirs tree ((realm :: rest).getD 0 "") = [realm] :=
      resolveRealmDirs_one hr hrt
    rw [one]
    simp only [List.mem_singleton, exists_eq_left, List.tail_cons]
    rw [hw (by simpa using hs) (by simp; omega) ht]
    simp [Nat.add_comm]

end Walks

section Secrets

variable {creates : List Create} {tree : ScopeTree}

def secretsIn (tree : ScopeTree) (scope : TreePath) : List SecretMetadata :=
  collectSecretsInScope tree (scope.getD 0 "") (scope.getD 1 "") (scope.getD 2 "") (scope.getD 3 "")

variable {scope : TreePath} {filter : TreePath}

theorem secretScopeDir_eq (hs : scope.length ≤ 4) (hn : ∀ component ∈ scope, component ≠ "") :
    secretScopeDir (scope.getD 0 "") (scope.getD 1 "") (scope.getD 2 "") (scope.getD 3 "") = scope := by
  match scope with
  | [] => simp [secretScopeDir]
  | [realm] => simp_all [secretScopeDir]
  | [realm, space] => simp_all [secretScopeDir]
  | [realm, space, stack] => simp_all [secretScopeDir]
  | [realm, space, stack, cell] => simp_all [secretScopeDir]
  | _ :: _ :: _ :: _ :: _ :: _ =>
    simp only [List.length_cons] at hs
    omega

theorem secretAt_scope {scope other : TreePath} {name otherName : String}
    (hn : ∀ component ∈ scope, component ≠ "") (hsh : scope.length ≤ 4)
    (ho : ∀ component ∈ other, component ≠ "") (hos : other.length ≤ 4)
    (hs : secretAt scope name = secretAt other otherName) : scope = other := by
  rw [← secretScopeDir_eq hsh hn, ← secretScopeDir_eq hos ho]
  simp only [secretAt, SecretMetadata.mk.injEq] at hs
  rw [hs.2.1, hs.2.2.1, hs.2.2.2.1, hs.2.2.2.2]

theorem head_getD (filter : TreePath) : filter.head?.getD "" = filter.getD 0 "" := by
  cases filter <;> rfl

theorem tail_getD (filter : TreePath) (i : Nat) : filter.tail.getD i "" = filter.getD (i + 1) "" := by
  cases filter <;> simp

/-- A coordinate is blank exactly when the filter does not reach so far. -/
theorem getD_eq_empty (hn : ∀ component ∈ filter, component ≠ "") :
    filter.getD 0 "" = "" ↔ filter = [] := by
  cases filter with
  | nil => simp
  | cons first rest => simpa using hn first (by simp)

theorem collectSecretSubtree_eq {realm : String} (hs : filter.length ≤ 3)
    (hn : ∀ component ∈ filter, component ≠ "") :
    collectSecretSubtree tree realm (filter.getD 0 "") (filter.getD 1 "") (filter.getD 2 "") =
      (Descent.visits (children tree) 3 [realm] filter).flatMap (secretsIn tree) := by
  have ht : ∀ component ∈ filter.tail, component ≠ "" :=
    fun component hm => hn component (List.mem_of_mem_tail hm)
  have hr : ∀ component ∈ filter.tail.tail, component ≠ "" :=
    fun component hm => ht component (List.mem_of_mem_tail hm)
  have hnn : filter.tail.tail.tail = [] := by
    rw [← List.length_eq_zero_iff]
    simp only [List.length_tail]
    omega
  simp only [Descent.flatMap_visits, Descent.flatMap_visits_zero, children, head_getD, tail_getD, hnn,
    ← getD_eq_empty hn, ← getD_eq_empty ht, ← getD_eq_empty hr]
  rfl

theorem listSecrets_eq (hs : filter.length ≤ 4) (hn : ∀ component ∈ filter, component ≠ "") :
    listSecrets tree (filter.getD 0 "") (filter.getD 1 "") (filter.getD 2 "") (filter.getD 3 "") =
      (visited tree 3 filter).flatMap (secretsIn tree) := by
  unfold listSecrets visited
  rw [List.flatMap_assoc]
  congr 1
  funext realm
  rw [← collectSecretSubtree_eq (by rw [List.length_tail]; omega)
    fun component hm => hn component (List.mem_of_mem_tail hm)]
  simp only [tail_getD]

variable (hr : Reflects creates tree) (ht : scope ∈ scopesOf creates)

include hr ht

theorem mem_secretNames {name : String} :
    (name ∈ tree.readDir (scope ++ [secretsSubdir]) ∧
        isDir tree (scope ++ [secretsSubdir] ++ [name]) = false ∧ isTemporary name = false) ↔
      (scope, name) ∈ secretsOf creates := by
  constructor
  · rintro ⟨hl, hn, _⟩
    obtain ⟨rest, e, hm⟩ := FileTree.mem_readDir.mp hl
    obtain ⟨found, hrd⟩ := FileTree.exists_read_of_mem hm
    rw [List.append_assoc, List.singleton_append] at hrd
    have hi := inResources_of_owned hr.hierarchy ht (by decide)
      (hr.sound _ _ hrd)
    have path : scope ++ [secretsSubdir] ++ [name] = scope ++ secretsSubdir :: [name] := by simp
    rw [path] at hn
    cases hi with
    | secret _ hmd => exact hmd
    | volume ho _ => exact absurd ho (by decide)
    | manifest ho => exact absurd ho (by decide)
    | terminal _ => rw [isDir_iff.mpr hrd] at hn; cases hn
    | agent _ other => exact absurd rfl other
  · intro hmd
    obtain ⟨content, hrd⟩ := hr.present.file _ ⟨_, hmd, rfl⟩
    have path : scope ++ [secretsSubdir, name] = scope ++ [secretsSubdir] ++ [name] := by simp
    rw [path] at hrd
    refine ⟨FileTree.mem_readDir_of_read hrd, ?_, (hr.hierarchy.secrets _ hmd).2⟩
    rw [← Bool.not_eq_true, isDir_iff, hrd]
    simp

theorem secretsIn_eq :
    secretsIn tree scope = ((tree.readDir (scope ++ [secretsSubdir])).filter fun name =>
      !isDir tree (scope ++ [secretsSubdir] ++ [name]) && !isTemporary name).map (secretAt scope) := by
  unfold secretsIn collectSecretsInScope
  rw [secretScopeDir_eq (hr.hierarchy.depth scope ht)
    (ne_empty_of_named hr.hierarchy ht)]
  rfl

theorem mem_secretsIn {secret : SecretMetadata} :
    secret ∈ secretsIn tree scope ↔
      ∃ name, (scope, name) ∈ secretsOf creates ∧ secret = secretAt scope name := by
  rw [secretsIn_eq hr ht, List.mem_map]
  simp only [List.mem_filter, Bool.and_eq_true, Bool.not_eq_true', mem_secretNames hr ht]
  constructor
  · rintro ⟨name, hm, rfl⟩
    exact ⟨name, hm, rfl⟩
  · rintro ⟨name, hm, rfl⟩
    exact ⟨name, hm, rfl⟩

theorem nodup_secretsIn :
    (secretsIn tree scope).Nodup := by
  rw [secretsIn_eq hr ht]
  refine (FileTree.nodup_readDir.filter _).map ?_
  intro name other hs
  exact congrArg SecretMetadata.name hs

end Secrets

section Volumes

variable {creates : List Create} {tree : ScopeTree}

def policyOf (tree : ScopeTree) (metadata : VolumeMetadata) : String :=
  (readVolumeReclaimPolicy tree metadata).toOption.getD ""

def volumesIn (tree : ScopeTree) (scope : TreePath) : List Volume :=
  ((tree.readDir (scope ++ [volumesSubdir])).filter fun name =>
    isDir tree (scope ++ [volumesSubdir] ++ [name])).map fun name =>
      { metadata := volumeAt scope name, reclaimPolicy := policyOf tree (volumeAt scope name) }

variable {scope : TreePath} {filter : TreePath}

theorem nodup_volumesIn (scope : TreePath) : ((volumesIn tree scope).map Volume.metadata).Nodup := by
  unfold volumesIn
  rw [List.map_map]
  refine (FileTree.nodup_readDir.filter _).map ?_
  intro name other hs
  exact congrArg VolumeMetadata.name hs

theorem unlessFurther_ok {coordinate : String} {own : Except VolumeError (List Volume)}
    {volumes : List Volume} (ok : own = .ok volumes) :
    unlessFurther coordinate own = .ok (if coordinate = "" then volumes else []) := by
  unfold unlessFurther
  split
  · exact ok
  · rfl

theorem volumeAt_inj {scope other : TreePath} {name otherName : String}
    (hn : scope ≠ []) (hs : scope.length ≤ 3)
    (hnm : ∀ component ∈ scope, component ≠ "") (ho : other ≠ [])
    (hos : other.length ≤ 3) (hon : ∀ component ∈ other, component ≠ "")
    (hsm : volumeAt scope name = volumeAt other otherName) : scope = other := by
  have hk : (volumeAt scope name).key.scope = (volumeAt other otherName).key.scope := by rw [hsm]
  rw [volumeAt_scope hn hs hnm, volumeAt_scope ho hos hon] at hk
  exact hk

variable (hr : Reflects creates tree)

include hr

theorem reclaimPolicy_ne_none (ht : scope ∈ scopesOf creates) (hs : scope.length ≤ 3)
    {file : String} {e : Entry} (hrd : tree.read (scope ++ volumeMetaSubdir :: [file]) = some e) :
    reclaimPolicy e ≠ none := by
  have hi := inResources_of_owned hr.hierarchy ht (by decide) (hr.sound _ _ hrd)
  cases hi with
  | secret ho _ => exact absurd ho (by decide)
  | volume ho _ => exact absurd ho (by decide)
  | manifest _ => simp [reclaimPolicy]
  | terminal _ => simp [reclaimPolicy]
  | agent hd _ => omega

theorem readVolumeReclaimPolicy_ok
    (ht : scope ∈ scopesOf creates) (hs : scope.length ≤ 3) (name : String) :
    readVolumeReclaimPolicy tree (volumeAt scope name) = .ok (policyOf tree (volumeAt scope name)) := by
  have hm : (volumeAt scope name).key.manifest =
      scope ++ volumeMetaSubdir :: [name ++ ".json"] := by
    rw [VolumeKey.manifest, volumeAt_scope (hr.hierarchy.nonempty scope ht) hs
      (ne_empty_of_named hr.hierarchy ht)]
    rfl
  unfold policyOf readVolumeReclaimPolicy
  rw [hm]
  cases hre : tree.read (scope ++ volumeMetaSubdir :: [name ++ ".json"]) with
  | none => rfl
  | some e =>
    have hrd := reclaimPolicy_ne_none hr ht hs hre
    dsimp only
    cases policy : reclaimPolicy e with
    | none => exact absurd policy hrd
    | some policy => rfl

theorem collectVolumesInScope_ok (ht : scope ∈ scopesOf creates) (hs : scope.length ≤ 3) :
    collectVolumesInScope tree (scope.getD 0 "") (scope.getD 1 "") (scope.getD 2 "") =
      .ok (volumesIn tree scope) := by
  have dir : volumeScopeDir (scope.getD 0 "") (scope.getD 1 "") (scope.getD 2 "") = scope :=
    @volumeAt_scope scope "" (hr.hierarchy.nonempty scope ht) hs
      (ne_empty_of_named hr.hierarchy ht)
  unfold collectVolumesInScope volumesIn
  rw [dir]
  refine Outcome.mapM_of_ok ?_
  intro name _
  have hp := readVolumeReclaimPolicy_ok hr ht hs name
  unfold volumeAt at hp ⊢
  dsimp only
  rw [hp]
  rfl

theorem mem_volumeNames (ht : scope ∈ scopesOf creates) (hsh : scope.length ≤ 3) {name : String} :
    (name ∈ tree.readDir (scope ++ [volumesSubdir]) ∧
        isDir tree (scope ++ [volumesSubdir] ++ [name]) = true) ↔
      (scope, name) ∈ volumesOf creates := by
  have path : scope ++ [volumesSubdir] ++ [name] = scope ++ volumesSubdir :: [name] := by simp
  constructor
  · rintro ⟨_, hi⟩
    rw [path] at hi
    have hin := inResources_of_owned hr.hierarchy ht (by decide)
      (hr.sound _ _ (isDir_iff.mp hi))
    cases hin with
    | volume _ hm => exact hm
    | terminal hd => omega
  · intro hm
    have hrd := hr.present.dir _ (.inr ⟨_, hm, rfl⟩)
    have hs : scope ++ [volumesSubdir, name] = scope ++ [volumesSubdir] ++ [name] := by simp
    rw [hs] at hrd
    exact ⟨FileTree.mem_readDir_of_read hrd, isDir_iff.mpr hrd⟩

theorem mem_volumesIn (ht : scope ∈ scopesOf creates)
    (hs : scope.length ≤ 3) {metadata : VolumeMetadata} :
    metadata ∈ (volumesIn tree scope).map Volume.metadata ↔
      ∃ name, (scope, name) ∈ volumesOf creates ∧ metadata = volumeAt scope name := by
  unfold volumesIn
  rw [List.map_map, List.mem_map]
  simp only [List.mem_filter, mem_volumeNames hr ht hs, Function.comp]
  constructor
  · rintro ⟨name, hm, rfl⟩
    exact ⟨name, hm, rfl⟩
  · rintro ⟨name, hm, rfl⟩
    exact ⟨name, hm, rfl⟩

theorem scope_of_child {dir : TreePath}
    (ht : dir ∈ scopesOf creates) (hs : dir.length ≤ 3) {want name : String}
    (hg : want = "" ∨ dir ++ [want] ∈ scopesOf creates)
    (hl : name ∈ childScopeNames tree dir want) : dir ++ [name] ∈ scopesOf creates := by
  rcases hg with rfl | hw
  · exact (mem_childScopeNames hr ht hs).mp hl
  · rw [childScopeNames_one hr hw, List.mem_singleton] at hl
    rw [hl]
    exact hw

theorem spaceVolumes_ok {realm space stack : String} (ht : [realm, space] ∈ scopesOf creates)
    (hg : stack = "" ∨ [realm, space, stack] ∈ scopesOf creates) :
    (do
      let own ← unlessFurther stack (collectVolumesInScope tree realm space "")
      let below ← (childScopeNames tree [realm, space] stack).mapM fun st =>
        collectVolumesInScope tree realm space st
      return own ++ below.flatten : Except VolumeError (List Volume)) =
      .ok ((if stack = "" then volumesIn tree [realm, space] else []) ++
        (childScopeNames tree [realm, space] stack).flatMap fun st =>
          volumesIn tree [realm, space, st]) := by
  have own : collectVolumesInScope tree realm space "" = .ok (volumesIn tree [realm, space]) := by
    have hc := collectVolumesInScope_ok hr ht (by simp)
    exact hc
  have he : ∀ st ∈ childScopeNames tree [realm, space] stack,
      collectVolumesInScope tree realm space st = .ok (volumesIn tree [realm, space, st]) := by
    intro st hl
    have hch := scope_of_child hr ht (by simp) hg hl
    have hc := collectVolumesInScope_ok hr hch (by simp)
    exact hc
  rw [unlessFurther_ok own, Outcome.mapM_of_ok he, List.flatMap_def]
  rfl

/-- The spaces that are gone into, and the stack that the filter names in them. -/
theorem space_of_listed {realm space : String}
    (hsh : filter.length ≤ 2) (ht : realm :: filter ∈ scopesOf creates)
    (hl : space ∈ childScopeNames tree [realm] (filter.getD 0 "")) :
    [realm, space] ∈ scopesOf creates ∧
      (filter.getD 1 "" = "" ∨ [realm, space, filter.getD 1 ""] ∈ scopesOf creates) := by
  cases filter with
  | nil =>
    have all : space ∈ childScopeNames tree [realm] "" := hl
    exact ⟨(mem_childScopeNames hr ht (by simp)).mp all, .inl rfl⟩
  | cons want rest =>
    have hw : [realm] ++ [want] ∈ scopesOf creates :=
      hr.hierarchy.closed [realm, want] rest ht (by simp)
    have hs : space ∈ childScopeNames tree [realm] want := hl
    rw [childScopeNames_one hr hw, List.mem_singleton] at hs
    subst hs
    refine ⟨hw, ?_⟩
    cases rest with
    | nil => exact .inl rfl
    | cons stack rest =>
      have hls : rest = [] := by
        rw [← List.length_eq_zero_iff]
        simp only [List.length_cons] at hsh
        omega
      subst hls
      exact .inr ht

theorem collectVolumeSubtree_ok {realm : String}
    (hs : filter.length ≤ 2) (hth : realm :: filter ∈ scopesOf creates) :
    collectVolumeSubtree tree realm (filter.getD 0 "") (filter.getD 1 "") =
      .ok ((Descent.visits (children tree) 2 [realm] filter).flatMap (volumesIn tree)) := by
  have hrt := hr.hierarchy.closed [realm] filter hth (by simp)
  have hn : ∀ component ∈ filter, component ≠ "" :=
    fun component hm => ne_empty_of_named hr.hierarchy hth component (by simp [hm])
  have ht : ∀ component ∈ filter.tail, component ≠ "" :=
    fun component hm => hn component (List.mem_of_mem_tail hm)
  have hnn : filter.tail.tail = [] := by
    rw [← List.length_eq_zero_iff]
    simp only [List.length_tail]
    omega
  have own : collectVolumesInScope tree realm "" "" = .ok (volumesIn tree [realm]) := by
    have hc := collectVolumesInScope_ok hr hrt (by simp)
    exact hc
  have hw : (Descent.visits (children tree) 2 [realm] filter).flatMap (volumesIn tree) =
      (if filter.getD 0 "" = "" then volumesIn tree [realm] else []) ++
        (childScopeNames tree [realm] (filter.getD 0 "")).flatMap fun space =>
          (if filter.getD 1 "" = "" then volumesIn tree [realm, space] else []) ++
            (childScopeNames tree [realm, space] (filter.getD 1 "")).flatMap fun stack =>
              volumesIn tree [realm, space, stack] := by
    simp only [Descent.flatMap_visits, Descent.flatMap_visits_zero, children, head_getD, tail_getD,
      hnn, ← getD_eq_empty hn, ← getD_eq_empty ht]
    rfl
  unfold collectVolumeSubtree
  rw [unlessFurther_ok own, Outcome.mapM_of_ok fun space hl =>
    spaceVolumes_ok hr (space_of_listed hr hs hth hl).1
      (space_of_listed hr hs hth hl).2, hw, List.flatMap_def]
  rfl

theorem listVolumes_ok (hg : filter = [] ∨ filter ∈ scopesOf creates) (hs : filter.length ≤ 3) :
    listVolumes tree (filter.getD 0 "") (filter.getD 1 "") (filter.getD 2 "") =
      .ok ((visited tree 2 filter).flatMap (volumesIn tree)) := by
  have he : ∀ realm ∈ resolveRealmDirs tree (filter.getD 0 ""),
      collectVolumeSubtree tree realm (filter.getD 1 "") (filter.getD 2 "") =
        .ok ((Descent.visits (children tree) 2 [realm] filter.tail).flatMap (volumesIn tree)) := by
    intro realm hl
    rw [← tail_getD, ← tail_getD]
    refine collectVolumeSubtree_ok hr (by rw [List.length_tail]; omega) ?_
    cases filter with
    | nil => exact (mem_resolveRealmDirs hr).mp hl
    | cons first rest =>
      have ht := hg.resolve_left (by simp)
      have one : resolveRealmDirs tree first = [first] :=
        resolveRealmDirs_one hr (hr.hierarchy.closed [first] rest ht (by simp))
      rw [show (first :: rest).getD 0 "" = first from rfl, one, List.mem_singleton] at hl
      rw [hl]
      exact ht
  unfold listVolumes visited
  rw [Outcome.mapM_of_ok he, List.flatMap_assoc, List.flatMap_def]
  rfl

end Volumes

/-- The walkers list what was created, each once: the child scopes of a scope, and the volumes and
    secrets of the scope of a filter and of the scopes below it. -/
structure Exact (creates : List Create) (tree : ScopeTree) : Prop where
  realms : (resolveRealmDirs tree "").Nodup ∧
    ∀ name, name ∈ resolveRealmDirs tree "" ↔ [name] ∈ scopesOf creates
  scopes : ∀ dir ∈ scopesOf creates, dir.length ≤ 3 → (childScopeNames tree dir "").Nodup ∧
    ∀ name, name ∈ childScopeNames tree dir "" ↔ dir ++ [name] ∈ scopesOf creates
  volumes : ∀ filter, filter = [] ∨ filter ∈ scopesOf creates → filter.length ≤ 3 →
    ∃ volumes, listVolumes tree (filter.getD 0 "") (filter.getD 1 "") (filter.getD 2 "") = .ok volumes ∧
      (volumes.map Volume.metadata).Nodup ∧
      ∀ metadata, metadata ∈ volumes.map Volume.metadata ↔
        ∃ volume ∈ volumesOf creates, filter <+: volume.1 ∧ metadata = volumeAt volume.1 volume.2
  secrets : ∀ filter, filter = [] ∨ filter ∈ scopesOf creates →
    (listSecrets tree (filter.getD 0 "") (filter.getD 1 "") (filter.getD 2 "") (filter.getD 3 "")).Nodup ∧
      ∀ secret, secret ∈
          listSecrets tree (filter.getD 0 "") (filter.getD 1 "") (filter.getD 2 "") (filter.getD 3 "") ↔
        ∃ made ∈ secretsOf creates, filter <+: made.1 ∧ secret = secretAt made.1 made.2

section Exactness

variable {creates : List Create} {tree : ScopeTree}

variable (hr : Reflects creates tree)

include hr

theorem nodup_listSecrets {scopes : List TreePath}
    (hds : scopes.Nodup) (hk : ∀ scope ∈ scopes, scope ∈ scopesOf creates) :
    (scopes.flatMap (secretsIn tree)).Nodup := by
  refine List.nodup_flatMap.mpr ⟨fun scope hm => nodup_secretsIn hr (hk scope hm), ?_⟩
  refine hds.imp_of_mem fun {scope other} hh ht hd => ?_
  intro secret hi hio
  obtain ⟨name, _, rfl⟩ := (mem_secretsIn hr (hk scope hh)).mp hi
  obtain ⟨otherName, _, hs⟩ := (mem_secretsIn hr (hk other ht)).mp hio
  refine hd (secretAt_scope ?_ ?_ ?_ ?_ hs)
  · exact ne_empty_of_named hr.hierarchy (hk scope hh)
  · exact hr.hierarchy.depth scope (hk scope hh)
  · exact ne_empty_of_named hr.hierarchy (hk other ht)
  · exact hr.hierarchy.depth other (hk other ht)

theorem nodup_listVolumes {scopes : List TreePath}
    (hds : scopes.Nodup) (hk : ∀ scope ∈ scopes, scope ∈ scopesOf creates ∧ scope.length ≤ 3) :
    ((scopes.flatMap (volumesIn tree)).map Volume.metadata).Nodup := by
  rw [List.map_flatMap]
  refine List.nodup_flatMap.mpr ⟨fun scope _ => nodup_volumesIn scope, ?_⟩
  refine hds.imp_of_mem fun {scope other} hh ht hd => ?_
  intro metadata his hin
  obtain ⟨hi, hs⟩ := hk scope hh
  obtain ⟨hio, ho⟩ := hk other ht
  obtain ⟨name, _, rfl⟩ := (mem_volumesIn hr hi hs).mp his
  obtain ⟨otherName, _, hsm⟩ := (mem_volumesIn hr hio ho).mp hin
  refine hd (volumeAt_inj ?_ hs ?_ ?_ ho ?_ hsm)
  · exact hr.hierarchy.nonempty scope hi
  · exact ne_empty_of_named hr.hierarchy hi
  · exact hr.hierarchy.nonempty other hio
  · exact ne_empty_of_named hr.hierarchy hio

theorem exact_of_reflects : Exact creates tree where
  realms := ⟨nodup_resolveRealmDirs "", fun _ => mem_resolveRealmDirs hr⟩
  scopes := fun dir ht hs =>
    ⟨nodup_childScopeNames dir "", fun _ => mem_childScopeNames hr ht hs⟩
  volumes := by
    intro filter hg hs
    have hv : ∀ path, path ∈ visited tree 2 filter ↔
        path ∈ scopesOf creates ∧ filter <+: path ∧ path.length ≤ 3 :=
      fun _ => mem_visited hr (by omega) hg hs
    refine ⟨_, listVolumes_ok hr hg hs, ?_, ?_⟩
    · refine nodup_listVolumes hr (nodup_visited 2 filter) ?_
      intro scope hm
      obtain ⟨hi, _, hbn⟩ := (hv scope).mp hm
      exact ⟨hi, hbn⟩
    · intro metadata
      rw [List.map_flatMap, List.mem_flatMap]
      constructor
      · rintro ⟨scope, hm, his⟩
        obtain ⟨hi, hb, hbn⟩ := (hv scope).mp hm
        obtain ⟨name, hmd, hsm⟩ := (mem_volumesIn hr hi hbn).mp his
        exact ⟨(scope, name), hmd, hb, hsm⟩
      · rintro ⟨⟨scope, name⟩, hmd, hb, hsm⟩
        obtain ⟨hi, hbn⟩ := hr.hierarchy.volumes _ hmd
        exact ⟨scope, (hv scope).mpr ⟨hi, hb, hbn⟩,
          (mem_volumesIn hr hi hbn).mpr ⟨name, hmd, hsm⟩⟩
  secrets := by
    intro filter hg
    have hs : filter.length ≤ 4 := by
      rcases hg with rfl | ht
      · simp
      · exact hr.hierarchy.depth filter ht
    have hn : ∀ component ∈ filter, component ≠ "" := by
      rcases hg with rfl | ht
      · simp
      · exact ne_empty_of_named hr.hierarchy ht
    have hv : ∀ path, path ∈ visited tree 3 filter ↔
        path ∈ scopesOf creates ∧ filter <+: path ∧ path.length ≤ 4 :=
      fun _ => mem_visited hr (le_refl 3) hg hs
    rw [listSecrets_eq hs hn]
    constructor
    · exact nodup_listSecrets hr (nodup_visited 3 filter) fun scope hm =>
        ((hv scope).mp hm).1
    · intro secret
      rw [List.mem_flatMap]
      constructor
      · rintro ⟨scope, hm, his⟩
        obtain ⟨hi, hb, _⟩ := (hv scope).mp hm
        obtain ⟨name, hmd, hsm⟩ := (mem_secretsIn hr hi).mp his
        exact ⟨(scope, name), hmd, hb, hsm⟩
      · rintro ⟨⟨scope, name⟩, hmd, hb, hsm⟩
        have hi := (hr.hierarchy.secrets _ hmd).1
        exact ⟨scope, (hv scope).mpr ⟨hi, hb, hr.hierarchy.depth scope hi⟩,
          (mem_secretsIn hr hi).mpr ⟨name, hmd, hsm⟩⟩

end Exactness

def treeAfter (creates : List Create) : ScopeTree :=
  creates.foldr (fun next tree => finalState next.perform tree) []

theorem history_next {creates : List Create} {next : Create}
    (hh : History creates (treeAfter creates))
    (hs : ending next.perform (treeAfter creates) = .ok ()) :
    History (next :: creates) (treeAfter (next :: creates)) :=
  .create hh (Prod.ext hs rfl)

def plainCreates : List Create :=
  [.volume ["r", "s"] "db" "Retain", .secret ["r", "s", "t", "c"] "token" "x",
    .scope ["r", "s", "t"] "c" ["app"], .scope ["r", "s"] "t" [], .scope ["r"] "s" [],
    .scope [] "r" []]

theorem history_plainCreates : History plainCreates (treeAfter plainCreates) :=
  history_next (history_next (history_next (history_next (history_next (history_next .start rfl) rfl)
    rfl) rfl) rfl) rfl

def secretsSpace : List Create := [.scope ["r"] "secrets" [], .scope [] "r" []]

end Kukeon.Runner.Walkers
