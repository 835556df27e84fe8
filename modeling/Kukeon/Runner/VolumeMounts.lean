import Kukeon.Runner.RetainedVolumes

/-! # Mounts of volumes

`ResolveVolumeMount` and `resolveVolumeMounts` of `internal/ctr/volume_ref.go`, and
`VolumeMountedByLiveCell` of `internal/controller/runner/volume.go`. A mount names a volume by its
coordinates or by a bare name, which is looked for in the scope of the container and then further up.
-/

namespace Kukeon.Runner.Volumes

open ModelHub Teardown

structure VolumeScope where
  realm : String := ""
  space : String := ""
  stack : String := ""
  deriving DecidableEq

def VolumeScope.volume (scope : VolumeScope) (name : String) : VolumeMetadata :=
  { name := name, realm := scope.realm, space := scope.space, stack := scope.stack }

/-- Deepest first. A level is left out if one of its coordinates is blank. -/
def volumeScopeCandidates (scope : VolumeScope) : List VolumeScope :=
  (if scope.realm ≠ "" ∧ scope.space ≠ "" ∧ scope.stack ≠ "" then
    [{ realm := scope.realm, space := scope.space, stack := scope.stack }] else []) ++
  (if scope.realm ≠ "" ∧ scope.space ≠ "" then
    [{ realm := scope.realm, space := scope.space }] else []) ++
  (if scope.realm ≠ "" then [{ realm := scope.realm }] else [])

def volumeOfRef (ref : VolumeRef) : VolumeMetadata :=
  { name := ref.name, realm := ref.realm, space := ref.space, stack := ref.stack }

structure ResolvedVolume where
  hostPath : TreePath
  volume : VolumeMetadata
  deriving DecidableEq

inductive ResolveError where
  | kindUnknown
  | refNotFound (ref : VolumeRef)
  | notFound (name : String) (scope : VolumeScope)
  deriving DecidableEq

/-- The volumes that a bare name may stand for, in the order they are looked for. -/
def volumesNamed (scope : VolumeScope) (name : String) : List VolumeMetadata :=
  (volumeScopeCandidates scope).map (·.volume name)

def resolveVolumeMount (tree : ScopeTree) (scope : VolumeScope) (mount : VolumeMount) :
    Except ResolveError ResolvedVolume :=
  if mount.kind ≠ .volume then .error .kindUnknown
  else
    match mount.volumeRef with
    | some ref =>
      if volumeDirExists tree (volumeOfRef ref.val) then
        .ok { hostPath := (volumeOfRef ref.val).key.directory, volume := volumeOfRef ref.val }
      else .error (.refNotFound ref.val)
    | none =>
      match (volumesNamed scope mount.source).find? (volumeDirExists tree) with
      | some volume => .ok { hostPath := volume.key.directory, volume := volume }
      | none => .error (.notFound mount.source scope)

/-- A mount of a container that was built. The host path that a resolved mount gets for a source is
    kept by its components. -/
inductive Bind where
  | declared (mount : VolumeMount)
  | volume (hostPath : TreePath) (mount : VolumeMount)
  deriving DecidableEq

def resolveVolumeMounts (tree : ScopeTree) (scope : VolumeScope) (mounts : List VolumeMount) :
    Except ResolveError (List Bind) :=
  mounts.mapM fun mount =>
    if mount.kind ≠ .volume then .ok (.declared mount)
    else
      (resolveVolumeMount tree scope mount).map fun resolved =>
        .volume resolved.hostPath { mount with volumeRef := none }

def Bind.directory : Bind → Option TreePath
  | .declared _ => none
  | .volume hostPath _ => some hostPath

def cellVolumeScope (cell : Cell) : VolumeScope :=
  { realm := cell.spec.realmName, space := cell.spec.spaceName, stack := cell.spec.stackName }

def cellScopedRef (scope : VolumeScope) (cellName : String) : String :=
  "/".intercalate ([scope.realm, scope.space, scope.stack, cellName].filter (· ≠ ""))

def volumeMounts (cell : Cell) : List VolumeMount :=
  cell.spec.containers.flatMap fun container =>
    container.volumes.filter fun mount => mount.kind = .volume

def IsLive (state : CellState) : Prop := state = .ready ∨ state = .degraded

instance (state : CellState) : Decidable (IsLive state) :=
  inferInstanceAs (Decidable (_ ∨ _))

def resolvesTo (tree : ScopeTree) (scope : VolumeScope) (target : VolumeMetadata)
    (mount : VolumeMount) : Bool :=
  match resolveVolumeMount tree scope mount with
  | .ok resolved => resolved.volume = target
  | .error _ => false

/-- The cells are those that are listed, each in the state on record. -/
def volumeMountedByLiveCell (tree : ScopeTree) (cells : List Cell) (target : VolumeMetadata) :
    Option String :=
  (cells.find? fun cell =>
    IsLive cell.status.state &&
      (volumeMounts cell).any (resolvesTo tree (cellVolumeScope cell) target)).map
    fun cell => cellScopedRef (cellVolumeScope cell) cell.metadata.name

def VolumeMetadata.Contiguous (md : VolumeMetadata) : Prop :=
  md.realm ≠ "" ∧ (md.stack ≠ "" → md.space ≠ "")

instance (md : VolumeMetadata) : Decidable md.Contiguous :=
  inferInstanceAs (Decidable (_ ∧ _))

variable {scope : VolumeScope} {md : VolumeMetadata} {tree : ScopeTree} {mount : VolumeMount}

theorem contiguous_of_mem_volumesNamed {name : String} (hm : md ∈ volumesNamed scope name) :
    md.Contiguous := by
  obtain ⟨candidate, hc, rfl⟩ := List.mem_map.mp hm
  unfold volumeScopeCandidates at hc
  unfold VolumeMetadata.Contiguous VolumeScope.volume
  grind

/-- Volumes without gaps in their coordinates do not share a directory. -/
theorem eq_of_directory {left right : VolumeMetadata} (hl : left.Contiguous)
    (hr : right.Contiguous) (hs : left.key.directory = right.key.directory) :
    left = right := by
  obtain ⟨scope, hn⟩ := List.append_inj' hs rfl
  have hnm : left.name = right.name := by simpa [VolumeMetadata.key] using hn
  unfold VolumeMetadata.Contiguous at hl hr
  simp only [VolumeMetadata.key, volumeScopeDir] at scope
  cases left
  cases right
  grind

/-- The volumes that a bare name is looked for in before it comes to the directory. -/
def askedBefore (scope : VolumeScope) (name : String) (directory : TreePath) :
    List VolumeMetadata :=
  (volumesNamed scope name).takeWhile fun volume => volume.key.directory ≠ directory

/-- The mount stands for the volume: it gives its coordinates, or it gives its name and there is no
    volume of that name that would be found before it. -/
def Names (tree : ScopeTree) (scope : VolumeScope) (mount : VolumeMount) (md : VolumeMetadata) :
    Prop :=
  mount.kind = .volume ∧
    match mount.volumeRef with
    | some ref => md = volumeOfRef ref.val
    | none => md ∈ volumesNamed scope mount.source ∧
        ∀ volume ∈ askedBefore scope mount.source md.key.directory,
          volumeDirExists tree volume = false

section Found

variable {tree : ScopeTree} {volumes : List VolumeMetadata} {md : VolumeMetadata}

theorem find_of_asked (hc : ∀ volume ∈ volumes, volume.Contiguous)
    (hmm : md ∈ volumes) (hf : volumeDirExists tree md = true)
    (hm : ∀ volume ∈ volumes.takeWhile fun volume => volume.key.directory ≠ md.key.directory,
      volumeDirExists tree volume = false) :
    volumes.find? (volumeDirExists tree) = some md := by
  induction volumes with
  | nil => cases hmm
  | cons volume rest ih =>
    by_cases hs : volume.key.directory = md.key.directory
    · have hfr : volume = md :=
        eq_of_directory (hc volume List.mem_cons_self) (hc md hmm) hs
      rw [hfr, List.find?_cons_of_pos hf]
    · rw [List.takeWhile_cons_of_pos (by simpa using hs)] at hm
      have ha := hm volume List.mem_cons_self
      rw [List.find?_cons_of_neg (by rw [ha]; exact Bool.false_ne_true)]
      refine ih (fun other hl => hc other (List.mem_cons_of_mem _ hl)) ?_
        fun other he => hm other (List.mem_cons_of_mem _ he)
      refine (List.mem_cons.mp hmm).resolve_left ?_
      rintro rfl
      exact hs rfl

theorem asked_of_find (hf : volumes.find? (volumeDirExists tree) = some md) :
    ∀ volume ∈ volumes.takeWhile fun volume => volume.key.directory ≠ md.key.directory,
      volumeDirExists tree volume = false := by
  induction volumes with
  | nil => simp
  | cons volume rest ih =>
    by_cases ht : volumeDirExists tree volume = true
    · rw [List.find?_cons_of_pos ht] at hf
      cases hf
      simp
    · rw [List.find?_cons_of_neg ht] at hf
      intro other he
      rw [List.takeWhile_cons] at he
      split at he
      · rcases List.mem_cons.mp he with rfl | hl
        · exact Bool.not_eq_true _ ▸ ht
        · exact ih hf other hl
      · cases he

end Found

/-- A mount resolves to the volume it stands for, if that is there. -/
theorem resolve_of_names (hnm : Names tree scope mount md)
    (hf : volumeDirExists tree md = true) :
    resolveVolumeMount tree scope mount = .ok { hostPath := md.key.directory, volume := md } := by
  obtain ⟨hk, hn⟩ := hnm
  unfold resolveVolumeMount
  rw [if_neg (not_not.mpr hk)]
  cases ref : mount.volumeRef with
  | some ref =>
    simp only [ref] at hn
    subst hn
    simp only [hf, if_true]
  | none =>
    simp only [ref] at hn
    have hfr := find_of_asked (fun _ hm => contiguous_of_mem_volumesNamed hm) hn.1
      hf hn.2
    simp only [hfr]

theorem names_of_resolve {resolved : ResolvedVolume}
    (ok : resolveVolumeMount tree scope mount = .ok resolved) :
    Names tree scope mount resolved.volume ∧
      resolved.hostPath = resolved.volume.key.directory := by
  unfold resolveVolumeMount at ok
  split at ok
  · cases ok
  next hk =>
      unfold Names
      refine and_assoc.mpr ⟨not_not.mp hk, ?_⟩
      cases ref : mount.volumeRef with
      | some ref =>
        simp only [ref] at ok ⊢
        split at ok
        · cases ok
          exact ⟨rfl, rfl⟩
        · cases ok
      | none =>
        simp only [ref] at ok ⊢
        split at ok
        next volume hf =>
            cases ok
            exact ⟨⟨List.mem_of_find?_eq_some hf, asked_of_find hf⟩, rfl⟩
        next => cases ok

/-- A mount that names a volume by a reference without gaps, or by a bare name. -/
def ContiguousRef (mount : VolumeMount) : Prop :=
  ∀ ref ∈ mount.volumeRef, (volumeOfRef ref.val).Contiguous

instance (mount : VolumeMount) : Decidable (ContiguousRef mount) :=
  match ref : mount.volumeRef with
  | none => isTrue fun _ given => by simp [ref] at given
  | some given => decidable_of_iff (volumeOfRef given.val).Contiguous (by simp [ContiguousRef, ref])

theorem Names.contiguous (hnm : Names tree scope mount md) (hr : ContiguousRef mount) :
    md.Contiguous := by
  obtain ⟨-, hn⟩ := hnm
  cases ref : mount.volumeRef with
  | some given =>
    simp only [ref] at hn
    rw [hn]
    exact hr given ref
  | none =>
    simp only [ref] at hn
    exact contiguous_of_mem_volumesNamed hn.1

theorem names_of_bound {mounts : List VolumeMount} {binds : List Bind} {path : TreePath}
    (hb : resolveVolumeMounts tree scope mounts = .ok binds)
    (hbn : path ∈ binds.filterMap Bind.directory) :
    ∃ mount ∈ mounts, ∃ md : VolumeMetadata, Names tree scope mount md ∧ md.key.directory = path := by
  obtain ⟨bind, hm, hi⟩ := List.mem_filterMap.mp hbn
  obtain ⟨mount, hd, hr⟩ :=
    Outcome.exists_left_of_forall₂ (Outcome.mapM_eq_ok.mp hb) hm
  refine ⟨mount, hd, ?_⟩
  split at hr
  · cases hr
    cases hi
  · cases ok : resolveVolumeMount tree scope mount with
    | error err =>
      rw [ok] at hr
      cases hr
    | ok resolved =>
      rw [ok] at hr
      cases hr
      cases hi
      obtain ⟨hn, hh⟩ := names_of_resolve ok
      exact ⟨resolved.volume, hn, hh.symm⟩

/-- The gate holds on to a volume that a cell on record as live has a mount for. -/
theorem mounted_of_names {cells : List Cell} {cell : Cell} (hl : cell ∈ cells)
    (hlv : IsLive cell.status.state) (hd : mount ∈ volumeMounts cell)
    (hn : Names tree (cellVolumeScope cell) mount md) (hf : volumeDirExists tree md = true) :
    (volumeMountedByLiveCell tree cells md).isSome = true := by
  unfold volumeMountedByLiveCell
  rw [Option.isSome_map, List.find?_isSome]
  refine ⟨cell, hl, ?_⟩
  rw [Bool.and_eq_true, decide_eq_true_eq, List.any_eq_true]
  refine ⟨hlv, mount, hd, ?_⟩
  unfold resolvesTo
  rw [resolve_of_names hn hf]
  exact decide_eq_true rfl

/-- A tree with no directory that was not there keeps what a mount stands for. -/
theorem Names.of_dirs {tree later : ScopeTree} (hnm : Names tree scope mount md)
    (hd : ∀ volume, mount.volumeRef = none →
      volume ∈ askedBefore scope mount.source md.key.directory →
      volumeDirExists later volume = true → volumeDirExists tree volume = true) :
    Names later scope mount md := by
  obtain ⟨hk, hn⟩ := hnm
  refine ⟨hk, ?_⟩
  cases ref : mount.volumeRef with
  | some given =>
    simp only [ref] at hn ⊢
    exact hn
  | none =>
    simp only [ref] at hn ⊢
    refine ⟨hn.1, ?_⟩
    intro volume ha
    rw [Bool.eq_false_iff]
    intro ht
    have hb := hd volume ref ha ht
    rw [hn.2 volume ha] at hb
    cases hb

end Kukeon.Runner.Volumes
