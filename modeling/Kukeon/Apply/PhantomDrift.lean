import Kukeon.Apply.Agreement

/-! # Drift between equal cells

Two cells decoded from one text are equal by value, but each decoding allocates its own volume
references. `DiffCell` finds them equal exactly when every pair of containers it compares holds
its references at the same addresses.
-/

namespace Kukeon.Apply

open ModelHub

def refAddr (mount : VolumeMount) : Option Addr := mount.volumeRef.map Ptr.addr

/-- The mounts of the two containers hold their references at the same addresses. -/
def SameRefs (desired actual : ContainerSpec) : Prop :=
  desired.volumes.map refAddr = actual.volumes.map refAddr

/-- Every pair of containers that the diff compares shares its references. -/
structure SharedRefs (desired actual : List ContainerSpec) : Prop where
  root : ∀ d a, findRootContainer desired = some d → findRootContainer actual = some a →
    SameRefs d a
  children : ∀ id d a, childByID desired id = some d → childByID actual id = some a →
    SameRefs d a

theorem VolumeMount.eq_of_deref {a b : VolumeMount} (hv : a.deref = b.deref)
    (ha : refAddr a = refAddr b) : a = b := by
  obtain ⟨kind, source, target, ref, readOnly, size, mode, ensure⟩ := a
  obtain ⟨kind', source', target', ref', readOnly', size', mode', ensure'⟩ := b
  simp only [VolumeMount.deref, refAddr, VolumeMount.mk.injEq] at hv ha
  obtain ⟨rfl, rfl, rfl, hr, rfl, rfl, rfl, rfl⟩ := hv
  cases ref with
  | none =>
    cases ref' with
    | none => rfl
    | some p => simp at ha
  | some p =>
    cases ref' with
    | none => simp at ha
    | some q =>
      obtain ⟨addr, val⟩ := p
      obtain ⟨addr', val'⟩ := q
      simp_all

theorem volumes_eq_iff {a b : List VolumeMount}
    (hv : a.map VolumeMount.deref = b.map VolumeMount.deref) :
    a = b ↔ a.map refAddr = b.map refAddr := by
  constructor
  · intro hs
    rw [hs]
  · intro ha
    induction a generalizing b with
    | nil => simpa using hv
    | cons x xs ih =>
      cases b with
      | nil => simp at hv
      | cons y ys =>
        simp only [List.map_cons, List.cons.injEq] at hv ha
        rw [VolumeMount.eq_of_deref hv.1 ha.1, ih hv.2 ha.2]

theorem findRootContainer_deref (containers : List ContainerSpec) :
    findRootContainer (containers.map ContainerSpec.deref) =
      (findRootContainer containers).map ContainerSpec.deref := by
  rw [findRootContainer, List.find?_map]
  rfl

theorem childByID_deref (containers : List ContainerSpec) (id : String) :
    childByID (containers.map ContainerSpec.deref) id =
      (childByID containers id).map ContainerSpec.deref := by
  rw [childByID, childContainers, List.filter_map, Keyed.find, ← List.map_reverse,
    List.find?_map]
  rfl

theorem diffedFields_deref (spec : ContainerSpec) :
    diffedFields spec.deref = diffedFields spec := rfl

/-- Containers equal by value differ, for the diff, in nothing but their addresses. -/
theorem diffedSame_iff_sameRefs {desired actual : ContainerSpec}
    (hv : desired.deref = actual.deref) :
    DiffedSame desired actual ↔ SameRefs desired actual := by
  have hvl : desired.volumes.map VolumeMount.deref = actual.volumes.map VolumeMount.deref :=
    congrArg ContainerSpec.volumes hv
  constructor
  · intro hs
    exact (volumes_eq_iff hvl).mp hs.volumes
  · intro hr
    refine ⟨?_, (volumes_eq_iff hvl).mpr hr, Or.inr ?_⟩
    · rw [← diffedFields_deref, hv, diffedFields_deref]
    · have hd : desired.deref.cniConfigPath = actual.deref.cniConfigPath := by rw [hv]
      exact hd

theorem map_deref_eq_some {desired actual : Option ContainerSpec} {d : ContainerSpec}
    (hv : desired.map ContainerSpec.deref = actual.map ContainerSpec.deref)
    (hfn : desired = some d) : ∃ a, actual = some a ∧ d.deref = a.deref := by
  subst hfn
  obtain ⟨a, hf, hs⟩ := Option.map_eq_some_iff.mp hv.symm
  exact ⟨a, hf, hs.symm⟩

/-- Between cells equal by value the diff is silent exactly when they carry one name and the
    containers it compares hold their volume references at the same addresses. -/
theorem diffCell_silent_iff_sharedRefs (desired actual : Cell)
    (specs : desired.spec.deref = actual.spec.deref)
    (labels : filterManagedLabels desired.metadata.labels =
      filterManagedLabels actual.metadata.labels) :
    (diffCell desired actual).hasChanges = false ↔
      desired.metadata.name = actual.metadata.name ∧
        SharedRefs desired.spec.containers actual.spec.containers := by
  obtain ⟨-, hr, hs, hsn, -, tty, hcn, ha, hn, -⟩ :=
    CellSpec.mk.inj specs
  have hrt : (findRootContainer desired.spec.containers).map ContainerSpec.deref =
      (findRootContainer actual.spec.containers).map ContainerSpec.deref := by
    rw [← findRootContainer_deref, hcn, findRootContainer_deref]
  have hc : ∀ id, (childByID desired.spec.containers id).map ContainerSpec.deref =
      (childByID actual.spec.containers id).map ContainerSpec.deref := by
    intro id
    rw [← childByID_deref, hcn, childByID_deref]
  rw [diffCell_hasChanges_eq_false]
  constructor
  · intro hag
    refine ⟨hag.identity.name, ?_, ?_⟩
    · intro d a hf hfa
      obtain ⟨a', hfn, hsm⟩ := hag.root d hf
      obtain rfl : a = a' := Option.some.inj (hfa.symm.trans hfn)
      obtain ⟨a', hfn, hv⟩ := map_deref_eq_some hrt hf
      obtain rfl : a = a' := Option.some.inj (hfa.symm.trans hfn)
      exact (diffedSame_iff_sameRefs hv).mp hsm
    · intro id d a hf hfa
      obtain ⟨a', hfn, hsm⟩ := hag.children id d hf
      obtain rfl : a = a' := Option.some.inj (hfa.symm.trans hfn)
      obtain ⟨a', hfn, hv⟩ := map_deref_eq_some (hc id) hf
      obtain rfl : a = a' := Option.some.inj (hfa.symm.trans hfn)
      exact (diffedSame_iff_sameRefs hv).mp hsm
  · intro ⟨hnm, hsh⟩
    refine ⟨⟨hnm, hr, hs, hsn⟩, ?_, by rw [tty], ha, hn,
      ?_, ?_, ?_⟩
    · rw [userLabelsEqual, labels]
      exact mapsEqual_refl _
    · intro d hf
      obtain ⟨a, hfa, hv⟩ := map_deref_eq_some hrt hf
      exact ⟨a, hfa, (diffedSame_iff_sameRefs hv).mpr (hsh.root d a hf hfa)⟩
    · intro id d hf
      obtain ⟨a, hfa, hv⟩ := map_deref_eq_some (hc id) hf
      exact ⟨a, hfa,
        (diffedSame_iff_sameRefs hv).mpr (hsh.children id d a hf hfa)⟩
    · intro id a hfa
      obtain ⟨d, hf, -⟩ := map_deref_eq_some (hc id).symm hfa
      simp [hf]

namespace VolumeByReference

/-- One decoding of a document whose workload mounts a named volume. -/
def decoded (decode : Nat) : Cell where
  metadata := { name := "web" }
  spec :=
    { id := "web", realmName := "r", spaceName := "s", stackName := "t"
      containers :=
        [ { id := "app"
            image := "nginx"
            volumes :=
              [ { kind := .volume
                  target := "/data"
                  volumeRef := some { addr := { decode := decode }, val := { name := "data" } } } ] } ] }

end VolumeByReference

/-- Cells that share their references are silent in the diff. -/
theorem diffCell_silent_on_itself :
    (diffCell (VolumeByReference.decoded 1) (VolumeByReference.decoded 1)).hasChanges = false :=
  (diffCell_silent_iff_sharedRefs (VolumeByReference.decoded 1) (VolumeByReference.decoded 1)
    (by decide) (by decide)).mpr
    ⟨rfl, ⟨fun d a hf hfa => by
        obtain rfl : d = a := Option.some.inj (hf.symm.trans hfa)
        rfl,
      fun id d a hf hfa => by
        obtain rfl : d = a := Option.some.inj (hf.symm.trans hfa)
        rfl⟩⟩

/-- A document decoded twice differs from itself when it mounts a volume by reference. -/
theorem diffCell_redecoded_drifts :
    (VolumeByReference.decoded 1).spec.deref = (VolumeByReference.decoded 2).spec.deref ∧
      filterManagedLabels (VolumeByReference.decoded 1).metadata.labels =
        filterManagedLabels (VolumeByReference.decoded 2).metadata.labels ∧
      (diffCell (VolumeByReference.decoded 1) (VolumeByReference.decoded 2)).hasChanges = true := by
  decide

end Kukeon.Apply
