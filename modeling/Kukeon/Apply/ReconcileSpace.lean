import Kukeon.Apply.DiffSpec
import Kukeon.Runner.Space

/-! # Applying a space document

`ReconcileSpace` of `internal/controller/apply/reconcile.go` over a persisted space, and the
network passes that follow it. A pass re-asserts the egress policy of the document on disk, so
what an operator applied is enforced only if the apply stored it.
-/

namespace Kukeon.Apply

open ModelHub Runner GoText

inductive Lookup (α : Type) where
  | found (value : α)
  | notFound
  | failed (error : String)
  deriving DecidableEq

/-- What the runner answers during one apply of a space that does not come from the space's own
    document: the parent realm, the creation of a missing parent or space, and I/O failures. -/
structure SpaceRuntime where
  getRealm : Lookup Unit := .found ()
  createRealm : Except String Unit := .ok ()
  createSpace : Space → Except String Space := .ok
  readError : Option String := none
  rereadError : Option String := none
  writeError : Option String := none

inductive ApplyAction where
  | unchanged
  | created
  | updated
  deriving Repr, DecidableEq

structure SpaceOutcome where
  action : ApplyAction
  persisted : Space
  changes : List String := []
  details : GoMap String String := ∅

def ensureParentRealm (runtime : SpaceRuntime) (realmName : String) : Except String Unit :=
  match runtime.getRealm with
  | .found _ => .ok ()
  | .notFound =>
    match runtime.createRealm with
    | .ok _ => .ok ()
    | .error err =>
      .error ("failed to create parent realm " ++ quoted realmName ++ ": " ++ err)
  | .failed err => .error ("failed to get parent realm " ++ quoted realmName ++ ": " ++ err)

/-- `UpdateSpace` over the document on disk. -/
def updateSpace (runtime : SpaceRuntime) (existing desired : Space) : Except String Space :=
  match runtime.rereadError with
  | some err => .error ("failed to get space: " ++ err)
  | none =>
    match runtime.writeError, writeDocWithGeneration spaceAccess (some existing)
        (updatedSpace existing desired) with
    | none, .ok written => .ok written
    | some err, _ =>
      .error ("failed to update space metadata: failed to write metadata file: " ++ err)
    | none, .error _ =>
      .error ("failed to update space metadata: failed to write metadata file: " ++
        "metadata resource changed since prior read")

def reconcileSpace (runtime : SpaceRuntime) (disk : Option Space) (desired : Space) :
    Except String SpaceOutcome :=
  match ensureParentRealm runtime desired.spec.realmName with
  | .error err => .error err
  | .ok _ =>
    match runtime.readError, disk with
    | some err, _ => .error ("failed to get space: " ++ err)
    | none, none =>
      match runtime.createSpace desired with
      | .error err => .error ("failed to create space: " ++ err)
      | .ok created => .ok { action := .created, persisted := created }
    | none, some actual =>
      let diff := diffSpace desired actual
      if diff.hasChanges = false then .ok { action := .unchanged, persisted := actual }
      else if diff.isBreaking then
        .error ("space " ++ quoted desired.metadata.name ++ " has breaking changes: [" ++
          String.intercalate " " diff.breakingChanges ++
          "]. Delete the space and recreate it with the new spec")
      else
        match updateSpace runtime actual desired with
        | .error err => .error ("failed to update space: " ++ err)
        | .ok updated =>
          .ok
            { action := .updated
              persisted := updated
              changes := diff.changedFields
              details := diff.details }

/-- The document on disk after a sequence of network passes, each on the host as it found it. -/
def afterPasses (space : Space) (hosts : List SpaceHost) : Space :=
  hosts.foldl (fun current host => ensuredSpace host current) space

/-- Applying `desired` over `actual` reaches the enforced policy: whenever the apply succeeds the
    persisted network is the desired one, every later pass asserts the policy of the desired
    space, and the apply is not reported as unchanged when it edits the network. -/
def ReachesEnforcedPolicy (parseCIDR : String → Option String) (runtime : SpaceRuntime)
    (actual desired : Space) : Prop :=
  ∀ outcome, reconcileSpace runtime (some actual) desired = .ok outcome →
    outcome.persisted.spec.network = desired.spec.network ∧
      (∀ hosts, spaceEgressPolicy parseCIDR (afterPasses outcome.persisted hosts) =
        spaceEgressPolicy parseCIDR desired) ∧
      (outcome.action = .unchanged → actual.spec.network = desired.spec.network)

/-- The document leaves the space where it is: one name, one realm, and no other network config
    file asked for. -/
structure SameSpaceIdentity (desired actual : Space) : Prop where
  name : desired.metadata.name = actual.metadata.name
  realmName : desired.spec.realmName = actual.spec.realmName
  cniConfigPath :
    desired.spec.cniConfigPath = "" ∨ desired.spec.cniConfigPath = actual.spec.cniConfigPath

/-- Nothing refuses the apply: the parent realm is there or can be made, the document can be read,
    its identity stands, and an update that is needed can be written. -/
structure Applicable (runtime : SpaceRuntime) (actual desired : Space) : Prop where
  realm : ensureParentRealm runtime desired.spec.realmName = .ok ()
  read : runtime.readError = none
  identity : SameSpaceIdentity desired actual
  write : (spaceChecks desired actual).any FieldCheck.changed = true →
    runtime.rereadError = none ∧ runtime.writeError = none

theorem spaceIdentityChecks_none {desired actual : Space} :
    firstChange (spaceIdentityChecks desired actual) = none ↔
      SameSpaceIdentity desired actual := by
  rw [firstChange_eq_none]
  simp only [spaceIdentityChecks, textCheck, FieldCheck.at, List.mem_cons, List.not_mem_nil,
    or_false, forall_eq_or_imp, forall_eq, bne_eq_false_iff_eq, Bool.and_eq_false_iff]
  constructor
  · intro hs
    exact ⟨hs.1, hs.2.1, hs.2.2⟩
  · intro hs
    exact ⟨hs.name, hs.realmName, hs.cniConfigPath⟩

theorem firstChange_isBreaking {checks : List FieldCheck} {result : DiffResult}
    (hb : ∀ check ∈ checks, check.breaking = true)
    (he : firstChange checks = some result) : result.isBreaking = true := by
  obtain ⟨check, hf, rfl⟩ := Option.map_eq_some_iff.mp he
  have hbr := hb check (List.mem_of_find?_eq_some hf)
  simp [DiffResult.record, DiffResult.isBreaking, hbr]

theorem diffSpace_of_moved {desired actual : Space}
    (hm : ¬ SameSpaceIdentity desired actual) :
    (diffSpace desired actual).hasChanges = true ∧
      (diffSpace desired actual).isBreaking = true := by
  cases he : firstChange (spaceIdentityChecks desired actual) with
  | none => exact absurd (spaceIdentityChecks_none.mp he) hm
  | some result =>
    have hb : ∀ check ∈ spaceIdentityChecks desired actual, check.breaking = true := by
      simp [spaceIdentityChecks, textCheck, FieldCheck.at]
    have hi : diffSpace desired actual = result := by
      rw [diffSpace, he, Option.getD_some]
    rw [hi]
    exact ⟨firstChange_hasChanges he, firstChange_isBreaking hb he⟩

theorem diffSpace_of_same {desired actual : Space} (hs : SameSpaceIdentity desired actual) :
    (diffSpace desired actual).hasChanges =
        (spaceChecks desired actual).any FieldCheck.changed ∧
      (diffSpace desired actual).isBreaking = false := by
  have hn : diffSpace desired actual =
      DiffResult.checkAll {} (spaceChecks desired actual) := by
    rw [diffSpace, spaceIdentityChecks_none.mpr hs, Option.getD_none]
  rw [hn, DiffResult.hasChanges_checkAll, DiffResult.isBreaking_checkAll]
  simp [spaceChecks, blockCheck]

theorem updateSpace_ok {runtime : SpaceRuntime} (existing desired : Space)
    (hr : runtime.rereadError = none) (hw : runtime.writeError = none) :
    ∃ written, updateSpace runtime existing desired = .ok written := by
  have hf : ∃ written, writeDocWithGeneration spaceAccess (some existing)
      (updatedSpace existing desired) = .ok written := by
    simp [writeDocWithGeneration, spaceAccess, updatedSpace]
  obtain ⟨written, hwr⟩ := hf
  exact ⟨written, by simp [updateSpace, hr, hw, hwr]⟩

theorem updateSpace_spec {runtime : SpaceRuntime} {existing desired written : Space}
    (hu : updateSpace runtime existing desired = .ok written) :
    runtime.rereadError = none ∧ runtime.writeError = none ∧
      written.metadata.name = existing.metadata.name ∧
      written.spec = { existing.spec with defaults := desired.spec.defaults } := by
  unfold updateSpace at hu
  split at hu
  · cases hu
  · next hr =>
      split at hu
      · next hw hwr =>
          cases hu
          rw [(writeDocWithGeneration_some hwr).2]
          exact ⟨hr, hw, rfl, rfl⟩
      · cases hu
      · cases hu

/-- What a successful apply over an existing space leaves on disk. -/
theorem reconcileSpace_spec {runtime : SpaceRuntime} {actual desired : Space}
    {outcome : SpaceOutcome}
    (ha : reconcileSpace runtime (some actual) desired = .ok outcome) :
    Applicable runtime actual desired ∧
      outcome.persisted.metadata.name = actual.metadata.name ∧
      outcome.persisted.spec.realmName = actual.spec.realmName ∧
      outcome.persisted.spec.network = actual.spec.network := by
  unfold reconcileSpace at ha
  split at ha
  · cases ha
  · next _ hrl =>
      have hs : SameSpaceIdentity desired actual := by
        by_contra hm
        obtain ⟨hc, hb⟩ := diffSpace_of_moved hm
        cases hr : runtime.readError <;> simp [hr, hc, hb] at ha
      obtain ⟨hch, hml⟩ := diffSpace_of_same hs
      cases hr : runtime.readError with
      | some err => simp [hr] at ha
      | none =>
        simp only [hr, hml, hch] at ha
        by_cases hc : (spaceChecks desired actual).any FieldCheck.changed = false
        · rw [if_pos hc] at ha
          cases ha
          exact ⟨⟨hrl, hr, hs, by simp [hc]⟩, rfl, rfl, rfl⟩
        · rw [if_neg hc, if_neg (by simp)] at ha
          split at ha
          · cases ha
          · next written hu =>
              obtain ⟨hrr, hw, hn, hsp⟩ := updateSpace_spec hu
              cases ha
              exact ⟨⟨hrl, hr, hs, fun _ => ⟨hrr, hw⟩⟩, hn,
                by rw [hsp], by rw [hsp]⟩

theorem reconcileSpace_ok {runtime : SpaceRuntime} {actual desired : Space}
    (ha : Applicable runtime actual desired) :
    ∃ outcome, reconcileSpace runtime (some actual) desired = .ok outcome := by
  obtain ⟨hch, hm⟩ := diffSpace_of_same ha.identity
  unfold reconcileSpace
  simp only [ha.realm, ha.read, hch, hm]
  by_cases hc : (spaceChecks desired actual).any FieldCheck.changed = false
  · exact ⟨_, if_pos hc⟩
  · obtain ⟨hr, hw⟩ := ha.write (by simpa using hc)
    obtain ⟨written, hu⟩ := updateSpace_ok actual desired hr hw
    rw [if_neg hc, if_neg (by simp), hu]
    exact ⟨_, rfl⟩

theorem policyInputs_afterPasses (space : Space) (hosts : List SpaceHost) :
    policyInputs (afterPasses space hosts) = policyInputs space :=
  Slices.foldl_frame (fun current host => policyInputs_ensuredSpace host current) space hosts

/-- An apply that goes through reaches the enforced policy exactly when it has no network to
    change. -/
theorem reachesEnforcedPolicy_iff (parseCIDR : String → Option String) (runtime : SpaceRuntime)
    (actual desired : Space) :
    ReachesEnforcedPolicy parseCIDR runtime actual desired ↔
      (Applicable runtime actual desired → desired.spec.network = actual.spec.network) := by
  constructor
  · intro hr ha
    obtain ⟨outcome, hap⟩ := reconcileSpace_ok ha
    obtain ⟨-, -, -, hk⟩ := reconcileSpace_spec hap
    obtain ⟨hp, -, -⟩ := hr outcome hap
    rw [← hp, hk]
  · intro hu outcome hap
    obtain ⟨ha, hnm, hrl, hk⟩ := reconcileSpace_spec hap
    have hn := hu ha
    have hi : policyInputs outcome.persisted = policyInputs desired := by
      simp only [policyInputs, hnm, hrl, hk, hn, ha.identity.name,
        ha.identity.realmName]
    refine ⟨by rw [hk, hn], ?_, fun _ => hn.symm⟩
    intro hosts
    apply spaceEgressPolicy_congr
    rw [policyInputs_afterPasses, hi]

namespace EgressEdit

def actual : Space where
  metadata := { name := "apps", generation := 1 }
  spec := { realmName := "prod", cniConfigPath := "/run/apps.conflist" }

def desired : Space where
  metadata := { name := "apps" }
  spec := { realmName := "prod", network := some { egress := some { default := .deny } } }

end EgressEdit

/-- Denying egress on an existing space is reported as unchanged, and every later pass keeps
    asserting the admit-all policy. -/
theorem reconcileSpace_drops_egress_edit :
    ¬ ReachesEnforcedPolicy (fun _ => none) {} EgressEdit.actual EgressEdit.desired ∧
      spaceEgressPolicy (fun _ => none) EgressEdit.desired =
        .ok { realmName := "prod", spaceName := "apps", default := .deny } ∧
      (reconcileSpace {} (some EgressEdit.actual) EgressEdit.desired).map
          SpaceOutcome.action = .ok .unchanged ∧
      (reconcileSpace {} (some EgressEdit.actual) EgressEdit.desired).bind
          (fun outcome => spaceEgressPolicy (fun _ => none) outcome.persisted) =
        .ok (newAdmitAllPolicy "prod" "apps") := by
  refine ⟨?_, by decide, by decide, by decide⟩
  intro hr
  have ha : reconcileSpace {} (some EgressEdit.actual) EgressEdit.desired =
      .ok { action := .unchanged, persisted := EgressEdit.actual } := rfl
  obtain ⟨hp, -, -⟩ := hr _ ha
  exact absurd hp (by decide)

end Kukeon.Apply
