import Kukeon.Apply.DiffSpec

/-! # The order of the container maps

`DiffCell` ranges over two Go maps, whose order is open. An order is here a permutation of the keys.
The classification is overwritten on the way: whichever of an added and an edited container comes
first decides it.
-/

namespace Kukeon.Apply.MapOrder

open ModelHub DiffResult

/-- The result when the loops begin. -/
def rooted (desired actual : Cell) : CellDiffResult :=
  diffRootContainer { toDiffResult := DiffResult.checkAll {} (cellChecks desired actual) }
    (findRootContainer desired.spec.containers) (findRootContainer actual.spec.containers)

/-- `diffCell` with the orders in which the two loops take the keys. -/
def diffCellIn (desiredOrder actualOrder : List String) (desired actual : Cell) : CellDiffResult :=
  match firstChange (cellIdentityChecks desired actual) with
  | some result => { toDiffResult := result }
  | none =>
    actualOrder.foldl (diffOrphan desired.spec.containers)
      (desiredOrder.foldl (diffChild desired.spec.containers actual.spec.containers)
        (rooted desired actual))

theorem diffCell_eq (desired actual : Cell) : diffCell desired actual =
    diffCellIn (childIDs desired.spec.containers) (childIDs actual.spec.containers) desired actual :=
  rfl

structure SameVerdict (result other : CellDiffResult) : Prop where
  hasChanges : result.hasChanges = other.hasChanges
  changeType : result.changeType = other.changeType
  changedFields : result.changedFields.Perm other.changedFields
  breakingChanges : result.breakingChanges.Perm other.breakingChanges
  containers : result.containers.Perm other.containers
  orphans : result.orphans.Perm other.orphans

def OrderFree (desired actual : Cell) : Prop :=
  ∀ first second : List String × List String,
    first.1.Perm (childIDs desired.spec.containers) →
    second.1.Perm (childIDs desired.spec.containers) →
    first.2.Perm (childIDs actual.spec.containers) →
    second.2.Perm (childIDs actual.spec.containers) →
    SameVerdict (diffCellIn first.1 first.2 desired actual)
      (diffCellIn second.1 second.2 desired actual)

theorem settle_mild {t : ChangeType} {types : List ChangeType} (ht : t ≠ .none)
    (hm : .breaking ∉ types) : settle t types = t := by
  induction types with
  | nil => rfl
  | cons next rest ih => grind [settle, raise]

theorem settle_perm {t : ChangeType} {types others : List ChangeType} (hp : types.Perm others)
    (hn : .none ∉ types) (hs : t = .none → .additive ∈ types → .compatible ∈ types →
      .breaking ∈ types) : settle t types = settle t others := by
  by_cases hb : .breaking ∈ types
  · rw [settle_eq_breaking.mpr (.inr hb), settle_eq_breaking.mpr (.inr (hp.mem_iff.mp hb))]
  · by_cases ht : t = .none
    · have hx : ∀ next ∈ types,
          next = if .additive ∈ types then .additive else .compatible := by
        intro next hm
        cases next <;> grind
      rw [List.eq_replicate_of_mem hx] at hp ⊢
      rw [List.perm_replicate.mp hp.symm]
    · rw [settle_mild ht hb, settle_mild ht fun hi => hb (hp.mem_iff.mpr hi)]

theorem graded_root {result : CellDiffResult} (hg : Graded result.toDiffResult)
    (desired actual : Option ContainerSpec) :
    Graded (diffRootContainer result desired actual).toDiffResult := by
  cases desired with
  | none => exact hg
  | some d =>
    cases actual with
    | none => simp [Graded, diffRootContainer]
    | some a =>
      have hi := graded_diffContainerSpec d a true
      simp only [Graded, diffRootContainer, absorb, raise] at *
      grind

theorem childType_ne_none (desired actual : List ContainerSpec) (ids : List String) :
    .none ∉ ids.filterMap (childType desired actual) := by
  intro hm
  obtain ⟨id, _, ht⟩ := List.mem_filterMap.mp hm
  unfold childType at ht
  split at ht
  · next d a _ _ =>
    have hi := graded_diffContainerSpec d a false
    simp only [Graded] at hi
    grind
  all_goals cases ht

/-- The types that the child containers add, in any order. -/
def childTypes (desired actual : Cell) (order : List String) : List ChangeType :=
  order.filterMap (childType desired.spec.containers actual.spec.containers)

/-- Nothing about the cell or its root changed, no child breaks, one is added and one is edited. -/
structure Mixed (desired actual : Cell) : Prop where
  identity : SameIdentity desired actual
  cell : (cellChecks desired actual).any FieldCheck.changed = false
  root : rootChanged (findRootContainer desired.spec.containers)
    (findRootContainer actual.spec.containers) = false
  mild : .breaking ∉ childTypes desired actual (childIDs desired.spec.containers)
  added : .additive ∈ childTypes desired actual (childIDs desired.spec.containers)
  edited : .compatible ∈ childTypes desired actual (childIDs desired.spec.containers)

variable {desired actual : Cell}

theorem rooted_quiet : (rooted desired actual).changeType = .none ↔
    (cellChecks desired actual).any FieldCheck.changed = false ∧
      rootChanged (findRootContainer desired.spec.containers)
        (findRootContainer actual.spec.containers) = false := by
  have hg : Graded (rooted desired actual).toDiffResult :=
    graded_root (graded_checkAll (by simp [Graded]) _) _ _
  have hc : (rooted desired actual).hasChanges = _ := (diffRootContainer_changed _ _ _).1
  rw [hasChanges_checkAll, hasChanges_empty, Bool.false_or] at hc
  simp only [Graded, hc] at hg
  grind

theorem diffCellIn_eq (hi : SameIdentity desired actual) (first second : List String) :
    let left := second.filter fun id => (childByID desired.spec.containers id).isNone
    let turn := diffChild desired.spec.containers actual.spec.containers {}
    diffCellIn first second desired actual =
      { rooted desired actual with
        hasChanges := (rooted desired actual).hasChanges ||
          first.any (childChanged desired.spec.containers actual.spec.containers) ||
          second.any fun id => (childByID desired.spec.containers id).isNone
        changeType := settle (settle (rooted desired actual).changeType
          (childTypes desired actual first)) (left.map fun _ => .additive)
        breakingChanges := (rooted desired actual).breakingChanges ++
          first.flatMap fun id => (turn id).breakingChanges
        containers := (rooted desired actual).containers ++
          first.flatMap fun id => (turn id).containers
        orphans := (rooted desired actual).orphans ++ left } := by
  unfold diffCellIn
  rw [cellIdentityChecks_none.mpr hi]
  simp [foldl_diffChild, foldl_diffOrphan, childTypes]

/-- In a mixed diff the container that comes first decides the classification. -/
theorem first_decides (hm : Mixed desired actual) {t : ChangeType}
    (hi : t ∈ childTypes desired actual (childIDs desired.spec.containers)) :
    ∃ order : List String, order.Perm (childIDs desired.spec.containers) ∧
      ∀ second, (diffCellIn order second desired actual).changeType = t := by
  obtain ⟨id, hth, hg⟩ := List.mem_filterMap.mp hi
  have hp := List.perm_cons_erase hth
  refine ⟨_, hp.symm, fun second => ?_⟩
  rw [diffCellIn_eq hm.identity, childTypes, List.filterMap_cons_some hg]
  have hml := hm.mild
  rw [childTypes, (hp.filterMap _).mem_iff, List.filterMap_cons_some hg, List.mem_cons,
    not_or] at hml
  have ht : t ≠ .none := fun hs => childType_ne_none _ _ _ (hs ▸ hi)
  have one : ∀ types, settle .none (t :: types) = settle t types := by
    simp [settle, raise, Ne.symm hml.1]
  dsimp only
  rw [rooted_quiet.mpr ⟨hm.cell, hm.root⟩, one, settle_mild ht hml.2, settle_mild ht (by simp)]

theorem orderFree_iff : OrderFree desired actual ↔ ¬ Mixed desired actual := by
  constructor
  · intro hf hm
    obtain ⟨first, h1, ha⟩ := first_decides hm hm.added
    obtain ⟨second, h2, he⟩ := first_decides hm hm.edited
    have hs := (hf (first, _) (second, _) h1 h2 (.refl _) (.refl _)).changeType
    rw [ha, he] at hs
    cases hs
  · intro hn first second h1 h2 h3 h4
    by_cases hi : SameIdentity desired actual
    · have ids := h1.trans h2.symm
      have hl := (h3.trans h4.symm).filter
        fun id => (childByID desired.spec.containers id).isNone
      have ht := settle_perm (t := (rooted desired actual).changeType) (ids.filterMap
        (childType desired.spec.containers actual.spec.containers)) (childType_ne_none _ _ _) (by
          intro hq ha he
          by_contra hml
          obtain ⟨hc, hr⟩ := rooted_quiet.mp hq
          simp only [(h1.filterMap _).mem_iff] at ha he hml
          exact hn ⟨hi, hc, hr, hml, ha, he⟩)
      rw [diffCellIn_eq hi, diffCellIn_eq hi]
      refine ⟨?_, ?_, .refl _, ?_, ?_, ?_⟩
      · simp [ids.any_eq, (h3.trans h4.symm).any_eq]
      · dsimp only [childTypes]
        rw [ht]
        exact settle_perm (hl.map _) (by simp) (by simp)
      · exact (ids.flatMap_right _).append_left _
      · exact (ids.flatMap_right _).append_left _
      · exact hl.append_left _
    · unfold diffCellIn
      cases her : firstChange (cellIdentityChecks desired actual) with
      | none => exact absurd (cellIdentityChecks_none.mp her) hi
      | some result => exact ⟨rfl, rfl, .refl _, .refl _, .refl _, .refl _⟩

def served (containers : List ContainerSpec) : Cell :=
  { metadata := { name := "web" }, spec := { containers := containers } }

def desiredPair : Cell := served [{ id := "a", image := "new" }, { id := "b" }]

def actualOne : Cell := served [{ id := "a", image := "old" }]

theorem changeType_follows_order :
    (diffCellIn ["a", "b"] ["a"] desiredPair actualOne).changeType = .compatible ∧
      (diffCellIn ["b", "a"] ["a"] desiredPair actualOne).changeType = .additive ∧
      ["a", "b"].Perm (childIDs desiredPair.spec.containers) := by
  decide

end Kukeon.Apply.MapOrder
