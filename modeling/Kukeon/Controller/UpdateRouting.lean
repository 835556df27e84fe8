import Kukeon.Apply.ReconcileSpace
import Kukeon.Controller.ConfigDrift

/-! # The routes of an update

An apply and a start of a cell that is out of sync both compare the cell with a desired one and then
choose what to do. The apply (`ReconcileCell` of `internal/controller/apply/reconcile.go`) asks whether
a difference breaks and whether the root container has changed in any way, the reapply on start
(`reapplyOutOfSyncFromConfig` of `internal/controller/start_cell.go`) only whether a difference breaks.
-/

namespace Kukeon.Apply

inductive UpdateRoute where
  | unchanged
  | inPlace
  | recreate
  | refuse
  deriving Repr, DecidableEq

def applyRoute (diff : CellDiffResult) : UpdateRoute :=
  if !diff.hasChanges then .unchanged
  else if diff.rootContainerChanged && diff.isBreaking then .recreate
  else if diff.isBreaking then .refuse
  else .inPlace

end Kukeon.Apply

namespace Kukeon.Controller

open ModelHub Apply

/-- The desired cell under the identity that the cell has on disk. -/
def withIdentityOf (cell desired : Cell) : Cell :=
  { desired with
    metadata.name := cell.metadata.name
    spec.id := cell.spec.id
    spec.realmName := cell.spec.realmName
    spec.spaceName := cell.spec.spaceName
    spec.stackName := cell.spec.stackName
    spec.runtimeEnv := cell.spec.runtimeEnv }

def reapplyRoute (diff : CellDiffResult) : UpdateRoute :=
  if !diff.hasChanges then .unchanged
  else if diff.isBreaking then .recreate
  else .inPlace

def editRoot (edited : ContainerSpec) : List ContainerSpec → List ContainerSpec
  | [] => []
  | container :: rest =>
    if container.root then edited :: rest else container :: editRoot edited rest

/-- `edited` differs from `desired` by edits of the root container that do not break. -/
def CompatibleRootEdit (desired edited : Cell) : Prop :=
  ∃ root next, findRootContainer desired.spec.containers = some root ∧ next.root = true ∧
    (diffContainerSpec next root true).isBreaking = false ∧
    edited = { desired with spec.containers := editRoot next desired.spec.containers }

theorem findRootContainer_editRoot {containers : List ContainerSpec} {root next : ContainerSpec}
    (hfn : findRootContainer containers = some root) (hi : next.root = true) :
    findRootContainer (editRoot next containers) = some next := by
  induction containers with
  | nil => cases hfn
  | cons container rest ih =>
    unfold findRootContainer at hfn ih ⊢
    unfold editRoot
    cases hf : container.root with
    | true => simp [hi]
    | false =>
      rw [List.find?_cons_of_neg (by simp [hf])] at hfn
      simp only [Bool.false_eq_true, if_false]
      rw [List.find?_cons_of_neg (by simp [hf])]
      exact ih hfn

theorem childContainers_editRoot (containers : List ContainerSpec) {next : ContainerSpec}
    (hi : next.root = true) :
    childContainers (editRoot next containers) = childContainers containers := by
  induction containers with
  | nil => rfl
  | cons container rest ih =>
    unfold childContainers at ih ⊢
    unfold editRoot
    cases hf : container.root with
    | true => simp [hi, hf]
    | false => simp [hf, List.filter_cons, ih]

/-- A difference outside the root container that breaks: the nested cgroup runtime, or a host
    namespace of a child container. -/
def breaksElsewhere (desired actual : Cell) : Bool :=
  (desired.spec.nestedCgroupRuntime != actual.spec.nestedCgroupRuntime) ||
    (childIDs desired.spec.containers).any
      (childBreaks desired.spec.containers actual.spec.containers)

def rootsDiffer (desired actual : Cell) : Bool :=
  rootChanged (findRootContainer desired.spec.containers)
    (findRootContainer actual.spec.containers)

theorem rootChanged_of_rootBreaks {desired actual : Option ContainerSpec}
    (hb : rootBreaks desired actual = true) : rootChanged desired actual = true := by
  cases desired with
  | none => exact hb
  | some d =>
    cases actual with
    | none => rfl
    | some a => exact diffContainerSpec_hasChanges_of_isBreaking hb

section Routes

variable {desired actual : Cell}

theorem childChanged_of_childBreaks {desired actual : List ContainerSpec} {id : String}
    (hb : childBreaks desired actual id = true) : childChanged desired actual id = true := by
  unfold childBreaks at hb
  unfold childChanged
  split at hb
  next d a hi hia =>
    rw [hi, hia]
    exact diffContainerSpec_hasChanges_of_isBreaking hb
  next => cases hb

theorem refused_of_moved (hm : ¬ SameIdentity desired actual) :
    applyRoute (diffCell desired actual) = .refuse := by
  have he : ∃ result, firstChange (cellIdentityChecks desired actual) = some result := by
    cases hf : firstChange (cellIdentityChecks desired actual) with
    | none => exact absurd (cellIdentityChecks_none.mp hf) hm
    | some result => exact ⟨result, rfl⟩
  obtain ⟨result, hf⟩ := he
  have hb : ∀ check ∈ cellIdentityChecks desired actual, check.breaking = true := by
    simp [cellIdentityChecks, textCheck, FieldCheck.at]
  have hbr := firstChange_isBreaking hb hf
  unfold applyRoute diffCell
  rw [hf]
  simp [firstChange_hasChanges hf, hbr]

variable (hi : SameIdentity desired actual)

include hi

theorem isBreaking_eq :
    (diffCell desired actual).isBreaking = (breaksElsewhere desired actual ||
      rootBreaks (findRootContainer desired.spec.containers)
        (findRootContainer actual.spec.containers)) := by
  rw [diffCell_isBreaking_eq hi, breaksElsewhere, Bool.or_right_comm]

theorem hasChanges_of_isBreaking (hb : (diffCell desired actual).isBreaking = true) :
    (diffCell desired actual).hasChanges = true := by
  rw [diffCell_isBreaking_eq hi] at hb
  rw [diffCell_hasChanges_eq hi]
  simp only [Bool.or_eq_true, List.any_eq_true] at hb ⊢
  rcases hb with (hn | hr) | ⟨id, hm, hc⟩
  · refine .inl (.inl (.inl ⟨_, List.mem_of_getElem? (i := 3) rfl, ?_⟩))
    exact hn
  · exact .inl (.inl (.inr (rootChanged_of_rootBreaks hr)))
  · exact .inl (.inr ⟨id, hm, childChanged_of_childBreaks hc⟩)

theorem rootContainerChanged_eq :
    (diffCell desired actual).rootContainerChanged = rootsDiffer desired actual :=
  diffCell_rootContainerChanged_eq hi

/-- Without a change of the root only what breaks elsewhere breaks. -/
theorem isBreaking_of_sameRoots (hs : rootsDiffer desired actual = false) :
    (diffCell desired actual).isBreaking = breaksElsewhere desired actual := by
  rw [isBreaking_eq hi]
  cases hb : rootBreaks (findRootContainer desired.spec.containers)
      (findRootContainer actual.spec.containers) with
  | false => rw [Bool.or_false]
  | true => exact absurd (rootChanged_of_rootBreaks hb) (by simpa [rootsDiffer] using hs)

theorem refused_iff :
    applyRoute (diffCell desired actual) = .refuse ↔
      breaksElsewhere desired actual = true ∧ rootsDiffer desired actual = false := by
  unfold applyRoute
  rw [rootContainerChanged_eq hi]
  cases hd : rootsDiffer desired actual with
  | true =>
    cases hb : (diffCell desired actual).isBreaking <;>
      cases hc : (diffCell desired actual).hasChanges <;> simp
  | false =>
    rw [isBreaking_of_sameRoots hi hd]
    cases hb : breaksElsewhere desired actual with
    | false => cases hc : (diffCell desired actual).hasChanges <;> simp
    | true =>
      have hbr := isBreaking_of_sameRoots hi hd
      rw [hb] at hbr
      simp [hasChanges_of_isBreaking hi hbr]

theorem recreated_of_root
    (hbr : breaksElsewhere desired actual = true) (hd : rootsDiffer desired actual = true) :
    applyRoute (diffCell desired actual) = .recreate := by
  have hb : (diffCell desired actual).isBreaking = true := by
    rw [isBreaking_eq hi, hbr, Bool.true_or]
  unfold applyRoute
  rw [rootContainerChanged_eq hi, hasChanges_of_isBreaking hi hb, hb, hd]
  rfl

end Routes

section Edits

variable {desired edited actual : Cell}

theorem sameIdentity_of_edit (he : CompatibleRootEdit desired edited) :
    SameIdentity edited actual ↔ SameIdentity desired actual := by
  obtain ⟨root, next, -, -, -, rfl⟩ := he
  exact ⟨fun hs => ⟨hs.name, hs.realmName, hs.spaceName, hs.stackName⟩,
    fun hs => ⟨hs.name, hs.realmName, hs.spaceName, hs.stackName⟩⟩

theorem breaksElsewhere_edited (he : CompatibleRootEdit desired edited) :
    breaksElsewhere edited actual = breaksElsewhere desired actual := by
  obtain ⟨root, next, -, hi, -, rfl⟩ := he
  have hc := childContainers_editRoot desired.spec.containers hi
  unfold breaksElsewhere childIDs childBreaks childByID
  rw [hc]

/-- An edit that no comparison takes for a breaking one and every comparison sees. -/
def withOneMoreEnv (root : ContainerSpec) : ContainerSpec :=
  { root with env := "EDITED=1" :: root.env }

theorem withOneMoreEnv_compatible (root : ContainerSpec) :
    (diffContainerSpec (withOneMoreEnv root) root true).isBreaking = false := by
  have hs : (diffContainerSpec root root true).hasChanges = false :=
    diffContainerSpec_hasChanges.mpr ⟨rfl, rfl, .inr rfl⟩
  rw [diffContainerSpec, DiffResult.hasChanges_checkAll, DiffResult.hasChanges_empty,
    Bool.false_or] at hs
  rw [diffContainerSpec, DiffResult.isBreaking_checkAll, DiffResult.isBreaking_empty,
    Bool.false_or]
  simp only [containerChecks, textCheck, flagCheck, blockCheck, withOneMoreEnv, List.any_cons,
    List.any_nil, Bool.or_eq_false_iff, Bool.and_eq_false_iff] at hs ⊢
  tauto

/-- What was refused for a difference outside the root is recreated once the root is edited. -/
theorem recreated_after_edit (hid : SameIdentity desired actual)
    (hb : breaksElsewhere desired actual = true) (hsm : rootsDiffer desired actual = false)
    {root : ContainerSpec} (hf : findRootContainer desired.spec.containers = some root)
    (hi : root.root = true) :
    ∃ edited, CompatibleRootEdit desired edited ∧
      applyRoute (diffCell edited actual) = .recreate := by
  let edited : Cell :=
    { desired with spec.containers := editRoot (withOneMoreEnv root) desired.spec.containers }
  have he : CompatibleRootEdit desired edited :=
    ⟨root, withOneMoreEnv root, hf, hi, withOneMoreEnv_compatible root, rfl⟩
  refine ⟨edited, he, recreated_of_root ((sameIdentity_of_edit he).mpr hid)
    ((breaksElsewhere_edited he).trans hb) ?_⟩
  -- The root was the same as the actual one, so that it no longer is.
  have hn : findRootContainer edited.spec.containers = some (withOneMoreEnv root) :=
    findRootContainer_editRoot hf hi
  unfold rootsDiffer at hsm ⊢
  rw [hf] at hsm
  rw [hn]
  cases ho : findRootContainer actual.spec.containers with
  | none => rfl
  | some live =>
    rw [ho] at hsm
    by_contra hs
    have hbf := (diffContainerSpec_hasChanges.mp hsm).fields
    have ha := (diffContainerSpec_hasChanges.mp (Bool.eq_false_of_not_eq_true hs)).fields
    have hl := congrArg ContainerSpec.env (ha.trans hbf.symm)
    simp [diffedFields, withOneMoreEnv] at hl

end Edits

theorem reapplyRoute_ne_refuse (diff : CellDiffResult) : reapplyRoute diff ≠ .refuse := by
  unfold reapplyRoute
  split
  · decide
  · split <;> decide

/-- The fields that a reapply overwrites are not compared, but for the identity. -/
theorem diffCell_withIdentityOf {desired actual : Cell} (hi : SameIdentity desired actual) :
    diffCell (withIdentityOf actual desired) actual = diffCell desired actual := by
  obtain ⟨hn, hr, hs, hst⟩ := hi
  unfold diffCell cellIdentityChecks cellChecks withIdentityOf
  rw [hn, hr, hs, hst]

/-- On one diff the two routes differ only where the apply refuses. -/
theorem routes_agree_iff (diff : CellDiffResult) :
    applyRoute diff = reapplyRoute diff ↔ applyRoute diff ≠ .refuse := by
  constructor
  · intro hs hr
    exact reapplyRoute_ne_refuse _ (hs.symm.trans hr)
  · unfold applyRoute reapplyRoute
    cases diff.hasChanges <;> cases diff.isBreaking <;> cases diff.rootContainerChanged <;> simp

/-- Compatible edits of the root keep a refusal exactly if it was for the identity or there is no root
    to edit; and an apply and a reapply on start take the same route exactly if the cell keeps its
    identity and what breaks outside the root comes with a change of the root. -/
theorem update_routing_iff (desired actual : Cell) :
    ((∀ edited, CompatibleRootEdit desired edited →
        applyRoute (diffCell desired actual) = .refuse →
          applyRoute (diffCell edited actual) ≠ .recreate) ↔
      (SameIdentity desired actual → breaksElsewhere desired actual = true →
        rootsDiffer desired actual = false →
          findRootContainer desired.spec.containers = none)) ∧
    (applyRoute (diffCell desired actual) =
        reapplyRoute (diffCell (withIdentityOf actual desired) actual) ↔
      SameIdentity desired actual ∧
        (breaksElsewhere desired actual = true → rootsDiffer desired actual = true)) := by
  constructor
  · constructor
    · intro hk hi hb hs
      cases hf : findRootContainer desired.spec.containers with
      | none => rfl
      | some root =>
        have hir : root.root = true := List.find?_some hf
        obtain ⟨edited, he, hr⟩ := recreated_after_edit hi hb hs hf hir
        exact absurd hr (hk edited he ((refused_iff hi).mpr ⟨hb, hs⟩))
    · intro hu edited he hrf hr
      by_cases hi : SameIdentity desired actual
      · obtain ⟨hb, hs⟩ := (refused_iff hi).mp hrf
        obtain ⟨root, next, hf, -⟩ := he
        cases hf.symm.trans (hu hi hb hs)
      · have hm : ¬ SameIdentity edited actual := fun hs =>
          hi ((sameIdentity_of_edit he).mp hs)
        cases (refused_of_moved hm).symm.trans hr
  · by_cases hi : SameIdentity desired actual
    · rw [diffCell_withIdentityOf hi, routes_agree_iff, ne_eq, refused_iff hi]
      cases rootsDiffer desired actual <;> simp [hi]
    · rw [refused_of_moved hi]
      constructor
      · intro hs
        exact absurd hs.symm (reapplyRoute_ne_refuse _)
      · rintro ⟨hs, -⟩
        exact absurd hs hi

def routedCell (env : List String) (hostNetwork : Bool) : Cell where
  metadata := { name := "web" }
  spec :=
    { id := "web", realmName := "main", spaceName := "default", stackName := "default"
      containers :=
        [ { id := "root", root := true, image := "busybox", env := env },
          { id := "app", image := "nginx", hostNetwork := hostNetwork } ] }

/-- A workload that moves to the host network is refused by an apply and recreated on start; with one
    more variable for the root the apply recreates it as well. -/
theorem root_edit_recreates_refused :
    applyRoute (diffCell (routedCell [] true) (routedCell [] false)) = .refuse ∧
      reapplyRoute (diffCell (withIdentityOf (routedCell [] false) (routedCell [] true))
        (routedCell [] false)) = .recreate ∧
      CompatibleRootEdit (routedCell [] true) (routedCell ["A=1"] true) ∧
      applyRoute (diffCell (routedCell ["A=1"] true) (routedCell [] false)) = .recreate := by
  refine ⟨by decide +kernel, by decide +kernel, ?_, by decide +kernel⟩
  exact ⟨{ id := "root", root := true, image := "busybox" },
    { id := "root", root := true, image := "busybox", env := ["A=1"] }, by decide, rfl,
    by decide +kernel, rfl⟩

end Kukeon.Controller
