import Kukeon.Apply.MapOrder
import Kukeon.CellConfig.Materialize
import Kukeon.Runner.Provision
import Kukeon.Runner.Tick

/-! # Drift of a cell from its Config

`internal/controller/reconcile_outofsync.go`: look the Config up that the cell was made from, stamp
the cell again, complete it as the runner does and compare. The verdict is persisted after the tick
of the cell, when its lock was released.
-/

namespace Kukeon.Controller

open ModelHub GoText Effect Runner

/-- `cellconfig.LabelConfig`. -/
def labelConfig : String := "kukeon.io/config"

structure CellOutOfSync where
  outOfSync : Bool := false
  reason : String := ""
  err : String := ""
  deriving DecidableEq

def configLineage (cell : Cell) : Option String :=
  let name := trimSpace (cell.metadata.labels.index labelConfig)
  if name = "" then none else some name

def persistCellOutOfSync (cell : Cell) (desired : CellOutOfSync) : RunnerM Bool := do
  if cell.status.outOfSync = desired.outOfSync ∧ cell.status.outOfSyncReason = desired.reason ∧
      cell.status.outOfSyncError = desired.err then
    return false
  else
    rewording (.wrap "persist OutOfSync status") (updateCellMetadata
      { cell with
        status.outOfSync := desired.outOfSync
        status.outOfSyncReason := desired.reason
        status.outOfSyncError := desired.err })
    return true

/-- `desired` is the verdict on a cell of the given lineage. -/
def reconcileCellOutOfSync (desired : Cell → String → CellOutOfSync) (cell : Cell) :
    RunnerM Bool :=
  match configLineage cell with
  | none => return false
  | some configName => persistCellOutOfSync cell (desired cell configName)

/-- What the pass does with one cell: the tick, and then the verdict, unless the cell is gone. The
    operations of others that come between the two are those on `meanwhile`. -/
def reconcileOne (inputs : TickInputs) (desired : Cell → String → CellOutOfSync)
    (meanwhile : CellHost → CellHost) (cell : Cell) : RunnerM Bool := do
  let (reconciled, outcome) ← reconcileCell inputs cell
  -- The tick has released the lock.
  modify meanwhile
  if outcome.deleted || outcome.vanished then return false
  else reconcileCellOutOfSync desired reconciled

open V1Beta1 (CellBlueprintDoc CellConfigDoc)
open CellBlueprint (ScalarReader)
open CellConfig (ConfigError)

abbrev BindingKey := V1Beta1.CellBindingRef

/-- What the detection reads; `none` is a document that does not exist. -/
structure DriftReads where
  getConfig : BindingKey → Except String (Option CellConfigDoc)
  getBlueprint : BindingKey → Except String (Option CellBlueprintDoc)
  reader : ScalarReader
  host : ProvisionHost
  /-- The texts of the errors of materialization and of the space's paths. -/
  configErrorText : ConfigError → String
  provisionErrorText : ProvisionError → String

/-- The keys that are tried for the Config of a cell, nearest scope first. -/
def lineageProbes (cell : Cell) (configName : String) : List BindingKey :=
  let probe := fun space stack =>
    { name := configName, realm := cell.spec.realmName, space := space, stack := stack : BindingKey }
  [probe cell.spec.spaceName cell.spec.stackName] ++
    (if cell.spec.stackName ≠ "" then [probe cell.spec.spaceName ""] else []) ++
    if cell.spec.spaceName ≠ "" then [probe "" ""] else []

def firstFound {Doc : Type} (get : BindingKey → Except String (Option Doc)) :
    List BindingKey → Except String (Option Doc)
  | [] => .ok none
  | key :: rest =>
    match get key with
    | .error cause => .error cause
    | .ok (some doc) => .ok (some doc)
    | .ok none => firstFound get rest

def lookupLineageConfig (reads : DriftReads) (cell : Cell) (configName : String) :
    Except String (Option CellConfigDoc) :=
  firstFound reads.getConfig (lineageProbes cell configName)

def provenanceEnvOverrides (cell : Cell) : List String :=
  (cell.spec.provenance.map CellProvenance.envOverrides).getD []

/-- The body of the loop of `applyRunnerInjectedContainerFields`. -/
def withInjectedFields (space : Space) (cniConfigPath : String) (container : ContainerSpec) :
    ContainerSpec :=
  let defaulted := applySpaceDefaultsToContainer space container
  { defaulted with cniConfigPath := orElse defaulted.cniConfigPath cniConfigPath }

def applyRunnerInjectedContainerFields (reads : DriftReads) (cell : Cell) : Except String Cell := do
  let space ← (reads.host.getSpace cell.spec.realmName cell.spec.spaceName).mapError fun cause =>
    "resolve space " ++ quoted cell.spec.spaceName ++ " defaults: " ++ cause
  let cniConfigPath ←
    (resolveSpaceCNIConfigPath reads.host cell.spec.realmName cell.spec.spaceName).mapError
      fun cause => "resolve space " ++ quoted cell.spec.spaceName ++ " cni config path: " ++
        reads.provisionErrorText cause
  return { cell with
    spec.containers := cell.spec.containers.map (withInjectedFields space cniConfigPath) }

def referencedBlueprint (reads : DriftReads) (ref : BindingKey) : Except String CellBlueprintDoc :=
  match reads.getBlueprint ref with
  | .error cause => .error ("read referenced blueprint " ++ quoted ref.name ++ ": " ++ cause)
  | .ok none => .error ("referenced blueprint " ++ quoted ref.name ++ " not found")
  | .ok (some bp) => .ok bp

/-- `materializeCellFromConfig`; `decode` numbers the reading of the document it stamps. -/
def materializeCellFromConfig (reads : DriftReads) (decode : Nat) (cfg : CellConfigDoc)
    (cellName : String) (envOverrides : List String) : Except String Cell := do
  let bp ← referencedBlueprint reads cfg.spec.blueprint
  let doc ← (CellConfig.materializeWithName reads.reader cfg bp cellName).mapError fun cause =>
    "materialize cell: " ++ reads.configErrorText cause
  let desired ←
    (ApiScheme.convertCellDocToInternal decode
      (CellConfig.applyEnvOverrides doc envOverrides)).mapError
        fun cause => "convert materialized cell: " ++ cause
  applyRunnerInjectedContainerFields reads desired

def outOfSyncReasonConfigDeleted : String := "lineage Config deleted"

def outOfSyncReasonSpecDiffers : String := "spec differs"

def containerFieldPaths (diff : Apply.ContainerDiff) : List String :=
  match diff.action with
  | .add => ["containers[" ++ diff.name ++ "] (added)"]
  | .update =>
    (diff.changedFields ++ diff.breakingChanges).map fun field =>
      "containers[" ++ diff.name ++ "]." ++ field

def collectDiffFieldPaths (diff : Apply.CellDiffResult) : List String :=
  let paths :=
    diff.changedFields ++ diff.breakingChanges ++
      (if diff.rootContainerChanged then ["spec.rootContainer"] else []) ++
      diff.containers.flatMap containerFieldPaths ++
      diff.orphans.map fun id => "containers[" ++ id ++ "] (removed)"
  (paths.filter (· != "")).dedup.mergeSort fun a b => decide (a ≤ b)

def outOfSyncSpecDifferReason (diff : Apply.CellDiffResult) : String :=
  match collectDiffFieldPaths diff with
  | [] => outOfSyncReasonSpecDiffers
  | fields => outOfSyncReasonSpecDiffers ++ " at " ++ String.intercalate ", " fields

def desiredCellOutOfSync (reads : DriftReads) (decode : Nat) (cell : Cell) (configName : String) :
    CellOutOfSync :=
  match lookupLineageConfig reads cell configName with
  | .error cause => { err := "read lineage config " ++ quoted configName ++ ": " ++ cause }
  | .ok none => { outOfSync := true, reason := outOfSyncReasonConfigDeleted }
  | .ok (some cfg) =>
    match materializeCellFromConfig reads decode cfg cell.metadata.name
        (provenanceEnvOverrides cell) with
    | .error cause => { err := cause }
    | .ok desired =>
      let diff := Apply.diffCell desired cell
      if diff.hasChanges then
        { outOfSync := true, reason := outOfSyncSpecDifferReason diff }
      else {}

section Reason

open Apply MapOrder

theorem outOfSyncSpecDifferReason_perm {diff other : CellDiffResult}
    (hr : diff.rootContainerChanged = other.rootContainerChanged)
    (hf : diff.changedFields.Perm other.changedFields)
    (hb : diff.breakingChanges.Perm other.breakingChanges)
    (hc : diff.containers.Perm other.containers) (ho : diff.orphans.Perm other.orphans) :
    outOfSyncSpecDifferReason diff = outOfSyncSpecDifferReason other := by
  have sorted (paths : List String) :
      (paths.mergeSort fun a b => decide (a ≤ b)).Pairwise (· ≤ ·) :=
    paths.pairwise_mergeSort' (· ≤ ·)
  suffices hp : collectDiffFieldPaths diff = collectDiffFieldPaths other by
    rw [outOfSyncSpecDifferReason, hp, outOfSyncSpecDifferReason]
  refine List.Perm.eq_of_pairwise (fun _ _ _ _ => le_antisymm) (sorted _) (sorted _) ?_
  refine (List.mergeSort_perm _ _).trans (.trans ?_ (List.mergeSort_perm _ _).symm)
  rw [hr]
  refine ((((hf.append hb).append_right _).append ?_).append (ho.map _)).filter _ |>.dedup
  exact hc.flatMap_right _

/-- The reason does not depend on the order of the container maps, which the classification does. -/
theorem drift_reason_order_free {desired actual : Cell} {first second : List String}
    (hf : first.Perm (childIDs desired.spec.containers))
    (hs : second.Perm (childIDs actual.spec.containers)) :
    (diffCellIn first second desired actual).hasChanges = (diffCell desired actual).hasChanges ∧
      outOfSyncSpecDifferReason (diffCellIn first second desired actual) =
        outOfSyncSpecDifferReason (diffCell desired actual) := by
  rw [diffCell_eq]
  by_cases hi : SameIdentity desired actual
  · rw [diffCellIn_eq hi, diffCellIn_eq hi]
    refine ⟨by simp [hf.any_eq, hs.any_eq], outOfSyncSpecDifferReason_perm rfl (.refl _) ?_ ?_ ?_⟩
    · exact (hf.flatMap_right _).append_left _
    · exact (hf.flatMap_right _).append_left _
    · exact (hs.filter _).append_left _
  · unfold diffCellIn
    cases her : firstChange (cellIdentityChecks desired actual) with
    | none => exact absurd (cellIdentityChecks_none.mp her) hi
    | some result => exact ⟨rfl, rfl⟩

theorem drift_reason_of_pair :
    outOfSyncSpecDifferReason (diffCellIn ["b", "a"] ["a"] desiredPair actualOne) =
      outOfSyncSpecDifferReason (diffCell desiredPair actualOne) :=
  (drift_reason_order_free (by decide) (by decide)).2

end Reason

end Kukeon.Controller
