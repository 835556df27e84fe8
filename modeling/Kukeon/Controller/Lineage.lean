import Kukeon.Controller.ConfigDrift

/-! # The Config a cell came from

A cell records the name and the scope of the Config that it was made from. `lookupLineageConfig` goes
by the name alone and tries the scopes around the cell, nearest first. It finds the recorded Config
when no Config of that name lies nearer, and when those further out are not there to stand in for a
recorded one that was deleted.
-/

namespace Kukeon.Controller

open ModelHub GoText
open V1Beta1 (CellConfigDoc)
open CellConfig (configProvenance defaultScope labelConfig materializeWithName)

def keyOf (cfg : CellConfigDoc) : BindingKey where
  name := cfg.metadata.name
  realm := cfg.metadata.realm
  space := cfg.metadata.space
  stack := cfg.metadata.stack

structure ConfigStore where
  find : BindingKey → Option CellConfigDoc
  filed : ∀ {key cfg}, find key = some cfg → keyOf cfg = key

def DriftReads.over (reads : DriftReads) (store : ConfigStore) : DriftReads :=
  { reads with getConfig := fun key => .ok (store.find key) }

def recordedBinding (cell : Cell) : Option BindingKey :=
  cell.spec.provenance.map fun provenance =>
    { name := provenance.bindingRef.name
      realm := provenance.bindingRef.realm
      space := provenance.bindingRef.space
      stack := provenance.bindingRef.stack }

structure MadeFrom (cfg : CellConfigDoc) (cell : Cell) : Prop where
  label : cell.metadata.labels.index labelConfig = cfg.metadata.name
  realm : cell.spec.realmName = defaultScope cfg.metadata.realm
  space : cell.spec.spaceName = defaultScope cfg.metadata.space
  stack : cell.spec.stackName = defaultScope cfg.metadata.stack
  recorded : recordedBinding cell = some (configProvenance cfg).bindingRef

theorem madeFrom_materializeWithName {reader : CellBlueprint.ScalarReader} {cfg : CellConfigDoc}
    {bp : V1Beta1.CellBlueprintDoc} {name : String} {doc : V1Beta1.CellDoc} {decode : Nat}
    {cell : Cell} (hm : materializeWithName reader cfg bp name = .ok doc)
    (hc : ApiScheme.convertCellDocToInternal decode doc = .ok cell) : MadeFrom cfg cell := by
  unfold materializeWithName at hm
  obtain ⟨-, -, hm⟩ := Outcome.bind_eq_ok.mp hm
  obtain ⟨resolved, -, hm⟩ := Outcome.bind_eq_ok.mp hm
  obtain ⟨containers, -, hm⟩ := Outcome.bind_eq_ok.mp hm
  obtain rfl := Except.ok.inj hm
  obtain ⟨-, -, hc⟩ := Outcome.bind_eq_ok.mp hc
  obtain ⟨-, -, hc⟩ := Outcome.bind_eq_ok.mp hc
  obtain ⟨root, -, hc⟩ := Outcome.bind_eq_ok.mp hc
  obtain rfl := Except.ok.inj hc
  constructor
  case label => exact GoMap.index_of_lookup (Finmap.lookup_insert _)
  all_goals dsimp only [CellConfig.stampedCell, ApiScheme.convertCellSpecToInternal]
  case recorded => rfl

def Around (cell : Cell) (key : BindingKey) : Prop :=
  key.realm = cell.spec.realmName ∧
    (key.space = cell.spec.spaceName ∧ (key.stack = cell.spec.stackName ∨ key.stack = "") ∨
      key.space = "" ∧ key.stack = "")

def BindingKey.depth (key : BindingKey) : Nat :=
  (if key.space = "" then 0 else 1) + if key.stack = "" then 0 else 1

theorem mem_lineageProbes {cell : Cell} {configName : String} {key : BindingKey} :
    key ∈ lineageProbes cell configName ↔ key.name = configName ∧ Around cell key := by
  obtain ⟨name, realm, space, stack⟩ := key
  by_cases hn : cell.spec.spaceName = "" <;> by_cases hns : cell.spec.stackName = "" <;>
    simp [lineageProbes, Around, hn, hns] <;> tauto

theorem lineageProbes_pairwise (cell : Cell) (configName : String) :
    (lineageProbes cell configName).Pairwise fun near far => far.depth < near.depth := by
  by_cases hn : cell.spec.spaceName = "" <;> by_cases hns : cell.spec.stackName = "" <;>
    simp [lineageProbes, BindingKey.depth, hn, hns]

theorem around_recorded {cfg : CellConfigDoc} {cell : Cell} (hm : MadeFrom cfg cell) :
    Around cell (configProvenance cfg).bindingRef ↔
      trimSpace cfg.metadata.realm ≠ "" ∧
        (trimSpace cfg.metadata.space = "" → trimSpace cfg.metadata.stack = "") := by
  unfold Around
  rw [hm.realm, hm.space, hm.stack]
  by_cases hr : trimSpace cfg.metadata.realm = "" <;>
    by_cases hs : trimSpace cfg.metadata.space = "" <;>
    by_cases hst : trimSpace cfg.metadata.stack = "" <;>
    simp [configProvenance, defaultScope, hr, hs, hst]

theorem lookupLineageConfig_over (reads : DriftReads) (store : ConfigStore) (cell : Cell)
    (configName : String) :
    lookupLineageConfig (reads.over store) cell configName =
      .ok ((lineageProbes cell configName).findSome? store.find) := by
  unfold lookupLineageConfig
  induction lineageProbes cell configName with
  | nil => rfl
  | cons probe rest ih =>
    rw [firstFound, List.findSome?_cons]
    unfold DriftReads.over at ih ⊢
    dsimp only at ih ⊢
    cases store.find probe with
    | none => exact ih
    | some cfg => rfl

theorem ConfigStore.findSome?_eq_iff (store : ConfigStore) {probes : List BindingKey}
    (hsr : probes.Pairwise fun near far => far.depth < near.depth) (key : BindingKey) :
    probes.findSome? store.find = store.find key ↔
      (store.find key ≠ none → key ∈ probes) ∧
        ∀ other ∈ probes, other ≠ key →
          store.find other = none ∨ store.find key ≠ none ∧ other.depth < key.depth := by
  cases hs : store.find key with
  | none =>
    rw [List.findSome?_eq_none_iff]
    constructor
    · exact fun hf => ⟨fun hfn => absurd rfl hfn, fun other hm _ => .inl (hf other hm)⟩
    · rintro ⟨-, hf⟩ other hm
      by_cases hsm : other = key
      · exact hsm ▸ hs
      · exact (hf other hm hsm).resolve_right fun hfn => hfn.1 rfl
  | some cfg =>
    rw [List.findSome?_eq_some_iff]
    constructor
    · rintro ⟨nearer, probe, further, rfl, hfn, hf⟩
      obtain rfl : probe = key := (store.filed hfn).symm.trans (store.filed hs)
      obtain ⟨-, ht, -⟩ := List.pairwise_append.mp hsr
      refine ⟨fun _ => List.mem_append_right _ List.mem_cons_self, fun other hm ha => ?_⟩
      rcases List.mem_append.mp hm with near | far
      · exact .inl (hf other near)
      · have hlt := (List.mem_cons.mp far).resolve_left ha
        exact .inr ⟨nofun, (List.pairwise_cons.mp ht).1 other hlt⟩
    · rintro ⟨hl, hf⟩
      obtain ⟨nearer, further, rfl⟩ := List.append_of_mem (hl nofun)
      refine ⟨nearer, key, further, rfl, hs, fun other near => ?_⟩
      have hd := (List.pairwise_append.mp hsr).2.2 other near key List.mem_cons_self
      have ha : other ≠ key := by
        rintro rfl
        exact lt_irrefl _ hd
      exact (hf other (List.mem_append_left _ near) ha).resolve_right
        fun hsh => lt_asymm hd hsh.2

/-- The lookup goes to the recorded Config: it finds it, or finds that it is gone. -/
def LineageHonoured (reads : DriftReads) (store : ConfigStore) (cell : Cell)
    (configName : String) : Prop :=
  ∀ binding ∈ recordedBinding cell,
    lookupLineageConfig (reads.over store) cell configName = .ok (store.find binding)

theorem lineageHonoured_iff (reads : DriftReads) (store : ConfigStore) (cfg : CellConfigDoc)
    (cell : Cell) (configName : String) (made : MadeFrom cfg cell)
    (lineage : configLineage cell = some configName) :
    LineageHonoured reads store cell configName ↔
      let binding := (configProvenance cfg).bindingRef
      (store.find binding ≠ none → binding.realm ≠ "" ∧ (binding.space = "" → binding.stack = "")) ∧
        ∀ other, other.name = binding.name → Around cell other → other ≠ binding →
          store.find other = none ∨
            store.find binding ≠ none ∧ other.depth < BindingKey.depth binding := by
  have hn : configName = (configProvenance cfg).bindingRef.name := by
    unfold configLineage at lineage
    rw [made.label] at lineage
    dsimp only at lineage
    split at lineage
    · cases lineage
    · exact (Option.some.inj lineage).symm
  rw [LineageHonoured, made.recorded]
  simp only [Option.mem_some_iff, forall_eq', lookupLineageConfig_over, Except.ok.injEq]
  rw [store.findSome?_eq_iff (lineageProbes_pairwise cell configName), mem_lineageProbes,
    around_recorded made]
  simp only [mem_lineageProbes, and_imp, hn, true_and]
  rfl

def bareReads : DriftReads where
  getConfig _ := .ok none
  getBlueprint _ := .ok none
  reader := .verbatim
  host :=
    { getSpace := fun _ _ => .ok {}
      spaceNetworkConfigPath := fun _ _ => .ok ""
      kukepauseHostPath := ""
      cellEtcHostnamePath := fun _ _ _ _ => ""
      cellEtcHostsPath := fun _ _ _ _ => "" }
  configErrorText _ := ""
  provisionErrorText _ := ""

def devConfig (space : String) : CellConfigDoc where
  metadata := { name := "dev", realm := "main", space := space }

def devStore (spaces : List String) : ConfigStore where
  find key := ("" :: spaces).findSome? fun space =>
    if keyOf (devConfig space) = key then some (devConfig space) else none
  filed found := by
    obtain ⟨space, -, here⟩ := List.exists_of_findSome?_eq_some found
    split at here
    · next same => exact Option.some.inj here ▸ same
    · cases here

def devCell : Cell where
  metadata := { labels := (∅ : Labels).insert labelConfig "dev" }
  spec :=
    { realmName := "main"
      spaceName := "default"
      stackName := "default"
      provenance := some { bindingRef := { name := "dev", realm := "main" } } }

theorem devCell_made : MadeFrom (devConfig "") devCell := by
  constructor <;> decide

theorem lineageHonoured_alone : LineageHonoured bareReads (devStore ["other"]) devCell "dev" := by
  have he : ∀ other ∈ lineageProbes devCell "dev",
      other ≠ (configProvenance (devConfig "")).bindingRef →
      (devStore ["other"]).find other = none := by
    decide
  refine (lineageHonoured_iff _ _ _ _ _ devCell_made (by decide)).mpr ⟨by decide, ?_⟩
  exact fun other hn ha hap =>
    .inl (he other (mem_lineageProbes.mpr ⟨hn, ha⟩) hap)

/-- A Config that was added to the space of the cell takes the place of the recorded one. -/
theorem lineage_not_honoured :
    MadeFrom (devConfig "") devCell ∧ configLineage devCell = some "dev" ∧
      (devStore ["default"]).find (configProvenance (devConfig "")).bindingRef =
        some (devConfig "") ∧
      lookupLineageConfig (bareReads.over (devStore ["default"])) devCell "dev" =
        .ok (some (devConfig "default")) ∧
      ¬ LineageHonoured bareReads (devStore ["default"]) devCell "dev" := by
  have hf : lookupLineageConfig (bareReads.over (devStore ["default"])) devCell "dev" =
      .ok (some (devConfig "default")) := by
    rw [lookupLineageConfig_over]
    rfl
  refine ⟨devCell_made, by decide, rfl, hf, fun hh => ?_⟩
  have hsm := hf.symm.trans (hh _ rfl)
  have hs := congrArg (fun cfg => cfg.metadata.space) (Option.some.inj (Except.ok.inj hsm))
  revert hs
  decide

end Kukeon.Controller
