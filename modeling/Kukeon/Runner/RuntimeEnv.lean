import Kukeon.ApiScheme.Cell
import Kukeon.CellConfig.Materialize
import Kukeon.Lib.Keyed

/-! # The environment of one run

`kuke create cell --env` bakes its overrides into the document, `kuke run --env` lays them over the
container as it is created, in `cell_runtime_env.go` of `internal/controller/runner`. The first picks
its container by index from the document as it is written and the second by ID from the cell that was
created, whose IDs are trimmed. They agree on every cell whose containers have distinct IDs without
blanks around them, none of them empty: an empty ID is how the second says that it has found nothing.
-/

namespace Kukeon.Runner.RuntimeEnv

open GoText CellConfig V1Beta1

def resolveAttachableContainerID (spec : ModelHub.CellSpec) : String :=
  let preferred := (spec.tty.map fun tty => trimSpace tty.default).getD ""
  let named :=
    if preferred = "" then none
    else spec.containers.find? fun container => !container.root && container.id == preferred
  let attachable := spec.containers.find? fun container => !container.root && container.attachable
  ((named.or attachable).map ModelHub.ContainerSpec.id).getD ""

def mergeRuntimeEnv (specEnv runtimeEnv : List String) : List String :=
  if runtimeEnv = [] then specEnv
  else
    let merged := specEnv.filter fun entry => !(runtimeEnv.map envKey).contains (envKey entry)
    merged ++ runtimeEnv

def mergeRuntimeEnvForContainer (attachableID : String) (runtimeEnv : List String)
    (spec : ModelHub.ContainerSpec) : ModelHub.ContainerSpec :=
  if runtimeEnv = [] then spec
  else if attachableID = "" ∨ spec.id ≠ attachableID then spec
  else { spec with env := mergeRuntimeEnv spec.env runtimeEnv }

def overlaid (spec : ModelHub.CellSpec) (runtimeEnv : List String) : List ModelHub.ContainerSpec :=
  spec.containers.map
    (mergeRuntimeEnvForContainer (resolveAttachableContainerID spec) runtimeEnv)

section Merging

variable {env overrides : List String}

theorem mergeEnv_eq (env overrides : List String) :
    mergeEnv env overrides =
      (env.filter fun entry => envKey entry ∉ overrides.map envKey) ++ overrides := by
  unfold mergeEnv
  split
  · next hn => simp [hn]
  · simp only [List.contains_eq_mem, decide_not]

theorem filter_mergeEnv {p : String → Bool}
    (ha : ∀ entry, p entry = true → envKey entry ∉ overrides.map envKey) :
    (mergeEnv env overrides).filter p = env.filter p := by
  have hn : overrides.filter p = [] := by
    rw [List.filter_eq_nil_iff]
    intro entry hm hk
    exact ha entry hk (List.mem_map_of_mem hm)
  rw [mergeEnv_eq, List.filter_append, hn, List.append_nil, List.filter_filter]
  congr 1
  funext entry
  cases hk : p entry with
  | false => simp
  | true => simpa using ha entry hk

def entriesFor (key : String) (env : List String) : List String :=
  env.filter fun entry => envKey entry = key

theorem entriesFor_mergeEnv (hds : (overrides.map envKey).Nodup) {entry : String}
    (hg : entry ∈ overrides) : entriesFor (envKey entry) (mergeEnv env overrides) = [entry] := by
  have hd : entriesFor (envKey entry)
      (env.filter fun other => envKey other ∉ overrides.map envKey) = [] := by
    unfold entriesFor
    rw [List.filter_filter, List.filter_eq_nil_iff]
    intro other _ hb
    simp only [Bool.and_eq_true, decide_eq_true_eq] at hb
    exact hb.2 (hb.1 ▸ List.mem_map_of_mem hg)
  have ho : entriesFor (envKey entry) overrides = [entry] := by
    clear hd
    induction overrides with
    | nil => cases hg
    | cons first rest ih =>
      obtain ⟨hf, hl⟩ := List.nodup_cons.mp hds
      unfold entriesFor
      rcases List.mem_cons.mp hg with rfl | hi
      · have hn : (rest.filter fun other => envKey other = envKey entry) = [] := by
          rw [List.filter_eq_nil_iff]
          intro other hm hs
          exact hf (of_decide_eq_true hs ▸ List.mem_map_of_mem hm)
        simp [hn]
      · have other : envKey first ≠ envKey entry :=
          fun hs => hf (hs ▸ List.mem_map_of_mem hi)
        simpa [other, entriesFor] using ih hl hi
  rw [mergeEnv_eq, entriesFor, List.filter_append]
  exact congrArg₂ (· ++ ·) hd ho

theorem mergeEnv_mergeEnv (env overrides : List String) :
    mergeEnv (mergeEnv env overrides) overrides = mergeEnv env overrides := by
  rw [mergeEnv_eq (mergeEnv env overrides), filter_mergeEnv (by simp), ← mergeEnv_eq]

end Merging

def target (spec : CellSpec) : Option ContainerSpec :=
  (resolveAttachableContainerIndex spec).bind (spec.containers[·]?)

def converted (decode : Nat) (doc : CellDoc) : ModelHub.CellSpec :=
  ApiScheme.convertCellSpecToInternal decode doc.spec

section Target

variable (decode : Nat) (doc : CellDoc)

theorem map_converted {κ : Type} (key : ContainerSpec → κ) (read : ModelHub.ContainerSpec → κ)
    (hs : ∀ i container,
      read (ApiScheme.convertContainerSpecToInternal decode i container) = key container) :
    (converted decode doc).containers.map read = doc.spec.containers.map key := by
  refine List.ext_getElem? fun j => ?_
  simp [converted, ApiScheme.convertCellSpecToInternal, Function.comp_def, hs]

def preferred (spec : CellSpec) : String := (spec.tty.map fun tty => trimSpace tty.default).getD ""

theorem index_eq (spec : CellSpec) :
    resolveAttachableContainerIndex spec =
      (if preferred spec = "" then none
        else spec.containers.findIdx? fun container =>
          !container.root && container.id == preferred spec).or
        (spec.containers.findIdx? fun container => !container.root && container.attachable) := rfl

theorem container_at {spec : CellSpec} {i : Nat}
    (hin : resolveAttachableContainerIndex spec = some i) :
    ∃ container, spec.containers[i]? = some container := by
  have hi : ∀ {p : ContainerSpec → Bool}, spec.containers.findIdx? p = some i →
      ∃ container, spec.containers[i]? = some container := fun hf =>
    ⟨_, List.getElem?_eq_getElem (List.findIdx?_eq_some_iff_getElem.mp hf).1⟩
  rw [index_eq, Option.or_eq_some_iff] at hin
  rcases hin with hn | ⟨-, ha⟩
  · split at hn
    · cases hn
    · exact hi hn
  · exact hi ha

theorem target_eq (spec : CellSpec) :
    target spec =
      (if preferred spec = "" then none
        else spec.containers.find? fun container =>
          !container.root && container.id == preferred spec).or
        (spec.containers.find? fun container => !container.root && container.attachable) := by
  unfold target
  rw [index_eq, List.find?_eq_bind_findIdx?_getElem?, List.find?_eq_bind_findIdx?_getElem?]
  split
  · rfl
  · cases hf : spec.containers.findIdx? fun container =>
        !container.root && container.id == preferred spec with
    | none => rfl
    | some i =>
      have hi := (List.findIdx?_eq_some_iff_getElem.mp hf).1
      simp [List.getElem?_eq_getElem hi]

theorem tty_converted :
    ((converted decode doc).tty.map fun tty => trimSpace tty.default).getD "" =
      preferred doc.spec := by
  have hb : trimSpace "" = "" := by decide
  cases hg : doc.spec.tty with
  | none => simp [converted, preferred, ApiScheme.convertCellSpecToInternal, hg,
      ApiScheme.convertCellTtyToInternal]
  | some tty =>
    by_cases he : tty.default = ""
    · simp [converted, preferred, ApiScheme.convertCellSpecToInternal, hg,
        ApiScheme.convertCellTtyToInternal, he, hb]
    · simp [converted, preferred, ApiScheme.convertCellSpecToInternal, hg,
        ApiScheme.convertCellTtyToInternal, he]

theorem resolveAttachableContainerID_converted :
    resolveAttachableContainerID (converted decode doc) =
      ((target doc.spec).map ContainerSpec.id).getD "" := by
  have hp : ∀ q : Bool × String × Bool → Bool,
      ((converted decode doc).containers.find? fun container =>
          q (container.root, container.id, container.attachable)).map ModelHub.ContainerSpec.id =
        (doc.spec.containers.find? fun container =>
          q (container.root, container.id, container.attachable)).map ContainerSpec.id := by
    intro q
    have hs := map_converted decode doc (κ := Bool × String × Bool)
      (fun container => (container.root, container.id, container.attachable))
      (fun container => (container.root, container.id, container.attachable)) fun _ _ => rfl
    simpa [List.find?_map, Function.comp_def] using
      congrArg (fun picked => (picked.find? q).map fun found => found.2.1) hs
  have hm : ∀ {γ : Type} (f : γ → String) (first second : Option γ),
      (first.or second).map f = (first.map f).or (second.map f) := by
    intro γ f first second
    cases first <;> rfl
  unfold resolveAttachableContainerID
  dsimp only
  rw [target_eq, hm, hm, tty_converted]
  rw [hp fun (root, _, attachable) => !root && attachable]
  split
  · rfl
  · rw [hp fun (root, id, _) => !root && id == preferred doc.spec]

theorem target_insert_root {before after : List ContainerSpec} {root : ContainerSpec}
    (hs : doc.spec.containers = before ++ after) (hi : root.root = true) :
    target { doc.spec with containers := before ++ root :: after } = target doc.spec := by
  rw [target_eq, target_eq, hs]
  simp [preferred, List.find?_append, hi]

end Target

section Overlay

variable (decode : Nat) (doc : CellDoc)

def bakedAt (index : Option Nat) (overrides : List String)
    (containers : List ModelHub.ContainerSpec) : List ModelHub.ContainerSpec :=
  match index with
  | none => containers
  | some i => containers.modify i fun spec => { spec with env := mergeEnv spec.env overrides }

theorem bakedAt_nil (index : Option Nat) (containers : List ModelHub.ContainerSpec) :
    bakedAt index [] containers = containers := by
  have hs : (fun spec : ModelHub.ContainerSpec => { spec with env := mergeEnv spec.env [] }) = id :=
    rfl
  cases index with
  | none => rfl
  | some i => rw [bakedAt, hs, List.modify_id]

theorem converted_applyEnvOverrides (overrides : List String) :
    (converted decode (applyEnvOverrides doc overrides)).containers =
      bakedAt (resolveAttachableContainerIndex doc.spec) overrides
        (converted decode doc).containers := by
  by_cases hn : overrides = []
  · rw [hn, bakedAt_nil]
    rfl
  · unfold applyEnvOverrides
    rw [if_neg hn]
    cases resolveAttachableContainerIndex doc.spec with
    | none => rfl
    | some i =>
      refine List.ext_getElem? fun j => ?_
      simp only [converted, ApiScheme.convertCellSpecToInternal, bakedAt, List.getElem?_mapIdx,
        List.getElem?_modify]
      cases doc.spec.containers[j]? with
      | none => rfl
      | some container =>
        by_cases hh : i = j
        · simp [hh, ApiScheme.convertContainerSpecToInternal]
        · simp [hh]

theorem overlaid_eq (hd : (doc.spec.containers.map ContainerSpec.id).Nodup)
    (hnm : ∀ container ∈ doc.spec.containers, container.id ≠ "") (overrides : List String) :
    overlaid (converted decode doc) overrides =
      bakedAt (resolveAttachableContainerIndex doc.spec) overrides
        (converted decode doc).containers := by
  by_cases hnn : overrides = []
  · have hs : mergeRuntimeEnvForContainer
        (resolveAttachableContainerID (converted decode doc)) [] = id := by
      funext spec
      rfl
    rw [hnn, bakedAt_nil, overlaid, hs, List.map_id]
  · have ids := map_converted decode doc ContainerSpec.id ModelHub.ContainerSpec.id fun _ _ => rfl
    have hp := resolveAttachableContainerID_converted decode doc
    unfold overlaid mergeRuntimeEnvForContainer
    simp only [if_neg hnn]
    cases hi : resolveAttachableContainerIndex doc.spec with
    | none =>
      rw [target, hi] at hp
      simp [hp, bakedAt]
    | some i =>
      obtain ⟨container, hf⟩ := container_at hi
      rw [target, hi, Option.bind_some, hf] at hp
      have hn := hnm container (List.mem_of_getElem? hf)
      have ht : (converted decode doc).containers[i]? =
          some (ApiScheme.convertContainerSpecToInternal decode i container) := by
        simp [converted, ApiScheme.convertCellSpecToInternal, hf]
      rw [bakedAt, ← Slices.map_eq_modify (ids ▸ hd) ht]
      refine List.map_congr_left fun spec _ => ?_
      simp only [hp, Option.map_some, Option.getD_some, hn, false_or, ite_not]
      rfl

theorem map_applyEnvOverrides {κ : Type} (key : ContainerSpec → κ)
    (hk : ∀ container env, key { container with env := env } = key container)
    (overrides : List String) :
    (applyEnvOverrides doc overrides).spec.containers.map key = doc.spec.containers.map key := by
  unfold applyEnvOverrides
  split
  · rfl
  · dsimp only
    split
    · rfl
    · exact Slices.map_modify_of_keeps (fun container => hk container _) _ _

theorem index_applyEnvOverrides (overrides : List String) :
    resolveAttachableContainerIndex (applyEnvOverrides doc overrides).spec =
      resolveAttachableContainerIndex doc.spec := by
  have tty : preferred (applyEnvOverrides doc overrides).spec = preferred doc.spec := by
    unfold applyEnvOverrides
    split <;> rfl
  have hf : ∀ q : Bool × String × Bool → Bool,
      ((applyEnvOverrides doc overrides).spec.containers.findIdx? fun container =>
          q (container.root, container.id, container.attachable)) =
        doc.spec.containers.findIdx? fun container =>
          q (container.root, container.id, container.attachable) := by
    intro q
    have hs := congrArg (List.findIdx? q) (map_applyEnvOverrides doc
      (fun container => (container.root, container.id, container.attachable))
      (fun _ _ => rfl) overrides)
    rwa [List.findIdx?_map, List.findIdx?_map] at hs
  rw [index_eq, index_eq, tty, hf fun (root, _, attachable) => !root && attachable,
    hf fun (root, id, _) => !root && id == preferred doc.spec]

theorem overlaid_applyEnvOverrides (hd : (doc.spec.containers.map ContainerSpec.id).Nodup)
    (hn : ∀ container ∈ doc.spec.containers, container.id ≠ "") (first second : List String) :
    overlaid (converted decode (applyEnvOverrides doc first)) second =
      bakedAt (resolveAttachableContainerIndex doc.spec) second
        (bakedAt (resolveAttachableContainerIndex doc.spec) first
          (converted decode doc).containers) := by
  have ids := map_applyEnvOverrides doc ContainerSpec.id (fun _ _ => rfl) first
  have hs : ∀ container ∈ (applyEnvOverrides doc first).spec.containers,
      container.id ≠ "" := by
    intro container hm
    have hl : container.id ∈ doc.spec.containers.map ContainerSpec.id :=
      ids ▸ List.mem_map_of_mem hm
    obtain ⟨given, ht, hsm⟩ := List.mem_map.mp hl
    exact hsm ▸ hn given ht
  rw [overlaid_eq decode _ (ids ▸ hd) hs, index_applyEnvOverrides,
    converted_applyEnvOverrides]

theorem applyEnvOverrides_again (overrides : List String) :
    applyEnvOverrides (applyEnvOverrides doc overrides) overrides =
      applyEnvOverrides doc overrides := by
  have hi := index_applyEnvOverrides doc overrides
  by_cases hn : overrides = []
  · rw [hn]
    rfl
  · unfold applyEnvOverrides at hi ⊢
    simp only [if_neg hn] at hi ⊢
    rw [hi]
    cases resolveAttachableContainerIndex doc.spec with
    | none => simp [Option.map_map, Function.comp_def]
    | some i =>
      simp [Option.map_map, Function.comp_def, List.modify_modify_eq, mergeEnv_mergeEnv]

theorem bakedAt_bakedAt (index : Option Nat) (overrides : List String)
    (containers : List ModelHub.ContainerSpec) :
    bakedAt index overrides (bakedAt index overrides containers) =
      bakedAt index overrides containers := by
  cases index with
  | none => rfl
  | some i =>
    unfold bakedAt
    dsimp only
    rw [List.modify_modify_eq]
    congr 1
    funext spec
    simp [mergeEnv_mergeEnv]

end Overlay

/-- The cell of a document with the trimmed IDs. -/
def trimmed (doc : CellDoc) : CellDoc :=
  { doc with
    spec :=
      { doc.spec with
        containers := doc.spec.containers.map fun container =>
          { container with id := trimSpace container.id } } }

/-- The cell as it is created and started: `normalizeCellInputs` of `create_cell.go` has trimmed the IDs
    of its containers. -/
def internal (decode : Nat) (doc : CellDoc) : ModelHub.CellSpec :=
  { converted decode doc with
    containers := (converted decode doc).containers.map fun container =>
      { container with id := trimSpace container.id } }

theorem internal_eq (decode : Nat) (doc : CellDoc) :
    internal decode doc = converted decode (trimmed doc) := by
  have same : (internal decode doc).containers = (converted decode (trimmed doc)).containers := by
    refine List.ext_getElem? fun j => ?_
    simp only [internal, converted, trimmed, ApiScheme.convertCellSpecToInternal, List.getElem?_map,
      List.getElem?_mapIdx, Option.map_map]
    rfl
  rw [show converted decode (trimmed doc) = { converted decode doc with
    containers := (converted decode (trimmed doc)).containers } from rfl, ← same]
  rfl

theorem trimmed_eq {doc : CellDoc}
    (plain : ∀ container ∈ doc.spec.containers, trimSpace container.id = container.id) :
    trimmed doc = doc := by
  have same : (doc.spec.containers.map fun container =>
      { container with id := trimSpace container.id }) = doc.spec.containers := by
    refine (List.map_congr_left fun container member => ?_).trans (List.map_id _)
    rw [plain container member]
    rfl
  rw [trimmed, same]

/-- The two overlays agree, and an overlay at start goes over the one that was baked in. -/
structure OverlaysAgree (decode : Nat) (doc : CellDoc) (first second : List String) : Prop where
  target : resolveAttachableContainerID (internal decode doc) =
    ((target doc.spec).map ContainerSpec.id).getD ""
  rooted : ∀ before root after, doc.spec.containers = before ++ after → root.root = true →
    let grown := { doc with spec := { doc.spec with containers := before ++ root :: after } }
    RuntimeEnv.target grown.spec = RuntimeEnv.target doc.spec ∧
      resolveAttachableContainerID (internal decode grown) =
        resolveAttachableContainerID (internal decode doc)
  same : overlaid (internal decode doc) first =
    (internal decode (applyEnvOverrides doc first)).containers
  values : ∀ i container, resolveAttachableContainerIndex doc.spec = some i →
    doc.spec.containers[i]? = some container →
    ∃ env, (overlaid (internal decode (applyEnvOverrides doc first)) second)[i]? =
        some { ApiScheme.convertContainerSpecToInternal decode i container with env := env } ∧
      (∀ entry ∈ second, entriesFor (envKey entry) env = [entry]) ∧
      (∀ entry ∈ first, envKey entry ∉ second.map envKey →
        entriesFor (envKey entry) env = [entry]) ∧
      let untouched := fun entry => decide (envKey entry ∉ (first ++ second).map envKey)
      env.filter untouched = container.env.filter untouched
  others : ∀ i, resolveAttachableContainerIndex doc.spec ≠ some i →
    (overlaid (internal decode (applyEnvOverrides doc first)) second)[i]? =
      (internal decode doc).containers[i]?
  again : applyEnvOverrides (applyEnvOverrides doc first) first = applyEnvOverrides doc first ∧
    overlaid (internal decode (applyEnvOverrides doc first)) first =
      overlaid (internal decode doc) first

end Kukeon.Runner.RuntimeEnv
