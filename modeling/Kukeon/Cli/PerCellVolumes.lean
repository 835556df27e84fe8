import Kukeon.Cli.CreateCell

/-! # Volumes of one cell

A volume mount templated with `${CELL_NAME}` should name a volume of its own for every cell
stamped from the binding. The volumes are filled in before the name of the cell is settled. With
an explicit name the two agree. Without one a Config fills in nothing and a Blueprint fills in a
name that is thrown away, so the cells of a Config share the volume.
-/

namespace Kukeon.Cli

open V1Beta1 GoText Naming
open CellBlueprint (PerCell cellNameVar expandVolume volumeText)

structure Scope where
  realm : String
  space : String
  stack : String
  deriving DecidableEq

def cellScope (doc : CellDoc) : Scope where
  realm := doc.spec.realmID
  space := doc.spec.spaceID
  stack := doc.spec.stackID

def volumeHome (scope : Scope) (mount : VolumeMount) : Scope :=
  match mount.volumeRef with
  | some ref => { realm := ref.realm, space := ref.space, stack := ref.stack }
  | none => scope

/-- `volumeForEnsureMount` of `internal/controller/percell_volume.go`: the name and the
    coordinates of the volume that a mount of a cell in `scope` is provisioned with. -/
def volumeForEnsureMount (scope : Scope) (mount : VolumeMount) : String × Scope :=
  (volumeText mount, volumeHome scope mount)

def mounts (doc : CellDoc) : List VolumeMount := doc.spec.containers.flatMap (·.volumes)

/-- The volume mounts of a Blueprint, in the order of its containers. -/
def templateMounts (bp : CellBlueprintDoc) : List VolumeMount :=
  bp.spec.cell.containers.flatMap (·.volumes)

/-- What is settled before any name: the resolved Blueprint, the kind of binding it was reached
    through and the scope of the cell. -/
structure Plan where
  resolved : CellBlueprintDoc
  fromConfig : Bool
  scope : Scope

def planFromConfig (inv : Invocation) (ref : CellBindingRef) (scope : CellConfigDoc → Scope) :
    Except CreateError Plan := do
  let cfg ← getConfig inv ref
  let bp ← getBlueprint inv cfg.spec.blueprint
  let resolved ← (CellConfig.resolvedBlueprint inv.reader cfg bp).mapError .config
  return { resolved := resolved, fromConfig := true, scope := scope cfg }

def planFromBlueprint (inv : Invocation) (ref : CellBindingRef) (recorded : ModelHub.Labels)
    (scope : CellBlueprintDoc → Scope) : Except CreateError Plan := do
  let cliParams ← buildParamMap inv
  let bp ← getBlueprint inv ref
  let resolved ←
    (CellBlueprint.resolve inv.reader bp (mergeParams recorded cliParams)
      (some inv.lookupEnv)).mapError .blueprint
  return { resolved := resolved, fromConfig := false, scope := scope resolved }

/-- The plan of a run. The scope of a stamped cell does not depend on its name, so the name left
    blank here says nothing. -/
def planned (inv : Invocation) : Except CreateError Plan :=
  if inv.flags.cloneSource ≠ "" then do
    let source ← resolveSourceCell inv
    match source.spec.provenance with
    | none => throw (.noProvenance source.metadata.name)
    | some provenance =>
      if provenance.bindingKind = bindingKindConfig then
        planFromConfig inv provenance.bindingRef fun _ => cellScope source
      else
        planFromBlueprint inv provenance.bindingRef provenance.params fun _ => cellScope source
  else if inv.flags.blueprintName ≠ "" then
    planFromBlueprint inv (lookupRef inv inv.flags.blueprintName) ∅ fun resolved =>
      cellScope (overlayScope (CellBlueprint.stampedCell resolved ∅ "") inv.flags)
  else
    planFromConfig inv (lookupRef inv inv.flags.configName) fun cfg =>
      cellScope (overlayScope (CellConfig.stampedCell cfg {} [] "") inv.flags)

/-- A cell that comes out of its plan: `filled` is the name its volumes are expanded with. -/
structure Stamped (inv : Invocation) (plan : Plan) (filled : String) (cell : CellDoc) : Prop where
  mounts_eq : mounts cell = (templateMounts plan.resolved).map (expandVolume filled)
  scope_eq : cellScope cell = plan.scope
  explicit : trimSpace inv.flags.name ≠ "" →
    filled = trimSpace inv.flags.name ∧ cell.metadata.name = trimSpace inv.flags.name
  generated : trimSpace inv.flags.name = "" → cell.metadata.name ≠ ""
  config : trimSpace inv.flags.name = "" → plan.fromConfig = true → filled = ""

def redraw (draws : Draws) (suffix : Suffix) : Draws
  | 0 => some suffix
  | attempt + 1 => draws (attempt + 1)

theorem mounts_expandPerCellVolumes (cellName : String) (containers : List ContainerSpec) :
    (CellBlueprint.expandPerCellVolumes cellName containers).flatMap (·.volumes) =
      (containers.flatMap (·.volumes)).map (expandVolume cellName) := by
  simp [CellBlueprint.expandPerCellVolumes, List.flatMap_map, List.map_flatMap]

theorem mounts_blueprint (resolved : CellBlueprintDoc) (params : ModelHub.Labels)
    (cellName : String) :
    mounts (CellBlueprint.stampedCell resolved params cellName) =
      (templateMounts resolved).map (expandVolume cellName) := by
  simp only [mounts, CellBlueprint.stampedCell, mounts_expandPerCellVolumes, templateMounts,
    List.flatMap_map]
  rfl

variable {inv : Invocation} {draws : Draws} {pre : String} {cell : CellDoc} {cfg : CellConfigDoc}
  {plan : Plan} {resolved : CellBlueprintDoc} {filled : String} {params : ModelHub.Labels}

theorem volumes_materializeContainer {bc : BlueprintContainer} {container : ContainerSpec}
    (hm : CellConfig.materializeContainer cfg bc = .ok container) :
    container.volumes = bc.volumes := by
  simp only [CellConfig.materializeContainer, Outcome.bind_eq_ok, Outcome.pure_eq_ok] at hm
  obtain ⟨repos, -, secrets, -, rfl⟩ := hm
  rfl

theorem mounts_config {containers : List ContainerSpec} (cellName : String)
    (hm : resolved.spec.cell.containers.mapM (CellConfig.materializeContainer cfg) =
      .ok containers) :
    mounts (CellConfig.stampedCell cfg resolved containers cellName) =
      (templateMounts resolved).map (expandVolume cellName) := by
  have hv : containers.flatMap (·.volumes) = templateMounts resolved := by
    have he := Outcome.mapM_eq_ok.mp hm
    rw [templateMounts]
    clear hm
    generalize resolved.spec.cell.containers = templates at he
    induction he with
    | nil => rfl
    | cons hf _ ih => simp [volumes_materializeContainer hf, ih]
  simp only [mounts, CellConfig.stampedCell, mounts_expandPerCellVolumes, hv]

theorem mounts_overlayScope (doc : CellDoc) (flags : SourceFlags) :
    mounts (overlayScope doc flags) = mounts doc := rfl

theorem scope_overlayScope {doc other : CellDoc} (hs : cellScope doc = cellScope other)
    (flags : SourceFlags) :
    cellScope (overlayScope doc flags) = cellScope (overlayScope other flags) := by
  simp only [cellScope, Scope.mk.injEq] at hs
  simp only [cellScope, overlayScope, hs]

theorem mounts_applyEnvOverrides (doc : CellDoc) (envArgs : List String) :
    mounts (CellConfig.applyEnvOverrides doc envArgs) = mounts doc := by
  have hk : ∀ (containers : List ContainerSpec) (idx : Nat),
      (containers.modify idx fun container =>
        { container with env := CellConfig.mergeEnv container.env envArgs }).flatMap
          (·.volumes) = containers.flatMap (·.volumes) := by
    intro containers
    induction containers with
    | nil => intro idx; cases idx <;> rfl
    | cons container rest ih =>
      intro idx
      cases idx with
      | zero => rfl
      | succ idx => simp [List.modify_succ_cons, ih idx]
  unfold CellConfig.applyEnvOverrides
  split
  · rfl
  · simp only [mounts]
    split
    · rfl
    · exact hk _ _

theorem finalizeCellName_eq_ok {doc cell : CellDoc} :
    finalizeCellName inv doc pre draws = .ok cell ↔
      ∃ name, resolveCellName inv doc.spec pre draws = .ok name ∧ withName doc name = cell := by
  simp only [finalizeCellName, Outcome.bind_eq_ok, Outcome.pure_eq_ok]

theorem resolveCellName_explicit {spec : CellSpec} {pre name : String}
    (hg : trimSpace inv.flags.name ≠ "")
    (ha : resolveCellName inv spec pre draws = .ok name) :
    name = trimSpace inv.flags.name := by
  rw [resolveCellName, Outcome.mapError_eq_ok, allocCellName_of_explicit hg] at ha
  exact (Except.ok.inj ha).symm

theorem resolveCellName_generated {spec : CellSpec} {pre name : String}
    (ho : trimSpace inv.flags.name = "")
    (ha : resolveCellName inv spec pre draws = .ok name) : name ≠ "" := by
  rw [resolveCellName, Outcome.mapError_eq_ok] at ha
  obtain ⟨suffix, rfl⟩ := allocCellName_generated ho ha
  exact generatedName_ne_empty pre suffix

/-- A document that follows its plan but for the name: `filled` is what its volumes are expanded
    with. -/
structure Drafted (inv : Invocation) (plan : Plan) (filled : String) (doc : CellDoc) : Prop where
  mounts_eq : mounts doc = (templateMounts plan.resolved).map (expandVolume filled)
  scope_eq : cellScope doc = plan.scope
  explicit : trimSpace inv.flags.name ≠ "" → filled = trimSpace inv.flags.name
  config : trimSpace inv.flags.name = "" → plan.fromConfig = true → filled = ""

theorem Drafted.stamped {doc : CellDoc} (hd : Drafted inv plan filled doc)
    (hf : finalizeCellName inv doc pre draws = .ok cell) : Stamped inv plan filled cell := by
  obtain ⟨name, ha, rfl⟩ := finalizeCellName_eq_ok.mp hf
  exact
    { mounts_eq := hd.mounts_eq
      scope_eq := hd.scope_eq
      explicit := fun hg => ⟨hd.explicit hg, resolveCellName_explicit hg ha⟩
      generated := fun ho => resolveCellName_generated ho ha
      config := hd.config }

/-- The volumes, the place and the name of the document are left as they are. -/
structure Spares (finish : CellDoc → CellDoc) : Prop where
  mounts_eq : ∀ doc, mounts (finish doc) = mounts doc
  scope_eq : ∀ doc, cellScope (finish doc) = cellScope doc
  name_eq : ∀ doc, (finish doc).metadata.name = doc.metadata.name

theorem Spares.comp {first last : CellDoc → CellDoc} (hf : Spares first) (hl : Spares last) :
    Spares (last ∘ first) :=
  ⟨fun _ => (hl.mounts_eq _).trans (hf.mounts_eq _), fun _ => (hl.scope_eq _).trans (hf.scope_eq _),
    fun _ => (hl.name_eq _).trans (hf.name_eq _)⟩

theorem Stamped.finish {finish : CellDoc → CellDoc} (hs : Stamped inv plan filled cell)
    (hf : Spares finish) : Stamped inv plan filled (finish cell) where
  mounts_eq := (hf.mounts_eq cell).trans hs.mounts_eq
  scope_eq := (hf.scope_eq cell).trans hs.scope_eq
  explicit hg := ⟨(hs.explicit hg).1, (hf.name_eq cell).trans (hs.explicit hg).2⟩
  generated ho := hf.name_eq cell ▸ hs.generated ho
  config := hs.config

theorem finalizeCellName_same_scope {doc other cell : CellDoc}
    (hf : finalizeCellName inv doc pre draws = .ok cell)
    (hs : cellScope other = cellScope doc) :
    finalizeCellName inv other pre draws = .ok (withName other cell.metadata.name) := by
  obtain ⟨name, ha, rfl⟩ := finalizeCellName_eq_ok.mp hf
  refine finalizeCellName_eq_ok.mpr ⟨name, ?_, rfl⟩
  simp only [cellScope, Scope.mk.injEq] at hs
  simpa only [resolveCellName, hs] using ha

/-- What a run with no name given can do about a first reading it made: any other would have led
    to the same name, with other volumes. -/
def Redrawable (inv : Invocation) (plan : Plan) (run : Draws → Except CreateError CellDoc)
    (draws : Draws) (cell : CellDoc) : Prop :=
  trimSpace inv.flags.name = "" → plan.fromConfig = false → ∀ suffix,
    ∃ other, run (redraw draws suffix) = .ok other ∧
      Stamped inv plan (generatedName (CellBlueprint.cellPrefix plan.resolved) suffix) other ∧
      other.metadata.name = cell.metadata.name

/-- The steps of every source once its plan is settled: `made` drafts the document with the first
    reading, and the later ones are those of the name. -/
def stampTail (inv : Invocation) (made : Option Suffix → Except CreateError CellDoc) (pre : String)
    (finish : CellDoc → CellDoc) (draws : Draws) : Except CreateError CellDoc := do
  let doc ← made (draws 0)
  let named ← finalizeCellName inv doc pre fun i => draws (i + 1)
  return finish named

structure Drafts (inv : Invocation) (plan : Plan)
    (made : Option Suffix → Except CreateError CellDoc) : Prop where
  drafted : ∀ draw doc, made draw = .ok doc → ∃ filled, Drafted inv plan filled doc
  redrawn : trimSpace inv.flags.name = "" → plan.fromConfig = false → ∀ draw doc,
    made draw = .ok doc → ∀ suffix, ∃ other, made (some suffix) = .ok other ∧
      Drafted inv plan (generatedName (CellBlueprint.cellPrefix plan.resolved) suffix) other

theorem stampTail_stamped {made : Option Suffix → Except CreateError CellDoc}
    {finish : CellDoc → CellDoc} (hd : Drafts inv plan made) (hs : Spares finish)
    (ran : stampTail inv made pre finish draws = .ok cell) :
    (∃ filled, Stamped inv plan filled cell) ∧
      Redrawable inv plan (stampTail inv made pre finish) draws cell := by
  simp only [stampTail, Outcome.bind_eq_ok, Outcome.pure_eq_ok] at ran
  obtain ⟨doc, hm, named, hf, rfl⟩ := ran
  obtain ⟨filled, hdr⟩ := hd.drafted _ doc hm
  refine ⟨⟨filled, (hdr.stamped hf).finish hs⟩, ?_⟩
  intro ho hfb suffix
  obtain ⟨other, hom, hod⟩ := hd.redrawn ho hfb _ doc hm suffix
  have hn := finalizeCellName_same_scope hf (hod.scope_eq.trans hdr.scope_eq.symm)
  refine ⟨_, ?_, (hod.stamped hn).finish hs, ?_⟩
  · simp only [stampTail, Outcome.bind_eq_ok, Outcome.pure_eq_ok]
    exact ⟨other, hom, _, hn, rfl⟩
  · rw [hs.name_eq, hs.name_eq]
    rfl

theorem spares_applyIgnoreDiskPressure (flags : SourceFlags) :
    Spares (applyIgnoreDiskPressure · flags) := by
  unfold applyIgnoreDiskPressure
  split
  · exact ⟨fun _ => rfl, fun _ => rfl, fun _ => rfl⟩
  · exact ⟨fun _ => rfl, fun _ => rfl, fun _ => rfl⟩

theorem spares_applyEnvOverrides (envArgs : List String) :
    Spares (CellConfig.applyEnvOverrides · envArgs) := by
  refine ⟨(mounts_applyEnvOverrides · envArgs), ?_, ?_⟩
  all_goals
    intro doc
    unfold CellConfig.applyEnvOverrides
    split <;> rfl

/-- The document of a Blueprint: `place` settles the scope. Without a name, its volumes are filled
    with the name of any reading it gets. -/
theorem drafts_blueprint (params : ModelHub.Labels) (place : CellDoc → CellDoc)
    (hp : ∀ name, mounts (place (CellBlueprint.stampedCell plan.resolved params name)) =
        mounts (CellBlueprint.stampedCell plan.resolved params name) ∧
      cellScope (place (CellBlueprint.stampedCell plan.resolved params name)) = plan.scope)
    (hfb : plan.fromConfig = false) :
    Drafts inv plan fun draw => do
      let doc ← (CellBlueprint.materializeWithName plan.resolved inv.flags.name params draw).mapError
        .blueprint
      return place doc := by
  have hd : ∀ filled, (trimSpace inv.flags.name ≠ "" → filled = trimSpace inv.flags.name) →
      Drafted inv plan filled (place (CellBlueprint.stampedCell plan.resolved params filled)) :=
    fun filled he => ⟨(hp filled).1.trans (mounts_blueprint ..), (hp filled).2, he, fun _ hf => by
      simp [hfb] at hf⟩
  constructor
  · intro draw doc hm
    simp only [Outcome.bind_eq_ok, Outcome.pure_eq_ok, Outcome.mapError_eq_ok] at hm
    obtain ⟨stamped, hm, rfl⟩ := hm
    obtain ⟨filled, hc, -, rfl⟩ := CellBlueprint.materializeWithName_eq_ok.mp hm
    refine ⟨filled, hd filled fun hg => ?_⟩
    simpa [CellBlueprint.resolveCellName, hg, eq_comm] using hc
  · intro ho _ draw doc hm suffix
    simp only [Outcome.bind_eq_ok, Outcome.pure_eq_ok, Outcome.mapError_eq_ok] at hm ⊢
    obtain ⟨stamped, hm, rfl⟩ := hm
    obtain ⟨-, -, hu, -⟩ := CellBlueprint.materializeWithName_eq_ok.mp hm
    refine ⟨_, ⟨_, CellBlueprint.materializeWithName_eq_ok.mpr ⟨_, ?_, hu, rfl⟩, rfl⟩,
      hd _ fun hg => absurd ho hg⟩
    simp [CellBlueprint.resolveCellName, ho, generateCellName, Except.mapError]

/-- The document of a Config: its volumes are filled with the name that was given. -/
theorem drafts_config {bp : CellBlueprintDoc} (place : CellDoc → CellDoc)
    (hp : ∀ stamped, mounts (place stamped) = mounts stamped)
    (hs : ∀ resolved containers name,
      cellScope (place (CellConfig.stampedCell cfg resolved containers name)) = plan.scope)
    (hr : CellConfig.resolvedBlueprint inv.reader cfg bp = .ok plan.resolved)
    (hfc : plan.fromConfig = true) :
    Drafts inv plan fun _ => do
      let doc ← (CellConfig.materializeWithName inv.reader cfg bp inv.flags.name).mapError .config
      return place doc := by
  constructor
  · intro draw doc hm
    simp only [Outcome.bind_eq_ok, Outcome.pure_eq_ok, Outcome.mapError_eq_ok,
      CellConfig.materializeWithName] at hm
    obtain ⟨-, ⟨-, -, resolved, hrs, containers, filled, rfl⟩, rfl⟩ := hm
    obtain rfl : plan.resolved = resolved := Except.ok.inj (hr.symm.trans hrs)
    exact ⟨_, (hp _).trans (mounts_config _ filled), hs .., fun _ => rfl, fun ho _ => ho⟩
  · intro _ hf
    simp [hfc] at hf

theorem resolved_of_materialized {bp : CellBlueprintDoc} {doc : CellDoc} {name : String}
    (hm : CellConfig.materializeWithName inv.reader cfg bp name = .ok doc) :
    ∃ resolved, CellConfig.resolvedBlueprint inv.reader cfg bp = .ok resolved := by
  simp only [CellConfig.materializeWithName, Outcome.bind_eq_ok] at hm
  obtain ⟨-, -, resolved, hr, -⟩ := hm
  exact ⟨resolved, hr⟩

theorem ok_bind {ε α β : Type} (a : α) (f : α → Except ε β) : (Except.ok a >>= f) = f a := rfl

theorem mergeParams_empty (params : ModelHub.Labels) : mergeParams ∅ params = params := by
  apply Finmap.ext_lookup
  intro key
  by_cases hp : key ∈ params
  · rw [mergeParams, Finmap.lookup_union_left hp]
  · rw [mergeParams, Finmap.lookup_union_right hp, Finmap.lookup_empty,
      Finmap.lookup_eq_none.mpr hp]

/-- The run is the last steps of a source, and the plan is the one it has settled. -/
def Planned (inv : Invocation) (run : Draws → Except CreateError CellDoc) : Prop :=
  ∃ plan made pre finish, planned inv = .ok plan ∧ run = stampTail inv made pre finish ∧
    Drafts inv plan made ∧ Spares finish

theorem fromBlueprint_planned (hn : inv.flags.cloneSource = "")
    (hnm : inv.flags.blueprintName ≠ "") (hm : materializeFromBlueprint inv draws = .ok cell) :
    Planned inv (materializeFromBlueprint inv) := by
  simp only [materializeFromBlueprint, Outcome.bind_eq_ok] at hm
  obtain ⟨params, hp, bp, hfn, resolved, hrl, -⟩ := hm
  refine ⟨⟨resolved, false, cellScope (overlayScope (CellBlueprint.stampedCell resolved ∅ "")
    inv.flags)⟩, _, CellBlueprint.cellPrefix resolved, _, ?_, ?_,
    drafts_blueprint params (overlayScope · inv.flags)
      (fun _ => ⟨mounts_overlayScope _ _, scope_overlayScope rfl _⟩) rfl,
    spares_applyIgnoreDiskPressure inv.flags⟩
  · simp only [planned, hn, hnm, ne_eq, not_true_eq_false, not_false_eq_true, if_false,
      if_true, planFromBlueprint, hp, hfn, mergeParams_empty, ok_bind, hrl]
    rfl
  · funext draws
    simp only [materializeFromBlueprint, stampTail, hp, hfn, hrl, ok_bind, bind_assoc, pure_bind]

theorem fromConfig_planned (hnc : inv.flags.cloneSource = "")
    (hn : inv.flags.blueprintName = "") (hm : materializeFromConfig inv draws = .ok cell) :
    Planned inv (materializeFromConfig inv) := by
  simp only [materializeFromConfig, Outcome.bind_eq_ok, Outcome.mapError_eq_ok] at hm
  obtain ⟨cfg, hfd, bp, hf, doc, hm, -⟩ := hm
  obtain ⟨resolved, hr⟩ := resolved_of_materialized hm
  have hs := fun (envArgs : List String) => (spares_applyEnvOverrides envArgs).comp
    (spares_applyIgnoreDiskPressure inv.flags)
  refine ⟨⟨resolved, true, cellScope (overlayScope (CellConfig.stampedCell cfg {} [] "")
    inv.flags)⟩, _, CellConfig.cellPrefix cfg, _, ?_, ?_,
    drafts_config (overlayScope · inv.flags) (fun _ => mounts_overlayScope _ _)
      (fun _ _ _ => scope_overlayScope rfl _) hr rfl, hs inv.flags.envArgs⟩
  · simp only [planned, hnc, hn, ne_eq, not_true_eq_false, if_false, planFromConfig, hfd, hf,
      ok_bind, hr, Except.mapError]
    rfl
  · funext draws
    simp only [materializeFromConfig, stampTail, hfd, hf, ok_bind, bind_assoc, pure_bind]
    rfl

theorem clone_planned (hic : inv.flags.cloneSource ≠ "")
    (hm : materializeClone inv draws = .ok cell) : Planned inv (materializeClone inv) := by
  simp only [materializeClone, Outcome.bind_eq_ok] at hm
  obtain ⟨source, hfd, hm⟩ := hm
  cases hr : source.spec.provenance with
  | none => simp [hr, throw, throwThe, MonadExceptOf.throw] at hm
  | some provenance =>
    simp only [hr, Outcome.bind_eq_ok, cloneFromBinding] at hm
    obtain ⟨doc, hc, -⟩ := hm
    have hs := spares_applyIgnoreDiskPressure inv.flags
    by_cases hi : provenance.bindingKind = bindingKindConfig
    · simp only [hi, if_true, cloneFromConfig, Outcome.bind_eq_ok, Outcome.refusal_eq_ok,
        Outcome.mapError_eq_ok] at hc
      obtain ⟨hnp, hnf, cfg, hg, bp, hf, doc, hm, -⟩ := hc
      obtain ⟨resolved, hrs⟩ := resolved_of_materialized hm
      let place (doc : CellDoc) := cloneInto source (CellConfig.applyEnvOverrides
        { doc with spec := { doc.spec with provenance := some provenance } }
        (CellConfig.mergeEnv provenance.envOverrides inv.flags.envArgs))
      refine ⟨⟨resolved, true, cellScope source⟩, _, source.metadata.name, _, ?_, ?_,
        drafts_config place (fun _ => mounts_applyEnvOverrides ..) (fun _ _ _ => rfl) hrs rfl, hs⟩
      · simp only [planned, hic, if_true, ne_eq, not_false_eq_true, hfd, ok_bind, hr, hi,
          planFromConfig, hg, hf, hrs, Except.mapError]
        rfl
      · funext draws
        simp only [materializeClone, hfd, ok_bind, hr, cloneFromBinding, if_pos hi,
          cloneFromConfig, hnp, hnf, if_false, hg, hf, stampTail, bind_assoc, pure_bind]
        rfl
    · simp only [hi, if_false] at hc
      by_cases hib : provenance.bindingKind = bindingKindBlueprint
      · simp only [hib, if_true, cloneFromBlueprint, Outcome.bind_eq_ok,
          Outcome.refusal_eq_ok] at hc
        obtain ⟨hn, bp, hg, params, hp, resolved, hrl, -⟩ := hc
        let merged := mergeParams provenance.params params
        let recorded := if merged.len > 0 then merged else provenance.params
        let place (doc : CellDoc) := cloneInto source { doc with
          spec := { doc.spec with provenance := some { provenance with params := recorded } } }
        refine ⟨⟨resolved, false, cellScope source⟩, _, source.metadata.name, _, ?_, ?_,
          drafts_blueprint merged place (fun _ => ⟨rfl, rfl⟩) rfl, hs⟩
        · simp only [planned, hic, if_true, ne_eq, not_false_eq_true, hfd, ok_bind, hr, hi,
            if_false, planFromBlueprint, hp, hg, hrl]
          rfl
        · funext draws
          simp only [materializeClone, hfd, ok_bind, hr, cloneFromBinding, if_neg hi, if_pos hib,
            if_false, cloneFromBlueprint, hn, hg, hp, hrl, stampTail, bind_assoc, pure_bind]
          rfl
      · simp [hib] at hc

theorem materialize_stamped (hm : materialize inv draws = .ok cell) :
    ∃ plan, planned inv = .ok plan ∧ (∃ filled, Stamped inv plan filled cell) ∧
      Redrawable inv plan (materialize inv) draws cell := by
  obtain ⟨_, hv, hb⟩ := Outcome.bind_eq_ok.mp hm
  -- The source of the cell does not depend on the readings, so that every run takes its branch.
  have hp : Planned inv (materialize inv) := by
    have run : materialize inv = if inv.flags.cloneSource ≠ "" then materializeClone inv
        else if inv.flags.blueprintName ≠ "" then materializeFromBlueprint inv
        else materializeFromConfig inv := by
      funext other
      rw [materialize, hv, ok_bind]
      split
      · rfl
      · split <;> rfl
    rw [run]
    split at hb
    · next hic =>
      rw [if_pos hic]
      exact clone_planned hic hb
    · next hic =>
      rw [if_neg hic]
      split at hb
      · next hi =>
        rw [if_pos hi]
        exact fromBlueprint_planned (not_not.mp hic) hi hb
      · next hi =>
        rw [if_neg hi]
        exact fromConfig_planned (not_not.mp hic) (not_not.mp hi) hb
  obtain ⟨plan, made, pre, finish, hpl, run, hd, hs⟩ := hp
  rw [run] at hm ⊢
  exact ⟨plan, hpl, stampTail_stamped hd hs hm⟩

/-- Every templated mount names the volume that its template and the name of the cell make. -/
def VolumesNamedAfter (resolved : CellBlueprintDoc) (cell : CellDoc) : Prop :=
  List.Forall₂
    (fun template mount => PerCell template →
      volumeText mount = replaceAll (volumeText template) cellNameVar cell.metadata.name)
    (templateMounts resolved) (mounts cell)

def perCellVolumes (resolved : CellBlueprintDoc) (cell : CellDoc) : List (String × Scope) :=
  (((templateMounts resolved).zip (mounts cell)).filter fun pair => PerCell pair.1).map
    fun pair => volumeForEnsureMount (cellScope cell) pair.2

def Untemplated (plan : Plan) : Prop :=
  ∀ template ∈ templateMounts plan.resolved, ¬PerCell template

theorem volumeHome_expandVolume (scope : Scope) (filled : String) (mount : VolumeMount) :
    volumeHome scope (expandVolume filled mount) = volumeHome scope mount := by
  unfold expandVolume
  split
  · rfl
  · cases ref : mount.volumeRef with
    | none => simp [volumeHome, ref]
    | some ref' =>
      simp only [volumeHome, ref, Option.any_some, Option.map_some]
      split
      · rename_i hc
        split at hc <;> · obtain rfl := Option.some.inj hc; rfl
      · rename_i hc
        split at hc <;> cases hc

section Run

variable {inv : Invocation} {plan : Plan} {filled : String} {cell : CellDoc}

theorem volumesNamedAfter_iff (hs : Stamped inv plan filled cell) :
    VolumesNamedAfter plan.resolved cell ↔ Untemplated plan ∨ filled = cell.metadata.name := by
  rw [VolumesNamedAfter, hs.mounts_eq, List.forall₂_map_right_iff, List.forall₂_same]
  constructor
  · intro hn
    by_cases hu : Untemplated plan
    · exact .inl hu
    · simp only [Untemplated, not_forall, not_not] at hu
      obtain ⟨template, hm, hp⟩ := hu
      have hsm := hn template hm hp
      rw [CellBlueprint.volumeText_expandVolume hp] at hsm
      exact .inr (CellBlueprint.volumeText_injective hp.2 hsm)
  · rintro (hu | rfl) template hm hp
    · exact absurd hp (hu template hm)
    · exact CellBlueprint.volumeText_expandVolume hp _

theorem mem_perCellVolumes (hs : Stamped inv plan filled cell) {volume : String × Scope} :
    volume ∈ perCellVolumes plan.resolved cell ↔
      ∃ template ∈ templateMounts plan.resolved, PerCell template ∧
        volume = (replaceAll (volumeText template) cellNameVar filled,
          volumeHome plan.scope template) := by
  have hz : (templateMounts plan.resolved).zip (mounts cell) =
      (templateMounts plan.resolved).map fun template => (template, expandVolume filled template) := by
    rw [hs.mounts_eq]
    nth_rewrite 1 [← List.map_id (templateMounts plan.resolved)]
    exact List.zip_map'
  simp only [perCellVolumes, hz, List.mem_map, List.mem_filter, decide_eq_true_eq]
  constructor
  · rintro ⟨-, ⟨⟨template, hm, rfl⟩, hp⟩, rfl⟩
    refine ⟨template, hm, hp, ?_⟩
    rw [volumeForEnsureMount, CellBlueprint.volumeText_expandVolume hp,
      volumeHome_expandVolume, hs.scope_eq]
  · rintro ⟨template, hm, hp, rfl⟩
    refine ⟨_, ⟨⟨template, hm, rfl⟩, hp⟩, ?_⟩
    rw [volumeForEnsureMount, CellBlueprint.volumeText_expandVolume hp,
      volumeHome_expandVolume, hs.scope_eq]

def NameSettled (inv : Invocation) (plan : Plan) : Prop :=
  trimSpace inv.flags.name ≠ "" ∨ Untemplated plan

theorem planned_stamped {draws : Draws} (hpl : planned inv = .ok plan)
    (hm : materialize inv draws = .ok cell) :
    (∃ filled, Stamped inv plan filled cell) ∧
      Redrawable inv plan (materialize inv) draws cell := by
  obtain ⟨plan', hp, hs⟩ := materialize_stamped hm
  obtain rfl : plan = plan' := Except.ok.inj (hpl.symm.trans hp)
  exact hs

/-- The volumes of every cell a run can make are named after it exactly when its name was settled
    before they were. -/
theorem volumesNamedAfter_iff_nameSettled (hp : planned inv = .ok plan)
    (hps : ∃ draws cell, materialize inv draws = .ok cell) :
    (∀ draws cell, materialize inv draws = .ok cell → VolumesNamedAfter plan.resolved cell) ↔
      NameSettled inv plan := by
  constructor
  · intro hn
    by_contra hu
    simp only [NameSettled, not_or, not_not] at hu
    obtain ⟨ho, ht⟩ := hu
    obtain ⟨draws, cell, hm⟩ := hps
    obtain ⟨⟨filled, hs⟩, ha⟩ := planned_stamped hp hm
    cases hf : plan.fromConfig with
    | true =>
      have hsm := ((volumesNamedAfter_iff hs).mp (hn draws cell hm)).resolve_left
        ht
      rw [hs.config ho hf] at hsm
      exact hs.generated ho hsm.symm
    | false =>
      obtain ⟨suffix, hd⟩ :=
        exists_generatedName_ne (CellBlueprint.cellPrefix plan.resolved) cell.metadata.name
      obtain ⟨other, hrm, hr, hsn⟩ := ha ho hf suffix
      have hsm := ((volumesNamedAfter_iff hr).mp (hn _ other hrm)).resolve_left
        ht
      exact hd (hsm.trans hsn)
  · intro hst draws cell hm
    obtain ⟨⟨filled, hs⟩, -⟩ := planned_stamped hp hm
    rw [volumesNamedAfter_iff hs]
    rcases hst with hg | hun
    · obtain ⟨hfw, hn⟩ := hs.explicit hg
      exact .inr (hfw.trans hn.symm)
    · exact .inl hun

end Run

/-- Two runs keep their volumes apart: whatever they read from the random source, the volumes of
    both cells are named after them, and cells with different names in one scope share none. -/
def Isolated (first second : Invocation) (plan other : Plan) : Prop :=
  ∀ draws₁ draws₂ a b, materialize first draws₁ = .ok a → materialize second draws₂ = .ok b →
    VolumesNamedAfter plan.resolved a ∧ VolumesNamedAfter other.resolved b ∧
    (a.metadata.name ≠ b.metadata.name → cellScope a = cellScope b →
      (perCellVolumes plan.resolved a).Disjoint (perCellVolumes other.resolved b))

/-- The given names do not turn two different templates for one place into the same text, the
    way `x` in `${CELL_NAME}y` and `xy` in `${CELL_NAME}` do. -/
def TemplatesApart (first second : Invocation) (plan other : Plan) : Prop :=
  trimSpace first.flags.name ≠ trimSpace second.flags.name → plan.scope = other.scope →
    ∀ s ∈ templateMounts plan.resolved, ∀ t ∈ templateMounts other.resolved,
      PerCell s → PerCell t → volumeText s ≠ volumeText t →
      volumeHome plan.scope s = volumeHome other.scope t →
      replaceAll (volumeText s) cellNameVar (trimSpace first.flags.name) ≠
        replaceAll (volumeText t) cellNameVar (trimSpace second.flags.name)

theorem volumes_disjoint {first second : Invocation} {plan other : Plan} {filled filled' : String}
    {a b : CellDoc} (hst : Stamped first plan filled a)
    (hs : Stamped second other filled' b)
    (hsd : NameSettled first plan) (hsl : NameSettled second other)
    (ha : TemplatesApart first second plan other) (hd : a.metadata.name ≠ b.metadata.name)
    (hss : cellScope a = cellScope b) :
    (perCellVolumes plan.resolved a).Disjoint (perCellVolumes other.resolved b) := by
  intro volume hif hi
  obtain ⟨s, hsb, hsp, rfl⟩ := (mem_perCellVolumes hst).mp hif
  obtain ⟨t, htm, ht, hsa⟩ := (mem_perCellVolumes hs).mp hi
  have hgv := hsd.resolve_right fun hu => hu s hsb hsp
  have hg := hsl.resolve_right fun hu => hu t htm ht
  obtain ⟨hfw, hnm⟩ := hst.explicit hgv
  obtain ⟨hf, hn⟩ := hs.explicit hg
  rw [hfw, hf, Prod.mk.injEq] at hsa
  rw [hnm, hn] at hd
  by_cases hsm : volumeText s = volumeText t
  · rw [hsm] at hsa
    exact hd (CellBlueprint.volumeText_injective ht.2 hsa.1)
  · have hsc : plan.scope = other.scope := by
      rw [← hst.scope_eq, ← hs.scope_eq, hss]
    exact ha hd hsc s hsb t htm hsp ht hsm hsa.2 hsa.1

theorem templatesApart_of_isolated {first second : Invocation} {plan other : Plan}
    {draws₁ draws₂ : Draws} {a b : CellDoc} (hpl : planned first = .ok plan)
    (hp : planned second = .ok other) (hsd : NameSettled first plan)
    (hsl : NameSettled second other) (hmd : materialize first draws₁ = .ok a)
    (hm : materialize second draws₂ = .ok b) (hi : Isolated first second plan other) :
    TemplatesApart first second plan other := by
  intro hd hsc s hsm t htm hsp ht _ hsh hsa
  have hgv := hsd.resolve_right fun hu => hu s hsm hsp
  have hg := hsl.resolve_right fun hu => hu t htm ht
  obtain ⟨⟨filled, hst⟩, -⟩ := planned_stamped hpl hmd
  obtain ⟨⟨filled', hs⟩, -⟩ := planned_stamped hp hm
  obtain ⟨hfw, hnm⟩ := hst.explicit hgv
  obtain ⟨hf, hn⟩ := hs.explicit hg
  have hns : a.metadata.name ≠ b.metadata.name := by rwa [hnm, hn]
  have hss : cellScope a = cellScope b := by
    rw [hst.scope_eq, hs.scope_eq, hsc]
  refine (hi draws₁ draws₂ a b hmd hm).2.2 hns hss
    ((mem_perCellVolumes hst).mpr ⟨s, hsm, hsp, rfl⟩)
    ((mem_perCellVolumes hs).mpr ⟨t, htm, ht, ?_⟩)
  rw [hfw, hf, hsa, hsh]

/-- A Blueprint whose container mounts volumes named by the given texts. -/
def memoryBlueprint (sources : List String) : CellBlueprintDoc where
  metadata := { name := "dev", realm := "main", space := "lab", stack := "bench" }
  spec :=
    { cell :=
        { containers :=
            [ { id := "work"
                image := "debian"
                volumes := sources.map fun source =>
                  { kind := .volume, source := source, target := "/mem" } } ] } }

def memoryConfig : CellConfigDoc where
  metadata := { name := "dev", realm := "main", space := "lab", stack := "bench" }
  spec :=
    { blueprint := { name := "dev", realm := "main", space := "lab", stack := "bench" } }

/-- `kuke run --from-config dev` with the given name, against a daemon that has the two documents
    and no cell. -/
def memoryRun (sources : List String) (name : String) : Invocation where
  client :=
    { getBlueprint := fun _ => .ok (some (memoryBlueprint sources))
      getConfig := fun _ => .ok (some memoryConfig)
      getCell := fun _ => .ok none }
  reader := .verbatim
  lookupEnv := fun _ => none
  readFile := fun _ => none
  lookupRealm := "main"
  lookupSpace := "lab"
  lookupStack := "bench"
  flags := { name := name, realm := "main", space := "lab", stack := "bench", configName := "dev" }

/-- Per-cell volumes are isolated exactly when both cells were named before their volumes and the
    two names keep the templates apart. -/
theorem per_cell_volumes_isolated_iff {first second : Invocation} {plan other : Plan}
    (planning : planned first = .ok plan) (planning' : planned second = .ok other)
    (possible : ∃ draws cell, materialize first draws = .ok cell)
    (possible' : ∃ draws cell, materialize second draws = .ok cell) :
    Isolated first second plan other ↔
      NameSettled first plan ∧ NameSettled second other ∧
        TemplatesApart first second plan other := by
  obtain ⟨draws₁, a, hmd⟩ := possible
  obtain ⟨draws₂, b, hm⟩ := possible'
  constructor
  · intro hi
    have hst : NameSettled first plan :=
      (volumesNamedAfter_iff_nameSettled planning ⟨draws₁, a, hmd⟩).mp
        fun draws cell hh => (hi draws draws₂ cell b hh hm).1
    have hs : NameSettled second other :=
      (volumesNamedAfter_iff_nameSettled planning' ⟨draws₂, b, hm⟩).mp
        fun draws cell hh => (hi draws₁ draws a cell hmd hh).2.1
    exact ⟨hst, hs, templatesApart_of_isolated planning planning' hst hs hmd
      hm hi⟩
  · rintro ⟨hst, hs, ha⟩ draws₁ draws₂ a b hmd hm
    refine ⟨(volumesNamedAfter_iff_nameSettled planning ⟨draws₁, a, hmd⟩).mpr hst _ a hmd,
      (volumesNamedAfter_iff_nameSettled planning' ⟨draws₂, b, hm⟩).mpr hs _ b hm, ?_⟩
    obtain ⟨⟨filled, hsp⟩, -⟩ := planned_stamped planning hmd
    obtain ⟨⟨filled', hsm⟩, -⟩ := planned_stamped planning' hm
    exact volumes_disjoint hsp hsm hst hs ha

/-- Cells named by the operator do not share the volume of their memory. -/
theorem per_cell_volumes_isolated_of_names :
    ∃ plan other, planned (memoryRun ["mem-" ++ cellNameVar] "a") = .ok plan ∧
      planned (memoryRun ["mem-" ++ cellNameVar] "b") = .ok other ∧
      Isolated (memoryRun ["mem-" ++ cellNameVar] "a") (memoryRun ["mem-" ++ cellNameVar] "b")
        plan other := by
  refine ⟨_, _, rfl, rfl, ?_⟩
  refine (per_cell_volumes_isolated_iff rfl rfl ⟨fun _ => none, _, rfl⟩
    ⟨fun _ => none, _, rfl⟩).mpr ⟨.inl (by decide), .inl (by decide), ?_⟩
  unfold TemplatesApart
  decide

/-- Two cells with generated names both mount the volume `mem-`. With names given, the templates
    `${CELL_NAME}` and `x${CELL_NAME}` make the cells `xa` and `a` share the volume `xa`. -/
theorem config_cells_share_volume :
    (∃ a b, materialize (memoryRun ["mem-" ++ cellNameVar] "") (fun _ => some (0, 0, 1)) = .ok a ∧
      materialize (memoryRun ["mem-" ++ cellNameVar] "") (fun _ => some (0, 0, 2)) = .ok b ∧
      a.metadata.name = "dev-000001" ∧ b.metadata.name = "dev-000002" ∧
      cellScope a = cellScope b ∧
      (mounts a).map volumeText = ["mem-"] ∧ (mounts b).map volumeText = ["mem-"]) ∧
    ∃ a b, materialize (memoryRun [cellNameVar, "x" ++ cellNameVar] "xa") (fun _ => none) = .ok a ∧
      materialize (memoryRun [cellNameVar, "x" ++ cellNameVar] "a") (fun _ => none) = .ok b ∧
      a.metadata.name = "xa" ∧ b.metadata.name = "a" ∧ cellScope a = cellScope b ∧
      (mounts a).map volumeText = ["xa", "xxa"] ∧ (mounts b).map volumeText = ["a", "xa"] := by
  refine ⟨⟨_, _, rfl, rfl, ?_⟩, ⟨_, _, rfl, rfl, ?_⟩⟩
  · decide
  · decide

end Kukeon.Cli
