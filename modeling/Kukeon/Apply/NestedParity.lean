import Kukeon.Apply.Parser

/-! # One container in three kinds of document

A container can be submitted as a document of its own, as part of a Blueprint or as part of a Cell.
Its repos and secrets are checked in the first two; in a Cell only what the conversion checks is.
-/

namespace Kukeon.ApplyParser

open V1Beta1 GoText Checks

def RejectedAsContainer (spec : ContainerSpec) : Prop :=
  ∀ (doc : Document) (container : ContainerDoc), doc.body = .container (some container) →
    container.spec.secrets = spec.secrets → container.spec.repos = spec.repos →
      validateDocument doc ≠ .ok ()

/-- A secret as a slot. A secret that is not mounted is shown under its name in the environment. -/
def slotOf (secret : ContainerSecret) : BlueprintSecretSlot :=
  if trimSpace secret.mountPath = "" then
    { name := secret.name, mode := blueprintSecretModeEnv, envName := secret.name }
  else { name := secret.name, mode := blueprintSecretModeFile, mountPath := secret.mountPath }

def RejectedInBlueprint (spec : ContainerSpec) : Prop :=
  ∀ (doc : Document) (bp : CellBlueprintDoc), doc.body = .cellBlueprint (some bp) →
    (∃ container ∈ bp.spec.cell.containers,
      container.repos = spec.repos ∧ container.secrets = spec.secrets.map slotOf) →
      validateDocument doc ≠ .ok ()

/-- By the parser or when the document is converted, whatever the rest of the Cell says. -/
def RejectedInCell (spec : ContainerSpec) : Prop :=
  ∀ (doc : Document) (cell : CellDoc), doc.body = .cell (some cell) →
    spec ∈ cell.spec.containers →
      validateDocument doc ≠ .ok () ∨ ∃ err, normalizeCell doc.index cell = .error err

theorem validateContainers_eq_ok {specs : List ContainerSpec} :
    ApiScheme.validateContainers specs = .ok () ↔
      ∀ spec ∈ specs, ApiScheme.validateContainer spec = .ok () := by
  induction specs with
  | nil => simp [ApiScheme.validateContainers]
  | cons spec rest ih =>
    unfold ApiScheme.validateContainers
    rw [seq_eq_ok, ih, List.forall_mem_cons]

/-- A container of which nothing but the secrets and the repos can be wrong. -/
def plainContainer (spec : ContainerSpec) : ContainerDoc where
  name := "c"
  spec :=
    { realmID := "r", spaceID := "s", stackID := "t", cellID := "c", image := "i"
      secrets := spec.secrets, repos := spec.repos }

variable {spec : ContainerSpec}

theorem rejectedAsContainer_iff :
    RejectedAsContainer spec ↔
      ¬ (validateSecrets spec.secrets = .ok () ∧ validateRepos spec.repos = .ok ()) := by
  constructor
  · intro hr hc
    refine hr { body := .container (some (plainContainer spec)) } _ rfl rfl rfl ?_
    refine validateDocument_eq_ok.mpr ⟨rfl, ?_⟩
    show validateContainer (plainContainer spec) = .ok ()
    unfold validateContainer
    rw [seq_eq_ok, seq_eq_ok, naming_eq_ok, naming_eq_ok]
    exact ⟨rfl, hc⟩
  · intro hf doc container hi hs hrp ha
    have hb := (validateDocument_eq_ok.mp ha).2
    rw [hi] at hb
    have hc : validateContainer container = .ok () := hb
    unfold validateContainer at hc
    rw [seq_eq_ok, seq_eq_ok, naming_eq_ok, naming_eq_ok, hs, hrp] at hc
    exact hf hc.2

theorem slotTarget_env {slot : BlueprintSecretSlot} (hm : slot.mode = blueprintSecretModeEnv)
    (hs : trimSpace slot.envName ≠ "") : SlotTarget slot := by
  have ht : trimSpace blueprintSecretModeEnv = blueprintSecretModeEnv := by decide +kernel
  simpa [SlotTarget, hm, ht] using hs

theorem slotTarget_file {slot : BlueprintSecretSlot} (hm : slot.mode = blueprintSecretModeFile)
    (ha : ApiScheme.isAbs (trimSpace slot.mountPath) = true) : SlotTarget slot := by
  have ht : trimSpace blueprintSecretModeFile = blueprintSecretModeFile := by decide +kernel
  have ho : ¬ (blueprintSecretModeFile = "" ∨
      blueprintSecretModeFile = blueprintSecretModeEnv) := by decide
  simpa [SlotTarget, hm, ht, ho] using ha

/-- What a Blueprint asks of a slot is part of what a Container asks of the secret. -/
theorem slotShape_slotOf {secret : ContainerSecret} (hs : SecretShape secret) :
    SlotShape (slotOf secret) := by
  unfold slotOf
  split
  case isTrue hu => exact ⟨hs.named, slotTarget_env rfl hs.named⟩
  case isFalse hm =>
    exact ⟨hs.named, slotTarget_file rfl (hs.absolute.resolve_left hm)⟩

theorem blueprint_checks_of_container_checks (hs : validateSecrets spec.secrets = .ok ())
    (hr : validateRepos spec.repos = .ok ()) :
    validateBlueprintSecretSlots (spec.secrets.map slotOf) = .ok () ∧
      validateBlueprintRepos spec.repos = .ok () := by
  constructor
  · rw [validateBlueprintSecretSlots_eq_ok, List.forall_mem_map]
    intro secret hm
    exact slotShape_slotOf (validateSecrets_eq_ok.mp hs secret hm)
  · rw [validateBlueprintRepos_eq_ok]
    intro repo hm
    exact (validateRepos_eq_ok.mp hr repo hm).1

/-- A Blueprint of which nothing but the secrets and the repos of its container can be wrong. -/
def plainBlueprint (spec : ContainerSpec) : CellBlueprintDoc where
  metadata := { name := "b", realm := "r" }
  spec := { cell := { containers :=
    [{ repos := spec.repos, secrets := spec.secrets.map slotOf }] } }

theorem rejectedAsContainer_of_rejectedInBlueprint (hr : RejectedInBlueprint spec) :
    RejectedAsContainer spec := by
  rw [rejectedAsContainer_iff]
  rintro ⟨hs, hrp⟩
  obtain ⟨hsl, hu⟩ := blueprint_checks_of_container_checks hs hrp
  refine hr { body := .cellBlueprint (some (plainBlueprint spec)) } _ rfl
    ⟨_, List.mem_singleton_self _, rfl, rfl⟩ ?_
  refine validateDocument_eq_ok.mpr ⟨rfl, ?_⟩
  show validateBlueprint (plainBlueprint spec) = .ok ()
  have hn : trimSpace "b" ≠ "" := by decide +kernel
  have hp : validateBlueprintScope { name := "b", realm := "r" } = .ok () := by decide +kernel
  unfold validateBlueprint
  simp only [seq_eq_ok, require_eq_ok, naming_eq_ok, forM_eq_ok]
  refine ⟨hn, hp, List.cons_ne_nil _ _, ?_⟩
  intro container hm
  rw [List.mem_singleton.mp hm]
  exact ⟨hu, hsl⟩

def plainCell (spec : ContainerSpec) : CellDoc where
  metadata := { name := "c" }
  spec := { realmID := "r", spaceID := "s", stackID := "t", containers := [spec] }

theorem resolveCellRootContainer_single (spec : ModelHub.CellSpec)
    {container : ModelHub.ContainerSpec} (hs : spec.containers = [container])
    (hu : spec.rootContainerID = "") :
    ∃ root, ApiScheme.resolveCellRootContainer spec = .ok root := by
  unfold ApiScheme.resolveCellRootContainer
  rw [hs, hu]
  cases hm : container.root with
  | false => simp [hm]
  | true => simp [hm]

theorem normalizeCell_plainCell (hch : ApiScheme.validateContainer spec = .ok ()) :
    ∃ cell, normalizeCell 0 (plainCell spec) = .ok cell := by
  simp only [normalizeCell, Outcome.mapError_eq_ok]
  have hc : ApiScheme.validateContainers (plainCell spec).spec.containers = .ok () := by
    rw [validateContainers_eq_ok]
    simpa [plainCell] using hch
  have hn : ApiScheme.validateCellTty (plainCell spec).spec = .ok () := rfl
  have hu : (plainCell spec).apiVersion = .unset := rfl
  obtain ⟨root, hr⟩ := resolveCellRootContainer_single
    (ApiScheme.convertCellSpecToInternal 0 (plainCell spec).spec) rfl rfl
  unfold ApiScheme.convertCellDocToInternal
  simp only [hu, hc, hn, hr]
  exact ⟨_, rfl⟩

theorem validateContainer_of_normalizeCell {index : Nat} {doc : CellDoc} {cell : ModelHub.Cell}
    (hc : normalizeCell index doc = .ok cell) (hm : spec ∈ doc.spec.containers) :
    ApiScheme.validateContainer spec = .ok () := by
  rw [normalizeCell, Outcome.mapError_eq_ok] at hc
  unfold ApiScheme.convertCellDocToInternal at hc
  split at hc
  · cases hc
  all_goals
    obtain ⟨_, hcn, _⟩ := Outcome.bind_eq_ok.mp hc
    exact validateContainers_eq_ok.mp hcn spec hm

theorem rejectedInCell_iff : RejectedInCell spec ↔ ApiScheme.validateContainer spec ≠ .ok () := by
  constructor
  · intro hr hc
    rcases hr { body := .cell (some (plainCell spec)) } _ rfl (List.mem_singleton_self _)
      with hrf | ⟨err, hf⟩
    · exact hrf rfl
    · obtain ⟨converted, ha⟩ := normalizeCell_plainCell hc
      rw [ha] at hf
      cases hf
  · intro hfl doc cell hi hm
    refine .inr ?_
    cases ho : normalizeCell doc.index cell with
    | error err => exact ⟨err, rfl⟩
    | ok converted => exact absurd (validateContainer_of_normalizeCell ho hm) hfl

theorem nested_parity_iff (spec : ContainerSpec) :
    (RejectedAsContainer spec ∨ RejectedInBlueprint spec → RejectedInCell spec) ↔
      (validateSecrets spec.secrets = .ok () ∧ validateRepos spec.repos = .ok ()) ∨
        ApiScheme.validateContainer spec ≠ .ok () := by
  rw [or_iff_left_of_imp rejectedAsContainer_of_rejectedInBlueprint, rejectedAsContainer_iff,
    rejectedInCell_iff]
  tauto

/-- A reference to a Secret that leaves the directory of its scope. -/
def strayContainer : ContainerSpec where
  id := "main"
  image := "alpine"
  secrets := [{ name := "token", secretRef := some { name := "../../other/secrets/key", realm := "r" } }]

theorem stray_reference_accepted_in_cell :
    RejectedAsContainer strayContainer ∧ ¬ RejectedInCell strayContainer := by
  rw [rejectedAsContainer_iff, rejectedInCell_iff]
  exact ⟨by decide +kernel, by decide +kernel⟩

end Kukeon.ApplyParser
