import Kukeon.Apply.Documents
import Kukeon.Lib.Outcome

/-! # Validation of submitted documents

`ValidateDocument` of `internal/apply/parser/parser.go` with everything it calls. Each kind has its
own checks; the first that fails is the error of the document.
-/

namespace Kukeon.ApplyParser

open V1Beta1 GoText Checks
open ApiScheme (isAbs)
open ModelHub (Realm Space Stack)

structure ValidationError where
  index : Nat
  kind : String
  name : String := ""
  err : KukeError
  deriving DecidableEq

def ValidationError.text (e : ValidationError) : String :=
  if e.name ≠ "" then
    "document " ++ toString e.index ++ " (" ++ e.kind ++ " " ++ quoted e.name ++ "): " ++ e.err.text
  else "document " ++ toString e.index ++ " (" ++ e.kind ++ "): " ++ e.err.text

/-- The part of a validation error that depends on the check: the name it reports, if any, and the
    cause. -/
structure Refusal where
  name : String := ""
  err : KukeError
  deriving DecidableEq

/-- The entry of a list that an error is about, with what the error says of it. -/
def entryNote (list : String) (index : Nat) (rest : String) : String :=
  " (" ++ list ++ "[" ++ toString index ++ "]" ++ rest ++ ")"

def validateSecretSegment (value : String) : Except KukeError Unit :=
  require (segmentSafe value) Errdef.secretCoordUnsafe.error

def validateVolumeSegment (value : String) : Except KukeError Unit :=
  require (segmentSafe value) Errdef.volumeCoordUnsafe.error

/-- The loop over the coordinates; `note` is what an error says of a field. -/
def validateSegments (segment : String → Except KukeError Unit) (note : String → String)
    (fields : List (String × String)) : Except KukeError Unit :=
  forM fields fun field =>
    (segment field.2).mapError fun err => { err with text := err.text ++ note field.1 }

def requireParent (incomplete : KukeError) (deeper shallower : String) : Except KukeError Unit :=
  require (deeper = "" ∨ shallower ≠ "") incomplete

/-- The contract of the three coordinates that Blueprints, Configs and Volumes have. -/
def validateScope (realmRequired incomplete : Errdef) (realm space stack : String) :
    Except KukeError Unit := do
  require (trimSpace realm ≠ "") realmRequired.error
  requireParent (incomplete.saying " (stack set without space)") (trimSpace stack) (trimSpace space)

def validateBlueprintScope (md : CellBlueprintMetadata) : Except KukeError Unit :=
  validateScope .blueprintRealmRequired .blueprintScopeIncomplete md.realm md.space md.stack

def validateConfigScope (md : CellConfigMetadata) : Except KukeError Unit :=
  validateScope .configRealmRequired .configScopeIncomplete md.realm md.space md.stack

def validateVolumeScope (md : VolumeMetadata) : Except KukeError Unit := do
  validateScope .volumeRealmRequired .volumeScopeIncomplete md.realm md.space md.stack
  validateSegments validateVolumeSegment (fun field => " (" ++ field ++ ")")
    [ ("metadata.name", trimSpace md.name), ("metadata.realm", trimSpace md.realm),
      ("metadata.space", trimSpace md.space), ("metadata.stack", trimSpace md.stack) ]

def validateSecretScope (md : SecretMetadata) : Except KukeError Unit := do
  require (trimSpace md.realm ≠ "") Errdef.secretRealmRequired.error
  requireParent (Errdef.secretScopeIncomplete.saying " (cell set without stack)")
    (trimSpace md.cell) (trimSpace md.stack)
  requireParent (Errdef.secretScopeIncomplete.saying " (stack set without space)")
    (trimSpace md.stack) (trimSpace md.space)
  validateSegments validateSecretSegment (fun field => " (" ++ field ++ ")")
    [ ("metadata.name", trimSpace md.name), ("metadata.realm", trimSpace md.realm),
      ("metadata.space", trimSpace md.space), ("metadata.stack", trimSpace md.stack),
      ("metadata.cell", trimSpace md.cell) ]

def validateRepoTarget (index : Nat) (repo : ContainerRepo) : Except KukeError Unit := do
  let name := trimSpace repo.name
  let target := trimSpace repo.target
  require (name ≠ "") (Errdef.repoNameRequired.saying (entryNote "repos" index ""))
  require (target ≠ "")
    (Errdef.repoTargetRequired.saying (entryNote "repos" index (" " ++ quoted name)))
  require (isAbs target = true)
    (Errdef.repoTargetNotAbsolute.saying
      (entryNote "repos" index (" " ++ quoted name ++ " target " ++ quoted target)))

def validateRepoCheckout (index : Nat) (repo : ContainerRepo) : Except KukeError Unit :=
  require (trimSpace repo.branch = "" ∨ trimSpace repo.ref = "")
    (Errdef.repoBranchRefMutex.saying
      (entryNote "repos" index (" " ++ quoted (trimSpace repo.name))))

def validateBlueprintRepos (repos : List ContainerRepo) : Except KukeError Unit :=
  each (fun index repo => do
    validateRepoTarget index repo
    validateRepoCheckout index repo) 0 repos

def validateRepos (repos : List ContainerRepo) : Except KukeError Unit :=
  each (fun index repo => do
    validateRepoTarget index repo
    require (trimSpace repo.url ≠ "")
      (Errdef.repoURLRequired.saying (entryNote "repos" index (" " ++ quoted (trimSpace repo.name))))
    validateRepoCheckout index repo) 0 repos

def blueprintSecretModeEnv : String := "env"

def blueprintSecretModeFile : String := "file"

def validateSlotTarget (index : Nat) (slot : BlueprintSecretSlot) : Except KukeError Unit :=
  let name := trimSpace slot.name
  let mode := trimSpace slot.mode
  if mode = "" ∨ mode = blueprintSecretModeEnv then
    require (trimSpace slot.envName ≠ "")
      (Errdef.blueprintSecretSlotEnvName.saying (entryNote "secrets" index (" " ++ quoted name)))
  else if mode = blueprintSecretModeFile then
    require (trimSpace slot.mountPath ≠ "" ∧ isAbs (trimSpace slot.mountPath) = true)
      (Errdef.blueprintSecretSlotMountPath.saying (entryNote "secrets" index (" " ++ quoted name)))
  else
    .error (Errdef.blueprintSecretSlotMode.saying
      (entryNote "secrets" index (" " ++ quoted name ++ " mode " ++ quoted mode)))

def validateBlueprintSecretSlot (index : Nat) (slot : BlueprintSecretSlot) :
    Except KukeError Unit := do
  require (trimSpace slot.name ≠ "")
    (Errdef.blueprintSecretSlotNameRequired.saying (entryNote "secrets" index ""))
  validateSlotTarget index slot

def validateBlueprintSecretSlots (slots : List BlueprintSecretSlot) : Except KukeError Unit :=
  each validateBlueprintSecretSlot 0 slots

def validateSecretRef (ref : ContainerSecretRef) (index : Nat) (name : String) :
    Except KukeError Unit := do
  require (trimSpace ref.name ≠ "")
    (Errdef.secretRefNameRequired.saying (entryNote "secrets" index (" " ++ quoted name)))
  require (trimSpace ref.realm ≠ "")
    (Errdef.secretRefRealmRequired.saying (entryNote "secrets" index (" " ++ quoted name)))
  requireParent
    (Errdef.secretRefScopeIncomplete.saying
      (entryNote "secrets" index (" " ++ quoted name ++ ": cell set without stack")))
    (trimSpace ref.cell) (trimSpace ref.stack)
  requireParent
    (Errdef.secretRefScopeIncomplete.saying
      (entryNote "secrets" index (" " ++ quoted name ++ ": stack set without space")))
    (trimSpace ref.stack) (trimSpace ref.space)
  validateSegments validateSecretSegment
    (fun field => entryNote "secrets" index (" " ++ quoted name ++ " " ++ field))
    [ ("secretRef.name", trimSpace ref.name), ("secretRef.realm", trimSpace ref.realm),
      ("secretRef.space", trimSpace ref.space), ("secretRef.stack", trimSpace ref.stack),
      ("secretRef.cell", trimSpace ref.cell) ]

def secretSources (secret : ContainerSecret) : Nat :=
  (if trimSpace secret.fromFile ≠ "" then 1 else 0) +
  (if trimSpace secret.fromEnv ≠ "" then 1 else 0) +
  (if secret.secretRef.isSome then 1 else 0)

def validateSecret (index : Nat) (secret : ContainerSecret) : Except KukeError Unit := do
  let name := trimSpace secret.name
  let mountPath := trimSpace secret.mountPath
  require (name ≠ "") (Errdef.secretNameRequired.saying (entryNote "secrets" index ""))
  require (secretSources secret ≠ 0)
    (Errdef.secretSourceRequired.saying (entryNote "secrets" index (" " ++ quoted name)))
  require (secretSources secret ≤ 1)
    (Errdef.secretMultipleSources.saying (entryNote "secrets" index (" " ++ quoted name)))
  forM secret.secretRef.toList fun ref => validateSecretRef ref index name
  require (mountPath = "" ∨ isAbs mountPath = true)
    (Errdef.secretMountPathNotAbsolute.saying
      (entryNote "secrets" index (" " ++ quoted name ++ " mountPath " ++ quoted mountPath)))

def validateSecrets (secrets : List ContainerSecret) : Except KukeError Unit :=
  each validateSecret 0 secrets

def present {Doc : Type} (kind : String) (doc : Option Doc) : Except Refusal Doc :=
  (notNil kind doc).mapError fun err => { err := err }

def naming (name : String) (check : Except KukeError Unit) : Except Refusal Unit :=
  check.mapError fun err => { name := name, err := err }

def validateBlueprint (bp : CellBlueprintDoc) : Except Refusal Unit := do
  require (trimSpace bp.metadata.name ≠ "") { err := Errdef.blueprintNameRequired.error }
  naming bp.metadata.name (validateBlueprintScope bp.metadata)
  require (bp.spec.cell.containers ≠ [])
    { name := bp.metadata.name, err := Errdef.blueprintCellRequired.error }
  forM bp.spec.cell.containers fun container => do
    naming bp.metadata.name (validateBlueprintRepos container.repos)
    naming bp.metadata.name (validateBlueprintSecretSlots container.secrets)

def reclaimRetain : String := "Retain"

def reclaimDelete : String := "Delete"

def validateReclaimPolicy (policy : String) : Except KukeError Unit :=
  require (policy ∈ ["", reclaimRetain, reclaimDelete])
    (Errdef.volumeReclaimPolicyInvalid.saying (" (got " ++ quoted policy ++ ")"))

def validateVolume (vol : VolumeDoc) : Except Refusal Unit := do
  require (trimSpace vol.metadata.name ≠ "") { err := Errdef.volumeNameRequired.error }
  naming vol.metadata.name (validateVolumeScope vol.metadata)
  naming vol.metadata.name (validateReclaimPolicy vol.reclaimPolicy)

def validateConfigBlueprintRef (ref : CellBindingRef) : Except KukeError Unit := do
  require (trimSpace ref.name ≠ "" ∧ trimSpace ref.realm ≠ "")
    Errdef.configBlueprintRefRequired.error
  requireParent (Errdef.configBlueprintRefScopeIncomplete.saying " (stack set without space)")
    (trimSpace ref.stack) (trimSpace ref.space)

def validateRepoFill (slot : String) (fill : CellConfigRepoFill) : Except KukeError Unit := do
  require (trimSpace fill.url ≠ "")
    (Errdef.configRepoFillURLRequired.saying (" (repos[" ++ quoted slot ++ "])"))
  require (trimSpace fill.branch = "" ∨ trimSpace fill.ref = "")
    (Errdef.repoBranchRefMutex.saying (" (repos[" ++ quoted slot ++ "])"))

def validateSecretFill (slot : String) (fill : CellConfigSecretFill) : Except KukeError Unit :=
  require
    (fill.secretRef.any fun ref => trimSpace ref.name != "" && trimSpace ref.realm != "")
    (Errdef.configSecretFillRefRequired.saying (" (secrets[" ++ quoted slot ++ "])"))

/-- The check of every entry of a map. Of the entries that are refused the source reports any, here
    it is the one with the least key. -/
def eachFill {Fill : Type} (check : String → Fill → Except KukeError Unit)
    (fills : GoMap String Fill) : Except KukeError Unit :=
  forM (fills.keys.sort (· ≤ ·)) fun slot =>
    forM (fills.lookup slot).toList fun fill => check slot fill

def validateConfig (cfg : CellConfigDoc) : Except Refusal Unit := do
  require (trimSpace cfg.metadata.name ≠ "") { err := Errdef.configNameRequired.error }
  naming cfg.metadata.name (validateConfigScope cfg.metadata)
  naming cfg.metadata.name (validateConfigBlueprintRef cfg.spec.blueprint)
  naming cfg.metadata.name (eachFill validateRepoFill cfg.spec.repos)
  naming cfg.metadata.name (eachFill validateSecretFill cfg.spec.secrets)

/-- Fields that may not be empty, each under its path in the document. -/
def requireFields (name : String) (fields : List (String × String)) : Except Refusal Unit :=
  forM fields fun field =>
    require (field.2 ≠ "") { name := name, err := { text := field.1 ++ " is required" } }

def validateRealm (realm : Realm) : Except Refusal Unit :=
  requireFields realm.metadata.name [("metadata.name", realm.metadata.name)]

def validateSpace (space : Space) : Except Refusal Unit :=
  requireFields space.metadata.name
    [("metadata.name", space.metadata.name), ("spec.realmId", space.spec.realmName)]

def validateStack (stack : Stack) : Except Refusal Unit :=
  requireFields stack.metadata.name
    [ ("metadata.name", stack.metadata.name), ("spec.realmId", stack.spec.realmName),
      ("spec.spaceId", stack.spec.spaceName) ]

def validateCell (cell : CellDoc) : Except Refusal Unit := do
  requireFields cell.metadata.name
    [ ("metadata.name", cell.metadata.name), ("spec.realmId", cell.spec.realmID),
      ("spec.spaceId", cell.spec.spaceID), ("spec.stackId", cell.spec.stackID) ]
  require (cell.spec.containers ≠ [])
    { name := cell.metadata.name
      err := { text := "spec.containers is required and cannot be empty" } }

def validateContainer (container : ContainerDoc) : Except Refusal Unit := do
  requireFields container.name
    [ ("metadata.name", container.name), ("spec.realmId", container.spec.realmID),
      ("spec.spaceId", container.spec.spaceID), ("spec.stackId", container.spec.stackID),
      ("spec.cellId", container.spec.cellID), ("spec.image", container.spec.image) ]
  naming container.name (validateSecrets container.spec.secrets)
  naming container.name (validateRepos container.spec.repos)

def validateSecretDoc (secret : SecretDoc) : Except Refusal Unit := do
  requireFields secret.metadata.name [("metadata.name", secret.metadata.name)]
  naming secret.metadata.name (validateSecretScope secret.metadata)
  require (trimSpace secret.data ≠ "")
    { name := secret.metadata.name, err := Errdef.secretDataRequired.error }

def validateVersion : Version → Except Refusal Unit
  | .unset | .v1beta1 => .ok ()
  | .other version =>
    .error { err := Errdef.unsupportedAPIVersion.saying (": " ++ version ++ " (expected v1beta1)") }

def validateBody : Body → Except Refusal Unit
  | .realm doc => do validateRealm (← present "realm" doc)
  | .space doc => do validateSpace (← present "space" doc)
  | .stack doc => do validateStack (← present "stack" doc)
  | .cell doc => do validateCell (← present "cell" doc)
  | .container doc => do validateContainer (← present "container" doc)
  | .secret doc => do validateSecretDoc (← present "secret" doc)
  | .cellBlueprint doc => do validateBlueprint (← present "blueprint" doc)
  | .cellConfig doc => do validateConfig (← present "config" doc)
  | .volume doc => do validateVolume (← present "volume" doc)
  | .other kind => .error { err := Errdef.unknownKind.saying (": " ++ kind) }

def Refusal.error (refusal : Refusal) (doc : Document) : ValidationError where
  index := doc.index
  kind := doc.body.kindText
  name := refusal.name
  err := refusal.err

def validateDocument (doc : Document) : Except ValidationError Unit :=
  Except.mapError (Refusal.error · doc) do
    validateVersion doc.apiVersion
    validateBody doc.body

structure RepoShape (repo : ContainerRepo) : Prop where
  named : trimSpace repo.name ≠ ""
  absolute : isAbs (trimSpace repo.target) = true
  pinnedOnce : trimSpace repo.branch = "" ∨ trimSpace repo.ref = ""

/-- The scope of a reference to a Secret has no gaps, and no part of it leaves its directory. -/
structure SecretRefShape (ref : ContainerSecretRef) : Prop where
  named : trimSpace ref.name ≠ ""
  inRealm : trimSpace ref.realm ≠ ""
  cellInStack : trimSpace ref.cell = "" ∨ trimSpace ref.stack ≠ ""
  stackInSpace : trimSpace ref.stack = "" ∨ trimSpace ref.space ≠ ""
  safe : ∀ value ∈ [ref.name, ref.realm, ref.space, ref.stack, ref.cell],
    segmentSafe (trimSpace value) = true

structure SecretShape (secret : ContainerSecret) : Prop where
  named : trimSpace secret.name ≠ ""
  oneSource : secretSources secret = 1
  reference : ∀ ref ∈ secret.secretRef, SecretRefShape ref
  absolute : trimSpace secret.mountPath = "" ∨ isAbs (trimSpace secret.mountPath) = true

def SlotTarget (slot : BlueprintSecretSlot) : Prop :=
  if trimSpace slot.mode = "" ∨ trimSpace slot.mode = blueprintSecretModeEnv then
    trimSpace slot.envName ≠ ""
  else trimSpace slot.mode = blueprintSecretModeFile ∧ isAbs (trimSpace slot.mountPath) = true

structure SlotShape (slot : BlueprintSecretSlot) : Prop where
  named : trimSpace slot.name ≠ ""
  target : SlotTarget slot

theorem ne_empty_of_isAbs {path : String} (ha : isAbs path = true) : path ≠ "" := by
  rintro rfl
  exact absurd ha (by decide)

theorem validateRepoTarget_eq_ok {index : Nat} {repo : ContainerRepo} :
    validateRepoTarget index repo = .ok () ↔
      trimSpace repo.name ≠ "" ∧ isAbs (trimSpace repo.target) = true := by
  simp only [validateRepoTarget, seq_eq_ok, require_eq_ok]
  exact ⟨fun hc => ⟨hc.1, hc.2.2⟩,
    fun hc => ⟨hc.1, ne_empty_of_isAbs hc.2, hc.2⟩⟩

theorem validateBlueprintRepos_eq_ok {repos : List ContainerRepo} :
    validateBlueprintRepos repos = .ok () ↔ ∀ repo ∈ repos, RepoShape repo := by
  refine each_eq_ok fun index repo => ?_
  simp only [seq_eq_ok, validateRepoTarget_eq_ok, validateRepoCheckout, require_eq_ok]
  exact ⟨fun hc => ⟨hc.1.1, hc.1.2, hc.2⟩,
    fun hs => ⟨⟨hs.named, hs.absolute⟩, hs.pinnedOnce⟩⟩

theorem validateRepos_eq_ok {repos : List ContainerRepo} :
    validateRepos repos = .ok () ↔ ∀ repo ∈ repos, RepoShape repo ∧ trimSpace repo.url ≠ "" := by
  refine each_eq_ok fun index repo => ?_
  simp only [seq_eq_ok, validateRepoTarget_eq_ok, validateRepoCheckout, require_eq_ok]
  exact ⟨fun hc => ⟨⟨hc.1.1, hc.1.2, hc.2.2⟩, hc.2.1⟩,
    fun hs => ⟨⟨hs.1.named, hs.1.absolute⟩, hs.2, hs.1.pinnedOnce⟩⟩

theorem validateSlotTarget_eq_ok {index : Nat} {slot : BlueprintSecretSlot} :
    validateSlotTarget index slot = .ok () ↔ SlotTarget slot := by
  simp only [validateSlotTarget, SlotTarget]
  split
  · exact require_eq_ok
  · split
    case isTrue hf =>
      rw [require_eq_ok]
      exact ⟨fun hm => ⟨hf, hm.2⟩, fun hm => ⟨ne_empty_of_isAbs hm.2, hm.2⟩⟩
    case isFalse ho => simp [ho]

theorem validateBlueprintSecretSlots_eq_ok {slots : List BlueprintSecretSlot} :
    validateBlueprintSecretSlots slots = .ok () ↔ ∀ slot ∈ slots, SlotShape slot := by
  refine each_eq_ok fun index slot => ?_
  simp only [validateBlueprintSecretSlot, seq_eq_ok, require_eq_ok, validateSlotTarget_eq_ok]
  exact ⟨fun hc => ⟨hc.1, hc.2⟩, fun hs => ⟨hs.named, hs.target⟩⟩

theorem validateSegments_eq_ok {segment : String → Except KukeError Unit} {note : String → String}
    {fields : List (String × String)} :
    validateSegments segment note fields = .ok () ↔
      ∀ field ∈ fields, segment field.2 = .ok () := by
  simp only [validateSegments, forM_eq_ok, Outcome.mapError_eq_ok]

theorem validateSecretRef_eq_ok {ref : ContainerSecretRef} {index : Nat} {name : String} :
    validateSecretRef ref index name = .ok () ↔ SecretRefShape ref := by
  simp only [validateSecretRef, requireParent, seq_eq_ok, require_eq_ok, validateSegments_eq_ok,
    validateSecretSegment, List.forall_mem_cons, List.not_mem_nil, false_implies, implies_true]
  constructor
  · rintro ⟨hn, hi, hc, hs, hsf⟩
    exact ⟨hn, hi, hc, hs, by simpa using hsf⟩
  · rintro ⟨hn, hi, hc, hs, hsf⟩
    exact ⟨hn, hi, hc, hs, by simpa using hsf⟩

theorem validateSecrets_eq_ok {secrets : List ContainerSecret} :
    validateSecrets secrets = .ok () ↔ ∀ secret ∈ secrets, SecretShape secret := by
  refine each_eq_ok fun index secret => ?_
  simp only [validateSecret, seq_eq_ok, require_eq_ok, forM_eq_ok, validateSecretRef_eq_ok,
    Option.mem_toList]
  constructor
  · rintro ⟨hn, hs, hon, hr, ha⟩
    exact ⟨hn, by omega, hr, ha⟩
  · rintro ⟨hn, ho, hr, ha⟩
    exact ⟨hn, by omega, by omega, hr, ha⟩

theorem naming_eq_ok {name : String} {check : Except KukeError Unit} :
    naming name check = .ok () ↔ check = .ok () :=
  Outcome.mapError_eq_ok

theorem validateDocument_eq_ok {doc : Document} :
    validateDocument doc = .ok () ↔
      validateVersion doc.apiVersion = .ok () ∧ validateBody doc.body = .ok () := by
  unfold validateDocument
  rw [Outcome.mapError_eq_ok, seq_eq_ok]

end Kukeon.ApplyParser
