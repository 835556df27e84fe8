import Mathlib
import Kukeon.ApiScheme.Cell
import Kukeon.ModelHub.Space

/-! # Documents as they are submitted

The documents of `internal/apply/parser`, their order in `internal/controller/documents.go` and the
errors of `internal/errdefs` that handling them tests for. A realm, space or stack document has the
fields of the internal record it is converted to and stands here as that record.
-/

namespace Kukeon.ApplyParser

open ModelHub (Realm Space Stack Labels)
open V1Beta1 (CellDoc CellBlueprintDoc CellConfigDoc ContainerSpec Version)

inductive Errdef where
  | realmNotFound
  | spaceNotFound
  | stackNotFound
  | cellNotFound
  | realmNameRequired
  | spaceNameRequired
  | stackNameRequired
  | cellNameRequired
  | deleteRealm
  | deleteSpace
  | deleteStack
  | deleteCell
  | resourceHasDependencies
  | unknownKind
  | conversionFailed
  | blueprintNotFound
  | blueprintScopeNotFound
  | configScopeNotFound
  | configBlueprintNotFound
  | unsupportedAPIVersion
  | secretNameRequired
  | secretSourceRequired
  | secretMultipleSources
  | secretMountPathNotAbsolute
  | secretCoordUnsafe
  | secretRefNameRequired
  | secretRefRealmRequired
  | secretRefScopeIncomplete
  | secretRealmRequired
  | secretScopeIncomplete
  | secretDataRequired
  | repoNameRequired
  | repoTargetRequired
  | repoTargetNotAbsolute
  | repoURLRequired
  | repoBranchRefMutex
  | blueprintNameRequired
  | blueprintRealmRequired
  | blueprintScopeIncomplete
  | blueprintCellRequired
  | blueprintSecretSlotNameRequired
  | blueprintSecretSlotMode
  | blueprintSecretSlotEnvName
  | blueprintSecretSlotMountPath
  | volumeNameRequired
  | volumeRealmRequired
  | volumeScopeIncomplete
  | volumeCoordUnsafe
  | volumeReclaimPolicyInvalid
  | configNameRequired
  | configRealmRequired
  | configScopeIncomplete
  | configBlueprintRefRequired
  | configBlueprintRefScopeIncomplete
  | configRepoFillURLRequired
  | configSecretFillRefRequired
  | secretFromFileNotFound
  | secretFromEnvNotSet
  | secretStagingFailed
  | secretRefNotFound
  deriving DecidableEq

def Errdef.text : Errdef → String
  | .realmNotFound => "realm not found"
  | .spaceNotFound => "space not found"
  | .stackNotFound => "stack not found"
  | .cellNotFound => "cell not found"
  | .realmNameRequired => "realm name is required"
  | .spaceNameRequired => "space name is required"
  | .stackNameRequired => "stack name is required"
  | .cellNameRequired => "cell name is required"
  | .deleteRealm => "failed to delete realm"
  | .deleteSpace => "failed to delete space"
  | .deleteStack => "failed to delete stack"
  | .deleteCell => "failed to delete cell"
  | .resourceHasDependencies => "resource has child resources"
  | .unknownKind => "unknown kind"
  | .conversionFailed => "conversion failed"
  | .blueprintNotFound => "blueprint not found"
  | .blueprintScopeNotFound => "blueprint scope does not exist"
  | .configScopeNotFound => "config scope does not exist"
  | .configBlueprintNotFound => "config references a blueprint that does not exist"
  | .unsupportedAPIVersion => "unsupported apiVersion"
  | .secretNameRequired => "secret name is required"
  | .secretSourceRequired => "secret requires exactly one of fromFile, fromEnv, or secretRef"
  | .secretMultipleSources => "secret must set exactly one of fromFile, fromEnv, or secretRef"
  | .secretMountPathNotAbsolute => "secret mountPath must be an absolute container path"
  | .secretCoordUnsafe =>
    "secret name and scope coordinates must not contain path separators or " ++
      "'.'/'..' elements"
  | .secretRefNameRequired => "secret secretRef.name is required"
  | .secretRefRealmRequired => "secret secretRef.realm is required"
  | .secretRefScopeIncomplete =>
    "secret secretRef scope is incomplete: a deeper scope coordinate requires all " ++
      "shallower ones"
  | .secretRealmRequired => "secret metadata.realm is required"
  | .secretScopeIncomplete =>
    "secret scope is incomplete: a deeper scope coordinate requires all shallower " ++
      "ones"
  | .secretDataRequired => "secret spec.data is required and must not be empty"
  | .repoNameRequired => "repo name is required"
  | .repoTargetRequired => "repo target is required"
  | .repoTargetNotAbsolute => "repo target must be an absolute container path"
  | .repoURLRequired => "repo url is required"
  | .repoBranchRefMutex => "repo cannot set both branch and ref"
  | .blueprintNameRequired => "blueprint metadata.name is required"
  | .blueprintRealmRequired => "blueprint metadata.realm is required"
  | .blueprintScopeIncomplete =>
    "blueprint scope is incomplete: a deeper scope coordinate requires all " ++
      "shallower ones (and a Blueprint may not be cell-scoped)"
  | .blueprintCellRequired => "blueprint spec.cell.containers is required and cannot be empty"
  | .blueprintSecretSlotNameRequired => "blueprint secret slot name is required"
  | .blueprintSecretSlotMode => "blueprint secret slot mode must be \"env\" or \"file\""
  | .blueprintSecretSlotEnvName => "blueprint secret slot with mode \"env\" requires envName"
  | .blueprintSecretSlotMountPath =>
    "blueprint secret slot with mode \"file\" requires an absolute mountPath"
  | .volumeNameRequired => "volume metadata.name is required"
  | .volumeRealmRequired => "volume metadata.realm is required"
  | .volumeScopeIncomplete =>
    "volume scope is incomplete: a deeper scope coordinate requires all shallower " ++
      "ones (and a Volume may not be cell-scoped)"
  | .volumeCoordUnsafe => "volume name or scope coordinate is unsafe"
  | .volumeReclaimPolicyInvalid =>
    "volume spec.reclaimPolicy must be \"Retain\" or \"Delete\" (or omitted)"
  | .configNameRequired => "config metadata.name is required"
  | .configRealmRequired => "config metadata.realm is required"
  | .configScopeIncomplete =>
    "config scope is incomplete: a deeper scope coordinate requires all shallower " ++
      "ones (and a Config may not be cell-scoped)"
  | .configBlueprintRefRequired => "config spec.blueprint requires name and realm"
  | .configBlueprintRefScopeIncomplete =>
    "config spec.blueprint scope is incomplete: a deeper coordinate requires all " ++
      "shallower ones"
  | .configRepoFillURLRequired => "config repo slot fill requires url"
  | .configSecretFillRefRequired => "config secret slot fill requires secretRef name and realm"
  | .secretFromFileNotFound => "secret fromFile path does not exist on the host"
  | .secretFromEnvNotSet => "secret fromEnv env var is not set on the daemon host"
  | .secretStagingFailed => "failed to stage secret file for mount"
  | .secretRefNotFound => "referenced secret does not exist in the requested scope"

abbrev KukeError := GoError Errdef

def Errdef.error (sentinel : Errdef) : KukeError where
  text := sentinel.text
  wraps := [sentinel]

/-- `fmt.Errorf` of `%w` and a text after it. -/
def Errdef.saying (sentinel : Errdef) (text : String) : KukeError where
  text := sentinel.text ++ text
  wraps := [sentinel]

structure ContainerDoc where
  name : String := ""
  labels : Labels := ∅
  spec : ContainerSpec := {}

structure SecretMetadata where
  name : String := ""
  realm : String := ""
  space : String := ""
  stack : String := ""
  cell : String := ""
  deriving DecidableEq

structure SecretDoc where
  metadata : SecretMetadata := {}
  data : String := ""
  deriving DecidableEq

structure VolumeMetadata where
  name : String := ""
  realm : String := ""
  space : String := ""
  stack : String := ""
  deriving DecidableEq

structure VolumeDoc where
  metadata : VolumeMetadata := {}
  reclaimPolicy : String := ""
  deriving DecidableEq

/-- The kind of a document and the pointer that goes with it, which may be nil. -/
inductive Body where
  | realm (doc : Option Realm)
  | space (doc : Option Space)
  | stack (doc : Option Stack)
  | cell (doc : Option CellDoc)
  | container (doc : Option ContainerDoc)
  | secret (doc : Option SecretDoc)
  | cellBlueprint (doc : Option CellBlueprintDoc)
  | cellConfig (doc : Option CellConfigDoc)
  | volume (doc : Option VolumeDoc)
  /-- Any other text a document can have for its kind. -/
  | other (kind : String)

def Body.kindText : Body → String
  | .realm _ => "Realm"
  | .space _ => "Space"
  | .stack _ => "Stack"
  | .cell _ => "Cell"
  | .container _ => "Container"
  | .secret _ => "Secret"
  | .cellBlueprint _ => "CellBlueprint"
  | .cellConfig _ => "CellConfig"
  | .volume _ => "Volume"
  | .other kind => kind

structure Document where
  index : Nat := 0
  apiVersion : Version := .unset
  body : Body

/-- `kindOrder`; a kind that is not in the map has the zero value. -/
def Body.order : Body → Nat
  | .realm _ => 1
  | .space _ => 2
  | .stack _ => 3
  | .cell _ => 4
  | .container _ => 5
  | .secret _ => 6
  | .cellBlueprint _ => 7
  | .cellConfig _ => 8
  | .volume _ => 9
  | .other _ => 0

/-- Whether `a` may stand before `b`: by the order of their kinds, then by index. -/
def mayPrecede (reverse : Bool) (a b : Document) : Bool :=
  if a.body.order ≠ b.body.order then
    if reverse then b.body.order < a.body.order else a.body.order < b.body.order
  else a.index ≤ b.index

/-- Documents of one kind and index, which the source leaves in any order, stay as they came. -/
def sortDocumentsByKind (docs : List Document) (reverse : Bool) : List Document :=
  docs.mergeSort (mayPrecede reverse)

theorem mayPrecede_trans (reverse : Bool) (a b c : Document) (hf : mayPrecede reverse a b = true)
    (hs : mayPrecede reverse b c = true) : mayPrecede reverse a c = true := by
  unfold mayPrecede at *
  cases reverse with
  | true => grind
  | false => grind

theorem mayPrecede_total (reverse : Bool) (a b : Document) :
    (mayPrecede reverse a b || mayPrecede reverse b a) = true := by
  unfold mayPrecede
  cases reverse with
  | true => grind
  | false => grind

theorem sortDocumentsByKind_perm (docs : List Document) (reverse : Bool) :
    (sortDocumentsByKind docs reverse).Perm docs :=
  List.mergeSort_perm docs _

theorem sortDocumentsByKind_pairwise (docs : List Document) (reverse : Bool) :
    (sortDocumentsByKind docs reverse).Pairwise fun a b => mayPrecede reverse a b = true :=
  List.pairwise_mergeSort (mayPrecede_trans reverse) (mayPrecede_total reverse) docs

/-- The versions that the converters of `apischeme` read. -/
def supported (kind : String) : Version → Except String Unit
  | .other version => .error ("unsupported apiVersion for " ++ kind ++ ": " ++ version)
  | .unset | .v1beta1 => .ok ()

/-- `NormalizeRealm`, `NormalizeSpace`, `NormalizeStack` and the like, with the document given back
    when its version is read. -/
def normalize {Doc : Type} (kind : String) (version : Version) (doc : Doc) :
    Except KukeError Doc :=
  match supported kind version with
  | .error cause => .error (Errdef.conversionFailed.error.wrapping { text := cause })
  | .ok _ => .ok doc

/-- `NormalizeCell`; the reading of the document is numbered by its index. -/
def normalizeCell (index : Nat) (doc : CellDoc) : Except KukeError ModelHub.Cell :=
  (ApiScheme.convertCellDocToInternal index doc).mapError fun cause =>
    Errdef.conversionFailed.error.wrapping { text := cause }

def notNil {Doc : Type} (kind : String) : Option Doc → Except KukeError Doc
  | none => .error { text := kind ++ " document is nil" }
  | some doc => .ok doc

end Kukeon.ApplyParser
