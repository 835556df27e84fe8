import Kukeon.CellConfig.Materialize

/-! # The create path of the command line

`Materialize` of `cmd/kuke/create/cell/cell.go` and `clone.go`, which `kuke create cell` and
`kuke run` share: look the binding up, stamp the cell, settle its scope, then its name.
-/

namespace Kukeon.Cli

open ModelHub (Labels)
open V1Beta1 GoText Naming
open CellBlueprint (BlueprintError ScalarReader)
open CellConfig (ConfigError)

structure SourceFlags where
  name : String := ""
  realm : String := ""
  space : String := ""
  stack : String := ""
  blueprintName : String := ""
  configName : String := ""
  cloneSource : String := ""
  paramArgs : List String := []
  paramFile : String := ""
  envArgs : List String := []
  ignoreDiskPressure : Bool := false

inductive RejectedFlag where
  | param
  | paramFile
  | env
  deriving DecidableEq

inductive CreateError where
  | notWithSource (flag : RejectedFlag)
  | notWhenCloning (flag : RejectedFlag)
  | readParamFile (path : String)
  | paramWithoutValue (text : String)
  | paramKey (text : String)
  /-- The daemon's own error. -/
  | client (cause : String)
  | blueprintNotFound (ref : CellBindingRef)
  | configNotFound (ref : CellBindingRef)
  | cellNotFound (ref : CellBindingRef)
  | noProvenance (cell : String)
  | bindingKind (cell kind : String)
  | blueprint (cause : BlueprintError)
  | config (cause : ConfigError)
  | cellName (cause : CellNameError String)

/-- The lookups of the daemon; `none` is a document that does not exist. -/
structure Client where
  getBlueprint : CellBindingRef → Except String (Option CellBlueprintDoc)
  getConfig : CellBindingRef → Except String (Option CellConfigDoc)
  getCell : CellBindingRef → Except String (Option CellDoc)

/-- What one run of the command reads. The lookup coordinates are those that `PickLookupRealm`
    and `ExplicitScope` settle on. -/
structure Invocation where
  client : Client
  reader : ScalarReader
  lookupEnv : String → Option String
  readFile : String → Option String
  lookupRealm : String
  lookupSpace : String
  lookupStack : String
  flags : SourceFlags

def splitKV (text : String) : Option (String × String) :=
  let key := text.toList.takeWhile (· != '=')
  match text.toList.drop key.length with
  | [] => none
  | _ :: value => some (trimSpace (String.ofList key), String.ofList value)

/-- `paramNameRE`. -/
def isParamName (key : String) : Bool :=
  match key.toList with
  | [] => false
  | first :: rest => CellBlueprint.isKeyStart first && rest.all CellBlueprint.isKeyChar

def recordParam (params : Labels) (text : String) : Except CreateError Labels :=
  match splitKV text with
  | none => .error (.paramWithoutValue text)
  | some (key, value) =>
    if isParamName key then .ok (params.insert key value) else .error (.paramKey text)

def parseParamArgs (args : List String) : Except CreateError Labels :=
  args.foldlM recordParam ∅

/-- The lines of a parameter file, without blank and comment lines. -/
def paramLines (content : String) : List String :=
  let lines := (content.toList.splitOn '\n').map fun line =>
    String.ofList (line.reverse.dropWhile (· == '\r')).reverse
  lines.filter fun line =>
    let trimmed := trimSpace line
    trimmed != "" && trimmed.toList.head? != some '#'

def parseParamFile (inv : Invocation) (path : String) : Except CreateError Labels :=
  match inv.readFile path with
  | none => .error (.readParamFile path)
  | some content => (paramLines content).foldlM recordParam ∅

/-- `MergeParams`. -/
def mergeParams (base overrides : Labels) : Labels := overrides ∪ base

def buildParamMap (inv : Invocation) : Except CreateError Labels := do
  let fileParams ←
    if inv.flags.paramFile ≠ "" then parseParamFile inv inv.flags.paramFile else pure ∅
  let cliParams ← parseParamArgs inv.flags.paramArgs
  return mergeParams fileParams cliParams

def getBlueprint (inv : Invocation) (ref : CellBindingRef) : Except CreateError CellBlueprintDoc :=
  match inv.client.getBlueprint ref with
  | .error cause => .error (.client cause)
  | .ok none => .error (.blueprintNotFound ref)
  | .ok (some bp) => .ok bp

def getConfig (inv : Invocation) (ref : CellBindingRef) : Except CreateError CellConfigDoc :=
  match inv.client.getConfig ref with
  | .error cause => .error (.client cause)
  | .ok none => .error (.configNotFound ref)
  | .ok (some cfg) => .ok cfg

def lookupRef (inv : Invocation) (name : String) : CellBindingRef where
  name := name
  realm := inv.lookupRealm
  space := inv.lookupSpace
  stack := inv.lookupStack

def resolveSourceCell (inv : Invocation) : Except CreateError CellDoc :=
  let ref : CellBindingRef :=
    { name := inv.flags.cloneSource
      realm := inv.flags.realm
      space := inv.flags.space
      stack := inv.flags.stack }
  match inv.client.getCell ref with
  | .error cause => .error (.client cause)
  | .ok none => .error (.cellNotFound ref)
  | .ok (some cell) => .ok cell

/-- `overlayScope`: the document wins where it sets a coordinate. -/
def overlayScope (doc : CellDoc) (flags : SourceFlags) : CellDoc :=
  { doc with
    spec :=
      { doc.spec with
        realmID := if trimSpace doc.spec.realmID = "" then flags.realm else doc.spec.realmID
        spaceID := if trimSpace doc.spec.spaceID = "" then flags.space else doc.spec.spaceID
        stackID := if trimSpace doc.spec.stackID = "" then flags.stack else doc.spec.stackID } }

/-- The probe of `ResolveCellName`. -/
def cellTaken (inv : Invocation) (realm space stack name : String) : Except String Bool :=
  match inv.client.getCell { name := name, realm := realm, space := space, stack := stack } with
  | .error cause => .error cause
  | .ok found => .ok found.isSome

def resolveCellName (inv : Invocation) (spec : CellSpec) (cellPrefix : String) (draws : Draws) :
    Except CreateError String :=
  (allocCellName inv.flags.name cellPrefix
    (cellTaken inv spec.realmID spec.spaceID spec.stackID) draws).mapError .cellName

def withName (doc : CellDoc) (name : String) : CellDoc :=
  { doc with
    metadata := { doc.metadata with name := name }
    spec := { doc.spec with id := name } }

/-- `finalizeCellName`: the name goes into the document, after its volumes were expanded. -/
def finalizeCellName (inv : Invocation) (doc : CellDoc) (cellPrefix : String) (draws : Draws) :
    Except CreateError CellDoc := do
  let name ← resolveCellName inv doc.spec cellPrefix draws
  return withName doc name

def applyIgnoreDiskPressure (doc : CellDoc) (flags : SourceFlags) : CellDoc :=
  if flags.ignoreDiskPressure then
    { doc with spec := { doc.spec with ignoreDiskPressure := true } }
  else doc

/-! ## The three sources

The first reading of the random source is the one the Blueprint's own materialization makes, the
later ones are those of the final name. A Config's materialization makes none, so that its first
reading stays unused here. -/

section Sources

variable (inv : Invocation) (draws : Draws)

def validateOverrideSymmetry (flags : SourceFlags) : Except CreateError Unit :=
  if flags.cloneSource ≠ "" then .ok ()
  else if flags.configName ≠ "" ∧ flags.paramArgs ≠ [] then .error (.notWithSource .param)
  else if flags.configName ≠ "" ∧ flags.paramFile ≠ "" then .error (.notWithSource .paramFile)
  else if flags.blueprintName ≠ "" ∧ flags.envArgs ≠ [] then .error (.notWithSource .env)
  else .ok ()

def materializeFromBlueprint : Except CreateError CellDoc := do
  let cliParams ← buildParamMap inv
  let bp ← getBlueprint inv (lookupRef inv inv.flags.blueprintName)
  let resolved ←
    (CellBlueprint.resolve inv.reader bp cliParams (some inv.lookupEnv)).mapError .blueprint
  let doc ←
    (CellBlueprint.materializeWithName resolved inv.flags.name cliParams (draws 0)).mapError
      .blueprint
  let doc ← finalizeCellName inv (overlayScope doc inv.flags) (CellBlueprint.cellPrefix resolved)
    (fun i => draws (i + 1))
  return applyIgnoreDiskPressure doc inv.flags

def materializeFromConfig : Except CreateError CellDoc := do
  let cfg ← getConfig inv (lookupRef inv inv.flags.configName)
  let bp ← getBlueprint inv cfg.spec.blueprint
  let doc ←
    (CellConfig.materializeWithName inv.reader cfg bp inv.flags.name).mapError .config
  let doc ← finalizeCellName inv (overlayScope doc inv.flags) (CellConfig.cellPrefix cfg)
    (fun i => draws (i + 1))
  return applyIgnoreDiskPressure (CellConfig.applyEnvOverrides doc inv.flags.envArgs) inv.flags

def cloneFromConfig (provenance : CellProvenance) : Except CreateError CellDoc := do
  if inv.flags.paramArgs ≠ [] then throw (.notWhenCloning .param)
  if inv.flags.paramFile ≠ "" then throw (.notWhenCloning .paramFile)
  let cfg ← getConfig inv provenance.bindingRef
  let bp ← getBlueprint inv cfg.spec.blueprint
  let doc ←
    (CellConfig.materializeWithName inv.reader cfg bp inv.flags.name).mapError .config
  let copied := { doc with spec := { doc.spec with provenance := some provenance } }
  return CellConfig.applyEnvOverrides copied
    (CellConfig.mergeEnv provenance.envOverrides inv.flags.envArgs)

def cloneFromBlueprint (provenance : CellProvenance) : Except CreateError CellDoc := do
  if inv.flags.envArgs ≠ [] then throw (.notWhenCloning .env)
  let bp ← getBlueprint inv provenance.bindingRef
  let cliParams ← buildParamMap inv
  let mergedParams := mergeParams provenance.params cliParams
  let resolved ←
    (CellBlueprint.resolve inv.reader bp mergedParams (some inv.lookupEnv)).mapError .blueprint
  let doc ←
    (CellBlueprint.materializeWithName resolved inv.flags.name mergedParams (draws 0)).mapError
      .blueprint
  let recorded := if mergedParams.len > 0 then mergedParams else provenance.params
  return { doc with
    spec := { doc.spec with provenance := some { provenance with params := recorded } } }

/-- The switch of `materializeClone` on the recorded binding. -/
def cloneFromBinding (source : String) (provenance : CellProvenance) :
    Except CreateError CellDoc :=
  if provenance.bindingKind = bindingKindConfig then cloneFromConfig inv provenance
  else if provenance.bindingKind = bindingKindBlueprint then
    cloneFromBlueprint inv draws provenance
  else .error (.bindingKind source provenance.bindingKind)

/-- `AnnotationSourceCell`. -/
def annotationSourceCell : String := "kukeon.io/source-cell"

def cloneInto (source doc : CellDoc) : CellDoc :=
  { doc with
    metadata :=
      { doc.metadata with
        annotations := doc.metadata.annotations.insert annotationSourceCell source.metadata.name }
    spec :=
      { doc.spec with
        realmID := source.spec.realmID
        spaceID := source.spec.spaceID
        stackID := source.spec.stackID } }

def materializeClone : Except CreateError CellDoc := do
  let source ← resolveSourceCell inv
  match source.spec.provenance with
  | none => throw (.noProvenance source.metadata.name)
  | some provenance =>
    let doc ← cloneFromBinding inv draws source.metadata.name provenance
    let doc ← finalizeCellName inv (cloneInto source doc) source.metadata.name
      (fun i => draws (i + 1))
    return applyIgnoreDiskPressure doc inv.flags

/-- `Materialize`. -/
def materialize : Except CreateError CellDoc := do
  validateOverrideSymmetry inv.flags
  if inv.flags.cloneSource ≠ "" then materializeClone inv draws
  else if inv.flags.blueprintName ≠ "" then materializeFromBlueprint inv draws
  else materializeFromConfig inv draws

end Sources

end Kukeon.Cli
