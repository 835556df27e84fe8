import Kukeon.ApiScheme.V1Beta1

/-! # Resolving the parameters of a Blueprint

`Resolve` and `ResolveConfig` of `internal/cellblueprint/cellblueprint.go`, and the substitution
of `params.go`. The source writes the document as YAML, replaces the references in its scalars
and reads it back; here the replacement goes through the fields of the document. What the YAML
library reads back from a scalar whose text was replaced is a parameter, since a replaced plain
scalar may read as null.
-/

namespace Kukeon.CellBlueprint

open ModelHub (Labels VolumeKind)
open V1Beta1 GoText ListRewrite

/-- The errors of the package, with the data their texts carry. Which undeclared key is named
    depends on the order of a map, so it is left out. -/
inductive BlueprintError where
  | undeclaredParam (blueprint : String)
  | requiredParam (blueprint parameter : String)
  | cellName (blueprint cellPrefix : String)
  | structuralSlots (blueprint : String) (blockers : List String)
  deriving DecidableEq

def isKeyStart (c : Char) : Bool := c.isAlpha || c == '_'

def isKeyChar (c : Char) : Bool := isKeyStart c || c.isDigit

/-- The key of the reference that `paramRefRE` matches at the head of a text. -/
def paramRef : List Char → Option (List Char)
  | '$' :: '{' :: first :: rest =>
    if isKeyStart first && (rest.dropWhile isKeyChar).head? == some '}' then
      some (first :: rest.takeWhile isKeyChar)
    else none
  | _ => none

def refLength (text : List Char) : Option Nat := (paramRef text).map fun key => key.length + 3

/-- What stands for the reference at the head of a text: the value of its key, or the reference
    itself when the key has none. -/
def refValue (values : Labels) (text : List Char) : List Char :=
  match paramRef text with
  | none => []
  | some key =>
    match values.lookup (String.ofList key) with
    | some value => value.toList
    | none => text.take (key.length + 3)

def substituteText (values : Labels) (text : String) : String :=
  String.ofList (rewrite refLength (refValue values) 0 text.toList)

def refStart : String := "$\x7b"

/-- What the YAML library reads from a scalar, given its text before and after replacement: as a
    field, and as an entry of a list of strings. -/
structure ScalarReader where
  text : String → String → String
  entry : String → String → Option String

def ScalarReader.verbatim : ScalarReader where
  text _ after := after
  entry _ after := some after

section Substitution

variable (reader : ScalarReader) (values : Labels)

def scalar (text : String) : String :=
  if contains text refStart then reader.text text (substituteText values text) else text

def scalars (texts : List String) : List String :=
  texts.filterMap fun text =>
    if contains text refStart then reader.entry text (substituteText values text) else some text

def scalarKind (kind : VolumeKind) : VolumeKind :=
  match kind with
  | .other text =>
    match scalar reader values text with
    | "" => .unset
    | "bind" => .bind
    | "tmpfs" => .tmpfs
    | "volume" => .volume
    | replaced => .other replaced
  | known => known

def substituteVolumeRef (ref : VolumeRef) : VolumeRef where
  name := scalar reader values ref.name
  realm := scalar reader values ref.realm
  space := scalar reader values ref.space
  stack := scalar reader values ref.stack

def substituteVolume (mount : VolumeMount) : VolumeMount :=
  { mount with
    kind := scalarKind reader values mount.kind
    source := scalar reader values mount.source
    target := scalar reader values mount.target
    volumeRef := mount.volumeRef.map (substituteVolumeRef reader values) }

def substituteRepo (repo : ContainerRepo) : ContainerRepo :=
  { repo with
    name := scalar reader values repo.name
    target := scalar reader values repo.target
    branch := scalar reader values repo.branch
    ref := scalar reader values repo.ref
    url := scalar reader values repo.url }

def substituteIdentity (identity : GitIdentity) : GitIdentity where
  name := scalar reader values identity.name
  email := scalar reader values identity.email

def substituteGit (git : ContainerGit) : ContainerGit where
  author := git.author.map (substituteIdentity reader values)
  committer := git.committer.map (substituteIdentity reader values)
  signingKey := scalar reader values git.signingKey
  sign := scalars reader values git.sign
  allowedSigners := scalar reader values git.allowedSigners

def substituteTty (tty : ContainerTty) : ContainerTty where
  prompt := scalar reader values tty.prompt
  onInit := tty.onInit.map fun stage =>
    { script := scalar reader values stage.script
      runOn := scalar reader values stage.runOn }
  logFile := scalar reader values tty.logFile
  logLevel := scalar reader values tty.logLevel

def substituteSecretSlot (slot : BlueprintSecretSlot) : BlueprintSecretSlot :=
  { slot with
    name := scalar reader values slot.name
    mode := scalar reader values slot.mode
    envName := scalar reader values slot.envName
    mountPath := scalar reader values slot.mountPath }

def substituteContainer (container : BlueprintContainer) : BlueprintContainer :=
  { container with
    id := scalar reader values container.id
    image := scalar reader values container.image
    command := scalar reader values container.command
    args := scalars reader values container.args
    workingDir := scalar reader values container.workingDir
    env := scalars reader values container.env
    ports := scalars reader values container.ports
    volumes := container.volumes.map (substituteVolume reader values)
    networks := scalars reader values container.networks
    networksAliases := scalars reader values container.networksAliases
    user := scalar reader values container.user
    capabilities := container.capabilities.map fun capabilities =>
      { drop := scalars reader values capabilities.drop
        add := scalars reader values capabilities.add }
    securityOpts := scalars reader values container.securityOpts
    devices := scalars reader values container.devices
    tmpfs := container.tmpfs.map fun mount =>
      { mount with
        path := scalar reader values mount.path
        options := scalars reader values mount.options }
    repos := container.repos.map (substituteRepo reader values)
    git := container.git.map (substituteGit reader values)
    restartPolicy := scalar reader values container.restartPolicy
    tty := container.tty.map (substituteTty reader values)
    secrets := container.secrets.map (substituteSecretSlot reader values) }

/-- `substituteScalars`. The parameter declarations keep their texts: nothing reads them after
    the values are known. -/
def substituteScalars (doc : CellBlueprintDoc) : CellBlueprintDoc where
  metadata :=
    { name := scalar reader values doc.metadata.name
      realm := scalar reader values doc.metadata.realm
      space := scalar reader values doc.metadata.space
      stack := scalar reader values doc.metadata.stack
      labels := doc.metadata.labels.mapValues (scalar reader values) }
  spec :=
    { cellPrefix := scalar reader values doc.spec.cellPrefix
      parameters := doc.spec.parameters
      cell :=
        { doc.spec.cell with
          tty := doc.spec.cell.tty.map fun tty => { default := scalar reader values tty.default }
          containers := doc.spec.cell.containers.map (substituteContainer reader values) } }

end Substitution

/-- The environment a parameter falls back on; `none` where the source passes no lookup. -/
abbrev LookupEnv := Option (String → Option String)

def resolveValue (doc : CellBlueprintDoc) (cliParams : Labels) (lookupEnv : LookupEnv)
    (parameter : CellBlueprintParameter) : Except BlueprintError String :=
  match cliParams.lookup parameter.name with
  | some value => .ok value
  | none =>
    match parameter.default with
    | some value => .ok value
    | none =>
      match lookupEnv.bind (· parameter.name) with
      | some value => .ok value
      | none =>
        if parameter.required then
          .error (.requiredParam doc.metadata.name parameter.name)
        else .ok ""

/-- The values of the undeclared keys, which only the lenient channel lets through, and of every
    declared parameter. -/
def resolveValues (doc : CellBlueprintDoc) (cliParams : Labels) (lookupEnv : LookupEnv)
    (lenient : Bool) : Except BlueprintError Labels := do
  let undeclared := cliParams.filterKeys fun key =>
    !doc.spec.parameters.any fun parameter => parameter.name == key
  if !lenient && undeclared.len != 0 then
    throw (.undeclaredParam doc.metadata.name)
  let record := fun values parameter => do
    let value ← resolveValue doc cliParams lookupEnv parameter
    return values.insert parameter.name value
  doc.spec.parameters.foldlM record undeclared

def resolveWith (reader : ScalarReader) (doc : CellBlueprintDoc) (cliParams : Labels)
    (lookupEnv : LookupEnv) (lenient : Bool) : Except BlueprintError CellBlueprintDoc := do
  let values ← resolveValues doc cliParams lookupEnv lenient
  return substituteScalars reader values doc

/-- `Resolve`, the channel of `--param`. -/
def resolve (reader : ScalarReader) (doc : CellBlueprintDoc) (cliParams : Labels)
    (lookupEnv : LookupEnv) : Except BlueprintError CellBlueprintDoc :=
  resolveWith reader doc cliParams lookupEnv false

/-- `ResolveConfig`, the channel of a Config's values. -/
def resolveConfig (reader : ScalarReader) (doc : CellBlueprintDoc) (values : Labels)
    (lookupEnv : LookupEnv) : Except BlueprintError CellBlueprintDoc :=
  resolveWith reader doc values lookupEnv true

end Kukeon.CellBlueprint
