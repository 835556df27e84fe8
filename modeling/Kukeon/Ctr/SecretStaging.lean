import Kukeon.Apply.Parser
import Kukeon.Fs.Metadata
import Kukeon.Lib.Effect

/-! # Staging of secrets

`resolveSecrets` of `internal/ctr/secrets.go`. Before a container is built its secrets are read from
their sources. A secret with a mount path is written to a file below the staging directory, under
its own name, and the file is mounted; the others go to the environment.
-/

namespace Kukeon.Ctr.Secrets

open ModelHub (ContainerSecret ContainerSecretRef)
open ApplyParser (KukeError Errdef entryNote)
open ApiScheme (isAbs)
open GoText HostFiles Effect Checks

def defaultSecretsStagingDir : String := "/run/kukeon/secrets"

structure StagedMount where
  source : TreePath
  target : String
  deriving DecidableEq

structure ResolvedSecrets where
  envAdds : List String := []
  mountAdds : List StagedMount := []
  deriving DecidableEq

structure Daemon where
  runPath : TreePath
  cwd : TreePath := []
  env : GoMap String String := ∅
  /-- The random part of the name of the temporary file for the secret at a position. -/
  random : Nat → String := fun _ => ""
  /-- Why that file cannot be written, its mode not be set or the file not be closed. -/
  writeFault : Nat → Option String := fun _ => none

structure Host where
  tree : FileTree Node := []
  /-- The paths that were written as files, temporary ones among them. -/
  written : List TreePath := []
  deriving DecidableEq

abbrev Staging := Effect Host KukeError

section Model

variable (daemon : Daemon)

def readSecretRefValue (ref : ContainerSecretRef) (name : String) (tree : FileTree Node) :
    Except KukeError String :=
  let path := Fs.secretPath daemon.runPath ref.realm ref.space ref.stack ref.cell ref.name
  let place := quoted (pathText path)
  match readFile tree path with
  | .ok value => .ok value
  | .error .notExist =>
    .error (Errdef.secretRefNotFound.saying
      (" (secret " ++ quoted name ++ " ref " ++ quoted ref.name ++ " at " ++ place ++ ")"))
  | .error err =>
    .error { text :=
      "failed to read referenced secret " ++ quoted ref.name ++ " from " ++ place ++ ": " ++
        err.text }

def readSecretFile (fromFile name : String) (tree : FileTree Node) : Except KukeError String :=
  match readFile tree (resolve daemon.cwd fromFile) with
  | .ok value => .ok value
  | .error .notExist =>
    .error (Errdef.secretFromFileNotFound.saying
      (" (secret " ++ quoted name ++ " path " ++ quoted fromFile ++ ")"))
  | .error err =>
    .error { text :=
      "failed to read secret " ++ quoted name ++ " from " ++ quoted fromFile ++ ": " ++ err.text }

def readSecretValue (secret : ContainerSecret) (tree : FileTree Node) : Except KukeError String :=
  let name := trimSpace secret.name
  let fromFile := trimSpace secret.fromFile
  let fromEnv := trimSpace secret.fromEnv
  match secret.secretRef with
  | some ref => readSecretRefValue daemon ref name tree
  | none =>
    if fromFile ≠ "" then readSecretFile daemon fromFile name tree
    else
      match daemon.env.lookup fromEnv with
      | some value => .ok value
      | none =>
        .error (Errdef.secretFromEnvNotSet.saying
          (" (secret " ++ quoted name ++ " env " ++ quoted fromEnv ++ ")"))

def tempPath (path : TreePath) (index : Nat) : TreePath :=
  path.dropLast ++ [".secret-" ++ daemon.random index]

/-- A temporary file beside the path is filled and renamed. It is removed again if that fails. -/
def writeSecretFile (index : Nat) (path : TreePath) (value : String) (host : Host) :
    Except String Unit × Host :=
  let temp := tempPath daemon path index
  match node host.tree path.dropLast with
  | some .dir =>
    match daemon.writeFault index, node host.tree path with
    | some fault, _ => (.error fault, { host with written := host.written ++ [temp] })
    | none, some .dir => (.error "file exists", { host with written := host.written ++ [temp] })
    | none, _ =>
      (.ok (), { tree := host.tree.put path (.file value)
                 written := host.written ++ [temp, path] })
  | some (.file _) => (.error FileError.notDir.text, host)
  | none => (.error (missing host.tree path.dropLast).text, host)

def makeDir (dir : TreePath) (host : Host) : Except String Unit × Host :=
  match mkdirAll host.tree dir with
  | .ok tree => (.ok (), { host with tree := tree })
  | .error err => (.error err.text, host)

def checkSecret (index : Nat) (secret : ContainerSecret) : Except KukeError Unit := do
  let name := trimSpace secret.name
  let mountPath := trimSpace secret.mountPath
  let sources := ApplyParser.secretSources (ApiScheme.buildSecretExternalFromInternal secret)
  require (name ≠ "") (Errdef.secretNameRequired.saying (entryNote "secrets" index ""))
  require (sources ≠ 0)
    (Errdef.secretSourceRequired.saying (entryNote "secrets" index (" " ++ quoted name)))
  require (sources ≤ 1)
    (Errdef.secretMultipleSources.saying (entryNote "secrets" index (" " ++ quoted name)))
  require (mountPath = "" ∨ isAbs mountPath = true)
    (Errdef.secretMountPathNotAbsolute.saying
      (entryNote "secrets" index (" " ++ quoted name ++ " mountPath " ++ quoted mountPath)))

def stagingFailed (index : Nat) (name cause : String) : KukeError :=
  Errdef.secretStagingFailed.saying
    (entryNote "secrets" index (" " ++ quoted name) ++ ": " ++ cause)

def staging (index : Nat) (name : String) (step : Host → Except String Unit × Host) :
    Staging Unit :=
  fun host => ((step host).1.mapError (stagingFailed index name), (step host).2)

structure Progress where
  /-- Whether `perContainerDir` is set. -/
  made : Bool := false
  out : ResolvedSecrets := {}

def stagedPath (dir : TreePath) (secret : ContainerSecret) : TreePath :=
  join dir (trimSpace secret.name)

def isMounted (secret : ContainerSecret) : Bool := trimSpace secret.mountPath != ""

def mountOf (dir : TreePath) (secret : ContainerSecret) : StagedMount where
  source := stagedPath dir secret
  target := trimSpace secret.mountPath

def prepareDir (dir : TreePath) (made : Bool) (index : Nat) (name : String) : Staging Unit :=
  if made then return () else staging index name (makeDir dir)

def stageFile (dir : TreePath) (made : Bool) (index : Nat) (secret : ContainerSecret)
    (value : String) : Staging Unit := do
  let name := trimSpace secret.name
  prepareDir dir made index name
  staging index name (writeSecretFile daemon index (stagedPath dir secret) value)

def stageSecret (dir : TreePath) (progress : Progress) (entry : ContainerSecret × Nat) :
    Staging Progress := do
  let secret := entry.1
  ofResult (checkSecret entry.2 secret)
  let host ← get
  let value ← ofResult (readSecretValue daemon secret host.tree)
  if isMounted secret then
    stageFile daemon dir progress.made entry.2 secret value
    return { made := true
             out := { progress.out with
               mountAdds := progress.out.mountAdds ++ [mountOf dir secret] } }
  else
    return { progress with
      out.envAdds := progress.out.envAdds ++ [trimSpace secret.name ++ "=" ++ value] }

/-- `filepath.Join` of the staging directory and the container's id. -/
def perContainerDir (containerdID stagingDir : String) : TreePath :=
  let root := if trimSpace stagingDir = "" then defaultSecretsStagingDir else stagingDir
  join (resolve daemon.cwd root) containerdID

def resolveSecrets (containerdID : String) (secrets : List ContainerSecret) (stagingDir : String) :
    Staging ResolvedSecrets :=
  if secrets.length = 0 then return {}
  else do
    let progress ← secrets.zipIdx.foldlM
      (stageSecret daemon (perContainerDir daemon containerdID stagingDir)) {}
    return progress.out

end Model

end Kukeon.Ctr.Secrets
