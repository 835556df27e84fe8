import Kukeon.Lib.FileTree

/-! # Paths of the metadata tree

The path builders of `internal/util/fs/metadata.go`. The names they join are taken as they are; what
a name with separators in it does to a path is what `filepath.Join` does.
-/

namespace Kukeon.Fs

open HostFiles

def kukeonMetadataSubdir : String := "data"

def kukeonSecretsSubdir : String := "secrets"

def kukeonBlueprintsSubdir : String := "blueprints"

def kukeonVolumesSubdir : String := "volumes"

section Paths

variable (baseRunPath : TreePath)

def metadataRoot : TreePath := join baseRunPath kukeonMetadataSubdir

def realmMetadataDir (realmName : String) : TreePath := join (metadataRoot baseRunPath) realmName

def spaceMetadataDir (realmName spaceName : String) : TreePath :=
  join (realmMetadataDir baseRunPath realmName) spaceName

def stackMetadataDir (realmName spaceName stackName : String) : TreePath :=
  join (spaceMetadataDir baseRunPath realmName spaceName) stackName

def cellMetadataDir (realmName spaceName stackName cellName : String) : TreePath :=
  join (stackMetadataDir baseRunPath realmName spaceName stackName) cellName

def secretScopeDir (realmName spaceName stackName cellName : String) : TreePath :=
  if cellName ≠ "" then cellMetadataDir baseRunPath realmName spaceName stackName cellName
  else if stackName ≠ "" then stackMetadataDir baseRunPath realmName spaceName stackName
  else if spaceName ≠ "" then spaceMetadataDir baseRunPath realmName spaceName
  else realmMetadataDir baseRunPath realmName

def secretsDir (realmName spaceName stackName cellName : String) : TreePath :=
  join (secretScopeDir baseRunPath realmName spaceName stackName cellName) kukeonSecretsSubdir

def secretPath (realmName spaceName stackName cellName secretName : String) : TreePath :=
  join (secretsDir baseRunPath realmName spaceName stackName cellName) secretName

/-- `BlueprintScopeDir` and `VolumeScopeDir`, which have no cells. -/
def bindingScopeDir (realmName spaceName stackName : String) : TreePath :=
  if stackName ≠ "" then stackMetadataDir baseRunPath realmName spaceName stackName
  else if spaceName ≠ "" then spaceMetadataDir baseRunPath realmName spaceName
  else realmMetadataDir baseRunPath realmName

def blueprintPath (realmName spaceName stackName blueprintName : String) : TreePath :=
  join (join (bindingScopeDir baseRunPath realmName spaceName stackName) kukeonBlueprintsSubdir)
    blueprintName

def volumePath (realmName spaceName stackName volumeName : String) : TreePath :=
  join (join (bindingScopeDir baseRunPath realmName spaceName stackName) kukeonVolumesSubdir)
    volumeName

end Paths

end Kukeon.Fs
