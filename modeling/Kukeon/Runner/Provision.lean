import Kukeon.ApiScheme.Cell
import Kukeon.Ctr.Client
import Kukeon.Lib.Keyed
import Kukeon.Lib.Outcome

/-! # Building the containers of a cell

`createCellContainers`, `ensureCellContainers` and what they call, of
`internal/controller/runner/provision.go`. Both complete the spec of the cell, with the defaults of
its space, a root container and the names every container is filed under, and then create its
containers. The realm's containerd namespace is the list of the ids of its containers; creating one
can fail only over what the code itself checks.
-/

namespace Kukeon.Runner

open ModelHub GoText Ctr

/-- What the runner reads of its host while it builds containers. The functions of two names take a
    realm and a space, those of four also a stack and a cell. -/
structure ProvisionHost where
  getSpace : String → String → Except String Space
  spaceNetworkConfigPath : String → String → Except String String
  /-- Where `stageKukepauseBinary` has put the binary. -/
  kukepauseHostPath : String
  cellEtcHostnamePath : String → String → String → String → String
  cellEtcHostsPath : String → String → String → String → String

inductive ProvisionError where
  | cellNotFound
  | cellNameRequired
  | cellIDRequired
  | realmNameRequired
  | spaceNameRequired
  | stackNameRequired
  | getSpace (cause : String)
  | spaceNetworkConfigPath (cause : String)
  /-- A part of a containerd id is empty. -/
  | containerdIDPart
  | rootNotFound (id : String)
  | rootHostNetworkMismatch (id : String)
  | emptyContainerID
  | invalidImage
  | containerExists (containerdID : String)
  deriving DecidableEq

structure CellNames where
  cellID : String
  realm : String
  space : String
  stack : String
  deriving DecidableEq

def cellNames (cell : Cell) : CellNames where
  cellID := cell.spec.id
  realm := cell.spec.realmName
  space := cell.spec.spaceName
  stack := cell.spec.stackName

def CellNames.trimScope (names : CellNames) : CellNames :=
  { names with
    realm := trimSpace names.realm
    space := trimSpace names.space
    stack := trimSpace names.stack }

def checkNames (names : CellNames) : Except ProvisionError Unit :=
  if names.cellID = "" then .error .cellIDRequired
  else if names.realm = "" then .error .realmNameRequired
  else if names.space = "" then .error .spaceNameRequired
  else if names.stack = "" then .error .stackNameRequired
  else .ok ()

section Host

variable (host : ProvisionHost)

def resolveSpaceCNIConfigPath (realm space : String) : Except ProvisionError String := do
  let found ← (host.getSpace realm space).mapError .getSpace
  if trimSpace found.spec.cniConfigPath ≠ "" then
    pure (trimSpace found.spec.cniConfigPath)
  else
    (host.spaceNetworkConfigPath realm found.metadata.name).mapError .spaceNetworkConfigPath

/-- The body of the loop of `applyCellContainerDefaults`. -/
def withDefaults (space : Space) (nestedCgroupRuntime : Bool) (container : ContainerSpec) :
    ContainerSpec :=
  { applySpaceDefaultsToContainer space container with nestedCgroupRuntime := nestedCgroupRuntime }

def applyCellContainerDefaults (cell : Cell) : Except ProvisionError Cell := do
  let space ← (host.getSpace cell.spec.realmName cell.spec.spaceName).mapError .getSpace
  return { cell with
    spec.containers := cell.spec.containers.map (withDefaults space cell.spec.nestedCgroupRuntime) }

def rootContainerdID (names : CellNames) : Except ProvisionError String :=
  match buildRootContainerdID names.space names.stack names.cellID with
  | some id => .ok id
  | none => .error .containerdIDPart

def cellWantsHostNetworkRoot (cell : Cell) : Bool := cell.spec.containers.any (·.hostNetwork)

/-- The container the cell names as its root, or the default one. -/
def chosenRoot (cell : Cell) (names : CellNames) (containerdID cniConfigPath : String) :
    Except ProvisionError ContainerSpec :=
  if cell.spec.rootContainerID ≠ "" then
    match cell.spec.containers.find? fun container => container.id = cell.spec.rootContainerID with
    | none => .error (.rootNotFound cell.spec.rootContainerID)
    | some root =>
      -- `validateExplicitRootHostNetwork`
      if cellWantsHostNetworkRoot cell ∧ root.hostNetwork = false then
        .error (.rootHostNetworkMismatch cell.spec.rootContainerID)
      else .ok root
  else
    .ok
      { defaultRootContainerSpec containerdID names.cellID names.realm names.space names.stack
          cniConfigPath host.kukepauseHostPath with
        hostNetwork := cellWantsHostNetworkRoot cell }

/-- The last part of `ensureCellRootContainerSpec`: the chosen container as the root. -/
def asRoot (names : CellNames) (nestedCgroupRuntime : Bool) (containerdID cniConfigPath : String)
    (chosen : ContainerSpec) : ContainerSpec :=
  { chosen with
    nestedCgroupRuntime := nestedCgroupRuntime
    root := true
    id := orElse chosen.id "root"
    containerdID := orElse chosen.containerdID containerdID
    cellName := orElse chosen.cellName names.cellID
    realmName := orElse chosen.realmName names.realm
    spaceName := orElse chosen.spaceName names.space
    stackName := orElse chosen.stackName names.stack
    cniConfigPath := orElse chosen.cniConfigPath cniConfigPath }

def ensureCellRootContainerSpec (cell : Cell) : Except ProvisionError ContainerSpec := do
  let names := { (cellNames cell).trimScope with cellID := trimSpace cell.spec.id }
  checkNames names
  let cniConfigPath ← resolveSpaceCNIConfigPath host names.realm names.space
  let containerdID ← rootContainerdID names
  let chosen ← chosenRoot host cell names containerdID cniConfigPath
  return asRoot names cell.spec.nestedCgroupRuntime containerdID cniConfigPath chosen

/-- The root takes the place of the first container with its id, or comes last. -/
def placeRoot (root : ContainerSpec) (cell : Cell) : Cell :=
  { cell with
    spec.containers := Keyed.upsert ContainerSpec.id root cell.spec.containers
    spec.rootContainerID := orElse cell.spec.rootContainerID root.id }

def cellRootHostNetwork (cell : Cell) : Bool :=
  let rootID := trimSpace cell.spec.rootContainerID
  match cell.spec.containers.find? fun container =>
      if rootID ≠ "" then container.id == rootID else container.root with
  | none => false
  | some root => root.hostNetwork

/-- `stampCellEtcFilePathsOnContainers`, for a cell whose names are complete. -/
def stampCellEtcFilePathsOnContainers (cell : Cell) : Cell :=
  let names := (cellNames cell).trimScope
  let cellName := trimSpace cell.metadata.name
  let hosts :=
    if cellRootHostNetwork cell then ""
    else host.cellEtcHostsPath names.realm names.space names.stack cellName
  { cell with
    spec.containers := cell.spec.containers.map fun container =>
      { container with
        etcHostnamePath :=
          host.cellEtcHostnamePath names.realm names.space names.stack cellName
        etcHostsPath := hosts } }

/-- The names, paths and cgroup that the loops over the containers fill in. -/
def ownedBy (names : CellNames) (cniConfigPath cgroupPath : String) (container : ContainerSpec) :
    ContainerSpec :=
  { container with
    cellName := orElse container.cellName names.cellID
    spaceName := orElse container.spaceName names.space
    realmName := orElse container.realmName names.realm
    stackName := orElse container.stackName names.stack
    cniConfigPath := orElse container.cniConfigPath cniConfigPath
    cellCgroupPath := orElse container.cellCgroupPath cgroupPath }

/-- The id that `BuildContainerdID` gives a container. -/
def ownContainerdID (container : ContainerSpec) : Except ProvisionError String :=
  match buildContainerdID container.spaceName container.stackName container.cellName
      container.id with
  | some id => .ok id
  | none => .error .containerdIDPart

/-- The container with the id it has, or else the one `build` makes. -/
def withContainerdID (build : Except ProvisionError String) (container : ContainerSpec) :
    Except ProvisionError ContainerSpec :=
  if container.containerdID ≠ "" then .ok container
  else do
    let id ← build
    return { container with containerdID := id }

/-- `CreateContainer` of the containerd client: the namespace with the container in it. -/
def createContainer (live : List String) (container : ContainerSpec) :
    Except ProvisionError (List String) :=
  if container.id = "" then .error .emptyContainerID
  else if container.image = "" then .error .invalidImage
  else if container.containerdID ∈ live then .error (.containerExists container.containerdID)
  else .ok (container.containerdID :: live)

/-- The loop over the containers of a cell: each is completed, and then `make` brings it into the
    namespace. -/
def forContainers (complete : ContainerSpec → Except ProvisionError ContainerSpec)
    (make : List String → ContainerSpec → Except ProvisionError (List String)) :
    List String → List ContainerSpec → Except ProvisionError (List ContainerSpec × List String)
  | live, [] => .ok ([], live)
  | live, container :: rest => do
      let completed ← complete container
      let made ← make live completed
      let (others, all) ← forContainers complete make made rest
      return (completed :: others, all)

/-- A container of a new cell. The one named as the root gets the root's id. -/
def createdSpec (names : CellNames) (cell : Cell) (cniConfigPath : String)
    (container : ContainerSpec) : Except ProvisionError ContainerSpec :=
  let owned := ownedBy names cniConfigPath cell.status.cgroupPath container
  withContainerdID
    (if cell.spec.rootContainerID ≠ "" ∧ container.id = cell.spec.rootContainerID then
      rootContainerdID names
    else ownContainerdID owned) owned

def createCellContainers (live : List String) (cell : Cell) :
    Except ProvisionError (Cell × List String) := do
  let names := (cellNames cell).trimScope
  if trimSpace cell.metadata.name = "" then throw .cellNameRequired
  checkNames names
  let defaulted ← applyCellContainerDefaults host cell
  let cniConfigPath ← resolveSpaceCNIConfigPath host names.realm names.space
  let containerdID ← rootContainerdID names
  let root ← ensureCellRootContainerSpec host defaulted
  let placed := stampCellEtcFilePathsOnContainers host
    (placeRoot { root with containerdID := containerdID } defaulted)
  let (containers, made) ← forContainers (createdSpec names placed cniConfigPath) createContainer
    live placed.spec.containers
  return ({ placed with spec.containers := containers }, made)

def ensuredSpec (names : CellNames) (cell : Cell) (cniConfigPath : String)
    (container : ContainerSpec) : Except ProvisionError ContainerSpec :=
  let owned := ownedBy names cniConfigPath cell.status.cgroupPath container
  withContainerdID (ownContainerdID owned) owned

def ensureContainer (live : List String) (container : ContainerSpec) :
    Except ProvisionError (List String) :=
  if container.containerdID ∈ live then .ok live else createContainer live container

def restoreRoot (live : List String) (cell : Cell) : Except ProvisionError (Cell × List String) := do
  let root ← ensureCellRootContainerSpec host cell
  let root := { root with cellCgroupPath := orElse root.cellCgroupPath cell.status.cgroupPath }
  let made ← createContainer live root
  return (placeRoot root cell, made)

def ensureRoot (live : List String) (containerdID : String) (cell : Cell) :
    Except ProvisionError (Cell × List String) :=
  if containerdID ∈ live then .ok (cell, live) else restoreRoot host live cell

def ensureCellContainers (live : List String) (cell : Cell) :
    Except ProvisionError (Cell × List String) := do
  let names := cellNames cell
  if trimSpace cell.metadata.name = "" then throw .cellNotFound
  checkNames names
  let defaulted ← applyCellContainerDefaults host cell
  let cniConfigPath ← resolveSpaceCNIConfigPath host names.realm names.space
  let containerdID ← rootContainerdID names
  let (rooted, live) ← ensureRoot host live containerdID defaulted
  let placed := stampCellEtcFilePathsOnContainers host rooted
  let (containers, made) ← forContainers (ensuredSpec names placed cniConfigPath) ensureContainer
    live placed.spec.containers
  return ({ placed with spec.containers := containers }, made)

end Host

def unstamped (container : ContainerSpec) : ContainerSpec :=
  { container with
    containerdID := ""
    realmName := ""
    spaceName := ""
    stackName := ""
    cellName := ""
    cniConfigPath := ""
    nestedCgroupRuntime := false
    cellCgroupPath := ""
    etcHostsPath := ""
    etcHostnamePath := "" }

/-- `built` is `container` with fields filled in that building fills in. -/
structure BuiltFrom (cniConfigPath : String) (container built : ContainerSpec) : Prop where
  spec : unstamped built = unstamped container
  cniConfigPath : built.cniConfigPath = orElse container.cniConfigPath cniConfigPath
  containerdID : container.containerdID ≠ "" → built.containerdID = container.containerdID

variable {container built : ContainerSpec}

theorem BuiltFrom.id {cniConfigPath : String} (hf : BuiltFrom cniConfigPath container built) :
    built.id = container.id := by
  have hs : (unstamped built).id = (unstamped container).id := by rw [hf.spec]
  exact hs

theorem withContainerdID_eq_ok {build : Except ProvisionError String} :
    withContainerdID build container = .ok built ↔
      (container.containerdID ≠ "" ∧ container = built) ∨
        (container.containerdID = "" ∧
          ∃ id, build = .ok id ∧ { container with containerdID := id } = built) := by
  unfold withContainerdID
  split
  · next hg => simp [hg]
  · next hb =>
      simp only [Outcome.bind_eq_ok, Outcome.pure_eq_ok]
      have hb : container.containerdID = "" := by simpa using hb
      simp [hb]

theorem builtFrom_owned {names : CellNames} {cniConfigPath cgroupPath : String}
    {build : Except ProvisionError String}
    (hc : withContainerdID build (ownedBy names cniConfigPath cgroupPath container) =
      .ok built) : BuiltFrom cniConfigPath container built := by
  rcases withContainerdID_eq_ok.mp hc with ⟨-, rfl⟩ | ⟨hb, id, -, rfl⟩
  · exact ⟨rfl, rfl, fun _ => rfl⟩
  · exact ⟨rfl, rfl, fun hg => absurd hb hg⟩

section Loop

variable {complete : ContainerSpec → Except ProvisionError ContainerSpec}
  {make : List String → ContainerSpec → Except ProvisionError (List String)}
  {live made : List String} {containers built : List ContainerSpec}

theorem forContainers_completes
    (hl : forContainers complete make live containers = .ok (built, made)) :
    List.Forall₂ (fun container result => complete container = .ok result) containers built := by
  induction containers generalizing live built made with
  | nil =>
    simp only [forContainers, Except.ok.injEq, Prod.mk.injEq] at hl
    rw [← hl.1]
    exact .nil
  | cons container rest ih =>
    simp only [forContainers, Outcome.bind_eq_ok, Outcome.pure_eq_ok, Prod.mk.injEq] at hl
    obtain ⟨completed, hf, made', -, ⟨others, all⟩, hlt, rfl, -⟩ := hl
    exact .cons hf (ih hlt)

/-- The containers that a loop creates have ids of their own, a name and an image. -/
theorem forContainers_create
    (hl : forContainers complete createContainer live containers = .ok (built, made)) :
    (built.map ContainerSpec.containerdID).Nodup ∧
      (∀ container ∈ built, container.containerdID ∉ live) ∧
      ∀ container ∈ built, container.id ≠ "" := by
  induction containers generalizing live built made with
  | nil =>
    simp only [forContainers, Except.ok.injEq, Prod.mk.injEq] at hl
    simp [← hl.1]
  | cons container rest ih =>
    simp only [forContainers, Outcome.bind_eq_ok, Outcome.pure_eq_ok, Prod.mk.injEq] at hl
    obtain ⟨completed, -, created, hc, ⟨others, all⟩, hlt, rfl, -⟩ := hl
    unfold createContainer at hc
    split at hc
    · cases hc
    split at hc
    · cases hc
    split at hc
    · cases hc
    next hn _ hf =>
      obtain rfl := Except.ok.inj hc
      obtain ⟨hd, ha, ho⟩ := ih hlt
      refine ⟨?_, ?_, ?_⟩
      · rw [List.map_cons, List.nodup_cons, List.mem_map]
        refine ⟨?_, hd⟩
        rintro ⟨other, hm, hs⟩
        exact ha other hm (by simp [hs])
      · simp only [List.mem_cons, forall_eq_or_imp]
        exact ⟨hf, fun other hm hi => ha other hm (by simp [hi])⟩
      · simp only [List.mem_cons, forall_eq_or_imp]
        exact ⟨hn, ho⟩

end Loop

section Created

variable {host : ProvisionHost} {live made : List String} {cell created : Cell}

theorem applyCellContainerDefaults_eq_ok {defaulted : Cell} :
    applyCellContainerDefaults host cell = .ok defaulted ↔
      ∃ space, host.getSpace cell.spec.realmName cell.spec.spaceName = .ok space ∧
        { cell with
          spec.containers :=
            cell.spec.containers.map (withDefaults space cell.spec.nestedCgroupRuntime) } =
          defaulted := by
  simp only [applyCellContainerDefaults, Outcome.bind_eq_ok, Outcome.mapError_eq_ok,
    Outcome.pure_eq_ok]

variable {root : ContainerSpec}

theorem ensureCellRootContainerSpec_eq_ok :
    ensureCellRootContainerSpec host cell = .ok root ↔
      ∃ cniConfigPath containerdID chosen,
        let names := { (cellNames cell).trimScope with cellID := trimSpace cell.spec.id }
        checkNames names = .ok () ∧
        resolveSpaceCNIConfigPath host names.realm names.space = .ok cniConfigPath ∧
        rootContainerdID names = .ok containerdID ∧
        chosenRoot host cell names containerdID cniConfigPath = .ok chosen ∧
        asRoot names cell.spec.nestedCgroupRuntime containerdID cniConfigPath chosen = root := by
  simp only [ensureCellRootContainerSpec, Outcome.bind_eq_ok, Outcome.pure_eq_ok]
  constructor
  · rintro ⟨⟨⟩, hc, path, hr, id, built, chosen, hch, rfl⟩
    exact ⟨path, id, chosen, hc, hr, built, hch, rfl⟩
  · rintro ⟨path, id, chosen, hc, hr, built, hch, rfl⟩
    exact ⟨(), hc, path, hr, id, built, chosen, hch, rfl⟩

def withSpaceDefaults (space : Space) (cell : Cell) : Cell :=
  { cell with
    spec.containers := cell.spec.containers.map (withDefaults space cell.spec.nestedCgroupRuntime) }

/-- `built` is what creating a cell makes of `container`; `rootID` is the id of the root. -/
structure CreatedContainer (names : CellNames) (rootID path : String)
    (container built : ContainerSpec) : Prop extends BuiltFrom path container built where
  assigned : container.containerdID = "" →
    (if rootID ≠ "" ∧ container.id = rootID then rootContainerdID names
      else ownContainerdID (ownedBy names path "" container)) = .ok built.containerdID

theorem ownContainerdID_congr {container other : ContainerSpec}
    (hs : container.spaceName = other.spaceName) (hst : container.stackName = other.stackName)
    (cell : container.cellName = other.cellName) (id : container.id = other.id) :
    ownContainerdID container = ownContainerdID other := by
  unfold ownContainerdID
  rw [hs, hst, cell, id]

theorem createdContainer_of_createdSpec {names : CellNames} {placed : Cell}
    {cniConfigPath : String} {container built : ContainerSpec}
    (hc : createdSpec names placed cniConfigPath container = .ok built) :
    CreatedContainer names placed.spec.rootContainerID cniConfigPath container built := by
  refine ⟨builtFrom_owned hc, ?_⟩
  intro hb
  rcases withContainerdID_eq_ok.mp hc with ⟨hg, -⟩ | ⟨-, id, ha, rfl⟩
  · exact absurd hb hg
  · have hn : ownContainerdID (ownedBy names cniConfigPath "" container) =
        ownContainerdID (ownedBy names cniConfigPath placed.status.cgroupPath container) :=
      ownContainerdID_congr rfl rfl rfl rfl
    rw [hn]
    exact ha

/-- The cell that `createCellContainers` makes: its containers with the defaults of the space and
    the root among them, each completed and under a containerd id of its own. -/
theorem createCellContainers_spec
    (hmk : createCellContainers host live cell = .ok (created, made)) :
    ∃ space cniConfigPath rootContainerd root,
      host.getSpace cell.spec.realmName cell.spec.spaceName = .ok space ∧
      resolveSpaceCNIConfigPath host (trimSpace cell.spec.realmName)
        (trimSpace cell.spec.spaceName) = .ok cniConfigPath ∧
      rootContainerdID (cellNames cell).trimScope = .ok rootContainerd ∧
      ensureCellRootContainerSpec host (withSpaceDefaults space cell) = .ok root ∧
      created =
        { cell with
          spec.containers := created.spec.containers
          spec.rootContainerID := orElse cell.spec.rootContainerID root.id } ∧
      List.Forall₂ (CreatedContainer (cellNames cell).trimScope created.spec.rootContainerID
          cniConfigPath)
        (Keyed.upsert ContainerSpec.id { root with containerdID := rootContainerd }
          (withSpaceDefaults space cell).spec.containers) created.spec.containers ∧
      (created.spec.containers.map ContainerSpec.containerdID).Nodup ∧
      ∀ container ∈ created.spec.containers, container.id ≠ "" := by
  simp only [createCellContainers, Outcome.bind_eq_ok, Outcome.refusal_eq_ok, Outcome.pure_eq_ok,
    applyCellContainerDefaults_eq_ok] at hmk
  obtain ⟨-, -, -, defaulted, ⟨space, hf, rfl⟩, path, hr, containerd, hb, root,
    hm, ⟨containers, all⟩, hl, hs⟩ := hmk
  obtain rfl := (Prod.mk.inj hs).1
  obtain ⟨hd, -, hn⟩ := forContainers_create hl
  refine ⟨space, path, containerd, root, hf, hr, hb, hm, rfl, ?_,
    hd, hn⟩
  -- The paths stamped before the loop are among the fields that building fills in.
  have hc := forContainers_completes hl
  simp only [stampCellEtcFilePathsOnContainers, List.forall₂_map_left_iff] at hc
  refine hc.imp ?_
  intro container built hcm
  have created := createdContainer_of_createdSpec hcm
  refine ⟨⟨created.spec, created.cniConfigPath, created.containerdID⟩, ?_⟩
  intro hbl
  rw [← created.assigned hbl]
  exact if_congr Iff.rfl rfl (ownContainerdID_congr rfl rfl rfl rfl)

/-- The root of a cell that names one is its first container of that id, marked as the root. -/
theorem ensureCellRootContainerSpec_named {path : String}
    (hm : ensureCellRootContainerSpec host cell = .ok root)
    (hrs : resolveSpaceCNIConfigPath host (trimSpace cell.spec.realmName)
      (trimSpace cell.spec.spaceName) = .ok path) (hn : cell.spec.rootContainerID ≠ "") :
    ∃ chosen, (cell.spec.containers.find? fun container =>
        container.id = cell.spec.rootContainerID) = some chosen ∧
      unstamped root = { unstamped chosen with root := true } ∧
      root.id = cell.spec.rootContainerID ∧
      root.cniConfigPath = orElse chosen.cniConfigPath path := by
  obtain ⟨path', containerd, chosen, -, hr, -, hc, rfl⟩ :=
    ensureCellRootContainerSpec_eq_ok.mp hm
  obtain rfl : path = path' := Except.ok.inj (hrs.symm.trans hr)
  unfold chosenRoot at hc
  rw [if_pos hn] at hc
  split at hc
  · cases hc
  · next first hf =>
      split at hc
      · cases hc
      · obtain rfl := Except.ok.inj hc
        have hs : first.id = cell.spec.rootContainerID := by
          simpa using List.find?_some hf
        have hk : orElse first.id "root" = first.id := by
          rw [orElse, if_neg (hs ▸ hn)]
        exact ⟨first, hf, by simp [unstamped, asRoot, hk], hk.trans hs, rfl⟩

theorem ensureCellRootContainerSpec_default
    (hm : ensureCellRootContainerSpec host cell = .ok root)
    (hu : cell.spec.rootContainerID = "") :
    root.id = "root" ∧ root.root = true ∧ isSynthesizedRoot root = true := by
  obtain ⟨path, containerd, chosen, -, -, -, hc, rfl⟩ :=
    ensureCellRootContainerSpec_eq_ok.mp hm
  rw [chosenRoot, if_neg (not_not.mpr hu)] at hc
  obtain rfl := Except.ok.inj hc
  refine ⟨rfl, rfl, ?_⟩
  simp [isSynthesizedRoot, asRoot, defaultRootContainerSpec, orElse]

end Created

end Kukeon.Runner
