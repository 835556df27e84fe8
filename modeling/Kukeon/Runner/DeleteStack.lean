import Kukeon.Runner.ScopeFiles
import Kukeon.ModelHub.Space
import Kukeon.Naming.SpaceNetwork

/-! # The deletion of a stack

`DeleteStack` of `internal/controller/runner/delete_stack.go` with all it takes down: the network
state of the containers that carry the name of the stack, its cgroup and its files. The calls on the
host succeed. The scan for cells that were left behind comes after the network and the cgroup, and
its list of the directories that are not cells is another one than `reservedScopeSubdirs`.
-/

namespace Kukeon.Runner.Teardown

open Effect GoText ModelHub Naming

/-- The directories of a scope that hold resources, `scope_children.go`. -/
def reservedScopeSubdirs : List String :=
  [secretsSubdir, blueprintsSubdir, configsSubdir, volumesSubdir, volumeMetaSubdir]

namespace StackDelete

structure StackHost where
  tree : ScopeTree
  cgroups : List String
  /-- The ids of the containers in the namespace of the realm. -/
  containers : List String
  /-- The containers with state in a network, each with the name of the network. -/
  attached : List (String × String)
  deriving DecidableEq

inductive StackError where
  | nameRequired
  | realmNameRequired
  | spaceNameRequired
  | getStack
  /-- `ErrDeleteStack`, with the names that are taken for cells. -/
  | residue (names : List String)
  deriving Repr, DecidableEq

abbrev StackEffect := Effect StackHost StackError

def stackMetadataDir (stack : Stack) : TreePath :=
  [stack.spec.realmName, stack.spec.spaceName, stack.metadata.name]

/-- `ctr.DefaultStackSpec`, the group of it. -/
def defaultStackGroup (stack : Stack) : String :=
  s!"/{stack.spec.realmName}/{stack.spec.spaceName}/{stack.metadata.name}"

def stackCgroup (stack : Stack) : String := orElse stack.status.cgroupPath (defaultStackGroup stack)

/-- What the ids of the containers of the stack are looked up by. -/
def stackPattern (stack : Stack) : String :=
  s!"{stack.spec.realmName}-{stack.spec.spaceName}-{stack.metadata.name}"

def findContainersByPattern (containers : List String) (pattern : String) : List String :=
  containers.filter fun id =>
    (split pattern '-').length ≤ (split id '-').length && hasPrefix id pattern

def getSpaceNetworkName (stack : Stack) : String :=
  match buildSpaceNetworkName stack.spec.realmName stack.spec.spaceName with
  | .ok name => name
  | .error _ => ""

/-- The network states that are purged: those of the containers of the stack in the network of its
    space, when the realm and the space can be read. -/
def purgedAttachments (host : StackHost) (stack : Stack) : List (String × String) :=
  if getScope host.tree ((stackMetadataDir stack).take 1) = .found ∧
      getScope host.tree ((stackMetadataDir stack).take 2) = .found then
    (findContainersByPattern host.containers (stackPattern stack)).map fun id =>
      (getSpaceNetworkName stack, id)
  else []

def purgeCNI (host : StackHost) (stack : Stack) : StackHost :=
  { host with attached := host.attached.filter (· ∉ purgedAttachments host stack) }

def deleteCgroup (host : StackHost) (group : String) : StackHost :=
  { host with cgroups := host.cgroups.filter (· ≠ group) }

/-- `metadata.DeleteMetadata`. -/
def deleteMetadataFile (tree : ScopeTree) (dir : TreePath) : ScopeTree :=
  if (tree.read (dir ++ [metadataFile])).isSome then
    let tree := (tree.remove (dir ++ [metadataFile])).remove (dir ++ [metadataLock])
    if tree.readDir dir = [] then tree.remove dir else tree
  else tree

def takeDown (stack : Stack) : StackEffect Unit := do
  modify fun host => purgeCNI host stack
  modify fun host => deleteCgroup host (stackCgroup stack)
  let residue := scanStackDirCellResidue (← get).tree (stackMetadataDir stack)
  if residue ≠ [] then throw (.residue residue)
  modify fun host => { host with tree := deleteMetadataFile host.tree (stackMetadataDir stack) }
  modify fun host => { host with tree := host.tree.removeAll (stackMetadataDir stack) }

/-- The stack is as its document says, with the names it is asked for by. -/
def deleteStack (stack : Stack) : StackEffect Unit := do
  if trimSpace stack.metadata.name = "" then throw .nameRequired
  if trimSpace stack.spec.realmName = "" then throw .realmNameRequired
  if trimSpace stack.spec.spaceName = "" then throw .spaceNameRequired
  match getScope (← get).tree (stackMetadataDir stack) with
  | .missing => pure ()
  | .unreadable => throw .getStack
  | .found => takeDown stack

structure Named (stack : Stack) : Prop where
  name : trimSpace stack.metadata.name ≠ ""
  realm : trimSpace stack.spec.realmName ≠ ""
  space : trimSpace stack.spec.spaceName ≠ ""

instance (stack : Stack) : Decidable (Named stack) :=
  decidable_of_iff
    (trimSpace stack.metadata.name ≠ "" ∧ trimSpace stack.spec.realmName ≠ "" ∧
      trimSpace stack.spec.spaceName ≠ "")
    ⟨fun ⟨name, realm, space⟩ => ⟨name, realm, space⟩,
      fun named => ⟨named.name, named.realm, named.space⟩⟩

def cleared (host : StackHost) (stack : Stack) : StackHost :=
  deleteCgroup (purgeCNI host stack) (stackCgroup stack)

section Deletion

variable {host : StackHost} {stack : Stack}

theorem takeDown_run :
    takeDown stack host =
      if scanStackDirCellResidue host.tree (stackMetadataDir stack) = [] then
        (.ok (), { cleared host stack with
          tree := (deleteMetadataFile host.tree (stackMetadataDir stack)).removeAll
            (stackMetadataDir stack) })
      else
        (.error (.residue (scanStackDirCellResidue host.tree (stackMetadataDir stack))),
          cleared host stack) := by
  have run : takeDown stack host =
      (do
        if scanStackDirCellResidue host.tree (stackMetadataDir stack) ≠ [] then
          throw (.residue (scanStackDirCellResidue host.tree (stackMetadataDir stack)))
        modify fun host => { host with tree := deleteMetadataFile host.tree (stackMetadataDir stack) }
        modify fun host => { host with tree := host.tree.removeAll (stackMetadataDir stack) } :
          StackEffect Unit) (cleared host stack) := rfl
  rw [run]
  by_cases hn : scanStackDirCellResidue host.tree (stackMetadataDir stack) = []
  · rw [if_pos hn, if_neg (not_not.mpr hn)]
    rfl
  · rw [if_neg hn, if_pos hn]
    rfl

theorem deleteStack_run (hn : Named stack) :
    deleteStack stack host =
      match getScope host.tree (stackMetadataDir stack) with
      | .missing => (.ok (), host)
      | .unreadable => (.error .getStack, host)
      | .found => takeDown stack host := by
  have run : deleteStack stack host =
      (match getScope host.tree (stackMetadataDir stack) with
      | .missing => pure ()
      | .unreadable => throw .getStack
      | .found => takeDown stack : StackEffect Unit) host := by
    unfold deleteStack
    rw [if_neg hn.name, if_neg hn.realm, if_neg hn.space]
    rfl
  rw [run]
  cases getScope host.tree (stackMetadataDir stack) with
  | missing => rfl
  | unreadable => rfl
  | found => rfl

/-- A stack without cells: its directory holds its own files and directories of resources. -/
structure Empty (host : StackHost) (stack : Stack) : Prop where
  there : getScope host.tree (stackMetadataDir stack) = .found
  resources : ∀ name ∈ host.tree.readDir (stackMetadataDir stack),
    name ∈ [metadataFile, metadataLock] ++ reservedScopeSubdirs

/-- A stack with something in its directory that is neither its own nor of a resource. -/
structure HasResidue (host : StackHost) (stack : Stack) : Prop where
  there : getScope host.tree (stackMetadataDir stack) = .found
  left : ∃ name ∈ host.tree.readDir (stackMetadataDir stack),
    name ∉ [metadataFile, metadataLock] ++ reservedScopeSubdirs

/-- The deletion of a stack without cells succeeds, and one that is refused because of cells that
    were left behind has changed nothing. -/
structure DeletesOrRefuses (host : StackHost) (stack : Stack) : Prop where
  deletes : Empty host stack → ending (deleteStack stack) host = .ok ()
  refuses : ∀ names, ending (deleteStack stack) host = .error (.residue names) →
    finalState (deleteStack stack) host = host

/-- No volume of the stack is there, and of a stack with cells left behind neither a cgroup nor the
    network state of a container. -/
structure Deletable (host : StackHost) (stack : Stack) : Prop where
  noVolumes : Empty host stack → volumesSubdir ∉ host.tree.readDir (stackMetadataDir stack) ∧
    volumeMetaSubdir ∉ host.tree.readDir (stackMetadataDir stack)
  nothingToLose : HasResidue host stack → stackCgroup stack ∉ host.cgroups ∧
    ∀ state ∈ purgedAttachments host stack, state ∉ host.attached

theorem mem_residue {tree : ScopeTree} {dir : TreePath} {name : String} :
    name ∈ scanStackDirCellResidue tree dir ↔ name ∈ tree.readDir dir ∧
      name ∉ [metadataFile, metadataLock, secretsSubdir, blueprintsSubdir, configsSubdir] := by
  simp [scanStackDirCellResidue]

/-- The scan of a stack without cells takes the directories of volumes for cells. -/
theorem residue_empty_iff (he : Empty host stack) :
    scanStackDirCellResidue host.tree (stackMetadataDir stack) = [] ↔
      volumesSubdir ∉ host.tree.readDir (stackMetadataDir stack) ∧
        volumeMetaSubdir ∉ host.tree.readDir (stackMetadataDir stack) := by
  rw [List.eq_nil_iff_forall_not_mem]
  simp only [mem_residue, not_and, not_not]
  constructor
  · intro hk
    constructor
    · intro hvl
      exact absurd (hk _ hvl) (by decide)
    · intro hv
      exact absurd (hk _ hv) (by decide)
  · rintro ⟨hn, hnm⟩ name ht
    have hr := he.resources name ht
    simp only [reservedScopeSubdirs, List.cons_append, List.nil_append, List.mem_cons,
      List.not_mem_nil, or_false] at hr ⊢
    rcases hr with own | hl | hs | hb | hc | rfl | rfl
    · exact .inl own
    · exact .inr (.inl hl)
    · exact .inr (.inr (.inl hs))
    · exact .inr (.inr (.inr (.inl hb)))
    · exact .inr (.inr (.inr (.inr hc)))
    · exact absurd ht hn
    · exact absurd ht hnm

theorem residue_ne_nil (hl : HasResidue host stack) :
    scanStackDirCellResidue host.tree (stackMetadataDir stack) ≠ [] := by
  obtain ⟨name, ht, hu⟩ := hl.left
  refine List.ne_nil_of_mem (mem_residue.mpr ⟨ht, ?_⟩)
  intro hk
  refine hu ?_
  simp only [reservedScopeSubdirs, List.cons_append, List.nil_append, List.mem_cons,
    List.not_mem_nil, or_false] at hk ⊢
  tauto

theorem cleared_eq_iff :
    cleared host stack = host ↔ stackCgroup stack ∉ host.cgroups ∧
      ∀ state ∈ purgedAttachments host stack, state ∉ host.attached := by
  have hf : cleared host stack = host ↔
      host.cgroups.filter (· ≠ stackCgroup stack) = host.cgroups ∧
        host.attached.filter (· ∉ purgedAttachments host stack) = host.attached := by
    cases host
    simp [cleared, deleteCgroup, purgeCNI]
  rw [hf, List.filter_eq_self, List.filter_eq_self]
  simp only [decide_eq_true_eq]
  constructor
  · rintro ⟨ho, hk⟩
    exact ⟨fun ht => ho _ ht rfl, fun state hp ht => hk state ht hp⟩
  · rintro ⟨hg, hu⟩
    refine ⟨?_, fun state ht hp => hu state hp ht⟩
    rintro group ht rfl
    exact hg ht

theorem hasResidue_of_not_empty (ht : getScope host.tree (stackMetadataDir stack) = .found)
    (hn : ¬ Empty host stack) : HasResidue host stack := by
  refine ⟨ht, ?_⟩
  by_contra hnn
  push Not at hnn
  exact hn ⟨ht, hnn⟩

theorem not_empty_of_hasResidue (hl : HasResidue host stack) : ¬ Empty host stack := by
  rintro ⟨_, hr⟩
  obtain ⟨name, ht, hu⟩ := hl.left
  exact hu (hr name ht)

theorem deletesOrRefuses_of_not_found (hn : Named stack)
    (ha : getScope host.tree (stackMetadataDir stack) ≠ .found) : DeletesOrRefuses host stack := by
  refine ⟨fun he => absurd he.there ha, ?_⟩
  intro names
  unfold ending finalState
  rw [deleteStack_run hn]
  cases hl : getScope host.tree (stackMetadataDir stack) with
  | missing => exact fun _ => rfl
  | unreadable => exact fun _ => rfl
  | found => exact absurd hl ha

theorem deletesOrRefuses_of_empty (hn : Named stack) (hem : Empty host stack) :
    DeletesOrRefuses host stack ↔
      volumesSubdir ∉ host.tree.readDir (stackMetadataDir stack) ∧
        volumeMetaSubdir ∉ host.tree.readDir (stackMetadataDir stack) := by
  have run : deleteStack stack host = takeDown stack host := by
    rw [deleteStack_run hn, hem.there]
  rw [← residue_empty_iff hem]
  constructor
  · intro hk
    have he := hk.deletes hem
    unfold ending at he
    rw [run, takeDown_run] at he
    by_contra hs
    rw [if_neg hs] at he
    cases he
  · intro hnn
    have he : ending (deleteStack stack) host = .ok () := by
      unfold ending
      rw [run, takeDown_run, if_pos hnn]
    refine ⟨fun _ => he, ?_⟩
    intro names hr
    rw [he] at hr
    cases hr

theorem deletesOrRefuses_of_hasResidue (hn : Named stack) (hl : HasResidue host stack) :
    DeletesOrRefuses host stack ↔ stackCgroup stack ∉ host.cgroups ∧
      ∀ state ∈ purgedAttachments host stack, state ∉ host.attached := by
  have run : deleteStack stack host =
      (.error (.residue (scanStackDirCellResidue host.tree (stackMetadataDir stack))),
        cleared host stack) := by
    rw [deleteStack_run hn, hl.there, takeDown_run, if_neg (residue_ne_nil hl)]
  rw [← cleared_eq_iff]
  constructor
  · intro hk
    have hu := hk.refuses _ (congrArg Prod.fst run)
    unfold finalState at hu
    rw [run] at hu
    exact hu
  · intro hs
    refine ⟨fun he => absurd he (not_empty_of_hasResidue hl), ?_⟩
    intro names _
    unfold finalState
    rw [run]
    exact hs

/-- A deletion keeps to this exactly when no volume is in its way and, where cells were left behind,
    there is nothing to lose. -/
theorem deletesOrRefuses_iff (named : Named stack) :
    DeletesOrRefuses host stack ↔ Deletable host stack := by
  by_cases ht : getScope host.tree (stackMetadataDir stack) = .found
  · by_cases he : Empty host stack
    · rw [deletesOrRefuses_of_empty named he]
      constructor
      · intro hnn
        exact ⟨fun _ => hnn, fun hl => absurd he (not_empty_of_hasResidue hl)⟩
      · intro hd
        exact hd.noVolumes he
    · have hl := hasResidue_of_not_empty ht he
      rw [deletesOrRefuses_of_hasResidue named hl]
      constructor
      · intro hn
        exact ⟨fun hi => absurd hi he, fun _ => hn⟩
      · intro hd
        exact hd.nothingToLose hl
  · constructor
    · intro _
      exact ⟨fun he => absurd he.there ht, fun hl => absurd hl.there ht⟩
    · intro _
      exact deletesOrRefuses_of_not_found named ht

end Deletion

def emptiedStack : Stack :=
  { metadata := { name := "web" }, spec := { realmName := "r", spaceName := "s" } }

def emptiedHost : StackHost :=
  { tree := [(["r", "s", "web", "metadata.json"], .document), (["r", "s", "web", "secrets"], .dir),
      (["r", "s", "web", "volumes"], .dir), (["r", "s", "web", "volumes", "cache"], .dir)]
    cgroups := ["/r/s", "/r/s/web"]
    containers := []
    attached := [] }

def secretsHost : StackHost :=
  { emptiedHost with tree := emptiedHost.tree.removeAll ["r", "s", "web", "volumes"] }

theorem secrets_deletable :
    DeletesOrRefuses secretsHost emptiedStack ∧
      ending (deleteStack emptiedStack) secretsHost = .ok () := by
  have hn : Named emptiedStack := by decide
  refine ⟨(deletesOrRefuses_iff hn).mpr ⟨?_, ?_⟩, ?_⟩
  · intro _
    decide
  · rintro ⟨_, hl⟩
    exact absurd hl (by decide)
  · decide

def leftoverHost : StackHost :=
  { emptiedHost with
    tree := [(["r", "s", "web", "metadata.json"], .document), (["r", "s", "web", "db"], .dir)] }

/-- The directory of its volumes stands in the way of the deletion of a stack, and a refusal because
    of a cell leaves the stack without its cgroup. -/
theorem volumes_block_deletion :
    (Empty emptiedHost emptiedStack ∧
      ending (deleteStack emptiedStack) emptiedHost = .error (.residue ["volumes"])) ∧
    ending (deleteStack emptiedStack) leftoverHost = .error (.residue ["db"]) ∧
      "/r/s/web" ∈ leftoverHost.cgroups ∧
      "/r/s/web" ∉ (finalState (deleteStack emptiedStack) leftoverHost).cgroups := by
  refine ⟨⟨⟨by decide, by decide⟩, by decide⟩, by decide, by decide, by decide⟩

end StackDelete

end Kukeon.Runner.Teardown
