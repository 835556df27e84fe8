import Kukeon.Lib.Runs
import Kukeon.Runner.VolumeMounts

/-! # Deleting a volume that is mounted

`DeleteVolume` of `internal/controller/volume.go`, over histories in which volumes come and go and
containers are built, started and stopped. What a container binds is fixed when it is built, while the
delete asks what the mounts on record stand for now.
-/

namespace Kukeon.Controller.VolumeGate

open ModelHub GoText Effect Runner Runner.Teardown Runner.Volumes Runs Std.Do

set_option mvcgen.warning false

inductive DeleteError where
  | nameRequired
  | realmRequired
  | scopeIncomplete
  | coordUnsafe (field : String)
  | inUse (cell : String)
  | notFound (name : String)
  deriving DecidableEq

def validateVolumeSegment (field value : String) : Except DeleteError Unit :=
  if value = "" ∨ segmentSafe value then .ok () else .error (.coordUnsafe field)

def validateVolumeLookup (md : VolumeMetadata) : Except DeleteError Unit := do
  if trimSpace md.name = "" then throw .nameRequired
  if trimSpace md.realm = "" then throw .realmRequired
  if trimSpace md.stack ≠ "" ∧ trimSpace md.space = "" then throw .scopeIncomplete
  validateVolumeSegment "metadata.name" (trimSpace md.name)
  validateVolumeSegment "metadata.realm" (trimSpace md.realm)
  validateVolumeSegment "metadata.space" (trimSpace md.space)
  validateVolumeSegment "metadata.stack" (trimSpace md.stack)

def deleteUnmounted (cells : List Cell) (md : VolumeMetadata) (tree : ScopeTree) :
    Except DeleteError ScopeTree :=
  match volumeMountedByLiveCell tree cells md with
  | some cell => .error (.inUse cell)
  | none =>
    match ending (Volumes.deleteVolume md) tree with
    | .ok () => .ok (finalState (Volumes.deleteVolume md) tree)
    | .error _ => .error (.notFound md.name)

/-- Gives the tree that the delete leaves. A refusal leaves it as it was. -/
def deleteVolume (cells : List Cell) (md : VolumeMetadata) (tree : ScopeTree) :
    Except DeleteError ScopeTree := do
  validateVolumeLookup md
  deleteUnmounted cells md tree

structure CellKey where
  scope : VolumeScope := {}
  name : String := ""
  deriving DecidableEq

def cellKey (cell : Cell) : CellKey :=
  { scope := cellVolumeScope cell, name := cell.metadata.name }

/-- A container of containerd, and whether it has a running task. -/
structure Built where
  cell : CellKey
  id : String
  binds : List Bind
  running : Bool := false
  deriving DecidableEq

def Built.directories (built : Built) : List TreePath := built.binds.filterMap Bind.directory

def Built.isOf (built : Built) (key : CellKey) (id : String) : Prop :=
  built.cell = key ∧ built.id = id

instance (built : Built) (key : CellKey) (id : String) : Decidable (built.isOf key id) :=
  inferInstanceAs (Decidable (_ ∧ _))

structure Host where
  tree : ScopeTree := []
  /-- The documents of the cells. -/
  cells : List Cell := []
  containers : List Built := []
  deriving DecidableEq

inductive Event where
  | createVolume (faults : VolumeFaults) (volume : Volume)
  | deleteVolume (md : VolumeMetadata)
  /-- A document is written: a cell is created, edited, or its state is recorded. -/
  | write (cell : Cell)
  | forget (key : CellKey)
  /-- The container is built from the spec on record. -/
  | build (key : CellKey) (id : String)
  /-- The task of the container starts, and the state of the cell is recorded. -/
  | start (key : CellKey) (id : String) (state : CellState)
  | stop (key : CellKey) (id : String)

/-- The scope a container looks in: its own coordinates, and those of its cell where it has none. -/
def containerScope (cell : Cell) (container : ContainerSpec) : VolumeScope :=
  { realm := if container.realmName = "" then cell.spec.realmName else container.realmName
    space := if container.spaceName = "" then cell.spec.spaceName else container.spaceName
    stack := if container.stackName = "" then cell.spec.stackName else container.stackName }

def bindsOf (host : Host) (key : CellKey) (id : String) : Option (List Bind) := do
  let cell ← host.cells.find? fun cell => cellKey cell = key
  let container ← cell.spec.containers.find? fun container => container.id = id
  (resolveVolumeMounts host.tree (containerScope cell container) container.volumes).toOption

def inState (state : CellState) (cell : Cell) : Cell :=
  { cell with status := { cell.status with state := state } }

def step (host : Host) : Event → Host
  | .createVolume faults volume =>
    { host with tree := finalState (reconcileVolume faults volume) host.tree }
  | .deleteVolume md =>
    match deleteVolume host.cells md host.tree with
    | .ok tree => { host with tree := tree }
    | .error _ => host
  | .write cell =>
    { host with cells := cell :: host.cells.filter fun other => cellKey other ≠ cellKey cell }
  | .forget key => { host with cells := host.cells.filter fun other => cellKey other ≠ key }
  | .build key id =>
    match bindsOf host key id with
    | some binds =>
      { host with
        containers := { cell := key, id := id, binds := binds } ::
          host.containers.filter fun built => ¬ built.isOf key id }
    | none => host
  | .start key id state =>
    { host with
      cells := host.cells.map fun cell => if cellKey cell = key then inState state cell else cell
      containers := host.containers.map fun built =>
        if built.isOf key id then { built with running := true } else built }
  | .stop key id =>
    { host with
      containers := host.containers.map fun built =>
        if built.isOf key id then { built with running := false } else built }

def Host.Runs (host : Host) (key : CellKey) : Prop :=
  ∃ built ∈ host.containers, built.cell = key ∧ built.running = true

instance (host : Host) (key : CellKey) : Decidable (host.Runs key) :=
  inferInstanceAs (Decidable (∃ built ∈ host.containers, _))

def Host.Mounted (host : Host) (md : VolumeMetadata) : Prop :=
  ∃ built ∈ host.containers, built.running = true ∧ md.key.directory ∈ built.directories

instance (host : Host) (md : VolumeMetadata) : Decidable (host.Mounted md) :=
  inferInstanceAs (Decidable (∃ built ∈ host.containers, _))

def madeBy (volume : Volume) : List TreePath :=
  [ volume.metadata.key.scope ++ [volumesSubdir], volume.metadata.key.directory,
    volume.metadata.key.scope ++ [volumeMetaSubdir] ]

/-- Creating the volume makes one that a mount of the cell, given by a bare name, would find before
    the directory. -/
def Shadows (volume : Volume) (cell : Cell) (directory : TreePath) : Prop :=
  ∃ mount ∈ volumeMounts cell, mount.volumeRef = none ∧
    ∃ earlier ∈ askedBefore (cellVolumeScope cell) mount.source directory,
      earlier.key.directory ∈ madeBy volume

instance (volume : Volume) (cell : Cell) (directory : TreePath) :
    Decidable (Shadows volume cell directory) :=
  inferInstanceAs (Decidable (∃ mount ∈ volumeMounts cell, _ ∧ ∃ earlier ∈ askedBefore _ _ _, _))

/-- The container is one of the cell, and binds what its spec on record resolves to now. It looks
    where its cell does, and its references have no gaps. -/
def Current (host : Host) (cell : Cell) (built : Built) : Prop :=
  cellKey cell = built.cell ∧ ∃ container ∈ cell.spec.containers,
    containerScope cell container = cellVolumeScope cell ∧
      (∀ mount ∈ container.volumes, ContiguousRef mount) ∧
      resolveVolumeMounts host.tree (cellVolumeScope cell) container.volumes = .ok built.binds

instance (host : Host) (cell : Cell) (built : Built) : Decidable (Current host cell built) :=
  inferInstanceAs (Decidable (_ ∧ ∃ container ∈ cell.spec.containers, _))

/-- What an event must respect for the containers that run:
    a volume is not created where a bare name would find it before the one that is mounted;
    a document keeps the mounts, and the state it records is `Ready` or `Degraded`;
    a container is started with what its mounts resolve to now. -/
def Guarded (host : Host) : Event → Prop
  | .createVolume _ volume =>
    ∀ built ∈ host.containers, built.running = true →
      ∀ cell ∈ host.cells, cellKey cell = built.cell →
        ∀ directory ∈ built.directories, ¬ Shadows volume cell directory
  | .write cell =>
    host.Runs (cellKey cell) → IsLive cell.status.state ∧
      ∀ old ∈ host.cells, cellKey old = cellKey cell →
        ∀ mount ∈ volumeMounts old, mount ∈ volumeMounts cell
  | .forget key => ¬ host.Runs key
  | .start key id state =>
    IsLive state ∧ ∀ built ∈ host.containers, built.isOf key id →
      ∃ cell ∈ host.cells, Current host cell built
  | .deleteVolume _ | .build _ _ | .stop _ _ => True

instance (host : Host) : (event : Event) → Decidable (Guarded host event)
  | .createVolume _ _ => inferInstanceAs (Decidable (∀ built ∈ host.containers, _ → _))
  | .write _ => inferInstanceAs (Decidable (_ → _ ∧ ∀ old ∈ host.cells, _))
  | .forget _ => inferInstanceAs (Decidable (¬ _))
  | .start _ _ _ => inferInstanceAs (Decidable (_ ∧ ∀ built ∈ host.containers, _))
  | .deleteVolume _ | .build _ _ | .stop _ _ => isTrue trivial

/-- A document on record as live has a mount for every directory the container binds. -/
def Sheltered (tree : ScopeTree) (cells : List Cell) (built : Built) : Prop :=
  ∃ cell ∈ cells, cellKey cell = built.cell ∧ IsLive cell.status.state ∧
    ∀ directory ∈ built.directories, ∃ mount ∈ volumeMounts cell, ∃ md : VolumeMetadata,
      Names tree (cellVolumeScope cell) mount md ∧ md.Contiguous ∧ md.key.directory = directory

def AllSheltered (host : Host) : Prop :=
  ∀ built ∈ host.containers, built.running = true → Sheltered host.tree host.cells built

variable {host : Host} {key : CellKey} {built : Built} {cells : List Cell} {md : VolumeMetadata}
  {tree : ScopeTree}

theorem Sheltered.of_dirs {tree later : ScopeTree} (hs : Sheltered tree cells built)
    (hdr : ∀ cell ∈ cells, cellKey cell = built.cell → ∀ directory ∈ built.directories,
      ∀ mount ∈ volumeMounts cell, mount.volumeRef = none →
      ∀ volume ∈ askedBefore (cellVolumeScope cell) mount.source directory,
        volumeDirExists later volume = true → volumeDirExists tree volume = true) :
    Sheltered later cells built := by
  obtain ⟨cell, hl, hi, hlv, hm⟩ := hs
  refine ⟨cell, hl, hi, hlv, ?_⟩
  intro directory hb
  obtain ⟨mount, hd, md, hn, hc, hsm⟩ := hm directory hb
  refine ⟨mount, hd, md, hn.of_dirs ?_, hc, hsm⟩
  intro volume hbr ha
  rw [hsm] at ha
  exact hdr cell hl hi directory hb mount hd hbr volume ha

theorem reconcileVolume_dirs (faults : VolumeFaults) (volume : Volume) (before : ScopeTree) :
    Keeps (fun tree => ∀ path, tree.read path = some .dir →
        before.read path = some .dir ∨ path ∈ madeBy volume)
      (reconcileVolume faults volume) := by
  have hd : ∀ path ∈ madeBy volume,
      Keeps (fun tree : ScopeTree => ∀ path, tree.read path = some .dir →
        before.read path = some .dir ∨ path ∈ madeBy volume) (makeDirectory faults path) := by
    intro path hmd
    refine triple_of_runs ?_
    intro tree hh
    obtain ⟨hs, hf⟩ := of_triple (makeDirectory_spec faults path tree) rfl
    refine ⟨fun done he => ?_, fun err he => ?_⟩
    · rw [(hs done he).1]
      grind [withDirectory, FileTree.read_put]
    · rcases hf err he with hsm | hsm
      · rw [hsm]
        exact hh
      · rw [hsm]
        grind [withDirectory, FileTree.read_put]
  have hp := hd (volume.metadata.key.scope ++ [volumesSubdir]) (by simp [madeBy])
  have own := hd volume.metadata.key.directory (by simp [madeBy])
  have hm := hd (volume.metadata.key.scope ++ [volumeMetaSubdir]) (by simp [madeBy])
  mvcgen [reconcileVolume, writeVolume, persistVolumeReclaimPolicy, failing, ofResult, hp, own,
    hm]
  all_goals grind [FileTree.read_put, FileTree.read_remove]

theorem read_of_deleteVolume {tree later : ScopeTree} {path : TreePath}
    (hd : deleteVolume cells md tree = .ok later) (ht : later.read path = some .dir) :
    tree.read path = some .dir := by
  obtain ⟨_, -, hu⟩ := Outcome.bind_eq_ok.mp hd
  unfold deleteUnmounted at hu
  split at hu
  · cases hu
  · split at hu
    · cases hu
      have hk : Keeps (fun now : ScopeTree => ∀ path, now.read path = some .dir →
          tree.read path = some .dir) (Volumes.deleteVolume md) := by
        mvcgen [Volumes.deleteVolume]
        grind [FileTree.read_removeAll, FileTree.read_remove]
      exact holds_finalState hk (s := tree) (fun _ dir => dir) path ht
    · cases hu

/-- A container that is up to date has a mount on record for each of its directories. -/
theorem Current.mounts {cell : Cell} (hc : Current host cell built) :
    ∀ directory ∈ built.directories, ∃ mount ∈ volumeMounts cell, ∃ md : VolumeMetadata,
      Names host.tree (cellVolumeScope cell) mount md ∧ md.Contiguous ∧
        md.key.directory = directory := by
  obtain ⟨-, container, hi, -, hrf, hr⟩ := hc
  intro directory hb
  obtain ⟨mount, hd, md, hn, hs⟩ := names_of_bound hr hb
  refine ⟨mount, ?_, md, hn, hn.contiguous (hrf mount hd), hs⟩
  unfold volumeMounts
  exact List.mem_flatMap.mpr
    ⟨container, hi, List.mem_filter.mpr ⟨hd, decide_eq_true hn.1⟩⟩

theorem Sheltered.inState {state : CellState} (hlv : IsLive state)
    (hs : Sheltered tree cells built) :
    Sheltered tree (cells.map fun cell => if cellKey cell = key then inState state cell else cell)
      built := by
  obtain ⟨cell, hl, hi, hw, hm⟩ := hs
  by_cases hsm : cellKey cell = key
  · exact ⟨VolumeGate.inState state cell,
      List.mem_map.mpr ⟨cell, hl, by rw [if_pos hsm]⟩, hi, hlv, hm⟩
  · exact ⟨cell, List.mem_map.mpr ⟨cell, hl, by rw [if_neg hsm]⟩, hi, hw, hm⟩

section Steps

variable {event : Event} (hs : AllSheltered host)

include hs

theorem sheltered_createVolume {faults : VolumeFaults} {volume : Volume}
    (hg : Guarded host (.createVolume faults volume)) :
    AllSheltered (step host (.createVolume faults volume)) := by
  intro built ht hr
  refine (hs built ht hr).of_dirs ?_
  intro cell hl hi directory hb mount hd hbr earlier ha hf
  have hdr := holds_finalState (reconcileVolume_dirs faults volume host.tree)
    (s := host.tree) fun path dir => .inl dir
  unfold volumeDirExists at hf ⊢
  rcases hdr earlier.key.directory (eq_of_beq hf) with hk | hm
  · simpa using hk
  · exact absurd ⟨mount, hd, hbr, earlier, ha, hm⟩
      (hg built ht hr cell hl hi directory hb)

theorem sheltered_deleteVolume :
    AllSheltered (step host (.deleteVolume md)) := by
  simp only [step]
  split
  next later hd =>
      intro built ht hr
      refine (hs built ht hr).of_dirs ?_
      intro cell _ _ directory _ mount _ _ volume _ hf
      unfold volumeDirExists at hf ⊢
      have dir := read_of_deleteVolume hd (by simpa using hf)
      simpa using dir
  next => exact hs

theorem sheltered_write {cell : Cell}
    (hg : Guarded host (.write cell)) : AllSheltered (step host (.write cell)) := by
  intro built ht hr
  obtain ⟨old, hl, hi, hlv, hm⟩ := hs built ht hr
  by_cases hsm : cellKey old = cellKey cell
  · obtain ⟨hsl, hk⟩ := hg ⟨built, ht, by rw [← hi, hsm], hr⟩
    refine ⟨cell, List.mem_cons_self, by rw [← hsm, hi], hsl, ?_⟩
    intro directory hb
    obtain ⟨mount, hd, md, hn⟩ := hm directory hb
    have hsc : cellVolumeScope cell = cellVolumeScope old := congrArg CellKey.scope hsm.symm
    exact ⟨mount, hk old hl hsm mount hd, md, hsc ▸ hn⟩
  · refine ⟨old, List.mem_cons_of_mem _ ?_, hi, hlv, hm⟩
    exact List.mem_filter.mpr ⟨hl, by simpa using hsm⟩

theorem sheltered_forget (hg : Guarded host (.forget key)) :
    AllSheltered (step host (.forget key)) := by
  intro built ht hr
  obtain ⟨cell, hl, hi, hlv, hm⟩ := hs built ht hr
  refine ⟨cell, List.mem_filter.mpr ⟨hl, ?_⟩, hi, hlv, hm⟩
  have ho : cellKey cell ≠ key := by
    intro hsm
    exact hg ⟨built, ht, by rw [← hi, hsm], hr⟩
  simpa using ho

theorem sheltered_build {id : String} :
    AllSheltered (step host (.build key id)) := by
  simp only [step]
  split
  next =>
      intro built ht hr
      rcases List.mem_cons.mp ht with rfl | ho
      · cases hr
      · exact hs built (List.mem_filter.mp ho).1 hr
  next => exact hs

theorem sheltered_stop {id : String} :
    AllSheltered (step host (.stop key id)) := by
  intro built ht hr
  obtain ⟨before, hl, rfl⟩ := List.mem_map.mp ht
  split at hr
  · cases hr
  next ho =>
      rw [if_neg ho]
      exact hs before hl hr

theorem sheltered_start {id : String} {state : CellState}
    (hg : Guarded host (.start key id state)) :
    AllSheltered (step host (.start key id state)) := by
  obtain ⟨hlv, hc⟩ := hg
  intro built ht hr
  obtain ⟨before, hl, rfl⟩ := List.mem_map.mp ht
  by_cases hio : before.isOf key id
  · obtain ⟨cell, hi, hu⟩ := hc before hl hio
    rw [if_pos hio]
    have hsm : cellKey cell = key := hu.1.trans hio.1
    exact ⟨inState state cell, List.mem_map.mpr ⟨cell, hi, by rw [if_pos hsm]⟩, hu.1,
      hlv, hu.mounts⟩
  · rw [if_neg hio] at hr ⊢
    exact (hs before hl hr).inState hlv

theorem sheltered_step (hg : Guarded host event) : AllSheltered (step host event) := by
  cases event with
  | createVolume faults volume => exact sheltered_createVolume hs hg
  | deleteVolume md => exact sheltered_deleteVolume hs
  | write cell => exact sheltered_write hs hg
  | forget key => exact sheltered_forget hs hg
  | build key id => exact sheltered_build hs
  | start key id state => exact sheltered_start hs hg
  | stop key id => exact sheltered_stop hs

end Steps

theorem there_of_deleted (hd : ending (Volumes.deleteVolume md) tree = .ok ()) :
    volumeDirExists tree md = true := by
  have ht : ⦃fun now : ScopeTree => ⌜now = tree⌝⦄ Volumes.deleteVolume md
      ⦃post⟨fun _ _ => ⌜volumeDirExists tree md = true⌝, fun _ _ => ⌜True⌝⟩⦄ := by
    mvcgen [Volumes.deleteVolume]
    grind
  exact (of_triple ht rfl).1 () hd

/-- The delete refuses a volume that a sheltered container binds, in use or not there. -/
theorem refused_of_sheltered (hs : Sheltered tree cells built) (hc : md.Contiguous)
    (hb : md.key.directory ∈ built.directories) :
    ∃ error, deleteVolume cells md tree = .error error := by
  cases hdl : deleteVolume cells md tree with
  | error error => exact ⟨error, rfl⟩
  | ok later =>
    exfalso
    obtain ⟨cell, hl, -, hlv, hmn⟩ := hs
    obtain ⟨mount, hd, named, hn, hg, hsm⟩ := hmn _ hb
    have hi : named = md := eq_of_directory hg hc hsm
    subst hi
    obtain ⟨_, -, hu⟩ := Outcome.bind_eq_ok.mp hdl
    unfold deleteUnmounted at hu
    by_cases hf : volumeDirExists tree named = true
    · obtain ⟨ref, hm⟩ :=
        Option.isSome_iff_exists.mp (mounted_of_names hl hlv hd hn hf)
      rw [hm] at hu
      cases hu
    · split at hu
      · cases hu
      · split at hu
        next hgn => exact hf (there_of_deleted hgn)
        next => cases hu

/-- From any volumes and cells, and along any history that is guarded: deleting a volume is refused
    as long as a running container has the directory of the volume mounted. -/
theorem mounted_volume_refused {start : Host} {history : List Event}
    (idle : ∀ built ∈ start.containers, built.running = false)
    (guarded : Along step Guarded start history) {md : VolumeMetadata} (contiguous : md.Contiguous)
    (mounted : (run step start history).Mounted md) :
    ∃ error, deleteVolume (run step start history).cells md (run step start history).tree =
      .error error := by
  have hi : AllSheltered start := by
    intro built ht hr
    rw [idle built ht] at hr
    cases hr
  have hs := guarded.invariant (fun _ _ => sheltered_step) hi history []
    (List.append_nil history).symm
  obtain ⟨built, ht, hr, hb⟩ := mounted
  exact refused_of_sheltered (hs built ht hr) contiguous hb

def dataTree : ScopeTree :=
  [ (["r", "metadata.json"], .document), (["r", "s", "metadata.json"], .document),
    (["r", "s", "t", "metadata.json"], .document), (["r", "volumes"], .dir),
    (["r", "volumes", "data"], .dir) ]

def dataCell : Cell where
  metadata := { name := "web" }
  spec :=
    { realmName := "r", spaceName := "s", stackName := "t"
      containers := [{ id := "app", volumes := [{ kind := .volume, source := "data" }] }] }

def dataHost : Host := { tree := dataTree, cells := [dataCell] }

def dataVolume : VolumeMetadata := { name := "data", realm := "r" }

def dataStart : List Event :=
  [ .build (cellKey dataCell) "app", .start (cellKey dataCell) "app" .ready ]

/-- A volume of the space with another name leaves the one of the realm refused. -/
theorem dataVolume_refused :
    let logs : Volume := { metadata := { name := "logs", realm := "r", space := "s" } }
    let host := run step dataHost (dataStart ++ [.createVolume {} logs])
    ∃ error, deleteVolume host.cells dataVolume host.tree = .error error :=
  mounted_volume_refused (by decide +kernel) (by decide +kernel) (by decide +kernel)
    (by decide +kernel)

/-- The volume is deleted while a running container has it mounted, once there is a volume of that
    name in the stack of the cell, and also once the cell is on record as failed. -/
theorem mounted_volume_deleted :
    let shadowed := run step dataHost (dataStart ++
      [.createVolume {} { metadata := { dataVolume with space := "s", stack := "t" } }])
    let failed := run step dataHost (dataStart ++ [.write (inState .failed dataCell)])
    (shadowed.Mounted dataVolume ∧
        (deleteVolume shadowed.cells dataVolume shadowed.tree).isOk = true) ∧
      failed.Mounted dataVolume ∧
        (deleteVolume failed.cells dataVolume failed.tree).isOk = true := by
  decide +kernel

end Kukeon.Controller.VolumeGate
