import Kukeon.Runner.Convergence
import Kukeon.Runner.SpaceNetworkPass

/-! # What a refresh leaves of a status

`RefreshRealm`, `RefreshSpace`, `RefreshStack` and `RefreshCell` of
`internal/controller/runner/refresh.go`. Each builds a status anew from what it observes and carries
over the cgroup path, the stamps and the reason. If the comparison with the recorded status sees a
change, the new status replaces the recorded one as a whole.
-/

namespace Kukeon.Runner

open ModelHub ApiScheme Effect Std.Do

set_option mvcgen.warning false

/-- The document of one scope, the clock, and the failure of the file system at the next write. -/
structure DocHost (D : Type) where
  now : Time := 0
  disk : Option D := none
  diskFault : Option String := none

structure ScopeKind (D S St : Type) where
  noun : String
  access : DocAccess D S
  status : D → St
  setStatus : D → St → D
  /-- Stamps the times of the lifecycle. -/
  stamp : Time → D → D
  /-- The form the document is read back in. -/
  persisted : D → D

section Scope

variable {D S St : Type} [DecidableEq S] (kind : ScopeKind D S St)

def updateScopeMetadata (scope : D) : Effect (DocHost D) RunnerError Unit := do
  let host ← get
  match host.diskFault with
  | some text => throw (.io text)
  | none =>
    match writeDocWithGeneration kind.access host.disk
        (kind.persisted (kind.stamp host.now scope)) with
    | .error (.staleResource observed onDisk) => throw (.staleResource observed onDisk)
    | .error (.io text) => throw (.io text)
    | .ok doc => set { host with disk := some doc }

def persistScopeStatusGuarded (scope : D) : Effect (DocHost D) RunnerError Bool := do
  match ← attempt (updateScopeMetadata kind scope) with
  | .ok _ => return true
  | .error (.staleResource _ _) => return false
  | .error err => throw err

/-- The end of each refresh: a changed status replaces the recorded one. -/
def refreshScope (scope : D) (next : St) (changed : Bool) :
    Effect (DocHost D) RunnerError (D × Bool) := do
  if changed then
    let scope := kind.setStatus scope next
    let persisted ← rewording (.wrap ("failed to update " ++ kind.noun ++ " metadata"))
      (persistScopeStatusGuarded kind scope)
    return (scope, persisted)
  else return (scope, false)

end Scope

def stampRealmLifecycle (now : Time) (realm : Realm) : Realm :=
  { realm with
    status.createdAt := if realm.status.createdAt = 0 then now else realm.status.createdAt
    status.updatedAt := now
    status.readyAt :=
      if realm.status.readyAt = 0 ∧ realm.status.state = .ready then now else realm.status.readyAt }

def stampStackLifecycle (now : Time) (stack : Stack) : Stack :=
  { stack with
    status.createdAt := if stack.status.createdAt = 0 then now else stack.status.createdAt
    status.updatedAt := now
    status.readyAt :=
      if stack.status.readyAt = 0 ∧ stack.status.state = .ready then now else stack.status.readyAt }

def realmKind : ScopeKind Realm RealmSpec RealmStatus where
  noun := "realm"
  access :=
    { generation := fun realm => realm.metadata.generation
      setGeneration := fun realm generation =>
        { realm with metadata := { realm.metadata with generation := generation } }
      specOf := Realm.spec }
  status := Realm.status
  setStatus realm status := { realm with status := status }
  stamp := stampRealmLifecycle
  persisted := id

def spaceKind : ScopeKind Space SpaceSpec SpaceStatus where
  noun := "space"
  access := spaceAccess
  status := Space.status
  setStatus space status := { space with status := status }
  stamp := stampSpaceLifecycle
  persisted := persistedSpace

def stackKind : ScopeKind Stack StackSpec StackStatus where
  noun := "stack"
  access :=
    { generation := fun stack => stack.metadata.generation
      setGeneration := fun stack generation =>
        { stack with metadata := { stack.metadata with generation := generation } }
      specOf := Stack.spec }
  status := Stack.status
  setStatus stack status := { stack with status := status }
  stamp := stampStackLifecycle
  persisted := id

structure RealmProbe where
  cgroup : Except String Bool
  containerdNamespace : String → Except String Bool

def realmNamespaceToCheck (realm : Realm) : String :=
  if realm.spec.containerdNamespace = "" then realm.metadata.name
  else realm.spec.containerdNamespace

def refreshedRealmStatus (probe : RealmProbe) (realm : Realm) : RealmStatus :=
  let carried : RealmStatus :=
    { state := .unknown
      cgroupPath := realm.status.cgroupPath
      createdAt := realm.status.createdAt
      readyAt := realm.status.readyAt
      reason := realm.status.reason
      message := realm.status.message }
  match probe.cgroup with
  | .error _ => carried
  | .ok cgroupExists =>
    match probe.containerdNamespace (realmNamespaceToCheck realm) with
    | .error _ => { carried with cgroupReady := cgroupExists }
    | .ok namespaceExists =>
      { carried with
        state := if cgroupExists && namespaceExists then .ready else .unknown
        cgroupReady := cgroupExists
        containerdNamespaceReady := namespaceExists }

def realmStatusChanged (next original : RealmStatus) : Bool :=
  decide (next.state ≠ original.state ∨ next.cgroupPath ≠ original.cgroupPath ∨
    next.cgroupReady ≠ original.cgroupReady ∨
    next.containerdNamespaceReady ≠ original.containerdNamespaceReady)

def refreshRealm (probe : RealmProbe) (realm : Realm) :
    Effect (DocHost Realm) RunnerError (Realm × Bool) :=
  let next := refreshedRealmStatus probe realm
  refreshScope realmKind realm next (realmStatusChanged next realm.status)

structure SpaceProbe where
  cniConfig : Except String Bool
  cgroup : Except String Bool

def refreshedSpaceStatus (probe : SpaceProbe) (space : Space) : SpaceStatus :=
  let carried : SpaceStatus :=
    { state := .unknown
      cgroupPath := space.status.cgroupPath
      createdAt := space.status.createdAt
      readyAt := space.status.readyAt
      reason := space.status.reason
      message := space.status.message }
  match probe.cniConfig, probe.cgroup with
  | .error _, _ => carried
  | .ok _, .error _ => carried
  | .ok cniExists, .ok cgroupExists =>
    { carried with
      state := if cniExists && cgroupExists then .ready else .unknown
      cgroupReady := cgroupExists }

def spaceStatusChanged (next original : SpaceStatus) : Bool :=
  decide (next.state ≠ original.state ∨ next.cgroupPath ≠ original.cgroupPath ∨
    next.cgroupReady ≠ original.cgroupReady)

def refreshSpace (probe : SpaceProbe) (space : Space) :
    Effect (DocHost Space) RunnerError (Space × Bool) :=
  let next := refreshedSpaceStatus probe space
  refreshScope spaceKind space next (spaceStatusChanged next space.status)

def refreshedStackStatus (cgroup : Except String Bool) (stack : Stack) : StackStatus :=
  let carried : StackStatus :=
    { state := .unknown
      cgroupPath := stack.status.cgroupPath
      createdAt := stack.status.createdAt
      readyAt := stack.status.readyAt
      reason := stack.status.reason
      message := stack.status.message }
  match cgroup with
  | .error _ => carried
  | .ok cgroupExists =>
    { carried with
      state := if cgroupExists then .ready else .unknown
      cgroupReady := cgroupExists }

def stackStatusChanged (next original : StackStatus) : Bool :=
  decide (next.state ≠ original.state ∨ next.cgroupPath ≠ original.cgroupPath ∨
    next.cgroupReady ≠ original.cgroupReady)

def refreshStack (cgroup : Except String Bool) (stack : Stack) :
    Effect (DocHost Stack) RunnerError (Stack × Bool) :=
  let next := refreshedStackStatus cgroup stack
  refreshScope stackKind stack next (stackStatusChanged next stack.status)

section Scope

variable {D S St : Type} [DecidableEq S]

/-- The file system fails, or the document has moved past the scope that was listed. -/
def WriteRefused (kind : ScopeKind D S St) (host : DocHost D) (scope : D) : Prop :=
  host.diskFault ≠ none ∨
    ∃ doc, host.disk = some doc ∧ 0 < kind.access.generation scope ∧
      kind.access.generation scope < kind.access.generation doc

/-- A write keeps the part of the status that `frame` shows. -/
structure Framing (kind : ScopeKind D S St) (frame : St → St) : Prop where
  generation : ∀ now scope next,
    kind.access.generation (kind.persisted (kind.stamp now (kind.setStatus scope next))) =
      kind.access.generation scope
  kept : ∀ now scope next generation,
    frame (kind.status (kind.access.setGeneration
      (kind.persisted (kind.stamp now (kind.setStatus scope next))) generation)) = frame next

def HoldsFrame (kind : ScopeKind D S St) (frame : St → St) (kept : St) (host : DocHost D) : Prop :=
  ∃ doc, host.disk = some doc ∧ frame (kind.status doc) = kept

variable {kind : ScopeKind D S St} {frame : St → St} {doc : D}

theorem updateScopeMetadata_frame (hf : Framing kind frame) (scope : D) (next : St)
    (start : DocHost D) (ho : start.disk = some doc) :
    ⦃fun host => ⌜host = start⌝⦄ updateScopeMetadata kind (kind.setStatus scope next)
    ⦃post⟨fun _ host =>
        ⌜¬ WriteRefused kind start scope ∧ HoldsFrame kind frame (frame next) host⌝,
      fun _ host => ⌜WriteRefused kind start scope ∧ host = start⌝⟩⦄ := by
  have hs := hf.generation start.now scope next
  have hk := hf.kept start.now scope next
  mvcgen [updateScopeMetadata]
  all_goals grind [WriteRefused, HoldsFrame, writeDocWithGeneration]

/-- What a refresh leaves: the document with the rebuilt status, or all as it was. -/
def Refreshed (kind : ScopeKind D S St) (frame : St → St) (start : DocHost D) (scope : D) (next : St)
    (changed : Bool) (host : DocHost D) : Prop :=
  (changed = true ∧ ¬ WriteRefused kind start scope ∧ HoldsFrame kind frame (frame next) host) ∨
    ((changed = false ∨ WriteRefused kind start scope) ∧ host = start)

theorem refreshScope_frame (hf : Framing kind frame) (scope : D) (next : St) (changed : Bool)
    (start : DocHost D) (ho : start.disk = some doc) :
    Leads (fun host => host = start) (Refreshed kind frame start scope next changed)
      (refreshScope kind scope next changed) := by
  have hw := updateScopeMetadata_frame hf scope next start ho
  mvcgen [refreshScope, persistScopeStatusGuarded, rewording, attempt, hw]
  all_goals grind [Refreshed]

/-- A refresh of a scope keeps the frame exactly if the rebuilt status has it too, no change is seen
    or the write is refused. -/
theorem refreshScope_framed_iff (hf : Framing kind frame) (scope : D) (next : St)
    (changed : Bool) (start : DocHost D) (ho : start.disk = some doc)
    (hl : frame (kind.status scope) = frame (kind.status doc)) :
    HoldsFrame kind frame (frame (kind.status doc))
        (finalState (refreshScope kind scope next changed) start) ↔
      frame next = frame (kind.status scope) ∨ changed = false ∨ WriteRefused kind start scope := by
  have hlf := holds_finalState (refreshScope_frame hf scope next changed start ho) rfl
  rcases hlf with ⟨hi, hw, after, ht, hr⟩ | ⟨hid, hs⟩
  · have hu : ¬ (changed = false ∨ WriteRefused kind start scope) := by
      rintro (hun | hrf)
      · exact absurd hi (by simp [hun])
      · exact hw hrf
    rw [or_iff_left hu, hl]
    constructor
    · rintro ⟨other, ha, hk⟩
      rw [ht] at ha
      cases ha
      rw [← hr, hk]
    · intro hs
      exact ⟨after, ht, hr.trans hs⟩
  · rw [hs]
    exact iff_of_true ⟨doc, ho, rfl⟩ (.inr hid)

end Scope

/-- The status without what a refresh derives, stamps or carries over. -/
def realmFrame (status : RealmStatus) : RealmStatus :=
  { status with
    state := .pending, cgroupReady := false, containerdNamespaceReady := false, reason := ""
    message := "", observedGeneration := 0, createdAt := 0, updatedAt := 0, readyAt := 0 }

def spaceFrame (status : SpaceStatus) : SpaceStatus :=
  { status with
    state := .pending, cgroupReady := false, reason := "", message := "", observedGeneration := 0
    createdAt := 0, updatedAt := 0, readyAt := 0 }

def stackFrame (status : StackStatus) : StackStatus :=
  { status with
    state := .pending, cgroupReady := false, reason := "", message := "", observedGeneration := 0
    createdAt := 0, updatedAt := 0, readyAt := 0 }

def cellFrame (status : CellStatus) : CellStatus :=
  { status with
    state := .pending, cgroupReady := false, containers := [], readyObserved := false, reason := ""
    message := "", observedGeneration := 0, createdAt := 0, updatedAt := 0, readyAt := 0 }

theorem realm_framing : Framing realmKind realmFrame := ⟨fun _ _ _ => rfl, fun _ _ _ _ => rfl⟩

theorem space_framing : Framing spaceKind spaceFrame := ⟨fun _ _ _ => rfl, fun _ _ _ _ => rfl⟩

theorem stack_framing : Framing stackKind stackFrame := ⟨fun _ _ _ => rfl, fun _ _ _ _ => rfl⟩

/-- A rebuilt status keeps the path of the cgroup and nothing else of the frame. -/
theorem realmFrame_refreshed (probe : RealmProbe) (realm : Realm) :
    realmFrame (refreshedRealmStatus probe realm) = { cgroupPath := realm.status.cgroupPath } := by
  unfold refreshedRealmStatus
  dsimp only
  split
  · rfl
  · split
    · rfl
    · rfl

theorem spaceFrame_refreshed (probe : SpaceProbe) (space : Space) :
    spaceFrame (refreshedSpaceStatus probe space) = { cgroupPath := space.status.cgroupPath } := by
  unfold refreshedSpaceStatus
  dsimp only
  split
  · rfl
  · rfl
  · rfl

theorem stackFrame_refreshed (cgroup : Except String Bool) (stack : Stack) :
    stackFrame (refreshedStackStatus cgroup stack) = { cgroupPath := stack.status.cgroupPath } := by
  unfold refreshedStackStatus
  dsimp only
  split
  · rfl
  · rfl

theorem cellFrame_refreshed (inputs : RefreshInputs) (original : CellStatus) (populated : Cell) :
    cellFrame (refreshedStatus inputs original populated) =
      { cgroupPath := original.cgroupPath } :=
  rfl

/-- Nothing is recorded in the fields that a rebuilt status lacks. -/
def Unrecorded (status : CellStatus) : Prop :=
  status.subtreeControllers = [] ∧ status.bridgeName = "" ∧ status.outOfSync = false ∧
    status.outOfSyncReason = "" ∧ status.outOfSyncError = ""

instance (status : CellStatus) : Decidable (Unrecorded status) :=
  inferInstanceAs (Decidable (_ ∧ _ ∧ _ ∧ _ ∧ _))

theorem cellFrame_eq_path (status : CellStatus) :
    { cgroupPath := status.cgroupPath } = cellFrame status ↔ Unrecorded status := by
  cases status
  simp [cellFrame, Unrecorded, eq_comm]

theorem realmFrame_eq_path (status : RealmStatus) :
    { cgroupPath := status.cgroupPath } = realmFrame status ↔ status.subtreeControllers = [] := by
  cases status
  simp [realmFrame, eq_comm]

theorem spaceFrame_eq_path (status : SpaceStatus) :
    { cgroupPath := status.cgroupPath } = spaceFrame status ↔ status.subtreeControllers = [] := by
  cases status
  simp [spaceFrame, eq_comm]

theorem stackFrame_eq_path (status : StackStatus) :
    { cgroupPath := status.cgroupPath } = stackFrame status ↔ status.subtreeControllers = [] := by
  cases status
  simp [stackFrame, eq_comm]

/-- The cell with the missing identifiers of its containers filled in. -/
def withIdentifiers (inputs : RefreshInputs) (cell : Cell) : Cell :=
  { cell with spec.containers := cell.spec.containers.mapIdx (refreshContainerSpec inputs cell) }

/-- The cell has no document form, the file system fails, or the document has moved past it. -/
def CellWriteRefused (host : CellHost) (cell : Cell) : Prop :=
  (∃ text, resolveCellRootContainer cell.spec = .error text) ∨
    host.diskFault host.attempts ≠ none ∨
    ∃ doc, host.disk = some doc ∧ 0 < cell.metadata.generation ∧
      cell.metadata.generation < doc.metadata.generation

/-- The refresh finds another state, readiness, latch or container than the cell has recorded. -/
def CellStatusChanged (inputs : RefreshInputs) (now : Time) (cell : Cell) : Prop :=
  let next := refreshedStatus inputs cell.status
    (populateCellContainerStatuses now inputs.survey cell)
  next.state ≠ cell.status.state ∨ next.cgroupReady ≠ cell.status.cgroupReady ∨
    next.readyObserved ≠ cell.status.readyObserved ∨
    containerStatusesEqual cell.status.containers next.containers = false

/-- The document of the cell holds a status with the given frame. -/
def HoldsCellFrame (kept : CellStatus) (host : CellHost) : Prop :=
  ∃ doc, host.disk = some doc ∧ cellFrame doc.status = kept

def SameDisk (start host : CellHost) : Prop :=
  host.now = start.now ∧ host.disk = start.disk ∧ host.diskFault = start.diskFault ∧
    host.attempts = start.attempts

theorem holdsCellFrame_written {now : Time} {disk : Option Cell} {cell doc : Cell}
    (hw : writeDocWithGeneration cellAccess disk
      (persistedCell (stampCellLifecycle now cell)) = .ok doc) (later : CellHost) :
    HoldsCellFrame (cellFrame cell.status) (later.written doc) :=
  ⟨doc, rfl, by rw [stored_writtenStatus hw]; rfl⟩

theorem writeDoc_cases (now : Time) (disk : Option Cell) (cell : Cell) :
    (∃ prior, disk = some prior ∧ 0 < cell.metadata.generation ∧
        cell.metadata.generation < prior.metadata.generation ∧
        writeDocWithGeneration cellAccess disk (persistedCell (stampCellLifecycle now cell)) =
          .error (.staleResource cell.metadata.generation prior.metadata.generation)) ∨
      ((∀ prior, disk = some prior → ¬ (0 < cell.metadata.generation ∧
          cell.metadata.generation < prior.metadata.generation)) ∧
        ∃ doc, writeDocWithGeneration cellAccess disk
          (persistedCell (stampCellLifecycle now cell)) = .ok doc) := by
  cases disk with
  | none =>
    refine .inr ⟨?_, _, rfl⟩
    intro prior ht
    cases ht
  | some prior =>
    by_cases hs : 0 < cell.metadata.generation ∧
        cell.metadata.generation < prior.metadata.generation
    · exact .inl ⟨prior, rfl, hs.1, hs.2, if_pos hs⟩
    · refine .inr ⟨?_, _, if_neg hs⟩
      intro other hsm
      cases hsm
      exact hs

theorem updateCellMetadata_frame (cell : Cell) (start : CellHost) :
    ⦃fun host => ⌜SameDisk start host⌝⦄ updateCellMetadata cell
    ⦃post⟨fun _ host => ⌜¬ CellWriteRefused start cell ∧
        HoldsCellFrame (cellFrame cell.status) host⌝,
      fun _ host => ⌜CellWriteRefused start cell ∧ host.disk = start.disk⌝⟩⦄ := by
  have ho := writeDoc_cases start.now start.disk cell
  mvcgen [updateCellMetadata]
  all_goals grind [SameDisk, CellWriteRefused, holdsCellFrame_written, stampCellLifecycle]

/-- What a refresh of a cell leaves: a document with the rebuilt status, or one with the frame of the
    cell, or the document as it was. -/
def CellRefreshed (inputs : RefreshInputs) (start : CellHost) (cell : Cell) (host : CellHost) :
    Prop :=
  (CellStatusChanged inputs start.now cell ∧
      ¬ CellWriteRefused start (withIdentifiers inputs cell) ∧
      HoldsCellFrame { cgroupPath := cell.status.cgroupPath } host) ∨
    ((¬ CellStatusChanged inputs start.now cell ∨
        CellWriteRefused start (withIdentifiers inputs cell)) ∧
      (host.disk = start.disk ∨ HoldsCellFrame (cellFrame cell.status) host))

theorem refreshCell_frame (inputs : RefreshInputs) (cell : Cell) (start : CellHost) :
    Leads (fun host => host = start) (CellRefreshed inputs start cell) (refreshCell inputs cell) := by
  have written := fun written => updateCellMetadata_frame written start
  mvcgen [refreshCell, rewording, persistCellStatusGuarded, attempt, written]
  all_goals grind [CellRefreshed, CellStatusChanged, CellWriteRefused, withIdentifiers, SameDisk,
    cellFrame_refreshed, populateCellContainerStatuses, cellFrame]

theorem refreshCell_framed_iff (inputs : RefreshInputs) (cell doc : Cell) (start : CellHost)
    (ho : start.disk = some doc) (hl : cellFrame cell.status = cellFrame doc.status) :
    HoldsCellFrame (cellFrame doc.status) (finalState (refreshCell inputs cell) start) ↔
      Unrecorded cell.status ∨ ¬ CellStatusChanged inputs start.now cell ∨
        CellWriteRefused start (withIdentifiers inputs cell) := by
  rcases holds_finalState (refreshCell_frame inputs cell start) rfl with
    ⟨hc, hw, after, ht, hr⟩ | ⟨hi, hs | hk⟩
  · have hu : ¬ (¬ CellStatusChanged inputs start.now cell ∨
        CellWriteRefused start (withIdentifiers inputs cell)) := by
      rintro (hun | hrf)
      · exact hun hc
      · exact hw hrf
    rw [or_iff_left hu, ← cellFrame_eq_path, hl, ← hr]
    constructor
    · rintro ⟨other, ha, hk⟩
      rw [ht] at ha
      cases ha
      exact hk
    · intro hs
      exact ⟨after, ht, hs⟩
  · exact iff_of_true ⟨doc, hs.trans ho, rfl⟩ (.inr hi)
  · rw [hl] at hk
    exact iff_of_true hk (.inr hi)

/-- A refresh keeps every status field that it does not derive exactly if nothing is recorded in
    those fields, or it observes what is recorded, or its write is refused. -/
theorem refresh_frame_iff
    (realmProbe : RealmProbe) (realmHost : DocHost Realm) (realm realmDoc : Realm)
    (spaceProbe : SpaceProbe) (spaceHost : DocHost Space) (space spaceDoc : Space)
    (cgroup : Except String Bool) (stackHost : DocHost Stack) (stack stackDoc : Stack)
    (inputs : RefreshInputs) (cellHost : CellHost) (cell cellDoc : Cell) :
    (realmHost.disk = some realmDoc → realmFrame realm.status = realmFrame realmDoc.status →
      (HoldsFrame realmKind realmFrame (realmFrame realmDoc.status)
          (finalState (refreshRealm realmProbe realm) realmHost) ↔
        realm.status.subtreeControllers = [] ∨
          realmStatusChanged (refreshedRealmStatus realmProbe realm) realm.status = false ∨
          WriteRefused realmKind realmHost realm)) ∧
    (spaceHost.disk = some spaceDoc → spaceFrame space.status = spaceFrame spaceDoc.status →
      (HoldsFrame spaceKind spaceFrame (spaceFrame spaceDoc.status)
          (finalState (refreshSpace spaceProbe space) spaceHost) ↔
        space.status.subtreeControllers = [] ∨
          spaceStatusChanged (refreshedSpaceStatus spaceProbe space) space.status = false ∨
          WriteRefused spaceKind spaceHost space)) ∧
    (stackHost.disk = some stackDoc → stackFrame stack.status = stackFrame stackDoc.status →
      (HoldsFrame stackKind stackFrame (stackFrame stackDoc.status)
          (finalState (refreshStack cgroup stack) stackHost) ↔
        stack.status.subtreeControllers = [] ∨
          stackStatusChanged (refreshedStackStatus cgroup stack) stack.status = false ∨
          WriteRefused stackKind stackHost stack)) ∧
    (cellHost.disk = some cellDoc → cellFrame cell.status = cellFrame cellDoc.status →
      (HoldsCellFrame (cellFrame cellDoc.status) (finalState (refreshCell inputs cell) cellHost) ↔
        Unrecorded cell.status ∨ ¬ CellStatusChanged inputs cellHost.now cell ∨
          CellWriteRefused cellHost (withIdentifiers inputs cell))) := by
  refine ⟨?_, ?_, ?_, refreshCell_framed_iff inputs cell cellDoc cellHost⟩
  · intro ho hl
    have hf := refreshScope_framed_iff realm_framing realm (refreshedRealmStatus realmProbe realm)
      (realmStatusChanged (refreshedRealmStatus realmProbe realm) realm.status) realmHost ho hl
    rw [realmFrame_refreshed] at hf
    exact hf.trans (or_congr_left (realmFrame_eq_path realm.status))
  · intro ho hl
    have hf := refreshScope_framed_iff space_framing space (refreshedSpaceStatus spaceProbe space)
      (spaceStatusChanged (refreshedSpaceStatus spaceProbe space) space.status) spaceHost ho hl
    rw [spaceFrame_refreshed] at hf
    exact hf.trans (or_congr_left (spaceFrame_eq_path space.status))
  · intro ho hl
    have hf := refreshScope_framed_iff stack_framing stack (refreshedStackStatus cgroup stack)
      (stackStatusChanged (refreshedStackStatus cgroup stack) stack.status) stackHost ho hl
    rw [stackFrame_refreshed] at hf
    exact hf.trans (or_congr_left (stackFrame_eq_path stack.status))

/-- A cell that runs on a bridge and has drifted from its configuration. -/
def bridgedCell : Cell where
  metadata := { name := "web", generation := 1 }
  spec :=
    { id := "web", realmName := "r", spaceName := "s", stackName := "t", rootContainerID := "root"
      containers := [{ id := "root", root := true, containerdID := "s_t_web_root" }] }
  status :=
    { state := .ready, readyObserved := true, cgroupReady := true, bridgeName := "k-5f1c"
      subtreeControllers := ["cpu", "memory"], outOfSync := true, outOfSyncReason := "image"
      createdAt := 1
      containers := [{ id := "root", name := "root", state := .ready, createdAt := 1, startTime := 1 }] }

def plainCell : Cell :=
  { bridgedCell with
    status.bridgeName := ""
    status.subtreeControllers := []
    status.outOfSync := false
    status.outOfSyncReason := "" }

/-- The cgroup is gone, so that the refresh writes; of the frame there was only the path. -/
theorem refresh_frame_of_unrecorded :
    let inputs : RefreshInputs :=
      { cgroup := .ok false, survey := Survey.all .ready, rootState := .ok .ready }
    CellStatusChanged inputs 2 plainCell ∧
      HoldsCellFrame (cellFrame plainCell.status)
        (finalState (refreshCell inputs plainCell) { now := 2, disk := some plainCell }) :=
  ⟨by unfold CellStatusChanged; decide +kernel,
    ((refresh_frame_iff { cgroup := .ok true, containerdNamespace := fun _ => .ok true } {} {} {}
      { cniConfig := .ok true, cgroup := .ok true } {} {} {} (.ok true) {} {} {} _
      { now := 2, disk := some plainCell } plainCell plainCell).2.2.2 rfl rfl).mpr
      (.inl (by decide))⟩

/-- The cgroup is gone after a reboot: the refresh takes the bridge, the controllers and the verdict
    out of the document, and the controllers out of the one of the realm. -/
theorem refresh_drops_recorded :
    (∃ doc, (finalState (refreshCell
          { cgroup := .ok false, survey := Survey.all .ready, rootState := .ok .ready } bridgedCell)
          { now := 2, disk := some bridgedCell }).disk = some doc ∧
        doc.status.bridgeName = "" ∧ doc.status.subtreeControllers = [] ∧
        doc.status.outOfSync = false) ∧
      ∃ doc, (finalState (refreshRealm { cgroup := .ok false, containerdNamespace := fun _ => .ok true }
          { status := { state := .ready, subtreeControllers := ["cpu"] } })
          { now := 2
            disk := some { status := { state := .ready, subtreeControllers := ["cpu"] } } }).disk =
            some doc ∧
        doc.status.subtreeControllers = [] := by
  refine ⟨⟨_, rfl, rfl, rfl, rfl⟩, _, rfl, rfl⟩

end Kukeon.Runner
