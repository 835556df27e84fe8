import Kukeon.Controller.ConfigDrift
import Kukeon.Runner.CellWrites
import Kukeon.Runner.Passes

/-! # The lifecycle fields of a cell

Every operation writes the whole document of a cell, and what a document says about the past of the
cell lasts only as long as each operation hands it on: when the cell was created and first became
ready, that it was seen ready, the labels of the controller and the provenance of the spec. The
operations below read the document and persist another; `RecreateCell` is a stop, a `recreate` and a
start, and the in-place reapply of a Config is a start and an `update`. The passes of the reconciler
and of the operator's refresh run beside them.
-/

namespace Kukeon.Controller

open ModelHub Effect Runner Std.Do

set_option mvcgen.warning false

inductive StatusEdit where
  /-- The end of `StopCell` and of `KillCell`. -/
  | stopped
  /-- The end of `StartCell`. -/
  | ready
  /-- `markCellFailed`. -/
  | failed (reason message : String)
  /-- `persistCellOutOfSync`. -/
  | outOfSync (verdict : CellOutOfSync)

/-- `survey` is what the operation finds of the containers when it has done its work. -/
def StatusEdit.apply (now : Time) (survey : Survey) (cell : Cell) : StatusEdit → Cell
  | .stopped => populateCellContainerStatuses now survey { cell with status.state := .stopped }
  | .ready => populateCellContainerStatuses now survey (markCellReady cell)
  | .failed reason message => stampFailed reason message cell
  | .outOfSync verdict =>
    { cell with
      status.outOfSync := verdict.outOfSync
      status.outOfSyncReason := verdict.reason
      status.outOfSyncError := verdict.err }

inductive CellOperation where
  | edit (change : StatusEdit)
  /-- `UpdateCell`: a compatible apply, or the second half of a reapply in place. -/
  | update (host : ProvisionHost) (live : List String) (desired : Cell)
  /-- `UpdateContainer`: the apply of a single container. -/
  | container (host : ProvisionHost) (live : List String) (spec : ContainerSpec)
  /-- The write of `RecreateCell`: a breaking apply or reapply, and the recovery of a failed cell. -/
  | recreate (host : ProvisionHost) (live : List String) (desired : Cell)

/-- The cell that the operation persists, given the one it has read. -/
def CellOperation.persists (now : Time) (survey : Survey) (read : Cell) :
    CellOperation → Except CellWriteError Cell
  | .edit change => .ok (change.apply now survey read)
  | .update host live desired => Prod.fst <$> updateCell host live read desired
  | .container host live spec => Prod.fst <$> updateContainer host live read spec
  | .recreate host live desired => Prod.fst <$> recreateCell host live read desired

/-- An operation with the clock and the writes that fail, and with what it finds of the containers
    when it reads the cell and when it has done its work. -/
structure Invocation where
  moment : Moment := {}
  before : Survey
  after : Survey
  operation : CellOperation

inductive LifecycleStep where
  | pass (step : PassStep)
  | operate (invocation : Invocation)

/-- The operation works from the document on disk. It persists nothing when it is refused. -/
def operated (daemon : Daemon) (invocation : Invocation) : Daemon :=
  let moment := invocation.moment
  match daemon.host.disk with
  | none => { daemon with host := daemon.host.begin moment }
  | some doc =>
    let read := populateCellContainerStatuses moment.now invocation.before doc
    match invocation.operation.persists moment.now invocation.after read with
    | .error _ => { daemon with host := daemon.host.begin moment }
    | .ok cell => daemon.operate (.persist moment cell)

def lifecycleStep (daemon : Daemon) : LifecycleStep → Daemon
  | .pass step => daemon.pass step
  | .operate invocation => operated daemon invocation

/-- `after` still says of the past of the cell what `before` says. -/
structure Durable (before after : Cell) : Prop where
  createdAt : before.status.createdAt ≠ 0 → after.status.createdAt = before.status.createdAt
  readyAt : before.status.readyAt ≠ 0 → after.status.readyAt = before.status.readyAt
  readyObserved : before.status.readyObserved = true → after.status.readyObserved = true
  managed : ∀ key ∈ before.metadata.labels, isManagedLabel key = true →
    key ∈ after.metadata.labels
  provenance : before.spec.provenance.isSome = true → after.spec.provenance.isSome = true

namespace Durable

variable {a b c : Cell}

theorem refl (cell : Cell) : Durable cell cell :=
  ⟨fun _ => rfl, fun _ => rfl, id, fun _ hp _ => hp, id⟩

theorem trans (hf : Durable a b) (hsc : Durable b c) : Durable a c := by
  refine ⟨?_, ?_, ?_, ?_, ?_⟩
  · intro hs
    have hk := hf.createdAt hs
    exact (hsc.createdAt (hk ▸ hs)).trans hk
  · intro hs
    have hk := hf.readyAt hs
    exact (hsc.readyAt (hk ▸ hs)).trans hk
  · intro hsn
    exact hsc.readyObserved (hf.readyObserved hsn)
  · intro key hp hm
    exact hsc.managed key (hf.managed key hp hm) hm
  · intro hkn
    exact hsc.provenance (hf.provenance hkn)

theorem ofSame (hl : b.metadata.labels = a.metadata.labels)
    (hp : b.spec.provenance = a.spec.provenance)
    (hc : b.status.createdAt = a.status.createdAt)
    (hra : b.status.readyAt = a.status.readyAt)
    (hr : a.status.readyObserved = true → b.status.readyObserved = true) :
    Durable a b where
  createdAt := fun _ => hc
  readyAt := fun _ => hra
  readyObserved := hr
  managed := fun _ hpr _ => hl ▸ hpr
  provenance := fun hk => hp ▸ hk

theorem ofEdit {allowed : Survey → Prop} {derived : Option CellState}
    (he : Edit allowed derived a b) : Durable a b where
  createdAt := he.createdAt
  readyAt := he.readyAt
  readyObserved := he.readyObserved
  managed := fun _ hp _ => he.labels ▸ hp
  provenance := fun hk => he.spec ▸ hk

theorem stamp (now : Time) (cell : Cell) : Durable cell (stampCellLifecycle now cell) := by
  have hc : Carries none cell (stampCellLifecycle now cell) := .stamp now cell
  exact ⟨hc.createdAt, hc.readyAt, id, fun _ hp _ => hp, id⟩

/-- The document that a write leaves is durable from the cell it was given. -/
theorem written {now : Time} {disk : Option Cell} {cell doc : Cell}
    (hw : writeDocWithGeneration cellAccess disk
      (persistedCell (stampCellLifecycle now cell)) = .ok doc) : Durable cell doc := by
  refine (stamp now cell).trans ?_
  obtain ⟨generation, rfl⟩ := written_eq hw
  exact .ofSame rfl rfl rfl rfl id

/-- A write does not restore what the cell it was given has lost, unless the clock stands still. -/
theorem of_written {now : Time} {prior cell doc : Cell}
    (hw : writeDocWithGeneration cellAccess (some prior)
      (persistedCell (stampCellLifecycle now cell)) = .ok doc)
    (hc : now ≠ prior.status.createdAt) (hr : now ≠ prior.status.readyAt)
    (hd : Durable prior doc) : Durable prior cell := by
  obtain ⟨-, rfl⟩ := writeDocWithGeneration_some hw
  refine ⟨?_, ?_, hd.readyObserved, hd.managed, hd.provenance⟩
  · intro hs
    have hk : (if cell.status.createdAt = 0 then now else cell.status.createdAt) =
        prior.status.createdAt := hd.createdAt hs
    split at hk
    · exact absurd hk hc
    · exact hk
  · intro hs
    have hk : (if cell.status.readyAt = 0 ∧ cell.status.state = .ready then now
        else cell.status.readyAt) = prior.status.readyAt := hd.readyAt hs
    split at hk
    · exact absurd hk hr
    · exact hk

end Durable

/-- The labels of an updated cell include the managed ones it had. -/
theorem mem_mergeManagedLabels {existing desired : Labels} {key : String} (hp : key ∈ existing)
    (hm : isManagedLabel key = true) : key ∈ mergeManagedLabels existing desired := by
  obtain ⟨value, hv⟩ := Finmap.mem_iff.mp hp
  simp [← Finmap.lookup_isSome, lookup_mergeManagedLabels, hm, hv]

variable {host : ProvisionHost} {live made : List String}

theorem ensureRoot_durable {cell rooted : Cell} {rootID : String}
    (he : ensureRoot host live rootID cell = .ok (rooted, made)) : Durable cell rooted := by
  unfold ensureRoot at he
  split at he
  · obtain ⟨rfl, -⟩ := Prod.mk.inj (Except.ok.inj he)
    exact .refl cell
  · simp only [restoreRoot, Outcome.bind_eq_ok, Outcome.pure_eq_ok] at he
    obtain ⟨root, -, _, -, hs⟩ := he
    obtain ⟨rfl, -⟩ := Prod.mk.inj hs
    exact .ofSame rfl rfl rfl rfl id

theorem ensureCellContainers_durable {cell ensured : Cell}
    (he : ensureCellContainers host live cell = .ok (ensured, made)) :
    Durable cell ensured := by
  simp only [ensureCellContainers, Outcome.bind_eq_ok, Outcome.refusal_eq_ok, Outcome.pure_eq_ok,
    applyCellContainerDefaults_eq_ok] at he
  obtain ⟨-, -, -, defaulted, ⟨space, -, rfl⟩, _, -, _, -, ⟨rooted, _⟩, hr, ⟨_, _⟩, -, hs⟩ :=
    he
  obtain ⟨rfl, -⟩ := Prod.mk.inj hs
  have hd : Durable cell (withSpaceDefaults space cell) := .ofSame rfl rfl rfl rfl id
  exact (hd.trans (ensureRoot_durable hr)).trans (.ofSame rfl rfl rfl rfl id)

theorem updateCell_durable {existing desired stored : Cell}
    (hu : updateCell host live existing desired = .ok (stored, made)) :
    Durable existing stored := by
  simp only [updateCell, storable, Outcome.bind_eq_ok, Outcome.mapError_eq_ok,
    Outcome.pure_eq_ok] at hu
  obtain ⟨_, -, ⟨containers, _⟩, -, ⟨ensured, _⟩, he, _, ⟨_, _, rfl⟩, hs⟩ := hu
  obtain ⟨rfl, -⟩ := Prod.mk.inj hs
  refine Durable.trans ?_ (ensureCellContainers_durable he)
  exact ⟨fun _ => rfl, fun _ => rfl, id, fun _ => mem_mergeManagedLabels, id⟩

theorem createContainerIn_durable {existing stored : Cell} {container : ContainerSpec}
    (hc : createContainerIn host live existing container = .ok (stored, made)) :
    Durable existing stored := by
  simp only [createContainerIn, storable, Outcome.bind_eq_ok, Outcome.mapError_eq_ok,
    Outcome.pure_eq_ok] at hc
  obtain ⟨_, -, ⟨ensured, _⟩, he, _, ⟨_, _, rfl⟩, hs⟩ := hc
  obtain ⟨rfl, -⟩ := Prod.mk.inj hs
  refine Durable.trans ?_ (ensureCellContainers_durable he)
  exact .ofSame rfl rfl rfl rfl id

theorem updateContainer_durable {existing stored : Cell} {container : ContainerSpec}
    (hu : updateContainer host live existing container = .ok (stored, made)) :
    Durable existing stored := by
  unfold updateContainer at hu
  split at hu
  · exact createContainerIn_durable hu
  · simp only [storable, Outcome.bind_eq_ok, Outcome.mapError_eq_ok, Outcome.pure_eq_ok] at hu
    obtain ⟨⟨ensured, _⟩, he, _, ⟨_, _, rfl⟩, hs⟩ := hu
    obtain ⟨rfl, -⟩ := Prod.mk.inj hs
    refine Durable.trans ?_ (ensureCellContainers_durable he)
    exact .ofSame rfl rfl rfl rfl id

/-- Recreating keeps of the past of the cell what the document it is given says, and no more. -/
theorem recreateCell_stores {existing desired stored : Cell}
    (hr : recreateCell host live existing desired = .ok (stored, made)) :
    stored.metadata = desired.metadata ∧ stored.spec.provenance = desired.spec.provenance ∧
      stored.status = { desired.status with cgroupPath := existing.status.cgroupPath } ∧
      ∃ doc, ApiScheme.buildCellExternalFromInternal stored = .ok doc := by
  simp only [recreateCell, storable, Outcome.bind_eq_ok, Outcome.mapError_eq_ok,
    Outcome.pure_eq_ok] at hr
  obtain ⟨_, -, ⟨created, _⟩, hc, _, ⟨doc, hb, rfl⟩, hsm⟩ := hr
  obtain ⟨rfl, -⟩ := Prod.mk.inj hsm
  obtain ⟨_, _, _, _, -, -, -, -, hs, -⟩ := createCellContainers_spec hc
  refine ⟨?_, ?_, ?_, doc, hb⟩
  all_goals rw [hs]

theorem apply_durable (now : Time) (survey : Survey) (cell : Cell) (change : StatusEdit) :
    Durable cell (change.apply now survey cell) := by
  cases change with
  | stopped => exact .ofSame rfl rfl rfl rfl id
  | ready => exact .ofSame rfl rfl rfl rfl fun _ => rfl
  | failed reason message => exact .ofSame rfl rfl rfl rfl id
  | outOfSync verdict => exact .ofSame rfl rfl rfl rfl id

theorem exists_of_map_fst {ε : Type} {cell : Cell} {result : Except ε (Cell × List String)}
    (hp : Prod.fst <$> result = .ok cell) : ∃ made, result = .ok (cell, made) := by
  cases result with
  | error err => cases hp
  | ok pair =>
    cases hp
    exact ⟨pair.2, rfl⟩

/-- Of the operations, only a recreate does not start from the cell it has read. -/
theorem persists_durable {now : Time} {survey : Survey} {read cell : Cell}
    {operation : CellOperation} (hp : operation.persists now survey read = .ok cell)
    (hc : ∀ host live desired, operation = .recreate host live desired →
      Durable read desired) : Durable read cell := by
  cases operation with
  | edit change =>
    cases hp
    exact apply_durable now survey read change
  | update host live desired =>
    obtain ⟨made, hu⟩ := exists_of_map_fst hp
    exact updateCell_durable hu
  | container host live spec =>
    obtain ⟨made, hu⟩ := exists_of_map_fst hp
    exact updateContainer_durable hu
  | recreate host live desired =>
    obtain ⟨made, hr⟩ := exists_of_map_fst hp
    obtain ⟨hm, hpr, hs, -⟩ := recreateCell_stores hr
    refine (hc host live desired rfl).trans ?_
    exact .ofSame (by rw [hm]) hpr (by rw [hs]) (by rw [hs])
      (by rw [hs]; exact id)

/-- The document on disk is durable from `before` and not older than `floor`. A cell that may be
    written is durable as well, or its token is refused. -/
def lifecycleRules (before : Cell) (floor : Int) : Rules where
  inv host := ∃ doc, host.disk = some doc ∧ Durable before doc ∧ floor ≤ doc.metadata.generation
  doc _ cell := Durable before cell ∨ 0 < cell.metadata.generation ∧ cell.metadata.generation < floor
  relaunch _ := True
  kill _ := True
  reap := True

section LifecycleRules

variable {before : Cell} {floor : Int}

theorem lifecycleRules_write {host : CellHost} {now : Time} {cell doc : Cell}
    (hh : (lifecycleRules before floor).inv host)
    (may : (lifecycleRules before floor).doc host.derived cell)
    (hw : writeDocWithGeneration cellAccess host.disk
      (persistedCell (stampCellLifecycle now cell)) = .ok doc) :
    (lifecycleRules before floor).inv (host.written doc) := by
  obtain ⟨prior, ho, -, hab⟩ := hh
  have ha := hw
  rw [ho] at ha
  obtain ⟨hf, hs⟩ := writeDocWithGeneration_some ha
  refine ⟨doc, rfl, ?_, ?_⟩
  · cases may with
    | inl hd => exact hd.trans (.written hw)
    | inr hb => exact absurd ⟨hb.1, lt_of_lt_of_le hb.2 hab⟩ hf
  · rw [hs]
    change floor ≤ ite _ _ _
    split
    · exact hab
    · exact hab.trans (by simp [cellAccess])

theorem lifecycleRules_sound (before : Cell) (floor : Int) :
    (lifecycleRules before floor).Sound where
  edit := by
    intro derived a b may he
    cases may with
    | inl hd => exact .inl (hd.trans (.ofEdit he))
    | inr hb => exact .inr (he.generation ▸ hb)
  read := by
    rintro host doc ⟨found, ho, hd, -⟩ hod
    have hs : found = doc := Option.some.inj (ho.symm.trans hod)
    exact .inl (hs ▸ hd)
  write := lifecycleRules_write
  idle := by
    rintro host next ⟨doc, ho, hr⟩ hds - -
    exact ⟨doc, hds.trans ho, hr⟩
  markedFailed := fun hh => hh
  relaunching := fun hh _ => hh
  killed := fun hh _ => hh
  kill_mono := fun _ => trivial
  kill_after_failure := trivial
  kill_of_reap := fun _ => trivial
  derive := fun hh _ _ => hh
  doc_derive := fun may => may

theorem updateCellMetadata_lifecycle (cell : Cell)
    (may : (lifecycleRules before floor).doc none cell) :
    Keeps (lifecycleRules before floor).inv (updateCellMetadata cell) := by
  mvcgen [updateCellMetadata]
  rename_i hh _ _ _ _ _ hw _
  exact lifecycleRules_write hh may hw

theorem refreshed_durable (inputs : RefreshInputs) (cell : Cell) (now : Time)
    (specs : List ContainerSpec) :
    Durable cell
      { populateCellContainerStatuses now inputs.survey cell with
        spec.containers := specs
        status := refreshedStatus inputs cell.status
          (populateCellContainerStatuses now inputs.survey cell) } := by
  refine .ofSame rfl rfl rfl rfl ?_
  intro hs
  change latchReadyObserved cell.status.readyObserved _ _ = true
  rw [hs]
  rfl

theorem refreshCell_lifecycle (inputs : RefreshInputs) (cell : Cell)
    (may : (lifecycleRules before floor).doc none cell) :
    Keeps (lifecycleRules before floor).inv (refreshCell inputs cell) := by
  have hw : ∀ next : Cell, Durable cell next ∧ next.metadata = cell.metadata →
      Keeps (lifecycleRules before floor).inv (updateCellMetadata next) := by
    rintro next ⟨hd, hs⟩
    refine updateCellMetadata_lifecycle next ?_
    cases may with
    | inl hk => exact .inl (hk.trans hd)
    | inr hb => exact .inr (hs ▸ hb)
  mvcgen [refreshCell, rewording, persistCellStatusGuarded, attempt, hw]
  rename_i chosen _ _
  have hh : Durable cell chosen ∧ chosen.metadata = cell.metadata := by
    change Durable cell (ite _ _ _ : Cell) ∧ (ite _ _ _ : Cell).metadata = cell.metadata
    split
    · exact ⟨refreshed_durable inputs cell _ _, rfl⟩
    · exact ⟨.ofSame rfl rfl rfl rfl id, rfl⟩
  exact ⟨hh.1.trans (.ofSame rfl rfl rfl rfl id), hh.2⟩

end LifecycleRules

/-- The document that the daemon holds, if any, is durable from `before`. -/
def DurableFrom (before : Cell) (daemon : Daemon) : Prop :=
  ∀ doc, daemon.host.disk = some doc → Durable before doc

/-- A listing that a pass works from still shows the past of the cell, or its token is behind the
    document. -/
def ShowsLifecycle (daemon : Daemon) (listing : Option Cell) : Prop :=
  ∀ cell, listing = some cell → ∃ doc, daemon.host.disk = some doc ∧
    (Durable doc cell ∨ Behind cell doc)

def ListingCurrent (daemon : Daemon) : LifecycleStep → Prop
  | .pass (.tick _ _) => ShowsLifecycle daemon daemon.reconcileSnapshot
  | .pass (.refresh _ _) => ShowsLifecycle daemon daemon.refreshSnapshot
  | _ => True

/-- The document that a recreate is given says of the past of the cell what the one on disk says. -/
def RecreateCarries (daemon : Daemon) : LifecycleStep → Prop
  | .operate invocation =>
    ∀ host live desired doc, invocation.operation = .recreate host live desired →
      daemon.host.disk = some doc → Durable doc desired
  | .pass _ => True

section Steps

variable {before : Cell} {daemon : Daemon}

theorem durableFrom_of_inv {floor : Int} {after : Daemon}
    (hh : (lifecycleRules before floor).inv after.host) : DurableFrom before after := by
  intro doc hod
  obtain ⟨found, ho, hd, -⟩ := hh
  have hs : found = doc := Option.some.inj (ho.symm.trans hod)
  exact hs ▸ hd

variable (hf : DurableFrom before daemon)

include hf

/-- A listing may be written back while the document is no older than the one it was checked
    against. -/
theorem ShowsLifecycle.rules {cell : Cell} {listing : Option Cell}
    (hs : ShowsLifecycle daemon listing) (hl : listing = some cell) :
    ∃ floor, (∀ moment, (lifecycleRules before floor).inv (daemon.host.begin moment)) ∧
      ∀ derived, (lifecycleRules before floor).doc derived cell := by
  obtain ⟨doc, ho, hc⟩ := hs cell hl
  have hd := hf doc ho
  refine ⟨doc.metadata.generation, fun _ => ⟨doc, ho, hd, le_refl _⟩, ?_⟩
  intro derived
  cases hc with
  | inl hk => exact .inl (hd.trans hk)
  | inr hb => exact .inr hb

theorem tick_durable {cell : Cell} {moment : Moment} {inputs : TickInputs}
    (hl : daemon.reconcileSnapshot = some cell)
    (hs : ShowsLifecycle daemon daemon.reconcileSnapshot) :
    DurableFrom before (daemon.pass (.tick moment inputs)) := by
  obtain ⟨floor, hh, may⟩ := hs.rules hf hl
  have he := reconcileCell_ends (lifecycleRules_sound before floor) inputs
    (.ofAll (fun _ => trivial) inputs) cell (daemon.host.begin moment) (may none)
    (fun _ _ _ => trivial) (fun _ _ _ _ _ _ _ => trivial) (fun _ _ _ _ => trivial) (hh moment)
  intro doc ho
  simp only [Daemon.pass, hl] at ho
  cases he with
  | inl hk =>
    obtain ⟨found, hod, hd, -⟩ := hk
    have hsm : found = doc := Option.some.inj (hod.symm.trans ho)
    exact hsm ▸ hd
  | inr hr =>
    obtain ⟨-, prior, -, hls⟩ := hr
    rw [hls] at ho
    cases ho

theorem refresh_durable {cell : Cell} {moment : Moment} {inputs : RefreshInputs}
    (hl : daemon.refreshSnapshot = some cell)
    (hs : ShowsLifecycle daemon daemon.refreshSnapshot) :
    DurableFrom before (daemon.pass (.refresh moment inputs)) := by
  obtain ⟨floor, hh, may⟩ := hs.rules hf hl
  have hk : (lifecycleRules before floor).inv (daemon.pass (.refresh moment inputs)).host := by
    simp only [Daemon.pass, hl]
    exact holds_finalState (refreshCell_lifecycle inputs cell (may none)) (hh moment)
  exact durableFrom_of_inv hk

theorem pass_durable {step : PassStep}
    (hl : ListingCurrent daemon (.pass step)) : DurableFrom before (daemon.pass step) := by
  cases step with
  | listForReconcile => exact hf
  | listForRefresh => exact hf
  | tick moment inputs =>
    cases hs : daemon.reconcileSnapshot with
    | none =>
      simp only [Daemon.pass, hs, DurableFrom]
      exact hf
    | some cell => exact tick_durable hf hs hl
  | refresh moment inputs =>
    cases hs : daemon.refreshSnapshot with
    | none =>
      simp only [Daemon.pass, hs, DurableFrom]
      exact hf
    | some cell => exact refresh_durable hf hs hl

theorem operated_durable {invocation : Invocation}
    (hc : RecreateCarries daemon (.operate invocation)) :
    DurableFrom before (operated daemon invocation) := by
  unfold operated
  cases ho : daemon.host.disk with
  | none =>
    intro doc hs
    exact absurd (ho.symm.trans hs) (by simp)
  | some doc =>
    have hr : Durable doc
        (populateCellContainerStatuses invocation.moment.now invocation.before doc) :=
      .ofSame rfl rfl rfl rfl id
    have hu : Durable
        (populateCellContainerStatuses invocation.moment.now invocation.before doc) doc :=
      .ofSame rfl rfl rfl rfl id
    cases hp : invocation.operation.persists invocation.moment.now invocation.after
        (populateCellContainerStatuses invocation.moment.now invocation.before doc) with
    | error err =>
      simp only [hp]
      exact hf
    | ok cell =>
      simp only [hp]
      have hh := persists_durable hp fun host live desired hi =>
        hu.trans (hc host live desired doc hi ho)
      have may : (lifecycleRules before doc.metadata.generation).doc none cell :=
        .inl ((hf doc ho).trans (hr.trans hh))
      exact durableFrom_of_inv (holds_finalState (updateCellMetadata_lifecycle cell may)
        ⟨doc, ho, hf doc ho, le_refl _⟩)

theorem lifecycleStep_durable {step : LifecycleStep}
    (hl : ListingCurrent daemon step) (hc : RecreateCarries daemon step) :
    DurableFrom before (lifecycleStep daemon step) := by
  cases step with
  | pass step => exact pass_durable hf hl
  | operate invocation => exact operated_durable hf hc

end Steps

/-- The recreate builds its containers and writes its document, at a time that is not one of those
    on record. -/
structure Recreates (doc : Cell) (invocation : Invocation) (host : ProvisionHost)
    (live : List String) (desired : Cell) : Prop where
  creates : (recreateCell host live
    (populateCellContainerStatuses invocation.moment.now invocation.before doc) desired).isOk = true
  writes : invocation.moment.diskFault 0 = none
  current : ¬ Behind desired doc
  created : invocation.moment.now ≠ doc.status.createdAt
  ready : invocation.moment.now ≠ doc.status.readyAt

def RecreateCompletes (daemon : Daemon) : LifecycleStep → Prop
  | .operate invocation =>
    ∀ host live desired doc, invocation.operation = .recreate host live desired →
      daemon.host.disk = some doc → Recreates doc invocation host live desired
  | .pass _ => True

theorem updateCellMetadata_writes {host : CellHost} {prior cell : Cell} {root : String}
    (ho : host.disk = some prior)
    (hrs : ApiScheme.resolveCellRootContainer cell.spec = .ok root)
    (hh : host.diskFault host.attempts = none) (hc : ¬ Behind cell prior) :
    ∃ doc, writeDocWithGeneration cellAccess (some prior)
        (persistedCell (stampCellLifecycle host.now cell)) = .ok doc ∧
      (finalState (updateCellMetadata cell) host).disk = some doc := by
  have ha : ∃ doc, writeDocWithGeneration cellAccess (some prior)
      (persistedCell (stampCellLifecycle host.now cell)) = .ok doc := by
    exact ⟨_, if_neg hc⟩
  obtain ⟨doc, hw⟩ := ha
  refine ⟨doc, hw, ?_⟩
  have hr : ApiScheme.resolveCellRootContainer (stampCellLifecycle host.now cell).spec =
      .ok root := hrs
  have hy : Yields (updateCellMetadata cell) host ()
      (CellHost.written { host with attempts := host.attempts + 1 } doc) := by
    unfold updateCellMetadata
    refine (Yields.read host).bind ?_
    simp only [hr]
    refine (Yields.put host _).bind ?_
    simp only [hh, ho, hw]
    exact Yields.update _ _
  rw [hy.finalState]
  rfl

theorem durable_of_recreated {daemon : Daemon} {invocation : Invocation} {live : List String}
    {desired doc : Cell} (ho : daemon.host.disk = some doc)
    (hi : invocation.operation = .recreate host live desired)
    (hc : Recreates doc invocation host live desired)
    (hd : DurableFrom doc (operated daemon invocation)) : Durable doc desired := by
  obtain ⟨⟨stored, made⟩, hrc⟩ : ∃ result, recreateCell host live
      (populateCellContainerStatuses invocation.moment.now invocation.before doc) desired =
        .ok result := by
    have hcr := hc.creates
    cases made : recreateCell host live
        (populateCellContainerStatuses invocation.moment.now invocation.before doc) desired with
    | error err =>
      rw [made] at hcr
      cases hcr
    | ok result => exact ⟨result, rfl⟩
  obtain ⟨hm, hp, hs, built, hb⟩ := recreateCell_stores hrc
  obtain ⟨root, hr⟩ : ∃ root,
      ApiScheme.resolveCellRootContainer stored.spec = .ok root := by
    simp only [ApiScheme.buildCellExternalFromInternal, Outcome.bind_eq_ok] at hb
    obtain ⟨root, hr, -⟩ := hb
    exact ⟨root, hr⟩
  have hcn : ¬ Behind stored doc := by
    unfold Behind
    rw [hm]
    exact hc.current
  have hbg : (daemon.host.begin invocation.moment).disk = some doc := ho
  obtain ⟨after, hwr, hw⟩ :=
    updateCellMetadata_writes hbg hr hc.writes hcn
  have hk : Durable doc after := by
    refine hd after ?_
    simp only [operated, ho, hi, CellOperation.persists, hrc]
    exact hw
  have hg : Durable doc stored := .of_written hwr hc.created hc.ready hk
  refine hg.trans ?_
  refine .ofSame (by rw [hm]) hp.symm (by rw [hs]) (by rw [hs]) ?_
  rw [hs]
  exact id

/-- Whatever document a run leaves is durable from every document that it has passed. -/
def DurableThroughout (daemon : Daemon) (steps : List LifecycleStep) : Prop :=
  ∀ earlier later rest before, steps = earlier ++ later ++ rest →
    (Runs.run lifecycleStep daemon earlier).host.disk = some before →
      DurableFrom before (Runs.run lifecycleStep daemon (earlier ++ later))

/-- A pass that goes on right after it has listed works from a current listing. -/
theorem showsLifecycle_of_listing (daemon : Daemon) (moment : Moment) (inputs : TickInputs) :
    ListingCurrent (lifecycleStep daemon (.pass .listForReconcile)) (.pass (.tick moment inputs)) := by
  intro cell hl
  exact ⟨cell, hl, .inl (.refl cell)⟩

def berthHost : ProvisionHost where
  getSpace _ _ := .ok {}
  spaceNetworkConfigPath _ _ := .ok "/opt/kukeon/s/network.conflist"
  kukepauseHostPath := "/opt/kukeon/bin/kukepause"
  cellEtcHostnamePath _ _ _ _ := "/opt/kukeon/etc/hostname"
  cellEtcHostsPath _ _ _ _ := "/opt/kukeon/etc/hosts"

def berthDocument (image : String) : Cell :=
  { metadata.name := "berth"
    spec.id := "berth"
    spec.realmName := "r"
    spec.spaceName := "s"
    spec.stackName := "t"
    spec.rootContainerID := "root"
    spec.containers := [{ id := "root", root := true, image := image }] }

def berthCell : Cell :=
  { berthDocument "busybox" with
    metadata.labels := GoMap.ofList [("cell.kukeon.io", "berth")]
    metadata.generation := 1
    spec.provenance := some {}
    status.state := .failed
    status.readyObserved := true
    status.createdAt := 10
    status.readyAt := 11 }

def berthRecreate (desired : Cell) : LifecycleStep :=
  .operate
    { moment := { now := 90 }, before := .all .ready, after := .all .ready
      operation := .recreate berthHost ["s_t_berth_root"] desired }

end Kukeon.Controller
