import Kukeon.Runner.Host
import Kukeon.Runner.RunningSet

/-! # The guard of a start

`StartCell` compares the stamp of every container that is still there with the hash of the spec
that is stored for it, and refuses the cell where they differ (`internal/controller/runner/start.go`
and `spec_hash.go`). `RecreateCell` ends in such a start.
-/

namespace Kukeon.Runner

open ModelHub GoText

/-- The guard under which `StartCell` does nothing. -/
def cellTasksAllRunning (records : Records) (cell : Cell) (rootID : String) : Bool :=
  decide (Running records rootID) &&
    (cell.spec.containers.filter (!·.root)).all fun spec =>
      trimSpace spec.containerdID != "" && decide (Running records (trimSpace spec.containerdID))

section Starting

variable (digest : ContainerSpecHashPayload → String)

def startChild (records : Records) (spec : ContainerSpec) : Except LaunchError Records :=
  if spec.containerdID = "" then .error (.emptyContainerdID spec.id) else launch digest records spec

/-- `StartCell`, where the operations of containerd and the network succeed. -/
def startRecords (host : ProvisionHost) (records : Records) (cell : Cell) :
    Except LaunchError Records := do
  let rootID ← (rootContainerdID (cellNames cell)).mapError fun cause => .write (.provision cause)
  if cellTasksAllRunning records cell rootID then return records
  let root ← (ensureCellRootContainerSpec host cell).mapError fun cause => .write (.provision cause)
  let rooted ← launch digest records { root with containerdID := rootID }
  (cell.spec.containers.filter (!·.root)).foldlM (startChild digest) rooted

/-- `RecreateCell`: the containers are deleted, created from the document and started. -/
def recreateRecords (host : ProvisionHost) (records : Records) (existing desired : Cell) :
    Except LaunchError (Cell × Records) := do
  let names :=
    { (cellNames existing).trimScope with
      cellID := orElse existing.spec.id existing.metadata.name }
  let rootID ← (rootContainerdID names).mapError fun cause => .write (.provision cause)
  let (stored, _) ← (recreateCell host records.ids existing desired).mapError .write
  let created := stored.spec.containers.foldl (ensureRecord digest)
    (records.keep (deleteCellContainers existing rootID records.ids))
  let started ← startRecords digest host created (persistedCell stored)
  return (stored, started)

end Starting

/-- The containers that `StopCell` stops. -/
def stops (cell : Cell) (id : String) : Bool :=
  decide (id ∈ cell.spec.containers.map ContainerSpec.containerdID) ||
    decide (rootContainerdID (cellNames cell) = .ok id)

def stopRecords (cell : Cell) (records : Records) : Records :=
  records.map fun entry =>
    (entry.1, if stops cell entry.1 then { entry.2 with running := false } else entry.2)

theorem Records.lookup_map (records : Records) (f : String → ContainerRecord → ContainerRecord)
    (id : String) :
    List.lookup id (records.map fun entry => (entry.1, f entry.1 entry.2)) =
      (records.lookup id).map (f id) := by
  induction records with
  | nil => rfl
  | cons entry rest ih =>
    obtain ⟨key, record⟩ := entry
    by_cases hs : id = key
    · subst hs
      simp
    · have hd : (id == key) = false := by simpa using hs
      simp [List.lookup_cons, hd, ih]

section Stamps

variable {digest : ContainerSpecHashPayload → String} {records after : Records}
  {spec other : ContainerSpec}

variable (digest records) in
/-- The container of the spec is there under a stamp that refuses it. -/
def Refused (spec : ContainerSpec) : Prop :=
  ∃ record, records.lookup spec.containerdID = some record ∧
    classifySpecHashReuse record (computeContainerSpecHash digest spec) = .refuse

variable (digest records) in
/-- The container of the spec, if it is there under a current stamp, has the stamp of the spec. -/
def StampedAs (spec : ContainerSpec) : Prop :=
  ∀ record, records.lookup spec.containerdID = some record →
    record.specHashVersion = specHashDomainVersion →
      record.specHash = computeContainerSpecHash digest spec

theorem classifySpecHashReuse_eq_refuse {record : ContainerRecord} {hash : String} :
    classifySpecHashReuse record hash = .refuse ↔
      record.specHashVersion = specHashDomainVersion ∧ record.specHash ≠ "" ∧
        record.specHash ≠ hash := by
  unfold classifySpecHashReuse
  split
  · next old => simp [old]
  · next hc =>
      split
      · next hd => simp [not_not.mp hc, hd]
      · next ha =>
          simp only [reduceCtorEq, false_iff]
          rintro ⟨_, hd⟩
          exact ha hd

theorem StampedAs.not_refused (hs : StampedAs digest records spec) :
    ¬ Refused digest records spec := by
  rintro ⟨record, hf, hr⟩
  obtain ⟨hc, _, hd⟩ := classifySpecHashReuse_eq_refuse.mp hr
  exact hd (hs record hf hc)

theorem Refused.congr (hsi : other.containerdID = spec.containerdID)
    (hs : specHashPayload other = specHashPayload spec) :
    Refused digest records other ↔ Refused digest records spec := by
  unfold Refused computeContainerSpecHash
  rw [hsi, hs]

theorem StampedAs.congr (hsi : other.containerdID = spec.containerdID)
    (hs : specHashPayload other = specHashPayload spec) :
    StampedAs digest records other ↔ StampedAs digest records spec := by
  unfold StampedAs computeContainerSpecHash
  rw [hsi, hs]

theorem launch_of_refused (hr : Refused digest records spec) :
    launch digest records spec = .error (.specHashDrift spec.containerdID) := by
  obtain ⟨record, hf, hrf⟩ := hr
  simp [launch, hf, hrf]

theorem launch_of_not_refused (ha : ¬ Refused digest records spec) :
    ∃ after, launch digest records spec = .ok after := by
  unfold launch
  split
  · exact ⟨_, rfl⟩
  · next record hf =>
      rw [if_neg fun hr => ha ⟨record, hf, hr⟩]
      exact ⟨_, rfl⟩

/-- A record that was in order is in order once its task is started again. -/
theorem specHash_launched {record : ContainerRecord}
    (hs : record.specHashVersion = specHashDomainVersion →
      record.specHash = computeContainerSpecHash digest spec)
    (hc : (launched digest spec record).specHashVersion = specHashDomainVersion) :
    (launched digest spec record).specHash = computeContainerSpecHash digest spec := by
  unfold launched at hc ⊢
  cases ha : classifySpecHashReuse record (computeContainerSpecHash digest spec) with
  | restamp => rfl
  | reuseAsIs =>
    rw [ha] at hc
    exact hs hc
  | refuse =>
    rw [ha] at hc
    exact hs hc

/-- A launch leaves the stamps of the specs that agree with its own in order. -/
theorem StampedAs.launch (hst : StampedAs digest records spec)
    (hs : launch digest records other = .ok after)
    (hsh : other.containerdID = spec.containerdID →
      specHashPayload other = specHashPayload spec) :
    StampedAs digest after spec := by
  by_cases hsm : other.containerdID = spec.containerdID
  · rw [← StampedAs.congr hsm (hsh hsm)] at hst ⊢
    unfold Runner.launch at hs
    split at hs
    · obtain rfl := Except.ok.inj hs
      intro record hf _
      simp only [List.lookup_cons_self, Option.some.injEq] at hf
      rw [← hf]
      rfl
    · next old ht =>
        split at hs
        · cases hs
        · obtain rfl := Except.ok.inj hs
          intro record hf hc
          rw [Records.lookup_map_own, ht] at hf
          simp only [Option.map_some, if_true, Option.some.injEq] at hf
          subst hf
          exact specHash_launched (hst old ht) hc
  · intro record hf
    rw [(Records.lookup_launch hs).2 _ (Ne.symm hsm)] at hf
    exact hst record hf

/-- A loop of launches of different containers is refused exactly where one of them is. -/
theorem launches_error_iff {specs : List ContainerSpec}
    (hd : (specs.map ContainerSpec.containerdID).Nodup) :
    (∃ spec ∈ specs, Refused digest records spec) ↔
      ∃ id, specs.foldlM (launch digest) records = .error (.specHashDrift id) := by
  induction specs generalizing records with
  | nil => simp [pure, Except.pure]
  | cons first rest ih =>
    rw [List.map_cons, List.nodup_cons] at hd
    rw [List.foldlM_cons]
    by_cases hr : Refused digest records first
    · simp [launch_of_refused hr, hr, bind, Except.bind]
    · obtain ⟨next, hl⟩ := launch_of_not_refused hr
      have ho : ∀ spec ∈ rest, Refused digest records spec ↔ Refused digest next spec := by
        intro spec hm
        have ha : spec.containerdID ≠ first.containerdID := fun hs =>
          hd.1 (List.mem_map.mpr ⟨spec, hm, hs⟩)
        unfold Refused
        rw [(Records.lookup_launch hl).2 _ ha]
      simp only [hl, bind, Except.bind, List.mem_cons, exists_eq_or_imp, hr, false_or]
      rw [← ih hd.2]
      exact exists_congr fun spec => and_congr_right fun hm => ho spec hm

end Stamps

/-- A cell that reads back from its document and stands in its namespace, root included, and whose
    root can be resolved at all. -/
structure Installed (cell : Cell) (records : Records) : Prop extends Deployed cell where
  read : ApiScheme.resolveCellRootContainer cell.spec = .ok cell.spec.rootContainerID
  rooted : ∀ container ∈ cell.spec.containers, container.root = true →
    container.containerdID ∈ records.ids
  resolves : ∃ host root, ensureCellRootContainerSpec host cell = .ok root

section Guards

variable {digest : ContainerSpecHashPayload → String} {cell : Cell} {records : Records}

theorem resolveCellRootContainer_marked {spec : CellSpec} {root : ContainerSpec} {id : String}
    (hr : ApiScheme.resolveCellRootContainer spec = .ok id)
    (hm : root ∈ spec.containers) (hmr : root.root = true) :
    id = root.id ∧ ∀ container ∈ spec.containers, container.root = true → container = root := by
  have hi : root ∈ spec.containers.filter ContainerSpec.root := by
    simp [List.mem_filter, hm, hmr]
  have hs : spec.containers.filter ContainerSpec.root = [root] := by
    cases hmn : spec.containers.filter ContainerSpec.root with
    | nil => simp [hmn] at hi
    | cons first rest =>
      cases rest with
      | nil =>
        rw [hmn, List.mem_singleton] at hi
        rw [hi]
      | cons second others =>
        simp [ApiScheme.resolveCellRootContainer, hmn] at hr
  constructor
  · simp only [ApiScheme.resolveCellRootContainer, hs, List.map_cons, List.map_nil,
      List.length_singleton, gt_iff_lt, lt_irrefl, if_false] at hr
    split at hr
    · split at hr
      · cases hr
      · split at hr
        · cases hr
        · next ha =>
            rw [← Except.ok.inj hr]
            exact (not_not.mp ha).symm
    · exact (Except.ok.inj hr).symm
  · intro container hic hir
    have him : container ∈ spec.containers.filter ContainerSpec.root := by
      simp [List.mem_filter, hic, hir]
    rw [hs, List.mem_singleton] at him
    exact him

namespace Installed

/-- The one container marked as the root is the one that the cell names. -/
theorem exists_root (hi : Installed cell records) :
    ∃ root ∈ cell.spec.containers, root.root = true ∧
      rootContainerdID (cellNames cell) = .ok root.containerdID ∧
      cell.spec.rootContainerID = root.id ∧
      ∀ container ∈ cell.spec.containers, container.root = true → container = root := by
  obtain ⟨root, hm, hmr, hr⟩ := hi.root
  obtain ⟨hn, ho⟩ := resolveCellRootContainer_marked hi.read hm hmr
  exact ⟨root, hm, hmr, hr, hn, ho⟩

end Installed

theorem payload_of_unstamped {container other : ContainerSpec}
    (hs : unstamped container = unstamped other) :
    specHashPayload container = specHashPayload other := by
  have hp : specHashPayload (unstamped container) = specHashPayload (unstamped other) := by
    rw [hs]
  exact hp

variable {host : ProvisionHost}

/-- The root that a start resolves hashes like the container it is resolved from. -/
theorem payload_chosenRoot {resolved : ContainerSpec} (hg : cell.spec.rootContainerID ≠ "")
    (hr : ensureCellRootContainerSpec host cell = .ok resolved) :
    ∃ chosen, (cell.spec.containers.find? fun container =>
        container.id = cell.spec.rootContainerID) = some chosen ∧
      specHashPayload resolved = specHashPayload chosen := by
  obtain ⟨path, _, _, _, hrp, _⟩ := ensureCellRootContainerSpec_eq_ok.mp hr
  obtain ⟨chosen, hf, hs, _⟩ :=
    ensureCellRootContainerSpec_named hr hrp hg
  have hp : specHashPayload (unstamped resolved) =
      specHashPayload { unstamped chosen with root := true } := by rw [hs]
  exact ⟨chosen, hf, hp⟩

theorem payload_resolvedRoot (hd : Deployed cell) {root resolved : ContainerSpec}
    (hm : root ∈ cell.spec.containers) (hn : cell.spec.rootContainerID = root.id)
    (hr : ensureCellRootContainerSpec host cell = .ok resolved) :
    specHashPayload resolved = specHashPayload root := by
  have hg : cell.spec.rootContainerID ≠ "" := hn ▸ hd.named root hm
  obtain ⟨chosen, hf, hp⟩ := payload_chosenRoot hg hr
  have hfr := Keyed.first_of_mem hd.ids hm hn.symm
  obtain rfl := Option.some.inj (hf.symm.trans hfr)
  exact hp

theorem lookup_stopRecords (cell : Cell) (records : Records) (id : String) :
    (stopRecords cell records).lookup id = (records.lookup id).map fun record =>
      if stops cell id then { record with running := false } else record :=
  Records.lookup_map records
    (fun id record => if stops cell id then { record with running := false } else record) id

theorem refused_stopRecords (spec : ContainerSpec) :
    Refused digest (stopRecords cell records) spec ↔ Refused digest records spec := by
  have hl : ∀ record : ContainerRecord,
      classifySpecHashReuse
        (if stops cell spec.containerdID then { record with running := false } else record)
        (computeContainerSpecHash digest spec) =
      classifySpecHashReuse record (computeContainerSpecHash digest spec) := by
    intro record
    split <;> rfl
  simp only [Refused, lookup_stopRecords, Option.map_eq_some_iff]
  constructor
  · rintro ⟨_, ⟨record, hf, rfl⟩, hr⟩
    exact ⟨record, hf, hl record ▸ hr⟩
  · rintro ⟨record, hf, hr⟩
    exact ⟨_, ⟨record, hf, rfl⟩, (hl record).trans hr⟩

theorem foldlM_startChild {specs : List ContainerSpec}
    (hg : ∀ spec ∈ specs, spec.containerdID ≠ "") :
    specs.foldlM (startChild digest) records = specs.foldlM (launch digest) records := by
  induction specs generalizing records with
  | nil => rfl
  | cons spec rest ih =>
    simp only [List.mem_cons, forall_eq_or_imp] at hg
    rw [List.foldlM_cons, List.foldlM_cons, startChild, if_neg hg.1]
    exact bind_congr fun next => ih hg.2

/-- A cell that was stopped is started by launching its root and then its other containers. -/
theorem startRecords_stopped (hi : Installed cell records) {root resolved : ContainerSpec}
    (hr : rootContainerdID (cellNames cell) = .ok root.containerdID)
    (hrs : ensureCellRootContainerSpec host cell = .ok resolved) :
    startRecords digest host (stopRecords cell records) cell =
      ({ resolved with containerdID := root.containerdID } ::
        cell.spec.containers.filter (!·.root)).foldlM (launch digest) (stopRecords cell records) := by
  have hd : cellTasksAllRunning (stopRecords cell records) cell root.containerdID = false := by
    have hs : stops cell root.containerdID = true := by simp [stops, hr]
    have hn : ¬ Running (stopRecords cell records) root.containerdID := by
      rintro ⟨record, hf, hrn⟩
      rw [lookup_stopRecords, Option.map_eq_some_iff] at hf
      obtain ⟨before, _, rfl⟩ := hf
      simp [hs] at hrn
    simp [cellTasksAllRunning, hn]
  have hg : ∀ spec ∈ cell.spec.containers.filter (!·.root), spec.containerdID ≠ "" :=
    fun spec hm => hi.given spec (List.mem_filter.mp hm).1
  simp only [startRecords, hr, hrs, hd, Except.mapError, bind, Except.bind,
    List.foldlM_cons, Bool.false_eq_true, if_false]
  cases launch digest (stopRecords cell records)
      { resolved with containerdID := root.containerdID } with
  | error cause => rfl
  | ok next => exact foldlM_startChild hg

def Drifts (digest : ContainerSpecHashPayload → String) (cell : Cell) (records : Records) : Prop :=
  ∃ host id, startRecords digest host (stopRecords cell records) cell = .error (.specHashDrift id)

theorem drifts_iff (hi : Installed cell records) :
    Drifts digest cell records ↔
      ∃ container ∈ cell.spec.containers, Refused digest records container := by
  obtain ⟨root, hm, hmr, hri, hn, ho⟩ := hi.exists_root
  -- The specs that a start launches stand for the containers of the cell.
  have hs : ∀ {resolved : ContainerSpec} {host : ProvisionHost},
      ensureCellRootContainerSpec host cell = .ok resolved →
      ((∃ spec ∈ { resolved with containerdID := root.containerdID } ::
          cell.spec.containers.filter (!·.root), Refused digest (stopRecords cell records) spec) ↔
        ∃ container ∈ cell.spec.containers, Refused digest records container) := by
    intro resolved host hr
    have hp := payload_resolvedRoot hi.toDeployed hm hn hr
    have hrr : Refused digest records { resolved with containerdID := root.containerdID } ↔
        Refused digest records root := Refused.congr rfl hp
    simp only [refused_stopRecords, List.mem_cons, exists_eq_or_imp, hrr, List.mem_filter]
    constructor
    · rintro (hrf | ⟨spec, ⟨hic, _⟩, hrf⟩)
      · exact ⟨root, hm, hrf⟩
      · exact ⟨spec, hic, hrf⟩
    · rintro ⟨container, hic, hrf⟩
      by_cases hir : container.root = true
      · obtain rfl := ho container hic hir
        exact .inl hrf
      · exact .inr ⟨container, ⟨hic, by simpa using hir⟩, hrf⟩
  have hd : ∀ resolved : ContainerSpec,
      (({ resolved with containerdID := root.containerdID } ::
        cell.spec.containers.filter (!·.root)).map ContainerSpec.containerdID).Nodup := by
    intro resolved
    rw [List.map_cons, List.nodup_cons]
    refine ⟨?_, hi.containerdIDs.sublist (List.filter_sublist.map _)⟩
    intro ht
    obtain ⟨spec, hin, hsm⟩ := List.mem_map.mp ht
    obtain ⟨hic, hc⟩ := List.mem_filter.mp hin
    obtain rfl := List.inj_on_of_nodup_map hi.containerdIDs hic hm hsm
    simp [hmr] at hc
  constructor
  · rintro ⟨host, id, hf⟩
    cases hr : ensureCellRootContainerSpec host cell with
    | error cause =>
      simp only [startRecords, hri, hr, Except.mapError, bind, Except.bind] at hf
      split at hf
      · cases hf
      · cases hf
    | ok resolved =>
      rw [startRecords_stopped hi hri hr] at hf
      exact (hs hr).mp ((launches_error_iff (hd resolved)).mpr ⟨id, hf⟩)
  · intro hrf
    obtain ⟨host, resolved, hr⟩ := hi.resolves
    obtain ⟨id, hf⟩ := (launches_error_iff (hd resolved)).mp ((hs hr).mpr hrf)
    exact ⟨host, id, (startRecords_stopped hi hri hr).trans hf⟩

end Guards

end Kukeon.Runner
