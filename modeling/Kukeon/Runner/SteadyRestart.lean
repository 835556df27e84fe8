import Kukeon.Runner.SpecHashDrift

/-! # Restarts without an edit

A cell is created with a stamp on every container, its document is stored, and from then on it is
stopped and started. The stamp is taken of the spec as creating completes it, and every start compares
it with the hash of the spec as it is read back from the document and prepared for the start.
-/

namespace Kukeon.Runner.SteadyRestart

open ModelHub GoText Runs

/-- The specs whose hashes `StartCell` compares with the stamps: the root, and the other containers
    with the paths of their etc files. -/
def startSpecs (host : ProvisionHost) (cell : Cell) : Except ProvisionError (List ContainerSpec) := do
  let rootID ← rootContainerdID (cellNames cell)
  let root ← ensureCellRootContainerSpec host cell
  return { root with containerdID := rootID } ::
    (stampCellEtcFilePathsOnContainers host cell).spec.containers.filter (!·.root)

inductive Cycle where
  | start (host : ProvisionHost)
  | stop

def cycle (digest : ContainerSpecHashPayload → String) (cell : Cell) (records : Records) :
    Cycle → Records
  | .start host => (startRecords digest host records cell).toOption.getD records
  | .stop => stopRecords cell records

/-- The namespace with the containers of a cell that was created. -/
def createdRecords (digest : ContainerSpecHashPayload → String) (records : Records) (created : Cell) :
    Records :=
  created.spec.containers.foldl (ensureRecord digest) records

theorem rootContainerdID_trimScope (names : CellNames) :
    rootContainerdID names.trimScope = rootContainerdID names := by
  unfold rootContainerdID
  simp only [Ctr.buildRootContainerdID, Ctr.joinNames, CellNames.trimScope, List.map_cons,
    trimSpace_trimSpace]

/-- The document of a cell whose containers have ids of their own in the namespace, none of them
    blank, and whose root is the first container of the name it gives, under the root's id. -/
structure Documented (cell : Cell) : Prop where
  containerdIDs : (cell.spec.containers.map ContainerSpec.containerdID).Nodup
  rooted : cell.spec.rootContainerID ≠ ""
  root : ∃ root, (cell.spec.containers.find? fun container =>
      container.id = cell.spec.rootContainerID) = some root ∧
    rootContainerdID (cellNames cell) = .ok root.containerdID

variable {host : ProvisionHost}

theorem rootID_of_created {cell : Cell} {root : ContainerSpec}
    (hm : ensureCellRootContainerSpec host cell = .ok root) :
    root.id ≠ "" ∧ orElse cell.spec.rootContainerID root.id = root.id := by
  obtain ⟨path, _, _, _, hr, _⟩ := ensureCellRootContainerSpec_eq_ok.mp hm
  by_cases hu : cell.spec.rootContainerID = ""
  · obtain ⟨hi, _⟩ := ensureCellRootContainerSpec_default hm hu
    rw [hi, hu]
    exact ⟨by decide, rfl⟩
  · obtain ⟨_, _, _, hs, _⟩ := ensureCellRootContainerSpec_named hm hr hu
    rw [hs, orElse, if_neg hu]
    exact ⟨hu, rfl⟩

theorem createCell_eq_ok {host : CreateHost} {live made : List String} {cell created : Cell}
    (hc : createCell host live cell = .ok (created, made)) :
    ∃ source built, createCellContainers host.toProvisionHost live source = .ok (built, made) ∧
      created = markCellReady built ∧
      ∃ root, ApiScheme.resolveCellRootContainer created.spec = .ok root := by
  simp only [createCell, provisionNewCell, storable, Outcome.bind_eq_ok, Outcome.mapError_eq_ok,
    Outcome.pure_eq_ok] at hc
  obtain ⟨-, -, containers, -, -, -, stub, -, cgroup, -, ⟨built, all⟩, hb, stored,
    ⟨doc, hw, rfl⟩, hs⟩ := hc
  obtain ⟨rfl, rfl⟩ := Prod.mk.inj hs
  obtain ⟨root, hr, -⟩ := ApiScheme.buildCell_eq_ok hw
  exact ⟨_, built, hb, rfl, root, hr⟩

theorem resolvedRoot_of_named {spec : CellSpec} {id : String} (hg : spec.rootContainerID ≠ "")
    (hr : ApiScheme.resolveCellRootContainer spec = .ok id) :
    ApiScheme.resolvedRoot spec = spec.rootContainerID := by
  have hs : id = spec.rootContainerID := by
    simp only [ApiScheme.resolveCellRootContainer] at hr
    rw [if_pos hg] at hr
    split at hr
    · cases hr
    split at hr
    · cases hr
    split at hr
    · split at hr
      · cases hr
      · exact (Except.ok.inj hr).symm
    · exact (Except.ok.inj hr).symm
  unfold ApiScheme.resolvedRoot
  rw [hr]
  exact hs

theorem documented_created {host : CreateHost} {live made : List String} {cell created : Cell}
    (hc : createCell host live cell = .ok (created, made)) :
    Documented (persistedCell created) := by
  obtain ⟨source, built, hb, rfl, id, hrs⟩ := createCell_eq_ok hc
  obtain ⟨space, path, rootID, root, -, -, hri, hm, hsm, he, hd, -⟩ :=
    createCellContainers_spec hb
  obtain ⟨hn, hsr⟩ := rootID_of_created hm
  have hr : built.spec.rootContainerID = root.id := by
    rw [hsm]
    exact hsr
  have hg : (markCellReady built).spec.rootContainerID ≠ "" := by
    intro hbl
    exact hn (hr.symm.trans hbl)
  have hs : (persistedCell (markCellReady built)).spec.rootContainerID = root.id :=
    (resolvedRoot_of_named hg hrs).trans hr
  refine ⟨by rw [persistedCell_containerdIDs]; exact hd, by rw [hs]; exact hn, ?_⟩
  -- The root was put first among the containers of its name, and kept its id.
  obtain ⟨placed, hf, hmk⟩ := Outcome.find?_of_forall₂
    (q := fun container => decide (container.id = root.id)) he
    (fun container result hmk => by rw [hmk.toBuiltFrom.id]) Keyed.find?_upsert_self
  have hrd : (persistedCell (markCellReady built)).spec.containers =
      built.spec.containers.map fun container => (ApiScheme.storedContainer container).deref :=
    List.map_map
  refine ⟨(ApiScheme.storedContainer placed).deref, ?_, ?_⟩
  · rw [hs, hrd, List.find?_map]
    exact congrArg (Option.map _) hf
  · have hnm : rootContainerdID (cellNames (persistedCell (markCellReady built))) =
        rootContainerdID (cellNames source) := by
      rw [hsm]
      rfl
    rw [hnm, ← rootContainerdID_trimScope]
    by_cases hbl : rootID = ""
    · have ha := hmk.assigned hbl
      rw [if_pos ⟨fun hnn => hn (hr.symm.trans hnn), hr.symm⟩] at ha
      exact ha
    · rw [hri]
      exact congrArg Except.ok (hmk.containerdID hbl).symm

/-- The spec has the containerd id and the hash of a container of the cell. -/
def Stands (cell : Cell) (spec : ContainerSpec) : Prop :=
  ∃ container ∈ cell.spec.containers, spec.containerdID = container.containerdID ∧
    specHashPayload spec = specHashPayload container

variable {digest : ContainerSpecHashPayload → String} {cell : Cell} {records after : Records}

variable (digest) in
/-- Every container of the cell that is there has the stamp of its spec, of the current version. -/
def Fits (cell : Cell) (records : Records) : Prop :=
  ∀ container ∈ cell.spec.containers, ∀ record,
    records.lookup container.containerdID = some record →
      record.specHashVersion = specHashDomainVersion ∧
        record.specHash = computeContainerSpecHash digest container

theorem Fits.reuses (hft : Fits digest cell records) {spec : ContainerSpec}
    (hst : Stands cell spec) {record : ContainerRecord}
    (hf : records.lookup spec.containerdID = some record) :
    classifySpecHashReuse record (computeContainerSpecHash digest spec) = .reuseAsIs := by
  obtain ⟨container, hm, hsi, hs⟩ := hst
  rw [hsi] at hf
  obtain ⟨hc, hsm⟩ := hft container hm record hf
  have hsh : record.specHash = computeContainerSpecHash digest spec := by
    rw [hsm, computeContainerSpecHash, computeContainerSpecHash, hs]
  unfold classifySpecHashReuse
  rw [if_neg (not_not.mpr hc), if_neg fun hd => hd.2 hsh]

/-- A launch finds the stamp in order, or creates the container with its own. -/
theorem Fits.launch (hft : Fits digest cell records)
    (hd : (cell.spec.containers.map ContainerSpec.containerdID).Nodup) {spec : ContainerSpec}
    (hst : Stands cell spec) :
    ∃ after, Runner.launch digest records spec = .ok after ∧ Fits digest cell after := by
  have ha : ¬ Refused digest records spec := by
    rintro ⟨record, hf, hr⟩
    rw [hft.reuses hst hf] at hr
    cases hr
  obtain ⟨after, hl⟩ := launch_of_not_refused ha
  refine ⟨after, hl, ?_⟩
  intro container hm record hf
  obtain ⟨own, hi, hsi, hs⟩ := hst
  by_cases hsm : container.containerdID = spec.containerdID
  · obtain rfl : container = own :=
      List.inj_on_of_nodup_map hd hm hi (hsm.trans hsi)
    have hsh : computeContainerSpecHash digest spec = computeContainerSpecHash digest container :=
      congrArg digest hs
    rw [hsm] at hf
    unfold Runner.launch at hl
    split at hl
    · obtain rfl := Except.ok.inj hl
      simp only [List.lookup_cons_self, Option.some.injEq] at hf
      rw [← hf]
      exact ⟨rfl, hsh⟩
    · next old ht =>
        split at hl
        · cases hl
        · obtain rfl := Except.ok.inj hl
          have hrs := hft.reuses ⟨container, hi, hsi, hs⟩ ht
          rw [Records.lookup_map_own, ht] at hf
          simp only [Option.map_some, if_true, Option.some.injEq, launched, hrs] at hf
          rw [← hf]
          exact hft container hm old (hsm ▸ ht)
  · rw [(Records.lookup_launch hl).2 _ hsm] at hf
    exact hft container hm record hf

/-- Starting containers of the cell keeps the stamps in order and is not refused over one. -/
theorem Fits.children (hft : Fits digest cell records)
    (hd : (cell.spec.containers.map ContainerSpec.containerdID).Nodup)
    {specs : List ContainerSpec} (hs : ∀ spec ∈ specs, Stands cell spec) :
    (∀ after, specs.foldlM (startChild digest) records = .ok after → Fits digest cell after) ∧
      ∀ id, specs.foldlM (startChild digest) records ≠ .error (.specHashDrift id) := by
  induction specs generalizing records with
  | nil =>
    refine ⟨?_, ?_⟩
    · rintro after ⟨⟩
      exact hft
    · rintro id ⟨⟩
  | cons spec rest ih =>
    simp only [List.mem_cons, forall_eq_or_imp] at hs
    rw [List.foldlM_cons, startChild]
    split
    · constructor <;> rintro _ ⟨⟩
    · obtain ⟨next, hl, hf⟩ := hft.launch hd hs.1
      rw [hl]
      exact ih hf hs.2

/-- The root that a start resolves stands for the root of the document. -/
theorem Documented.root_stands (hd : Documented cell) {rootID : String}
    {resolved : ContainerSpec} (hri : rootContainerdID (cellNames cell) = .ok rootID)
    (hr : ensureCellRootContainerSpec host cell = .ok resolved) :
    Stands cell { resolved with containerdID := rootID } := by
  obtain ⟨root, hfn, hi⟩ := hd.root
  obtain ⟨chosen, hf, hp⟩ := payload_chosenRoot hd.rooted hr
  obtain rfl := Option.some.inj (hf.symm.trans hfn)
  exact ⟨chosen, List.mem_of_find?_eq_some hfn, Except.ok.inj (hri.symm.trans hi), hp⟩

theorem stands_of_startSpecs (hd : Documented cell) {specs : List ContainerSpec}
    (hc : startSpecs host cell = .ok specs) : ∀ spec ∈ specs, Stands cell spec := by
  simp only [startSpecs, Outcome.bind_eq_ok, Outcome.pure_eq_ok] at hc
  obtain ⟨rootID, hri, resolved, hr, rfl⟩ := hc
  intro spec hm
  rcases List.mem_cons.mp hm with rfl | hch
  · exact hd.root_stands hri hr
  · -- The paths that are stamped on a child are not part of its hash.
    obtain ⟨original, hi, rfl⟩ := List.mem_map.mp (List.mem_filter.mp hch).1
    exact ⟨original, hi, rfl, rfl⟩

theorem Fits.start (hft : Fits digest cell records) (hd : Documented cell)
    (host : ProvisionHost) :
    (∀ after, startRecords digest host records cell = .ok after → Fits digest cell after) ∧
      ∀ id, startRecords digest host records cell ≠ .error (.specHashDrift id) := by
  unfold startRecords
  cases hri : rootContainerdID (cellNames cell) with
  | error cause => constructor <;> rintro _ ⟨⟩
  | ok rootID =>
    simp only [Except.mapError, bind, Except.bind]
    split
    · refine ⟨?_, fun _ h => by cases h⟩
      rintro after ⟨⟩
      exact hft
    · cases hr : ensureCellRootContainerSpec host cell with
      | error cause => constructor <;> rintro _ ⟨⟩
      | ok resolved =>
        obtain ⟨next, hl, hf⟩ :=
          hft.launch hd.containerdIDs (hd.root_stands hri hr)
        simp only [hl]
        refine hf.children hd.containerdIDs ?_
        intro spec hc
        exact ⟨spec, (List.mem_filter.mp hc).1, rfl, rfl⟩

theorem Fits.stop (hft : Fits digest cell records) : Fits digest cell (stopRecords cell records) := by
  intro container hm record hf
  rw [lookup_stopRecords, Option.map_eq_some_iff] at hf
  obtain ⟨before, ht, rfl⟩ := hf
  split
  · exact hft container hm before ht
  · exact hft container hm before ht

theorem Fits.cycle (hf : Fits digest cell records) (hd : Documented cell) (turn : Cycle) :
    Fits digest cell (cycle digest cell records turn) := by
  cases turn with
  | stop => exact hf.stop
  | start host =>
    simp only [SteadyRestart.cycle]
    cases hs : startRecords digest host records cell with
    | error cause => exact hf
    | ok after => exact (hf.start hd host).1 after hs

theorem fits_created {host : CreateHost} {made : List String} {source created : Cell}
    (hc : createCell host records.ids source = .ok (created, made)) :
    Fits digest (persistedCell created) (createdRecords digest records created) := by
  obtain ⟨source, built, hb, rfl, -⟩ := createCell_eq_ok hc
  obtain ⟨-, -, -, -, -, -, -, -, -, -, hd, -⟩ := createCellContainers_spec hb
  intro container hm record hf
  obtain ⟨original, hi, hsi, hs⟩ := mem_persistedCell hm
  have hfr : records.lookup original.containerdID = none := by
    rw [Option.eq_none_iff_forall_ne_some]
    intro record ht
    exact createCellContainers_fresh hb original hi (Records.mem_ids_iff.mpr ⟨record, ht⟩)
  have own : ((markCellReady built).spec.containers.find? fun spec =>
      spec.containerdID = original.containerdID) = some original :=
    Keyed.first_of_mem hd hi rfl
  rw [hsi, createdRecords, Records.lookup_ensured, hfr, own, Option.none_or, Option.map_some,
    Option.some.injEq] at hf
  rw [← hf]
  exact ⟨rfl, congrArg digest hs.symm⟩

/-- For every cell that `CreateCell` has created, and however often it is started and stopped since:
    the next start finds every container that is there under the hash of the spec it reads back, and
    is not refused over a stamp. -/
theorem restart_reuses (digest : ContainerSpecHashPayload → String) (host : CreateHost)
    (records : Records) (cell created : Cell) (made : List String)
    (creates : createCell host records.ids cell = .ok (created, made)) (cycles : List Cycle)
    (startHost : ProvisionHost) :
    let now := run (cycle digest (persistedCell created)) (createdRecords digest records created) cycles
    (∀ specs, startSpecs startHost (persistedCell created) = .ok specs →
      ∀ spec ∈ specs, ∀ record, now.lookup spec.containerdID = some record →
        record.specHash = computeContainerSpecHash digest spec ∧
          classifySpecHashReuse record (computeContainerSpecHash digest spec) = .reuseAsIs) ∧
      ∀ id, startRecords digest startHost now (persistedCell created) ≠
        .error (.specHashDrift id) := by
  have hd := documented_created creates
  intro now
  have hft : Fits digest (persistedCell created) now := by
    unfold now
    induction cycles using List.reverseRecOn with
    | nil => exact fits_created creates
    | append_singleton turns turn ih =>
      rw [run_concat]
      exact ih.cycle hd turn
  refine ⟨?_, (hft.start hd startHost).2⟩
  intro specs hc spec hm record hf
  have hst := stands_of_startSpecs hd hc spec hm
  refine ⟨?_, hft.reuses hst hf⟩
  obtain ⟨container, hi, hsi, hs⟩ := hst
  rw [hsi] at hf
  rw [(hft container hi record hf).2]
  exact congrArg digest hs.symm

def harborHost : CreateHost :=
  { quayHost with
    guardDiskPressure := fun _ => .ok ()
    createCellCgroup := fun _ => .ok ("/kukeon/r/s/t/harbor", [])
    cellSpaceBridgeName := fun _ => none }

def harborCell : Cell :=
  { metadata.name := "harbor"
    spec.id := "harbor"
    spec.realmName := "r"
    spec.spaceName := "s"
    spec.stackName := "t"
    spec.containers := [{ id := "app", image := "nginx", user := "1000" }] }

def harborCreated : Cell × List String :=
  (createCell harborHost [] harborCell).toOption.getD ({}, [])

/-- The cell is created, started and stopped; the next start reuses both of its containers. -/
theorem harbor_restart_reuses :
    createCell harborHost [] harborCell = .ok harborCreated ∧
      let now := run (cycle quayDigest (persistedCell harborCreated.1))
        (createdRecords quayDigest [] harborCreated.1) [.start quayHost, .stop]
      (now.ids = ["s_t_harbor_root", "s_t_harbor_app"] ∧
        ∀ specs, startSpecs quayHost (persistedCell harborCreated.1) = .ok specs →
          ∀ spec ∈ specs, ∀ record, now.lookup spec.containerdID = some record →
            record.specHash = computeContainerSpecHash quayDigest spec ∧
              classifySpecHashReuse record (computeContainerSpecHash quayDigest spec) =
                .reuseAsIs) ∧
        ∀ id, startRecords quayDigest quayHost now (persistedCell harborCreated.1) ≠
          .error (.specHashDrift id) := by
  have hc : createCell harborHost [] harborCell = .ok harborCreated := by decide +kernel
  have hr := restart_reuses quayDigest harborHost [] harborCell harborCreated.1 harborCreated.2
    hc [.start quayHost, .stop] quayHost
  exact ⟨hc, ⟨by decide +kernel, hr.1⟩, hr.2⟩

end Kukeon.Runner.SteadyRestart
