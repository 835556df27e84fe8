import Kukeon.Runner.OwedRestarts
import Kukeon.Runner.StartFaults
import Kukeon.Runner.SteadyRestart

/-! # A start that fails leaves nothing running

Once `StartCell` has begun to provision, every failure runs `markCellFailed`, which stamps the cell
failed, kills it and stamps it again. The kill looks the root up in the document; the start has built
its identifier from the names of the cell.
-/

open Std.Do

set_option mvcgen.warning false

namespace Kukeon.Runner.StartAtomicity

open ModelHub GoText ApiScheme Effect StartFaults

def signalled (trace : List Event) : List String :=
  trace.flatMap fun event =>
    match event with
    | .killed ids => ids
    | _ => []

variable {id : String} {records : Records}

theorem running_ended {ids : List String} :
    Running (StartFaults.Records.ended records ids) id ↔ Running records id ∧ id ∉ ids := by
  unfold Running StartFaults.Records.ended
  rw [Records.lookup_map records fun key record =>
    if key ∈ ids then { record with running := false } else record]
  cases records.lookup id with
  | none => simp
  | some record =>
    by_cases hit : id ∈ ids
    · simp [hit]
    · simp [hit]

theorem running_hear {event : Event} :
    Running (hear records event) id ↔ Running records id ∧ id ∉ signalled [event] := by
  cases event with
  | killed ids =>
    unfold hear
    rw [running_ended]
    simp [signalled]
  | _ => simp [hear, signalled]

theorem running_heard {trace : List Event} :
    Running (trace.foldl hear records) id ↔ Running records id ∧ id ∉ signalled trace := by
  induction trace generalizing records with
  | nil => simp [signalled]
  | cons event rest ih =>
    rw [List.foldl_cons, ih, running_hear]
    simp [signalled, and_assoc]

theorem yields_of_triple {σ ε α : Type} {p : σ → Prop} {m : Effect σ ε α} {q : α → σ → Prop}
    (ht : ⦃fun s => ⌜p s⌝⦄ m ⦃post⟨fun a s => ⌜q a s⌝, fun _ _ => ⌜False⌝⟩⦄) {s : σ}
    (hh : p s) : ∃ a t, Yields m s a t ∧ q a t := by
  obtain ⟨hs, hf⟩ := of_triple ht hh
  cases he : ending m s with
  | ok a => exact ⟨a, finalState m s, Prod.ext he rfl, hs a he⟩
  | error e => exact (hf e he).elim

/-- A document as a write leaves it: it reads back as it is and can be written again. -/
structure Recorded (doc : Cell) : Prop where
  stored : (storedSpec doc.spec).deref = doc.spec
  resolves : ∃ root, resolveCellRootContainer doc.spec = .ok root

/-- The cell of the document, in whatever status and with the environment of one run. -/
structure IsCell (doc cell : Cell) : Prop where
  metadata : cell.metadata = doc.metadata
  spec : ∃ env, cell.spec = { doc.spec with runtimeEnv := env }

/-- The document of the cell is there and can be written, and these containers were signalled since
    the trace began with `base`. -/
structure At (doc : Cell) (base : List Event) (sent : List String) (host : CellHost) : Prop where
  there : ∃ stored, host.disk = some stored ∧ stored.metadata = doc.metadata ∧
    stored.spec = doc.spec
  writes : ∀ n, host.diskFault n = none
  trace : ∃ since, host.trace = base ++ since ∧ signalled since = sent

def Shows (cell : Cell) (host : CellHost) : Prop :=
  ∃ stored, host.disk = some stored ∧
    stored.status = statusWithoutSetup (stampCellLifecycle host.now cell).status

section Document

-- The checks for blank names are never evaluated below.
attribute [local irreducible] trimSpace

variable {doc cell : Cell} {base : List Event} {sent : List String} {host : CellHost}

theorem At.counted (hh : At doc base sent host) (n : Nat) :
    At doc base sent { host with attempts := n } :=
  ⟨hh.there, hh.writes, hh.trace⟩

theorem At.logged (hh : At doc base sent host) (event : Event) :
    At doc base (sent ++ signalled [event]) (host.logged event) := by
  obtain ⟨since, hg, hhr⟩ := hh.trace
  refine ⟨hh.there, hh.writes, since ++ [event], ?_, ?_⟩
  · simp [CellHost.logged, hg]
  · simp [signalled, ← hhr]

theorem At.written (hh : At doc base sent host) {stored : Cell}
    (hm : stored.metadata = doc.metadata) (hs : stored.spec = doc.spec) :
    At doc base sent (host.written stored) := by
  have hl := hh.logged (.wrote stored host.derived)
  refine ⟨⟨stored, rfl, hm, hs⟩, hl.writes, ?_⟩
  simpa [signalled, CellHost.written] using hl.trace

theorem requireCoordinates_isCell (hi : IsCell doc cell) :
    requireCoordinates cell = requireCoordinates doc := by
  obtain ⟨env, hs⟩ := hi.spec
  unfold requireCoordinates
  rw [hi.metadata, hs]

theorem getCell_at (read : CellRead) (hi : IsCell doc cell) (base : List Event)
    (sent : List String) :
    ⦃fun host => ⌜At doc base sent host⌝⦄ getCell read cell
    ⦃post⟨fun loaded host => ⌜At doc base sent host ∧ loaded.metadata = doc.metadata ∧
          loaded.spec = doc.spec ∧ read.fault = none ∧ requireCoordinates doc = .ok ()⌝,
      fun _ host => ⌜At doc base sent host ∧
        ¬ (read.fault = none ∧ requireCoordinates doc = .ok ())⌝⟩⦄ := by
  refine triple_of_runs fun host hh => ?_
  obtain ⟨stored, ho, hm, hs⟩ := hh.there
  rw [← requireCoordinates_isCell hi]
  rcases getCell_cases read cell host with ⟨err, -, run, hn⟩ | ⟨hc, hf, run⟩
  · simp [ending, finalState, run, hh, and_comm.not.mp hn]
  · simp [ending, finalState, run, ho, hh, hc, hf, hm, hs, populateCellContainerStatuses]

theorem reload_at (read : CellRead) (hi : IsCell doc cell) (base : List Event)
    (sent : List String) :
    ⦃fun host => ⌜At doc base sent host⌝⦄ reload read cell
    ⦃post⟨fun loaded host => ⌜At doc base sent host ∧ IsCell doc loaded⌝,
      fun _ _ => ⌜False⌝⟩⦄ := by
  have hl := getCell_at read hi base sent
  have hu : ∀ loaded : Cell, loaded.metadata = doc.metadata → loaded.spec = doc.spec →
      IsCell doc loaded := fun loaded hm hs => ⟨hm, doc.spec.runtimeEnv, hs⟩
  mvcgen [reload, attempt, hl]
  all_goals grind

def rootSignal (doc : Cell) : List String :=
  match getRootContainerContainerdID doc with
  | .ok id => [id]
  | .error _ => []

def killSignals (inputs : KillInputs) (doc : Cell) : List String :=
  if requireCoordinates doc = .ok () ∧ inputs.read.fault = none ∧ trimSpace doc.spec.id ≠ "" ∧
      inputs.reach = .ok () then
    workloadContainerdIDs doc.spec.containers ++ rootSignal doc
  else []

theorem signalContainers_at (hm : cell.metadata = doc.metadata) (hsp : cell.spec = doc.spec)
    (base : List Event) (sent : List String) :
    Leads (At doc base sent)
      (At doc base (sent ++ (workloadContainerdIDs doc.spec.containers ++ rootSignal doc)))
      (signalContainers cell) := by
  have hs : getRootContainerContainerdID cell = getRootContainerContainerdID doc := by
    unfold getRootContainerContainerdID
    rw [hm, hsp]
  have hl : ∀ (host : CellHost) (sent ids : List String), At doc base sent host →
      At doc base (sent ++ ids) (host.logged (.killed ids)) := by
    intro host sent ids hh
    simpa [signalled] using hh.logged (.killed ids)
  mvcgen [signalContainers, log, ofResult]
  all_goals grind [rootSignal]

theorem Shows.failed {reason message : String} (hsh : Shows (stampFailed reason message cell) host) :
    ∃ stored, host.disk = some stored ∧ stored.status.state = .failed ∧
      stored.status.reason = reason ∧ stored.status.message = message := by
  obtain ⟨stored, ho, hs⟩ := hsh
  refine ⟨stored, ho, ?_⟩
  rw [hs]
  exact ⟨rfl, rfl, rfl⟩

theorem getCell_yields_iff (ho : host.disk = some doc) {read : CellRead} {asked loaded : Cell}
    {after : CellHost} :
    Yields (getCell read asked) host loaded after ↔
      requireCoordinates asked = .ok () ∧ read.fault = none ∧
        loaded = populateCellContainerStatuses host.now read.survey doc ∧ after = host := by
  unfold Yields
  rcases getCell_cases read asked host with ⟨err, -, run, hn⟩ | ⟨hc, hf, run⟩
  · rw [run]
    constructor
    · nofun
    · exact fun ⟨hc, hf, _⟩ => absurd ⟨hc, hf⟩ hn
  · rw [run, ho]
    constructor
    · rintro ⟨⟩
      exact ⟨hc, hf, rfl, rfl⟩
    · rintro ⟨_, _, rfl, rfl⟩
      rfl

theorem running_onCell {α : Type} {m : RunnerM α} {begun : StartHost} {a : α} {after : CellHost}
    (hy : Yields m begun.cell a after) (ht : At doc begun.cell.trace sent after) :
    ∃ left, Yields (onCell m) begun a left ∧ left.cell = after ∧ left.timeline = begun.timeline ∧
      ∀ id, Running left.records id ↔ Running begun.records id ∧ id ∉ sent := by
  obtain ⟨since, hg, hh⟩ := ht.trace
  refine ⟨{ begun with cell := after, records := since.foldl hear begun.records }, ?_, rfl, rfl, ?_⟩
  · unfold Yields onCell
    rw [hy.ending, hy.finalState, hg, List.drop_left]
    rfl
  · intro id
    rw [← hh]
    exact running_heard

variable (hr : Recorded doc)

include hr

theorem IsCell.persisted (hi : IsCell doc cell) (now : Time) :
    (persistedCell (stampCellLifecycle now cell)).metadata = doc.metadata ∧
      (persistedCell (stampCellLifecycle now cell)).spec = doc.spec := by
  obtain ⟨env, hsp⟩ := hi.spec
  refine ⟨hi.metadata, ?_⟩
  have hsm : storedSpec cell.spec = storedSpec doc.spec := by
    rw [hsp]
    rfl
  have hs : (persistedCell (stampCellLifecycle now cell)).spec =
      (storedSpec cell.spec).deref := rfl
  rw [hs, hsm, hr.stored]

/-- The document is neither newer than the cell nor has another spec. -/
theorem IsCell.write (hi : IsCell doc cell) {prior : Cell}
    (hm : prior.metadata = doc.metadata) (hsp : prior.spec = doc.spec) (now : Time) :
    ∃ stored, writeDocWithGeneration cellAccess (some prior)
        (persistedCell (stampCellLifecycle now cell)) = .ok stored ∧
      stored.metadata = doc.metadata ∧ stored.spec = doc.spec ∧
        stored.status = statusWithoutSetup (stampCellLifecycle now cell).status := by
  obtain ⟨hs, hss⟩ := hi.persisted hr now
  unfold writeDocWithGeneration
  simp only [cellAccess, hm, hsp, hs, hss, lt_self_iff_false, and_false,
    if_false, if_true]
  exact ⟨_, rfl, rfl, rfl, rfl⟩

theorem updateCellMetadata_yields (hi : IsCell doc cell) (hh : At doc base sent host) :
    ∃ after, Yields (updateCellMetadata cell) host () after ∧ At doc base sent after ∧
      Shows cell after := by
  obtain ⟨root, hrs⟩ := hr.resolves
  have hrl : resolveCellRootContainer (stampCellLifecycle host.now cell).spec = .ok root := by
    obtain ⟨env, hsp⟩ := hi.spec
    rw [← hrs, show (stampCellLifecycle host.now cell).spec = cell.spec from rfl, hsp]
    rfl
  obtain ⟨prior, ho, hm, hsp⟩ := hh.there
  obtain ⟨stored, hw, hs, hss, hst⟩ :=
    hi.write hr hm hsp host.now
  refine ⟨{ host with attempts := host.attempts + 1 }.written stored, ?_,
    (hh.counted _).written hs hss, stored, rfl, hst⟩
  unfold updateCellMetadata
  refine Yields.bind (Yields.read host) ?_
  simp only [hrl]
  refine Yields.bind (Yields.put host _) ?_
  rw [hh.writes, ho, hw]
  exact Yields.update _ _

theorem updateCellMetadata_at (hi : IsCell doc cell) (base : List Event) (sent : List String) :
    ⦃fun host => ⌜At doc base sent host⌝⦄ updateCellMetadata cell
    ⦃post⟨fun _ host => ⌜At doc base sent host ∧ Shows cell host⌝,
      fun _ _ => ⌜False⌝⟩⦄ := by
  refine triple_of_runs fun host hh => ?_
  obtain ⟨after, hy, ht, hs⟩ := updateCellMetadata_yields hr hi hh
  unfold Yields at hy
  simp [ending, finalState, hy, ht, hs]

theorem killCellLocked_at (hi : IsCell doc cell)
    (inputs : KillInputs) (base : List Event) (sent : List String) :
    Leads (At doc base sent) (At doc base (sent ++ killSignals inputs doc))
      (killCellLocked inputs cell) := by
  have hl := getCell_at inputs.read hi base sent
  have hs : ∀ loaded : Cell, Leads (fun host => At doc base sent host ∧
        loaded.metadata = doc.metadata ∧ loaded.spec = doc.spec)
      (At doc base (sent ++ (workloadContainerdIDs doc.spec.containers ++ rootSignal doc)))
      (signalContainers loaded) := by
    intro loaded
    refine triple_of_runs fun host ⟨hh, hm, hsp⟩ => ?_
    exact of_triple (signalContainers_at hm hsp base sent) hh
  have hw : ∀ stopped : Cell, ∀ sent, Leads (fun host => At doc base sent host ∧
        stopped.metadata = doc.metadata ∧ stopped.spec = doc.spec)
      (At doc base sent) (updateCellMetadata stopped) := by
    intro stopped sent
    refine triple_of_runs fun host ⟨hh, hm, hsp⟩ => ?_
    have hi : IsCell doc stopped := ⟨hm, doc.spec.runtimeEnv, hsp⟩
    obtain ⟨hst, hrf⟩ := of_triple (updateCellMetadata_at hr hi base sent) hh
    exact ⟨fun done he => (hst done he).1, fun err he => (hrf err he).elim⟩
  have hc := requireCoordinates_isCell hi
  have hch : ∀ loaded : Cell, loaded.spec = doc.spec → requireCoordinates doc = .ok () →
      (requireAll
        [ (loaded.spec.id, .cellIDRequired), (loaded.spec.realmName, .realmNameRequired),
          (loaded.spec.spaceName, .spaceNameRequired),
          (loaded.spec.stackName, .stackNameRequired) ] = .ok () ↔ trimSpace doc.spec.id ≠ "") := by
    intro loaded hsp hn
    obtain ⟨hnm, hrl, hsc, hsk⟩ := named_of_required hn
    rw [requireAll_eq_ok, hsp]
    simp [hrl, hsc, hsk]
  have hrc : ∀ done, inputs.reach.mapError RunnerError.io = .ok done →
      inputs.reach = .ok () := fun _ ok => Outcome.mapError_eq_ok.mp ok
  mvcgen [killCellLocked, attempt, rewording, outside, ofResult, hl, hs, hw]
  all_goals grind [killSignals, populateCellContainerStatuses, Except.mapError]

/-- A failed start is stamped onto the document, whatever its cleanup comes to. -/
theorem markCellFailed_yields (hic : IsCell doc cell)
    (inputs : FailInputs) (reason : String) (hh : At doc base sent host) :
    ∃ after, Yields (markCellFailed inputs cell reason) host () after ∧
      At doc base (sent ++ killSignals inputs.kill doc) after ∧
        ∃ stored, Shows (stampFailed reason inputs.message stored) after := by
  have hm : At doc base sent (host.logged (.markedFailed reason)) := by
    simpa [signalled] using hh.logged (.markedFailed reason)
  obtain ⟨before, loaded, hl, hal, hib⟩ :=
    yields_of_triple (reload_at inputs.before hic base sent) hm
  let failed := stampFailed reason inputs.message before
  have hi : IsCell doc failed := ⟨hib.metadata, hib.spec⟩
  obtain ⟨stamped, hs, has, _⟩ := updateCellMetadata_yields hr hi hal
  have hak := holds_finalState (killCellLocked_at hr hi inputs.kill base sent)
    has
  obtain ⟨again, reloaded, hrl, ha, hia⟩ :=
    yields_of_triple (reload_at inputs.after hi base _) hak
  have hil : IsCell doc (stampFailed reason inputs.message again) :=
    ⟨hia.metadata, hia.spec⟩
  obtain ⟨after, hls, haa, hsh⟩ := updateCellMetadata_yields hr hil ha
  refine ⟨after, ?_, haa, again, hsh⟩
  unfold markCellFailed log
  refine Yields.bind (Yields.update _ _) (Yields.bind hl ?_)
  refine Yields.bind hs.attempt ?_
  refine Yields.bind (attempt_apply _ _) (Yields.bind hrl ?_)
  exact Yields.bind hls.attempt (Yields.ret _ _)

end Document

/-- The status reads of a stretch of the start: no task is started, and these are seen running. -/
structure Watches (ids : List String) (before after : StartHost) : Prop where
  cell : after.cell = before.cell
  timeline : ∃ probes, after.timeline = before.timeline ++ probes ∧
    (∀ id, .started id ∉ probes) ∧ ∀ id ∈ ids, .probed id true ∈ probes

def SeenRunning (timeline : List TaskEvent) (id : String) : Prop :=
  ∃ earlier later, timeline = earlier ++ .probed id true :: later ∧ ∀ other, .started other ∉ later

namespace Watches

variable {ids others : List String} {first second third : StartHost}

theorem refl (host : StartHost) : Watches [] host host :=
  ⟨rfl, [], by simp⟩

variable (hh : Watches ids first second)

include hh

theorem trans (hl : Watches others second third) :
    Watches (ids ++ others) first third := by
  obtain ⟨cell, probes, hgr, hqt, hsn⟩ := hh
  obtain ⟨hc, probes', hg, hq, hs⟩ := hl
  refine ⟨hc.trans cell, probes ++ probes', ?_, ?_, ?_⟩
  · rw [hg, hgr, List.append_assoc]
  · intro id
    simp [hqt id, hq id]
  · intro id hm
    rcases List.mem_append.mp hm with hif | hi
    · exact List.mem_append_left _ (hsn id hif)
    · exact List.mem_append_right _ (hs id hi)

theorem mono (hf : ∀ id ∈ others, id ∈ ids) :
    Watches others first second := by
  obtain ⟨cell, probes, hg, hq, hs⟩ := hh
  exact ⟨cell, probes, hg, hq, fun id hm => hs id (hf id hm)⟩

theorem seenRunning {id : String} (hm : id ∈ ids) :
    SeenRunning second.timeline id := by
  obtain ⟨_, probes, hg, hq, hsn⟩ := hh
  obtain ⟨earlier, later, hsp⟩ := List.append_of_mem (hsn id hm)
  refine ⟨first.timeline ++ earlier, later, ?_, ?_⟩
  · rw [hg, hsp, List.append_assoc]
  · intro other hs
    exact hq other (by simp [hsp, hs])

end Watches

section Looking

variable {ε β : Type} (faults : String → Option String)

/-- A stretch of looks comes to an end, and has seen these tasks run if its answer is good. -/
def Looks (m : Effect StartHost ε β) (good : β → Prop) (ids : List String) : Prop :=
  ∀ host, ∃ b after, Yields m host b after ∧ Watches [] host after ∧
    (good b → Watches ids host after)

variable {good : β → Prop} {ids : List String}

theorem Looks.ended {b : β} (hb : good b → ids = []) :
    Looks (pure b : Effect StartHost ε β) good ids :=
  fun host => ⟨b, host, rfl, .refl host, fun hg => hb hg ▸ .refl host⟩

/-- A look at a task: it is seen running and the rest goes on, or the look is the end. -/
theorem Looks.next {next : Effect StartHost ε β} (hl : Looks next good ids) (id : String)
    {otherwise : Except String Bool → β} (hn : ∀ answer, ¬ good (otherwise answer)) :
    Looks (do
      match ← taskStatus faults id with
      | .ok true => next
      | answer => return otherwise answer) good (id :: ids) := by
  intro host
  have reads : Yields (taskStatus faults id : Effect StartHost ε _) host
      (taskAnswer host.records faults id)
      (host.noted (.probed id ((taskAnswer host.records faults id).toOption.getD false))) := rfl
  generalize taskAnswer host.records faults id = answer at reads
  by_cases hr : answer = .ok true
  · subst hr
    have hw : Watches [id] host (host.noted (.probed id true)) :=
      ⟨rfl, [.probed id true], rfl, by simp, by simp⟩
    obtain ⟨b, after, hy, hq, hg⟩ := hl (host.noted (.probed id true))
    exact ⟨b, after, reads.bind hy, (hw.trans hq).mono nofun, fun all => hw.trans (hg all)⟩
  · refine ⟨otherwise answer, host.noted (.probed id (answer.toOption.getD false)),
      reads.bind ?_, ?_, fun hg => absurd hg (hn answer)⟩
    · split
      · exact absurd rfl hr
      · rfl
    · exact ⟨rfl, [.probed id (answer.toOption.getD false)], rfl, by simp, nofun⟩

theorem nonRootTasksRunning_looks (specs : List ContainerSpec) :
    Looks (nonRootTasksRunning faults specs : Effect StartHost ε _) (· = true)
      (specs.map fun spec => trimSpace spec.containerdID) := by
  induction specs with
  | nil => exact .ended fun _ => rfl
  | cons spec rest ih =>
    unfold nonRootTasksRunning
    dsimp only
    split
    · exact .ended nofun
    · exact ih.next faults _ (by simp)

theorem cellTasksAllRunningFn_looks (cell : Cell) (rootID : String) :
    Looks (cellTasksAllRunningFn faults cell rootID : Effect StartHost ε _) (· = true)
      (rootID :: (nonRootSpecs cell.spec.containers).map fun spec =>
        trimSpace spec.containerdID) :=
  (nonRootTasksRunning_looks faults _).next faults rootID (by simp)

/-- A poll that finds every task live has seen each of them run, unless an identifier is blank. -/
theorem firstNonLiveAmong_looks {named : Prop} (specs : List ContainerSpec)
    (hn : named → ∀ spec ∈ specs, trimSpace spec.containerdID ≠ "") :
    Looks (firstNonLiveAmong faults specs : Effect StartHost ε _)
      (fun result => named ∧ result.allLive)
      (specs.map fun spec => trimSpace spec.containerdID) := by
  induction specs with
  | nil => exact .ended fun _ => rfl
  | cons spec rest ih =>
    unfold firstNonLiveAmong
    by_cases hb : trimSpace spec.containerdID = ""
    · simp only [hb, if_true]
      exact .ended fun hg => absurd hb (hn hg.1 spec List.mem_cons_self)
    · simp only [hb, if_false]
      have hl := ih fun hd other hm => hn hd other (List.mem_cons_of_mem _ hm)
      exact hl.next faults _ fun answer hg => hb hg.2.1

theorem firstNonLiveContainer_looks {rootID : String} (hr : rootID ≠ "")
    (specs : List ContainerSpec) :
    Looks (firstNonLiveContainer faults rootID specs : Effect StartHost ε _)
      (fun result => (∀ spec ∈ specs, trimSpace spec.containerdID ≠ "") ∧ result.allLive)
      (rootID :: specs.map fun spec => trimSpace spec.containerdID) :=
  (firstNonLiveAmong_looks faults specs id).next faults rootID fun _ hg => hr hg.2.1

/-- The polls of the grace window start nothing; if they end well, the first has seen every task. -/
theorem verify_watches {rootID : String} (hr : rootID ≠ "") (cellName : String)
    (specs : List ContainerSpec) (polls : List Poll) (host : StartHost) :
    let verify := verifyCellTasksLiveAfterStart cellName rootID specs polls
    Watches [] host (finalState verify host) ∧
      ∀ done, ending verify host = .ok done → polls ≠ [] →
        (∀ spec ∈ specs, trimSpace spec.containerdID ≠ "") →
          Watches (rootID :: specs.map fun spec => trimSpace spec.containerdID) host
            (finalState verify host) := by
  induction polls generalizing host with
  | nil => exact ⟨.refl host, fun _ _ hnn => absurd rfl hnn⟩
  | cons poll later ih =>
    let ended : StartHost := { host with records := StartFaults.Records.ended host.records poll.exits }
    have hex : Watches [] host ended := ⟨rfl, [], by simp [ended]⟩
    have he : Yields (modify fun host : StartHost =>
        { host with records := StartFaults.Records.ended host.records poll.exits } : ProvisionM _)
        host ⟨⟩ ended := rfl
    obtain ⟨result, looked, hl, hqt, hlv⟩ :=
      firstNonLiveContainer_looks (ε := StartFailure) poll.faults hr specs ended
    by_cases all : result.allLive
    · have run : verifyCellTasksLiveAfterStart cellName rootID specs (poll :: later) host =
          verifyCellTasksLiveAfterStart cellName rootID specs later looked := by
        rw [verifyCellTasksLiveAfterStart, bind_of_ok he.ending,
          he.finalState, bind_of_ok hl.ending,
          if_pos all, hl.finalState]
      obtain ⟨_, hs⟩ := same_run run
      obtain ⟨hq, _⟩ := ih looked
      simp only [hs]
      refine ⟨((hex.trans hqt).trans hq).mono (by simp), ?_⟩
      intro done _ _ hn
      have hsn := (hex.trans (hlv ⟨hn, all⟩)).trans hq
      exact hsn.mono fun id hm => by simpa using hm
    · have run : verifyCellTasksLiveAfterStart cellName rootID specs (poll :: later) host =
          (.error (.notLive cellName result), looked) := by
        rw [verifyCellTasksLiveAfterStart, bind_of_ok he.ending,
          he.finalState, bind_of_ok hl.ending,
          if_neg all, hl.finalState]
        rfl
      simp only [finalState, ending, run]
      exact ⟨(hex.trans hqt).mono (by simp), by simp⟩

end Looking

section Provisioning

-- The checks for blank identifiers are never evaluated below.
attribute [local irreducible] trimSpace

abbrev SameCell (kept : CellHost) (host : StartHost) : Prop := host.cell = kept

variable (digest : ContainerSpecHashPayload → String) (kept : CellHost)

theorem faultAs_keeps (wrap : String → StartFailure) (fault : Option String) :
    Keeps (SameCell kept) (faultAs wrap fault) := by
  mvcgen [faultAs]

theorem onRecords_keeps (wrap : String → StartFailure) (f : Records → Except String Records) :
    Keeps (SameCell kept) (onRecords wrap f) := by
  mvcgen [onRecords]

theorem reuseExisting_keeps (faults : ContainerFaults) (drift : String → String → StartFailure)
    (id : String) (spec : ContainerSpec) (record : ContainerRecord) :
    Keeps (SameCell kept) (reuseExisting digest faults drift id spec record) := by
  mvcgen [reuseExisting]

theorem startContainerTask_keeps (fault : Option String) (wrap : String → StartFailure)
    (id : String) : Keeps (SameCell kept) (startContainerTask fault wrap id) := by
  have hs := onRecords_keeps kept
  mvcgen [startContainerTask, hs]

theorem startRootContainer_keeps (faults : Faults) (cellName rootID cniConfigPath : String)
    (rootSpec : ContainerSpec) :
    Keeps (SameCell kept)
      (startRootContainer digest faults cellName rootID cniConfigPath rootSpec) := by
  have hf := faultAs_keeps kept
  have hc := onRecords_keeps kept
  have hr := reuseExisting_keeps digest kept
  have hs := startContainerTask_keeps kept
  mvcgen [startRootContainer, reuseExistingRoot, attachRoot, hf, hc, hr, hs]

theorem startOtherContainer_keeps (faults : ContainerFaults) (cellName : String)
    (spec : ContainerSpec) :
    Keeps (SameCell kept) (startOtherContainer digest faults cellName spec) := by
  have hf := faultAs_keeps kept
  have hc := onRecords_keeps kept
  have hr := reuseExisting_keeps digest kept
  have hs := startContainerTask_keeps kept
  mvcgen [startOtherContainer, reuseOrRefuseExistingChildContainer, hf, hc, hr, hs]

/-- Containerd has started no container under a blank identifier. -/
theorem startContainerTask_named (fault : Option String) (wrap : String → StartFailure)
    (id : String) :
    ⦃fun _ => ⌜True⌝⦄ startContainerTask fault wrap id
    ⦃post⟨fun _ _ => ⌜trimSpace id ≠ ""⌝, fun _ _ => ⌜True⌝⟩⦄ := by
  have hn : ∀ records after, startTask fault id records = .ok after → trimSpace id ≠ "" := by
    intro records after hs hb
    cases fault with
    | some text => cases hs
    | none => simp [startTask, StartFaults.Records.find, hb] at hs
  mvcgen [startContainerTask, onRecords]
  all_goals grind

theorem startOtherContainer_named (faults : ContainerFaults) (cellName : String)
    (spec : ContainerSpec) :
    ⦃fun _ => ⌜True⌝⦄ startOtherContainer digest faults cellName spec
    ⦃post⟨fun _ _ => ⌜trimSpace spec.containerdID ≠ ""⌝, fun _ _ => ⌜True⌝⟩⦄ := by
  have hs := startContainerTask_named faults.start (.startContainer spec.containerdID)
    spec.containerdID
  mvcgen [startOtherContainer, reuseOrRefuseExistingChildContainer, reuseExisting, faultAs,
    onRecords, hs]

theorem provision_keeps (faults : Faults) (cellName rootID cniConfigPath : String)
    (hr : rootID ≠ "") (rootSpec : ContainerSpec) (cell : Cell) :
    Keeps (SameCell kept)
      (provision digest faults cellName rootID cniConfigPath rootSpec cell) := by
  have hrt := startRootContainer_keeps digest kept faults cellName rootID cniConfigPath rootSpec
  have others (specs : List (ContainerSpec × Nat)) : Keeps (SameCell kept) (specs.forM fun round =>
      startOtherContainer digest (faults.containers round.2) cellName round.1) :=
    keeps_forM fun round _ => startOtherContainer_keeps digest kept _ cellName round.1
  have hv : Keeps (SameCell kept)
      (verifyCellTasksLiveAfterStart cellName rootID (nonRootSpecs cell.spec.containers)
        (faults.firstPoll :: faults.laterPolls)) := by
    refine triple_of_runs fun host hs => ?_
    have hw := (verify_watches hr cellName (nonRootSpecs cell.spec.containers)
      (faults.firstPoll :: faults.laterPolls) host).1
    exact ⟨fun _ _ => hw.cell.trans hs, fun _ _ => hw.cell.trans hs⟩
  mvcgen [provision, hrt, others, hv]

/-- A provisioning that ends well has seen every task running after the last start. -/
theorem provision_seen (faults : Faults) (cellName rootID cniConfigPath : String)
    (hr : rootID ≠ "") (rootSpec : ContainerSpec) (cell : Cell) {host after : StartHost}
    (hy : Yields (provision digest faults cellName rootID cniConfigPath rootSpec cell) host ()
      after) :
    ∀ id ∈ rootID :: (nonRootSpecs cell.spec.containers).map fun spec =>
      trimSpace spec.containerdID, SeenRunning after.timeline id := by
  unfold provision at hy
  obtain ⟨_, rooted, _, hrs⟩ := hy.of_bind
  obtain ⟨_, started, hl, hv⟩ := hrs.of_bind
  have hn : ∀ spec ∈ nonRootSpecs cell.spec.containers, trimSpace spec.containerdID ≠ "" := by
    intro spec hm
    obtain ⟨index, hf⟩ := List.getElem?_of_mem hm
    have hi : (spec, index) ∈ (nonRootSpecs cell.spec.containers).zipIdx :=
      List.mk_mem_zipIdx_iff_getElem?.mpr hf
    have ht : ∀ round ∈ (nonRootSpecs cell.spec.containers).zipIdx,
        Keeps (fun _ => trimSpace spec.containerdID ≠ "")
          (startOtherContainer digest (faults.containers round.2) cellName round.1) :=
      fun _ _ => triple_of_runs fun _ hh => ⟨fun _ _ => hh, fun _ _ => hh⟩
    have he := establishes_forM hi ht
      (startOtherContainer_named digest (faults.containers index) cellName spec)
    exact (of_triple he trivial).1 _ hl.ending
  have hw := (verify_watches hr cellName (nonRootSpecs cell.spec.containers)
    (faults.firstPoll :: faults.laterPolls) started).2 () hv.ending (by simp) hn
  rw [hv.finalState] at hw
  exact fun id hm => hw.seenRunning hm

end Provisioning

/-- What is to be left of a start that fails once it has begun to provision. -/
structure CleanFailure (doc : Cell) (rootID : String) (host : StartHost) : Prop where
  failed : ∃ stored, host.cell.disk = some stored ∧ stored.status.state = .failed ∧
    stored.status.reason ≠ "" ∧ stored.status.message ≠ ""
  stopped : ∀ id ∈ rootID :: workloadContainerdIDs doc.spec.containers, ¬ Running host.records id

/-- What is to be left of a start that succeeds. The tasks are looked up under the trimmed
    identifiers. -/
structure CleanSuccess (doc : Cell) (rootID : String) (host : StartHost) : Prop where
  ready : ∃ stored, host.cell.disk = some stored ∧ stored.status.state = .ready ∧
    stored.status.readyObserved = true
  seen : ∀ id ∈ rootID :: (nonRootSpecs doc.spec.containers).map fun spec =>
    trimSpace spec.containerdID, SeenRunning host.timeline id

/-- A start ends in one of the two, or before anything was provisioned. -/
structure Atomic (doc : Cell) (rootID : String) (run : Except StartError Cell × StartHost) :
    Prop where
  failure : ∀ cause, run.1 = .error (.failed cause) → CleanFailure doc rootID run.2
  success : ∀ cell, run.1 = .ok cell → CleanSuccess doc rootID run.2

def Visible (text : String) : Prop := ∃ c ∈ text.toList, isSpace c = false

theorem Visible.append {head rest : String} (hv : Visible head) : Visible (head ++ rest) := by
  obtain ⟨c, hm, hs⟩ := hv
  exact ⟨c, by simp [hm], hs⟩

theorem visible_text (failure : StartFailure) : Visible failure.text := by
  have hd : Visible errCellSpecHashDrift := ⟨'c', by decide, by decide⟩
  have hw : Visible errCellWindDownImmediate := ⟨'c', by decide, by decide⟩
  have cni : Visible errInitCniManager := ⟨'f', by decide, by decide⟩
  cases failure with
  | rootSpecHashDrift => exact hd.append.append.append.append.append.append.append
  | specHashDrift => exact hd.append.append.append.append.append.append.append.append.append
  | cniManager => exact cni.append.append
  | notLive cellName result =>
    have hs : Visible (formatLivenessFailure cellName result) := by
      simp only [formatLivenessFailure]
      by_cases hl : result.allLive
      · rw [if_pos hl]
        exact hw.append.append.append
      · rw [if_neg hl]
        exact hw.append.append.append.append.append.append.append.append
    exact hs
  | etcFiles => exact Visible.append ⟨'r', by decide, by decide⟩
  | rootPid => exact (Visible.append ⟨'r', by decide, by decide⟩).append
  | emptyContainerdID => exact (Visible.append ⟨'c', by decide, by decide⟩).append
  | _ => exact (Visible.append ⟨'f', by decide, by decide⟩).append.append

theorem truncateFailureMessage_ne_empty {text : String} (hsh : Visible text) :
    truncateFailureMessage text ≠ "" := by
  obtain ⟨c, hm, hv⟩ := hsh
  have hs : isSpace '\n' = true ∧ isSpace '\r' = true ∧ isSpace '\t' = true := by decide
  have kept : c ∈ text.toList.map fun c =>
      if c = '\n' ∨ c = '\r' ∨ c = '\t' then ' ' else c := by
    refine List.mem_map.mpr ⟨c, hm, if_neg ?_⟩
    rintro (rfl | rfl | rfl)
    · simp [hs.1] at hv
    · simp [hs.2.1] at hv
    · simp [hs.2.2] at hv
  have hi := mem_joinFields kept hv false false
  intro hb
  simp only [truncateFailureMessage] at hb
  split at hb
  · simp at hb
  · simp only [String.ofList_eq_empty_iff] at hb
    rw [hb] at hi
    cases hi

section Runs

variable {α : Type} {m : RunnerM α} {begun after : StartHost} {a : α}

theorem of_yields_onCell (hy : Yields (onCell m) begun a after) :
    Yields m begun.cell a after.cell ∧ (after.cell = begun.cell → after = begun) := by
  have hr : (ending m begun.cell).mapError StartError.runner = .ok a := congrArg Prod.fst hy
  have hl : { begun with
      cell := finalState m begun.cell
      records := ((finalState m begun.cell).trace.drop begun.cell.trace.length).foldl hear
        begun.records } = after := congrArg Prod.snd hy
  subst hl
  refine ⟨Prod.ext (Outcome.mapError_eq_ok.mp hr) rfl, ?_⟩
  intro hs
  have hu : finalState m begun.cell = begun.cell := hs
  simp [hu]

theorem onCell_yields_unmoved
    (hy : Yields m begun.cell a begun.cell) : Yields (onCell m) begun a begun := by
  unfold Yields onCell
  rw [hy.ending, hy.finalState, List.drop_length]
  rfl

theorem onCell_refuses {e : StartError}
    (he : ending (onCell m) begun = .error e) (cause : StartFailure) : e ≠ .failed cause := by
  unfold ending onCell at he
  rintro rfl
  cases hr : ending m begun.cell with
  | ok b => simp [hr, Except.mapError] at he
  | error err => simp [hr, Except.mapError] at he

end Runs

section Starts

variable {doc : Cell} {rootID : String}

/-- A step before the provisioning is refused, or the start goes on from it. -/
theorem Atomic.bind {α : Type} {m : StartM α} {f : α → StartM Cell} {begun : StartHost}
    (hr : ∀ e, ending m begun = .error e → ∀ cause, e ≠ .failed cause)
    (hrs : ∀ a after, Yields m begun a after → Atomic doc rootID (f a after)) :
    Atomic doc rootID ((m >>= f) begun) := by
  cases he : ending m begun with
  | ok a =>
    rw [bind_of_ok he]
    exact hrs a _ (Prod.ext he rfl)
  | error e =>
    rw [bind_of_error he]
    constructor
    · intro cause hi
      exact absurd (Except.error.inj hi) (hr e he cause)
    · intro cell hio
      simp at hio

theorem At.begin {cell : CellHost} (ho : cell.disk = some doc)
    (hw : ∀ n, cell.diskFault n = none) : At doc cell.trace [] cell :=
  ⟨⟨doc, ho, rfl, rfl⟩, hw, [], by simp, rfl⟩

variable {cell : Cell} {begun : StartHost}

variable (hr : Recorded doc) (hi : IsCell doc cell) (hh : At doc begun.cell.trace [] begun.cell)

include hr hi hh

theorem persistReady_atomic (survey : Survey)
    (hsn : ∀ id ∈ rootID :: (nonRootSpecs doc.spec.containers).map fun spec =>
      trimSpace spec.containerdID, SeenRunning begun.timeline id) :
    Atomic doc rootID (onCell (persistReady survey cell) begun) := by
  let ready := populateCellContainerStatuses begun.cell.now survey (markCellReady cell)
  have hir : IsCell doc ready := ⟨hi.metadata, hi.spec⟩
  obtain ⟨after, hw, hth, stored, ho, hs⟩ :=
    updateCellMetadata_yields hr hir hh
  have hp : Yields (persistReady survey cell) begun.cell ready after := by
    unfold persistReady
    refine Yields.bind (Yields.read _) ?_
    exact Yields.bind hw.attempt (Yields.ret _ _)
  obtain ⟨left, run, rfl, ht, _⟩ := running_onCell hp hth
  unfold Yields at run
  rw [run]
  refine ⟨fun cause hif => ?_, fun _ _ => ⟨⟨stored, ho, ?_, ?_⟩, ?_⟩⟩
  · simp at hif
  · rw [hs]
    rfl
  · rw [hs]
    rfl
  · rw [ht]
    exact hsn

/-- What the cleanup of a failed start leaves: the cell failed, and everything it signals stopped. -/
theorem markCellFailed_leaves (inputs : FailInputs) (failure : StartFailure) :
    let left := finalState (onCell (markCellFailed
      { inputs with message := truncateFailureMessage failure.text } cell startReasonCellFailed))
      begun
    (∃ stored, left.cell.disk = some stored ∧ stored.status.state = .failed ∧
      stored.status.reason ≠ "" ∧ stored.status.message ≠ "") ∧
      ∀ id, Running left.records id ↔
        Running begun.records id ∧ id ∉ killSignals inputs.kill doc := by
  obtain ⟨after, hmr, ht, again, hs⟩ := markCellFailed_yields hr hi
    { inputs with message := truncateFailureMessage failure.text } startReasonCellFailed hh
  rw [List.nil_append] at ht
  obtain ⟨stored, ho, hst, hrs, hm⟩ := hs.failed
  obtain ⟨left, run, rfl, _, hrn⟩ := running_onCell hmr ht
  intro final
  have hsm : final = left := run.finalState
  rw [hsm]
  refine ⟨⟨stored, ho, hst, ?_, ?_⟩, hrn⟩
  · rw [hrs]
    decide
  · rw [hm]
    exact truncateFailureMessage_ne_empty (visible_text failure)

theorem provisionOrFail_atomic (digest : ContainerSpecHashPayload → String)
    (reads : StartReads) (faults : Faults) (cellName cniConfigPath : String)
    (hne : rootID ≠ "") (rootSpec : ContainerSpec)
    (hsg : ∀ id ∈ rootID :: workloadContainerdIDs doc.spec.containers,
      id ∈ killSignals reads.cleanup.kill doc) :
    Atomic doc rootID (provisionOrFail digest reads faults cellName rootID cniConfigPath rootSpec
      cell begun) := by
  let steps := provision digest faults cellName rootID cniConfigPath rootSpec cell
  have kept : (finalState steps begun).cell = begun.cell :=
    holds_finalState (provision_keeps digest begun.cell faults cellName rootID cniConfigPath
      hne rootSpec cell) rfl
  have hst : At doc (finalState steps begun).cell.trace [] (finalState steps begun).cell := by
    rw [kept]
    exact hh
  have hs : nonRootSpecs cell.spec.containers = nonRootSpecs doc.spec.containers := by
    obtain ⟨env, hsp⟩ := hi.spec
    rw [hsp]
  cases he : ending steps begun with
  | ok done =>
    have hg : provisionOrFail digest reads faults cellName rootID cniConfigPath rootSpec cell
        begun = onCell (persistReady reads.survey cell) (finalState steps begun) := by
      simp only [provisionOrFail, steps, he]
    have hsn := provision_seen digest faults cellName rootID cniConfigPath hne rootSpec cell
      (Prod.ext he rfl)
    rw [hs] at hsn
    rw [hg]
    exact persistReady_atomic hr hi hst reads.survey hsn
  | error failure =>
    obtain ⟨hf, hrn⟩ := markCellFailed_leaves hr hi hst reads.cleanup failure
    have hfl : provisionOrFail digest reads faults cellName rootID cniConfigPath rootSpec cell
        begun = (.error (.failed failure), finalState (onCell (markCellFailed
          { reads.cleanup with message := truncateFailureMessage failure.text } cell
          startReasonCellFailed)) (finalState steps begun)) := by
      simp only [provisionOrFail, steps, he]
    rw [hfl]
    refine ⟨fun _ _ => ⟨hf, fun id hm hrs => ?_⟩, fun _ hio => ?_⟩
    · exact ((hrn id).mp hrs).2 (hsg id hm)
    · simp at hio

end Starts

theorem trimSpace_empty : trimSpace "" = "" := by decide

theorem rootContainerdID_named {names : CellNames} {rootID : String}
    (hb : rootContainerdID names = .ok rootID) : trimSpace rootID ≠ "" := by
  have hj : ∃ space stack cell,
      rootID = space ++ "_" ++ stack ++ "_" ++ cell ++ "_" ++ trimSpace "root" := by
    simp only [rootContainerdID, Ctr.buildRootContainerdID, Ctr.joinNames, List.map_cons,
      List.map_nil] at hb
    split at hb
    · next id hg =>
        split at hg
        · cases hg
        · refine ⟨trimSpace names.space, trimSpace names.stack, trimSpace names.cellID, ?_⟩
          rw [← Except.ok.inj hb, ← Option.some.inj hg]
          rfl
    · cases hb
  obtain ⟨space, stack, cell, rfl⟩ := hj
  have hr : trimSpace "root" = "root" := by decide
  exact trimSpace_ne_empty (c := 'r') (by simp [hr]) (by decide)

/-- Nothing of the root can be read, and the files of its host are not written. -/
def unreadRoot : Faults where
  guard := fun _ => some ""
  root := { lookup := some "" }
  etcFiles := some ""

/-- The kill of the cell comes to the container with this identifier: the document has all its
    names, what the kill looks up again is there, and the identifier is stored with the root that
    the document names or with another container. -/
structure KillFinds (inputs : KillInputs) (doc : Cell) (id : String) : Prop where
  named : requireCoordinates doc = .ok ()
  identified : trimSpace doc.spec.id ≠ ""
  read : inputs.read.fault = none
  reach : inputs.reach = .ok ()
  stored : getRootContainerContainerdID doc = .ok id ∨ id ∈ workloadContainerdIDs doc.spec.containers

theorem mem_killSignals_iff {inputs : KillInputs} {doc : Cell} :
    id ∈ killSignals inputs doc ↔ KillFinds inputs doc id := by
  unfold killSignals
  constructor
  · intro hm
    split at hm
    · next hr =>
        refine ⟨hr.1, hr.2.2.1, hr.2.1, hr.2.2.2, ?_⟩
        rcases List.mem_append.mp hm with ho | hrt
        · exact .inr ho
        · refine .inl ?_
          unfold rootSignal at hrt
          split at hrt
          · next hg => rw [hg, List.mem_singleton.mp hrt]
          · cases hrt
    · cases hm
  · rintro ⟨hn, hi, hrd, hrc, hs⟩
    rw [if_pos ⟨hn, hrd, hi, hrc⟩, List.mem_append]
    rcases hs with hrt | ho
    · refine .inr ?_
      simp [rootSignal, hrt]
    · exact .inl ho

/-- If the start gets as far as provisioning, its cleanup comes to the root it has started. -/
def CleanupFindsRoot (host : ProvisionHost) (reads : StartReads) (request doc : Cell) : Prop :=
  requireCoordinates request = .ok () → reads.read.fault = none →
    ∀ cniConfigPath rootID rootSpec, startChecks host reads.reach doc = .ok (cniConfigPath, rootID) →
      ensureCellRootContainerSpec host doc = .ok rootSpec →
        KillFinds reads.cleanup.kill doc rootID

section Main

attribute [local irreducible] trimSpace

variable (digest : ContainerSpecHashPayload → String) {host : ProvisionHost} {reads : StartReads}
  {request doc : Cell} {begun : StartHost}

theorem startChecks_ok {reach : Except String Unit} {cniConfigPath rootID : String}
    (hc : startChecks host reach doc = .ok (cniConfigPath, rootID)) :
    rootContainerdID (cellNames doc) = .ok rootID := by
  simp only [startChecks, Outcome.refusal_eq_ok, Outcome.bind_eq_ok, Outcome.mapError_eq_ok,
    Outcome.pure_eq_ok] at hc
  grind

theorem mapError_refuses {α : Type} {r : Except ProvisionError α} {e : StartError}
    (he : r.mapError StartError.provision = .error e) (cause : StartFailure) :
    e ≠ .failed cause := by
  cases r with
  | ok a => cases he
  | error err =>
    cases he
    nofun

variable {cell : Cell}

theorem startChecks_refuses {reach : Except String Unit} {e : StartError}
    (he : startChecks host reach cell = .error e) (cause : StartFailure) :
    e ≠ .failed cause := by
  unfold startChecks at he
  simp only [bind, Except.bind] at he
  split at he
  · cases he
    nofun
  · split at he
    · next hg =>
        cases he
        exact mapError_refuses hg cause
    · split at he
      · next hg =>
          cases he
          cases reach with
          | ok done => cases hg
          | error text =>
            cases hg
            nofun
      · split at he
        · next hg =>
            cases he
            exact mapError_refuses hg cause
        · cases he

theorem startChecks_isCell (hi : IsCell doc cell) (reach : Except String Unit) :
    startChecks host reach cell = startChecks host reach doc := by
  obtain ⟨env, hs⟩ := hi.spec
  unfold startChecks cellNames
  rw [hs]

theorem ensureCellRootContainerSpec_isCell (hi : IsCell doc cell) :
    ensureCellRootContainerSpec host cell = ensureCellRootContainerSpec host doc := by
  obtain ⟨env, hs⟩ := hi.spec
  unfold ensureCellRootContainerSpec chosenRoot cellWantsHostNetworkRoot cellNames
  rw [hs]

theorem startLoaded_atomic (hr : Recorded doc) (hi : IsCell doc cell)
    (hh : At doc begun.cell.trace [] begun.cell) (hfn : ∀ cniConfigPath rootID rootSpec,
      startChecks host reads.reach doc = .ok (cniConfigPath, rootID) →
        ensureCellRootContainerSpec host doc = .ok rootSpec →
          KillFinds reads.cleanup.kill doc rootID) (faults : Faults) (cellName : String)
    {rootID : String} (hb : rootContainerdID (cellNames doc) = .ok rootID) :
    Atomic doc rootID (startLoaded digest host reads faults cellName cell begun) := by
  unfold startLoaded
  refine .bind (fun _ he => startChecks_refuses (error_of_ofResult he)) ?_
  rintro ⟨cniConfigPath, containerID⟩ after ran
  obtain ⟨hc, rfl⟩ := of_yields_ofResult ran
  rw [startChecks_isCell hi] at hc
  obtain rfl : rootID = containerID := by
    have hsm := startChecks_ok hc
    rw [hb] at hsm
    exact Except.ok.inj hsm
  have ht := rootContainerdID_named hb
  have hrn : rootID ≠ "" := by
    rintro rfl
    exact ht trimSpace_empty
  obtain ⟨all, looked, hl, hq, hlv⟩ :=
    cellTasksAllRunningFn_looks (ε := StartError) faults.guard cell rootID after
  have hst : At doc looked.cell.trace [] looked.cell := by
    rw [hq.cell]
    exact hh
  have hs : nonRootSpecs cell.spec.containers = nonRootSpecs doc.spec.containers := by
    obtain ⟨env, hsp⟩ := hi.spec
    rw [hsp]
  dsimp only
  rw [bind_of_yields hl]
  cases all with
  | true =>
    have hsn := hlv rfl
    rw [hs] at hsn
    exact persistReady_atomic hr hi hst reads.survey
      fun id hm => hsn.seenRunning hm
  | false =>
    refine .bind (fun _ he => mapError_refuses (error_of_ofResult he)) ?_
    intro rootSpec after ran
    obtain ⟨hrs, rfl⟩ := of_yields_ofResult ran
    rw [ensureCellRootContainerSpec_isCell hi] at hrs
    have hf := hfn cniConfigPath rootID rootSpec hc (Outcome.mapError_eq_ok.mp hrs)
    refine provisionOrFail_atomic hr hi hst digest reads faults cellName cniConfigPath
      hrn rootSpec ?_
    intro id hm
    rw [mem_killSignals_iff]
    rcases List.mem_cons.mp hm with rfl | ho
    · exact hf
    · exact ⟨hf.named, hf.identified, hf.read, hf.reach, .inr ho⟩

theorem startCellLocked_atomic (hr : Recorded doc) (ho : begun.cell.disk = some doc)
    (hw : ∀ n, begun.cell.diskFault n = none)
    (hf : CleanupFindsRoot host reads request doc) (faults : Faults) {rootID : String}
    (hb : rootContainerdID (cellNames doc) = .ok rootID) :
    Atomic doc rootID (startCellLocked digest host reads faults request begun) := by
  have hh := At.begin ho hw
  unfold startCellLocked
  refine .bind (fun _ he => onCell_refuses he) fun _ checked hch => ?_
  obtain ⟨hc, hu⟩ := of_yields_onCell hch
  obtain ⟨hrq, hs⟩ := of_yields_ofResult hc
  obtain rfl := hu hs
  refine .bind (fun _ he => onCell_refuses he) fun loaded read hrd => ?_
  obtain ⟨hg, hu⟩ := of_yields_onCell hrd
  obtain ⟨_, hn, rfl, hs⟩ := (getCell_yields_iff ho).mp (of_yields_rewording hg)
  obtain rfl := hu hs
  have hi : IsCell doc { populateCellContainerStatuses read.cell.now reads.read.survey doc with
      spec.runtimeEnv := request.spec.runtimeEnv } := ⟨rfl, _, rfl⟩
  have ha := startLoaded_atomic digest hr hi hh (hf hrq hn) faults
    (trimSpace request.metadata.name) hb
  exact ha

/-- The start fails before it has looked at what there is. -/
theorem startLoaded_unread (hi : IsCell doc cell) {cniConfigPath rootID : String}
    {rootSpec : ContainerSpec}
    (hc : startChecks host reads.reach doc = .ok (cniConfigPath, rootID))
    (hr : ensureCellRootContainerSpec host doc = .ok rootSpec) (cellName : String) :
    startLoaded digest host reads unreadRoot cellName cell begun =
      (.error (.failed (.etcFiles "")), finalState (onCell (markCellFailed
        { reads.cleanup with message := truncateFailureMessage (StartFailure.etcFiles "").text }
        cell startReasonCellFailed)) (begun.noted (.probed rootID false))) := by
  have hl : Yields (cellTasksAllRunningFn unreadRoot.guard cell rootID : StartM Bool) begun false
      (begun.noted (.probed rootID false)) := rfl
  unfold startLoaded
  rw [startChecks_isCell hi, bind_of_yields (Yields.ofResult hc begun)]
  dsimp only
  rw [bind_of_yields hl, if_neg (by simp), ensureCellRootContainerSpec_isCell hi, hr]
  rfl

/-- Where the cleanup does not come to the root, a root that runs already is left running. -/
theorem cleanupFindsRoot_of_atomic (hrc : Recorded doc) {cell : CellHost}
    (ho : cell.disk = some doc) (hw : ∀ n, cell.diskFault n = none)
    (ha : ∀ records faults rootID, rootContainerdID (cellNames doc) = .ok rootID →
      Atomic doc rootID (startCellLocked digest host reads faults request
        { cell := cell, records := records })) :
    CleanupFindsRoot host reads request doc := by
  intro hr hn cniConfigPath rootID rootSpec hc hrs
  let begun : StartHost := { cell := cell, records := [(rootID, { running := true })] }
  let loaded := populateCellContainerStatuses cell.now reads.read.survey doc
  have hi : IsCell doc { loaded with spec.runtimeEnv := request.spec.runtimeEnv } :=
    ⟨rfl, request.spec.runtimeEnv, rfl⟩
  have hg : Yields (getCell reads.read request) begun.cell loaded begun.cell :=
    (getCell_yields_iff ho).mpr ⟨hr, hn, rfl, rfl⟩
  have run : startCellLocked digest host reads unreadRoot request begun =
      startLoaded digest host reads unreadRoot (trimSpace request.metadata.name)
        { loaded with spec.runtimeEnv := request.spec.runtimeEnv } begun := by
    unfold startCellLocked
    rw [bind_of_yields (onCell_yields_unmoved (Yields.ofResult hr _)),
      bind_of_yields (onCell_yields_unmoved (hg.rewording _))]
  have hcl := ha begun.records unreadRoot rootID (startChecks_ok hc)
  rw [run, startLoaded_unread digest hi hc hrs] at hcl
  let left := begun.noted (.probed rootID false)
  have hh : At doc left.cell.trace [] left.cell := At.begin ho hw
  have hl := (markCellFailed_leaves hrc hi hh reads.cleanup (.etcFiles "")).2 rootID
  have hrn : Running begun.records rootID := ⟨{ running := true }, by simp [begun], rfl⟩
  by_contra hls
  refine (hcl.failure _ rfl).stopped rootID List.mem_cons_self (hl.mpr ⟨hrn, ?_⟩)
  exact fun hs => hls (mem_killSignals_iff.mp hs)

end Main

/-- For every cell whose document is there and can be written: a start keeps to the two clean
    endings at every failure of containerd, the network and the liveness check, whatever containers
    there are, exactly if its cleanup comes to the root it has started. -/
theorem start_failure_atomic_iff (digest : ContainerSpecHashPayload → String) (host : ProvisionHost)
    (reads : StartReads) (request doc : Cell) (cell : CellHost) (onDisk : cell.disk = some doc)
    (recorded : Recorded doc) (writes : ∀ n, cell.diskFault n = none) :
    (∀ records faults rootID, rootContainerdID (cellNames doc) = .ok rootID →
      Atomic doc rootID (startCellLocked digest host reads faults request
        { cell := cell, records := records })) ↔
      CleanupFindsRoot host reads request doc :=
  ⟨cleanupFindsRoot_of_atomic digest recorded onDisk writes,
    fun hf _ faults _ hb =>
      startCellLocked_atomic digest recorded onDisk writes hf faults hb⟩

/-! The cell of the last section of restarts, once as it was created and once as the first write of a
creation that failed has left it. -/

def harborReads : StartReads where
  read := { survey := .all .stopped }
  survey := .all .ready
  cleanup :=
    { before := { survey := .all .stopped }
      kill := { read := { survey := .all .stopped }, after := .all .stopped }
      after := { survey := .all .stopped } }

def harborDoc : Cell := persistedCell SteadyRestart.harborCreated.1

theorem harbor_start_failure_atomic :
    CleanupFindsRoot quayHost harborReads harborDoc harborDoc ∧
      ∀ records faults rootID, rootContainerdID (cellNames harborDoc) = .ok rootID →
        Atomic harborDoc rootID (startCellLocked quayDigest quayHost harborReads faults harborDoc
          { cell := { disk := some harborDoc }, records := records }) := by
  have hr : Recorded harborDoc := ⟨by decide +kernel, "root", by decide +kernel⟩
  have hch : startChecks quayHost harborReads.reach harborDoc =
      .ok ("/opt/kukeon/s/network.conflist", "s_t_harbor_root") := by decide +kernel
  have hf : CleanupFindsRoot quayHost harborReads harborDoc harborDoc := by
    intro _ _ cniConfigPath rootID rootSpec hc _
    rw [hch] at hc
    cases hc
    exact ⟨by decide +kernel, by decide +kernel, rfl, rfl, .inl (by decide +kernel)⟩
  exact ⟨hf, (start_failure_atomic_iff quayDigest quayHost harborReads harborDoc harborDoc
    { disk := some harborDoc } rfl hr fun _ => rfl).mpr hf⟩

/-- The document as `CreateCell` first writes it, before it has a root. -/
def harborUnbuilt : Cell :=
  persistedCell { SteadyRestart.harborCell with status.state := .failed }

/-- The network plugins fail; the cell is stamped failed and its root runs on. -/
theorem harbor_root_left_running :
    let run := startCellLocked quayDigest quayHost harborReads
      { attach := .failed "plugin bridge failed" } harborUnbuilt
      { cell := { disk := some harborUnbuilt }, records := [] }
    run.1 = .error (.failed (.attachRoot "s_t_harbor_root" "plugin bridge failed")) ∧
      (run.2.cell.disk.map fun stored => stored.status.state) = some .failed ∧
        Running run.2.records "s_t_harbor_root" := by
  decide +kernel

end Kukeon.Runner.StartAtomicity
