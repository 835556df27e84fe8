import Kukeon.Lib.Runs
import Kukeon.Runner.TickRules

/-! # Passes over a cell and the operator beside them

A reconcile pass lists the cells and then ticks one after the other from what it listed; a refresh
pass of the operator does the same with `RefreshCell`. In between the documents change: other
operations complete and persist their result. An operation and a tick hold the lock of the cell, so
that each is one step here; a refresh takes no lock, but its only effect is the write at its end.
-/

namespace Kukeon.Runner

open ModelHub ApiScheme Effect Std.Do

set_option mvcgen.warning false

/-- What has to hold of every document, given the state derived by the time it is written. -/
structure DocumentProperty (good : Option CellState → Cell → Prop) : Prop where
  carries : ∀ {derived a b}, good derived a → Carries derived a b → good derived b
  derive : ∀ {state a}, good none a → good (some state) a

/-- Every document is good. A cell may also be bad, when it is behind the document on disk: its
    token is then refused. -/
def documentRules (good : Option CellState → Cell → Prop) (floor : Int) : Rules where
  inv host :=
    (∃ doc, host.disk = some doc ∧ good host.derived doc ∧ floor ≤ doc.metadata.generation) ∧
      ∀ event ∈ host.trace, event ≠ .deleted ∧ ∀ doc derived, event = .wrote doc derived →
        good derived doc ∧ (host.derived = none → derived = none)
  doc derived cell :=
    good derived cell ∨ 0 < cell.metadata.generation ∧ cell.metadata.generation < floor
  relaunch _ := True
  kill _ := True
  reap := True

section DocumentRules

variable {good : Option CellState → Cell → Prop} {floor : Int}

theorem documentRules_logged {host : CellHost} {event : Event}
    (hh : (documentRules good floor).inv host) (hk : event ≠ .deleted)
    (hq : ∀ doc derived, event ≠ .wrote doc derived) :
    (documentRules good floor).inv (host.logged event) := by
  refine ⟨hh.1, ?_⟩
  intro logged hi
  rcases List.mem_append.mp hi with old | new
  · exact hh.2 logged old
  · rw [List.mem_singleton.mp new]
    exact ⟨hk, fun doc derived hs => absurd hs (hq doc derived)⟩

theorem documentRules_write (hp : DocumentProperty good) {host : CellHost} {now : Time}
    {cell doc : Cell} (hh : (documentRules good floor).inv host)
    (may : (documentRules good floor).doc host.derived cell)
    (hw : writeDocWithGeneration cellAccess host.disk
      (persistedCell (stampCellLifecycle now cell)) = .ok doc) :
    (documentRules good floor).inv (host.written doc) := by
  obtain ⟨⟨prior, ho, _, hab⟩, he⟩ := hh
  have ha := hw
  rw [ho] at ha
  obtain ⟨hf, hs⟩ := writeDocWithGeneration_some ha
  have hi : good host.derived doc := by
    cases may with
    | inl hi => exact hp.carries hi (.written hw)
    | inr hb =>
      -- A bad cell shows a token from before the document, and the write had refused it.
      exact absurd ⟨hb.1, lt_of_lt_of_le hb.2 hab⟩ hf
  refine ⟨⟨doc, rfl, hi, ?_⟩, ?_⟩
  · rw [hs]
    change floor ≤ ite _ _ _
    split
    · exact hab
    · exact hab.trans (by simp [cellAccess])
  · intro event hii
    rcases List.mem_append.mp hii with old | new
    · exact he event old
    · rw [List.mem_singleton.mp new]
      refine ⟨nofun, ?_⟩
      intro doc' derived hsm
      cases hsm
      exact ⟨hi, id⟩

theorem documentRules_sound (floor : Int) (hp : DocumentProperty good) :
    (documentRules good floor).Sound where
  edit := by
    intro derived a b may hed
    cases may with
    | inl hi => exact .inl (hp.carries hi hed.toCarries)
    | inr hb => exact .inr (hed.generation ▸ hb)
  read := by
    intro host doc hh ho
    obtain ⟨⟨doc', hod, hi, _⟩, _⟩ := hh
    have hs : doc' = doc := Option.some.inj (hod.symm.trans ho)
    exact .inl (hs ▸ hi)
  write := documentRules_write hp
  idle := by
    intro host next hh hd trace derived
    obtain ⟨⟨doc, ho, hi, ha⟩, he⟩ := hh
    refine ⟨⟨doc, hd.trans ho, ?_, ha⟩, ?_⟩
    · rw [derived]
      exact hi
    · rw [trace, derived]
      exact he
  markedFailed := by
    intro host reason hh
    exact documentRules_logged hh (by simp) (by simp)
  relaunching := by
    intro host id hh _
    exact documentRules_logged hh (by simp) (by simp)
  killed := by
    intro host ids hh _
    exact documentRules_logged hh (by simp) (by simp)
  kill_mono := fun _ => trivial
  kill_after_failure := trivial
  kill_of_reap := fun _ => trivial
  derive := by
    intro host state hh hu _
    obtain ⟨⟨doc, ho, hi, ha⟩, he⟩ := hh
    refine ⟨⟨doc, ho, hp.derive (hu ▸ hi), ha⟩, ?_⟩
    intro event hii
    refine ⟨(he event hii).1, ?_⟩
    intro doc derived hw
    exact ⟨((he event hii).2 doc derived hw).1, nofun⟩
  doc_derive := by
    intro state cell may
    exact may.imp hp.derive id

end DocumentRules

/-- What a step finds: the time, and the writes that the file system fails. -/
structure Moment where
  now : Time := 0
  diskFault : Nat → Option String := fun _ => none

/-- The document of a cell with the copies of it that the two passes hold. -/
structure Daemon where
  host : CellHost := {}
  reconcileSnapshot : Option Cell := none
  refreshSnapshot : Option Cell := none

/-- The host at the beginning of a step. Its trace collects the events of this step. -/
def CellHost.begin (host : CellHost) (moment : Moment) : CellHost :=
  { host with now := moment.now, diskFault := moment.diskFault, attempts := 0, trace := [] }

inductive PassStep where
  | listForReconcile
  | tick (moment : Moment) (inputs : TickInputs)
  | listForRefresh
  | refresh (moment : Moment) (inputs : RefreshInputs)

/-- The end of an operation on the cell, with the cell it persists. -/
inductive Operation where
  | persist (moment : Moment) (cell : Cell)
  | delete

inductive Step where
  | pass (step : PassStep)
  | operate (operation : Operation)

/-- A pass lists the document as it is on disk. A cell that it did not list is passed over. -/
def Daemon.pass (daemon : Daemon) : PassStep → Daemon
  | .listForReconcile =>
    { daemon with host := daemon.host.begin {}, reconcileSnapshot := daemon.host.disk }
  | .tick moment inputs =>
    let host := daemon.host.begin moment
    { daemon with
      host :=
        match daemon.reconcileSnapshot with
        | none => host
        | some cell => finalState (reconcileCell inputs cell) host
      reconcileSnapshot := none }
  | .listForRefresh =>
    { daemon with host := daemon.host.begin {}, refreshSnapshot := daemon.host.disk }
  | .refresh moment inputs =>
    let host := daemon.host.begin moment
    { daemon with
      host :=
        match daemon.refreshSnapshot with
        | none => host
        | some cell => finalState (refreshCell inputs cell) host
      refreshSnapshot := none }

def Daemon.operate (daemon : Daemon) : Operation → Daemon
  | .persist moment cell =>
    { daemon with host := finalState (updateCellMetadata cell) (daemon.host.begin moment) }
  | .delete => { daemon with host := (daemon.host.begin {}).removed }

def Daemon.step (daemon : Daemon) : Step → Daemon
  | .pass step => daemon.pass step
  | .operate operation => daemon.operate operation

def Behind (cell doc : Cell) : Prop :=
  0 < cell.metadata.generation ∧ cell.metadata.generation < doc.metadata.generation

section Behind

variable (doc : Cell) (trace : List Event)

theorem updateCellMetadata_behind (cell : Cell) (hb : Behind cell doc) :
    Keeps (fun host => host.disk = some doc ∧ host.trace = trace) (updateCellMetadata cell) := by
  mvcgen [updateCellMetadata]
  next host held _ _ _ _ written ran _ =>
    rw [held.1] at ran
    exact absurd hb (writeDocWithGeneration_some ran).1

theorem refreshCell_behind (inputs : RefreshInputs) (cell : Cell) (hb : Behind cell doc) :
    Keeps (fun host => host.disk = some doc ∧ host.trace = trace) (refreshCell inputs cell) := by
  have hw : ∀ next : Cell, next.metadata = cell.metadata →
      Keeps (fun host => host.disk = some doc ∧ host.trace = trace) (updateCellMetadata next) := by
    intro next hs
    exact updateCellMetadata_behind doc trace next (by unfold Behind; rw [hs]; exact hb)
  mvcgen [refreshCell, rewording, persistCellStatusGuarded, attempt, hw]
  -- Changed or not, the refreshed cell keeps the metadata it was listed with.
  change (ite _ _ _ : Cell).metadata = cell.metadata
  split <;> rfl

end Behind

def CellHost.Sticky (host : CellHost) : Prop :=
  ∃ doc, host.disk = some doc ∧ cellStateIsSticky doc.status.state = true

/-- The document is in a sticky state, and the step that led here wrote no other and did not
    delete it. -/
def CellHost.Undisturbed (host : CellHost) : Prop :=
  host.Sticky ∧ ∀ event ∈ host.trace, event ≠ .deleted ∧
    ∀ doc derived, event = .wrote doc derived → cellStateIsSticky doc.status.state = true

variable {host : CellHost}

theorem CellHost.Sticky.begin (hs : host.Sticky) (moment : Moment) :
    (host.begin moment).Undisturbed :=
  ⟨hs, fun _ hi => absurd hi List.not_mem_nil⟩

/-- A tick works from a listing that shows the sticky state already; a refresh works from one that
    is behind the document, if at all. -/
def Calm (daemon : Daemon) : PassStep → Prop
  | .listForReconcile | .listForRefresh => True
  | .tick _ _ =>
    ∀ cell, daemon.reconcileSnapshot = some cell → cellStateIsSticky cell.status.state = true
  | .refresh _ _ =>
    ∀ cell doc, daemon.refreshSnapshot = some cell → daemon.host.disk = some doc →
      Behind cell doc

def StickyUnlessDerived (derived : Option CellState) (cell : Cell) : Prop :=
  derived = none → cellStateIsSticky cell.status.state = true

theorem sticky_property : DocumentProperty StickyUnlessDerived where
  carries := by
    intro derived a b his hc hu
    rw [(hc.state hu).1]
    exact his hu
  derive := by
    intro state a _ hi
    cases hi

/-- A tick from a sticky listing derives no state, so that it carries the listed one over. -/
theorem tick_undisturbed {cell : Cell} (inputs : TickInputs) (hs : host.Sticky)
    (hq : host.trace = []) (hc : cellStateIsSticky cell.status.state = true) :
    (finalState (reconcileCell inputs cell) host).Undisturbed := by
  obtain ⟨doc, ho, hd⟩ := hs
  have hsn := documentRules_sound doc.metadata.generation sticky_property
  have hen := reconcileCell_sticky hsn inputs (.ofAll (fun _ => trivial) inputs) cell
    host hc (.inl fun _ => hc)
    ⟨⟨doc, ho, fun _ => hd, le_refl _⟩, by simp [hq]⟩
  obtain ⟨after, hw, hi, _⟩ := hen.inv.1
  refine ⟨⟨after, hw, hi hen.derived⟩, ?_⟩
  intro event hii
  obtain ⟨hk, he⟩ := hen.inv.2 event hii
  refine ⟨hk, ?_⟩
  intro doc derived hwr
  obtain ⟨hu, hn⟩ := he doc derived hwr
  exact hu (hn hen.derived)

theorem refresh_undisturbed {cell : Cell} (inputs : RefreshInputs) (hst : host.Sticky)
    (hq : host.trace = []) (hb : ∀ doc, host.disk = some doc → Behind cell doc) :
    (finalState (refreshCell inputs cell) host).Undisturbed := by
  obtain ⟨doc, ho, hd⟩ := hst
  obtain ⟨hk, hs⟩ :=
    holds_finalState (refreshCell_behind doc [] inputs cell (hb doc ho)) ⟨ho, hq⟩
  exact ⟨⟨doc, hk, hd⟩, by simp [hs]⟩

theorem pass_undisturbed {daemon : Daemon} {step : PassStep} (hs : daemon.host.Sticky)
    (hc : Calm daemon step) : (daemon.pass step).host.Undisturbed := by
  cases step with
  | listForReconcile => exact hs.begin {}
  | listForRefresh => exact hs.begin {}
  | tick moment inputs =>
    cases hl : daemon.reconcileSnapshot with
    | none =>
      simp only [Daemon.pass, hl]
      exact hs.begin moment
    | some cell =>
      simp only [Daemon.pass, hl]
      exact tick_undisturbed inputs (hs.begin moment).1 rfl (hc cell hl)
  | refresh moment inputs =>
    cases hl : daemon.refreshSnapshot with
    | none =>
      simp only [Daemon.pass, hl]
      exact hs.begin moment
    | some cell =>
      simp only [Daemon.pass, hl]
      exact refresh_undisturbed inputs (hs.begin moment).1 rfl
        fun doc ho => hc cell doc hl ho

/-- A sticky cell stays as it is through every run of calm steps. -/
theorem sticky_through_passes (daemon : Daemon) (steps : List PassStep)
    (sticky : daemon.host.Sticky) (calm : Runs.Along Daemon.pass Calm daemon steps) :
    ∀ done step rest, steps = done ++ step :: rest →
      ((Runs.run Daemon.pass daemon done).pass step).host.Undisturbed := by
  intro done step rest hs
  have hk : ∀ (daemon : Daemon) (step : PassStep), daemon.host.Sticky → Calm daemon step →
      (daemon.pass step).host.Sticky := by
    intro daemon step sticky calm
    exact (pass_undisturbed sticky calm).1
  have hb := calm.invariant hk sticky done (step :: rest) hs
  exact pass_undisturbed hb (calm done step rest hs)

/-- A cell whose start failed. Its containers are there, without tasks. -/
def failedCell : Cell where
  metadata := { name := "web", generation := 1 }
  spec :=
    { id := "web", realmName := "main", spaceName := "default", stackName := "default"
      rootContainerID := "root", autoDelete := true
      containers :=
        [ { id := "root", root := true, containerdID := "default_default_web_root" },
          { id := "app", containerdID := "default_default_web_app" } ] }
  status := { state := .failed, readyObserved := true, reason := "StartCellFailed" }

theorem sticky_through_passes_of_failed :
    ((Runs.run Daemon.pass { host := { disk := some failedCell } } [.listForReconcile]).pass
      (.tick {} (.steady (.all .exited)))).host.Undisturbed :=
  sticky_through_passes { host := { disk := some failedCell } }
    [.listForReconcile, .tick {} (.steady (.all .exited))] ⟨failedCell, rfl, by decide⟩
    (.cons trivial (.cons (fun cell hl => by cases hl; decide) .nil))
    [.listForReconcile] _ [] rfl

/-- `RefreshCell` derives the state of a failed cell again, and the next tick deletes it. -/
theorem refresh_unsticks_failed :
    let daemon : Daemon := { host := { disk := some failedCell } }
    let steps : List PassStep := [.listForRefresh, .refresh {} { survey := .all .exited }]
    daemon.host.Sticky ∧
      ((Runs.run Daemon.pass daemon steps).host.disk.map fun doc => doc.status.state) =
        some .exited ∧
      (Runs.run Daemon.pass daemon
        (steps ++ [.listForReconcile, .tick {} (.steady (.all .exited))])).host.disk = none := by
  intro daemon steps
  have hs : daemon.host.Sticky := ⟨failedCell, rfl, by decide⟩
  refine And.intro hs (And.intro ?_ ?_)
  · decide
  · decide

/-- The cell shows the labels, state and lifecycle fields of the document, or it is behind it. -/
def Current (cell doc : Cell) : Prop :=
  Carries none doc cell ∨ Behind cell doc

theorem carries_property (before : Cell) :
    DocumentProperty fun derived cell => Carries derived before cell where
  carries := Carries.trans
  derive := Carries.weaken

/-- What a tick from a current listing writes carries over the document it found. -/
theorem tick_carries (host : CellHost) {before cell : Cell} (inputs : TickInputs)
    (ho : host.disk = some before) (hq : host.trace = []) (hc : Current cell before) :
    ∀ doc derived, Event.wrote doc derived ∈ (finalState (reconcileCell inputs cell) host).trace →
      Carries derived before doc := by
  have hs := documentRules_sound before.metadata.generation (carries_property before)
  have he := reconcileCell_ends hs inputs (.ofAll (fun _ => trivial) inputs) cell
    host hc (fun _ _ _ => trivial) (fun _ _ _ _ _ _ _ => trivial) (fun _ _ _ _ => trivial)
    ⟨⟨before, ho, .refl none before, le_refl _⟩, by simp [hq]⟩
  intro doc derived hw
  cases he with
  | inl hh => exact ((hh.2 _ hw).2 doc derived rfl).1
  | inr hr =>
    obtain ⟨_, prior, hh, hl⟩ := hr
    rw [hl] at hw
    rcases List.mem_append.mp hw with old | new
    · exact ((hh.2 _ old).2 doc derived rfl).1
    · cases List.mem_singleton.mp new

def ListedCurrent (daemon : Daemon) : Step → Prop
  | .pass (.tick _ _) =>
    ∀ cell doc, daemon.reconcileSnapshot = some cell → daemon.host.disk = some doc →
      Current cell doc
  | _ => True

theorem listedCurrent_of_listing (daemon : Daemon) (step : Step) :
    ListedCurrent (daemon.step (.pass .listForReconcile)) step := by
  match step with
  | .pass (.tick _ _) =>
    intro cell doc hl ho
    have hs : cell = doc := Option.some.inj (hl.symm.trans ho)
    exact .inl (hs ▸ .refl none cell)
  | .pass .listForReconcile | .pass .listForRefresh | .pass (.refresh _ _) | .operate _ => trivial

/-- Through every interleaving of passes and operations in which the ticks find their listing
    current, a tick writes over nothing that was persisted before it took the lock. -/
theorem tick_keeps_completed_operations (daemon : Daemon) (steps : List Step)
    (current : Runs.Along Daemon.step ListedCurrent daemon steps) :
    ∀ done moment inputs rest, steps = done ++ .pass (.tick moment inputs) :: rest →
      ∀ before, (Runs.run Daemon.step daemon done).host.disk = some before →
        ∀ doc derived,
          Event.wrote doc derived ∈
              ((Runs.run Daemon.step daemon done).step (.pass (.tick moment inputs))).host.trace →
            Carries derived before doc := by
  intro done moment inputs rest hs before ho doc derived hw
  have hl := current done _ rest hs
  cases hls : (Runs.run Daemon.step daemon done).reconcileSnapshot with
  | none =>
    simp [Daemon.step, Daemon.pass, hls, CellHost.begin] at hw
  | some cell =>
    simp only [Daemon.step, Daemon.pass, hls] at hw
    exact tick_carries (CellHost.begin _ moment) inputs ho rfl
      (hl cell before hls ho) doc derived hw

def crashedCell : Cell :=
  { failedCell with
    status.state := .error
    status.reason := reasonWorkloadFailed
    status.containers :=
      [{ id := "root", state := .ready }, { id := "app", state := .exited, exitCode := 1 }] }

def recoveredCell : Cell :=
  { markCellReady crashedCell with
    status.containers := [{ id := "root", state := .ready }, { id := "app", state := .ready }] }

theorem tick_keeps_completed_operations_of_recovered :
    ∃ before, (Runs.run Daemon.step { host := { disk := some crashedCell } }
        [.operate (.persist {} recoveredCell), .pass .listForReconcile]).host.disk = some before ∧
      ∀ doc derived,
        Event.wrote doc derived ∈
            ((Runs.run Daemon.step { host := { disk := some crashedCell } }
              [.operate (.persist {} recoveredCell), .pass .listForReconcile]).step
                (.pass (.tick {} (.steady (.all .ready))))).host.trace →
          Carries derived before doc :=
  ⟨_, rfl, tick_keeps_completed_operations { host := { disk := some crashedCell } }
    [.operate (.persist {} recoveredCell), .pass .listForReconcile,
      .pass (.tick {} (.steady (.all .ready)))]
    (.cons trivial (.cons trivial (.cons (listedCurrent_of_listing _ _) .nil)))
    [.operate (.persist {} recoveredCell), .pass .listForReconcile] _ _ [] rfl _ rfl⟩

/-- A start that completes between the listing and the tick is written back to the crash. -/
theorem tick_reverts_recovery :
    let daemon : Daemon := { host := { disk := some crashedCell } }
    let started : List Step := [.pass .listForReconcile, .operate (.persist {} recoveredCell)]
    ((Runs.run Daemon.step daemon started).host.disk.map fun doc => doc.status.state) =
        some .ready ∧
      ((Runs.run Daemon.step daemon
        (started ++ [.pass (.tick {} (.steady (.all .ready)))])).host.disk.map
          fun doc => (doc.status.state, doc.status.reason)) =
        some (.error, reasonWorkloadFailed) ∧
      ((Runs.run Daemon.step daemon
        (started ++ [.pass (.tick {} (.steady (.all .ready)))])).host.derived = none) := by
  intro daemon started
  refine And.intro ?_ (And.intro ?_ ?_)
  · decide
  · decide
  · decide

end Kukeon.Runner
