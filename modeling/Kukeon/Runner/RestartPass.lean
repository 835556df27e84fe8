import Kukeon.Runner.Custody

/-! # The restart pass, turn by turn

`maybeRestartExitedContainers` goes over the containers of a cell and reads little of each: `turnOf`
is what a turn makes of a container, and `Ledger.turn` what it does to the bookkeeping. The pass is
a fold of turns, cut short by a relaunch that fails.
-/

namespace Kukeon.Runner

open ModelHub ApiScheme Effect Std.Do

set_option mvcgen.warning false

structure RestartFields where
  id : String
  root : Bool
  policy : String
  backoff : Int
  cap : Int
  deriving DecidableEq

def restartFields (spec : ContainerSpec) : RestartFields where
  id := spec.id
  root := spec.root
  policy := spec.restartPolicy
  backoff := effectiveRestartBackoff spec
  cap := effectiveOnFailureMaxRestarts spec

inductive Turn where
  /-- Nothing is done about the container. -/
  | skip
  /-- The container was not seen in a terminal state. -/
  | up
  /-- The container has ended in a way that its policy restarts. -/
  | exited
  deriving DecidableEq

def turnOf (statuses : List ContainerStatus) (fields : RestartFields) : Turn :=
  if fields.root then .skip
  else
    match Keyed.find ContainerStatus.id fields.id statuses with
    | none => .skip
    | some status =>
      if !containerStateIsTerminal status.state then .up
      else if restartPolicyRequiresRestart fields.policy status.exitCode then .exited
      else .skip

namespace Ledger

variable (statuses : List ContainerStatus) (ledger : Ledger) (fields : RestartFields)

def decision : RestartPassResult :=
  restartDecisionFor ledger.now (ledger.restarts.lookup fields.id) fields.policy fields.backoff
    fields.cap

def fire (id : String) : Ledger :=
  { ledger with
    restarts := ledger.restarts.insert id
      { attempts := ((ledger.restarts.lookup id).getD {}).attempts + 1, lastAttempt := ledger.now }
    relaunched := ledger.relaunched ++ [id] }

def Fires : Prop := turnOf statuses fields = .exited ∧ ledger.decision fields = .restartFired

instance : Decidable (Fires statuses ledger fields) := inferInstanceAs (Decidable (_ ∧ _))

def Owes : Prop := turnOf statuses fields = .exited ∧ ledger.decision fields ≠ .restartNone

/-- The ledger once the pass has decided about a container that has ended. It is the same whether
    or not a relaunch succeeds. -/
def settled : Ledger :=
  match ledger.decision fields with
  | .restartFired => ledger.fire fields.id
  | .restartDeferred | .restartNone => ledger

/-- The result of the pass once it has decided about a container that has ended. -/
def reported (result : RestartPassResult) : RestartPassResult :=
  match ledger.decision fields with
  | .restartFired => .restartFired
  | .restartDeferred => if result = .restartNone then .restartDeferred else result
  | .restartNone => result

def turn : Ledger :=
  match turnOf statuses fields with
  | .skip => ledger
  | .up => { ledger with restarts := ledger.restarts.erase fields.id }
  | .exited => ledger.settled fields

def outcome (result : RestartPassResult) : RestartPassResult :=
  match turnOf statuses fields with
  | .skip | .up => result
  | .exited => ledger.reported fields result

theorem turn_cases :
    ledger.turn statuses fields = ledger ∨
      turnOf statuses fields = .up ∧
        ledger.turn statuses fields = { ledger with restarts := ledger.restarts.erase fields.id } ∨
      Fires statuses ledger fields ∧ ledger.turn statuses fields = ledger.fire fields.id := by
  unfold turn settled Fires
  cases turnOf statuses fields with
  | skip => exact .inl rfl
  | up => exact .inr (.inl ⟨rfl, rfl⟩)
  | exited =>
    cases ledger.decision fields with
    | restartFired => exact .inr (.inr ⟨⟨rfl, rfl⟩, rfl⟩)
    | restartDeferred | restartNone => exact .inl rfl

theorem turn_now : (ledger.turn statuses fields).now = ledger.now := by
  rcases turn_cases statuses ledger fields with hs | ⟨-, hs⟩ | ⟨-, hs⟩
  all_goals simp [hs, fire]

theorem lookup_turn {id : String} (ho : fields.id ≠ id) :
    (ledger.turn statuses fields).restarts.lookup id = ledger.restarts.lookup id := by
  rcases turn_cases statuses ledger fields with hs | ⟨-, hs⟩ | ⟨-, hs⟩
  · rw [hs]
  · rw [hs]
    exact Finmap.lookup_erase_ne ho.symm
  · rw [hs]
    exact Finmap.lookup_insert_of_ne _ ho.symm

theorem count_turn {id : String} (ho : fields.id ≠ id) :
    (ledger.turn statuses fields).relaunched.count id = ledger.relaunched.count id := by
  rcases turn_cases statuses ledger fields with hs | ⟨-, hs⟩ | ⟨-, hs⟩
  · rw [hs]
  · rw [hs]
  · simp [hs, fire, ho]

variable {statuses ledger fields} {result : RestartPassResult}

theorem outcome_eq_none (hn : ledger.outcome statuses fields result = .restartNone) :
    result = .restartNone ∧ ¬ Owes statuses ledger fields := by
  unfold outcome reported at hn
  unfold Owes
  cases ht : turnOf statuses fields with
  | skip | up =>
    simp only [ht] at hn
    exact ⟨hn, by simp⟩
  | exited =>
    simp only [ht] at hn
    cases hd : ledger.decision fields with
    | restartFired => simp [hd] at hn
    | restartDeferred =>
      simp only [hd] at hn
      split at hn
      · cases hn
      · exact absurd hn ‹_›
    | restartNone =>
      simp only [hd] at hn
      exact ⟨hn, by simp⟩

variable (statuses ledger fields) in
theorem outcome_fired : ledger.outcome statuses fields .restartFired = .restartFired := by
  unfold outcome reported
  cases turnOf statuses fields with
  | skip | up => rfl
  | exited => cases ledger.decision fields <;> rfl

theorem turn_of_fires (hf : Fires statuses ledger fields) :
    ledger.turn statuses fields = ledger.fire fields.id := by
  simp [turn, settled, hf.1, hf.2]

theorem relaunched_of_not_fires (hq : ¬ Fires statuses ledger fields) :
    (ledger.turn statuses fields).relaunched = ledger.relaunched := by
  rcases turn_cases statuses ledger fields with hs | ⟨-, hs⟩ | ⟨hf, -⟩
  · rw [hs]
  · rw [hs]
  · exact absurd hf hq

end Ledger

def stampedRestart (now : Time) (id : String) (cell : Cell) : Cell :=
  { cell with status.containers := stampContainerRestart now id cell.status.containers }

/-- The cell in hand after a decision: another one, read again from disk, if a container was
    relaunched. -/
def Passed (doc : Cell → Prop) (ledger : Ledger) (fields : RestartFields) (cell passed : Cell) :
    Prop :=
  (ledger.decision fields = .restartFired →
    ∃ started, doc started ∧ Populated started ∧
      passed = stampedRestart ledger.now fields.id started) ∧
  (ledger.decision fields ≠ .restartFired → passed = cell)

section Programs

variable {doc : Cell → Prop} (handed : HandedOn doc)
include handed

theorem restartExited_custody (ledger : Ledger) (start : StartInputs) (cell : Cell)
    (spec : ContainerSpec) (result : RestartPassResult)
    (hh : ledger.decision (restartFields spec) = .restartFired → doc cell) :
    ⦃fun host => ⌜Custody doc ledger host⌝⦄ restartExited start cell spec result
    ⦃post⟨fun passed host => ⌜Custody doc (ledger.settled (restartFields spec)) host ∧
        passed.2 = ledger.reported (restartFields spec) result ∧
        Passed doc ledger (restartFields spec) cell passed.1⌝,
      fun _ host => ⌜ledger.decision (restartFields spec) = .restartFired ∧
        Custody doc (ledger.settled (restartFields spec)) host⌝⟩⦄ := by
  have hl := startContainer_custody handed
    { ledger with relaunched := ledger.relaunched ++ [spec.id] } start
  have hlg : ∀ host, Custody doc ledger host →
      Custody doc { ledger with relaunched := ledger.relaunched ++ [spec.id] }
        (host.logged (.relaunching spec.id)) := by
    intro host hk
    exact ⟨(ledger_relaunching host spec.id).trans (by rw [hk.ledger]), hk.disk⟩
  have hrc : ∀ host : CellHost,
      Custody doc { ledger with relaunched := ledger.relaunched ++ [spec.id] } host →
      Custody doc (ledger.fire spec.id)
        { host with
          restarts := host.restarts.insert spec.id
            { attempts := ((host.restarts.lookup spec.id).getD {}).attempts + 1
              lastAttempt := host.now } } := by
    rintro host ⟨hs, hds⟩
    refine ⟨?_, hds⟩
    have now : host.now = ledger.now := congrArg Ledger.now hs
    have hrs : host.restarts = ledger.restarts := congrArg Ledger.restarts hs
    have hr : relaunches host.trace = ledger.relaunched ++ [spec.id] :=
      congrArg Ledger.relaunched hs
    simp only [CellHost.ledger, Ledger.fire, now, hrs, hr]
  have hd : ∀ host, Custody doc ledger host → host.now = ledger.now ∧
      restartDecisionFor host.now (host.restarts.lookup spec.id) spec.restartPolicy
        (effectiveRestartBackoff spec) (effectiveOnFailureMaxRestarts spec) =
          ledger.decision (restartFields spec) := by
    intro host hk
    rw [← hk.ledger]
    exact ⟨rfl, rfl⟩
  have hn : (restartFields spec).id = spec.id := rfl
  mvcgen [restartExited, attempt, log, recordRestartAttempt, hl]
  all_goals grind [Passed, Ledger.settled, Ledger.reported, stampedRestart]

omit handed in
theorem clearRestartState_custody (doc : Cell → Prop) (ledger : Ledger) (id : String) :
    ⦃fun host => ⌜Custody doc ledger host⌝⦄ clearRestartState id
    ⦃post⟨fun _ host => ⌜Custody doc { ledger with restarts := ledger.restarts.erase id } host⌝,
      fun _ _ => ⌜False⌝⟩⦄ := by
  mvcgen [clearRestartState]
  rename_i host hk _
  refine ⟨?_, hk.disk⟩
  rw [← hk.ledger]
  rfl

def Turned (doc : Cell → Prop) (statuses : List ContainerStatus) (ledger : Ledger)
    (fields : RestartFields) (cell turned : Cell) : Prop :=
  (Ledger.Fires statuses ledger fields →
    ∃ started, doc started ∧ Populated started ∧
      turned = stampedRestart ledger.now fields.id started) ∧
  (¬ Ledger.Fires statuses ledger fields → turned = cell)

theorem restartTurn_custody (ledger : Ledger) (starts : Nat → StartInputs)
    (statuses : List ContainerStatus) (index : Nat) (cell : Cell) (spec : ContainerSpec)
    (result : RestartPassResult)
    (hh : Ledger.Fires statuses ledger (restartFields spec) → doc cell)
    (hd : cell.spec.containers[index]? = some spec) :
    ⦃fun host => ⌜Custody doc ledger host⌝⦄ restartTurn starts statuses index cell result
    ⦃post⟨fun passed host => ⌜Custody doc (ledger.turn statuses (restartFields spec)) host ∧
        passed.2 = ledger.outcome statuses (restartFields spec) result ∧
        Turned doc statuses ledger (restartFields spec) cell passed.1⌝,
      fun _ host => ⌜Ledger.Fires statuses ledger (restartFields spec) ∧
        Custody doc (ledger.turn statuses (restartFields spec)) host⌝⟩⦄ := by
  have hr := restartExited_custody handed ledger (starts index)
  have hc := clearRestartState_custody doc ledger
  have fields : (restartFields spec).id = spec.id ∧ (restartFields spec).root = spec.root ∧
      (restartFields spec).policy = spec.restartPolicy := ⟨rfl, rfl, rfl⟩
  mvcgen [restartTurn, hr, hc]
  all_goals grind [Turned, Passed, turnOf, Ledger.turn, Ledger.outcome, Ledger.Fires]

end Programs

namespace Ledger

variable (statuses : List ContainerStatus)

def turns (ledger : Ledger) (all : List RestartFields) : Ledger :=
  all.foldl (fun ledger fields => ledger.turn statuses fields) ledger

def outcomes (ledger : Ledger) (result : RestartPassResult) :
    List RestartFields → RestartPassResult
  | [] => result
  | fields :: rest =>
    outcomes (ledger.turn statuses fields) (ledger.outcome statuses fields result) rest

def Quiet (ledger : Ledger) : List RestartFields → Prop
  | [] => True
  | fields :: rest => ¬ Fires statuses ledger fields ∧ Quiet (ledger.turn statuses fields) rest

theorem turns_cons (ledger : Ledger) (fields : RestartFields) (rest : List RestartFields) :
    ledger.turns statuses (fields :: rest) = (ledger.turn statuses fields).turns statuses rest :=
  rfl

theorem turns_append (ledger : Ledger) (done rest : List RestartFields) :
    ledger.turns statuses (done ++ rest) = (ledger.turns statuses done).turns statuses rest :=
  List.foldl_append

theorem lookup_turns {id : String} (ledger : Ledger) {all : List RestartFields}
    (ho : ∀ fields ∈ all, fields.id ≠ id) :
    (ledger.turns statuses all).restarts.lookup id = ledger.restarts.lookup id := by
  induction all generalizing ledger with
  | nil => rfl
  | cons fields rest ih =>
    rw [turns_cons, ih _ fun other hm => ho other (List.mem_cons_of_mem _ hm),
      lookup_turn statuses ledger fields (ho fields List.mem_cons_self)]

theorem relaunched_quiet {ledger : Ledger} {all : List RestartFields}
    (hq : ledger.Quiet statuses all) :
    (ledger.turns statuses all).relaunched = ledger.relaunched := by
  induction all generalizing ledger with
  | nil => rfl
  | cons fields rest ih => rw [turns_cons, ih hq.2, relaunched_of_not_fires hq.1]

theorem outcomes_fired (ledger : Ledger) (all : List RestartFields) :
    ledger.outcomes statuses .restartFired all = .restartFired := by
  induction all generalizing ledger with
  | nil => rfl
  | cons fields rest ih => rw [outcomes, outcome_fired, ih]

/-- A pass with no result owes nothing, whatever its turns have done so far. -/
theorem not_owes_of_outcomes {ledger : Ledger} {result : RestartPassResult}
    {all : List RestartFields} (hn : ledger.outcomes statuses result all = .restartNone) :
    result = .restartNone ∧ ∀ fields ∈ all, ¬ Owes statuses ledger fields := by
  induction all generalizing ledger result with
  | nil => exact ⟨hn, nofun⟩
  | cons first rest ih =>
    obtain ⟨ho, hl⟩ := ih hn
    obtain ⟨hst, hs⟩ := outcome_eq_none ho
    refine ⟨hst, ?_⟩
    intro fields hm
    rcases List.mem_cons.mp hm with rfl | hi
    · exact hs
    · rintro ⟨he, hd⟩
      refine hl fields hi ⟨he, ?_⟩
      -- The first turn leaves the bookkeeping of this container alone.
      have hu : (ledger.turn statuses first).restarts.lookup fields.id =
          ledger.restarts.lookup fields.id := by
        by_cases hsm : first.id = fields.id
        · rcases turn_cases statuses ledger first with ht | ⟨hsn, -⟩ | ⟨hf, -⟩
          · rw [ht]
          · unfold turnOf at hsn he
            rw [hsm] at hsn
            grind
          · exact absurd ⟨hf.1, by simp [hf.2]⟩ hs
        · exact lookup_turn statuses ledger first hsm
      unfold decision at hd ⊢
      rw [hu, turn_now]
      exact hd

end Ledger

def Reading (all : List RestartFields) : List Nat → List RestartFields → Prop :=
  List.Forall₂ fun index fields => all[index]? = some fields

def WithFields (all : List RestartFields) (cell : Cell) : Prop :=
  cell.spec.containers.map restartFields = all

instance (all : List RestartFields) (cell : Cell) : Decidable (WithFields all cell) :=
  inferInstanceAs (Decidable (_ = _))

section Turns

variable {doc : Cell → Prop} {all : List RestartFields} {statuses : List ContainerStatus}

variable {fields : RestartFields} {fs : List RestartFields} {indices : List Nat}

theorem declared_of_reading {index : Nat} {cell : Cell} (hrd : WithFields all cell)
    (hr : all[index]? = some fields) :
    ∃ spec, cell.spec.containers[index]? = some spec ∧ restartFields spec = fields := by
  rw [← hrd, List.getElem?_map] at hr
  exact Option.map_eq_some_iff.mp hr

/-- The turns before a relaunch that fails, with the container whose relaunch failed. -/
def CutShort (statuses : List ContainerStatus) (ledger : Ledger) (all : List RestartFields)
    (after : Ledger) : Prop :=
  ∃ done fields rest, all = done ++ fields :: rest ∧
    Ledger.Fires statuses (ledger.turns statuses done) fields ∧
    after = ledger.turns statuses (done ++ [fields])

theorem CutShort.cons {ledger after : Ledger} {rest : List RestartFields}
    (cut : CutShort statuses (ledger.turn statuses fields) rest after) :
    CutShort statuses ledger (fields :: rest) after := by
  obtain ⟨done, failed, last, hs, hf, rfl⟩ := cut
  exact ⟨fields :: done, failed, last, by rw [hs, List.cons_append], hf, rfl⟩

theorem CutShort.head {ledger : Ledger} {rest : List RestartFields}
    (hf : Ledger.Fires statuses ledger fields) :
    CutShort statuses ledger (fields :: rest) (ledger.turn statuses fields) :=
  ⟨[], fields, rest, rfl, hf, rfl⟩

/-- What a relaunch stamps has the property again, or nothing is relaunched after it. -/
def Sustained (doc : Cell → Prop) (statuses : List ContainerStatus) (ledger : Ledger) :
    List RestartFields → Prop
  | [] => True
  | fields :: rest =>
    (Ledger.Fires statuses ledger fields →
      (∀ started, doc started → doc (stampedRestart ledger.now fields.id started)) ∨
        (ledger.turn statuses fields).Quiet statuses rest) ∧
    Sustained doc statuses (ledger.turn statuses fields) rest

theorem sustained_of_stamp (hs : ∀ {cell} now id, doc cell → doc (stampedRestart now id cell))
    (ledger : Ledger) (fs : List RestartFields) : Sustained doc statuses ledger fs := by
  induction fs generalizing ledger with
  | nil => trivial
  | cons fields rest ih => exact ⟨fun _ => .inl fun _ => hs _ _, ih _⟩

theorem sustained_of_quiet {ledger : Ledger} {fs : List RestartFields}
    (hq : ledger.Quiet statuses fs) : Sustained doc statuses ledger fs := by
  induction fs generalizing ledger with
  | nil => trivial
  | cons fields rest ih => exact ⟨fun hf => absurd hf hq.1, ih hq.2⟩

/-- The cell in hand after the turns: the one they were given until a container is relaunched, and
    then what the last relaunch has read. -/
def Resumed (doc : Cell → Prop) (statuses : List ContainerStatus) (ledger : Ledger)
    (fs : List RestartFields) (cell resumed : Cell) : Prop :=
  (ledger.Quiet statuses fs → resumed = cell) ∧
  (¬ ledger.Quiet statuses fs → ∃ started id, doc started ∧ Populated started ∧
    (ledger.turns statuses fs).relaunched.getLast? = some id ∧
    resumed = stampedRestart ledger.now id started)

theorem Resumed.cons {ledger : Ledger} {cell turned last : Cell}
    (hr : Resumed doc statuses (ledger.turn statuses fields) fs turned last)
    (ht : Turned doc statuses ledger fields cell turned) :
    Resumed doc statuses ledger (fields :: fs) cell last := by
  refine ⟨fun hq => (hr.1 hq.2).trans (ht.2 hq.1), fun hn => ?_⟩
  by_cases hq : (ledger.turn statuses fields).Quiet statuses fs
  · have hf : Ledger.Fires statuses ledger fields := by
      by_contra hf
      exact hn ⟨hf, hq⟩
    obtain ⟨started, hs, hp, rfl⟩ := ht.1 hf
    refine ⟨started, fields.id, hs, hp, ?_, hr.1 hq⟩
    rw [Ledger.turns_cons, Ledger.relaunched_quiet _ hq, Ledger.turn_of_fires hf]
    simp [Ledger.fire]
  · obtain ⟨started, id, hs, hp, hl, rfl⟩ := hr.2 hq
    exact ⟨started, id, hs, hp, hl, by rw [Ledger.turn_now]⟩

/-- What the turns of a pass do, until a relaunch fails. -/
theorem restartTurns_custody (statuses : List ContainerStatus) (handed : HandedOn doc)
    (hrd : ∀ {cell}, doc cell → WithFields all cell) (starts : Nat → StartInputs)
    (hr : Reading all indices fs) (ledger : Ledger) (hs : Sustained doc statuses ledger fs)
    (cell : Cell) (hc : WithFields all cell) (hh : ¬ ledger.Quiet statuses fs → doc cell)
    (result : RestartPassResult) :
    ⦃fun host => ⌜Custody doc ledger host⌝⦄ restartTurns starts statuses indices cell result
    ⦃post⟨fun passed host => ⌜Custody doc (ledger.turns statuses fs) host ∧
        passed.2 = ledger.outcomes statuses result fs ∧
        Resumed doc statuses ledger fs cell passed.1⌝,
      fun _ host => ⌜∃ after, CutShort statuses ledger fs after ∧ Custody doc after host⌝⟩⦄ := by
  induction hr generalizing ledger cell result with
  | nil =>
    mvcgen [restartTurns]
    exact ⟨‹_›, rfl, fun _ => rfl, fun hn => absurd trivial hn⟩
  | cons hre hrs ih =>
    rename_i index fields indices fs
    obtain ⟨spec, hd, rfl⟩ := declared_of_reading hc hre
    have htr := restartTurn_custody handed ledger starts statuses _ cell spec result
      (fun hf => hh fun hq => hq.1 hf) hd
    have hl : ∀ turned, Turned doc statuses ledger (restartFields spec) cell turned →
        WithFields all turned ∧
          (¬ (ledger.turn statuses (restartFields spec)).Quiet statuses fs → doc turned) := by
      intro turned ht
      by_cases hf : Ledger.Fires statuses ledger (restartFields spec)
      · obtain ⟨started, hk, -, rfl⟩ := ht.1 hf
        have hw : WithFields all started := hrd hk
        exact ⟨hw, fun hn => ((hs.1 hf).resolve_right hn) started hk⟩
      · rw [ht.2 hf]
        exact ⟨hc, fun hn => hh fun hq => hn hq.2⟩
    have hlt := fun turned ht result => ih (ledger.turn statuses (restartFields spec)) hs.2 turned
      (hl turned ht).1 (hl turned ht).2 result
    mvcgen [restartTurns, htr, hlt]
    all_goals grind [CutShort.cons, CutShort.head, Ledger.turns_cons, Ledger.outcomes, Resumed.cons]

theorem handedOn_true : HandedOn fun _ => True :=
  ⟨fun _ _ _ => trivial, fun _ _ _ => trivial, fun _ => trivial⟩

theorem custody_true (host : CellHost) : Custody (fun _ => True) host.ledger host :=
  ⟨rfl, fun _ _ => trivial⟩

theorem restartTurn_fired (starts : Nat → StartInputs) (statuses : List ContainerStatus)
    (index : Nat) (passed : Cell × RestartPassResult) :
    ⦃fun _ => ⌜passed.2 = .restartFired⌝⦄ restartTurn starts statuses index passed.1 passed.2
    ⦃post⟨fun next _ => ⌜next.2 = .restartFired⌝, fun _ _ => ⌜True⌝⟩⦄ := by
  cases hd : passed.1.spec.containers[index]? with
  | none =>
    simp only [restartTurn, hd]
    mvcgen
  | some spec =>
    refine triple_of_runs fun host hf => ⟨?_, fun _ _ => trivial⟩
    intro next he
    have ht := restartTurn_custody handedOn_true host.ledger starts statuses index passed.1 spec
      passed.2 (fun _ => trivial) hd
    rw [((of_triple ht (custody_true host)).1 next he).2.1, hf]
    exact Ledger.outcome_fired statuses host.ledger (restartFields spec)

/-- A pass without a result has gone over the containers of the cell it was given, on any host. -/
theorem restartTurns_none (starts : Nat → StartInputs) (statuses : List ContainerStatus)
    (hrd : Reading all indices fs) (ledger : Ledger) (cell : Cell) (hrs : WithFields all cell)
    (result : RestartPassResult) :
    ⦃fun host => ⌜Custody (fun _ => True) ledger host⌝⦄
      restartTurns starts statuses indices cell result
    ⦃post⟨fun passed _ => ⌜passed.2 ≠ .restartFired → passed.1 = cell ∧
        passed.2 = ledger.outcomes statuses result fs⌝,
      fun _ _ => ⌜True⌝⟩⦄ := by
  induction hrd generalizing ledger result with
  | nil =>
    mvcgen [restartTurns]
    exact fun _ => ⟨trivial, rfl⟩
  | cons hre hrt ih =>
    rename_i index fields indices fs
    obtain ⟨spec, hd, rfl⟩ := declared_of_reading hrs hre
    have htr := restartTurn_custody handedOn_true ledger starts statuses _ cell spec result
      (fun _ => trivial) hd
    have hl : ∀ passed : Cell × RestartPassResult,
        passed.2 = ledger.outcome statuses (restartFields spec) result →
        Turned (fun _ => True) statuses ledger (restartFields spec) cell passed.1 →
        ⦃fun host => ⌜Custody (fun _ => True) (ledger.turn statuses (restartFields spec)) host⌝⦄
          restartTurns starts statuses indices passed.1 passed.2
        ⦃post⟨fun last _ => ⌜last.2 ≠ .restartFired → last.1 = cell ∧
            last.2 = (ledger.turn statuses (restartFields spec)).outcomes statuses
              (ledger.outcome statuses (restartFields spec) result) fs⌝,
          fun _ _ => ⌜True⌝⟩⦄ := by
      intro passed hr ht
      by_cases hf : Ledger.Fires statuses ledger (restartFields spec)
      · have hfr : passed.2 = .restartFired := by
          rw [hr]
          simp [Ledger.outcome, Ledger.reported, hf.1, hf.2]
        have hen := restartTurns_rule passed fun index (_ : index ∈ indices) =>
          restartTurn_fired starts statuses index
        refine triple_of_runs fun host _ => ⟨?_, fun _ _ => trivial⟩
        intro last he hu
        exact absurd ((of_triple hen hfr).1 last he) hu
      · rw [ht.2 hf, hr]
        exact ih _ _
    mvcgen [restartTurns, htr, hl]
    all_goals grind [Ledger.outcomes]

end Turns

def passOpen (cell : Cell) : Bool := cell.status.readyObserved && !rootDown cell

theorem reading_range (all : List RestartFields) : Reading all (List.range all.length) all := by
  refine List.forall₂_iff_get.mpr ⟨by simp, ?_⟩
  intro index hi hin
  simp

section Pass

variable {all : List RestartFields} (starts : Nat → StartInputs) (cell : Cell)

theorem maybeRestart_closed (hc : passOpen cell = false) :
    maybeRestartExitedContainers starts cell = pure (cell, .restartNone) := by
  unfold maybeRestartExitedContainers
  unfold passOpen at hc
  cases ho : cell.status.readyObserved with
  | false => rfl
  | true =>
    have hd : rootDown cell = true := by simpa [ho] using hc
    simp [hd]

theorem maybeRestart_open (hi : passOpen cell = true) (hr : WithFields all cell) :
    maybeRestartExitedContainers starts cell =
      restartTurns starts cell.status.containers (List.range all.length) cell .restartNone := by
  unfold maybeRestartExitedContainers
  unfold passOpen at hi
  simp only [Bool.and_eq_true, Bool.not_eq_true'] at hi
  rw [← hr, List.length_map]
  simp [hi.1, hi.2]

/-- A pass without a relaunch leaves the cell as it is; one without a result owes nothing. -/
theorem maybeRestart_unfired {host : CellHost} {passed : Cell × RestartPassResult}
    (he : ending (maybeRestartExitedContainers starts cell) host = .ok passed)
    (hu : passed.2 ≠ .restartFired) :
    passed.1 = cell ∧ (passed.2 = .restartNone → passOpen cell = true →
      ∀ spec ∈ cell.spec.containers,
        ¬ Ledger.Owes cell.status.containers host.ledger (restartFields spec)) := by
  cases hi : passOpen cell with
  | false =>
    rw [maybeRestart_closed starts cell hi] at he
    cases he
    exact ⟨rfl, nofun⟩
  | true =>
    rw [maybeRestart_open starts cell hi rfl] at he
    have hp := restartTurns_none starts cell.status.containers
      (reading_range (cell.spec.containers.map restartFields)) host.ledger cell rfl .restartNone
    obtain ⟨hs, hr⟩ := (of_triple hp (custody_true host)).1 passed he hu
    refine ⟨hs, ?_⟩
    intro hn _ spec hm
    rw [hr] at hn
    exact (Ledger.not_owes_of_outcomes _ hn).2 _ (List.mem_map_of_mem hm)

end Pass

end Kukeon.Runner
