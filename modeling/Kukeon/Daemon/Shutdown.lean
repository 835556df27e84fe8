import Kukeon.Lib.Runs

/-! # Shutting the daemon down

`internal/daemon/server.go`: `Serve`, the reconcile loop it spawns and the first `Stop` run side by
side, one step at a time in any order. A later `Stop` finds `closed` set and returns at once.
-/

namespace Kukeon.Daemon.Shutdown

/-- `passing` is the network pass that `Serve` makes itself. -/
inductive ServeStage where
  | idle | listening | stored | passing | starting | accepting | returned
  deriving DecidableEq

/-- `eager` and `waiting` are the two selects; the others but the ends are passes. -/
inductive LoopStage where
  | absent | eager | eagerPass | waiting | cellPass | networkPass | gone
  deriving DecidableEq

inductive StopStage where
  | idle | marked | signalled | waited | unlistened | coreClosed | returned
  deriving DecidableEq

structure Server where
  serve : ServeStage := .idle
  loop : LoopStage := .absent
  stop : StopStage := .idle
  /-- The socket has an open listener. -/
  listens : Bool := false
  /-- `s.listener` is set. -/
  stored : Bool := false
  /-- `Stop` has found `s.listener` set. -/
  took : Bool := false
  cancelled : Bool := false
  /-- How often `core.Close` was called. -/
  closes : Nat := 0
  deriving DecidableEq

inductive Event where
  | serve
  | serveFails
  | loop
  | tick
  | stop
  | cancel
  deriving DecidableEq

/-- `stopCh` is closed. -/
def Server.signalled (s : Server) : Prop := s.stop ≠ .idle ∧ s.stop ≠ .marked

instance (s : Server) : Decidable s.signalled := inferInstanceAs (Decidable (_ ∧ _))

/-- `loopWG` is down to zero. -/
def Server.unlooped (s : Server) : Prop := s.loop = .absent ∨ s.loop = .gone

instance (s : Server) : Decidable s.unlooped := inferInstanceAs (Decidable (_ ∨ _))

def Server.passes (s : Server) : Prop :=
  s.serve = .passing ∨ s.loop = .eagerPass ∨ s.loop = .cellPass ∨ s.loop = .networkPass

def serveStep (looped : Bool) (s : Server) : Server :=
  match s.serve with
  | .idle => { s with serve := .listening, listens := true }
  | .listening => { s with serve := .stored, stored := true }
  | .stored => { s with serve := .passing }
  | .passing => { s with serve := .starting }
  | .starting => { s with serve := .accepting, loop := if looped then .eager else s.loop }
  | .accepting => if s.listens then s else { s with serve := .returned }
  | .returned => s

/-- The socket, its mode, the PID file or the service fails, or `Accept` does for another reason than
    a closed listener. -/
def serveFails (s : Server) : Server :=
  match s.serve with
  | .idle => { s with serve := .returned }
  | .listening | .stored => { s with serve := .returned, listens := false }
  | .accepting => if s.stop ≠ .idle ∨ s.cancelled then { s with serve := .returned } else s
  | _ => s

def loopStep (s : Server) : Server :=
  match s.loop with
  | .eager => { s with loop := if s.signalled ∨ s.cancelled then .gone else .eagerPass }
  | .waiting => { s with loop := if s.signalled ∨ s.cancelled then .gone else .waiting }
  | .eagerPass | .networkPass => { s with loop := .waiting }
  | .cellPass => { s with loop := .networkPass }
  | .absent | .gone => s

def stopStep (s : Server) : Server :=
  match s.stop with
  | .idle => { s with stop := .marked, took := s.stored, stored := false }
  | .marked => { s with stop := .signalled }
  | .signalled => if s.unlooped then { s with stop := .waited } else s
  | .waited => { s with stop := .unlistened, listens := s.listens && !s.took }
  | .unlistened => { s with stop := .coreClosed, closes := s.closes + 1 }
  | .coreClosed => { s with stop := .returned }
  | .returned => s

def step (looped : Bool) (s : Server) : Event → Server
  | .serve => serveStep looped s
  | .serveFails => serveFails s
  | .loop => loopStep s
  -- the select may take the ticker's case although `stopCh` is closed
  | .tick => if s.loop = .waiting then { s with loop := .cellPass } else s
  | .stop => stopStep s
  | .cancel => { s with cancelled := true }

/-- Once the core is closed no pass runs; once `Stop` has returned the loop is over, the core was
    closed once, no listener is open, and `Serve` has returned or does so at its next step. -/
structure Orderly (looped : Bool) (s : Server) : Prop where
  afterPasses : s.closes ≠ 0 → ¬ s.passes
  stopped : s.stop = .returned → s.unlooped ∧ ¬ s.passes ∧ s.closes = 1 ∧ s.listens = false ∧
    (step looped s .serve).serve = .returned

/-- `Stop` begins only once `Serve` accepts connections or has returned. -/
def Begun (s : Server) (e : Event) : Prop :=
  e = .stop → s.stop = .idle → s.serve = .accepting ∨ s.serve = .returned

@[mk_iff]
structure Sound (s : Server) : Prop where
  begun : s.stop ≠ .idle → s.serve = .accepting ∨ s.serve = .returned
  unspawned : s.serve ≠ .accepting → s.serve ≠ .returned → s.loop = .absent
  waited : s.stop ∈ [.waited, .unlistened, .coreClosed, .returned] → s.unlooped
  closes : s.closes = if s.stop ∈ [.coreClosed, .returned] then 1 else 0
  stored : s.stop = .idle → s.listens → s.serve ≠ .listening → s.stored
  took : s.stop ∈ [.marked, .signalled, .waited] → s.listens → s.took
  unlistened : s.stop ∈ [.unlistened, .coreClosed, .returned] → s.listens = false

section Steps

variable {looped : Bool} {s : Server} {e : Event} (hs : Sound s)

include hs

theorem sound_serveStep : Sound (serveStep looped s) := by
  simp only [sound_iff, serveStep] at hs ⊢
  cases hv : s.serve <;> grind [Server.unlooped]

theorem sound_serveFails : Sound (serveFails s) := by
  simp only [sound_iff, serveFails] at hs ⊢
  cases hv : s.serve <;> grind [Server.unlooped]

theorem sound_loopStep : Sound (loopStep s) := by
  simp only [sound_iff, loopStep] at hs ⊢
  cases hl : s.loop <;> grind [Server.unlooped]

theorem sound_stopStep (hb : Begun s .stop) : Sound (stopStep s) := by
  simp only [sound_iff, stopStep] at hs ⊢
  cases hp : s.stop <;> grind [Server.unlooped, Begun]

theorem sound_step (hb : Begun s e) : Sound (step looped s e) := by
  cases e with
  | serve => exact sound_serveStep hs
  | serveFails => exact sound_serveFails hs
  | loop => exact sound_loopStep hs
  | stop => exact sound_stopStep hs hb
  | tick | cancel =>
    obtain ⟨hbg, hun, hw, hc, hst, ht, hu⟩ := hs
    constructor <;> grind [step, Server.unlooped]

end Steps

theorem Sound.orderly {looped : Bool} {s : Server} (hs : Sound s) : Orderly looped s := by
  obtain ⟨hb, hun, hw, hc, hst, ht, hu⟩ := hs
  constructor
  · grind [Server.passes, Server.unlooped]
  · intro hr
    have := hb (by simp [hr])
    grind [Server.passes, Server.unlooped, step, serveStep]

theorem orderly_along {looped : Bool} {events : List Event}
    (begun : Runs.Along (step looped) Begun {} events) :
    ∀ done rest, events = done ++ rest → Orderly looped (Runs.run (step looped) {} done) := by
  intro done rest hs
  have hst : Sound {} := by constructor <;> simp
  exact (begun.invariant (fun _ _ sound => sound_step sound) hst done rest hs).orderly

theorem orderly_stop : Orderly true (Runs.run (step true) {}
    [.serve, .serve, .serve, .serve, .serve, .loop, .stop, .stop, .loop, .loop, .stop, .stop, .stop,
      .stop, .serve]) :=
  orderly_along (by simp [Runs.along_cons, Begun, Runs.Along.nil]; decide) _ [] rfl

/-- `Stop` runs between the listen and the store: it returns, the core is closed, and `Serve` goes on
    to its network pass and then waits on a listener nobody closes. -/
theorem stop_before_stored :
    let stopped := Runs.run (step true) {}
      [.serve, .stop, .stop, .stop, .stop, .stop, .stop, .serve, .serve]
    let serving := Runs.run (step true) stopped [.serve, .serve]
    stopped.stop = .returned ∧ stopped.closes = 1 ∧ stopped.serve = .passing ∧
      serving.serve = .accepting ∧ serving.listens = true ∧ step true serving .serve = serving := by
  decide

end Kukeon.Daemon.Shutdown
