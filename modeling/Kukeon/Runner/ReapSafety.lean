import Kukeon.Runner.Derivation
import Kukeon.Runner.TickRules

/-! # A tick reaps only what has finished

A tick can delete a cell or kill its containers at two gates, auto-delete and wind-down. Both are
shut unless the cell has been up and every workload was seen to finish cleanly in this very tick. The
other way a tick kills is the cleanup after a relaunch that failed.
-/

namespace Kukeon.Runner

open ModelHub Effect

/-- The cell is deleted, or killed before anything was marked failed. -/
def Reaps (trace : List Event) : Prop :=
  .deleted ∈ trace ∨
    ∃ before ids after, trace = before ++ .killed ids :: after ∧
      ∀ reason, Event.markedFailed reason ∉ before

theorem reaps_concat {trace : List Event} {event : Event} (hr : Reaps (trace ++ [event])) :
    Reaps trace ∨ event = .deleted ∨
      (∃ ids, event = .killed ids) ∧ ∀ reason, Event.markedFailed reason ∉ trace := by
  cases hr with
  | inl hd =>
    rcases List.mem_append.mp hd with old | new
    · exact .inl (.inl old)
    · exact .inr (.inl (List.mem_singleton.mp new).symm)
  | inr hk =>
    obtain ⟨before, ids, after, hs, hu⟩ := hk
    rcases List.eq_nil_or_concat after with he | ⟨rest, last, hc⟩
    · -- The kill is the new event.
      rw [he] at hs
      obtain ⟨hsm, hi⟩ := List.append_inj' hs rfl
      rw [hsm]
      exact .inr (.inr ⟨⟨ids, (List.cons.inj hi).1⟩, hu⟩)
    · -- The kill was there before.
      rw [hc, List.concat_eq_append, ← List.cons_append, ← List.append_assoc] at hs
      obtain ⟨hsm, _⟩ := List.append_inj' hs rfl
      exact .inl (.inr ⟨before, ids, rest, hsm, hu⟩)

/-- A cell may be reaped when it is due; a failure also allows to kill. -/
def reapRules (due : Prop) : Rules where
  inv host := Reaps host.trace → due
  doc _ _ := True
  relaunch _ := True
  kill trace := due ∨ ∃ reason, .markedFailed reason ∈ trace
  reap := due

theorem reapRules_logged {due : Prop} {host : CellHost} {event : Event}
    (hh : (reapRules due).inv host) (hkp : event ≠ .deleted) (hs : ∀ ids, event ≠ .killed ids) :
    (reapRules due).inv (host.logged event) := by
  intro hr
  rcases reaps_concat hr with old | hd | ⟨⟨ids, hk⟩, _⟩
  · exact hh old
  · exact absurd hd hkp
  · exact absurd hk (hs ids)

theorem reapRules_sound (due : Prop) : (reapRules due).Sound where
  edit := fun _ _ => trivial
  read := fun _ _ => trivial
  write := by
    intro host now cell doc hh _ _
    exact reapRules_logged hh (by simp) (by simp)
  idle := by
    intro host next hh _ trace _ hr
    exact hh (trace ▸ hr)
  markedFailed := by
    intro host reason hh
    exact reapRules_logged hh (by simp) (by simp)
  relaunching := by
    intro host id hh _
    exact reapRules_logged hh (by simp) (by simp)
  killed := by
    intro host ids hh may hr
    rcases reaps_concat hr with old | hd | ⟨_, hu⟩
    · exact hh old
    · cases hd
    · rcases may with hi | ⟨reason, hm⟩
      · exact hi
      · exact absurd hm (hu reason)
  kill_mono := by
    intro trace event may
    exact may.imp_right fun ⟨reason, hm⟩ => ⟨reason, List.mem_append_left _ hm⟩
  kill_after_failure := by
    intro trace reason
    exact .inr ⟨reason, by simp⟩
  kill_of_reap := .inl
  derive := fun hh _ _ => hh
  doc_derive := fun _ => trivial

/-- The cell has been up, and every workload was seen to finish cleanly. -/
structure DueForReaping (survey : Survey) (cell : Cell) : Prop where
  hasBeenUp : cell.status.readyObserved = true ∨ cell.status.state = .ready ∨
    cell.status.state = .degraded
  finished : ∀ index spec, cell.spec.containers[index]? = some spec → spec.root = false →
    ∃ seen, FinishedCleanly survey cell.status.containers index spec.id seen

theorem exited_of_reapDue {cell : Cell} (due : reapDue cell = true) :
    cell.status.state = .exited ∧ cell.status.readyObserved = true := by
  unfold reapDue shouldAutoDeleteCell shouldWindDownCell cellStateAutoDeleteTriggers at due
  cases hi : decide (cell.status.state = .exited) with
  | false => simp [hi] at due
  | true =>
    cases ho : cell.status.readyObserved with
    | false => simp [ho] at due
    | true => exact ⟨of_decide_eq_true hi, rfl⟩

theorem exited_of_gate {inputs : TickInputs} {now : Time} {original : CellStatus} {cell : Cell}
    (due : reapDue (deriveStatus inputs now original cell) = true) :
    deriveCellState inputs.rootState (populateCellContainerStatuses now inputs.survey cell) =
      .exited := by
  have he := (exited_of_reapDue due).1
  rw [deriveStatus_state] at he
  unfold derivedState at he
  cases hc : inputs.cgroup with
  | error _ =>
    rw [hc] at he
    cases he
  | ok _ =>
    rw [hc] at he
    exact he

theorem dueForReaping_of_gate {inputs : TickInputs} {now : Time} {cell healed : Cell}
    (hs : SameWork cell healed)
    (due : reapDue (deriveStatus inputs now cell.status healed) = true) :
    DueForReaping inputs.survey cell := by
  obtain ⟨he, ho⟩ := exited_of_reapDue due
  rw [deriveStatus_readyObserved, he] at ho
  refine ⟨?_, ?_⟩
  · simpa [latchReadyObserved, or_assoc] using ho
  · intro index spec hd hn
    rw [← hs.1] at hd
    rw [← hs.2.1]
    exact ⟨_, finishedCleanly_of_exited (exited_of_gate due) hd hn⟩

theorem due_of_reaps (due : Prop) (inputs : TickInputs) (cell : Cell) (host : CellHost)
    (hg : ∀ now healed, SameWork cell healed →
      reapDue (deriveStatus inputs now cell.status healed) = true → due)
    (hr : Reaps (finalState (reconcileCell inputs cell) { host with trace := [] }).trace) :
    due := by
  have hs : (reapRules due).inv { host with trace := [], derived := none } := by
    intro hr
    rcases hr with hd | ⟨before, ids, after, hsp, _⟩
    · cases hd
    · simp at hsp
  have he := reconcileCell_ends (reapRules_sound due) inputs
    (.ofAll (fun _ => trivial) inputs) cell { host with trace := [] } trivial
    (fun _ _ _ => trivial) (fun _ _ _ _ _ _ _ => trivial) hg hs
  rcases he with hh | ⟨hi, _⟩
  · exact hh hr
  · exact hi

/-- Whatever a tick observes, it reaps the cell only if the cell is due. -/
theorem tick_reaps_only_due (inputs : TickInputs) (cell : Cell) (host : CellHost)
    (reaps : Reaps (finalState (reconcileCell inputs cell) { host with trace := [] }).trace) :
    DueForReaping inputs.survey cell :=
  due_of_reaps _ inputs cell host (fun _ _ hs due => dueForReaping_of_gate hs due) reaps

/-- A cell with two workloads, of which one restarts when it fails. -/
def pairCell : Cell where
  metadata := { name := "web", generation := 1 }
  spec :=
    { id := "web", realmName := "main", spaceName := "default", stackName := "default"
      rootContainerID := "root", autoDelete := true
      containers :=
        [ { id := "root", root := true, containerdID := "default_default_web_root" },
          { id := "app", containerdID := "default_default_web_app"
            restartPolicy := restartPolicyOnFailure },
          { id := "db", containerdID := "default_default_web_db" } ] }
  status := { state := .ready, readyObserved := true }

theorem tick_reaps_only_due_of_exited :
    DueForReaping (.all .exited) pairCell :=
  tick_reaps_only_due (.steady (.all .exited)) pairCell { disk := some pairCell }
    (.inl (by decide))

def oneCrashed : Survey where
  observation index :=
    if index = 1 then .ok { state := .error, exitCode := 1, exitTime := 5 }
    else .ok { state := .ready }

/-- A relaunch that fails marks the cell failed and kills the running workload with it. -/
theorem tick_kills_running_workload :
    let inputs : TickInputs :=
      { TickInputs.steady oneCrashed with
        starts := fun index =>
          { (TickInputs.steady oneCrashed).starts index with provision := .error "no space left" } }
    inputs.survey.observation 2 = .ok { state := .ready } ∧
      Event.killed ["default_default_web_app", "default_default_web_db"] ∈
        (finalState (reconcileCell inputs pairCell) { disk := some pairCell }).trace := by
  intro inputs
  refine And.intro rfl ?_
  decide

end Kukeon.Runner
