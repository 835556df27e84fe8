import Kukeon.Lib.Runs
import Kukeon.Runner.Derivation

/-! # The exit record of a container

Every pass of `populateCellContainerStatuses` merges one observation into the record of a container.
An observation may carry an exit, show the container ready or say nothing about exits at all; the
record is what is left of a whole sequence of them. `ContainerLife` is the part of a status that is
handed from one pass to the next, and `ContainerLife.observe` what one observation does to it.
-/

namespace Kukeon.Runner

open ModelHub Runs

structure ContainerLife where
  createdAt : Time
  startTime : Time
  restartCount : Int
  finishTime : Time
  exitCode : Int

def lifeOf (status : ContainerStatus) : ContainerLife where
  createdAt := status.createdAt
  startTime := status.startTime
  restartCount := status.restartCount
  finishTime := status.finishTime
  exitCode := status.exitCode

def lifeOnRecord (statuses : List ContainerStatus) (containerID : String) : ContainerLife :=
  lifeOf ((Keyed.find ContainerStatus.id containerID statuses).getD {})

/-- The observation is of an exit: the container does not run, and the time of its end is known. -/
def ContainerObservation.IsExit (seen : ContainerObservation) : Prop :=
  seen.state ≠ .ready ∧ seen.exitTime ≠ 0

/-- The observation neither shows the container ready nor an exit of it. -/
def ContainerObservation.Silent (seen : ContainerObservation) : Prop :=
  seen.state ≠ .ready ∧ seen.exitTime = 0

def exitAfter (exit : Time × Int) (seen : ContainerObservation) : Time × Int :=
  if seen.state = .ready then (0, 0)
  else if seen.exitTime ≠ 0 then (seen.exitTime, seen.exitCode)
  else exit

def ContainerLife.exit (life : ContainerLife) : Time × Int := (life.finishTime, life.exitCode)

def ContainerLife.observe (life : ContainerLife) (observed : Time × ContainerObservation) :
    ContainerLife where
  createdAt := if life.createdAt = 0 then observed.1 else life.createdAt
  startTime :=
    if life.startTime = 0 ∧ observed.2.state = .ready then observed.1 else life.startTime
  restartCount := life.restartCount
  finishTime := (exitAfter life.exit observed.2).1
  exitCode := (exitAfter life.exit observed.2).2

theorem life_populatedStatus (now : Time) (survey : Survey) (prior : List ContainerStatus)
    (index : Nat) (spec : ContainerSpec) :
    lifeOf (populatedStatus now survey prior index spec) =
      (lifeOnRecord prior spec.id).observe (now, survey.seen index) :=
  rfl

theorem signal_populatedStatus (now : Time) (survey : Survey) (prior : List ContainerStatus)
    (index : Nat) (spec : ContainerSpec) :
    (populatedStatus now survey prior index spec).exitSignal =
      exitSignalName (populatedStatus now survey prior index spec).exitCode :=
  rfl

def populatePass (cell : Cell) (pass : Time × Survey) : Cell :=
  populateCellContainerStatuses pass.1 pass.2 cell

/-- What a pass observes of the container that answers to the name. -/
def observedIn (specs : List ContainerSpec) (containerID : String) (pass : Time × Survey) :
    Time × ContainerObservation :=
  (pass.1, pass.2.seen (Keyed.lastIdx ContainerSpec.id containerID specs))

theorem run_populatePass_spec (cell : Cell) (passes : List (Time × Survey)) :
    (run populatePass cell passes).spec = cell.spec := by
  induction passes generalizing cell with
  | nil => rfl
  | cons pass rest ih => exact ih (populatePass cell pass)

theorem lifeOnRecord_populatePass {cell : Cell} {containerID : String}
    (hd : containerID ∈ cell.spec.containers.map ContainerSpec.id) (pass : Time × Survey) :
    lifeOnRecord (populatePass cell pass).status.containers containerID =
      (lifeOnRecord cell.status.containers containerID).observe
        (observedIn cell.spec.containers containerID pass) := by
  have hp : (Keyed.find ContainerSpec.id containerID cell.spec.containers).isSome := by
    rw [Keyed.find_isSome, Keyed.keys, List.mem_dedup]
    exact hd
  obtain ⟨spec, hf⟩ := Option.isSome_iff_exists.mp hp
  have hn : spec.id = containerID := (Keyed.find_some hf).2
  have hr : Keyed.find ContainerStatus.id containerID
      (populatePass cell pass).status.containers = _ :=
    Keyed.find_mapIdx fun _ _ => populatedStatus_id
  rw [lifeOnRecord, hr, hf, Option.map_some, Option.getD_some, life_populatedStatus, hn]
  rfl

theorem lifeOnRecord_run {cell : Cell} {containerID : String}
    (hd : containerID ∈ cell.spec.containers.map ContainerSpec.id)
    (passes : List (Time × Survey)) :
    lifeOnRecord (run populatePass cell passes).status.containers containerID =
      (passes.map (observedIn cell.spec.containers containerID)).foldl ContainerLife.observe
        (lifeOnRecord cell.status.containers containerID) := by
  induction passes generalizing cell with
  | nil => rfl
  | cons pass rest ih =>
    have hl : containerID ∈ (populatePass cell pass).spec.containers.map ContainerSpec.id :=
      hd
    have hlt := ih hl
    rw [lifeOnRecord_populatePass hd] at hlt
    exact hlt

def firstSet (prior : Time) (times : List Time) : Time :=
  if prior ≠ 0 then prior else (times.find? (· ≠ 0)).getD 0

theorem firstSet_cons (prior time : Time) (times : List Time) :
    firstSet (if prior = 0 then time else prior) times = firstSet prior (time :: times) := by
  unfold firstSet
  by_cases hu : prior = 0
  · by_cases hb : time = 0
    · simp [hu, hb]
    · simp [hu, hb]
  · simp [hu]

/-- The exit stems from the last observation that is not silent: it is the one observed there, or
    none if the container was ready. Without such an observation it is the one from before. -/
inductive ExitStems (prior : Time × Int) (history : List ContainerObservation) : Time × Int → Prop
  | exit {earlier seen later} (split : history = earlier ++ seen :: later) (ended : seen.IsExit)
      (silent : ∀ next ∈ later, next.Silent) :
      ExitStems prior history (seen.exitTime, seen.exitCode)
  | ready {earlier seen later} (split : history = earlier ++ seen :: later)
      (up : seen.state = .ready) (silent : ∀ next ∈ later, next.Silent) :
      ExitStems prior history (0, 0)
  | untouched (silent : ∀ seen ∈ history, seen.Silent) : ExitStems prior history prior

theorem ExitStems.silently {prior exit : Time × Int} {history : List ContainerObservation}
    (hst : ExitStems prior history exit) {seen : ContainerObservation} (hs : seen.Silent) :
    ExitStems prior (history ++ [seen]) exit := by
  have he : ∀ {later : List ContainerObservation}, (∀ next ∈ later, next.Silent) →
      ∀ next ∈ later ++ [seen], next.Silent := by
    intro later hq next hm
    rcases List.mem_append.mp hm with old | new
    · exact hq next old
    · exact List.mem_singleton.mp new ▸ hs
  cases hst with
  | exit hsp hen hq =>
    exact .exit (by rw [hsp, List.append_assoc, List.cons_append]) hen (he hq)
  | ready hsp up hq =>
    exact .ready (by rw [hsp, List.append_assoc, List.cons_append]) up (he hq)
  | untouched hq => exact .untouched (he hq)

theorem exitStems_foldl (prior : Time × Int) (history : List ContainerObservation) :
    ExitStems prior history (history.foldl exitAfter prior) := by
  induction history using List.reverseRecOn with
  | nil => exact .untouched nofun
  | append_singleton earlier seen ih =>
    rw [List.foldl_append]
    show ExitStems prior (earlier ++ [seen]) (exitAfter _ seen)
    unfold exitAfter
    split
    next up => exact .ready rfl up nofun
    next hd =>
      split
      next he => exact .exit rfl ⟨hd, he⟩ nofun
      next hn => exact ih.silently ⟨hd, not_not.mp hn⟩

section Fold

variable (life : ContainerLife) (history : List (Time × ContainerObservation))

theorem exit_foldl : (history.foldl ContainerLife.observe life).exit =
    (history.map Prod.snd).foldl exitAfter life.exit := by
  induction history generalizing life with
  | nil => rfl
  | cons observed rest ih => exact ih (life.observe observed)

theorem createdAt_foldl : (history.foldl ContainerLife.observe life).createdAt =
    firstSet life.createdAt (history.map Prod.fst) := by
  induction history generalizing life with
  | nil => simp [firstSet]
  | cons observed rest ih =>
    rw [List.map_cons, ← firstSet_cons]
    exact ih (life.observe observed)

theorem startTime_foldl : (history.foldl ContainerLife.observe life).startTime =
    firstSet life.startTime
      ((history.filter fun observed => observed.2.state = .ready).map Prod.fst) := by
  induction history generalizing life with
  | nil => simp [firstSet]
  | cons observed rest ih =>
    rw [List.foldl_cons, ih]
    by_cases up : observed.2.state = .ready
    · rw [List.filter_cons_of_pos (by simpa using up), List.map_cons, ← firstSet_cons]
      simp [ContainerLife.observe, up]
    · rw [List.filter_cons_of_neg (by simpa using up)]
      simp [ContainerLife.observe, up]

theorem restartCount_foldl :
    (history.foldl ContainerLife.observe life).restartCount = life.restartCount := by
  induction history generalizing life with
  | nil => rfl
  | cons observed rest ih => exact ih (life.observe observed)

end Fold

/-- What the status of a container has left of everything that was observed of it. -/
structure ConsistentRecord (prior : ContainerLife) (history : List (Time × ContainerObservation))
    (status : ContainerStatus) : Prop where
  exit : ExitStems prior.exit (history.map Prod.snd) (status.finishTime, status.exitCode)
  exitSignal : status.exitSignal = exitSignalName status.exitCode
  createdAt : status.createdAt = firstSet prior.createdAt (history.map Prod.fst)
  startTime : status.startTime = firstSet prior.startTime
    ((history.filter fun observed => observed.2.state = .ready).map Prod.fst)
  restartCount : status.restartCount = prior.restartCount

/-- The exit of a container that had no record is one that was observed, or there is none. -/
theorem ConsistentRecord.one_exit {prior : ContainerLife}
    {history : List (Time × ContainerObservation)} {status : ContainerStatus}
    (hc : ConsistentRecord prior history status) (hb : prior.exit = (0, 0)) :
    (∃ seen ∈ history.map Prod.snd, seen.IsExit ∧ status.finishTime = seen.exitTime ∧
        status.exitCode = seen.exitCode ∧ status.exitSignal = exitSignalName seen.exitCode) ∨
      status.finishTime = 0 ∧ status.exitCode = 0 ∧ status.exitSignal = "" := by
  obtain ⟨he, hs, -, -, -⟩ := hc
  have hz : (status.finishTime, status.exitCode) = (0, 0) →
      status.finishTime = 0 ∧ status.exitCode = 0 ∧ status.exitSignal = "" := by
    intro hn
    obtain ⟨ht, hcd⟩ := Prod.mk.inj hn
    rw [hcd] at hs
    exact ⟨ht, hcd, hs⟩
  generalize hst : (status.finishTime, status.exitCode) = triple at he
  cases he with
  | exit hsp hen hsl =>
    obtain ⟨ht, hcd⟩ := Prod.mk.inj hst
    rw [hcd] at hs
    exact .inl ⟨_, by rw [hsp]; simp, hen, ht, hcd, hs⟩
  | ready hsp up hsl => exact .inr (hz hst)
  | untouched hsl => exact .inr (hz (hst.trans hb))

/-- After any sequence of passes the record of every container is consistent with what the passes
    have observed of it. -/
theorem exit_record_consistent (cell : Cell) (passes : List (Time × Survey)) (last : Time × Survey)
    (index : Nat) (spec : ContainerSpec) (declared : cell.spec.containers[index]? = some spec) :
    ∃ status, (run populatePass cell (passes ++ [last])).status.containers[index]? = some status ∧
      status.id = spec.id ∧
      ConsistentRecord (lifeOnRecord cell.status.containers spec.id)
        (passes.map (observedIn cell.spec.containers spec.id) ++ [(last.1, last.2.seen index)])
        status ∧
      (Keyed.find ContainerStatus.id spec.id cell.status.containers = none →
        (∃ seen ∈ passes.map (fun pass => (observedIn cell.spec.containers spec.id pass).2) ++
            [last.2.seen index],
          seen.IsExit ∧ status.finishTime = seen.exitTime ∧ status.exitCode = seen.exitCode ∧
            status.exitSignal = exitSignalName seen.exitCode) ∨
        status.finishTime = 0 ∧ status.exitCode = 0 ∧ status.exitSignal = "") := by
  have hl : spec.id ∈ cell.spec.containers.map ContainerSpec.id :=
    List.mem_map_of_mem (List.mem_of_getElem? declared)
  let before := run populatePass cell passes
  let status := populatedStatus last.1 last.2 before.status.containers index spec
  have life : lifeOf status = (passes.map (observedIn cell.spec.containers spec.id) ++
      [(last.1, last.2.seen index)]).foldl ContainerLife.observe
        (lifeOnRecord cell.status.containers spec.id) := by
    rw [List.foldl_append, ← lifeOnRecord_run hl]
    exact life_populatedStatus last.1 last.2 before.status.containers index spec
  have hc : ConsistentRecord (lifeOnRecord cell.status.containers spec.id)
      (passes.map (observedIn cell.spec.containers spec.id) ++ [(last.1, last.2.seen index)])
      status := by
    refine ⟨?_, signal_populatedStatus .., ?_, ?_, ?_⟩
    · have he : (status.finishTime, status.exitCode) = (lifeOf status).exit := rfl
      rw [he, life, exit_foldl]
      exact exitStems_foldl _ _
    · exact (congrArg ContainerLife.createdAt life).trans (createdAt_foldl _ _)
    · exact (congrArg ContainerLife.startTime life).trans (startTime_foldl _ _)
    · exact (congrArg ContainerLife.restartCount life).trans (restartCount_foldl _ _)
  refine ⟨status, ?_, populatedStatus_id, hc, ?_⟩
  · rw [run_append]
    show (populateCellContainerStatuses last.1 last.2 before).status.containers[index]? = _
    unfold populateCellContainerStatuses
    rw [List.getElem?_mapIdx, run_populatePass_spec, declared]
    rfl
  · intro hu
    have hb : (lifeOnRecord cell.status.containers spec.id).exit = (0, 0) := by
      rw [lifeOnRecord, hu]
      rfl
    have ho := hc.one_exit hb
    rwa [List.map_append, List.map_map] at ho

/-- A container is seen running and then with an exit. -/
theorem exit_record_consistent_of_crash :
    ∃ status, (run populatePass { spec := { containers := [{ id := "app" }] } }
          ([(10, .all .ready)] ++
            [(20, { observation := fun _ => .ok { state := .error, exitCode := 137, exitTime := 15 } })])
        ).status.containers[0]? = some status ∧
      status.id = "app" ∧ status.createdAt = 10 ∧ status.startTime = 10 := by
  obtain ⟨status, hf, hn, hc, -⟩ := exit_record_consistent
    { spec := { containers := [{ id := "app" }] } } [(10, .all .ready)]
    (20, { observation := fun _ => .ok { state := .error, exitCode := 137, exitTime := 15 } })
    0 { id := "app" } rfl
  exact ⟨status, hf, hn, hc.createdAt, hc.startTime⟩

end Kukeon.Runner
