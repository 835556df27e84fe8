import Kukeon.Lib.Runs
import Kukeon.Runner.Space

/-! # The space-network pass and the updates beside it

`ReconcileSpaceNetworks` of `internal/controller/reconcile.go` lists the spaces and then runs
`EnsureSpace` on each from what it listed. `EnsureSpace` takes no lock: between its writes the
operator may update the space. All of its writes go through `UpdateSpaceMetadata`, which checks the
token, but for the one that stores the path of the network configuration.
-/

namespace Kukeon.Runner

open ModelHub

def stampSpaceLifecycle (now : Time) (space : Space) : Space :=
  { space with
    status.createdAt := if space.status.createdAt = 0 then now else space.status.createdAt
    status.updatedAt := now
    status.readyAt :=
      if space.status.readyAt = 0 ∧ space.status.state = .ready then now else space.status.readyAt }

/-- The state as a document brings it back: the external states know no transition. -/
def storedSpaceState : SpaceState → SpaceState
  | .pending => .pending
  | .creating | .ready => .ready
  | .deleting | .failed => .failed
  | .unknown => .unknown

def persistedSpace (space : Space) : Space :=
  { space with status.state := storedSpaceState space.status.state }

def updateSpaceMetadata (now : Time) (disk : Option Space) (space : Space) :
    Except WriteError Space :=
  writeDocWithGeneration spaceAccess disk (persistedSpace (stampSpaceLifecycle now space))

/-- One write of `EnsureSpace`. -/
inductive SpaceWrite where
  /-- Through `WriteMetadata`, whatever is on disk. -/
  | direct (space : Space)
  /-- Through `UpdateSpaceMetadata`. -/
  | versioned (space : Space)

structure EnsureSpaceInputs where
  /-- The path of the space's network configuration. -/
  confPath : String
  /-- The cgroup had to be created. -/
  created : Bool := false
  group : String
  /-- The controllers that could be enabled, unless that failed. -/
  controllers : Option (List String) := none

/-- The writes of `ensureSpaceCNIConfig`; the space that it returns is the one it was given. -/
def networkWrites (inputs : EnsureSpaceInputs) (space : Space) : List SpaceWrite :=
  if space.spec.cniConfigPath = inputs.confPath then []
  else [.direct (persistedSpace { space with spec.cniConfigPath := inputs.confPath })]

def pathMissing (inputs : EnsureSpaceInputs) (space : Space) : Bool :=
  inputs.created || space.status.cgroupPath == ""

def groupedSpace (inputs : EnsureSpaceInputs) (space : Space) : Space :=
  if pathMissing inputs space then { space with status.cgroupPath := inputs.group } else space

/-- The write of the subtree controllers, if they could be enabled and are not those stored. -/
def controllerWrites (inputs : EnsureSpaceInputs) (space : Space) : List SpaceWrite :=
  match inputs.controllers with
  | none => []
  | some controllers =>
    if space.status.subtreeControllers = controllers then []
    else [.versioned { space with status.subtreeControllers := controllers }]

/-- The writes of `ensureSpaceCgroup`: a missing path is written at once, a path that is there in any
    case, and then the controllers. -/
def cgroupWrites (inputs : EnsureSpaceInputs) (space : Space) : List SpaceWrite :=
  (if pathMissing inputs space then [.versioned (groupedSpace inputs space)] else []) ++
    if (groupedSpace inputs space).status.cgroupPath = "" then []
    else
      .versioned (groupedSpace inputs space) ::
        controllerWrites inputs (groupedSpace inputs space)

def ensureSpaceWrites (inputs : EnsureSpaceInputs) (space : Space) : List SpaceWrite :=
  networkWrites inputs space ++ cgroupWrites inputs space

structure SpaceSystem where
  disk : Option Space := none
  /-- The space as the pass has listed it. -/
  listed : Option Space := none
  /-- The writes that the pass has still to make. -/
  pending : List SpaceWrite := []
  /-- An update was persisted since the listing. -/
  updated : Bool := false

inductive SpaceStep where
  /-- An update of the operator persists a space. -/
  | update (now : Time) (space : Space)
  | list
  /-- The pass comes to the space. -/
  | ensure (inputs : EnsureSpaceInputs)
  /-- It makes its next write. -/
  | write (now : Time)
  /-- The pass is over; what it listed is gone. -/
  | finish

namespace SpaceSystem

/-- The next write of the pass. A refused one ends the work on the space. -/
def write (system : SpaceSystem) (now : Time) : SpaceWrite → SpaceSystem
  | .direct space =>
    { system with
      disk := some (persistedSpace (stampSpaceLifecycle now space))
      pending := system.pending.tail }
  | .versioned space =>
    match updateSpaceMetadata now system.disk space with
    | .error _ => { system with pending := [] }
    | .ok doc => { system with disk := some doc, pending := system.pending.tail }

def step (system : SpaceSystem) : SpaceStep → SpaceSystem
  | .update now space =>
    match updateSpaceMetadata now system.disk space with
    | .error _ => system
    | .ok doc => { system with disk := some doc, updated := true }
  | .list => { system with listed := system.disk, pending := [], updated := false }
  | .ensure inputs =>
    match system.listed with
    | none => system
    | some space => { system with pending := ensureSpaceWrites inputs space }
  | .write now =>
    match system.pending with
    | [] => system
    | next :: _ => system.write now next
  | .finish => { system with listed := none, pending := [] }

/-- While a pass is under way, updates change the spec; and it meets spaces that have the path of
    their network configuration. -/
def Guarded (system : SpaceSystem) : SpaceStep → Prop
  | .update _ space => system.listed ≠ none → ∀ doc, system.disk = some doc → doc.spec ≠ space.spec
  | .ensure inputs => ∀ space, system.listed = some space →
      space.spec.cniConfigPath = inputs.confPath
  | .list | .write _ | .finish => True

/-- Made with the token and the spec of the space that was listed. -/
def Based (space : Space) (write : SpaceWrite) : Prop :=
  ∃ next, write = .versioned next ∧ next.metadata = space.metadata ∧ next.spec = space.spec

/-- The pass can write nothing but the space it listed, and its token is behind once that was
    updated. -/
structure Tracked (system : SpaceSystem) : Prop where
  positive : ∀ doc, system.disk = some doc → 0 < doc.metadata.generation
  pending : ∀ write ∈ system.pending, ∃ listed, system.listed = some listed ∧ Based listed write
  listed : ∀ listed, system.listed = some listed → 0 < listed.metadata.generation ∧
    ∃ doc, system.disk = some doc ∧
      if system.updated then listed.metadata.generation < doc.metadata.generation
      else doc.metadata.generation = listed.metadata.generation ∧ doc.spec = listed.spec

theorem updateSpaceMetadata_some {now : Time} {doc space written : Space}
    (hw : updateSpaceMetadata now (some doc) space = .ok written) :
    written.spec = space.spec ∧ written.metadata.generation =
      if doc.spec = space.spec then doc.metadata.generation else doc.metadata.generation + 1 := by
  have hs := (writeDocWithGeneration_some hw).2
  rw [hs]
  exact ⟨rfl, rfl⟩

theorem updateSpaceMetadata_behind {now : Time} {doc space : Space}
    (hp : 0 < space.metadata.generation)
    (hb : space.metadata.generation < doc.metadata.generation) :
    updateSpaceMetadata now (some doc) space =
      .error (.staleResource space.metadata.generation doc.metadata.generation) :=
  if_pos ⟨hp, hb⟩

theorem updateSpaceMetadata_positive {now : Time} {disk : Option Space} {space written : Space}
    (hp : ∀ doc, disk = some doc → 0 < doc.metadata.generation)
    (hw : updateSpaceMetadata now disk space = .ok written) :
    0 < written.metadata.generation := by
  cases disk with
  | none =>
    cases hw
    exact Int.one_pos
  | some doc =>
    rw [(updateSpaceMetadata_some hw).2]
    have hb := hp doc rfl
    split
    · exact hb
    · omega

theorem groupedSpace_based (inputs : EnsureSpaceInputs) (space : Space) :
    (groupedSpace inputs space).metadata = space.metadata ∧
      (groupedSpace inputs space).spec = space.spec := by
  unfold groupedSpace
  split <;> exact ⟨rfl, rfl⟩

variable {write : SpaceWrite} {inputs : EnsureSpaceInputs} {system : SpaceSystem}

theorem controllerWrites_based {space : Space} (hm : write ∈ controllerWrites inputs space) :
    Based space write := by
  unfold controllerWrites at hm
  split at hm
  · cases hm
  · split at hm
    · cases hm
    · exact ⟨_, List.mem_singleton.mp hm, rfl, rfl⟩

theorem cgroupWrites_based {space : Space} (hm : write ∈ cgroupWrites inputs space) :
    Based space write := by
  have hg := groupedSpace_based inputs space
  unfold cgroupWrites at hm
  rcases List.mem_append.mp hm with hf | hl
  · split at hf
    · exact ⟨_, List.mem_singleton.mp hf, hg⟩
    · cases hf
  · split at hl
    · cases hl
    · rcases List.mem_cons.mp hl with hp | hc
      · exact ⟨_, hp, hg⟩
      · obtain ⟨next, rfl, hmt, hs⟩ := controllerWrites_based hc
        exact ⟨next, rfl, hmt.trans hg.1, hs.trans hg.2⟩

theorem ensureSpaceWrites_based {space : Space}
    (hh : space.spec.cniConfigPath = inputs.confPath)
    (hm : write ∈ ensureSpaceWrites inputs space) : Based space write := by
  have hn : networkWrites inputs space = [] := if_pos hh
  unfold ensureSpaceWrites at hm
  rw [hn, List.nil_append] at hm
  exact cgroupWrites_based hm

theorem step_update (system : SpaceSystem) (now : Time) (space : Space) (ht : system.Tracked)
    (hg : system.Guarded (.update now space)) :
    (system.step (.update now space)).Tracked := by
  simp only [step]
  cases hw : updateSpaceMetadata now system.disk space with
  | error _ => exact ht
  | ok written =>
    refine ⟨?_, ht.pending, ?_⟩
    · intro doc ho
      cases ho
      exact updateSpaceMetadata_positive ht.positive hw
    · intro listed hh
      obtain ⟨hp, doc, ho, hps⟩ := ht.listed listed hh
      refine ⟨hp, written, rfl, ?_⟩
      rw [ho] at hw
      have hu : system.listed ≠ none := by
        rw [hh]
        exact Option.some_ne_none listed
      have ha : written.metadata.generation = doc.metadata.generation + 1 := by
        rw [(updateSpaceMetadata_some hw).2]
        exact if_neg (hg hu doc ho)
      simp only [if_true]
      split at hps <;> omega

theorem step_list (system : SpaceSystem) (ht : system.Tracked) :
    (system.step .list).Tracked := by
  refine ⟨ht.positive, ?_, ?_⟩
  · intro write hm
    cases hm
  · intro listed hh
    exact ⟨ht.positive listed hh, listed, hh, rfl, rfl⟩

theorem step_ensure (system : SpaceSystem) (inputs : EnsureSpaceInputs) (ht : system.Tracked)
    (hg : system.Guarded (.ensure inputs)) : (system.step (.ensure inputs)).Tracked := by
  simp only [step]
  split
  · exact ht
  · next space hh =>
      refine ⟨ht.positive, ?_, ht.listed⟩
      intro write hm
      exact ⟨space, hh, ensureSpaceWrites_based (hg space hh) hm⟩

/-- Once an update is on disk, whatever the pass still writes is refused. -/
theorem write_refused {rest : List SpaceWrite} (ht : system.Tracked)
    (hn : system.pending = write :: rest) (hu : system.updated = true) (now : Time) :
    system.write now write = { system with pending := [] } := by
  obtain ⟨listed, hh, space, rfl, hm, _⟩ := ht.pending write (by simp [hn])
  obtain ⟨hps, doc, ho, hp⟩ := ht.listed listed hh
  rw [if_pos hu] at hp
  rw [← hm] at hps hp
  simp only [SpaceSystem.write, ho, updateSpaceMetadata_behind hps hp]

/-- Before that the pass writes what is there under the generation that is there. -/
theorem write_current {rest : List SpaceWrite} (ht : system.Tracked)
    (hn : system.pending = write :: rest) (hc : system.updated = false) (now : Time) :
    (system.write now write).Tracked := by
  obtain ⟨listed, hhl, space, rfl, hmt, hsp⟩ := ht.pending write (by simp [hn])
  obtain ⟨hp, doc, ho, hps⟩ := ht.listed listed hhl
  rw [hc] at hps
  obtain ⟨hs, hss⟩ := hps
  simp only [SpaceSystem.write]
  cases hwr : updateSpaceMetadata now system.disk space with
  | error _ => exact ⟨ht.positive, by simp, ht.listed⟩
  | ok written =>
    rw [ho] at hwr
    obtain ⟨hws, hw⟩ := updateSpaceMetadata_some hwr
    rw [if_pos (hss.trans hsp.symm), hs] at hw
    refine ⟨?_, ?_, ?_⟩
    · rintro _ ⟨⟩
      rw [hw]
      exact hp
    · intro later hm
      exact ht.pending later (List.mem_of_mem_tail hm)
    · intro other hh
      cases hh.symm.trans hhl
      refine ⟨hp, written, rfl, ?_⟩
      rw [hc]
      exact ⟨hw, hws.trans hsp⟩

theorem step_write (system : SpaceSystem) (now : Time) (ht : system.Tracked) :
    (system.step (.write now)).Tracked := by
  simp only [step]
  split
  · exact ht
  · next write rest hn =>
      cases hu : system.updated with
      | true =>
        rw [write_refused ht hn hu]
        exact ⟨ht.positive, by simp, ht.listed⟩
      | false => exact write_current ht hn hu now

theorem step_finish (system : SpaceSystem) (ht : system.Tracked) :
    (system.step .finish).Tracked := by
  refine ⟨ht.positive, ?_, ?_⟩
  · intro write member
    cases member
  · intro listed none
    cases none

theorem step_tracked (system : SpaceSystem) (taken : SpaceStep) (ht : system.Tracked)
    (hg : system.Guarded taken) : (system.step taken).Tracked := by
  cases taken with
  | update now space => exact step_update system now space ht hg
  | list => exact step_list system ht
  | ensure inputs => exact step_ensure system inputs ht hg
  | write now => exact step_write system now ht
  | finish => exact step_finish system ht

/-- The pass is not under way, and the document on disk, if there is one, was written before. -/
structure Idle (system : SpaceSystem) : Prop where
  positive : ∀ doc, system.disk = some doc → 0 < doc.metadata.generation
  pending : system.pending = []
  listed : system.listed = none

theorem Idle.tracked (hi : system.Idle) : system.Tracked := by
  refine ⟨hi.positive, ?_, ?_⟩
  · intro write hm
    rw [hi.pending] at hm
    cases hm
  · intro listed hh
    rw [hi.listed] at hh
    cases hh

/-- Whatever updates are persisted between the listing and the writes of the pass, in any
    interleaving: if they change the spec and no listed space lacks its network path, no write of the
    pass changes the document after an update. -/
theorem space_updates_survive_pass (start : SpaceSystem) (idle : start.Idle)
    (steps : List SpaceStep) (guarded : Runs.Along step Guarded start steps) (done : List SpaceStep)
    (now : Time) (rest : List SpaceStep) (split : steps = done ++ .write now :: rest)
    (updated : (Runs.run step start done).updated = true) :
    ((Runs.run step start done).step (.write now)).disk = (Runs.run step start done).disk := by
  have ht := Runs.Along.invariant step_tracked idle.tracked guarded done _ split
  rw [step]
  split
  · rfl
  · next write _ hn => rw [write_refused ht hn updated]

/-- A label is added between two passes. In the second one the defaults of the listed space are
    edited, and the write of its cgroup path is then refused. -/
theorem space_updates_survive_pass_of_defaults :
    let listed : Space := { metadata := { name := "web", generation := 1 } }
    let labelled : Space := { listed with metadata.labels := GoMap.ofList [("team", "core")] }
    let edited : Space :=
      { listed with spec.defaults := some { container := some { user := "1000" } } }
    let start : SpaceSystem := { disk := some listed }
    let done := [SpaceStep.list, .finish, .update 4 labelled, .list, .update 5 edited,
      .ensure { confPath := "", group := "/kukeon/web" }]
    ((Runs.run step start done).step (.write 6)).disk = (Runs.run step start done).disk := by
  intro listed labelled edited start done
  refine space_updates_survive_pass start ?_ (done ++ [.write 6]) ?_ done 6 [] rfl (by decide)
  · refine ⟨?_, rfl, rfl⟩
    rintro _ ⟨⟩
    decide
  · refine .cons trivial (.cons trivial (.cons (fun open_ => absurd rfl open_) (.cons trivial
      (.cons ?_ (.cons ?_ (.cons trivial .nil))))))
    · rintro _ _ ⟨⟩
      decide
    · rintro _ ⟨⟩
      rfl

/-- Labels are written under the generation that is there, so the pass brings the listed ones back.
    And the write of the network path replaces any update. -/
theorem pass_replaces_updates :
    let listed : Space :=
      { metadata := { name := "web", generation := 1 }, status := { cgroupPath := "/kukeon/web" } }
    let labelled : Space := { listed with metadata.labels := GoMap.ofList [("team", "core")] }
    let edited : Space :=
      { listed with spec.defaults := some { container := some { user := "1000" } } }
    let ensure : SpaceStep := .ensure { confPath := "/run/web.conflist", group := "/kukeon/web" }
    let hasPath (space : Space) : Space := { space with spec.cniConfigPath := "/run/web.conflist" }
    let labels := Runs.run step { disk := some (hasPath listed) }
      [.list, .update 5 (hasPath labelled), ensure]
    let spec := Runs.run step { disk := some listed } [.list, .update 5 edited, ensure]
    labels.updated = true ∧
      (labels.disk.map (·.metadata.labels)) = some labelled.metadata.labels ∧
      ((labels.step (.write 6)).disk.map (·.metadata.labels)) = some listed.metadata.labels ∧
      spec.updated = true ∧ (spec.disk.map (·.spec.defaults)) = some edited.spec.defaults ∧
      ((spec.step (.write 6)).disk.map (·.spec.defaults)) = some none := by
  decide

end SpaceSystem

end Kukeon.Runner
