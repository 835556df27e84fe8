import Kukeon.Controller.ApplyDocuments

/-! # What a team's prune deletes

After the documents of a submission for a team are applied, the stored Blueprints and Configs of the
team that were not applied are deleted. "Applied" is decided by two things only: that reconciling
the document has succeeded, and that its coordinates are spelled as the listing spells them.
-/

namespace Kukeon.Controller.Documents

open ModelHub (Labels)
open GoText Effect ApplyParser

inductive PrunedKind where
  | config
  | blueprint
  deriving DecidableEq

section Prune

variable {ρ : Type}

def storedOf (host : ApplyHost ρ) : PrunedKind → List (ScopedRef × Labels)
  | .config => host.configs.items.map fun item => (item.1, item.2.labels)
  | .blueprint => host.blueprints.items.map fun item => (item.1, item.2.labels)

/-- The coordinates that a document of the kind is applied under. -/
def submittedRef : PrunedKind → Body → Option ScopedRef
  | .config, .cellConfig (some cfg) => some (configRef cfg)
  | .blueprint, .cellBlueprint (some bp) => some (blueprintRef bp)
  | _, _ => none

def ScopedRef.trimmed (ref : ScopedRef) : ScopedRef :=
  { ref with realm := trimSpace ref.realm, space := trimSpace ref.space, stack := trimSpace ref.stack }

/-- A document of the submission is about the object stored under `ref`. -/
def Submitted (docs : List Document) (kind : PrunedKind) (ref : ScopedRef) : Prop :=
  ∃ doc ∈ docs, ∃ spelled, submittedRef kind doc.body = some spelled ∧
    (ref = spelled.place ∨ ref = spelled.trimmed.place)

def targetRef : PrunedKind → Target → Option ScopedRef
  | .config, .config cfg => some (configRef cfg)
  | .blueprint, .blueprint bp => some (blueprintRef bp)
  | _, _ => none

variable (runner : ApplyRunner ρ) (team : String)

/-- A document of the submission that spells its coordinates so has been reconciled without an
    error. -/
def Reconciled (host : ApplyHost ρ) (docs : List Document) (kind : PrunedKind) (ref : ScopedRef) :
    Prop :=
  ∃ turn ∈ turns (applyDocument runner team) host (sortDocumentsByKind docs false), ∃ target done,
    convert team turn.2 = .ok target ∧ targetRef kind target = some ref ∧
      ending (reconcile runner target) turn.1 = .ok done

/-- What the turn of a document adds, in the state that it finds. -/
def outcomeAt (host : ApplyHost ρ) (doc : Document) : Outcome :=
  match convert team doc with
  | .error cause =>
    { result :=
        { index := doc.index, kind := doc.body.kindText, action := "failed", error := some cause } }
  | .ok target => outcomeOf doc target (ending (reconcile runner target) host)

theorem applyDocument_yields (host : ApplyHost ρ) (doc : Document) :
    Yields (applyDocument runner team doc) host (outcomeAt runner team host doc)
      (finalState (applyDocument runner team doc) host) := by
  refine Prod.ext ?_ rfl
  unfold applyDocument outcomeAt
  cases convert team doc with
  | error cause => rfl
  | ok target => exact (yields_of_attempt (reconcile runner target) (outcomeOf doc target) host).ending

def collected (outcomes : List Outcome) : PrunedKind → List ScopedRef
  | .config => outcomes.flatMap Outcome.configs
  | .blueprint => outcomes.flatMap Outcome.blueprints

variable {kind : PrunedKind} {ref : ScopedRef}

theorem mem_outcomeAt {host : ApplyHost ρ} {doc : Document} :
    ref ∈ collected [outcomeAt runner team host doc] kind ↔
      ∃ target done, convert team doc = .ok target ∧ targetRef kind target = some ref ∧
        ending (reconcile runner target) host = .ok done := by
  unfold outcomeAt
  cases convert team doc with
  | error cause => cases kind <;> simp [collected]
  | ok target =>
    cases he : ending (reconcile runner target) host with
    | error cause => cases kind <;> simp [collected, outcomeOf, he]
    | ok done =>
      cases kind <;> cases target <;>
        simp [collected, outcomeOf, he, appliedConfigs, appliedBlueprints, targetRef, eq_comm]

theorem mem_collected {outcomes : List Outcome} :
    ref ∈ collected outcomes kind ↔ ∃ outcome ∈ outcomes, ref ∈ collected [outcome] kind := by
  cases kind <;> simp [collected]

/-- The loop collects the references of the documents that were reconciled. -/
theorem mem_collected_iff {host : ApplyHost ρ} {docs : List Document} :
    ref ∈ collected ((turns (applyDocument runner team) host (sortDocumentsByKind docs false)).map
      fun turn => outcomeAt runner team turn.1 turn.2) kind ↔
      Reconciled runner team host docs kind ref := by
  rw [mem_collected]
  simp only [List.mem_map, exists_exists_and_eq_and, mem_outcomeAt, Reconciled]

theorem pruneOne_yields {kind noun : String} {takeOff : ScopedRef → ApplyHost ρ → ApplyHost ρ}
    {host : ApplyHost ρ} :
    ∃ result, Yields (pruneOne runner team kind noun takeOff ref) host result
      (if (runner.deleteFault host.rest ref).isSome then host else takeOff ref host) := by
  unfold pruneOne
  cases hf : runner.deleteFault host.rest ref with
  | none =>
    have ran : Yields (deleteStored runner takeOff ref) host () (takeOff ref host) := by
      refine (Yields.read host).bind ?_
      rw [hf]
      exact (Yields.ret () host).bind (.update _ _)
    exact ⟨_, ran.attempt.bind (.ret _ _)⟩
  | some cause =>
    have ran : deleteStored runner takeOff ref host = (.error cause, host) := by
      unfold deleteStored
      rw [bind_of_ok (Yields.read host).ending, (Yields.read host).finalState, hf]
      exact bind_of_error rfl _
    have ha := Yields.attempted (deleteStored runner takeOff ref) host
    unfold ending finalState at ha
    rw [ran] at ha
    exact ⟨_, ha.bind (.ret _ _)⟩

/-- A loop of deletes takes the documents out that can be deleted. -/
theorem pruneLoop_yields (kind noun : String) {takeOff : ScopedRef → ApplyHost ρ → ApplyHost ρ}
    (ho : ∀ ref host, (takeOff ref host).rest = host.rest) (refs : List ScopedRef)
    (host : ApplyHost ρ) :
    ∃ results, Yields (refs.mapM (pruneOne runner team kind noun takeOff)) host results
      ((refs.filter fun ref => (runner.deleteFault host.rest ref).isNone).foldl
        (fun host ref => takeOff ref host) host) := by
  induction refs generalizing host with
  | nil => exact ⟨[], rfl⟩
  | cons ref rest ih =>
    obtain ⟨result, hf⟩ : ∃ result, Yields (pruneOne runner team kind noun takeOff ref) host
        result _ := pruneOne_yields runner team
    cases hfl : runner.deleteFault host.rest ref with
    | none =>
      obtain ⟨results, hl⟩ := ih (takeOff ref host)
      rw [hfl] at hf
      rw [List.filter_cons_of_pos (by simp [hfl]), List.foldl_cons]
      rw [ho] at hl
      exact ⟨result :: results, yields_mapM_cons hf hl⟩
    | some cause =>
      obtain ⟨results, hl⟩ := ih host
      rw [hfl] at hf
      rw [List.filter_cons_of_neg (by simp [hfl])]
      exact ⟨result :: results, yields_mapM_cons hf hl⟩

def takeOff : PrunedKind → ScopedRef → ApplyHost ρ → ApplyHost ρ
  | .config => takeConfig
  | .blueprint => takeBlueprint

theorem takeOff_rest (kind : PrunedKind) (ref : ScopedRef) (host : ApplyHost ρ) :
    (takeOff kind ref host).rest = host.rest := by
  cases kind <;> rfl

theorem storedOf_takeOff (kind other : PrunedKind) (ref : ScopedRef) (host : ApplyHost ρ) :
    storedOf (takeOff kind ref host) other =
      (storedOf host other).filter fun item => decide (other = kind → item.1 ≠ ref) := by
  cases kind <;> cases other <;>
    simp [storedOf, takeOff, takeConfig, takeBlueprint, Cabinet.remove, Cabinet.discard,
      List.filter_map, Function.comp_def, beq_eq_decide]

/-- A loop over references takes their documents out and no others. -/
theorem storedOf_takeAll (kind other : PrunedKind) (refs : List ScopedRef) (host : ApplyHost ρ) :
    storedOf (refs.foldl (fun host ref => takeOff kind ref host) host) other =
      (storedOf host other).filter fun item => decide (other = kind → item.1 ∉ refs) := by
  induction refs generalizing host with
  | nil => simp
  | cons ref rest ih =>
    rw [List.foldl_cons, ih, storedOf_takeOff, List.filter_filter]
    refine List.filter_congr fun item _ => ?_
    rw [← Bool.decide_and]
    simp only [List.mem_cons, not_or]
    congr 1
    exact propext ⟨fun hb hs => ⟨hb.2 hs, hb.1 hs⟩,
      fun hb => ⟨fun hs => (hb hs).2, fun hs => (hb hs).1⟩⟩

theorem takeAll_rest (kind : PrunedKind) (refs : List ScopedRef) (host : ApplyHost ρ) :
    (refs.foldl (fun host ref => takeOff kind ref host) host).rest = host.rest := by
  induction refs generalizing host with
  | nil => rfl
  | cons ref rest ih => rw [List.foldl_cons, ih, takeOff_rest]

def doomed (host : ApplyHost ρ) (applied : List ScopedRef) (kind : PrunedKind) : List ScopedRef :=
  (((storedOf host kind).filter fun item =>
      item.2.index labelTeam == team && !applied.contains item.1).map Prod.fst).filter
    fun ref => (runner.deleteFault host.rest ref).isNone

theorem doomed_configs (host : ApplyHost ρ) (applied : List ScopedRef) :
    doomed runner team host applied .config =
      ((host.configs.items.filter (isPruned team applied)).map (·.1)).filter
        fun ref => (runner.deleteFault host.rest ref).isNone := by
  simp [doomed, storedOf, List.filter_map, Function.comp_def, isPruned]

theorem doomed_blueprints (host : ApplyHost ρ) (applied : List ScopedRef) :
    doomed runner team host applied .blueprint =
      ((host.blueprints.items.filter (isPruned team applied)).map (·.1)).filter
        fun ref => (runner.deleteFault host.rest ref).isNone := by
  simp [doomed, storedOf, List.filter_map, Function.comp_def, isPruned]

def prunedHost (host : ApplyHost ρ) (blueprints configs : List ScopedRef) : ApplyHost ρ :=
  (doomed runner team host blueprints .blueprint).foldl (fun host ref => takeOff .blueprint ref host)
    ((doomed runner team host configs .config).foldl (fun host ref => takeOff .config ref host) host)

theorem pruneTeamObjects_yields {host : ApplyHost ρ} {blueprints configs : List ScopedRef}
    (hc : runner.listConfigsFault host.rest = none)
    (hb : runner.listBlueprintsFault host.rest = none) :
    ∃ results, Yields (pruneTeamObjects runner team blueprints configs) host results
      (prunedHost runner team host blueprints configs) := by
  obtain ⟨ofConfigs, hoc⟩ : ∃ results, Yields _ host results _ :=
    pruneLoop_yields runner team "CellConfig" "config" (takeOff_rest .config)
      ((host.configs.items.filter (isPruned team configs)).map (·.1)) host
  rw [← doomed_configs] at hoc
  obtain ⟨ofBlueprints, ho⟩ : ∃ results, Yields _ _ results _ :=
    pruneLoop_yields runner team "CellBlueprint" "blueprint" (takeOff_rest .blueprint)
      ((host.blueprints.items.filter (isPruned team blueprints)).map (·.1))
      ((doomed runner team host configs .config).foldl (fun host ref => takeOff .config ref host) host)
  rw [takeAll_rest, ← doomed_blueprints] at ho
  refine ⟨ofConfigs ++ ofBlueprints, ?_⟩
  refine (Yields.read host).bind ?_
  rw [hc, hb]
  refine ((Yields.ret () host).rewording _).bind (((Yields.ret () host).rewording _).bind ?_)
  exact hoc.bind (ho.bind (.ret _ _))

theorem pruneTeamObjects_stops {host : ApplyHost ρ} {blueprints configs : List ScopedRef}
    (hu : ¬ (runner.listConfigsFault host.rest = none ∧
      runner.listBlueprintsFault host.rest = none)) :
    finalState (pruneTeamObjects runner team blueprints configs) host = host := by
  unfold finalState pruneTeamObjects
  rw [bind_of_ok (Yields.read host).ending, (Yields.read host).finalState]
  cases hoc : runner.listConfigsFault host.rest with
  | some cause => rfl
  | none =>
    cases ho : runner.listBlueprintsFault host.rest with
    | none => exact absurd ⟨hoc, ho⟩ hu
    | some cause => rfl

variable {host : ApplyHost ρ} {docs : List Document}

def Listable (rest : ρ) : Prop :=
  runner.listConfigsFault rest = none ∧ runner.listBlueprintsFault rest = none

def appliedOf (host : ApplyHost ρ) (docs : List Document) (kind : PrunedKind) : List ScopedRef :=
  collected ((turns (applyDocument runner team) host (sortDocumentsByKind docs false)).map
    fun turn => outcomeAt runner team turn.1 turn.2) kind

def listedHost (host : ApplyHost ρ) (docs : List Document) : ApplyHost ρ :=
  finalState (applyLoop runner team docs) host

theorem finalState_applyDocuments (ht : team ≠ "") :
    finalState (applyDocuments runner team docs) host =
      finalState (pruneTeamObjects runner team (appliedOf runner team host docs .blueprint)
        (appliedOf runner team host docs .config)) (listedHost runner team host docs) := by
  have hl : Yields (applyLoop runner team docs) host
      ((turns (applyDocument runner team) host (sortDocumentsByKind docs false)).map
        fun turn => outcomeAt runner team turn.1 turn.2) (listedHost runner team host docs) :=
    Prod.ext (yields_mapM (applyDocument_yields runner team) host _).ending rfl
  unfold applyDocuments
  rw [hl.finalState_bind, if_pos ht, (Yields.attempted _ _).finalState_bind]
  split <;> rfl

theorem mem_storedOf_applyDocuments (ht : team ≠ "") (kind : PrunedKind)
    (item : ScopedRef × Labels) :
    item ∈ storedOf (finalState (applyDocuments runner team docs) host) kind ↔
      item ∈ storedOf (listedHost runner team host docs) kind ∧
        (Listable runner (listedHost runner team host docs).rest →
          item.1 ∉ doomed runner team (listedHost runner team host docs)
            (appliedOf runner team host docs kind) kind) := by
  rw [finalState_applyDocuments runner team ht]
  generalize listedHost runner team host docs = listed
  by_cases hl : Listable runner listed.rest
  · obtain ⟨results, hp⟩ : ∃ results, Yields
        (pruneTeamObjects runner team (appliedOf runner team host docs .blueprint)
          (appliedOf runner team host docs .config)) listed results _ :=
      pruneTeamObjects_yields runner team hl.1 hl.2
    rw [hp.finalState, prunedHost, storedOf_takeAll, storedOf_takeAll]
    cases kind <;> simp [hl]
  · rw [pruneTeamObjects_stops runner team hl]
    simp [hl]

theorem storedOf_distinct (host : ApplyHost ρ) (kind : PrunedKind) :
    ((storedOf host kind).map Prod.fst).Nodup := by
  cases kind with
  | config => simpa [storedOf, Function.comp_def] using host.configs.distinct
  | blueprint => simpa [storedOf, Function.comp_def] using host.blueprints.distinct

/-- A stored document is doomed when it is of the team, was not applied and can be deleted. -/
theorem mem_doomed {item : ScopedRef × Labels} {applied : List ScopedRef}
    (ht : item ∈ storedOf host kind) :
    item.1 ∈ doomed runner team host applied kind ↔ item.2.index labelTeam = team ∧
      item.1 ∉ applied ∧ runner.deleteFault host.rest item.1 = none := by
  unfold doomed
  simp only [List.mem_filter, List.mem_map, Bool.and_eq_true, beq_iff_eq, Bool.not_eq_true',
    Option.isNone_iff_eq_none, List.contains_eq_mem, decide_eq_false_iff_not]
  constructor
  · rintro ⟨⟨other, ⟨hot, ho, hu⟩, hs⟩, hd⟩
    obtain rfl := List.inj_on_of_nodup_map (storedOf_distinct host kind) hot ht hs
    exact ⟨ho, hu, hd⟩
  · rintro ⟨ho, hu, hd⟩
    exact ⟨⟨item, ⟨ht, ho, hu⟩, rfl⟩, hd⟩

end Prune

def openRunner : ApplyRunner Unit where
  getRealm _ _ := .ok ()
  getSpace _ _ _ := .ok ()
  getStack _ _ _ _ := .ok ()
  slotErrorText _ := "slot"
  others _ := return { action := "unchanged" }

/-- The Config `api` of the team `core`, as it was stored before. -/
def apiRef : ScopedRef := { realm := "prod", name := "api" }

def apiLabels : Labels := stampTeamLabel ∅ "core"

def apiConfig : V1Beta1.CellConfigDoc where
  metadata := { name := "api", realm := "prod" }
  spec := { blueprint := { name := "web", realm := "prod" } }

def apiHost : ApplyHost Unit where
  blueprints := .empty
  configs := ⟨[(apiRef, { labels := apiLabels, doc := .ok apiConfig })], by simp⟩
  rest := ()

def webHost : ApplyHost Unit :=
  { apiHost with
    blueprints := ⟨[({ realm := "prod", name := "web" }, { labels := ∅, doc := .ok {} })], by simp⟩ }

def apiSubmission : List Document := [{ body := .cellConfig (some apiConfig) }]

theorem api_submitted : Submitted apiSubmission .config apiRef :=
  ⟨_, List.mem_singleton_self _, _, rfl, .inl rfl⟩

end Kukeon.Controller.Documents
