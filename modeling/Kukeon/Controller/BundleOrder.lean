import Kukeon.Apply.Parser
import Kukeon.Fs.Metadata
import Kukeon.Lib.Provision
import Kukeon.Runner.VolumeMounts

/-! # The order of a bundle

`ApplyDocuments` works a submission off in the order of `SortDocumentsByKind`, which goes by kind.
What a document asks for when it is applied is read off the reconcilers of
`internal/controller/apply/reconcile.go` and, for the containers that a Cell or Container document
creates, off `internal/ctr/secrets.go` and `internal/ctr/volume_ref.go`. The root of a cell is built by
`BuildRootContainerSpec`, which looks up neither secrets nor volumes.
-/

namespace Kukeon.Controller.Bundle

open ApplyParser Provision GoText
open Runner.Volumes (VolumeScope volumesNamed)

/-- A resource by the place of its file or directory below the run path. -/
inductive Resource where
  | realm (dir : TreePath)
  | space (dir : TreePath)
  | stack (dir : TreePath)
  | cell (dir : TreePath)
  | secret (file : TreePath)
  | blueprint (file : TreePath)
  | volume (dir : TreePath)
  deriving DecidableEq

def Resource.order : Resource → Nat
  | .realm _ => 1
  | .space _ => 2
  | .stack _ => 3
  | .cell _ => 4
  | .secret _ => 6
  | .blueprint _ => 7
  | .volume _ => 9

def realmAt (realm : String) : Resource := .realm (Fs.realmMetadataDir [] realm)

def spaceAt (realm space : String) : Resource := .space (Fs.spaceMetadataDir [] realm space)

def stackAt (realm space stack : String) : Resource :=
  .stack (Fs.stackMetadataDir [] realm space stack)

def cellAt (realm space stack cell : String) : Resource :=
  .cell (Fs.cellMetadataDir [] realm space stack cell)

def volumeAt (volume : Runner.Volumes.VolumeMetadata) : Resource :=
  .volume (Fs.volumePath [] volume.realm volume.space volume.stack volume.name)

def own : Body → List Resource
  | .realm (some doc) => [realmAt doc.metadata.name]
  | .space (some doc) => [spaceAt doc.spec.realmName doc.metadata.name]
  | .stack (some doc) => [stackAt doc.spec.realmName doc.spec.spaceName doc.metadata.name]
  | .cell (some doc) => [cellAt doc.spec.realmID doc.spec.spaceID doc.spec.stackID doc.metadata.name]
  | .secret (some doc) =>
    [.secret (Fs.secretPath [] doc.metadata.realm doc.metadata.space doc.metadata.stack
      doc.metadata.cell doc.metadata.name)]
  | .cellBlueprint (some doc) =>
    [.blueprint (Fs.blueprintPath [] doc.metadata.realm doc.metadata.space doc.metadata.stack
      doc.metadata.name)]
  | .volume (some doc) =>
    [volumeAt ⟨doc.metadata.name, doc.metadata.realm, doc.metadata.space, doc.metadata.stack⟩]
  | _ => []

def ensured : Body → List Resource
  | .space (some doc) => [realmAt doc.spec.realmName]
  | .stack (some doc) =>
    [realmAt doc.spec.realmName, spaceAt doc.spec.realmName doc.spec.spaceName]
  | .cell (some doc) =>
    [ realmAt doc.spec.realmID, spaceAt doc.spec.realmID doc.spec.spaceID,
      stackAt doc.spec.realmID doc.spec.spaceID doc.spec.stackID ]
  | _ => []

def scopes (realm space stack cell : String) : List Resource :=
  [realmAt realm] ++ (if space ≠ "" then [spaceAt realm space] else []) ++
    (if stack ≠ "" then [stackAt realm space stack] else []) ++
    (if cell ≠ "" then [cellAt realm space stack cell] else [])

def secretNeeds (secret : V1Beta1.ContainerSecret) : List (List Resource) :=
  match secret.secretRef with
  | some ref => [[.secret (Fs.secretPath [] ref.realm ref.space ref.stack ref.cell ref.name)]]
  | none => []

/-- The volumes of which one has to be there when the container is created. -/
def mountNeeds (scope : VolumeScope) (mount : V1Beta1.VolumeMount) : List (List Resource) :=
  if mount.kind = .volume then
    match mount.volumeRef with
    | some ref => [[volumeAt ⟨ref.name, ref.realm, ref.space, ref.stack⟩]]
    | none => [(volumesNamed scope mount.source).map volumeAt]
  else []

def specNeeds (scope : VolumeScope) (spec : V1Beta1.ContainerSpec) : List (List Resource) :=
  spec.secrets.flatMap secretNeeds ++ spec.volumes.flatMap (mountNeeds scope)

/-- The coordinates that a container of a cell leaves out are those of the cell. -/
def containerScope (cell : V1Beta1.CellSpec) (spec : V1Beta1.ContainerSpec) : VolumeScope where
  realm := orElse spec.realmID cell.realmID
  space := orElse spec.spaceID cell.spaceID
  stack := orElse spec.stackID cell.stackID

/-- The ID of the cell's root: of the container that the spec names or marks, or of the default one. -/
def rootID (cell : V1Beta1.CellSpec) : String :=
  match ApiScheme.resolveCellRootContainer (ApiScheme.convertCellSpecToInternal 0 cell) with
  | .ok id => orElse id "root"
  | .error _ => "root"

/-- The containers of a cell that are built from their own specs. -/
def workloads (cell : V1Beta1.CellSpec) : List V1Beta1.ContainerSpec :=
  cell.containers.filter fun spec => trimSpace spec.id ≠ rootID cell

def needs : Body → List (List Resource)
  | .cell (some doc) =>
    (workloads doc.spec).flatMap fun spec => specNeeds (containerScope doc.spec spec) spec
  | .container (some doc) =>
    [cellAt doc.spec.realmID doc.spec.spaceID doc.spec.stackID doc.spec.cellID] ::
      specNeeds ⟨doc.spec.realmID, doc.spec.spaceID, doc.spec.stackID⟩ doc.spec
  | .secret (some doc) =>
    (scopes doc.metadata.realm doc.metadata.space doc.metadata.stack doc.metadata.cell).map ([·])
  | .cellBlueprint (some doc) =>
    (scopes doc.metadata.realm doc.metadata.space doc.metadata.stack "").map ([·])
  | .cellConfig (some doc) =>
    (scopes doc.metadata.realm doc.metadata.space doc.metadata.stack "").map ([·]) ++
      [[.blueprint (Fs.blueprintPath [] doc.spec.blueprint.realm doc.spec.blueprint.space
        doc.spec.blueprint.stack doc.spec.blueprint.name)]]
  | .volume (some doc) =>
    (scopes doc.metadata.realm doc.metadata.space doc.metadata.stack "").map ([·])
  | _ => []

def gives (body : Body) : List Resource := own body ++ ensured body

/-- At apply time the first document asks for something that the second declares. -/
def DependsOn (a b : Body) : Prop :=
  ∃ r ∈ own b, r ∈ ensured a ∨ ∃ need ∈ needs a, r ∈ need

def specsOf : Body → List V1Beta1.ContainerSpec
  | .cell (some doc) => workloads doc.spec
  | .container (some doc) => [doc.spec]
  | _ => []

/-- A container that reads no stored secret and mounts no volume. -/
def Unattached (spec : V1Beta1.ContainerSpec) : Prop :=
  (∀ secret ∈ spec.secrets, secret.secretRef = none) ∧ ∀ mount ∈ spec.volumes, mount.kind ≠ .volume

instance (spec : V1Beta1.ContainerSpec) : Decidable (Unattached spec) :=
  inferInstanceAs (Decidable (_ ∧ _))

def Resource.isMaterial : Resource → Bool
  | .secret _ | .volume _ => true
  | _ => false

section Orders

variable (realm space stack cell : String)

@[simp]
theorem order_realmAt : (realmAt realm).order = 1 := rfl

@[simp]
theorem order_spaceAt : (spaceAt realm space).order = 2 := rfl

@[simp]
theorem order_stackAt : (stackAt realm space stack).order = 3 := rfl

@[simp]
theorem order_cellAt : (cellAt realm space stack cell).order = 4 := rfl

end Orders

variable {r : Resource} {body : Body} {need : List Resource} {spec : V1Beta1.ContainerSpec}

theorem isMaterial_iff : r.isMaterial = true ↔ r.order = 6 ∨ r.order = 9 := by
  cases r with
  | _ => simp [Resource.isMaterial, Resource.order]

theorem order_of_own (hm : r ∈ own body) : body.order = r.order := by
  unfold own at hm
  split at hm
  all_goals first
    | (rw [List.mem_singleton.mp hm]; rfl)
    | cases hm

theorem order_of_ensured (hm : r ∈ ensured body) : r.order < body.order ∧ body.order ≤ 4 := by
  unfold ensured at hm
  split at hm
  case h_4 => cases hm
  all_goals
    simp only [List.mem_cons, List.not_mem_nil, or_false] at hm
    rcases hm with rfl | rfl | rfl
    all_goals simp [Body.order]

theorem order_of_scopes {realm space stack cell : String}
    (hm : r ∈ scopes realm space stack cell) : r.order ≤ 4 := by
  unfold scopes at hm
  simp only [List.mem_append, List.mem_singleton, List.mem_ite_nil_right] at hm
  rcases hm with ((rfl | ⟨_, rfl⟩) | ⟨_, rfl⟩) | ⟨_, rfl⟩
  all_goals simp

theorem isMaterial_of_secretNeeds {secret : V1Beta1.ContainerSecret}
    (hm : need ∈ secretNeeds secret) :
    secret.secretRef ≠ none ∧ ∀ r ∈ need, r.isMaterial = true := by
  unfold secretNeeds at hm
  split at hm
  case h_1 ref hr =>
    rw [List.mem_singleton.mp hm]
    refine ⟨by simp [hr], fun r hh => ?_⟩
    rw [List.mem_singleton.mp hh]
    rfl
  case h_2 => cases hm

theorem isMaterial_of_mountNeeds {scope : VolumeScope} {mount : V1Beta1.VolumeMount}
    (hm : need ∈ mountNeeds scope mount) :
    mount.kind = .volume ∧ ∀ r ∈ need, r.isMaterial = true := by
  unfold mountNeeds at hm
  split at hm
  case isFalse => cases hm
  case isTrue hv =>
    refine ⟨hv, ?_⟩
    split at hm
    case h_1 ref hr =>
      rw [List.mem_singleton.mp hm]
      intro r hh
      rw [List.mem_singleton.mp hh]
      rfl
    case h_2 =>
      rw [List.mem_singleton.mp hm]
      intro r hh
      obtain ⟨found, _, rfl⟩ := List.mem_map.mp hh
      rfl

theorem isMaterial_of_specNeeds {scope : VolumeScope} (hmm : need ∈ specNeeds scope spec) :
    ¬ Unattached spec ∧ ∀ r ∈ need, r.isMaterial = true := by
  rcases List.mem_append.mp hmm with ho | hom
  · obtain ⟨secret, hi, hn⟩ := List.mem_flatMap.mp ho
    obtain ⟨hr, hm⟩ := isMaterial_of_secretNeeds hn
    exact ⟨fun unattached => hr (unattached.1 secret hi), hm⟩
  · obtain ⟨mount, hi, hn⟩ := List.mem_flatMap.mp hom
    obtain ⟨hv, hm⟩ := isMaterial_of_mountNeeds hn
    exact ⟨fun unattached => unattached.2 mount hi hv, hm⟩

theorem exists_secretNeeds {secret : V1Beta1.ContainerSecret} (hr : secret.secretRef ≠ none) :
    ∃ need, need ∈ secretNeeds secret := by
  unfold secretNeeds
  split
  case h_1 ref _ => exact ⟨_, List.mem_singleton_self _⟩
  case h_2 hm => exact absurd hm hr

theorem exists_mountNeeds {mount : V1Beta1.VolumeMount} (hv : mount.kind = .volume)
    (scope : VolumeScope) : ∃ need, need ∈ mountNeeds scope mount := by
  unfold mountNeeds
  rw [if_pos hv]
  split
  · exact ⟨_, List.mem_singleton_self _⟩
  · exact ⟨_, List.mem_singleton_self _⟩

theorem exists_specNeeds (ha : ¬ Unattached spec) (scope : VolumeScope) :
    ∃ need, need ∈ specNeeds scope spec := by
  unfold Unattached at ha
  rcases Classical.not_and_iff_not_or_not.mp ha with hrd | hm
  · push Not at hrd
    obtain ⟨secret, hi, hr⟩ := hrd
    obtain ⟨need, hn⟩ := exists_secretNeeds hr
    exact ⟨need, List.mem_append_left _ (List.mem_flatMap.mpr ⟨secret, hi, hn⟩)⟩
  · push Not at hm
    obtain ⟨mount, hi, hv⟩ := hm
    obtain ⟨need, hn⟩ := exists_mountNeeds hv scope
    exact ⟨need, List.mem_append_right _ (List.mem_flatMap.mpr ⟨mount, hi, hn⟩)⟩

theorem needs_of_scopes {realm space stack cell : String}
    (hm : need ∈ (scopes realm space stack cell).map ([·])) : ∀ r ∈ need, r.order ≤ 4 := by
  obtain ⟨scope, hi, rfl⟩ := List.mem_map.mp hm
  intro r hh
  rw [List.mem_singleton.mp hh]
  exact order_of_scopes hi

/-- A need is met by documents of an earlier kind, or it is one of a container for secrets or
    volumes. -/
theorem needs_cases (hm : need ∈ needs body) :
    (4 < body.order ∧ ∀ r ∈ need, r.order < body.order) ∨
      ((∃ spec ∈ specsOf body, ¬ Unattached spec) ∧ body.order ≤ 5 ∧
        ∀ r ∈ need, r.isMaterial = true) := by
  unfold needs at hm
  split at hm
  case h_1 doc =>
    obtain ⟨spec, hi, hn⟩ := List.mem_flatMap.mp hm
    obtain ⟨ha, hmt⟩ := isMaterial_of_specNeeds hn
    exact .inr ⟨⟨spec, hi, ha⟩, by simp [Body.order], hmt⟩
  case h_2 doc =>
    rcases List.mem_cons.mp hm with rfl | hn
    · refine .inl ⟨by simp [Body.order], fun r hh => ?_⟩
      rw [List.mem_singleton.mp hh]
      simp [Body.order]
    · obtain ⟨ha, hmt⟩ := isMaterial_of_specNeeds hn
      exact .inr ⟨⟨doc.spec, List.mem_singleton_self _, ha⟩, by simp [Body.order], hmt⟩
  case h_3 doc =>
    refine .inl ⟨by simp [Body.order], fun r hh => ?_⟩
    have low := needs_of_scopes hm r hh
    simp only [Body.order]
    omega
  case h_4 doc =>
    refine .inl ⟨by simp [Body.order], fun r hh => ?_⟩
    have low := needs_of_scopes hm r hh
    simp only [Body.order]
    omega
  case h_5 doc =>
    refine .inl ⟨by simp [Body.order], fun r hh => ?_⟩
    rcases List.mem_append.mp hm with hos | ho
    · have low := needs_of_scopes hos r hh
      simp only [Body.order]
      omega
    · rw [List.mem_singleton.mp ho] at hh
      rw [List.mem_singleton.mp hh]
      simp [Body.order, Resource.order]
  case h_6 doc =>
    refine .inl ⟨by simp [Body.order], fun r hh => ?_⟩
    have low := needs_of_scopes hm r hh
    simp only [Body.order]
    omega
  case h_7 => cases hm

theorem exists_needs_of_attached (hm : spec ∈ specsOf body) (ha : ¬ Unattached spec) :
    ∃ need ∈ needs body, body.order ≤ 5 ∧ ∀ r ∈ need, r.isMaterial = true := by
  unfold specsOf at hm
  split at hm
  case h_1 doc =>
    obtain ⟨need, hn⟩ := exists_specNeeds ha (containerScope doc.spec spec)
    exact ⟨need, List.mem_flatMap.mpr ⟨spec, hm, hn⟩, by simp [Body.order],
      (isMaterial_of_specNeeds hn).2⟩
  case h_2 doc =>
    obtain rfl := List.mem_singleton.mp hm
    obtain ⟨need, hn⟩ := exists_specNeeds ha
      ⟨doc.spec.realmID, doc.spec.spaceID, doc.spec.stackID⟩
    exact ⟨need, List.mem_cons_of_mem _ hn, by simp [Body.order],
      (isMaterial_of_specNeeds hn).2⟩
  case h_3 => cases hm

theorem own_of_material (hg : r ∈ gives body) (hm : r.isMaterial = true) :
    r ∈ own body := by
  rcases List.mem_append.mp hg with hd | hp
  · exact hd
  · have ho := order_of_ensured hp
    have hl := isMaterial_iff.mp hm
    omega

variable {docs : List Document}

theorem sorted_by_order (docs : List Document) :
    (sortDocumentsByKind docs false).Pairwise fun a b => a.body.order ≤ b.body.order := by
  refine (sortDocumentsByKind_pairwise docs false).imp fun {a b} hp => ?_
  unfold mayPrecede at hp
  grind

theorem mem_sorted {doc : Document} : doc ∈ sortDocumentsByKind docs false ↔ doc ∈ docs :=
  (sortDocumentsByKind_perm docs false).mem_iff

/-- Nothing is asked for by a document of the kind that declares it. -/
theorem order_ne_of_dependsOn {a b : Body} (hdp : DependsOn a b) : a.order ≠ b.order := by
  obtain ⟨r, hd, hp | ⟨need, hn, hi⟩⟩ := hdp
  · rw [order_of_own hd]
    exact Nat.ne_of_gt (order_of_ensured hp).1
  · rw [order_of_own hd]
    rcases needs_cases hn with ⟨_, hl⟩ | ⟨_, he, hm⟩
    · exact Nat.ne_of_gt (hl r hi)
    · have hlt := isMaterial_iff.mp (hm r hi)
      omega

def OrderRespects (docs : List Document) : Prop :=
  (sortDocumentsByKind docs false).Pairwise fun earlier later =>
    ¬ DependsOn earlier.body later.body

def AppliesToEmptyHost (docs : List Document) : Prop :=
  ∃ present, provideAll (fun doc : Document => needs doc.body) (fun doc => gives doc.body) []
    (sortDocumentsByKind docs false) = some present

theorem orderRespects_iff :
    OrderRespects docs ↔
      ∀ a ∈ docs, ∀ b ∈ docs, DependsOn a.body b.body → b.body.order < a.body.order := by
  unfold OrderRespects
  rw [pairwise_independent_iff (sorted_by_order docs)
    fun a _ b _ hd => order_ne_of_dependsOn hd]
  simp only [mem_sorted]

theorem unattached_of_orderRespects
    (hcl : SelfContained (fun doc : Document => needs doc.body) (fun doc => gives doc.body) docs)
    (hr : OrderRespects docs) {doc : Document} (hmm : doc ∈ docs)
    (hc : spec ∈ specsOf doc.body) : Unattached spec := by
  by_contra ha
  obtain ⟨need, hn, he, hm⟩ := exists_needs_of_attached hc ha
  obtain ⟨giver, hid, r, hi, hg⟩ := hcl doc hmm need hn
  have hd := own_of_material hg (hm r hi)
  have hl := orderRespects_iff.mp hr doc hmm giver hid
    ⟨r, hd, .inr ⟨need, hn, hi⟩⟩
  have hlt := isMaterial_iff.mp (hm r hi)
  rw [order_of_own hd] at hl
  omega

section Unattached

variable (unattached : ∀ doc ∈ docs, ∀ spec ∈ specsOf doc.body, Unattached spec)

include unattached

theorem needs_lower {doc : Document} (hm : doc ∈ docs) {need : List Resource}
    (hn : need ∈ needs doc.body) :
    4 < doc.body.order ∧ ∀ r ∈ need, r.order < doc.body.order := by
  rcases needs_cases hn with hl | ⟨⟨spec, hc, ha⟩, _⟩
  · exact hl
  · exact absurd (unattached doc hm spec hc) ha

theorem orderRespects_of_unattached : OrderRespects docs := by
  rw [orderRespects_iff]
  rintro a hi b _ ⟨r, hd, hp | ⟨need, hn, hin⟩⟩
  · rw [order_of_own hd]
    exact (order_of_ensured hp).1
  · rw [order_of_own hd]
    exact (needs_lower unattached hi hn).2 r hin

theorem appliesToEmptyHost_of_unattached
    (hc : SelfContained (fun doc : Document => needs doc.body) (fun doc => gives doc.body)
      docs) : AppliesToEmptyHost docs := by
  refine provideAll_of_ranked (fun doc : Document => doc.body.order) []
    (sorted_by_order docs) (by simp) ?_
  intro doc his need hn
  have hm := mem_sorted.mp his
  obtain ⟨hlt, hl⟩ := needs_lower unattached hm hn
  obtain ⟨giver, hid, r, hi, hg⟩ := hc doc hm need hn
  refine ⟨giver, mem_sorted.mpr hid, ?_, r, hi, hg⟩
  rcases List.mem_append.mp hg with hd | hp
  · simp only [order_of_own hd]
    exact hl r hi
  · exact Nat.lt_of_le_of_lt (order_of_ensured hp).2 hlt

end Unattached

/-- The root of the cell names a secret of the bundle, its workload does not. -/
def secretBundle : List Document :=
  [ { body := .secret (some { metadata := { name := "token", realm := "prod" }, data := "x" }) },
    { body := .cell (some
        { metadata := { name := "web" }
          spec :=
            { realmID := "prod", spaceID := "shop", stackID := "front"
              containers :=
                [ { id := "pause", root := true, image := "alpine"
                    secrets :=
                      [{ name := "token", secretRef := some { name := "token", realm := "prod" } }] },
                  { id := "main", image := "alpine" } ] } }) } ]

def referringBundle : List Document :=
  [ { body := .cell (some
        { metadata := { name := "web" }
          spec :=
            { realmID := "prod", spaceID := "shop", stackID := "front"
              containers :=
                [ { id := "main", image := "alpine"
                    secrets :=
                      [{ name := "token"
                         secretRef := some { name := "token", realm := "prod" } }] } ] } }) },
    { body := .secret (some { metadata := { name := "token", realm := "prod" }, data := "x" }) } ]

theorem sorted_referringBundle : sortDocumentsByKind referringBundle false = referringBundle := by
  unfold sortDocumentsByKind
  refine List.mergeSort_of_pairwise ?_
  simp [referringBundle, mayPrecede, Body.order]

end Kukeon.Controller.Bundle
