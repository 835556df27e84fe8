import Kukeon.Lib.GoText
import Kukeon.Lib.Keyed

/-! # Errors on the wire

`pkg/api/kukeonv1/errmap.go`: the daemon answers with an `APIError`, a kind and a text, and the client
makes an error of it again. Go ranges over `sentinelToKind` in an order of its own at every call, so
the functions that range take the order as an argument.
-/

namespace Kukeon.KukeonV1.Errmap

/-- The sentinels of `errdefs` the wire knows, and the others. -/
inductive Sentinel where
  | cellNotFound | realmNotFound | spaceNotFound | stackNotFound | containerNotFound
  | networkNotFound | cellNameRequired | realmNameRequired | spaceNameRequired | stackNameRequired
  | containerNameRequired | resourceHasDependencies | createCell | createRealm | createSpace
  | createStack | containerExists | conversionFailed | attachNotSupported | attachTaskNotRunning
  | imageNotFound | configNotFound | configExists
  | unregistered (text : String)
  deriving DecidableEq

def kindToSentinel : List (String × Sentinel) :=
  [("CellNotFound", .cellNotFound), ("RealmNotFound", .realmNotFound),
    ("SpaceNotFound", .spaceNotFound), ("StackNotFound", .stackNotFound),
    ("ContainerNotFound", .containerNotFound), ("NetworkNotFound", .networkNotFound),
    ("CellNameRequired", .cellNameRequired), ("RealmNameRequired", .realmNameRequired),
    ("SpaceNameRequired", .spaceNameRequired), ("StackNameRequired", .stackNameRequired),
    ("ContainerNameRequired", .containerNameRequired),
    ("ResourceHasDependencies", .resourceHasDependencies), ("CreateCell", .createCell),
    ("CreateRealm", .createRealm), ("CreateSpace", .createSpace), ("CreateStack", .createStack),
    ("ContainerExists", .containerExists), ("ConversionFailed", .conversionFailed),
    ("AttachNotSupported", .attachNotSupported), ("AttachTaskNotRunning", .attachTaskNotRunning),
    ("ImageNotFound", .imageNotFound), ("ConfigNotFound", .configNotFound),
    ("ConfigExists", .configExists)]

def Registered (s : Sentinel) : Prop := ∃ row ∈ kindToSentinel, row.2 = s

abbrev Err := Option (GoError Sentinel)

def errorsIs (err : Err) (s : Sentinel) : Bool := err.any (·.is s)

structure APIError where
  kind : String
  message : String
  deriving DecidableEq

def kindFromError (order : List (String × Sentinel)) : Err → String
  | none => ""
  | some err => ((order.find? fun row => err.is row.2).map (·.1)).getD "Unknown"

def toAPIError (order : List (String × Sentinel)) : Err → Option APIError
  | none => none
  | some err => some ⟨kindFromError order (some err), err.text⟩

def fromAPIError : Option APIError → Err
  | none => none
  | some e => some ⟨e.message, (kindToSentinel.lookup e.kind).toList⟩

/-- What the client sees of an error is, for every registered sentinel, what the daemon had, and no
order of the table changes it. -/
def KeepsIdentity (err : Err) : Prop :=
  ∀ order, order.Perm kindToSentinel →
    (∀ s, Registered s → errorsIs (fromAPIError (toAPIError order err)) s = errorsIs err s) ∧
      toAPIError order err = toAPIError kindToSentinel err

def WrapsAtMostOne (err : Err) : Prop :=
  ∀ s t, Registered s → Registered t → errorsIs err s → errorsIs err t → s = t

theorem lookup_kind : ∀ row ∈ kindToSentinel, kindToSentinel.lookup row.1 = some row.2 := by
  decide

theorem row_of_sentinel :
    ∀ row ∈ kindToSentinel, ∀ other ∈ kindToSentinel, row.2 = other.2 → row = other := by
  decide

theorem keepsIdentity_iff (err : Err) : KeepsIdentity err ↔ WrapsAtMostOne err := by
  cases err with
  | none => simp [KeepsIdentity, WrapsAtMostOne, errorsIs, toAPIError, fromAPIError]
  | some err =>
    constructor
    · -- the wire carries at most one sentinel
      intro hk s t hrg hr hhs hht
      have hs := (hk _ (.refl _)).1
      rw [← hs s hrg] at hhs
      rw [← hs t hr] at hht
      simp only [errorsIs, fromAPIError, toAPIError, Option.any_some, GoError.is] at hhs hht
      cases hc : kindToSentinel.lookup (kindFromError kindToSentinel (some err)) <;>
        simp_all
    · intro one order hp
      have hfd : order.find? (fun row => err.is row.2) =
          kindToSentinel.find? fun row => err.is row.2 := by
        refine Slices.find?_of_perm hp fun a hm b hmb hha hhb => ?_
        exact row_of_sentinel a hm b hmb
          (one _ _ ⟨a, hm, rfl⟩ ⟨b, hmb, rfl⟩ hha hhb)
      refine ⟨?_, by simp [toAPIError, kindFromError, hfd]⟩
      rintro _ ⟨row, hmm, rfl⟩
      cases hfn : kindToSentinel.find? fun row => err.is row.2 with
      | none =>
        have ha := List.find?_eq_none.mp hfn row hmm
        have hu : kindToSentinel.lookup "Unknown" = none := by decide
        simp only [errorsIs, fromAPIError, toAPIError, kindFromError, hfd, hfn, Option.map_none,
          Option.getD_none, hu, Option.toList_none, Option.any_some, ha]
        simp [GoError.is]
      | some first =>
        have hf := List.mem_of_find?_eq_some hfn
        have hh := List.find?_some hfn
        have hc := lookup_kind first hf
        have ho := one row.2 first.2 ⟨row, hmm, rfl⟩ ⟨first, hf, rfl⟩
        simp only [errorsIs, fromAPIError, toAPIError, kindFromError, hfd, hfn, hc,
          Option.map_some, Option.getD_some, Option.toList_some, Option.any_some, GoError.is] at *
        grind

/-- `kuke create space` in a realm that is not there: `CreateSpace` of the controller words the
runner's `ErrRealmNotFound` once more. -/
def spaceWithoutRealm : GoError Sentinel :=
  .wrapping ⟨"failed to create space", [.createSpace]⟩ ⟨"realm not found", [.realmNotFound]⟩

theorem spaceWithoutRealm_loses :
    errorsIs (some spaceWithoutRealm) .createSpace ∧
      ¬ errorsIs (fromAPIError (toAPIError kindToSentinel (some spaceWithoutRealm))) .createSpace ∧
      ¬ errorsIs (fromAPIError (toAPIError kindToSentinel.reverse (some spaceWithoutRealm)))
        .realmNotFound := by
  decide

end Kukeon.KukeonV1.Errmap
