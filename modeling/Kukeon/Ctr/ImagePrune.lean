import Kukeon.Lib.Keyed

/-! # Pruning the leases of a namespace

`PruneImages`, `liveContainerSnapshotKeys` and `pruneLeases` of `internal/ctr/image_prune.go`. A read
or a delete that fails is a flag of what it is about. The first loop skips a container whose info it
cannot read, the second loop deletes what the first did not protect.
-/

namespace Kukeon.Ctr.ImagePrune

structure Container where
  id : String
  snapshotKey : String := ""
  readable : Bool := true

/-- The resources are the identifiers of what the lease references. -/
structure Lease where
  id : String
  resources : List String
  listable : Bool := true
  deletable : Bool := true
  deriving DecidableEq

structure Namespace where
  containers : List Container
  leases : List Lease
  containersListed : Bool := true
  leasesListed : Bool := true

structure PruneResult where
  leasesDeleted : Nat := 0
  leasesRetained : Nat := 0
  deriving DecidableEq

def Container.key (container : Container) : String :=
  if container.snapshotKey = "" then container.id else container.snapshotKey

def liveContainerSnapshotKeys (containers : List Container) : List String :=
  (containers.filter Container.readable).map Container.key

def leaseBacksProtected (resources live : List String) : Bool :=
  resources.any live.contains

/-- One turn of the loop, with the leases released so far. -/
def pruneLease (live : List String) (state : PruneResult × List Lease) (lease : Lease) :
    PruneResult × List Lease :=
  let retained := ({ state.1 with leasesRetained := state.1.leasesRetained + 1 }, state.2)
  if ¬ lease.listable then retained
  else if leaseBacksProtected lease.resources live then retained
  else if ¬ lease.deletable then retained
  else ({ state.1 with leasesDeleted := state.1.leasesDeleted + 1 }, state.2 ++ [lease])

def pruneLeases (live : List String) (ns : Namespace) : PruneResult × List Lease :=
  if ns.leasesListed then ns.leases.foldl (pruneLease live) ({}, []) else ({}, [])

/-- The result the caller gets, and the leases that were released. -/
def pruneImages (ns : Namespace) : Except String PruneResult × List Lease :=
  if ns.containersListed then
    let pruned := pruneLeases (liveContainerSnapshotKeys ns.containers) ns
    (.ok pruned.1, pruned.2)
  else (.error "failed to prune images: failed to list containers", [])

structure PrunesSafely (ns : Namespace) : Prop where
  spared : ∀ lease ∈ (pruneImages ns).2, ∀ container ∈ ns.containers,
    container.key ∉ lease.resources
  counted : ∀ result, (pruneImages ns).1 = .ok result →
    result.leasesDeleted = (pruneImages ns).2.length ∧
      result.leasesRetained + result.leasesDeleted = ns.leases.length

/-- Where the containers are listed, so are the leases there are, and a lease that can be read and
    deleted references a live snapshot only if it references one whose container can be read. -/
def SoundReads (ns : Namespace) : Prop :=
  ns.containersListed = true → (ns.leasesListed = true ∨ ns.leases = []) ∧
    (ns.leasesListed = true → ∀ lease ∈ ns.leases, lease.listable = true → lease.deletable = true →
      ∀ container ∈ ns.containers, container.key ∈ lease.resources →
        ∃ other ∈ ns.containers, other.readable = true ∧ other.key ∈ lease.resources)

def released (live : List String) (lease : Lease) : Bool :=
  lease.listable && !leaseBacksProtected lease.resources live && lease.deletable

theorem foldl_pruneLease (live : List String) (leases : List Lease)
    (state : PruneResult × List Lease) :
    leases.foldl (pruneLease live) state =
      ({ leasesDeleted := state.1.leasesDeleted + leases.countP (released live)
         leasesRetained := state.1.leasesRetained + leases.countP (! released live ·) },
        state.2 ++ leases.filter (released live)) := by
  induction leases generalizing state with
  | nil => simp
  | cons lease rest ih =>
    rw [List.foldl_cons, ih]
    cases hl : lease.listable <;> cases hb : leaseBacksProtected lease.resources live <;>
      cases hd : lease.deletable <;>
        simp [pruneLease, released, hl, hb, hd] <;> omega

theorem released_iff {containers : List Container} {lease : Lease} :
    released (liveContainerSnapshotKeys containers) lease = true ↔
      lease.listable = true ∧ lease.deletable = true ∧
        ¬ ∃ other ∈ containers, other.readable = true ∧ other.key ∈ lease.resources := by
  simp [released, leaseBacksProtected, liveContainerSnapshotKeys]
  grind

theorem prunesSafely_iff (ns : Namespace) : PrunesSafely ns ↔ SoundReads ns := by
  cases hc : ns.containersListed with
  | false => refine ⟨fun _ listed => ?_, fun _ => ⟨?_, ?_⟩⟩ <;> simp_all [pruneImages]
  | true =>
    cases hl : ns.leasesListed with
    | false =>
      have run : pruneImages ns = (.ok {}, []) := by simp [pruneImages, pruneLeases, hc, hl]
      constructor
      · intro safe
        have none : ns.leases.length = 0 := (safe.counted {} (by rw [run])).2.symm
        simp_all [SoundReads]
      · intro sound
        have := (sound hc).1
        refine ⟨?_, ?_⟩ <;> simp_all
    | true =>
      have run := foldl_pruneLease (liveContainerSnapshotKeys ns.containers) ns.leases ({}, [])
      have freed : (pruneImages ns).2 =
          ns.leases.filter (released (liveContainerSnapshotKeys ns.containers)) := by
        simp [pruneImages, pruneLeases, hc, hl, run]
      constructor
      · intro safe _
        refine ⟨.inl hl, fun _ lease hm listed deletable container there hk => ?_⟩
        by_contra none
        refine safe.spared lease ?_ container there hk
        rw [freed, List.mem_filter]
        exact ⟨hm, released_iff.mpr ⟨listed, deletable, none⟩⟩
      · intro sound
        refine ⟨fun lease hm container there hk => ?_, fun result ended => ?_⟩
        · rw [freed, List.mem_filter, released_iff] at hm
          obtain ⟨there', listed, deletable, none⟩ := hm
          exact none ((sound hc).2 hl lease there' listed deletable container there hk)
        · rw [freed, ← List.countP_eq_length_filter]
          have := List.length_eq_countP_add_countP
            (released (liveContainerSnapshotKeys ns.containers)) (l := ns.leases)
          simp [pruneImages, pruneLeases, hc, hl, run] at ended
          subst ended
          simp_all
          omega

/-- The info of the container cannot be read, and the lease references its snapshot. -/
def unreadable : Namespace :=
  { containers := [{ id := "web_main_api_app", readable := false }]
    leases := [{ id := "build", resources := ["web_main_api_app"] }] }

theorem unreadable_released : unreadable.leases = (pruneImages unreadable).2 ∧
    ∃ container ∈ unreadable.containers, ∃ lease ∈ (pruneImages unreadable).2,
      container.key ∈ lease.resources := by
  decide

end Kukeon.Ctr.ImagePrune
