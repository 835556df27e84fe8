import Mathlib.Data.Finmap
import Mathlib.Data.List.Nodup

/-! # Finite maps with the reading convention of Go

A Go `map[K]V` is a finite partial function. Its literal equality is not
observable in the language; programs compare maps through `len`, `range` and the
index expression, and indexing an absent key yields the zero value. The carrier is
Mathlib's `Finmap`, so two maps are equal exactly when they have the same entries.
-/

/-- A finite map from `α` to `β`. -/
abbrev GoMap (α β : Type) := Finmap (fun _ : α => β)

namespace GoMap

variable {α β : Type} [DecidableEq α]

/-- The number of keys, `len(m)`. -/
def len (m : GoMap α β) : Nat := m.keys.card

/-- The index expression `m[k]`: the zero value when the key is absent. -/
def index [Inhabited β] (m : GoMap α β) (k : α) : β := (m.lookup k).getD default

/-- The map literal with the given entries; of two entries for one key the first stands. -/
def ofList (entries : List (α × β)) : GoMap α β :=
  (entries.map fun entry => (⟨entry.1, entry.2⟩ : Sigma fun _ : α => β)).toFinmap

omit [DecidableEq α] in
theorem nodupKeys_filter (p : α → Bool) (m : GoMap α β) :
    (m.entries.filter fun entry => p entry.1).NodupKeys := by
  induction m using Finmap.induction_on with
  | H entries =>
    have hd : (entries.entries.filter fun entry => p entry.1).NodupKeys :=
      List.NodupKeys.sublist List.filter_sublist entries.nodupKeys
    simpa using Multiset.coe_nodupKeys.mpr hd

/-- Keep the entries whose key satisfies `p`. -/
def filterKeys (p : α → Bool) (m : GoMap α β) : GoMap α β :=
  ⟨m.entries.filter fun entry => p entry.1, nodupKeys_filter p m⟩

theorem lookup_filterKeys_eq_some {p : α → Bool} {m : GoMap α β} {k : α} {v : β} :
    (m.filterKeys p).lookup k = some v ↔ p k = true ∧ m.lookup k = some v := by
  have hi := Finmap.lookup_eq_some_iff (s := m.filterKeys p) (a := k) (b := v)
  have him := Finmap.lookup_eq_some_iff (s := m) (a := k) (b := v)
  rw [hi, him]
  simp only [filterKeys, Multiset.mem_filter]
  exact and_comm

omit [DecidableEq α] in
theorem nodupKeys_map {γ : Type} (f : β → γ) (m : GoMap α β) :
    (m.entries.map fun entry => (⟨entry.1, f entry.2⟩ : Sigma fun _ : α => γ)).NodupKeys := by
  induction m using Finmap.induction_on with
  | H entries =>
    have hd := entries.nodupKeys
    rw [List.NodupKeys] at hd
    have hm : (entries.entries.map
        fun entry => (⟨entry.1, f entry.2⟩ : Sigma fun _ : α => γ)).NodupKeys := by
      rw [List.NodupKeys, List.keys, List.map_map]
      exact hd
    simpa using Multiset.coe_nodupKeys.mpr hm

/-- Apply `f` to every value. -/
def mapValues {γ : Type} (f : β → γ) (m : GoMap α β) : GoMap α γ :=
  ⟨m.entries.map fun entry => ⟨entry.1, f entry.2⟩, nodupKeys_map f m⟩

theorem mem_keys_iff_lookup {m : GoMap α β} {k : α} :
    k ∈ m.keys ↔ ∃ v, m.lookup k = some v := by
  rw [Finmap.mem_keys, Finmap.mem_iff]

theorem index_of_lookup [Inhabited β] {m : GoMap α β} {k : α} {v : β}
    (hf : m.lookup k = some v) : m.index k = v := by
  simp [index, hf]

theorem lookup_of_index [Inhabited β] {m : GoMap α β} {k : α} (hp : k ∈ m.keys) :
    m.lookup k = some (m.index k) := by
  obtain ⟨v, hf⟩ := mem_keys_iff_lookup.mp hp
  rw [hf, index_of_lookup hf]

/-- Maps with the same keys are equal as soon as every entry of the first is read back
    from the second. -/
theorem eq_of_keys_eq_of_index [Inhabited β] {a b : GoMap α β} (hs : a.keys = b.keys)
    (hr : ∀ k v, a.lookup k = some v → b.index k = v) : a = b := by
  apply Finmap.ext_lookup
  intro k
  by_cases hp : k ∈ a.keys
  · have hpi : k ∈ b.keys := hs ▸ hp
    obtain ⟨v, hf⟩ := mem_keys_iff_lookup.mp hp
    rw [hf, lookup_of_index hpi, hr k v hf]
  · have ha : k ∉ b.keys := hs ▸ hp
    rw [Finmap.mem_keys] at hp ha
    rw [Finmap.lookup_eq_none.mpr hp, Finmap.lookup_eq_none.mpr ha]

end GoMap

/-- Items under distinct keys, such as the files of a directory. -/
structure Cabinet (κ α : Type) where
  items : List (κ × α)
  distinct : (items.map Prod.fst).Nodup

namespace Cabinet

variable {κ α : Type} [DecidableEq κ] {cabinet : Cabinet κ α} {k : κ} {item : κ × α}

def find (cabinet : Cabinet κ α) (k : κ) : Option α := cabinet.items.lookup k

def empty : Cabinet κ α := ⟨[], List.nodup_nil⟩

/-- Removes the items under the keys that `gone` picks. -/
def discard (cabinet : Cabinet κ α) (gone : κ → Bool) : Cabinet κ α where
  items := cabinet.items.filter fun item => !gone item.1
  distinct := cabinet.distinct.sublist (List.filter_sublist.map _)

def remove (cabinet : Cabinet κ α) (k : κ) : Cabinet κ α := cabinet.discard (· == k)

def put (cabinet : Cabinet κ α) (k : κ) (a : α) : Cabinet κ α where
  items := (k, a) :: (cabinet.remove k).items
  distinct := by
    rw [List.map_cons, List.nodup_cons]
    refine ⟨?_, (cabinet.remove k).distinct⟩
    intro member
    obtain ⟨item, there, same⟩ := List.mem_map.mp member
    simp [remove, discard, same] at there

end Cabinet
