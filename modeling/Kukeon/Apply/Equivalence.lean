import Kukeon.Apply.Equality

/-! # The comparison helpers as equivalence relations

Five of the helpers compare what their blocks say, with an absent block saying what an empty one
says, and are equivalences for that reason. The other two are not. `mapsEqual` reads an absent
key as the empty string, so it takes `{a: ""}` for `{b: ""}`. `spaceContainerDefaultsIsZero`
wants the nested blocks absent, so a container block around an empty `capabilities` or
`resources` block equals the empty container block but not the absent one.
-/

namespace Kukeon.Apply

open ModelHub

/-- On the members, `equal` is an equivalence, and values with the same reading are equal. -/
structure Equates {α β : Type} (member : α → Prop) (reading : α → β) (equal : α → α → Bool) :
    Prop where
  refl : ∀ a, member a → equal a a = true
  symm : ∀ a b, member a → member b → equal a b = true → equal b a = true
  trans : ∀ a b c, member a → member b → member c →
    equal a b = true → equal b c = true → equal a c = true
  absent : ∀ a b, member a → member b → reading a = reading b → equal a b = true

theorem Equates.of_iff {α β : Type} {member : α → Prop} {reading : α → β} {equal : α → α → Bool}
    (same : ∀ a b, member a → member b → (equal a b = true ↔ reading a = reading b)) :
    Equates member reading equal where
  refl a ha := (same a a ha ha).mpr rfl
  symm a b ha hb hab := (same b a hb ha).mpr ((same a b ha hb).mp hab).symm
  trans a b c ha hb hc hab hbc :=
    (same a c ha hc).mpr (((same a b ha hb).mp hab).trans ((same b c hb hc).mp hbc))
  absent a b ha hb := (same a b ha hb).mpr

/-- What a container block of a space's defaults says, an absent block read as an empty one at
    every level. -/
def saidDefaults (block : Option SpaceContainerDefaults) : SpaceContainerDefaults :=
  let c := block.getD {}
  { c with capabilities := some (c.capabilities.getD {}), resources := some (c.resources.getD {}) }

/-- A container block that says nothing and yet holds a nested block. -/
def hollow (c : SpaceContainerDefaults) : Bool :=
  saidDefaults (some c) == saidDefaults none && (c.capabilities.isSome || c.resources.isSome)

theorem hollow_eq_false {c : SpaceContainerDefaults} : hollow c = false ↔
    (spaceContainerDefaultsIsZero (some c) = true ↔ saidDefaults (some c) = saidDefaults none) := by
  obtain ⟨user, readOnly, capabilities, opts, tmpfs, resources⟩ := c
  cases capabilities <;> cases resources <;>
    simp [hollow, saidDefaults, spaceContainerDefaultsIsZero]; tauto

/-- The defaults whose container block, if there is one, is kept. -/
def Among (kept : SpaceContainerDefaults → Prop) (d : Option SpaceDefaults) : Prop :=
  ∀ c, spaceDefaultsContainer d = some c → kept c

theorem spaceDefaultsEqual_iff {kept : SpaceContainerDefaults → Prop}
    (full : ∀ c, kept c → hollow c = false) {a b : Option SpaceDefaults} (ha : Among kept a)
    (hb : Among kept b) : spaceDefaultsEqual a b = true ↔
      saidDefaults (spaceDefaultsContainer a) = saidDefaults (spaceDefaultsContainer b) := by
  unfold spaceDefaultsEqual
  cases hac : spaceDefaultsContainer a <;> cases hbc : spaceDefaultsContainer b
  case none.none => simp
  case none.some c =>
    rw [@eq_comm SpaceContainerDefaults]
    simpa [spaceContainerDefaultsIsZero] using hollow_eq_false.mp (full c (hb c hbc))
  case some.none c =>
    simpa [spaceContainerDefaultsIsZero] using hollow_eq_false.mp (full c (ha c hac))
  case some.some c c' =>
    have pointers : boolPtrEqual c.readOnlyRootFilesystem c'.readOnlyRootFilesystem = true ↔
        c.readOnlyRootFilesystem = c'.readOnlyRootFilesystem := by
      cases c.readOnlyRootFilesystem <;> cases c'.readOnlyRootFilesystem <;> simp [boolPtrEqual]
    simp [saidDefaults, pointers, capabilitiesEqual_iff, slicesEqual_iff, tmpfsEqual_iff,
      resourcesEqual_iff, and_assoc]

/-- With no blank value a key of `a` is a key of `b`, and the sizes do the rest. -/
theorem eq_of_mapsEqual {a b : Labels} (set : ∀ k, a.lookup k ≠ some "")
    (equal : mapsEqual a b = true) : a = b := by
  refine eq_iff_mapsEqual_and_keys.mpr ⟨equal, ?_⟩
  obtain ⟨size, reads⟩ := mapsEqual_iff.mp equal
  refine Finset.eq_of_subset_of_card_le (fun k hk => ?_) size.ge
  obtain ⟨v, hv⟩ := Finmap.mem_keys.mp hk |> Finmap.mem_iff.mp
  by_contra missing
  have blank : b.lookup k = none := Finmap.lookup_eq_none.mpr (mt Finmap.mem_keys.mpr missing)
  have read := reads k v hv
  rw [GoMap.index, blank] at read
  exact set k (by rw [hv, ← read]; rfl)

def Valued (value : String → Prop) (a : Labels) : Prop := ∀ k v, a.lookup k = some v → value v

theorem valued_blank {value : String → Prop} (blank : value "") (k : String) :
    Valued value (GoMap.ofList [(k, "")]) := by
  intro other v found
  have entry : (⟨other, v⟩ : Sigma fun _ => String) ∈ [⟨k, ""⟩] :=
    List.of_mem_dlookup (by simpa [GoMap.ofList] using found)
  simp_all

/-- Labels with values from one set, and defaults with container blocks from another: the
    helpers are equivalences that see no difference between absent and empty blocks exactly when
    the blank value and the hollow container blocks are left out. -/
theorem comparisons_iff (value : String → Prop) (kept : SpaceContainerDefaults → Prop) :
    ((∀ a b, Valued value a → Valued value b → (mapsEqual a b = true ↔ a = b)) ∧
        Equates (fun _ => True) (·.getD {}) capabilitiesEqual ∧
        Equates (fun _ => True) (·.getD {}) resourcesEqual ∧
        Equates (fun _ => True) id tmpfsEqual ∧
        Equates (fun _ => True) (normalBlock ContainerTty.isEmpty id) ttyEqual ∧
        Equates (fun _ => True) normalGit gitEqual ∧
        Equates (Among kept) (saidDefaults ∘ spaceDefaultsContainer) spaceDefaultsEqual) ↔
      ¬ value "" ∧ ∀ c, kept c → hollow c = false := by
  constructor
  · rintro ⟨maps, -, -, -, -, -, defaults⟩
    refine ⟨fun blank => ?_, fun c hc => hollow_eq_false.mpr ⟨fun zero => ?_, fun empty => ?_⟩⟩
    · exact absurd ((maps _ _ (valued_blank blank "a") (valued_blank blank "b")).mp (by decide))
        (by decide)
    · simp_all [spaceContainerDefaultsIsZero, saidDefaults]
    · -- against the absent block, which every class has
      have absent := defaults.absent none (some { container := some c }) (by rintro _ ⟨⟩)
        (by rintro _ ⟨⟩; exact hc) empty.symm
      simpa [spaceDefaultsEqual, spaceDefaultsContainer, spaceContainerDefaultsIsZero] using absent
  · rintro ⟨set, full⟩
    refine ⟨fun a b ha _ => ⟨eq_of_mapsEqual fun k blank => set (ha k _ blank), ?_⟩,
      .of_iff fun _ _ _ _ => capabilitiesEqual_iff, .of_iff fun _ _ _ _ => resourcesEqual_iff,
      .of_iff fun _ _ _ _ => tmpfsEqual_iff, .of_iff fun _ _ _ _ => ttyEqual_iff,
      .of_iff fun _ _ _ _ => gitEqual_iff,
      .of_iff fun _ _ ha hb => spaceDefaultsEqual_iff full ha hb⟩
    rintro rfl
    exact mapsEqual_refl a

/-- The absent defaults, an empty container block, and one around empty capabilities: each
    equals the next, and the first does not equal the last. -/
theorem comparisons_not_transitive :
    mapsEqual (GoMap.ofList [("a", "")]) (GoMap.ofList [("b", "x")]) = true ∧
      mapsEqual (GoMap.ofList [("b", "x")]) (GoMap.ofList [("a", "")]) = false ∧
      spaceDefaultsEqual none (some { container := some {} }) = true ∧
      spaceDefaultsEqual (some { container := some {} })
        (some { container := some { capabilities := some {} } }) = true ∧
      spaceDefaultsEqual none
        (some { container := some { capabilities := some {} } }) = false := by
  decide

end Kukeon.Apply
