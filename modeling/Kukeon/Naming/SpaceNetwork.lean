import Kukeon.Lib.Fnv
import Kukeon.Naming.CellName

/-! # The network and the bridge of a space

`BuildSpaceNetworkName` of `internal/util/naming/naming.go` and `SafeBridgeName` of
`internal/cni/config.go`. The network of a space is named after its realm and the space, the bridge
after a hash of the network name.
-/

namespace Kukeon.Naming

open GoText

def buildSpaceNetworkName (realmName spaceName : String) : Except String String :=
  if trimSpace spaceName = "" then .error "space name is required"
  else if trimSpace realmName = "" then .error "realm name is required"
  else .ok (trimSpace realmName ++ "-" ++ trimSpace spaceName)

def hashBridgeName (sum : BitVec 32) : String := String.ofList (['k', '-'] ++ Fnv.hex sum)

/-- `SafeBridgeName`; the empty name stands for an unset one. -/
def safeBridgeName (name : String) : String :=
  if name = "" then "" else hashBridgeName (Fnv.sum32a name)

/-- Where the addresses of a network are kept, below `CNINetworksDir`. -/
def ipamDir (networkName : String) : String := "/var/lib/cni/networks/" ++ networkName

theorem hashBridgeName_injective : Function.Injective hashBridgeName := by
  intro a b hs
  have hl := String.ofList_injective hs
  exact Fnv.hex_injective (List.append_cancel_left hl)

theorem buildSpaceNetworkName_eq_ok {realmName spaceName : String}
    (hr : validateRealmName realmName = .ok ())
    (hs : validateHierarchyName "space" spaceName = .ok ()) :
    buildSpaceNetworkName realmName spaceName =
      .ok (trimSpace realmName ++ "-" ++ trimSpace spaceName) := by
  have hsn := ((validateHierarchyName_eq_ok (by decide)).mp hs).1
  have hrn := (validateRealmName_eq_ok.mp hr).1
  rw [buildSpaceNetworkName, if_neg hsn, if_neg hrn]

/-- One realm name continues the other after a hyphen, and the spaces take up what is left: the two
    spaces have one network name between them. -/
def SharedNetworkName (realm space realm' space' : String) : Prop :=
  (∃ m, realm = realm' ++ "-" ++ m ∧ space' = m ++ "-" ++ space) ∨
    ∃ m, realm' = realm ++ "-" ++ m ∧ space = m ++ "-" ++ space'

theorem networkName_eq_iff {realm space realm' space' : String} :
    realm ++ "-" ++ space = realm' ++ "-" ++ space' ↔
      (realm, space) = (realm', space') ∨ SharedNetworkName realm space realm' space' := by
  constructor
  · intro hsm
    have hl : realm.toList ++ '-' :: space.toList = realm'.toList ++ '-' :: space'.toList := by
      simpa using congrArg String.toList hsm
    obtain ⟨hsr, hss⟩ | ⟨m, hf, hs⟩ | ⟨m, hf, hs⟩ :=
      Joined.eq_iff.mp hl
    · exact .inl (by rw [String.toList_inj.mp hsr, String.toList_inj.mp hss])
    · refine .inr (.inl ⟨String.ofList m, ?_, ?_⟩) <;> apply String.toList_inj.mp
      · simpa using hf
      · simpa using hs
    · refine .inr (.inr ⟨String.ofList m, ?_, ?_⟩) <;> apply String.toList_inj.mp
      · simpa using hf
      · simpa using hs
  · rintro (hsm | ⟨m, rfl, rfl⟩ | ⟨m, rfl, rfl⟩)
    · cases hsm
      rfl
    · simp only [String.append_assoc]
    · simp only [String.append_assoc]

theorem networkName_ne_empty (realm space : String) : realm ++ "-" ++ space ≠ "" := by
  intro he
  have hl := congrArg String.toList he
  simp at hl

theorem ipamDir_injective : Function.Injective ipamDir := by
  intro a b hs
  exact (String.append_right_inj _).mp hs

/-- Without a collision of hashes, different networks have different bridges. -/
theorem safeBridgeName_eq_iff {name name' : String} (hnd : name ≠ "") (hnm : name' ≠ "")
    (hn : Fnv.sum32a name = Fnv.sum32a name' → name = name') :
    safeBridgeName name = safeBridgeName name' ↔ name = name' := by
  constructor
  · intro hs
    rw [safeBridgeName, safeBridgeName, if_neg hnd, if_neg hnm] at hs
    exact hn (hashBridgeName_injective hs)
  · rintro rfl
    rfl

end Kukeon.Naming
