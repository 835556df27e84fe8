import Kukeon.Firewall.Forward
import Kukeon.Lib.Keyed
import Kukeon.Netpolicy.Verdict

/-! # Forwarded packets

The rules of all spaces together with the forward admission chain, as they stand after every space's
policy was applied. A packet that enters from a space's bridge gets that space's verdict, whichever
of the two kukeon chains FORWARD jumps to first.
-/

namespace Kukeon.Netpolicy

open GoText ModelHub Naming Firewall
open Iptables (readRule readCondition matchesInterface Packet Verdict Table)

def forwardJump (chain : String) : Rule := { op := "-A", chain := "FORWARD", args := ["-j", chain] }

def admissionRule (args : List String) : Rule := { op := "-A", chain := forwardChainName, args }

def forwardJumps (egressFirst : Bool) : List Rule :=
  if egressFirst then [forwardJump masterChainName, forwardJump forwardChainName]
  else [forwardJump forwardChainName, forwardJump masterChainName]

def installedChains (egressFirst : Bool) (policies : List Policy) : List (String × List Rule) :=
  ("FORWARD", forwardJumps egressFirst) ::
    (forwardChainName, admissionRules.map admissionRule) ::
    (masterChainName, policies.map dispatchRule) ::
    policies.map fun p => (p.chainName, buildRules p)

def installedTable (egressFirst : Bool) (policies : List Policy) : Table where
  chains := (installedChains egressFirst policies).map Prod.fst
  rules chain :=
    (((installedChains egressFirst policies).lookup chain).getD []).filterMap
      fun rule => readRule rule.args

theorem chainName_fifth (realmName spaceName : String) :
    (chainName realmName spaceName).toList[4]? = some '-' := by
  rw [chainName, String.toList_append]
  rfl

/-- The chain of a space is none of the three that all spaces share. -/
theorem chainName_ne (realmName spaceName : String) {shared : String}
    (hi : shared ∈ ["FORWARD", forwardChainName, masterChainName]) :
    chainName realmName spaceName ≠ shared := by
  intro hs
  have hf := chainName_fifth realmName spaceName
  rw [hs] at hf
  simp only [List.mem_cons, List.not_mem_nil, or_false] at hi
  rcases hi with rfl | rfl | rfl
  · exact absurd hf (by decide)
  · exact absurd hf (by decide)
  · exact absurd hf (by decide)

/-- Reading the rules first or deciding rule by rule makes no difference. -/
theorem findSome_filterMap_read {enter : String → Option Verdict} {packet : Packet}
    (rules : List Rule) :
    (rules.filterMap fun rule => readRule rule.args).findSome?
      (Iptables.Rule.verdict enter packet) = rules.findSome? (Rule.decides enter packet) := by
  induction rules with
  | nil => rfl
  | cons rule rest ih =>
    rw [List.filterMap_cons, List.findSome?_cons, Rule.decides]
    cases readRule rule.args with
    | none => exact ih
    | some read =>
      simp only [List.findSome?_cons, Option.bind_some, ih]

section Chains

variable (egressFirst : Bool) {policies : List Policy} {packet : Packet} (depth : Nat)

theorem enter_eq {chain : String} {rules : List Rule}
    (hh : (installedChains egressFirst policies).lookup chain = some rules) :
    (installedTable egressFirst policies).enter packet (depth + 1) chain =
      rules.findSome?
        (Rule.decides ((installedTable egressFirst policies).enter packet depth) packet) := by
  rw [Table.enter, ← findSome_filterMap_read]
  simp only [installedTable, hh, Option.getD_some]

theorem nodup_chains (hc : (policies.map Policy.chainName).Nodup) :
    ((installedChains egressFirst policies).map Prod.fst).Nodup := by
  have hs : ∀ shared ∈ ["FORWARD", forwardChainName, masterChainName],
      shared ∉ policies.map Policy.chainName := by
    intro shared hi his
    obtain ⟨p, _, hsm⟩ := List.mem_map.mp his
    exact chainName_ne _ _ hi hsm
  have hn : (installedChains egressFirst policies).map Prod.fst =
      "FORWARD" :: forwardChainName :: masterChainName :: policies.map Policy.chainName := by
    simp [installedChains, Function.comp_def]
  rw [hn]
  refine List.nodup_cons.mpr ⟨?_, List.nodup_cons.mpr ⟨?_, List.nodup_cons.mpr ⟨?_, hc⟩⟩⟩
  · rw [List.mem_cons, List.mem_cons, not_or, not_or]
    exact ⟨by decide, by decide, hs _ (by simp)⟩
  · rw [List.mem_cons, not_or]
    exact ⟨by decide, hs _ (by simp)⟩
  · exact hs _ (by simp)

variable {p : Policy} {networkName : String}

theorem lookup_space (hc : (policies.map Policy.chainName).Nodup) (hm : p ∈ policies) :
    (installedChains egressFirst policies).lookup p.chainName = some (buildRules p) := by
  have he : (p.chainName, buildRules p) ∈ installedChains egressFirst policies := by
    simp only [installedChains, List.mem_cons]
    exact .inr (.inr (.inr (List.mem_map_of_mem (f := fun p => (p.chainName, buildRules p)) hm)))
  exact Keyed.lookup_of_mem (nodup_chains egressFirst hc) he

theorem enter_space (packet : Packet) (hc : (policies.map Policy.chainName).Nodup)
    (hm : p ∈ policies) (hr : p.Readable) :
    (Tracked packet ∨ p.Admits packet →
        (installedTable egressFirst policies).enter packet (depth + 1) p.chainName =
          some .accept) ∧
      (¬ Tracked packet → ¬ p.Admits packet →
        (installedTable egressFirst policies).enter packet (depth + 1) p.chainName =
          some .drop) := by
  rw [enter_eq egressFirst depth (lookup_space egressFirst hc hm)]
  exact ⟨buildRules_accept hr, buildRules_drop hr⟩

/-- A dispatch rule sends the packets of its bridge to its chain. -/
theorem decides_dispatchRule {enter : String → Option Verdict} {q : Policy}
    (hn : networkName ≠ "") (hb : q.bridge = safeBridgeName networkName) :
    (dispatchRule q).decides enter packet =
      if packet.inInterface = q.bridge then enter q.chainName else none := by
  rw [Rule.decides, readRule_dispatchRule, Option.bind_some, Iptables.Rule.verdict]
  have hf : matchesInterface q.bridge packet.inInterface = true ↔ packet.inInterface = q.bridge := by
    rw [hb]
    exact matchesInterface_bridge hn
  simp [Iptables.Rule.holds, Iptables.Condition.holds, hf]

/-- The dispatch rules of other bridges decide nothing. -/
theorem findSome_dispatchRules {enter : String → Option Verdict}
    (named : ∀ q ∈ policies, ∃ networkName ≠ "", q.bridge = safeBridgeName networkName)
    (foreign : ∀ q ∈ policies, packet.inInterface ≠ q.bridge) :
    (policies.map dispatchRule).findSome? (Rule.decides enter packet) = none := by
  rw [List.findSome?_eq_none_iff]
  intro rule member
  obtain ⟨q, hm, rfl⟩ := List.mem_map.mp member
  obtain ⟨networkName, nonempty, bridge⟩ := named q hm
  rw [decides_dispatchRule nonempty bridge, if_neg (foreign q hm)]

/-- Of the dispatch rules, the one of the packet's bridge applies. -/
theorem enter_master (hb : (policies.map Policy.bridge).Nodup)
    (hn : ∀ q ∈ policies, ∃ networkName ≠ "", q.bridge = safeBridgeName networkName)
    (hm : p ∈ policies) (ho : packet.inInterface = p.bridge) :
    (installedTable egressFirst policies).enter packet (depth + 1) masterChainName =
      (installedTable egressFirst policies).enter packet depth p.chainName := by
  have hh : (installedChains egressFirst policies).lookup masterChainName =
      some (policies.map dispatchRule) := rfl
  rw [enter_eq egressFirst depth hh]
  generalize (installedTable egressFirst policies).enter packet depth = enter
  clear hh
  induction policies with
  | nil => cases hm
  | cons q rest ih =>
    rw [List.map_cons, List.nodup_cons] at hb
    obtain ⟨networkName, hi, hbr⟩ := hn q List.mem_cons_self
    rw [List.map_cons, List.findSome?_cons, decides_dispatchRule hi hbr]
    rcases List.mem_cons.mp hm with rfl | hl
    · rw [if_pos ho]
      have others : (rest.map dispatchRule).findSome? (Rule.decides enter packet) = none :=
        findSome_dispatchRules (fun q hm => hn q (List.mem_cons_of_mem _ hm))
          (fun q hm same => hb.1 (ho.symm.trans same ▸ List.mem_map_of_mem hm))
      rw [others]
      cases enter p.chainName <;> rfl
    · have hd : packet.inInterface ≠ q.bridge := by
        intro hs
        exact hb.1 (hs.symm.trans ho ▸ List.mem_map_of_mem hl)
      rw [if_neg hd]
      exact ih hb.2 (fun other hm => hn other (List.mem_cons_of_mem _ hm)) hl

theorem readRule_ingress (comment : String) :
    readRule ["!", "-i", bridgeIfaceMatch, "-o", bridgeIfaceMatch,
        "-m", "comment", "--comment", comment, "-j", "ACCEPT"] =
      some { conditions := [.inInterface true bridgeIfaceMatch, .outInterface false bridgeIfaceMatch,
               .comment comment]
             target := .accept } := rfl

theorem matchesInterface_wildcard (hn : networkName ≠ "") :
    matchesInterface bridgeIfaceMatch (safeBridgeName networkName) = true := by
  have hu : ∀ name, matchesInterface bridgeIfaceMatch name =
      ['k', '-'].isPrefixOf name.toList := fun _ => rfl
  rw [hu, safeBridgeName, if_neg hn, hashBridgeName, String.toList_ofList,
    List.isPrefixOf_iff_prefix]
  exact List.prefix_append _ _

/-- The admission rules decide nothing about a new packet from a bridge. -/
theorem decides_admission {enter : String → Option Verdict} (hn : networkName ≠ "")
    (ho : packet.inInterface = safeBridgeName networkName) (new : ¬ Tracked packet)
    {args : List String} (hm : args ∈ admissionRules) :
    (admissionRule args).decides enter packet = none := by
  have hf : matchesInterface bridgeIfaceMatch packet.inInterface = true := by
    rw [ho]
    exact matchesInterface_wildcard hn
  simp only [admissionRules, List.mem_cons, List.not_mem_nil, or_false] at hm
  rcases hm with rfl | rfl
  · exact decides_of_untracked new
  · rw [Rule.decides, admissionRule, readRule_ingress]
    simp [Iptables.Rule.verdict, Iptables.Rule.holds, Iptables.Condition.holds, hf]

theorem lookup_forwardChain (policies : List Policy) :
    (installedChains egressFirst policies).lookup forwardChainName =
      some (admissionRules.map admissionRule) := rfl

/-- The admission chain accepts tracked packets, wherever they come from. -/
theorem enter_forward_tracked (policies : List Policy) (tracked : Tracked packet) :
    (installedTable egressFirst policies).enter packet (depth + 1) forwardChainName =
      some .accept := by
  rw [enter_eq egressFirst depth (lookup_forwardChain egressFirst policies)]
  simp only [admissionRules, List.map_cons, List.findSome?_cons, admissionRule]
  rw [decides_of_tracked tracked]

/-- It decides nothing about a new packet that comes from a bridge. -/
theorem enter_forward_new (policies : List Policy) (hn : networkName ≠ "")
    (ho : packet.inInterface = safeBridgeName networkName) (new : ¬ Tracked packet) :
    (installedTable egressFirst policies).enter packet (depth + 1) forwardChainName = none := by
  rw [enter_eq egressFirst depth (lookup_forwardChain egressFirst policies),
    List.findSome?_eq_none_iff]
  intro rule member
  obtain ⟨args, hm, rfl⟩ := List.mem_map.mp member
  exact decides_admission hn ho new hm

theorem findSome_forwardJumps (egressFirst : Bool) (packet : Packet)
    (enter : String → Option Verdict) :
    (forwardJumps egressFirst).findSome? (Rule.decides enter packet) =
      if egressFirst then (enter masterChainName).or (enter forwardChainName)
      else (enter forwardChainName).or (enter masterChainName) := by
  have htm : (forwardJump masterChainName).decides enter packet = enter masterChainName := rfl
  have ht : (forwardJump forwardChainName).decides enter packet = enter forwardChainName :=
    rfl
  cases egressFirst with
  | true =>
    simp only [forwardJumps, if_true, List.findSome?_cons, List.findSome?_nil, htm, ht]
    cases enter masterChainName <;> cases enter forwardChainName <;> rfl
  | false =>
    simp only [forwardJumps, Bool.false_eq_true, if_false, List.findSome?_cons,
      List.findSome?_nil, htm, ht]
    cases enter masterChainName <;> cases enter forwardChainName <;> rfl

/-- The verdict is that of the two chains FORWARD jumps to. -/
theorem filter_eq (policies : List Policy) (packet : Packet) : ∃ rest,
    (installedTable egressFirst policies).filter .drop "FORWARD" packet =
      (if egressFirst then
        ((installedTable egressFirst policies).enter packet (rest + 2) masterChainName).or
          ((installedTable egressFirst policies).enter packet (rest + 2) forwardChainName)
      else
        ((installedTable egressFirst policies).enter packet (rest + 2) forwardChainName).or
          ((installedTable egressFirst policies).enter packet (rest + 2) masterChainName)).getD
        .drop := by
  obtain ⟨rest, hd⟩ : ∃ rest,
      (installedTable egressFirst policies).chains.length + 1 = rest + 3 := by
    simp [installedTable, installedChains]
  have hh : (installedChains egressFirst policies).lookup "FORWARD" =
      some (forwardJumps egressFirst) := rfl
  exact ⟨rest, by rw [Table.filter, hd, enter_eq egressFirst (rest + 2) hh, findSome_forwardJumps]⟩

/-- A packet from a space's bridge is accepted when it is tracked or the space's policy admits it,
    and dropped otherwise. -/
theorem filter_forward (hb : (policies.map Policy.bridge).Nodup)
    (hc : (policies.map Policy.chainName).Nodup)
    (hn : ∀ q ∈ policies, ∃ networkName ≠ "", q.bridge = safeBridgeName networkName)
    (hm : p ∈ policies) (hrd : p.Readable) (ho : packet.inInterface = p.bridge) :
    (installedTable egressFirst policies).filter .drop "FORWARD" packet = .accept ↔
      Tracked packet ∨ p.Admits packet := by
  obtain ⟨networkName, hi, hbr⟩ := hn p hm
  obtain ⟨rest, hd⟩ := filter_eq egressFirst policies packet
  have hms := enter_master egressFirst (rest + 1) hb hn hm ho
  have hs := enter_space egressFirst rest packet hc hm hrd
  rw [hd, hms]
  by_cases ha : Tracked packet ∨ p.Admits packet
  · simp only [ha, iff_true]
    rw [hs.1 ha]
    by_cases ht : Tracked packet
    · rw [enter_forward_tracked egressFirst (rest + 1) policies ht]
      cases egressFirst <;> rfl
    · rw [enter_forward_new egressFirst (rest + 1) policies hi (ho.trans hbr) ht]
      cases egressFirst <;> rfl
  · obtain ⟨new, hr⟩ := not_or.mp ha
    rw [hs.2 new hr, enter_forward_new egressFirst (rest + 1) policies hi (ho.trans hbr) new]
    cases egressFirst <;> simp [new, hr]

/-- A tracked packet is accepted from wherever it comes: if it is from a bridge, the chain of the space
    accepts it too. -/
theorem filter_tracked (hb : (policies.map Policy.bridge).Nodup)
    (hc : (policies.map Policy.chainName).Nodup)
    (named : ∀ q ∈ policies, ∃ networkName ≠ "", q.bridge = safeBridgeName networkName)
    (readable : ∀ q ∈ policies, q.Readable) (tracked : Tracked packet) :
    (installedTable egressFirst policies).filter .drop "FORWARD" packet = .accept := by
  by_cases own : ∃ q ∈ policies, packet.inInterface = q.bridge
  · obtain ⟨q, hm, ho⟩ := own
    exact (filter_forward egressFirst hb hc named hm (readable q hm) ho).mpr (.inl tracked)
  · push Not at own
    obtain ⟨rest, hd⟩ := filter_eq egressFirst policies packet
    have master : (installedTable egressFirst policies).enter packet (rest + 2) masterChainName =
        none :=
      (enter_eq egressFirst (rest + 1) rfl).trans (findSome_dispatchRules named own)
    rw [hd, master, enter_forward_tracked egressFirst (rest + 1) policies tracked]
    cases egressFirst <;> rfl

end Chains

theorem readable_buildRules {p : Policy} (hr : p.Readable) :
    ∀ rule ∈ buildRules p, (readRule rule.args).isSome := by
  have hu : buildRules p = establishedRule p :: allowRules p ++ [terminalRule p] := rfl
  intro rule hm
  rw [hu, List.mem_append, List.mem_cons, List.mem_singleton] at hm
  rcases hm with (rfl | ha) | rfl
  · rfl
  · obtain ⟨r, hi, idx, hb⟩ := mem_allowRules ha
    obtain ⟨dst, ht, ⟨_, rfl⟩ | ⟨port, hip, rfl⟩⟩ := mem_buildAllowRules.mp hb
    · obtain ⟨block, hrd⟩ := Option.isSome_iff_exists.mp ((hr r hi).1 dst ht)
      rw [allowRule, readRule_allow hrd]
      rfl
    · obtain ⟨block, hrd⟩ := Option.isSome_iff_exists.mp ((hr r hi).1 dst ht)
      obtain ⟨n, rfl⟩ := Int.eq_ofNat_of_zero_le ((hr r hi).2 port hip)
      rw [allowPortRule, readRule_allowPort hrd]
      rfl
  · rw [terminalRule, Iptables.readRule_extension,
      Iptables.readRule_condition (rfl : readCondition "--comment" _ = _), Iptables.readRule_jump]
    rfl

theorem readable_installedChains {egressFirst : Bool} {policies : List Policy}
    (hr : ∀ p ∈ policies, p.Readable) :
    ∀ entry ∈ installedChains egressFirst policies, ∀ rule ∈ entry.2,
      (readRule rule.args).isSome := by
  intro entry hm rule hi
  simp only [installedChains, List.mem_cons] at hm
  rcases hm with rfl | rfl | rfl | hs
  · cases egressFirst <;> simp only [forwardJumps, Bool.false_eq_true, if_true, if_false,
      List.mem_cons, List.not_mem_nil, or_false] at hi <;> rcases hi with rfl | rfl <;> rfl
  · simp only [admissionRules, List.map_cons, List.map_nil, List.mem_cons, List.not_mem_nil,
      or_false] at hi
    rcases hi with rfl | rfl <;> rfl
  · obtain ⟨p, _, rfl⟩ := List.mem_map.mp hi
    rw [readRule_dispatchRule]
    rfl
  · obtain ⟨p, hip, rfl⟩ := List.mem_map.mp hs
    exact readable_buildRules (hr p hip) rule hi

/-- With the policy of every space installed, iptables reads every rule, a new packet from the bridge
    of a space is accepted exactly when the document of that space admits it, and a packet of a
    tracked connection is accepted from wherever it comes. -/
theorem egress_verdict {parseCIDR : String → Option String}
    {lookupIP : Space → String → Except String (List Ipv4.Address)} {spaces : List Space}
    {policies : List Policy}
    (applied : List.Forall₂ (fun space p => appliedPolicy (lookupIP space) parseCIDR space = .ok p)
      spaces policies)
    (ipv4 : ∀ space ∈ spaces, Ipv4Policy (spaceEgress space))
    (bridges : (policies.map Policy.bridge).Nodup)
    (chains : (policies.map Policy.chainName).Nodup) (egressFirst : Bool) :
    (∀ entry ∈ installedChains egressFirst policies, ∀ rule ∈ entry.2,
      (readRule rule.args).isSome) ∧
    (∀ space p, (space, p) ∈ spaces.zip policies → ∀ packet : Packet,
      packet.inInterface = p.bridge → packet.state = .new →
        ((installedTable egressFirst policies).filter .drop "FORWARD" packet = .accept ↔
          EgressAdmits (lookupIP space) packet (spaceEgress space))) ∧
    ∀ packet : Packet, packet.state = .established →
      (installedTable egressFirst policies).filter .drop "FORWARD" packet = .accept := by
  have ha : ∀ p ∈ policies, p.Readable := by
    refine Outcome.forall_mem_of_forall₂ applied ?_
    intro space hm p hbl
    exact (appliedPolicy_admits hbl (ipv4 space hm)).1
  have hn : ∀ q ∈ policies, ∃ networkName ≠ "", q.bridge = safeBridgeName networkName := by
    refine Outcome.forall_mem_of_forall₂ applied ?_
    intro space _ p hbl
    obtain ⟨networkName, _, hin, hb, _⟩ := appliedPolicy_parts hbl
    exact ⟨networkName, hin, hb⟩
  refine ⟨readable_installedChains ha, ?_, fun packet established =>
    filter_tracked egressFirst bridges chains hn ha (.inr established)⟩
  intro space p hp packet ho new
  obtain ⟨his, hi⟩ := List.of_mem_zip hp
  have hbl := (List.forall₂_iff_zip.mp applied).2 hp
  obtain ⟨hr, hd⟩ := appliedPolicy_admits hbl (ipv4 space his)
  have fresh : ¬ Tracked packet := by simp [Tracked, new]
  rw [filter_forward egressFirst bridges chains hn hi hr ho, ← hd]
  simp only [fresh, false_or]

def lockedEgress : EgressPolicy :=
  { default := .deny
    allow := [{ cidr := "10.0.0.0/8", ports := [443] }] }

def lockedSpace : Space :=
  { metadata := { name := "web" }
    spec := { realmName := "prod", network := some { egress := some lockedEgress } } }

def lockedPolicy : Policy :=
  { bridge := safeBridgeName "prod-web", realmName := "prod", spaceName := "web", default := .deny
    allow := [{ originalHost := "", cidr := "10.0.0.0/8", ips := [], ports := [443] }] }

def packetTo (port : Nat) : Packet :=
  { inInterface := safeBridgeName "prod-web", outInterface := "eth0", destination := 0x0A000001#32
    protocol := .tcp, destinationPort := port, state := .new }

/-- The answer to a connection of the space, from the uplink. -/
def reply : Packet :=
  { inInterface := "eth0", outInterface := safeBridgeName "prod-web", destination := 0x0A580002#32
    protocol := .tcp, destinationPort := 40000, state := .established }

theorem egress_verdict_locked :
    (installedTable false [lockedPolicy]).filter .drop "FORWARD" (packetTo 443) = .accept ∧
      (installedTable false [lockedPolicy]).filter .drop "FORWARD" (packetTo 80) ≠ .accept ∧
      (installedTable false [lockedPolicy]).filter .drop "FORWARD" reply = .accept := by
  have hap : List.Forall₂ (fun space p => appliedPolicy (fun _ => .ok []) (fun _ => none) space =
      .ok p) [lockedSpace] [lockedPolicy] := .cons rfl .nil
  have hip : ∀ space ∈ [lockedSpace], Ipv4Policy (spaceEgress space) := by
    intro space hm policy hg entry hi _
    cases List.mem_singleton.mp hm
    cases hg
    cases List.mem_singleton.mp hi
    decide
  obtain ⟨_, hv, established⟩ := @egress_verdict (fun _ => none) (fun _ _ => .ok []) _ _ hap hip
    (by simp) (by simp) false
  have hp : (lockedSpace, lockedPolicy) ∈ [lockedSpace].zip [lockedPolicy] := by simp
  refine ⟨?_, ?_, established reply rfl⟩
  · refine (hv _ _ hp (packetTo 443) rfl rfl).mpr (.inr ⟨_, List.mem_cons_self, ?_, ?_⟩)
    · rw [if_pos (by decide)]
      exact ⟨⟨0x0A000000#32, 8, by decide⟩, by decide, by decide⟩
    · exact .inr ⟨rfl, by decide⟩
  · intro ha
    rcases (hv _ _ hp (packetTo 80) rfl rfl).mp ha with ho | ⟨entry, hi, _, hpr⟩
    · cases ho
    · cases List.mem_singleton.mp hi
      rcases hpr with hn | ⟨_, hpt⟩
      · cases hn
      · exact absurd hpt (by decide)

end Kukeon.Netpolicy
