import Kukeon.Lib.Iptables
import Kukeon.Lib.Outcome
import Kukeon.Naming.SpaceNetwork
import Kukeon.Runner.Space

/-! # The rules of an egress policy

`internal/netpolicy`: `resolver.go` and `rules.go`, and the chain names of `policy.go`; with them
`applySpaceEgressPolicy` of `internal/controller/runner/egress.go`, which hands the policy to the
enforcer. Rules are the arguments of iptables commands.
-/

namespace Kukeon.Netpolicy

open GoText ModelHub Naming
open Runner (PolicyDefault spaceEgressPolicy)

structure ResolvedRule where
  originalHost : String
  cidr : String
  ips : List Ipv4.Address
  ports : List Int

structure Policy where
  bridge : String
  realmName : String
  spaceName : String
  default : PolicyDefault
  allow : List ResolvedRule

def dedupAndSortIPs (ips : List Ipv4.Address) : List Ipv4.Address :=
  ips.dedup.insertionSort fun a b => Ipv4.dotted a ≤ Ipv4.dotted b

section Resolving

variable (lookupIP : String → Except String (List Ipv4.Address))

def resolveRule (rule : Runner.ResolvedRule) : Except String ResolvedRule :=
  if rule.originalHost = "" then
    .ok { originalHost := "", cidr := rule.cidr, ips := [], ports := rule.ports }
  else
    match lookupIP rule.originalHost with
    | .error cause =>
      .error ("failed to resolve egress allow rule host: " ++ quoted rule.originalHost ++ ": " ++
        cause)
    | .ok ips =>
      let ips := dedupAndSortIPs ips
      if ips = [] then
        .error ("failed to resolve egress allow rule host: " ++ quoted rule.originalHost ++
          " resolved to no IPv4 addresses")
      else
        .ok { originalHost := rule.originalHost, cidr := rule.cidr, ips, ports := rule.ports }

def resolve (bridge : String) (policy : Runner.Policy) : Except String Policy := do
  let allow ← policy.allow.mapM (resolveRule lookupIP)
  return { bridge, realmName := policy.realmName, spaceName := policy.spaceName,
           default := policy.default, allow }

/-- The policy that `applySpaceEgressPolicy` applies. -/
def appliedPolicy (parseCIDR : String → Option String) (space : Space) : Except String Policy := do
  let networkName ← (buildSpaceNetworkName space.spec.realmName space.metadata.name).mapError
    ("failed to apply egress policy: " ++ ·)
  let policy ← spaceEgressPolicy parseCIDR space
  (resolve lookupIP (safeBridgeName networkName) policy).mapError
    ("failed to apply egress policy: " ++ ·)

end Resolving

def masterChainName : String := "KUKEON-EGRESS"

def chainName (realmName spaceName : String) : String :=
  "KUKE-EGR-" ++ String.ofList (Fnv.hex (Fnv.sum32a (realmName ++ "/" ++ spaceName)))

def Policy.chainName (p : Policy) : String := Netpolicy.chainName p.realmName p.spaceName

def Policy.commentTag (p : Policy) : String := "kukeon:" ++ p.realmName ++ ":" ++ p.spaceName

structure Rule where
  op : String
  chain : String
  args : List String

def ruleArgs (rule : Rule) : List String := rule.op :: rule.chain :: rule.args

def allowComment (idx : Nat) (r : ResolvedRule) : String :=
  if r.originalHost ≠ "" then "allow[" ++ toString idx ++ "]:host=" ++ r.originalHost
  else "allow[" ++ toString idx ++ "]:cidr=" ++ r.cidr

def allowTargets (r : ResolvedRule) : List String :=
  if r.cidr ≠ "" then [r.cidr]
  else r.ips.map fun ip => String.ofList (Ipv4.dotted ip) ++ "/32"

def allowRule (chain comment dst : String) : Rule :=
  { op := "-A", chain
    args := ["-d", dst, "-m", "comment", "--comment", comment, "-j", "ACCEPT"] }

def allowPortRule (chain comment dst : String) (port : Int) : Rule :=
  { op := "-A", chain
    args := ["-d", dst, "-p", "tcp", "--dport", toString port,
      "-m", "comment", "--comment", comment, "-j", "ACCEPT"] }

def buildAllowRules (chain tag : String) (idx : Nat) (r : ResolvedRule) : List Rule :=
  let comment := tag ++ ":" ++ allowComment idx r
  (allowTargets r).flatMap fun dst =>
    if r.ports.length = 0 then [allowRule chain comment dst]
    else r.ports.map (allowPortRule chain comment dst)

def establishedRule (p : Policy) : Rule :=
  { op := "-A", chain := p.chainName
    args := ["-m", "conntrack", "--ctstate", "RELATED,ESTABLISHED",
      "-m", "comment", "--comment", p.commentTag ++ ":established", "-j", "ACCEPT"] }

def terminalRule (p : Policy) : Rule :=
  { op := "-A", chain := p.chainName
    args := ["-m", "comment", "--comment", p.commentTag ++ ":default", "-j",
      if p.default = .deny then "DROP" else "ACCEPT"] }

def buildRules (p : Policy) : List Rule :=
  establishedRule p ::
    (p.allow.zipIdx.flatMap fun entry =>
      buildAllowRules p.chainName p.commentTag entry.2 entry.1) ++ [terminalRule p]

/-- Sends what comes in from the space's bridge to the space's chain. -/
def dispatchRule (p : Policy) : Rule :=
  { op := "-A", chain := masterChainName
    args := ["-i", p.bridge, "-m", "comment", "--comment", p.commentTag ++ ":dispatch",
      "-j", p.chainName] }

open Iptables (readRule readCondition readTarget Rule.guard matchesInterface Packet)

theorem matchesInterface_bridge {networkName name : String} (hn : networkName ≠ "") :
    matchesInterface (safeBridgeName networkName) name = true ↔
      name = safeBridgeName networkName := by
  have hl : (safeBridgeName networkName).toList.getLast? ≠ some '+' := by
    rw [safeBridgeName, if_neg hn, hashBridgeName, String.toList_ofList]
    simp only [Fnv.hex, List.map_cons, List.map_nil, List.cons_append, List.nil_append,
      List.getLast?_cons_cons, List.getLast?_singleton, ne_eq, Option.some.injEq]
    exact Fnv.hexDigit_ne_plus (Nat.mod_lt _ (by decide))
  rw [matchesInterface, if_neg hl, beq_iff_eq, eq_comm]

theorem readTarget_chainName (realmName spaceName : String) :
    readTarget (chainName realmName spaceName) = .jump (chainName realmName spaceName) := by
  have hn : ∀ target : String, target.toList.head? ≠ some 'K' →
      chainName realmName spaceName ≠ target := by
    rintro target hh rfl
    simp [chainName] at hh
  rw [readTarget, if_neg (hn _ (by decide)), if_neg (hn _ (by decide))]

theorem readRule_dispatchRule (p : Policy) :
    readRule (dispatchRule p).args = some
      { conditions := [.inInterface false p.bridge, .comment (p.commentTag ++ ":dispatch")]
        target := .jump p.chainName } := by
  rw [dispatchRule, Iptables.readRule_condition (rfl : readCondition "-i" _ = _),
    Iptables.readRule_extension,
    Iptables.readRule_condition (rfl : readCondition "--comment" _ = _), Iptables.readRule_jump,
    Policy.chainName, readTarget_chainName]
  rfl

/-- Two accepted spaces have separate networks, and the dispatch of one never takes traffic of the
    other, exactly when they are not the same space under two spellings and their names do not join
    to one network name. -/
theorem space_networks_separate_iff {realm space realm' space' : String}
    (realmAccepted : validateRealmName realm = .ok ())
    (spaceAccepted : validateHierarchyName "space" space = .ok ())
    (realmAccepted' : validateRealmName realm' = .ok ())
    (spaceAccepted' : validateHierarchyName "space" space' = .ok ())
    (noCollision : ∀ network network',
      buildSpaceNetworkName realm space = .ok network →
      buildSpaceNetworkName realm' space' = .ok network' →
      Fnv.sum32a network = Fnv.sum32a network' → network = network') :
    ∃ network network', buildSpaceNetworkName realm space = .ok network ∧
      buildSpaceNetworkName realm' space' = .ok network' ∧
      ((network ≠ network' ∧ ipamDir network ≠ ipamDir network' ∧
          safeBridgeName network ≠ safeBridgeName network' ∧
          ∀ p : Policy, p.bridge = safeBridgeName network →
            ∀ packet : Packet, packet.inInterface = safeBridgeName network' →
              (readRule (dispatchRule p).args).map (·.holds packet) = some false) ↔
        (trimSpace realm, trimSpace space) ≠ (trimSpace realm', trimSpace space') ∧
          ¬ SharedNetworkName (trimSpace realm) (trimSpace space) (trimSpace realm')
            (trimSpace space')) := by
  have hbt := buildSpaceNetworkName_eq_ok realmAccepted spaceAccepted
  have hbl := buildSpaceNetworkName_eq_ok realmAccepted' spaceAccepted'
  refine ⟨_, _, hbt, hbl, ?_⟩
  have hb := safeBridgeName_eq_iff (networkName_ne_empty _ _) (networkName_ne_empty _ _)
    (noCollision _ _ hbt hbl)
  rw [← not_or, ← networkName_eq_iff]
  constructor
  · rintro ⟨hd, _⟩
    exact hd
  · intro hd
    refine ⟨hd, mt (fun hs => ipamDir_injective hs) hd, mt hb.mp hd, ?_⟩
    intro p ho packet hf
    have hm : matchesInterface p.bridge packet.inInterface = false := by
      rw [Bool.eq_false_iff, ne_eq, ho, matchesInterface_bridge (networkName_ne_empty _ _),
        hf, eq_comm, hb]
      exact hd
    rw [readRule_dispatchRule, Option.map_some]
    simp [Iptables.Rule.holds, Iptables.Condition.holds, hm]

theorem space_networks_separate_plain :
    ∃ network network', buildSpaceNetworkName "prod" "web" = .ok network ∧
      buildSpaceNetworkName "dev" "web" = .ok network' ∧
      safeBridgeName network ≠ safeBridgeName network' := by
  obtain ⟨network, network', hbl, hb, hs⟩ :=
    @space_networks_separate_iff "prod" "web" "dev" "web" rfl rfl rfl rfl (by
      intro network network' hbl hb hc
      cases hbl
      cases hb
      exact absurd hc (by decide))
  refine ⟨network, network', hbl, hb, (hs.mpr ⟨by decide, ?_⟩).2.2.1⟩
  have hp : trimSpace "prod" = "prod" := by decide
  have dev : trimSpace "dev" = "dev" := by decide
  rw [hp, dev]
  rintro (⟨m, hf, _⟩ | ⟨m, hf, _⟩)
  · have hh := congrArg (fun text => text.toList.head?) hf
    simp at hh
  · have hh := congrArg (fun text => text.toList.head?) hf
    simp at hh

/-- The space `b-c` of realm `a` and the space `c` of realm `a-b` share their network, and the
    dispatch of the one takes the traffic of the other. -/
theorem hyphenated_spaces_share_network :
    validateRealmName "a" = .ok () ∧ validateHierarchyName "space" "b-c" = .ok () ∧
      validateRealmName "a-b" = .ok () ∧ validateHierarchyName "space" "c" = .ok () ∧
      buildSpaceNetworkName "a" "b-c" = .ok "a-b-c" ∧
      buildSpaceNetworkName "a-b" "c" = .ok "a-b-c" ∧
      ∀ p : Policy, p.bridge = safeBridgeName "a-b-c" →
        ∀ packet : Packet, packet.inInterface = safeBridgeName "a-b-c" →
          (readRule (dispatchRule p).args).map (·.holds packet) = some true := by
  refine ⟨rfl, rfl, rfl, rfl, rfl, rfl, ?_⟩
  intro p ho packet hf
  have ht : matchesInterface p.bridge packet.inInterface = true := by
    rw [ho, matchesInterface_bridge (by decide)]
    exact hf
  rw [readRule_dispatchRule, Option.map_some]
  simp [Iptables.Rule.holds, Iptables.Condition.holds, ht]

end Kukeon.Netpolicy
