import Kukeon.Runner.Metadata
import Mathlib

/-! # Spaces in the runner

`UpdateSpace` and `EnsureSpace` of `internal/controller/runner`, and the policy that
`applySpaceEgressPolicy` hands to the host firewall, `netpolicy.FromInternal` of
`internal/netpolicy/policy.go`. The parser of CIDR texts is a parameter: it answers with the error
text for a text it refuses.
-/

namespace Kukeon.Runner

open ModelHub GoText

inductive PolicyDefault where
  | allow
  | deny
  deriving Repr, DecidableEq

structure ResolvedRule where
  originalHost : String := ""
  cidr : String := ""
  ports : List Int := []
  deriving DecidableEq

/-- The policy the enforcer installs for one space, before host names are resolved. -/
structure Policy where
  realmName : String
  spaceName : String
  default : PolicyDefault
  allow : List ResolvedRule := []
  deriving DecidableEq

def normalizeDefault : EgressDefault → Except String PolicyDefault
  | .unset | .allow => .ok .allow
  | .deny => .ok .deny
  | .other text =>
    match lower (trimSpace text) with
    | "" | "allow" => .ok .allow
    | "deny" => .ok .deny
    | _ => .error "egress default must be 'allow' or 'deny'"

def isLikelyDNSName (host : String) : Bool :=
  host != "" &&
    !(containsChar host ' ' || containsChar host '\t' || containsChar host '/') &&
    (host.toList.splitOn '.').all fun label => label != []

def validatePorts : List Int → Except String (List Int)
  | [] => .ok []
  | port :: rest =>
    if port < 1 ∨ 65535 < port then
      .error ("egress allow rule port must be within [1, 65535]: " ++ toString port)
    else (validatePorts rest).map fun ports => (port :: ports).dedup

section Policies

variable (parseCIDR : String → Option String)

def validateAllowRule (rule : EgressAllowRule) : Except String ResolvedRule :=
  let host := trimSpace rule.host
  let cidr := trimSpace rule.cidr
  if host = "" ∧ cidr = "" then
    .error "egress allow rule requires exactly one of host or cidr"
  else if host ≠ "" ∧ cidr ≠ "" then
    .error "egress allow rule must not set both host and cidr"
  else
    match if cidr = "" then none else parseCIDR cidr with
    | some err =>
      .error ("egress allow rule cidr is not a valid CIDR: " ++ quoted cidr ++ ": " ++ err)
    | none =>
      if host ≠ "" ∧ isLikelyDNSName host = false then
        .error ("egress allow rule host is not a valid dns name: " ++ quoted host)
      else
        (validatePorts rule.ports).map fun ports =>
          { originalHost := host, cidr := cidr, ports := ports.insertionSort (· ≤ ·) }

/-- The allow rules from position `index` on; the error names the rule that failed. -/
def validateAllowRules : Nat → List EgressAllowRule → Except String (List ResolvedRule)
  | _, [] => .ok []
  | index, rule :: rest =>
    match validateAllowRule parseCIDR rule with
    | .error err => .error ("egress allow rule " ++ toString index ++ ": " ++ err)
    | .ok resolved => (validateAllowRules (index + 1) rest).map (resolved :: ·)

/-- `FromInternal`: no policy at all when nothing is restricted. -/
def fromInternal (realmName spaceName : String) :
    Option EgressPolicy → Except String (Option Policy)
  | none => .ok none
  | some egress =>
    match normalizeDefault egress.default with
    | .error err => .error err
    | .ok default =>
      if default = .allow ∧ egress.allow.length = 0 then .ok none
      else
        (validateAllowRules parseCIDR 0 egress.allow).map fun rules =>
          some { realmName, spaceName, default, allow := rules }

def newAdmitAllPolicy (realmName spaceName : String) : Policy :=
  { realmName, spaceName, default := .allow }

/-- The policy `applySpaceEgressPolicy` installs for the space it is given. -/
def spaceEgressPolicy (space : Space) : Except String Policy :=
  if trimSpace space.metadata.name = "" then
    .error "failed to apply egress policy: space name is required"
  else if trimSpace space.spec.realmName = "" then
    .error "failed to apply egress policy: realm name is required"
  else
    match fromInternal parseCIDR space.spec.realmName space.metadata.name
        (space.spec.network.bind SpaceNetwork.egress) with
    | .error err => .error ("failed to apply egress policy: " ++ err)
    | .ok none => .ok (newAdmitAllPolicy space.spec.realmName space.metadata.name)
    | .ok (some policy) => .ok policy

end Policies

/-- The document `UpdateSpace` writes back: labels and container defaults follow the desired
    space, every other field keeps its persisted value. -/
def updatedSpace (existing desired : Space) : Space :=
  { existing with
    metadata :=
      { existing.metadata with
        labels := mergeManagedLabels existing.metadata.labels desired.metadata.labels }
    spec := { existing.spec with defaults := desired.spec.defaults } }

structure SpaceHost where
  /-- The path of the space's network config file. -/
  confPath : String
  /-- The cgroup path, empty when the cgroup has none yet. -/
  cgroupPath : String

/-- The document on disk after `EnsureSpace`. The network step stores the config path; the cgroup
    step then writes the document it was handed, which still carries the old path. -/
def ensuredSpace (host : SpaceHost) (space : Space) : Space :=
  let networked : Space :=
    if space.spec.cniConfigPath = host.confPath then space
    else { space with spec := { space.spec with cniConfigPath := host.confPath } }
  if host.cgroupPath = "" then networked
  else
    match writeDocWithGeneration spaceAccess (some networked) space with
    | .ok written => written
    | .error _ => networked

/-- What the firewall reads of a space: a network pass writes none of it. -/
def policyInputs (space : Space) : String × String × Option SpaceNetwork :=
  (space.metadata.name, space.spec.realmName, space.spec.network)

theorem policyInputs_ensuredSpace (host : SpaceHost) (space : Space) :
    policyInputs (ensuredSpace host space) = policyInputs space := by
  have hn : policyInputs
      (if space.spec.cniConfigPath = host.confPath then space
        else { space with spec := { space.spec with cniConfigPath := host.confPath } }) =
      policyInputs space := by
    by_cases hs : space.spec.cniConfigPath = host.confPath
    · rw [if_pos hs]
    · rw [if_neg hs]
      rfl
  unfold ensuredSpace
  by_cases hnc : host.cgroupPath = ""
  · simpa only [hnc, if_true] using hn
  · simp only [hnc, if_false]
    split
    · next written hw =>
        rw [(writeDocWithGeneration_some hw).2]
        rfl
    · exact hn

theorem spaceEgressPolicy_congr (parseCIDR : String → Option String) {a b : Space}
    (hi : policyInputs a = policyInputs b) :
    spaceEgressPolicy parseCIDR a = spaceEgressPolicy parseCIDR b := by
  simp only [policyInputs, Prod.mk.injEq] at hi
  simp only [spaceEgressPolicy, hi]

end Kukeon.Runner
