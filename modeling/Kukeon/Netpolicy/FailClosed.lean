import Kukeon.Lib.Runs
import Kukeon.Netpolicy.Ownership

/-! # Egress fails closed

Whatever was applied and removed before, and wherever a further call is stopped, a new packet from a
space's bridge is accepted only if a policy admits it that is in force for the space or is just being
applied to it.
-/

open Std.Do Effect

namespace Kukeon.Netpolicy

open Firewall Naming
open Iptables (readRule matchesInterface Packet Verdict Table Host Runner)

inductive Call where
  | apply (p : Policy)
  | remove (realmName spaceName : String)
  /-- The forward admission chain is installed. -/
  | install

/-- A call, with everything that its outcome depends on beside the table. -/
structure Attempt where
  call : Call
  runner : Runner

def Attempt.program (a : Attempt) : Effect Host String Unit :=
  match a.call with
  | .apply p => Netpolicy.apply a.runner p
  | .remove realmName spaceName => Netpolicy.remove a.runner realmName spaceName
  | .install => Firewall.install a.runner

def Attempt.newPolicy (a : Attempt) : List Policy :=
  match a.call with
  | .apply p => [p]
  | _ => []

structure FirewallState where
  table : Table
  /-- The policies whose rules may be in the chains: for each space the one applied last, and those
      that a failed call may have left beside it. -/
  inForce : List Policy

def emptyFirewall : FirewallState :=
  { table := { chains := ["FORWARD"], rules := fun _ => [] }, inForce := [] }

def FirewallState.host (s : FirewallState) : Host := { table := s.table }

/-- An applied policy replaces what was in force in its chain, a removal that met no fault leaves
    nothing, and a call that fails takes nothing back. -/
def inForceAfter (inForce : List Policy) (a : Attempt) (ended : Except String Unit) : List Policy :=
  match a.call, ended with
  | .apply p, .ok _ => p :: withoutChain inForce p.chainName
  | .apply p, .error _ => p :: inForce
  | .remove realmName spaceName, .ok _ =>
    if a.runner.faults = [] then withoutChain inForce (chainName realmName spaceName) else inForce
  | .remove _ _, .error _ => inForce
  | .install, _ => inForce

def FirewallState.step (s : FirewallState) (a : Attempt) : FirewallState :=
  { table := (finalState a.program s.host).table
    inForce := inForceAfter s.inForce a (ending a.program s.host) }

def FirewallState.tables (s : FirewallState) (a : Attempt) : List Table :=
  s.table :: (finalState a.program s.host).trail

section Runs

variable {seen inForce : List Policy}

theorem attempt_triple (a : Attempt) :
    ⦃fun host => ⌜Holding (a.newPolicy ++ seen) (a.newPolicy ++ inForce) seen inForce host⌝⦄
      a.program
    ⦃post⟨fun done host => ⌜Holding (a.newPolicy ++ seen) (a.newPolicy ++ inForce)
          (a.newPolicy ++ seen) (inForceAfter inForce a (.ok done)) host⌝,
        fun cause host => ⌜Holding (a.newPolicy ++ seen) (a.newPolicy ++ inForce)
          (a.newPolicy ++ seen) (inForceAfter inForce a (.error cause)) host⌝⟩⦄ := by
  obtain ⟨call, runner⟩ := a
  cases call with
  | apply p => exact apply_triple runner p (List.Subset.refl _) (List.Subset.refl _)
  | remove realmName spaceName =>
    exact remove_triple runner realmName spaceName (List.Subset.refl _) (List.Subset.refl _)
  | install =>
    have neutral := neutral_keeps runner (List.Subset.refl seen) (List.Subset.refl inForce)
    refine install_keeps neutral (jump_keeps runner (List.Subset.refl _) (List.Subset.refl _) ?_)
      fun args hm => append_keeps runner (List.Subset.refl _) (List.Subset.refl _)
        fun rule hr => .inl (.admission hm hr)
    intro rule hr
    cases hr
    exact .toForward

theorem owned_step {s : FirewallState} (a : Attempt) (how : Owned seen s.inForce s.table) :
    Owned (a.newPolicy ++ seen) (s.step a).inForce (s.step a).table ∧
      ∀ table ∈ s.tables a, Owned (a.newPolicy ++ seen) (a.newPolicy ++ s.inForce) table := by
  have hs : Holding (a.newPolicy ++ seen) (a.newPolicy ++ s.inForce) seen s.inForce s.host :=
    ⟨how, fun _ hm => absurd hm List.not_mem_nil⟩
  have ha : Holding (a.newPolicy ++ seen) (a.newPolicy ++ s.inForce) (a.newPolicy ++ seen)
      (s.step a).inForce (finalState a.program s.host) := by
    obtain ⟨ho, hof⟩ := of_triple (attempt_triple a) hs
    rw [FirewallState.step]
    cases he : ending a.program s.host with
    | ok done => exact ho done he
    | error cause => exact hof cause he
  refine ⟨ha.1, ?_⟩
  intro table hm
  rcases List.mem_cons.mp hm with rfl | hl
  · exact how.mono (List.subset_append_right ..) (List.subset_append_right ..)
  · exact ha.2 table hl

def policiesOf (history : List Attempt) : List Policy := history.flatMap Attempt.newPolicy

theorem owned_run (history : List Attempt) :
    Owned (policiesOf history) (Runs.run FirewallState.step emptyFirewall history).inForce
      (Runs.run FirewallState.step emptyFirewall history).table := by
  induction history using List.reverseRecOn with
  | nil => exact ⟨fun _ _ => rfl, fun _ => .inl fun _ hm => absurd hm List.not_mem_nil⟩
  | append_singleton history a ih =>
    rw [Runs.run_concat]
    refine (owned_step a ih).1.mono ?_ (List.Subset.refl _)
    intro p hm
    simpa [policiesOf, or_comm] using hm

end Runs

section Verdicts

variable {seen loaded : List Policy} {table : Table} {packet : Packet} {depth : Nat}
  {networkName : String}

theorem exists_verdict {chain : String} {verdict : Verdict}
    (hd : table.enter packet depth chain = some verdict) :
    ∃ below, ∃ rule ∈ table.rules chain,
      Iptables.Rule.verdict (table.enter packet below) packet rule = some verdict := by
  cases depth with
  | zero => cases hd
  | succ below => exact ⟨below, List.exists_of_findSome?_eq_some hd⟩

variable {rule : Iptables.Rule}

theorem Owned.shared {chain : String} (ho : Owned seen loaded table)
    (hi : chain ∈ sharedChains) (hm : rule ∈ table.rules chain) :
    Shared seen chain rule := by
  rcases ho.chains chain with hs | ⟨p, _, hh, _⟩
  · exact hs rule hm
  · exact absurd hh (chainName_ne _ _ hi)

theorem Shared.admission_of (hs : Shared seen forwardChainName rule) :
    ∃ args ∈ admissionRules, readRule args = some rule := by
  generalize hn : forwardChainName = chain at hs
  cases hs with
  | toMaster => exact absurd hn (by decide)
  | toForward => exact absurd hn (by decide)
  | admission hm hr => exact ⟨_, hm, hr⟩
  | dispatch => exact absurd hn (by decide)

theorem Shared.dispatch_of (hs : Shared seen masterChainName rule) :
    ∃ p ∈ seen, readRule (dispatchRule p).args = some rule := by
  generalize hn : masterChainName = chain at hs
  cases hs with
  | toMaster => exact absurd hn (by decide)
  | toForward => exact absurd hn (by decide)
  | admission => exact absurd hn (by decide)
  | dispatch hm hr => exact ⟨_, hm, hr⟩

theorem Shared.jump_of (hs : Shared seen "FORWARD" rule) :
    rule.target = .jump masterChainName ∨ rule.target = .jump forwardChainName := by
  generalize hn : "FORWARD" = chain at hs
  cases hs with
  | toMaster => exact .inl rfl
  | toForward => exact .inr rfl
  | admission => exact absurd hn (by decide)
  | dispatch => exact absurd hn (by decide)

/-- A chain with the rules of one policy accepts only what the policy admits. -/
theorem admits_of_accepted_space {p : Policy} (new : ¬ Tracked packet)
    (hb : ∀ rule ∈ table.rules p.chainName, Built p rule)
    (ha : table.enter packet depth p.chainName = some .accept) : p.Admits packet := by
  obtain ⟨below, rule, hm, hd⟩ := exists_verdict ha
  obtain ⟨source, hi, hr⟩ := hb rule hm
  have hdc : source.decides (table.enter packet below) packet = some .accept := by
    rw [Rule.decides, hr]
    exact hd
  exact (admits_of_decides hi hdc).resolve_left new

variable (how : Owned seen loaded table)

include how

theorem not_accepted_forward (new : ¬ Tracked packet)
    (hn : networkName ≠ "") (ho : packet.inInterface = safeBridgeName networkName) :
    table.enter packet depth forwardChainName ≠ some .accept := by
  intro ha
  obtain ⟨below, rule, hm, hd⟩ := exists_verdict ha
  obtain ⟨args, hi, hr⟩ := (how.shared (by simp [sharedChains]) hm).admission_of
  have hu : (admissionRule args).decides (table.enter packet below) packet = none :=
    decides_admission hn ho new hi
  rw [Rule.decides, admissionRule, hr, Option.bind_some, hd] at hu
  cases hu

/-- The dispatch chain accepts what the chain of the packet's space accepts. -/
theorem accepted_space_of_master
    (hb : ∀ p ∈ seen, ∃ networkName ≠ "", p.bridge = safeBridgeName networkName)
    (ha : table.enter packet depth masterChainName = some .accept) :
    ∃ p ∈ seen, packet.inInterface = p.bridge ∧
      ∃ below, table.enter packet below p.chainName = some .accept := by
  obtain ⟨below, rule, hm, hdc⟩ := exists_verdict ha
  obtain ⟨p, hi, hr⟩ := (how.shared (by simp [sharedChains]) hm).dispatch_of
  obtain ⟨networkName, hn, hbr⟩ := hb p hi
  have hd : (dispatchRule p).decides (table.enter packet below) packet =
      if packet.inInterface = p.bridge then table.enter packet below p.chainName else none :=
    decides_dispatchRule hn hbr
  rw [Rule.decides, hr, Option.bind_some, hdc] at hd
  split at hd
  · next ho => exact ⟨p, hi, ho, below, hd.symm⟩
  · cases hd

/-- What FORWARD accepts of a bridge's new packets, the chain of a policy on that bridge accepts. -/
theorem accepted_space_of_filter (new : ¬ Tracked packet)
    (hn : networkName ≠ "") (ho : packet.inInterface = safeBridgeName networkName)
    (hb : ∀ p ∈ seen, ∃ networkName ≠ "", p.bridge = safeBridgeName networkName)
    (ha : table.filter .drop "FORWARD" packet = .accept) :
    ∃ p ∈ seen, packet.inInterface = p.bridge ∧
      ∃ below, table.enter packet below p.chainName = some .accept := by
  have he : table.enter packet (table.chains.length + 1) "FORWARD" = some .accept := by
    unfold Table.filter at ha
    cases hdc : table.enter packet (table.chains.length + 1) "FORWARD" with
    | none =>
      rw [hdc] at ha
      cases ha
    | some verdict =>
      rw [hdc] at ha
      exact congrArg some ha
  obtain ⟨below, rule, hm, hd⟩ := exists_verdict he
  unfold Iptables.Rule.verdict at hd
  split at hd
  · rcases (how.shared (by simp [sharedChains]) hm).jump_of with hms | hf
    · rw [hms] at hd
      exact accepted_space_of_master how hb hd
    · rw [hf] at hd
      exact absurd hd (not_accepted_forward how new hn ho)
  · cases hd

end Verdicts

theorem inForceAfter_subset (inForce : List Policy) (a : Attempt) (ended : Except String Unit) :
    inForceAfter inForce a ended ⊆ a.newPolicy ++ inForce := by
  obtain ⟨call, runner⟩ := a
  cases call with
  | apply p =>
    cases ended with
    | ok _ => exact List.cons_subset_cons p (withoutChain_subset inForce p.chainName)
    | error _ => exact List.Subset.refl _
  | remove realmName spaceName =>
    cases ended with
    | ok _ =>
      simp only [inForceAfter]
      split
      · exact withoutChain_subset inForce _
      · exact List.Subset.refl _
    | error _ => exact List.Subset.refl _
  | install => exact List.Subset.refl _

theorem inForce_subset (history : List Attempt) :
    (Runs.run FirewallState.step emptyFirewall history).inForce ⊆ policiesOf history := by
  induction history using List.reverseRecOn with
  | nil => exact List.Subset.refl _
  | append_singleton history a ih =>
    rw [Runs.run_concat]
    intro p hm
    rcases List.mem_append.mp (inForceAfter_subset _ a _ hm) with now | hb
    · simp [policiesOf, now]
    · have he := ih hb
      simp only [policiesOf] at he
      simp [policiesOf, List.flatMap_append, he]

/-- Let the policies be of named bridges, and let those on one bridge or in one chain belong to one
    space. At every point of a call after any history of calls, whichever of their commands fail, the
    new packets that pass from the space's bridge are all admitted by one policy: one that is in force
    for the space, or the one that the call is applying to it. Without such a policy none passes. -/
theorem egress_fails_closed {history : List Attempt} {further : Attempt}
    {networkName realmName spaceName : String} (named : networkName ≠ "")
    (bridges : ∀ p ∈ policiesOf (history ++ [further]),
      ∃ networkName ≠ "", p.bridge = safeBridgeName networkName)
    (ownBridge : ∀ p ∈ policiesOf (history ++ [further]), p.bridge = safeBridgeName networkName →
      p.realmName = realmName ∧ p.spaceName = spaceName)
    (ownChain : ∀ p ∈ policiesOf (history ++ [further]),
      p.chainName = chainName realmName spaceName →
        p.realmName = realmName ∧ p.spaceName = spaceName)
    {table : Table}
    (reached : table ∈ (Runs.run FirewallState.step emptyFirewall history).tables further) :
    (∀ packet : Packet, packet.inInterface = safeBridgeName networkName → packet.state = .new →
      table.filter .drop "FORWARD" packet ≠ .accept) ∨
    ∃ p ∈ further.newPolicy ++ (Runs.run FirewallState.step emptyFirewall history).inForce,
      p.realmName = realmName ∧ p.spaceName = spaceName ∧
      ∀ packet : Packet, packet.inInterface = safeBridgeName networkName → packet.state = .new →
        table.filter .drop "FORWARD" packet = .accept → p.Admits packet := by
  have hp : ∀ p ∈ further.newPolicy ++ policiesOf history,
      p ∈ policiesOf (history ++ [further]) := by
    intro p hm
    simpa [policiesOf, or_comm] using hm
  have how := (owned_step further (owned_run history)).2 table reached
  have his : ∀ packet : Packet, packet.inInterface = safeBridgeName networkName →
      packet.state = .new → table.filter .drop "FORWARD" packet = .accept →
        ¬ Tracked packet ∧
          ∃ depth, table.enter packet depth (chainName realmName spaceName) = some .accept := by
    intro packet ho new ha
    have hu : ¬ Tracked packet := by
      simp [Tracked, new]
    obtain ⟨p, hi, hs, depth, he⟩ := accepted_space_of_filter how hu named
      ho (fun p hi => bridges p (hp p hi)) ha
    obtain ⟨hr, hsp⟩ := ownBridge p (hp p hi) (hs.symm.trans ho)
    rw [Policy.chainName, hr, hsp] at he
    exact ⟨hu, depth, he⟩
  rcases how.chains (chainName realmName spaceName) with hsh | ⟨p, hil, hh, hbl⟩
  · refine .inl ?_
    intro packet ho new ha
    obtain ⟨_, depth, he⟩ := his packet ho new ha
    obtain ⟨_, rule, hm, _⟩ := exists_verdict he
    exact not_shared realmName spaceName (hsh rule hm)
  · have hk : p ∈ further.newPolicy ++ policiesOf history := by
      rcases List.mem_append.mp hil with now | hb
      · exact List.mem_append_left _ now
      · exact List.mem_append_right _ (inForce_subset history hb)
    obtain ⟨hr, hsp⟩ := ownChain p (hp p hk) hh
    refine .inr ⟨p, hil, hr, hsp, ?_⟩
    intro packet ho new ha
    obtain ⟨hu, depth, he⟩ := his packet ho new ha
    rw [← hh] at he hbl
    exact admits_of_accepted_space hu hbl he

/-- The ninth command fails: the established rule is loaded, the allow rule is not. -/
def interrupted : Runner :=
  { builtin := ["FORWARD"], prints := fun _ _ => "", faults := [8], failure := fun _ => "exit 4" }

def interruptedApply : Attempt := { call := .apply lockedPolicy, runner := interrupted }

theorem egress_fails_closed_interrupted :
    (Runs.run FirewallState.step emptyFirewall [interruptedApply]).table.filter .drop "FORWARD"
      (packetTo 80) ≠ .accept := by
  have ho : ∀ p ∈ policiesOf ([interruptedApply] ++
      [{ call := .remove "prod" "web", runner := interrupted }]), p = lockedPolicy := by
    intro p hm
    exact List.mem_singleton.mp hm
  have hc := @egress_fails_closed [interruptedApply]
    { call := .remove "prod" "web", runner := interrupted } "prod-web" "prod" "web" (by decide)
    (fun p hm => ho p hm ▸ ⟨"prod-web", by decide, rfl⟩)
    (fun p hm _ => ho p hm ▸ ⟨rfl, rfl⟩) (fun p hm _ => ho p hm ▸ ⟨rfl, rfl⟩)
    _ List.mem_cons_self
  rcases hc with hn | ⟨p, inForce, _, _, had⟩
  · exact hn (packetTo 80) rfl rfl
  · intro ha
    cases List.mem_singleton.mp (inForce_subset [interruptedApply] inForce)
    rcases had (packetTo 80) rfl rfl ha with hop | ⟨r, hi, _, hp⟩
    · cases hop
    · cases List.mem_singleton.mp hi
      rcases hp with hn | ⟨_, hpr⟩
      · cases hn
      · exact absurd hpr (by decide)

end Kukeon.Netpolicy
