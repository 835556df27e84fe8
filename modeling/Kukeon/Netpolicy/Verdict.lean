import Kukeon.Netpolicy.Rules

/-! # What a policy's rules decide

A rule is read by iptables and decides a packet or passes it on. Over the rules of one policy, the
first decision on a new packet is the policy's own: accept what an allow entry matches, otherwise
the default.
-/

namespace Kukeon.Netpolicy

open Iptables (readRule readCondition Packet Verdict)

/-- The packet belongs to a connection the firewall already admitted. -/
def Tracked (packet : Packet) : Prop := packet.state = .related ∨ packet.state = .established

/-- The entry allows the packet's destination and, when it names ports, its port. -/
def ResolvedRule.Admits (packet : Packet) (r : ResolvedRule) : Prop :=
  (∃ dst ∈ allowTargets r, ∃ block, Ipv4.Block.read dst = some block ∧
      block.covers packet.destination = true) ∧
    (r.ports = [] ∨ packet.protocol = .tcp ∧ (packet.destinationPort : Int) ∈ r.ports)

def Policy.Admits (p : Policy) (packet : Packet) : Prop :=
  p.default = .allow ∨ ∃ r ∈ p.allow, r.Admits packet

def ResolvedRule.Readable (r : ResolvedRule) : Prop :=
  (∀ dst ∈ allowTargets r, (Ipv4.Block.read dst).isSome) ∧ ∀ port ∈ r.ports, 0 ≤ port

def Policy.Readable (p : Policy) : Prop := ∀ r ∈ p.allow, r.Readable

def Rule.decides (enter : String → Option Verdict) (packet : Packet) (rule : Rule) :
    Option Verdict :=
  (readRule rule.args).bind (Iptables.Rule.verdict enter packet)

section Rules

variable {enter : String → Option Verdict} {packet : Packet} {p : Policy}

theorem readRule_established (comment : String) :
    readRule ["-m", "conntrack", "--ctstate", "RELATED,ESTABLISHED",
        "-m", "comment", "--comment", comment, "-j", "ACCEPT"] =
      some { conditions := [.ctstate [.related, .established], .comment comment]
             target := .accept } := rfl

theorem decides_of_tracked {op chain comment : String} (ht : Tracked packet) :
    (Rule.mk op chain ["-m", "conntrack", "--ctstate", "RELATED,ESTABLISHED",
        "-m", "comment", "--comment", comment, "-j", "ACCEPT"]).decides enter packet =
      some .accept := by
  rw [Rule.decides, readRule_established]
  rcases ht with hr | he
  · simp [Iptables.Rule.verdict, Iptables.Rule.holds, Iptables.Condition.holds, hr]
  · simp [Iptables.Rule.verdict, Iptables.Rule.holds, Iptables.Condition.holds, he]

theorem decides_of_untracked {op chain comment : String} (new : ¬ Tracked packet) :
    (Rule.mk op chain ["-m", "conntrack", "--ctstate", "RELATED,ESTABLISHED",
        "-m", "comment", "--comment", comment, "-j", "ACCEPT"]).decides enter packet = none := by
  unfold Tracked at new
  rw [Rule.decides, readRule_established]
  simpa [Iptables.Rule.verdict, Iptables.Rule.holds, Iptables.Condition.holds, not_or] using new

theorem decides_terminal :
    (terminalRule p).decides enter packet =
      some (if p.default = .deny then .drop else .accept) := by
  unfold Rule.decides terminalRule
  rw [Iptables.readRule_extension,
    Iptables.readRule_condition (rfl : readCondition "--comment" _ = _), Iptables.readRule_jump]
  by_cases hd : p.default = .deny
  · simp only [hd, if_true]
    rfl
  · simp only [hd, if_false]
    rfl

section Allow

variable {dst comment : String} {block : Ipv4.Block} (reads : Ipv4.Block.read dst = some block)

include reads

theorem readRule_allow :
    readRule ["-d", dst, "-m", "comment", "--comment", comment, "-j", "ACCEPT"] =
      some { conditions := [.destination block, .comment comment], target := .accept } := by
  have hd : readCondition "-d" dst = some (.destination block) := by
    simp [readCondition, reads]
  rw [Iptables.readRule_condition hd, Iptables.readRule_extension,
    Iptables.readRule_condition (rfl : readCondition "--comment" _ = _), Iptables.readRule_jump]
  rfl

theorem readRule_allowPort {port : Nat} :
    readRule ["-d", dst, "-p", "tcp", "--dport", toString (port : Int),
        "-m", "comment", "--comment", comment, "-j", "ACCEPT"] =
      some { conditions := [.destination block, .protocol .tcp, .destinationPort port,
               .comment comment]
             target := .accept } := by
  have hd : readCondition "-d" dst = some (.destination block) := by
    simp [readCondition, reads]
  have ht : (toString (port : Int)).toList = Ipv4.decimal port := by
    have hdg : toString (port : Int) = String.ofList (Ipv4.decimal port) := by
      exact Nat.repr_eq_ofList_toDigits
    rw [hdg, String.toList_ofList]
  have hdp : readCondition "--dport" (toString (port : Int)) = some (.destinationPort port) := by
    have hu : ∀ value, readCondition "--dport" value =
        (Ipv4.readDecimal value.toList).map .destinationPort := fun _ => rfl
    rw [hu, ht, Ipv4.readDecimal_decimal]
    rfl
  rw [Iptables.readRule_condition hd,
    Iptables.readRule_condition (rfl : readCondition "-p" "tcp" = _),
    Iptables.readRule_condition hdp, Iptables.readRule_extension,
    Iptables.readRule_condition (rfl : readCondition "--comment" _ = _), Iptables.readRule_jump]
  rfl

theorem decides_allowRule {chain : String} :
    (allowRule chain comment dst).decides enter packet =
      if block.covers packet.destination = true then some .accept else none := by
  rw [Rule.decides, allowRule, readRule_allow reads]
  simp [Iptables.Rule.verdict, Iptables.Rule.holds, Iptables.Condition.holds]

theorem decides_allowPortRule {chain : String} {port : Int} (hn : 0 ≤ port) :
    (allowPortRule chain comment dst port).decides enter packet =
      if block.covers packet.destination = true ∧ packet.protocol = .tcp ∧
        (packet.destinationPort : Int) = port then some .accept else none := by
  obtain ⟨n, rfl⟩ := Int.eq_ofNat_of_zero_le hn
  rw [Rule.decides, allowPortRule, readRule_allowPort reads]
  simp [Iptables.Rule.verdict, Iptables.Rule.holds, Iptables.Condition.holds]

end Allow

/-- A destination or a port that iptables does not read makes no rule. -/
theorem decides_of_unread {op chain dst : String} {rest : List String}
    (hu : Ipv4.Block.read dst = none) :
    (Rule.mk op chain ("-d" :: dst :: rest)).decides enter packet = none := by
  have hd : readCondition "-d" dst = none := by
    simp [readCondition, hu]
  rw [Rule.decides, Iptables.readRule_unread (by decide) hd, Option.bind_none]

theorem decides_of_negative {chain comment dst : String} {port : Int} (hn : port < 0) :
    (allowPortRule chain comment dst port).decides enter packet = none := by
  cases reads : Ipv4.Block.read dst with
  | none => exact decides_of_unread reads
  | some block =>
    have hd : readCondition "-d" dst = some (.destination block) := by
      simp [readCondition, reads]
    have hdp : readCondition "--dport" (toString port) = none := by
      have hu : ∀ value, readCondition "--dport" value =
          (Ipv4.readDecimal value.toList).map .destinationPort := fun _ => rfl
      obtain ⟨n, rfl⟩ := Int.eq_negSucc_of_lt_zero hn
      have hm : (toString (Int.negSucc n)).toList = '-' :: (toString (n + 1)).toList := by
        exact String.toList_append ..
      rw [hu, hm, Ipv4.readDecimal, if_neg]
      · rfl
      · rintro ⟨_, hdg⟩
        exact absurd (List.all_eq_true.mp hdg '-' List.mem_cons_self) (by decide)
    rw [Rule.decides, allowPortRule, Iptables.readRule_condition hd,
      Iptables.readRule_condition (rfl : readCondition "-p" "tcp" = _),
      Iptables.readRule_unread (by decide) hdp]
    rfl

section Entries

variable {r : ResolvedRule} {chain tag : String} {idx : Nat}

theorem mem_buildAllowRules {rule : Rule} :
    rule ∈ buildAllowRules chain tag idx r ↔ ∃ dst ∈ allowTargets r,
      (r.ports = [] ∧ rule = allowRule chain (tag ++ ":" ++ allowComment idx r) dst) ∨
        ∃ port ∈ r.ports,
          rule = allowPortRule chain (tag ++ ":" ++ allowComment idx r) dst port := by
  rw [buildAllowRules, List.mem_flatMap]
  refine exists_congr fun dst => and_congr_right fun _ => ?_
  cases hp : r.ports with
  | nil => simp
  | cons port rest => simp [eq_comm]

theorem decides_allow (hr : r.Readable) {rule : Rule}
    (hm : rule ∈ buildAllowRules chain tag idx r) :
    rule.decides enter packet = none ∨ rule.decides enter packet = some .accept := by
  obtain ⟨dst, ht, hb⟩ := mem_buildAllowRules.mp hm
  obtain ⟨block, reads⟩ := Option.isSome_iff_exists.mp (hr.1 dst ht)
  rcases hb with ⟨_, rfl⟩ | ⟨port, hi, rfl⟩
  · rw [decides_allowRule reads]
    split <;> simp
  · rw [decides_allowPortRule reads (hr.2 port hi)]
    split <;> simp

theorem admits_of_decides_allow {rule : Rule} (hmm : rule ∈ buildAllowRules chain tag idx r)
    (ha : rule.decides enter packet = some .accept) : r.Admits packet := by
  obtain ⟨dst, ht, hb⟩ := mem_buildAllowRules.mp hmm
  cases reads : Ipv4.Block.read dst with
  | none =>
    have hu : rule.decides enter packet = none := by
      rcases hb with ⟨_, rfl⟩ | ⟨port, _, rfl⟩
      · exact decides_of_unread reads
      · exact decides_of_unread reads
    cases hu.symm.trans ha
  | some block =>
    rcases hb with ⟨hnp, rfl⟩ | ⟨port, hi, rfl⟩
    · rw [decides_allowRule reads] at ha
      split at ha
      · next hc => exact ⟨⟨dst, ht, block, reads, hc⟩, .inl hnp⟩
      · cases ha
    · by_cases hn : 0 ≤ port
      · rw [decides_allowPortRule reads hn] at ha
        split at ha
        · next hm =>
            obtain ⟨hc, tcp, hs⟩ := hm
            exact ⟨⟨dst, ht, block, reads, hc⟩, .inr ⟨tcp, hs ▸ hi⟩⟩
        · cases ha
      · cases (decides_of_negative (not_le.mp hn)).symm.trans ha

/-- Some rule of an allow entry accepts exactly what the entry admits. -/
theorem exists_decides_allow_iff (idx : Nat) :
    (∃ rule ∈ buildAllowRules chain tag idx r, rule.decides enter packet = some .accept) ↔
      r.Admits packet := by
  constructor
  · rintro ⟨rule, hm, ha⟩
    exact admits_of_decides_allow hm ha
  · rintro ⟨⟨dst, ht, block, reads, hc⟩, hp⟩
    rcases hp with hn | ⟨tcp, hi⟩
    · refine ⟨_, mem_buildAllowRules.mpr ⟨dst, ht, .inl ⟨hn, rfl⟩⟩, ?_⟩
      rw [decides_allowRule reads, if_pos hc]
    · refine ⟨_, mem_buildAllowRules.mpr ⟨dst, ht, .inr ⟨_, hi, rfl⟩⟩, ?_⟩
      rw [decides_allowPortRule reads (by omega), if_pos ⟨hc, tcp, rfl⟩]

end Entries

def allowRules (p : Policy) : List Rule :=
  p.allow.zipIdx.flatMap fun entry => buildAllowRules p.chainName p.commentTag entry.2 entry.1

variable {rule : Rule}

theorem mem_allowRules (hm : rule ∈ allowRules p) :
    ∃ r ∈ p.allow, ∃ idx, rule ∈ buildAllowRules p.chainName p.commentTag idx r := by
  obtain ⟨⟨r, idx⟩, hi, hir⟩ := List.mem_flatMap.mp hm
  exact ⟨r, List.fst_mem_of_mem_zipIdx hi, idx, hir⟩

/-- Every rule of a policy is appended to the chain of its space. -/
theorem appends_of_mem_buildRules (hm : rule ∈ buildRules p) :
    rule.op = "-A" ∧ rule.chain = p.chainName := by
  have hu : buildRules p = establishedRule p :: allowRules p ++ [terminalRule p] := rfl
  rw [hu, List.mem_append, List.mem_cons, List.mem_singleton] at hm
  rcases hm with (rfl | ha) | rfl
  · exact ⟨rfl, rfl⟩
  · obtain ⟨r, _, idx, hb⟩ := mem_allowRules ha
    obtain ⟨dst, _, ⟨_, rfl⟩ | ⟨port, _, rfl⟩⟩ := mem_buildAllowRules.mp hb
    · exact ⟨rfl, rfl⟩
    · exact ⟨rfl, rfl⟩
  · exact ⟨rfl, rfl⟩

/-- A rule of a policy accepts only what is tracked or the policy admits. -/
theorem admits_of_decides (hm : rule ∈ buildRules p)
    (ha : rule.decides enter packet = some .accept) : Tracked packet ∨ p.Admits packet := by
  have hu : buildRules p = establishedRule p :: allowRules p ++ [terminalRule p] := rfl
  rw [hu, List.mem_append, List.mem_cons, List.mem_singleton] at hm
  rcases hm with (rfl | hal) | rfl
  · by_contra hn
    rw [establishedRule, decides_of_untracked (not_or.mp hn).1] at ha
    cases ha
  · obtain ⟨r, hi, idx, hb⟩ := mem_allowRules hal
    exact .inr (.inr ⟨r, hi, admits_of_decides_allow hb ha⟩)
  · rw [decides_terminal] at ha
    cases hd : p.default with
    | allow => exact .inr (.inl hd)
    | deny =>
      rw [hd] at ha
      cases ha

theorem exists_decides_allowRules_iff :
    (∃ rule ∈ allowRules p, rule.decides enter packet = some .accept) ↔
      ∃ r ∈ p.allow, r.Admits packet := by
  constructor
  · rintro ⟨rule, hm, ha⟩
    obtain ⟨r, hi, idx, hir⟩ := mem_allowRules hm
    exact ⟨r, hi, (exists_decides_allow_iff idx).mp ⟨rule, hir, ha⟩⟩
  · rintro ⟨r, hi, had⟩
    obtain ⟨idx, hin, rfl⟩ := List.getElem_of_mem hi
    obtain ⟨rule, hir, ha⟩ := (exists_decides_allow_iff idx).mpr had
    refine ⟨rule, List.mem_flatMap.mpr ⟨(p.allow[idx], idx), ?_, hir⟩, ha⟩
    exact List.mk_mem_zipIdx_iff_getElem?.mpr (List.getElem?_eq_getElem hin)

theorem decides_of_mem_allowRules (hr : p.Readable) (hm : rule ∈ allowRules p) :
    rule.decides enter packet = none ∨ rule.decides enter packet = some .accept := by
  obtain ⟨r, hi, idx, hir⟩ := mem_allowRules hm
  exact decides_allow (hr r hi) hir

theorem allowRules_accept (hr : p.Readable) (had : ∃ r ∈ p.allow, r.Admits packet) :
    (allowRules p).findSome? (Rule.decides enter packet) = some .accept := by
  obtain ⟨rule, hm, ha⟩ := exists_decides_allowRules_iff.mpr had
  have hd : ((allowRules p).findSome? (Rule.decides enter packet)).isSome := by
    rw [List.findSome?_isSome_iff]
    exact ⟨rule, hm, by rw [ha]; rfl⟩
  obtain ⟨verdict, hf⟩ := Option.isSome_iff_exists.mp hd
  obtain ⟨first, hi, hg⟩ := List.exists_of_findSome?_eq_some hf
  have hu : first.decides enter packet = none ∨ first.decides enter packet = some .accept :=
    decides_of_mem_allowRules hr hi
  rcases hu with hn | hs
  · rw [hn] at hg
    cases hg
  · rw [hf, ← hg, hs]

theorem allowRules_pass (hr : p.Readable) (not : ¬ ∃ r ∈ p.allow, r.Admits packet) :
    (allowRules p).findSome? (Rule.decides enter packet) = none := by
  rw [List.findSome?_eq_none_iff]
  intro rule hm
  refine (decides_of_mem_allowRules hr hm).resolve_right fun ha => ?_
  exact not (exists_decides_allowRules_iff.mp ⟨rule, hm, ha⟩)

/-- The rules decide every packet: they accept what belongs to a tracked connection and what the
    policy admits, and drop the rest. -/
theorem buildRules_accept (hr : p.Readable) (ha : Tracked packet ∨ p.Admits packet) :
    (buildRules p).findSome? (Rule.decides enter packet) = some .accept := by
  have hu : buildRules p = establishedRule p :: allowRules p ++ [terminalRule p] := rfl
  rw [hu, List.cons_append, List.findSome?_cons, establishedRule]
  by_cases ht : Tracked packet
  · rw [decides_of_tracked ht]
  · rw [decides_of_untracked ht, List.findSome?_append]
    rcases ha.resolve_left ht with hal | had
    · by_cases hm : ∃ r ∈ p.allow, r.Admits packet
      · rw [allowRules_accept hr hm]
        rfl
      · rw [allowRules_pass hr hm, List.findSome?_singleton, decides_terminal, hal]
        rfl
    · rw [allowRules_accept hr had]
      rfl

theorem buildRules_drop (hr : p.Readable) (new : ¬ Tracked packet)
    (hrf : ¬ p.Admits packet) :
    (buildRules p).findSome? (Rule.decides enter packet) = some .drop := by
  obtain ⟨hn, hu⟩ := not_or.mp hrf
  have hdn : p.default = .deny := by
    cases hd : p.default with
    | allow => exact absurd hd hn
    | deny => rfl
  have hun : buildRules p = establishedRule p :: allowRules p ++ [terminalRule p] := rfl
  rw [hun, List.cons_append, List.findSome?_cons, establishedRule, decides_of_untracked new,
    List.findSome?_append, allowRules_pass hr hu, List.findSome?_singleton,
    decides_terminal, hdn]
  rfl

end Rules

open GoText ModelHub Naming
open Runner (normalizeDefault validatePorts validateAllowRule validateAllowRules fromInternal
  spaceEgressPolicy newAdmitAllPolicy)

section Documents

variable (lookupIP : String → Except String (List Ipv4.Address))

def EntryAdmits (packet : Packet) (entry : EgressAllowRule) : Prop :=
  (if trimSpace entry.cidr ≠ "" then
      ∃ block, Ipv4.Block.read (trimSpace entry.cidr) = some block ∧
        block.covers packet.destination = true
    else ∃ ips, lookupIP (trimSpace entry.host) = .ok ips ∧ packet.destination ∈ ips) ∧
  (entry.ports = [] ∨ packet.protocol = .tcp ∧ (packet.destinationPort : Int) ∈ entry.ports)

/-- The policy of a document admits the packet; no policy admits everything. -/
def EgressAdmits (packet : Packet) : Option EgressPolicy → Prop
  | none => True
  | some egress =>
    normalizeDefault egress.default = .ok .allow ∨
      ∃ entry ∈ egress.allow, EntryAdmits lookupIP packet entry

def Ipv4Policy (egress : Option EgressPolicy) : Prop :=
  ∀ policy ∈ egress, ∀ entry ∈ policy.allow, trimSpace entry.cidr ≠ "" →
    (Ipv4.Block.read (trimSpace entry.cidr)).isSome

def spaceEgress (space : Space) : Option EgressPolicy := space.spec.network.bind SpaceNetwork.egress

end Documents

theorem validatePorts_eq_ok {ports out : List Int} (valid : validatePorts ports = .ok out) :
    (∀ port, port ∈ out ↔ port ∈ ports) ∧ ∀ port ∈ ports, 0 ≤ port := by
  induction ports generalizing out with
  | nil =>
    cases valid
    simp
  | cons port rest ih =>
    rw [validatePorts] at valid
    split at valid
    · cases valid
    · next hi =>
        cases hc : validatePorts rest with
        | error cause =>
          rw [hc] at valid
          cases valid
        | ok ports =>
          rw [hc] at valid
          cases valid
          obtain ⟨hm, hn⟩ := ih hc
          constructor
          · intro other
            rw [List.mem_dedup, List.mem_cons, List.mem_cons, hm]
          · intro other hmm
            rcases List.mem_cons.mp hmm with rfl | hl
            · omega
            · exact hn other hl

variable {parseCIDR : String → Option String}
  {lookupIP : String → Except String (List Ipv4.Address)} {packet : Packet}

theorem validateAllowRule_eq_ok {entry : EgressAllowRule} {rule : Runner.ResolvedRule}
    (valid : validateAllowRule parseCIDR entry = .ok rule) :
    rule.originalHost = trimSpace entry.host ∧ rule.cidr = trimSpace entry.cidr ∧
      (trimSpace entry.host = "" ↔ trimSpace entry.cidr ≠ "") ∧
      (∀ port, port ∈ rule.ports ↔ port ∈ entry.ports) ∧ ∀ port ∈ entry.ports, 0 ≤ port := by
  unfold validateAllowRule at valid
  simp only at valid
  split at valid
  · cases valid
  · next hn =>
      split at valid
      · cases valid
      · next hnb =>
          split at valid
          · cases valid
          · split at valid
            · cases valid
            · cases hc : validatePorts entry.ports with
              | error cause =>
                rw [hc] at valid
                cases valid
              | ok ports =>
                rw [hc] at valid
                cases valid
                obtain ⟨hm, hnn⟩ := validatePorts_eq_ok hc
                refine ⟨rfl, rfl, ⟨fun hnh hnc => hn ⟨hnh, hnc⟩, ?_⟩, ?_,
                  hnn⟩
                · intro hcd
                  by_contra hh
                  exact hnb ⟨hh, hcd⟩
                · intro port
                  rw [List.mem_insertionSort, hm]

theorem validateAllowRules_eq_ok {index : Nat} {entries : List EgressAllowRule}
    {rules : List Runner.ResolvedRule} (valid : validateAllowRules parseCIDR index entries = .ok rules) :
    List.Forall₂ (fun entry rule => validateAllowRule parseCIDR entry = .ok rule) entries rules := by
  induction entries generalizing index rules with
  | nil =>
    cases valid
    exact .nil
  | cons entry rest ih =>
    rw [validateAllowRules] at valid
    cases hf : validateAllowRule parseCIDR entry with
    | error cause =>
      rw [hf] at valid
      cases valid
    | ok rule =>
      rw [hf] at valid
      cases hl : validateAllowRules parseCIDR (index + 1) rest with
      | error cause =>
        rw [hl] at valid
        cases valid
      | ok others =>
        rw [hl] at valid
        cases valid
        exact .cons hf (ih hl)

/-- The destination of a resolved address is the block of that address alone. -/
theorem read_hostTarget (ip : Ipv4.Address) :
    Ipv4.Block.read (String.ofList (Ipv4.dotted ip) ++ "/32") = some ⟨ip, 32, le_refl 32⟩ := by
  have ht : String.ofList (Ipv4.dotted ip) ++ "/32" =
      (Ipv4.Block.mk ip 32 (le_refl 32)).text := by
    apply String.toList_inj.mp
    rw [Ipv4.Block.text, String.toList_append, String.toList_ofList, String.toList_ofList]
    have hd : Ipv4.decimal 32 = ['3', '2'] := by decide
    rw [hd, String.toList_ofList]
  rw [ht, Ipv4.Block.read_text]

theorem covers_host {ip address : Ipv4.Address} :
    (Ipv4.Block.mk ip 32 (le_refl 32)).covers address = true ↔ address = ip := by
  rw [Ipv4.Block.covers_iff]
  simp [Ipv4.Block.index, BitVec.toNat_inj]

theorem mem_dedupAndSortIPs {ips : List Ipv4.Address} {ip : Ipv4.Address} :
    ip ∈ dedupAndSortIPs ips ↔ ip ∈ ips := by
  rw [dedupAndSortIPs, List.mem_insertionSort, List.mem_dedup]

section Entry

variable {entry : EgressAllowRule} {rule : Runner.ResolvedRule} {r : ResolvedRule}
  (valid : validateAllowRule parseCIDR entry = .ok rule)
  (resolved : resolveRule lookupIP rule = .ok r)

include valid resolved

/-- What a resolved entry is: the block the document names, or the addresses its host resolves to. -/
theorem resolveRule_cases : r.ports = rule.ports ∧
    (trimSpace entry.cidr ≠ "" ∧ allowTargets r = [trimSpace entry.cidr] ∨
      trimSpace entry.cidr = "" ∧ ∃ ips, lookupIP (trimSpace entry.host) = .ok ips ∧
        allowTargets r =
          (dedupAndSortIPs ips).map fun ip => String.ofList (Ipv4.dotted ip) ++ "/32") := by
  obtain ⟨hhs, hc, one, _⟩ := validateAllowRule_eq_ok valid
  unfold resolveRule at resolved
  by_cases hn : trimSpace entry.host = ""
  · have hh := one.mp hn
    rw [if_pos (hhs.trans hn)] at resolved
    cases resolved
    exact ⟨rfl, .inl ⟨hh, by rw [allowTargets, hc, if_pos hh]⟩⟩
  · have hnc : trimSpace entry.cidr = "" := by
      by_contra hg
      exact hn (one.mpr hg)
    rw [if_neg (fun hnn => hn (hhs.symm.trans hnn)), hhs] at resolved
    cases hf : lookupIP (trimSpace entry.host) with
    | error cause =>
      rw [hf] at resolved
      cases resolved
    | ok ips =>
      rw [hf] at resolved
      simp only at resolved
      split at resolved
      · cases resolved
      · cases resolved
        refine ⟨rfl, .inr ⟨hnc, ips, rfl, ?_⟩⟩
        rw [allowTargets, hc, hnc, if_neg (by simp)]

theorem target_iff :
    (∃ dst ∈ allowTargets r, ∃ block, Ipv4.Block.read dst = some block ∧
        block.covers packet.destination = true) ↔
      if trimSpace entry.cidr ≠ "" then
        ∃ block, Ipv4.Block.read (trimSpace entry.cidr) = some block ∧
          block.covers packet.destination = true
      else ∃ ips, lookupIP (trimSpace entry.host) = .ok ips ∧ packet.destination ∈ ips := by
  obtain ⟨_, ⟨hh, ht⟩ | ⟨hn, ips, hf, ht⟩⟩ := resolveRule_cases valid resolved
  · rw [if_pos hh, ht]
    simp only [List.mem_singleton, exists_eq_left]
  · rw [if_neg (not_not.mpr hn), ht, hf]
    simp only [List.mem_map, Except.ok.injEq, exists_eq_left']
    constructor
    · rintro ⟨_, ⟨ip, hm, rfl⟩, block, reads, hc⟩
      rw [read_hostTarget, Option.some.injEq] at reads
      rw [← reads, covers_host] at hc
      rw [hc]
      exact mem_dedupAndSortIPs.mp hm
    · intro hm
      exact ⟨_, ⟨packet.destination, mem_dedupAndSortIPs.mpr hm, rfl⟩, _, read_hostTarget _,
        covers_host.mpr rfl⟩

theorem entryAdmits_iff : EntryAdmits lookupIP packet entry ↔ r.Admits packet := by
  obtain ⟨_, _, _, hp, _⟩ := validateAllowRule_eq_ok valid
  have hk := (resolveRule_cases valid resolved).1
  have hs : r.ports = [] ↔ entry.ports = [] := by
    rw [hk, List.eq_nil_iff_forall_not_mem, List.eq_nil_iff_forall_not_mem]
    simp only [hp]
  rw [EntryAdmits, ResolvedRule.Admits, target_iff valid resolved, hs, hk, hp]

theorem readable_of_ipv4
    (hi : trimSpace entry.cidr ≠ "" → (Ipv4.Block.read (trimSpace entry.cidr)).isSome) :
    r.Readable := by
  obtain ⟨_, _, _, hp, hn⟩ := validateAllowRule_eq_ok valid
  obtain ⟨hk, hb⟩ := resolveRule_cases valid resolved
  constructor
  · intro dst ht
    rcases hb with ⟨hh, htr⟩ | ⟨_, ips, _, htr⟩
    · rw [htr, List.mem_singleton] at ht
      rw [ht]
      exact hi hh
    · rw [htr] at ht
      obtain ⟨ip, _, rfl⟩ := List.mem_map.mp ht
      rw [read_hostTarget]
      rfl
  · intro port hm
    rw [hk, hp] at hm
    exact hn port hm

end Entry

/-- The policy of a space restricts nothing, or its entries come from the document one by one. -/
theorem spaceEgressPolicy_cases (lookupIP : String → Except String (List Ipv4.Address))
    {space : Space} {policy : Runner.Policy}
    (hb : spaceEgressPolicy parseCIDR space = .ok policy) :
    policy.default = .allow ∧ policy.allow = [] ∧
        (∀ packet, EgressAdmits lookupIP packet (spaceEgress space)) ∧
        (∀ egress, spaceEgress space = some egress → egress.allow = []) ∨
      ∃ egress, spaceEgress space = some egress ∧
        normalizeDefault egress.default = .ok policy.default ∧
        List.Forall₂ (fun entry rule => validateAllowRule parseCIDR entry = .ok rule)
          egress.allow policy.allow := by
  unfold spaceEgressPolicy at hb
  split at hb
  · cases hb
  split at hb
  · cases hb
  rw [show space.spec.network.bind SpaceNetwork.egress = spaceEgress space from rfl] at hb
  cases hd : spaceEgress space with
  | none =>
    rw [hd, fromInternal] at hb
    cases hb
    exact .inl ⟨rfl, rfl, fun _ => trivial, by simp⟩
  | some egress =>
    rw [hd, fromInternal] at hb
    cases hn : normalizeDefault egress.default with
    | error cause =>
      rw [hn] at hb
      cases hb
    | ok default =>
      rw [hn] at hb
      by_cases hu : default = .allow ∧ egress.allow.length = 0
      · simp only [hu, and_self, if_true] at hb
        cases hb
        refine .inl ⟨rfl, rfl, fun _ => .inl (by rw [hn, hu.1]), ?_⟩
        intro _ hs
        cases hs
        exact List.length_eq_zero_iff.mp hu.2
      · simp only [hu, if_false] at hb
        cases hr : validateAllowRules parseCIDR 0 egress.allow with
        | error cause =>
          rw [hr] at hb
          cases hb
        | ok allow =>
          rw [hr] at hb
          cases hb
          exact .inr ⟨egress, rfl, hn, validateAllowRules_eq_ok hr⟩

section Spaces

variable {space : Space} {p : Policy} (applied : appliedPolicy lookupIP parseCIDR space = .ok p)

include applied

theorem appliedPolicy_parts :
    ∃ networkName policy, networkName ≠ "" ∧ p.bridge = safeBridgeName networkName ∧
      spaceEgressPolicy parseCIDR space = .ok policy ∧ p.default = policy.default ∧
      List.Forall₂ (fun rule r => resolveRule lookupIP rule = .ok r) policy.allow p.allow := by
  unfold appliedPolicy at applied
  simp only [Outcome.bind_eq_ok, Outcome.mapError_eq_ok] at applied
  obtain ⟨networkName, hn, policy, hb, resolved⟩ := applied
  simp only [resolve, Outcome.bind_eq_ok, Outcome.pure_eq_ok] at resolved
  obtain ⟨allow, hr, rfl⟩ := resolved
  refine ⟨networkName, policy, ?_, rfl, hb, rfl, Outcome.mapM_eq_ok.mp hr⟩
  unfold buildSpaceNetworkName at hn
  split at hn
  · cases hn
  · split at hn
    · cases hn
    · cases hn
      exact networkName_ne_empty _ _

theorem appliedPolicy_admits (hi : Ipv4Policy (spaceEgress space)) :
    p.Readable ∧ ∀ packet, p.Admits packet ↔ EgressAdmits lookupIP packet (spaceEgress space) := by
  obtain ⟨_, policy, _, _, hb, hd, resolved⟩ := appliedPolicy_parts applied
  obtain ⟨ho, hn, ha, _⟩ | ⟨egress, hdc, hnr, hv⟩ :=
    spaceEgressPolicy_cases lookupIP hb
  · rw [hn, List.forall₂_nil_left_iff] at resolved
    constructor
    · intro r hm
      rw [resolved] at hm
      cases hm
    · intro packet
      exact ⟨fun _ => ha packet, fun _ => .inl (hd.trans ho)⟩
  · have he := Outcome.forall₂_comp hv resolved
    rw [hdc] at hi ⊢
    constructor
    · refine Outcome.forall_mem_of_forall₂ he ?_
      rintro entry hm r ⟨rule, valid, hr⟩
      exact readable_of_ipv4 valid hr (hi egress rfl entry hm)
    · intro packet
      have hs : (∃ entry ∈ egress.allow, EntryAdmits lookupIP packet entry) ↔
          ∃ r ∈ p.allow, r.Admits packet := by
        refine Outcome.exists_mem_iff_of_forall₂ he ?_
        rintro entry _ r ⟨rule, valid, hr⟩
        exact entryAdmits_iff valid hr
      rw [Policy.Admits, EgressAdmits, hs, hnr, hd, Except.ok.injEq]

end Spaces

end Kukeon.Netpolicy
