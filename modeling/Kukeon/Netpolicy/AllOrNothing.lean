import Kukeon.Netpolicy.Ownership

/-! # A refused egress update

`applySpaceEgressPolicy` of `internal/controller/runner/egress.go` validates and resolves the policy
before the first command, then `Apply` flushes the chain of the space and loads the rules one by one.
Validation takes any CIDR that Go parses; iptables reads IPv4 blocks only.
-/

set_option mvcgen.warning false

namespace Kukeon.Netpolicy

open Effect ModelHub Std.Do
open Iptables (Host Runner Table Turns readRule turns_append)

def toMaster : Iptables.Rule := { conditions := [], target := .jump masterChainName }

/-- The table when `Apply` begins to load. -/
def prepared (p : Policy) (table : Table) : Table :=
  let mastered := table.withChain masterChainName
  let jumping := if toMaster ∈ mastered.rules "FORWARD" then mastered
    else mastered.put "FORWARD" (toMaster :: mastered.rules "FORWARD")
  (jumping.withChain p.chainName).put p.chainName []

def readRules (rules : List Rule) : List Iptables.Rule :=
  rules.filterMap fun rule => readRule rule.args

def dispatching (p : Policy) : Iptables.Rule :=
  { conditions := [.inInterface false p.bridge, .comment (p.commentTag ++ ":dispatch")]
    target := .jump p.chainName }

/-- The table an `Apply` leaves that meets no fault. -/
def applied (p : Policy) (table : Table) : Table :=
  let loaded := (prepared p table).put p.chainName (readRules (buildRules p))
  if dispatching p ∈ loaded.rules masterChainName then loaded
  else loaded.put masterChainName (loaded.rules masterChainName ++ [dispatching p])

section Commands

variable {runner : Runner} {table : Table} {p : Policy} {rules : List Rule}

theorem mem_prepared {chain : String} : chain ∈ (prepared p table).chains ↔
    chain = p.chainName ∨ chain = masterChainName ∨ chain ∈ table.chains := by
  unfold prepared
  dsimp only
  split <;> simp [Table.put]

theorem own_ne_forward (p : Policy) : p.chainName ≠ "FORWARD" :=
  chainName_ne p.realmName p.spaceName List.mem_cons_self

theorem rules_prepared {chain : String} (hc : chain ≠ "FORWARD") : (prepared p table).rules chain =
    if chain = p.chainName then [] else table.rules chain := by
  unfold prepared
  dsimp only
  split <;> simp [Table.put, Function.update_apply, hc]

/-- Where a command fails only if iptables refuses it, `Apply` comes to the flushed chain. -/
theorem apply_prepared (hf : runner.faults = []) {host : Host}
    (hw : "FORWARD" ∈ host.table.chains) :
    ∃ flushed : Host, flushed.table = prepared p host.table ∧ apply runner p host = (do
      (buildRules p).forM (loadRule runner)
      rewording ("failed to apply egress policy: dispatch: " ++ ·)
        (ensureRule runner (dispatchRule p))) flushed := by
  have hm : Turns (ensureMasterChain runner) host.table () _ :=
    (Iptables.turns_ensureChain hf _).bind (Iptables.turns_ensureFirst hf
      (show readRule ["-j", masterChainName] = some toMaster by decide)
      (Table.mem_withChain.mpr (.inr hw)) (by simp [Table.hasTarget, toMaster]))
  obtain ⟨first, hhf, h1⟩ := hm.rewording ("failed to apply egress policy: " ++ ·) host rfl
  obtain ⟨second, hh, h2⟩ := (Iptables.turns_ensureChain hf p.chainName).rewording
    ("failed to apply egress policy: " ++ ·) first h1
  have hfl := Iptables.turns_run hf (show second.table.execute _ _
    ["-F", p.chainName] = some (second.table.put p.chainName [], "") by
      simp [Table.execute, Table.put, h2])
  obtain ⟨third, hht, h3⟩ := hfl.rewording
    (fun cause => "failed to apply egress policy: flush " ++ p.chainName ++ ": " ++ cause) second rfl
  refine ⟨third, ?_, ?_⟩
  · rw [h3, h2]
    rfl
  · unfold apply
    rw [bind_of_yields hhf]
    exact (bind_of_yields hh _).trans (bind_of_yields hht _)

theorem turns_load (hf : runner.faults = []) (hr : ∀ rule ∈ rules, rule.op = "-A" ∧
    rule.chain = p.chainName ∧ ∃ read, readRule rule.args = some read ∧ table.hasTarget read)
    (hc : p.chainName ∈ table.chains) : Turns (rules.forM (loadRule runner)) table ⟨⟩
      (table.put p.chainName (table.rules p.chainName ++ readRules rules)) := by
  induction rules generalizing table with
  | nil => simpa [Table.put, readRules] using Turns.ret PUnit.unit table
  | cons rule rest ih =>
    obtain ⟨⟨op, hch, read, hrd, ht⟩, hl⟩ := List.forall_mem_cons.mp hr
    have hfr : Turns (loadRule runner rule) table ()
        (table.put p.chainName (table.rules p.chainName ++ [read])) := by
      unfold loadRule ruleArgs
      rw [op, hch]
      exact ((turns_append hf hrd hc ht).bind (.ret () _)).rewording _
    have hn := @ih (table.put p.chainName (table.rules p.chainName ++ [read])) hl hc
    have run : Turns ((rule :: rest).forM (loadRule runner)) table ⟨⟩ _ := hfr.bind hn
    simpa [Table.put, readRules, hrd] using run

theorem readRule_target {args : List String} {read : Iptables.Rule} (hr : readRule args = some read) :
    ∃ target, args.getLast? = some target ∧ read.target = Iptables.readTarget target := by
  fun_induction readRule args generalizing read with
  | case1 target =>
    cases hr
    exact ⟨target, rfl, rfl⟩
  | case2 _ rest ih =>
    obtain ⟨target, hl, hs⟩ := ih hr
    exact ⟨target, by simp [List.getLast?_cons, hl], hs⟩
  | case3 _ rest ih | case4 _ rest ih =>
    obtain ⟨inner, hi, rfl⟩ := Option.map_eq_some_iff.mp hr
    obtain ⟨target, hl, hs⟩ := ih hi
    exact ⟨target, by simp [List.getLast?_cons, hl], hs⟩
  | case5 _ _ rest _ _ _ _ ih =>
    obtain ⟨_, _, hr⟩ := Option.bind_eq_some_iff.mp hr
    obtain ⟨inner, hi, rfl⟩ := Option.map_eq_some_iff.mp hr
    obtain ⟨target, hl, hs⟩ := ih hi
    exact ⟨target, by simp [List.getLast?_cons, hl], hs⟩
  | case6 => cases hr

/-- A rule that is built and read accepts or drops. -/
theorem built_target {rule : Rule} (hm : rule ∈ buildRules p) {read : Iptables.Rule}
    (hr : readRule rule.args = some read) : read.target = .accept ∨ read.target = .drop := by
  obtain ⟨target, hl, hs⟩ := readRule_target hr
  have hu : buildRules p = establishedRule p :: allowRules p ++ [terminalRule p] := rfl
  have he : target = "ACCEPT" ∨ target = "DROP" := by
    rw [hu, List.mem_append, List.mem_cons, List.mem_singleton] at hm
    rcases hm with (rfl | ha) | rfl
    · simp_all [establishedRule]
    · obtain ⟨r, hi, idx, hb⟩ := mem_allowRules ha
      obtain ⟨dst, _, ⟨_, rfl⟩ | ⟨port, _, rfl⟩⟩ := mem_buildAllowRules.mp hb
      · simp_all [allowRule]
      · simp_all [allowPortRule]
    · by_cases hd : p.default = .deny <;> simp_all [terminalRule]
  rcases he with rfl | rfl
  · exact .inl hs
  · exact .inr hs

theorem turns_apply (hf : runner.faults = []) (hr : p.Readable) (hw : "FORWARD" ∈ table.chains) :
    Turns (apply runner p) table () (applied p table) := by
  rintro host rfl
  obtain ⟨flushed, ht, run⟩ := apply_prepared (p := p) hf hw
  have hth : p.chainName ∈ (prepared p host.table).chains := mem_prepared.mpr (.inl rfl)
  have hl : Turns ((buildRules p).forM (loadRule runner)) (prepared p host.table) ⟨⟩
      ((prepared p host.table).put p.chainName ((prepared p host.table).rules p.chainName ++
        readRules (buildRules p))) := by
    refine turns_load hf (fun rule hm => ?_) hth
    obtain ⟨op, hc⟩ := appends_of_mem_buildRules hm
    obtain ⟨read, hrd⟩ := Option.isSome_iff_exists.mp (readable_buildRules hr rule hm)
    refine ⟨op, hc, read, hrd, ?_⟩
    rcases built_target hm hrd with hs | hs <;> simp [Table.hasTarget, hs]
  rw [rules_prepared (own_ne_forward p), if_pos rfl] at hl
  have hry : masterChainName ∈ ((prepared p host.table).put p.chainName
      ([] ++ readRules (buildRules p))).chains := mem_prepared.mpr (.inr (.inl rfl))
  have hd : Turns (ensureRule runner (dispatchRule p)) _ () _ :=
    Iptables.turns_ensureRule hf (readRule_dispatchRule p) hry (decide_eq_true hth)
  have hp := hl.bind (f := fun _ => rewording
    ("failed to apply egress policy: dispatch: " ++ ·) _) (hd.rewording _)
  obtain ⟨after, hy, hs⟩ := hp flushed ht
  exact ⟨after, run.trans hy, hs⟩

theorem read_of_appended {chain : String} {args : List String} {host after : Host} {out : String}
    (ran : Yields (runner.run ("-A" :: chain :: args)) host out after) : (readRule args).isSome := by
  by_contra hn
  unfold Yields Runner.run at ran
  rw [bind_of_yields (Yields.read host)] at ran
  split at ran
  · cases ran
  · simp only [Table.execute, Option.not_isSome_iff_eq_none.mp hn] at ran
    cases ran

theorem read_of_loaded {host after : Host} (hr : ∀ rule ∈ rules, rule.op = "-A")
    (hl : Yields (rules.forM (loadRule runner)) host ⟨⟩ after) :
    ∀ rule ∈ rules, (readRule rule.args).isSome := by
  induction rules generalizing host with
  | nil => simp
  | cons rule rest ih =>
    obtain ⟨op, ops⟩ := List.forall_mem_cons.mp hr
    obtain ⟨_, _, hf, hlt⟩ := hl.of_bind
    obtain ⟨_, _, ran, _⟩ := (of_yields_rewording hf).of_bind
    rw [ruleArgs, op] at ran
    exact List.forall_mem_cons.mpr ⟨read_of_appended ran, ih ops hlt⟩

theorem targets_of_read (hr : ∀ rule ∈ buildRules p, (readRule rule.args).isSome) :
    ∀ r ∈ p.allow, ∀ dst ∈ allowTargets r, (Ipv4.Block.read dst).isSome := by
  intro r hm dst ht
  by_contra hn
  have hu : ∀ rest, readRule ("-d" :: dst :: rest) = none := fun rest =>
    Iptables.readRule_unread (by decide)
      (by simp [Iptables.readCondition, Option.not_isSome_iff_eq_none.mp hn])
  obtain ⟨idx, hf⟩ := List.getElem?_of_mem hm
  have hb : ∀ rule ∈ buildAllowRules p.chainName p.commentTag idx r, rule ∈ buildRules p := by
    intro rule hi
    refine List.mem_append_left _ (List.mem_cons_of_mem _ (List.mem_flatMap.mpr ⟨(r, idx), ?_, hi⟩))
    exact List.mk_mem_zipIdx_iff_getElem?.mpr hf
  cases hp : r.ports with
  | nil =>
    have := hr _ (hb _ (mem_buildAllowRules.mpr ⟨dst, ht, .inl ⟨hp, rfl⟩⟩))
    simp [allowRule, hu] at this
  | cons port rest =>
    have := hr _ (hb _ (mem_buildAllowRules.mpr ⟨dst, ht, .inr ⟨port, by simp [hp], rfl⟩⟩))
    simp [allowPortRule, hu] at this

/-- A jump to the master chain is not in the chain of the space. -/
abbrev Clean (p : Policy) : Host → Prop :=
  Host.Within (fun _ => True) fun table => toMaster ∉ table.rules p.chainName

theorem run_clean (runner : Runner) {args : List String} (hn : ¬ Table.Adds args p.chainName toMaster) :
    Keeps (Clean p) (runner.run args) :=
  Iptables.run_keeps (fun _ _ => trivial) fun _ _ _ hc hd ht =>
    ((Table.execute_cases hd).1 _ _ ht).elim hc hn

theorem update_clean (runner : Runner) (p : Policy) : Keeps (Clean p) (do
    (buildRules p).forM (loadRule runner)
    rewording ("failed to apply egress policy: dispatch: " ++ ·)
      (ensureRule runner (dispatchRule p))) := by
  have hl : Keeps (Clean p) ((buildRules p).forM (loadRule runner)) := by
    refine keeps_forM fun rule hm => ?_
    have run : Keeps (Clean p) (runner.run (ruleArgs rule)) := by
      refine run_clean runner ?_
      obtain ⟨op, hc⟩ := appends_of_mem_buildRules hm
      rw [ruleArgs, op, hc]
      intro ha
      simpa [toMaster] using built_target hm (adds_append ha).2
    mvcgen [loadRule, rewording, run]
  have ho : p.chainName ≠ masterChainName := chainName_ne _ _ (by simp)
  have hlk : Keeps (Clean p) (runner.run ("-C" :: (dispatchRule p).chain :: (dispatchRule p).args)) :=
    run_clean runner (not_adds (by decide))
  have fix : Keeps (Clean p) (runner.run (ruleArgs (dispatchRule p))) :=
    run_clean runner fun ha => ho (adds_append ha).1
  mvcgen [rewording, ensureRule, attempt, hl, hlk, fix]

end Commands

section Updates

variable (lookupIP : String → Except String (List Ipv4.Address)) (parseCIDR : String → Option String)

def applySpaceEgressPolicy (runner : Runner) (space : Space) : Effect Host String Unit := do
  let p ← ofResult (appliedPolicy lookupIP parseCIDR space)
  apply runner p

/-- An update of an installed chain that fails although no command fails on its own leaves the chain
    and the dispatch rules as they were. -/
def AllOrNothing (space : Space) : Prop :=
  ∀ (runner : Runner) (host : Host) (e : String), runner.faults = [] →
    "FORWARD" ∈ host.table.chains →
    let chain := chainName space.spec.realmName space.metadata.name
    chain ∈ host.table.chains →
    ending (applySpaceEgressPolicy lookupIP parseCIDR runner space) host = .error e →
    let after := finalState (applySpaceEgressPolicy lookupIP parseCIDR runner space) host
    after.table.rules chain = host.table.rules chain ∧
      after.table.rules masterChainName = host.table.rules masterChainName

variable {lookupIP parseCIDR} {space : Space} {p : Policy}

theorem appliedPolicy_chainName (ha : appliedPolicy lookupIP parseCIDR space = .ok p) :
    p.chainName = chainName space.spec.realmName space.metadata.name := by
  unfold appliedPolicy at ha
  simp only [Outcome.bind_eq_ok, Outcome.mapError_eq_ok] at ha
  obtain ⟨_, _, policy, hb, hr⟩ := ha
  simp only [resolve, Outcome.bind_eq_ok, Outcome.pure_eq_ok] at hr
  obtain ⟨_, _, rfl⟩ := hr
  have hi : ∀ egress policy, Runner.fromInternal parseCIDR space.spec.realmName
      space.metadata.name egress = .ok (some policy) → policy.realmName = space.spec.realmName ∧
        policy.spaceName = space.metadata.name := by
    intro egress policy hm
    cases egress with
    | none => cases hm
    | some egress =>
      cases hv : Runner.validateAllowRules parseCIDR 0 egress.allow <;>
        grind [Runner.fromInternal, Except.map]
  have hn : policy.realmName = space.spec.realmName ∧ policy.spaceName = space.metadata.name := by
    grind [Runner.spaceEgressPolicy, Runner.newAdmitAllPolicy]
  rw [Policy.chainName, hn.1, hn.2]

/-- A policy whose targets iptables reads comes from a document of IPv4 blocks. -/
theorem ipv4Policy_of_targets (ha : appliedPolicy lookupIP parseCIDR space = .ok p)
    (ht : ∀ r ∈ p.allow, ∀ dst ∈ allowTargets r, (Ipv4.Block.read dst).isSome) :
    Ipv4Policy (spaceEgress space) := by
  intro egress hg entry hm hc
  obtain ⟨_, policy, _, _, hb, _, hrs⟩ := appliedPolicy_parts ha
  obtain ⟨_, _, _, hn⟩ | ⟨_, hgv, _, hv⟩ := spaceEgressPolicy_cases lookupIP hb
  · cases hn egress hg ▸ hm
  · cases hg.symm.trans hgv
    obtain ⟨r, hi, rule, hvl, hr⟩ :=
      Outcome.exists_right_of_forall₂ (Outcome.forall₂_comp hv hrs) hm
    obtain ⟨_, htr⟩ | ⟨hbl, _⟩ := (resolveRule_cases hvl hr).2
    · exact ht r hi _ (by simp [htr])
    · exact absurd hbl hc

theorem allOrNothing_iff :
    AllOrNothing lookupIP parseCIDR space ↔
      ((∃ p, appliedPolicy lookupIP parseCIDR space = .ok p) → Ipv4Policy (spaceEgress space)) := by
  constructor
  · rintro hwh ⟨p, ha⟩
    refine ipv4Policy_of_targets ha ?_
    have hn := appliedPolicy_chainName ha
    let runner : Runner := ⟨[], fun _ _ => "", [], fun _ => ""⟩
    let host : Host := { table :=
      { chains := ["FORWARD", masterChainName, p.chainName]
        rules := fun chain => if chain = p.chainName then [toMaster] else [] } }
    obtain ⟨flushed, ht, run⟩ := apply_prepared (show runner.faults = [] from rfl)
      (show "FORWARD" ∈ host.table.chains from List.mem_cons_self)
    have hp : applySpaceEgressPolicy lookupIP parseCIDR runner space host = _ :=
      (bind_of_yields (Yields.ofResult ha host) _).trans run
    cases he : ending (applySpaceEgressPolicy lookupIP parseCIDR runner space) host with
    | ok done =>
      rw [ending, hp] at he
      obtain ⟨_, _, hl, _⟩ := Yields.of_bind (Prod.ext he rfl)
      exact targets_of_read (read_of_loaded (fun rule hm => (appends_of_mem_buildRules hm).1) hl)
    | error e =>
      -- the rule that stood in the chain is gone with the flush
      have hs := (hwh runner host e rfl List.mem_cons_self (by simp [host, hn]) he).1
      have hem : flushed.table.rules p.chainName = [] := by
        rw [ht, rules_prepared (own_ne_forward p), if_pos rfl]
      have hg := (holds_finalState (update_clean runner p) (s := flushed)
        ⟨by simp [hem], fun _ _ => trivial⟩).1
      rw [← hn, finalState, hp] at hs
      exact absurd (by simp [host]) (hs ▸ hg)
  · intro hi runner host e hf hw chain hc he
    cases ha : appliedPolicy lookupIP parseCIDR space with
    | error cause =>
      unfold applySpaceEgressPolicy at *
      rw [ha]
      exact ⟨rfl, rfl⟩
    | ok p =>
      have hr := (appliedPolicy_admits ha (hi ⟨p, ha⟩)).1
      obtain ⟨after, hy, _⟩ := turns_apply hf hr hw host rfl
      rw [ending, applySpaceEgressPolicy, bind_of_yields (Yields.ofResult ha host), hy]
        at he
      cases he

/-- Go parses the block, iptables does not read it. -/
def ipv6Space : Space :=
  { metadata := { name := "web" }
    spec :=
      { realmName := "prod"
        network := some { egress := some { default := .deny, allow := [{ cidr := "fd00::/8" }] } } } }

def installed : Host :=
  { table :=
    { chains := ["FORWARD", chainName "prod" "web"]
      rules := fun _ => [{ conditions := [], target := .drop }] } }

theorem ipv6Space_flushes :
    let update := applySpaceEgressPolicy (fun _ => .ok []) (fun _ => none)
      ⟨[], fun _ _ => "", [], fun _ => "Bad argument"⟩ ipv6Space
    (ending update installed).isOk = false ∧
      (finalState update installed).table.rules (chainName "prod" "web") ≠
        installed.table.rules (chainName "prod" "web") := by
  decide +kernel

end Updates

end Kukeon.Netpolicy
