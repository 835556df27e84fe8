import Kukeon.Netpolicy.Enforcer

/-! # Who put a rule into the filter table

A chain holds the rules of the forward admission and the dispatch, or the rules of one policy. The
enforcer and the installer keep this command by command, also where a command fails.
-/

open Std.Do Effect

set_option mvcgen.warning false

namespace Kukeon.Netpolicy

open Firewall
open Iptables (readRule Table Host Runner run_keeps run_triple run_faultless)

def sharedChains : List String := ["FORWARD", forwardChainName, masterChainName]

/-- The rule may stand in a shared chain: it is a jump from FORWARD, an admission rule, or a dispatch
    rule of a policy seen. -/
inductive Shared (seen : List Policy) : String → Iptables.Rule → Prop where
  | toMaster : Shared seen "FORWARD" { conditions := [], target := .jump masterChainName }
  | toForward : Shared seen "FORWARD" { conditions := [], target := .jump forwardChainName }
  | admission {args : List String} {rule : Iptables.Rule} (member : args ∈ admissionRules)
      (reads : readRule args = some rule) : Shared seen forwardChainName rule
  | dispatch {p : Policy} {rule : Iptables.Rule} (member : p ∈ seen)
      (reads : readRule (dispatchRule p).args = some rule) : Shared seen masterChainName rule

def Built (p : Policy) (rule : Iptables.Rule) : Prop :=
  ∃ source ∈ buildRules p, readRule source.args = some rule

/-- A chain holds shared rules only, or the rules of one policy that is loaded there. -/
structure Owned (seen loaded : List Policy) (table : Table) : Prop where
  wf : table.Wf
  chains : ∀ chain, (∀ rule ∈ table.rules chain, Shared seen chain rule) ∨
    ∃ p ∈ loaded, p.chainName = chain ∧ ∀ rule ∈ table.rules chain, Built p rule

def Sole (loaded : List Policy) (p : Policy) : Prop :=
  p ∈ loaded ∧ ∀ q ∈ loaded, q.chainName = p.chainName → q = p

def Fine (seen loaded : List Policy) (chain : String) (rule : Iptables.Rule) : Prop :=
  Shared seen chain rule ∨ ∃ p, Sole loaded p ∧ p.chainName = chain ∧ Built p rule

def withoutChain (loaded : List Policy) (chain : String) : List Policy :=
  loaded.filter fun q => q.chainName ≠ chain

theorem withoutChain_subset (loaded : List Policy) (chain : String) :
    withoutChain loaded chain ⊆ loaded :=
  List.filter_subset_self _

theorem mem_withoutChain {loaded : List Policy} {chain : String} {q : Policy} :
    q ∈ withoutChain loaded chain ↔ q ∈ loaded ∧ q.chainName ≠ chain := by
  simp [withoutChain]

theorem sole_withoutChain (loaded : List Policy) (p : Policy) :
    Sole (p :: withoutChain loaded p.chainName) p := by
  refine ⟨List.mem_cons_self, ?_⟩
  intro q hm hs
  rcases List.mem_cons.mp hm with rfl | ho
  · rfl
  · exact absurd hs (mem_withoutChain.mp ho).2

section Ownership

variable {seen loaded seen' loaded' : List Policy} {table next : Table} {chain : String}
  {rule : Iptables.Rule}

theorem Shared.mem_sharedChains (hs : Shared seen chain rule) : chain ∈ sharedChains := by
  cases hs with
  | toMaster => simp [sharedChains]
  | toForward => simp [sharedChains]
  | admission => simp [sharedChains]
  | dispatch => simp [sharedChains]

theorem not_shared (realmName spaceName : String) :
    ¬ Shared seen (chainName realmName spaceName) rule :=
  fun hs => chainName_ne realmName spaceName hs.mem_sharedChains rfl

theorem Shared.mono (hs : Shared seen chain rule) (seen_sub : seen ⊆ seen') :
    Shared seen' chain rule := by
  cases hs with
  | toMaster => exact .toMaster
  | toForward => exact .toForward
  | admission hm hr => exact .admission hm hr
  | dispatch hm hr => exact .dispatch (seen_sub hm) hr

variable (ho : Owned seen loaded table)

include ho

theorem Owned.mono (seen_sub : seen ⊆ seen')
    (loaded_sub : loaded ⊆ loaded') : Owned seen' loaded' table := by
  refine ⟨ho.wf, ?_⟩
  intro chain
  rcases ho.chains chain with hs | ⟨p, hi, hh, hb⟩
  · exact .inl fun rule hm => (hs rule hm).mono seen_sub
  · exact .inr ⟨p, loaded_sub hi, hh, hb⟩

/-- What a chain holds stays of one kind when fine rules are added to it. -/
theorem Owned.add {rules : List Iptables.Rule}
    (hfr : ∀ rule ∈ rules, rule ∈ table.rules chain ∨ Fine seen loaded chain rule) :
    (∀ rule ∈ rules, Shared seen chain rule) ∨
      ∃ p ∈ loaded, p.chainName = chain ∧ ∀ rule ∈ rules, Built p rule := by
  by_cases hsp : ∃ p, Sole loaded p ∧ p.chainName = chain
  · -- In the chain of a space only one policy can be meant.
    obtain ⟨p, ⟨hi, hsl⟩, rfl⟩ := hsp
    refine .inr ⟨p, hi, rfl, ?_⟩
    intro rule hm
    rcases hfr rule hm with old | hs | ⟨q, hso, hh, hb⟩
    · rcases ho.chains p.chainName with hs | ⟨q, hi, hh, hb⟩
      · exact absurd (hs rule old) (not_shared _ _)
      · exact hsl q hi hh ▸ hb rule old
    · exact absurd hs (not_shared _ _)
    · exact hsl q hso.1 hh ▸ hb
  · have hf : ∀ rule ∈ rules, rule ∈ table.rules chain ∨ Shared seen chain rule := by
      intro rule hm
      refine (hfr rule hm).imp_right fun hf => hf.resolve_right ?_
      rintro ⟨p, hsl, hh, _⟩
      exact hsp ⟨p, hsl, hh⟩
    rcases ho.chains chain with hs | ⟨p, hi, rfl, hb⟩
    · exact .inl fun rule hm => (hf rule hm).elim (hs rule) id
    · refine .inr ⟨p, hi, rfl, fun rule hm => ?_⟩
      exact hb rule ((hf rule hm).resolve_right (not_shared _ _))

/-- A command keeps ownership when the rule it adds is a fine one. -/
theorem Owned.execute {builtin : List String} {prints : Table → List String → String}
    {args : List String} {out : String}
    (hd : table.execute builtin prints args = some (next, out))
    (ha : ∀ chain rule, Table.Adds args chain rule → Fine seen loaded chain rule) :
    Owned seen loaded next := by
  obtain ⟨hr, wf⟩ := Table.execute_cases hd
  refine ⟨wf ho.wf, ?_⟩
  intro chain
  apply ho.add
  intro rule hm
  exact (hr chain rule hm).imp_right (ha chain rule)

/-- With its chain empty, nothing of a space's policies is loaded. -/
theorem Owned.unload (he : table.rules chain = []) :
    Owned seen (withoutChain loaded chain) table := by
  refine ⟨ho.wf, ?_⟩
  intro other
  by_cases hsm : other = chain
  · subst hsm
    refine .inl ?_
    intro rule hm
    rw [he] at hm
    cases hm
  · rcases ho.chains other with hs | ⟨p, hi, rfl, hb⟩
    · exact .inl hs
    · exact .inr ⟨p, mem_withoutChain.mpr ⟨hi, hsm⟩, rfl, hb⟩

end Ownership

section Adds

variable {chain : String} {rule : Iptables.Rule}

theorem not_adds {op : String} {rest : List String} (hn : op ∉ ["-A", "-I"]) :
    ¬ Table.Adds (op :: rest) chain rule := by
  rintro ⟨spec, _, hs | hs⟩ <;> simp [(List.cons.inj hs).1] at hn

theorem adds_append {target : String} {args : List String}
    (ha : Table.Adds ("-A" :: target :: args) chain rule) :
    chain = target ∧ readRule args = some rule := by
  obtain ⟨spec, hr, hs | hs⟩ := ha
  · simp only [List.cons.injEq, true_and] at hs
    obtain ⟨rfl, rfl⟩ := hs
    exact ⟨rfl, hr⟩
  · simp at hs

theorem adds_jump {target : String} (ha : Table.Adds ["-I", "FORWARD", "1", "-j", target] chain rule) :
    chain = "FORWARD" ∧ readRule ["-j", target] = some rule := by
  obtain ⟨spec, hr, hs | hs⟩ := ha
  · simp at hs
  · simp only [List.cons.injEq, true_and] at hs
    obtain ⟨rfl, rfl⟩ := hs
    exact ⟨rfl, hr⟩

theorem deletion_eq_some {printed args : List String} (hd : deletion printed = some args) :
    ∃ rest, args = "-D" :: rest := by
  cases printed with
  | nil => cases hd
  | cons op rest =>
    rw [deletion] at hd
    split at hd
    · exact ⟨rest, (Option.some.inj hd).symm⟩
    · cases hd

end Adds

/-- The table is owned now, and every table there has been was owned in the wider sense. -/
abbrev Holding (allSeen allLoaded seen loaded : List Policy) : Host → Prop :=
  Host.Within (Owned allSeen allLoaded) (Owned seen loaded)

section Commands

variable (runner : Runner) {seen loaded allSeen allLoaded : List Policy}
  (seen_sub : seen ⊆ allSeen) (loaded_sub : loaded ⊆ allLoaded)

include seen_sub loaded_sub

/-- A command keeps ownership when the rule it adds is a fine one. -/
theorem command_keeps {args : List String}
    (ha : ∀ chain rule, Table.Adds args chain rule → Fine seen loaded chain rule) :
    Keeps (Holding allSeen allLoaded seen loaded) (runner.run args) := by
  apply run_keeps
  · intro table ho
    exact ho.mono seen_sub loaded_sub
  · intro table next out ho hd
    exact ho.execute hd ha

theorem neutral_keeps (op : String) (rest : List String) (hn : op ∉ ["-A", "-I"]) :
    Keeps (Holding allSeen allLoaded seen loaded) (runner.run (op :: rest)) :=
  command_keeps runner seen_sub loaded_sub fun _ _ ha => absurd ha (not_adds hn)

theorem jump_keeps {target : String}
    (hs : ∀ rule, readRule ["-j", target] = some rule → Shared seen "FORWARD" rule) :
    Keeps (Holding allSeen allLoaded seen loaded)
      (runner.run ["-I", "FORWARD", "1", "-j", target]) := by
  apply command_keeps runner seen_sub loaded_sub
  intro chain rule ha
  obtain ⟨rfl, hr⟩ := adds_jump ha
  exact .inl (hs rule hr)

theorem append_keeps {chain : String} {args : List String}
    (hf : ∀ rule, readRule args = some rule → Fine seen loaded chain rule) :
    Keeps (Holding allSeen allLoaded seen loaded) (runner.run ("-A" :: chain :: args)) := by
  apply command_keeps runner seen_sub loaded_sub
  intro other rule ha
  obtain ⟨rfl, hr⟩ := adds_append ha
  exact hf rule hr

end Commands

section Programs

/-! A program keeps what its commands keep. -/

variable {runner : Runner} {held : Host → Prop}
  (neutral : ∀ op rest, op ∉ ["-A", "-I"] → Keeps held (runner.run (op :: rest)))

include neutral

theorem ensureChain_keeps (chain : String) : Keeps held (ensureChain runner chain) := by
  have hl := neutral "-L" [chain, "-n"] (by decide)
  have hc := neutral "-N" [chain] (by decide)
  mvcgen [ensureChain, attempt, hl, hc]

theorem ensureMasterChain_keeps
    (jump : Keeps held (runner.run ["-I", "FORWARD", "1", "-j", masterChainName])) :
    Keeps held (ensureMasterChain runner) := by
  have he := ensureChain_keeps neutral masterChainName
  have hc := neutral "-C" ["FORWARD", "-j", masterChainName] (by decide)
  mvcgen [ensureMasterChain, attempt, he, hc, jump]

theorem ensureDispatch_keeps {p : Policy} (added : Keeps held (runner.run (ruleArgs (dispatchRule p)))) :
    Keeps held (ensureRule runner (dispatchRule p)) := by
  have hc := neutral "-C" ((dispatchRule p).chain :: (dispatchRule p).args) (by decide)
  mvcgen [ensureRule, attempt, hc, added]

theorem deleteJump_keeps (chain line : String) : Keeps held (deleteJump runner chain line) := by
  unfold deleteJump
  dsimp only
  split
  · mvcgen
  · split
    · mvcgen
    · apply keeps_ofResult_bind
      intro printed
      cases hd : deletion printed with
      | none => mvcgen
      | some args =>
        obtain ⟨rest, rfl⟩ := deletion_eq_some hd
        have hr := neutral "-D" rest (by decide)
        mvcgen [hr]

theorem deleteJumpsToChain_keeps (chain : String) :
    Keeps held (deleteJumpsToChain runner chain) := by
  have hp := neutral "-S" [masterChainName] (by decide)
  have hd : ∀ lines : List String, Keeps held (lines.forM (deleteJump runner chain)) :=
    fun _ => keeps_forM fun line _ => deleteJump_keeps neutral chain line
  mvcgen [deleteJumpsToChain, attempt, hp, hd]

theorem install_keeps (jump : Keeps held (runner.run ["-I", "FORWARD", "1", "-j", forwardChainName]))
    (admits : ∀ args ∈ admissionRules, Keeps held (runner.run ("-A" :: forwardChainName :: args))) :
    Keeps held (install runner) := by
  have he : Keeps held (Firewall.ensureChain runner forwardChainName) :=
    ensureChain_keeps neutral forwardChainName
  have hpr := neutral "-S" [forwardChainName] (by decide)
  have hf := neutral "-F" [forwardChainName] (by decide)
  have hm : Keeps held (migrateUntaggedRules runner) := by
    mvcgen [migrateUntaggedRules, attempt, hpr, hf]
  have ha : Keeps held (admissionRules.forM (Firewall.ensureRule runner forwardChainName)) := by
    apply keeps_forM
    intro args hmm
    have hc := neutral "-C" (forwardChainName :: args) (by decide)
    have hap := admits args hmm
    mvcgen [Firewall.ensureRule, attempt, hc, hap]
  have hp : ∀ obsolete rule, Keeps held (prune runner obsolete rule) := by
    intro obsolete rule
    have hd := neutral "-D" (forwardChainName :: rule) (by decide)
    have hec : ∀ lines : List String, Keeps held
        (lines.forM fun _ => do let _ ← runner.run ("-D" :: forwardChainName :: rule)) :=
      fun _ => keeps_forM fun _ _ => by mvcgen [hd]
    mvcgen [prune, attempt, hpr, hec]
  have hc := neutral "-C" ["FORWARD", "-j", forwardChainName] (by decide)
  have hj : Keeps held (ensureForwardJump runner) := by
    mvcgen [ensureForwardJump, attempt, hc, jump]
  mvcgen [install, rewording, pruneObsoleteEgressAdmission, pruneUnscopedIngressAdmission, he,
    hm, ha, hp, hj]

end Programs

section Calls

variable (runner : Runner) {seen loaded allSeen allLoaded : List Policy}

theorem Holding.widen {seen' loaded' : List Policy} {host : Host}
    (hh : Holding allSeen allLoaded seen loaded host) (seen_sub : seen ⊆ seen')
    (loaded_sub : loaded ⊆ loaded') : Holding allSeen allLoaded seen' loaded' host :=
  ⟨hh.1.mono seen_sub loaded_sub, hh.2⟩

theorem Owned.flush {table next : Table} {chain out : String} (ho : Owned seen loaded table)
    (hd : table.execute runner.builtin runner.prints ["-F", chain] = some (next, out)) :
    Owned seen (withoutChain loaded chain) next := by
  have hk : Owned seen loaded next :=
    ho.execute hd fun _ _ ha => absurd ha (not_adds (by decide))
  rcases Table.execute_flush table chain with ⟨flushed, printed, ran, he⟩ | ⟨hr, _⟩
  · cases hd.symm.trans ran
    exact hk.unload he
  · cases hd.symm.trans hr

theorem flush_triple (chain : String) (seen_sub : seen ⊆ allSeen) (loaded_sub : loaded ⊆ allLoaded) :
    ⦃fun host => ⌜Holding allSeen allLoaded seen loaded host⌝⦄ runner.run ["-F", chain]
    ⦃post⟨fun _ host => ⌜Holding allSeen allLoaded seen (withoutChain loaded chain) host⌝,
      fun _ host => ⌜Holding allSeen allLoaded seen loaded host⌝⟩⦄ := by
  apply run_triple
  intro table next out ho hd
  have hf := ho.flush runner hd
  exact ⟨hf, hf.mono seen_sub
    (List.Subset.trans (withoutChain_subset loaded chain) loaded_sub)⟩

/-- The table is owned throughout `Apply`, and at its end nothing else is loaded in the space. -/
theorem apply_triple (p : Policy) (seen_sub : p :: seen ⊆ allSeen)
    (loaded_sub : p :: loaded ⊆ allLoaded) :
    ⦃fun host => ⌜Holding allSeen allLoaded seen loaded host⌝⦄ apply runner p
    ⦃post⟨fun _ host =>
        ⌜Holding allSeen allLoaded (p :: seen) (p :: withoutChain loaded p.chainName) host⌝,
      fun _ host => ⌜Holding allSeen allLoaded (p :: seen) (p :: loaded) host⌝⟩⦄ := by
  have hos := List.Subset.trans (List.subset_cons_self p seen) seen_sub
  have ho := List.Subset.trans (List.subset_cons_self p loaded) loaded_sub
  have hn : p :: withoutChain loaded p.chainName ⊆ p :: loaded :=
    List.cons_subset_cons p (withoutChain_subset loaded p.chainName)
  have ha := List.Subset.trans hn loaded_sub
  have hm := ensureMasterChain_keeps (neutral_keeps runner hos ho)
    (jump_keeps runner hos ho fun rule hr => by cases hr; exact .toMaster)
  have chain := ensureChain_keeps (neutral_keeps runner hos ho) p.chainName
  have hf := flush_triple runner p.chainName hos ho
  have hld : Keeps (Holding allSeen allLoaded (p :: seen) (p :: withoutChain loaded p.chainName))
      ((buildRules p).forM (loadRule runner)) :=
    keeps_forM fun rule hb => by
      have hr : Keeps (Holding allSeen allLoaded (p :: seen) (p :: withoutChain loaded p.chainName))
          (runner.run (ruleArgs rule)) := by
        obtain ⟨op, chain⟩ := appends_of_mem_buildRules hb
        rw [ruleArgs, op, chain]
        exact append_keeps runner seen_sub ha fun read hr =>
          .inr ⟨p, sole_withoutChain loaded p, rfl, _, hb, hr⟩
      mvcgen [loadRule, rewording, hr]
  have hd := ensureDispatch_keeps (neutral_keeps runner seen_sub ha) (p := p)
    (append_keeps runner seen_sub ha fun rule hr => .inl (.dispatch List.mem_cons_self hr))
  have hop : ∀ host, Holding allSeen allLoaded seen (withoutChain loaded p.chainName) host →
      Holding allSeen allLoaded (p :: seen) (p :: withoutChain loaded p.chainName) host :=
    fun _ hh => hh.widen (List.subset_cons_self ..) (List.subset_cons_self ..)
  have he : ∀ host, Holding allSeen allLoaded seen loaded host →
      Holding allSeen allLoaded (p :: seen) (p :: loaded) host :=
    fun _ hh => hh.widen (List.subset_cons_self ..) (List.subset_cons_self ..)
  have hl : ∀ host,
      Holding allSeen allLoaded (p :: seen) (p :: withoutChain loaded p.chainName) host →
      Holding allSeen allLoaded (p :: seen) (p :: loaded) host :=
    fun _ hh => hh.widen (List.Subset.refl _) hn
  mvcgen [apply, rewording, hm, chain, hf, hld, hd]
  -- The flush is where the old rules go; what fails before it is early, what fails after it late.
  all_goals first
    | exact hop _ ‹_›
    | exact he _ ‹_›
    | exact hl _ ‹_›
    | exact hl _
    | exact id

/-- `Remove` adds nothing, and without faults it leaves nothing in the chain of the space. -/
theorem remove_triple (realmName spaceName : String) (seen_sub : seen ⊆ allSeen)
    (loaded_sub : loaded ⊆ allLoaded) :
    ⦃fun host => ⌜Holding allSeen allLoaded seen loaded host⌝⦄ remove runner realmName spaceName
    ⦃post⟨fun _ host => ⌜Holding allSeen allLoaded seen (if runner.faults = [] then
        withoutChain loaded (chainName realmName spaceName) else loaded) host⌝,
      fun _ host => ⌜Holding allSeen allLoaded seen loaded host⌝⟩⦄ := by
  generalize hn : chainName realmName spaceName = chain
  have hr := List.Subset.trans (withoutChain_subset loaded chain) loaded_sub
  have neutral := neutral_keeps runner seen_sub loaded_sub
  have log := neutral "-L" [chain, "-n", "-v", "-x"] (by decide)
  have hj := deleteJumpsToChain_keeps neutral chain
  by_cases hf : runner.faults = []
  · have hfs : Leads (Holding allSeen allLoaded seen loaded)
      (Holding allSeen allLoaded seen (withoutChain loaded chain)) (runner.run ["-F", chain]) := by
      apply run_faultless hf
      · intro table next out ho hdn
        have hfl := ho.flush runner hdn
        exact ⟨hfl, hfl.mono seen_sub hr⟩
      · intro table ho hrf
        rcases Table.execute_flush table chain with ⟨_, _, ran, _⟩ | ⟨_, ha⟩
        · cases hrf.symm.trans ran
        · exact ho.unload (ho.wf chain ha)
    have hd := neutral_keeps runner seen_sub hr "-X" [chain] (by decide)
    simp only [remove, hn, if_pos hf]
    mvcgen [attempt, rewording, log, hj, hfs, hd]
  · have hfs := neutral "-F" [chain] (by decide)
    have hd := neutral "-X" [chain] (by decide)
    simp only [remove, hn, if_neg hf]
    mvcgen [attempt, rewording, log, hj, hfs, hd]

end Calls

end Kukeon.Netpolicy
