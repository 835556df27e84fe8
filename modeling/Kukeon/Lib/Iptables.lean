import Kukeon.Lib.Effect
import Kukeon.Lib.Ipv4

/-! # Packet filtering by chains of rules

The part of iptables that a program needs which keeps chains of its own: a table is a set of chains,
a chain a list of rules, and a packet takes the first rule that decides it. A rule that jumps decides
what the chain it jumps to decides; a chain that decides nothing returns.
-/

namespace Iptables

inductive Protocol where
  | tcp
  | udp
  | other (number : Nat)
  deriving Repr, DecidableEq

inductive ConnState where
  | new
  | established
  | related
  | invalid
  deriving Repr, DecidableEq

structure Packet where
  inInterface : String
  outInterface : String
  destination : Ipv4.Address
  protocol : Protocol
  destinationPort : Nat
  state : ConnState
  deriving DecidableEq

/-- A pattern is the name of an interface, or the start of it followed by `+`. -/
def matchesInterface (pattern name : String) : Bool :=
  if pattern.toList.getLast? = some '+' then pattern.toList.dropLast.isPrefixOf name.toList
  else pattern == name

inductive Condition where
  | inInterface (negated : Bool) (pattern : String)
  | outInterface (negated : Bool) (pattern : String)
  | destination (block : Ipv4.Block)
  | protocol (required : Protocol)
  | destinationPort (port : Nat)
  | ctstate (states : List ConnState)
  | comment (text : String)
  deriving DecidableEq

def Condition.holds (packet : Packet) : Condition → Bool
  | .inInterface negated pattern => matchesInterface pattern packet.inInterface != negated
  | .outInterface negated pattern => matchesInterface pattern packet.outInterface != negated
  | .destination block => block.covers packet.destination
  | .protocol required => packet.protocol == required
  | .destinationPort port => packet.destinationPort == port
  | .ctstate states => states.contains packet.state
  | .comment _ => true

inductive Target where
  | accept
  | drop
  | jump (chain : String)
  deriving Repr, DecidableEq

structure Rule where
  conditions : List Condition
  target : Target
  deriving DecidableEq

def Rule.holds (packet : Packet) (rule : Rule) : Bool :=
  rule.conditions.all (Condition.holds packet)

def readConnState : List Char → Option ConnState
  | ['N', 'E', 'W'] => some .new
  | ['E', 'S', 'T', 'A', 'B', 'L', 'I', 'S', 'H', 'E', 'D'] => some .established
  | ['R', 'E', 'L', 'A', 'T', 'E', 'D'] => some .related
  | ['I', 'N', 'V', 'A', 'L', 'I', 'D'] => some .invalid
  | _ => none

def readProtocol (text : String) : Option Protocol :=
  if text = "tcp" then some .tcp else if text = "udp" then some .udp else none

def readTarget (text : String) : Target :=
  if text = "ACCEPT" then .accept else if text = "DROP" then .drop else .jump text

def Rule.guard (condition : Condition) (rule : Rule) : Rule :=
  { rule with conditions := condition :: rule.conditions }

def readCondition (flag value : String) : Option Condition :=
  if flag = "-i" then some (.inInterface false value)
  else if flag = "-o" then some (.outInterface false value)
  else if flag = "-d" then (Ipv4.Block.read value).map .destination
  else if flag = "-p" then (readProtocol value).map .protocol
  else if flag = "--dport" then (Ipv4.readDecimal value.toList).map .destinationPort
  else if flag = "--ctstate" then ((value.toList.splitOn ',').mapM readConnState).map .ctstate
  else if flag = "--comment" then some (.comment value)
  else none

/-- The rule that a list of arguments describes; `-m` only loads a match extension. -/
def readRule : List String → Option Rule
  | ["-j", target] => some { conditions := [], target := readTarget target }
  | "-m" :: _ :: rest => readRule rest
  | "!" :: "-i" :: pattern :: rest =>
    (readRule rest).map (Rule.guard (.inInterface true pattern))
  | "!" :: "-o" :: pattern :: rest =>
    (readRule rest).map (Rule.guard (.outInterface true pattern))
  | flag :: value :: rest =>
    (readCondition flag value).bind fun condition => (readRule rest).map (Rule.guard condition)
  | _ => none

@[simp] theorem readRule_jump (target : String) :
    readRule ["-j", target] = some { conditions := [], target := readTarget target } := by
  rw [readRule]

@[simp] theorem readRule_extension (name : String) (rest : List String) :
    readRule ("-m" :: name :: rest) = readRule rest := by
  rw [readRule]

theorem readRule_condition {flag value : String} {rest : List String} {condition : Condition}
    (hr : readCondition flag value = some condition) :
    readRule (flag :: value :: rest) = (readRule rest).map (Rule.guard condition) := by
  have hk : flag ≠ "-j" ∧ flag ≠ "-m" ∧ flag ≠ "!" := by
    refine ⟨?_, ?_, ?_⟩ <;> rintro rfl <;> cases hr
  rw [readRule, hr, Option.bind_some] <;> simp [hk]

theorem readRule_unread {flag value : String} {rest : List String}
    (hk : flag ≠ "-j" ∧ flag ≠ "-m" ∧ flag ≠ "!") (hu : readCondition flag value = none) :
    readRule (flag :: value :: rest) = none := by
  rw [readRule, hu, Option.bind_none] <;> simp [hk]

structure Table where
  /-- The chains there are. -/
  chains : List String
  rules : String → List Rule

inductive Verdict where
  | accept
  | drop
  deriving Repr, DecidableEq

/-- What a rule decides, when `enter` says what the chains it may jump to decide. -/
def Rule.verdict (enter : String → Option Verdict) (packet : Packet) (rule : Rule) :
    Option Verdict :=
  if rule.holds packet then
    match rule.target with
    | .accept => some .accept
    | .drop => some .drop
    | .jump chain => enter chain
  else none

namespace Table

def enter (table : Table) (packet : Packet) : Nat → String → Option Verdict
  | 0, _ => none
  | depth + 1, chain => (table.rules chain).findSome? (Rule.verdict (table.enter packet depth) packet)

/-- The verdict on a packet that enters the built-in chain, whose policy decides what is left. Jumps
    go at most one deeper than there are chains: iptables refuses a loop of jumps. -/
def filter (table : Table) (policy : Verdict) (chain : String) (packet : Packet) : Verdict :=
  (table.enter packet (table.chains.length + 1) chain).getD policy

/-- The chain can be jumped to: it is there, or the target is no chain. -/
def hasTarget (table : Table) (rule : Rule) : Bool :=
  match rule.target with
  | .jump chain => chain ∈ table.chains
  | _ => true

def referenced (table : Table) (chain : String) : Bool :=
  table.chains.any fun other => (table.rules other).any fun rule => rule.target == .jump chain

/-- What an iptables command does to the table and prints; nothing when iptables refuses it. What
    the reading commands print is left open, and so are the built-in chains. -/
def execute (builtin : List String) (prints : Table → List String → String) (table : Table) :
    List String → Option (Table × String)
  | "-L" :: chain :: options =>
    if chain ∈ table.chains then some (table, prints table ("-L" :: chain :: options)) else none
  | ["-S", chain] =>
    if chain ∈ table.chains then some (table, prints table ["-S", chain]) else none
  | ["-N", chain] =>
    if chain ∈ table.chains then none
    else some ({ table with chains := chain :: table.chains }, "")
  | ["-F", chain] =>
    if chain ∈ table.chains then
      some ({ table with rules := Function.update table.rules chain [] }, "")
    else none
  | ["-X", chain] =>
    if chain ∈ table.chains ∧ chain ∉ builtin ∧ table.rules chain = [] ∧
        table.referenced chain = false then
      some ({ table with chains := table.chains.filter (· ≠ chain) }, "")
    else none
  | "-C" :: chain :: spec => do
      let rule ← readRule spec
      if chain ∈ table.chains ∧ rule ∈ table.rules chain then return (table, "") else none
  | "-D" :: chain :: spec => do
      let rule ← readRule spec
      if chain ∈ table.chains ∧ rule ∈ table.rules chain then
        return ({ table with
          rules := Function.update table.rules chain ((table.rules chain).erase rule) }, "")
      else none
  | "-I" :: chain :: "1" :: spec => do
      let rule ← readRule spec
      if chain ∈ table.chains ∧ table.hasTarget rule then
        return ({ table with
          rules := Function.update table.rules chain (rule :: table.rules chain) }, "")
      else none
  | "-A" :: chain :: spec => do
      let rule ← readRule spec
      if chain ∈ table.chains ∧ table.hasTarget rule then
        return ({ table with
          rules := Function.update table.rules chain (table.rules chain ++ [rule]) }, "")
      else none
  | _ => none

def Adds (args : List String) (chain : String) (rule : Rule) : Prop :=
  ∃ spec, readRule spec = some rule ∧
    (args = "-A" :: chain :: spec ∨ args = "-I" :: chain :: "1" :: spec)

def Wf (table : Table) : Prop := ∀ chain ∉ table.chains, table.rules chain = []

section Commands

variable {builtin : List String} {prints : Table → List String → String} {table next : Table}
  {args : List String} {out : String}

theorem update_cases {chain : String} {rules : List Rule} (ht : chain ∈ table.chains)
    (hf : ∀ rule ∈ rules, rule ∈ table.rules chain ∨ Adds args chain rule) :
    (∀ other rule, rule ∈ Function.update table.rules chain rules other →
        rule ∈ table.rules other ∨ Adds args other rule) ∧
      (table.Wf → Table.Wf { table with rules := Function.update table.rules chain rules }) := by
  constructor
  · intro other rule hm
    by_cases hs : other = chain
    · subst hs
      rw [Function.update_self] at hm
      exact hf rule hm
    · rw [Function.update_of_ne hs] at hm
      exact .inl hm
  · intro wf other ha
    have hd : other ≠ chain := by
      rintro rfl
      exact ha ht
    exact (Function.update_of_ne hd _ _).trans (wf other ha)

/-- What a command can do: no chain gets a rule that was not there, but for the rule it adds. -/
theorem execute_cases (hdn : execute builtin prints table args = some (next, out)) :
    (∀ chain rule, rule ∈ next.rules chain → rule ∈ table.rules chain ∨ Adds args chain rule) ∧
      (table.Wf → next.Wf) := by
  have hu : (∀ chain rule, rule ∈ table.rules chain →
      rule ∈ table.rules chain ∨ Adds args chain rule) ∧ (table.Wf → table.Wf) :=
    ⟨fun _ _ hm => .inl hm, id⟩
  unfold execute at hdn
  split at hdn
  · -- `-L`
    split at hdn
    · cases hdn
      exact hu
    · cases hdn
  · -- `-S`
    split at hdn
    · cases hdn
      exact hu
    · cases hdn
  · -- `-N`
    split at hdn
    · cases hdn
    · cases hdn
      refine ⟨fun _ _ hm => .inl hm, fun wf chain ha => wf chain ?_⟩
      exact fun ht => ha (List.mem_cons_of_mem _ ht)
  · -- `-F`
    split at hdn
    · next ht =>
        cases hdn
        exact update_cases ht (by simp)
    · cases hdn
  · -- `-X`
    next deleted =>
      split at hdn
      · next hal =>
          cases hdn
          refine ⟨fun _ _ hm => .inl hm, fun wf chain ha => ?_⟩
          by_cases ht : chain ∈ table.chains
          · have hs : chain = deleted := by
              by_contra hd
              exact ha (List.mem_filter.mpr ⟨ht, by simpa using hd⟩)
            rw [hs]
            exact hal.2.2.1
          · exact wf chain ht
      · cases hdn
  · -- `-C`
    obtain ⟨rule, _, hdn⟩ := Option.bind_eq_some_iff.mp hdn
    split at hdn
    · cases hdn
      exact hu
    · cases hdn
  · -- `-D`
    obtain ⟨rule, _, hdn⟩ := Option.bind_eq_some_iff.mp hdn
    split at hdn
    · next ht =>
        cases hdn
        exact update_cases ht.1 fun _ hm => .inl (List.mem_of_mem_erase hm)
    · cases hdn
  · -- `-I`
    next chain spec =>
      obtain ⟨rule, hr, hdn⟩ := Option.bind_eq_some_iff.mp hdn
      split at hdn
      · next ht =>
          cases hdn
          refine update_cases ht.1 fun other hm => ?_
          rcases List.mem_cons.mp hm with rfl | old
          · exact .inr ⟨spec, hr, .inr rfl⟩
          · exact .inl old
      · cases hdn
  · -- `-A`
    next chain spec =>
      obtain ⟨rule, hr, hdn⟩ := Option.bind_eq_some_iff.mp hdn
      split at hdn
      · next ht =>
          cases hdn
          refine update_cases ht.1 fun other hm => ?_
          rcases List.mem_append.mp hm with old | had
          · exact .inl old
          · rw [List.mem_singleton.mp had]
            exact .inr ⟨spec, hr, .inl rfl⟩
      · cases hdn
  · cases hdn

/-- A flush leaves nothing in the chain, and it fails only where there is nothing. -/
theorem execute_flush (table : Table) (chain : String) :
    (∃ next out, execute builtin prints table ["-F", chain] = some (next, out) ∧
        next.rules chain = []) ∨
      execute builtin prints table ["-F", chain] = none ∧ chain ∉ table.chains := by
  unfold execute
  by_cases ht : chain ∈ table.chains
  · refine .inl ⟨_, _, if_pos ht, ?_⟩
    exact Function.update_self ..
  · exact .inr ⟨if_neg ht, ht⟩

end Commands

end Table

end Iptables

open Std.Do Effect

set_option mvcgen.warning false

namespace Iptables

structure Host where
  table : Table
  /-- The number of commands issued. -/
  issued : Nat := 0
  /-- The tables after each command that was carried out. -/
  trail : List Table := []

structure Runner where
  builtin : List String
  prints : Table → List String → String
  /-- The commands that fail on their own, by their number. -/
  faults : List Nat
  failure : List String → String

def Runner.run (runner : Runner) (args : List String) : Effect Host String String := do
  let host ← get
  if host.issued ∈ runner.faults then
    set { host with issued := host.issued + 1 }
    throw (runner.failure args)
  else
    match host.table.execute runner.builtin runner.prints args with
    | none =>
      set { host with issued := host.issued + 1 }
      throw (runner.failure args)
    | some (table, out) =>
      set { table, issued := host.issued + 1, trail := host.trail ++ [table] : Host }
      return out

/-- The table satisfies `now`, and every table there has been satisfied `always`. -/
def Host.Within (always now : Table → Prop) (host : Host) : Prop :=
  now host.table ∧ ∀ table ∈ host.trail, always table

section Runs

variable {runner : Runner} {always before after : Table → Prop}

theorem Host.Within.carried_out {host : Host} {issued : Nat} {next : Table}
    (hw : host.Within always before) (hf : after next ∧ always next) :
    Host.Within always after { table := next, issued, trail := host.trail ++ [next] } := by
  refine ⟨hf.1, ?_⟩
  intro other hm
  rcases List.mem_append.mp hm with old | hl
  · exact hw.2 other old
  · rw [List.mem_singleton.mp hl]
    exact hf.2

variable {args : List String}

/-- A command takes the table from `before` to `after`, or fails and leaves it. -/
theorem run_triple (ho : ∀ table next out, before table →
      table.execute runner.builtin runner.prints args = some (next, out) →
        after next ∧ always next) :
    ⦃fun host => ⌜host.Within always before⌝⦄ runner.run args
    ⦃post⟨fun _ host => ⌜host.Within always after⌝, fun _ host => ⌜host.Within always before⌝⟩⦄ := by
  mvcgen [Runner.run]
  case vc3.isFalse.h_2 =>
      rename_i host hw _ table out hd
      exact hw.carried_out (ho _ _ _ hw.1 hd)

/-- Without faults a command fails only where iptables refuses it. -/
theorem run_faultless (hf : runner.faults = []) (ho : ∀ table next out, before table →
      table.execute runner.builtin runner.prints args = some (next, out) →
        after next ∧ always next) (hr : ∀ table, before table →
      table.execute runner.builtin runner.prints args = none → after table) :
    Leads (fun host => host.Within always before) (fun host => host.Within always after)
      (runner.run args) := by
  mvcgen [Runner.run]
  case vc1.isTrue =>
      rename_i hft
      rw [hf] at hft
      cases hft
  case vc2.isFalse.h_1 =>
      rename_i host hw _ hfl
      exact ⟨hr _ hw.1 hfl, hw.2⟩
  case vc3.isFalse.h_2 =>
      rename_i host hw _ table out hd
      exact hw.carried_out (ho _ _ _ hw.1 hd)

/-- A command that takes `before` to itself keeps it. -/
theorem run_keeps (hi : ∀ table, before table → always table) (ho : ∀ table next out, before table →
      table.execute runner.builtin runner.prints args = some (next, out) → before next) :
    Keeps (Host.Within always before) (runner.run args) := by
  apply run_triple
  intro table next out hh hd
  have hk := ho table next out hh hd
  exact ⟨hk, hi next hk⟩

end Runs

section Exact

variable {α β : Type} {m : Effect Host String α} {f : α → Effect Host String β}
  {table next last : Table} {a : α} {b : β} {runner : Runner} {args : List String}

/-- From the table the program succeeds with `a` and leaves the table `next`, however many commands
    were issued before. -/
def Turns (m : Effect Host String α) (table : Table) (a : α) (next : Table) : Prop :=
  ∀ host : Host, host.table = table → ∃ after : Host, Yields m host a after ∧ after.table = next

theorem Turns.bind (hf : Turns m table a next) (hr : Turns (f a) next b last) :
    Turns (m >>= f) table b last := by
  intro host hh
  obtain ⟨mid, hm, ht⟩ := hf host hh
  obtain ⟨after, ha, hl⟩ := hr mid ht
  exact ⟨after, hm.bind ha, hl⟩

theorem Turns.ret (a : α) (table : Table) : Turns (pure a) table a table :=
  fun host hh => ⟨host, .ret a host, hh⟩

theorem Turns.rewording (ht : Turns m table a next) (g : String → String) :
    Turns (rewording g m) table a next := by
  intro host hh
  obtain ⟨after, ha, hn⟩ := ht host hh
  exact ⟨after, ha.rewording g, hn⟩

theorem Turns.attempt (ht : Turns m table a next) : Turns (attempt m) table (.ok a) next := by
  intro host hh
  obtain ⟨after, ha, hn⟩ := ht host hh
  exact ⟨after, ha.attempt, hn⟩

/-- Runs the second command where the first, which only looks, fails. -/
def Runner.ensure (runner : Runner) (look fix : List String) : Effect Host String Unit := do
  match ← attempt (runner.run look) with
  | .ok _ => pure ()
  | .error _ => let _ ← runner.run fix

def Table.withChain (table : Table) (chain : String) : Table :=
  if chain ∈ table.chains then table else { table with chains := chain :: table.chains }

@[simp] theorem Table.rules_withChain (table : Table) (chain : String) :
    (table.withChain chain).rules = table.rules := by
  unfold Table.withChain
  split <;> rfl

@[simp] theorem Table.mem_withChain {table : Table} {chain other : String} :
    other ∈ (table.withChain chain).chains ↔ other = chain ∨ other ∈ table.chains := by
  unfold Table.withChain
  split <;> simp_all

def Table.put (table : Table) (chain : String) (rules : List Rule) : Table :=
  { table with rules := Function.update table.rules chain rules }

variable (hf : runner.faults = [])

include hf

theorem turns_run {out : String}
    (hd : table.execute runner.builtin runner.prints args = some (next, out)) :
    Turns (runner.run args) table out next := by
  rintro host rfl
  refine ⟨{ table := next, issued := host.issued + 1, trail := host.trail ++ [next] }, ?_, rfl⟩
  unfold Runner.run
  refine Yields.bind (Yields.read host) ?_
  simp only [hf, List.not_mem_nil, if_false, hd]
  rfl

theorem turns_refused (hr : table.execute runner.builtin runner.prints args = none) :
    Turns (attempt (runner.run args)) table (.error (runner.failure args)) table := by
  rintro host rfl
  refine ⟨{ host with issued := host.issued + 1 }, ?_, rfl⟩
  have ran : runner.run args host =
      (.error (runner.failure args), { host with issued := host.issued + 1 }) := by
    unfold Runner.run
    rw [bind_of_yields (Yields.read host)]
    simp only [hf, List.not_mem_nil, if_false, hr]
    rfl
  unfold Yields
  rw [attempt_apply, ending, finalState, ran]

theorem turns_looked {look : List String} {out : String}
    (hl : table.execute runner.builtin runner.prints look = some (table, out))
    (fix : List String) : Turns (runner.ensure look fix) table () table :=
  (turns_run hf hl).attempt.bind (.ret () table)

theorem turns_fixed {look fix : List String} {out : String}
    (hl : table.execute runner.builtin runner.prints look = none)
    (hd : table.execute runner.builtin runner.prints fix = some (next, out)) :
    Turns (runner.ensure look fix) table () next :=
  (turns_refused hf hl).bind ((turns_run hf hd).bind (.ret () next))

theorem turns_ensureChain (chain : String) :
    Turns (runner.ensure ["-L", chain, "-n"] ["-N", chain]) table () (table.withChain chain) := by
  unfold Table.withChain
  split
  · next hc => exact turns_looked hf (by simp only [Table.execute, hc, if_true]; rfl) _
  · next hc =>
    exact turns_fixed hf (by simp [Table.execute, hc]) (by simp only [Table.execute, hc, if_false]; rfl)

variable {chain : String} {spec : List String} {rule : Rule} (hr : readRule spec = some rule)
  (hc : chain ∈ table.chains) (ht : table.hasTarget rule)

include hr hc ht

theorem turns_append :
    Turns (runner.run ("-A" :: chain :: spec)) table ""
      (table.put chain (table.rules chain ++ [rule])) :=
  turns_run hf (by simp [Table.execute, Table.put, hr, hc, ht])

omit ht in
theorem turns_ensure {fix : List String}
    (hd : table.execute runner.builtin runner.prints fix = some (next, "")) :
    Turns (runner.ensure ("-C" :: chain :: spec) fix) table ()
      (if rule ∈ table.rules chain then table else next) := by
  split
  · next hth =>
    exact turns_looked hf (show _ = some (table, "") by simp [Table.execute, hr, hc, hth]) _
  · next hn => exact turns_fixed hf (by simp [Table.execute, hr, hn]) hd

theorem turns_ensureRule :
    Turns (runner.ensure ("-C" :: chain :: spec) ("-A" :: chain :: spec)) table ()
      (if rule ∈ table.rules chain then table
        else table.put chain (table.rules chain ++ [rule])) :=
  turns_ensure hf hr hc (by simp [Table.execute, Table.put, hr, hc, ht])

theorem turns_ensureFirst :
    Turns (runner.ensure ("-C" :: chain :: spec) ("-I" :: chain :: "1" :: spec)) table ()
      (if rule ∈ table.rules chain then table
        else table.put chain (rule :: table.rules chain)) :=
  turns_ensure hf hr hc (by simp [Table.execute, Table.put, hr, hc, ht])

end Exact

end Iptables
