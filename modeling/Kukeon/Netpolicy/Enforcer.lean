import Kukeon.Netpolicy.Forwarding

/-! # The enforcer

`IptablesEnforcer` of `internal/netpolicy/enforcer.go`: a policy is applied and removed by one
iptables command after another, and nothing undoes the first commands when a later one fails.
-/

namespace Kukeon.Netpolicy

open Effect GoText
open Iptables (Host Runner)

/-- The state of `parseRuleLine`: the arguments so far, the current one and whether a quote is open. -/
structure LineScan where
  args : List String := []
  current : List Char := []
  inQuote : Bool := false

def LineScan.flush (scan : LineScan) : LineScan :=
  if scan.current = [] then scan
  else { scan with args := scan.args ++ [String.ofList scan.current], current := [] }

def LineScan.next (scan : LineScan) (c : Char) : LineScan :=
  if c = '"' then { scan with inQuote := !scan.inQuote }
  else if c = ' ' ∧ scan.inQuote = false then scan.flush
  else { scan with current := scan.current ++ [c] }

def parseRuleLine (line : String) : Except String (List String) :=
  let scan := (line.toList.foldl LineScan.next {}).flush
  if scan.inQuote then .error "unterminated quote in iptables -S line" else .ok scan.args

example : parseRuleLine "-A KUKEON-EGRESS -m comment --comment \"a b\" -j X" =
    .ok ["-A", "KUKEON-EGRESS", "-m", "comment", "--comment", "a b", "-j", "X"] := by decide

section Enforcer

variable (runner : Runner)

def ensureChain (chain : String) : Effect Host String Unit := do
  match ← attempt (runner.run ["-L", chain, "-n"]) with
  | .ok _ => pure ()
  | .error _ => let _ ← runner.run ["-N", chain]

def ensureMasterChain : Effect Host String Unit := do
  ensureChain runner masterChainName
  match ← attempt (runner.run ["-C", "FORWARD", "-j", masterChainName]) with
  | .ok _ => pure ()
  | .error _ => let _ ← runner.run ["-I", "FORWARD", "1", "-j", masterChainName]

def ensureRule (rule : Rule) : Effect Host String Unit := do
  match ← attempt (runner.run ("-C" :: rule.chain :: rule.args)) with
  | .ok _ => pure ()
  | .error _ => let _ ← runner.run (ruleArgs rule)

def loadRule (rule : Rule) : Effect Host String Unit :=
  rewording ("failed to apply egress policy: " ++ ·) do
    let _ ← runner.run (ruleArgs rule)

def apply (p : Policy) : Effect Host String Unit := do
  rewording ("failed to apply egress policy: " ++ ·) (ensureMasterChain runner)
  rewording ("failed to apply egress policy: " ++ ·) (ensureChain runner p.chainName)
  let _ ← rewording (fun cause => "failed to apply egress policy: flush " ++ p.chainName ++ ": " ++
    cause) (runner.run ["-F", p.chainName])
  (buildRules p).forM (loadRule runner)
  rewording ("failed to apply egress policy: dispatch: " ++ ·) (ensureRule runner (dispatchRule p))

/-- The command that deletes a printed rule: `-A` becomes `-D`. -/
def deletion : List String → Option (List String)
  | op :: rest => if op = "-A" then some ("-D" :: rest) else none
  | [] => none

/-- Deletes the rule of a printed line, if it is a jump to the chain. -/
def deleteJump (chain line : String) : Effect Host String Unit := do
  let line := trimSpace line
  if line = "" ∨ hasPrefix line ("-A " ++ masterChainName ++ " ") = false then pure ()
  else if contains line (" -j " ++ chain) = false then pure ()
  else
    match deletion (← ofResult (parseRuleLine line)) with
    | some args => let _ ← runner.run args
    | none => pure ()

def deleteJumpsToChain (chain : String) : Effect Host String Unit := do
  match ← attempt (runner.run ["-S", masterChainName]) with
  | .error _ => pure ()
  | .ok out => (split out '\n').forM (deleteJump runner chain)

def remove (realmName spaceName : String) : Effect Host String Unit := do
  let chain := chainName realmName spaceName
  -- `logDropCounter` only logs what it reads.
  let _ ← attempt (runner.run ["-L", chain, "-n", "-v", "-x"])
  rewording ("failed to remove egress policy: " ++ ·) (deleteJumpsToChain runner chain)
  let _ ← attempt (runner.run ["-F", chain])
  let _ ← attempt (runner.run ["-X", chain])

end Enforcer

end Kukeon.Netpolicy
