import Kukeon.Lib.Iptables
import Kukeon.Lib.GoText

/-! # Forward admission

The chain of `internal/firewall/forward.go`: it admits what belongs to a tracked connection and what
comes to a kukeon bridge from outside of all of them. The daemon installs it again and again; an
installation also removes what older versions left in the chain.
-/

namespace Kukeon.Firewall

open Effect GoText
open Iptables (Host Runner)

def forwardChainName : String := "KUKEON-FORWARD"
def bridgeIfaceMatch : String := "k-+"
def commentTagPrefix : String := "kukeon-forward"

/-- `AdmissionRules`, without the `-A <chain>` that each of them starts with. -/
def admissionRules : List (List String) :=
  [ ["-m", "conntrack", "--ctstate", "RELATED,ESTABLISHED",
      "-m", "comment", "--comment", commentTagPrefix ++ ":established", "-j", "ACCEPT"],
    ["!", "-i", bridgeIfaceMatch, "-o", bridgeIfaceMatch,
      "-m", "comment", "--comment", commentTagPrefix ++ ":ingress", "-j", "ACCEPT"] ]

section Installer

variable (runner : Runner)

def ensureChain (chain : String) : Effect Host String Unit := do
  match ← attempt (runner.run ["-L", chain, "-n"]) with
  | .ok _ => pure ()
  | .error _ => let _ ← runner.run ["-N", chain]

def ensureRule (chain : String) (args : List String) : Effect Host String Unit := do
  match ← attempt (runner.run ("-C" :: chain :: args)) with
  | .ok _ => pure ()
  | .error _ => let _ ← runner.run ("-A" :: chain :: args)

/-- The lines of the chain's rules in what `iptables -S` prints. -/
def ruleLines (out : String) : List String :=
  ((split out '\n').map trimSpace).filter fun line => hasPrefix line ("-A " ++ forwardChainName)

def migrateUntaggedRules : Effect Host String Unit := do
  match ← attempt (runner.run ["-S", forwardChainName]) with
  | .error _ => pure ()
  | .ok out =>
    if (ruleLines out).any fun line => !contains line (commentTagPrefix ++ ":") then
      let _ ← runner.run ["-F", forwardChainName]
    else pure ()

/-- Deletes the rule once for each line that is obsolete; the first failure ends it. -/
def prune (obsolete : String → Bool) (rule : List String) : Effect Host String Unit := do
  match ← attempt (runner.run ["-S", forwardChainName]) with
  | .error _ => pure ()
  | .ok out =>
    let _ ← attempt (((ruleLines out).filter obsolete).forM fun _ => do
      let _ ← runner.run ("-D" :: forwardChainName :: rule))

def pruneObsoleteEgressAdmission : Effect Host String Unit :=
  prune runner
    (fun line => contains line ("-i " ++ bridgeIfaceMatch) &&
      contains line (commentTagPrefix ++ ":egress"))
    ["-i", bridgeIfaceMatch, "-m", "comment", "--comment", commentTagPrefix ++ ":egress",
      "-j", "ACCEPT"]

def pruneUnscopedIngressAdmission : Effect Host String Unit :=
  prune runner
    (fun line => contains line ("-o " ++ bridgeIfaceMatch) &&
      contains line (commentTagPrefix ++ ":ingress") &&
      !contains line ("! -i " ++ bridgeIfaceMatch))
    ["-o", bridgeIfaceMatch, "-m", "comment", "--comment", commentTagPrefix ++ ":ingress",
      "-j", "ACCEPT"]

def ensureForwardJump : Effect Host String Unit := do
  match ← attempt (runner.run ["-C", "FORWARD", "-j", forwardChainName]) with
  | .ok _ => pure ()
  | .error _ => let _ ← runner.run ["-I", "FORWARD", "1", "-j", forwardChainName]

def install : Effect Host String Unit :=
  rewording ("failed to apply forward admission rules: " ++ ·) do
    ensureChain runner forwardChainName
    migrateUntaggedRules runner
    admissionRules.forM (ensureRule runner forwardChainName)
    pruneObsoleteEgressAdmission runner
    pruneUnscopedIngressAdmission runner
    ensureForwardJump runner

end Installer

end Kukeon.Firewall
