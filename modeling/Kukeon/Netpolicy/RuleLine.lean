import Kukeon.Netpolicy.Enforcer

/-! # Reading a printed rule back

`deleteJumpsToChain` prints the master chain, splits the text into lines and parses the lines that
jump to the chain. iptables puts an argument that is not a plain word in quotes, with a backslash
before the characters that need one; `parseRuleLine` strips the quotes and keeps the backslashes. A
rule comes back as it was installed exactly when its names hold none of these characters and no
line break.
-/

namespace Kukeon.Netpolicy

open Effect GoText Naming
open Iptables (Runner)

def backslash : Char := Char.ofNat 92

/-- Both quotes and the backslash. -/
def needsEscape (c : Char) : Bool := c == '"' || c == backslash || c == Char.ofNat 39

/-- Comes back from a printed line as it is. -/
def survives (c : Char) : Bool := !needsEscape c && c != '\n'

def escaped (text : List Char) : List Char :=
  text.flatMap fun c => if needsEscape c then [backslash, c] else [c]

/-- What `iptables -S` writes for an argument: only words of letters, digits, hyphens and
    underscores stay without quotes. -/
def saveString (text : String) : List Char :=
  if text.toList.all fun c => c.isAlphanum || c == '-' || c == '_' then text.toList
  else '"' :: escaped text.toList ++ ['"']

def printArgs (args : List String) : String :=
  String.ofList ([' '].intercalate (args.map saveString))

/-- The deletion, or the parse error, that a line of the master chain leads to. -/
def lineDeletion (chain line : String) : Option (Except String (List String)) :=
  let line := trimSpace line
  if line = "" ∨ hasPrefix line ("-A " ++ masterChainName ++ " ") = false then none
  else if contains line (" -j " ++ chain) = false then none
  else
    match parseRuleLine line with
    | .error text => some (.error text)
    | .ok args => (deletion args).map .ok

theorem deleteJump_eq (runner : Runner) (chain line : String) :
    deleteJump runner chain line =
      (lineDeletion chain line).elim (pure ()) (ofResult · >>= (discard <| runner.run ·)) := by
  unfold deleteJump lineDeletion
  dsimp only
  split_ifs
  · rfl
  · rfl
  · cases parseRuleLine (trimSpace line) with
    | error text => rfl
    | ok args => cases hd : deletion args <;> simp [ofResult, hd]; rfl

section Scanning

/-- The characters read so far, but for the quotes and the separating spaces. -/
def LineScan.text (scan : LineScan) : List Char :=
  scan.args.flatMap String.toList ++ scan.current

theorem text_flush (scan : LineScan) : scan.flush.text = scan.text := by
  unfold LineScan.flush LineScan.text
  split <;> simp

/-- A scan drops quotes and spaces, and nothing else. -/
theorem count_parsed {c : Char} (hc : c ≠ '"' ∧ c ≠ ' ') {line : String} {args : List String}
    (parsed : parseRuleLine line = .ok args) :
    (args.flatMap String.toList).count c = line.toList.count c := by
  have scanned : ∀ (rest : List Char) (scan : LineScan),
      (rest.foldl LineScan.next scan).text.count c = scan.text.count c + rest.count c := by
    intro rest
    induction rest with
    | nil => simp
    | cons d rest ih =>
      intro scan
      rw [List.foldl_cons, ih]
      unfold LineScan.next
      split_ifs with quote space
      · simp [LineScan.text, quote, hc.1.symm]
      · simp [text_flush, space.1, hc.2.symm]
      · simp [LineScan.text, List.count_cons]
        omega
  have whole := scanned line.toList {}
  rw [← text_flush] at whole
  unfold parseRuleLine at parsed
  dsimp only at parsed
  split_ifs at parsed
  cases parsed
  have done : (line.toList.foldl LineScan.next {}).flush.current = [] := by
    unfold LineScan.flush
    split <;> simp_all
  simpa [LineScan.text, done] using whole

theorem survives_of_plain {c : Char} (plain : (c.isAlphanum || c == '-' || c == '_') = true) :
    survives c = true := by
  by_contra bad
  obtain ((rfl | rfl) | rfl) | rfl :
      ((c = '"' ∨ c = backslash) ∨ c = Char.ofNat 39) ∨ c = '\n' := by
    simpa [survives, needsEscape, imp_iff_not_or] using bad
  all_goals cases plain

theorem count_saved {c : Char} (hc : c = '\n' ∨ c = backslash) (text : String) :
    (saveString text).count c =
      text.toList.count c + if c = backslash then text.toList.countP needsEscape else 0 := by
  unfold saveString
  split_ifs with plain hb
  · have none : text.toList.countP needsEscape = 0 := List.countP_eq_zero.mpr fun d hm => by
      have := survives_of_plain (List.all_eq_true.mp plain d hm)
      simp_all [survives]
    simp [none]
  · rfl
  all_goals
    have quote : c ≠ '"' := by rcases hc with rfl | rfl <;> decide
    simp only [List.cons_append, List.count_cons, List.count_append, escaped]
    generalize text.toList = chars
    induction chars with
    | nil => simp [quote.symm]
    | cons d chars ih =>
      by_cases hd : needsEscape d = true <;> grind

theorem count_printed {c : Char} (hc : c = '\n' ∨ c = backslash) (args : List String) :
    (printArgs args).toList.count c = (args.flatMap String.toList).count c +
      if c = backslash then (args.flatMap String.toList).countP needsEscape else 0 := by
  have space : c ≠ ' ' := by rcases hc with rfl | rfl <;> decide
  unfold printArgs
  rw [String.toList_ofList]
  induction args with
  | nil => simp [List.intercalate]
  | cons arg args ih =>
    have saved := count_saved hc arg
    cases args <;> simp_all [List.intercalate, List.count_cons]; grind

theorem scan_word {quoted : Bool} {word : List Char} (hq : '"' ∉ word)
    (hs : ' ' ∈ word → quoted = true) (args : List String) (current : List Char) :
    word.foldl LineScan.next { args, current, inQuote := quoted } =
      { args, current := current ++ word, inQuote := quoted } := by
  induction word generalizing current with
  | nil => simp
  | cons c word ih =>
    have hc : LineScan.next { args, current, inQuote := quoted } c =
        { args, current := current ++ [c], inQuote := quoted } := by
      cases quoted <;> simp_all [LineScan.next, eq_comm]
    rw [List.foldl_cons, hc, ih (by simp_all) (by simp_all)]
    simp

theorem reads_saved {arg : String} (bare : arg.toList.any needsEscape = false)
    (args : List String) :
    (saveString arg).foldl LineScan.next { args } = { args, current := arg.toList } := by
  have hq : '"' ∉ arg.toList := fun hm => List.any_eq_false.mp bare '"' hm rfl
  unfold saveString
  split_ifs with plain
  · have hs : ' ' ∉ arg.toList := fun hm => by simpa using List.all_eq_true.mp plain ' ' hm
    simpa using scan_word hq (fun hm => absurd hm hs) args []
  · have same : escaped arg.toList = arg.toList := by
      rw [escaped, List.flatMap_congr (g := fun c => [c]) (by simp_all)]
      simp
    have opened : LineScan.next { args } '"' = { args, inQuote := true } := by
      simp [LineScan.next]
    rw [same, List.cons_append, List.foldl_cons, opened, List.foldl_append,
      scan_word hq (fun _ => rfl)]
    simp [LineScan.next]

theorem parse_printed {args : List String}
    (bare : ∀ arg ∈ args, arg ≠ "" ∧ arg.toList.any needsEscape = false) :
    parseRuleLine (printArgs args) = .ok args := by
  have scanned : ∀ before : List String,
      (([' '].intercalate (args.map saveString)).foldl LineScan.next { args := before }).flush =
        { args := before ++ args } := by
    induction args with
    | nil => simp [List.intercalate, LineScan.flush]
    | cons arg args ih =>
      intro before
      obtain ⟨ne, plain⟩ := bare arg (by simp)
      have flushed : LineScan.flush { args := before, current := arg.toList } =
          { args := before ++ [arg] } := by simp [LineScan.flush, ne]
      have step : LineScan.next { args := before, current := arg.toList } ' ' =
          { args := before ++ [arg] } := by simpa [LineScan.next] using flushed
      have tail := ih (fun other hm => bare other (by simp [hm])) (before ++ [arg])
      cases args with
      | nil => simp [List.intercalate, reads_saved plain before, flushed]
      | cons _ _ => simpa [List.intercalate, reads_saved plain before, step] using tail
  simp [parseRuleLine, printArgs, scanned]

end Scanning

section Dispatch

variable {p : Policy}

theorem notMem_splitOn {sep : Char} {text piece : List Char} (hm : piece ∈ text.splitOn sep) :
    sep ∉ piece := by
  induction text generalizing piece with
  | nil => simp_all
  | cons c text ih =>
    rw [List.splitOn_cons_eq_if_modifyHead] at hm
    split_ifs at hm with hc
    · grind
    · cases hl : text.splitOn sep <;> simp only [hl, List.modifyHead] at hm <;> grind

/-- A deletion read off a line holds as many line breaks as the line: none. -/
theorem no_break_of_deletion {chain text : String} {args : List String}
    (hm : .ok ("-D" :: args) ∈ (split text '\n').filterMap (lineDeletion chain)) :
    '\n' ∉ args.flatMap String.toList := by
  obtain ⟨line, hl, hd⟩ := List.mem_filterMap.mp hm
  obtain ⟨piece, hp, rfl⟩ := List.mem_map.mp hl
  unfold lineDeletion at hd
  dsimp only at hd
  split_ifs at hd
  split at hd
  · cases hd
  · next parsed found =>
    have counted := count_parsed (c := '\n') (by decide) found
    have same : parsed = "-A" :: args := by
      cases parsed <;> simp_all [deletion]
    have trimmed : (trimSpace (String.ofList piece)).toList ⊆ piece := by
      intro c hc
      simp only [trimSpace, String.toList_ofList, List.mem_reverse] at hc
      exact (List.dropWhile_sublist _).subset
        (List.mem_reverse.mp ((List.dropWhile_sublist _).subset hc))
    rw [List.count_eq_zero.mpr fun hc => notMem_splitOn hp (trimmed hc), same] at counted
    intro hc
    exact List.count_eq_zero.mp counted (by simp [hc])

/-- The printed dispatch rule. -/
def Policy.line (p : Policy) : String := printArgs (ruleArgs (dispatchRule p))

theorem plain_hex (sum : BitVec 32) : ∀ c ∈ Fnv.hex sum, c.isAlphanum = true := by
  have digit : ∀ n : Fin 16, (hexDigit n).isAlphanum = true := by decide
  intro c hc
  obtain ⟨i, -, rfl⟩ := List.mem_map.mp hc
  exact digit ⟨sum.toNat / 16 ^ i % 16, Nat.mod_lt _ (by decide)⟩

/-- The line begins with the master chain and ends with the jump. -/
theorem toList_line {sum : BitVec 32} (hc : p.chainName = "KUKE-EGR-" ++ String.ofList (Fnv.hex sum)) :
    ∃ mid, p.line.toList =
      ("-A " ++ masterChainName ++ " ").toList ++ mid ++ (" -j " ++ p.chainName).toList := by
  have chain : saveString p.chainName = p.chainName.toList := by
    refine if_pos ?_
    rw [hc, String.toList_append, List.all_append, Bool.and_eq_true]
    exact ⟨by decide, List.all_eq_true.mpr fun c hm => by simp [plain_hex sum c (by simpa using hm)]⟩
  have add : saveString "-A" = "-A".toList := by decide
  have master : saveString masterChainName = masterChainName.toList := by decide
  have jump : saveString "-j" = "-j".toList := by decide
  refine ⟨[' '].intercalate
    (["-i", p.bridge, "-m", "comment", "--comment", p.commentTag ++ ":dispatch"].map saveString), ?_⟩
  simp [Policy.line, printArgs, ruleArgs, dispatchRule, List.intercalate, chain, add, master, jump]

theorem lineDeletion_line (parsed : parseRuleLine p.line = .ok (ruleArgs (dispatchRule p))) :
    lineDeletion p.chainName p.line =
      some (.ok ("-D" :: masterChainName :: (dispatchRule p).args)) := by
  obtain ⟨sum, hc⟩ : ∃ sum, p.chainName = "KUKE-EGR-" ++ String.ofList (Fnv.hex sum) := ⟨_, rfl⟩
  obtain ⟨mid, shape⟩ := toList_line hc
  have trimmed : trimSpace p.line = p.line := by
    have last : isSpace (hexDigit (sum.toNat % 16)) = false := by
      have digit : ∀ n : Fin 16, isSpace (hexDigit n) = false := by decide
      exact digit ⟨sum.toNat % 16, Nat.mod_lt _ (by decide)⟩
    have hyphen : isSpace '-' = false := by decide
    apply String.toList_inj.mp
    simp [trimSpace, shape, hc, Fnv.hex, last, hyphen]
  have nonempty : p.line ≠ "" := fun blank => by simp [blank] at shape
  have begins : hasPrefix p.line ("-A " ++ masterChainName ++ " ") = true := by
    rw [hasPrefix, List.isPrefixOf_iff_prefix, shape, List.append_assoc]
    exact List.prefix_append ..
  have jumps : contains p.line (" -j " ++ p.chainName) = true := by
    rw [contains, decide_eq_true_eq, shape]
    exact (List.suffix_append ..).isInfix
  simp [lineDeletion, trimmed, nonempty, begins, jumps, parsed, deletion, ruleArgs, dispatchRule]

theorem bare_args {sum : BitVec 32} (hb : p.bridge = hashBridgeName sum)
    (names : (p.realmName ++ p.spaceName).toList.all survives = true) :
    ∀ arg ∈ ruleArgs (dispatchRule p), arg ≠ "" ∧ arg.toList.all survives = true := by
  have hex : ∀ sum, ∀ c ∈ Fnv.hex sum, survives c = true := fun sum c hc =>
    survives_of_plain (by simp [plain_hex sum c hc])
  obtain ⟨tag, hc⟩ : ∃ sum, p.chainName = "KUKE-EGR-" ++ String.ofList (Fnv.hex sum) := ⟨_, rfl⟩
  simp only [ruleArgs, dispatchRule, List.forall_mem_cons]
  refine ⟨by decide, by decide, by decide, ?_, by decide, by decide, by decide, ?_, by decide, ?_,
    by simp⟩
  · simpa +decide [hb, hashBridgeName] using hex sum
  · simpa +decide [Policy.commentTag] using names
  · simpa +decide [hc] using hex tag

/-- A space with accepted names: the printed dispatch rule is parsed into the rule's arguments, and
    the lines of the text lead to the rule's deletion and no other, exactly when every character of
    the names survives: it is not one that iptables escapes, and no line break. -/
theorem dispatch_readBack_iff (hr : validateRealmName p.realmName = .ok ())
    (hs : validateHierarchyName "space" p.spaceName = .ok ())
    (hb : (buildSpaceNetworkName p.realmName p.spaceName).map safeBridgeName = .ok p.bridge) :
    (parseRuleLine p.line = .ok (ruleArgs (dispatchRule p)) ∧
        (split p.line '\n').filterMap (lineDeletion p.chainName) =
          [.ok ("-D" :: masterChainName :: (dispatchRule p).args)]) ↔
      (p.realmName ++ p.spaceName).toList.all survives = true := by
  rw [buildSpaceNetworkName_eq_ok hr hs, Except.map, safeBridgeName,
    if_neg (networkName_ne_empty _ _)] at hb
  constructor
  · rintro ⟨parsed, lines⟩
    refine List.all_eq_true.mpr fun c hc => ?_
    have inside : c ∈ (dispatchRule p).args.flatMap String.toList := by
      simp only [dispatchRule, Policy.commentTag, List.flatMap_cons, String.toList_append,
        List.mem_append] at hc ⊢
      rcases hc with hc | hc <;> simp only [hc, true_or, or_true]
    have counted := count_parsed (c := backslash) (by decide) parsed
    rw [Policy.line, count_printed (.inr rfl), if_pos rfl] at counted
    have none : ((ruleArgs (dispatchRule p)).flatMap String.toList).countP needsEscape = 0 := by
      omega
    have bare := List.countP_eq_zero.mp none c (by simp [ruleArgs, inside])
    have unbroken := no_break_of_deletion (lines ▸ List.mem_singleton_self _)
    have line : c ≠ '\n' := by
      rintro rfl
      exact unbroken (by simp [inside])
    simp [survives, bare, line]
  · intro names
    have args := bare_args (Except.ok.inj hb).symm names
    have parsed : parseRuleLine p.line = .ok (ruleArgs (dispatchRule p)) :=
      parse_printed fun arg hm => ⟨(args arg hm).1, by
        have := (args arg hm).2
        simp_all [survives]⟩
    have unbroken : '\n' ∉ p.line.toList := by
      apply List.count_eq_zero.mp
      rw [Policy.line, count_printed (.inl rfl), if_neg (by decide), Nat.add_zero,
        List.count_eq_zero]
      intro hm
      obtain ⟨arg, ha, hc⟩ := List.mem_flatMap.mp hm
      cases List.all_eq_true.mp (args arg ha).2 _ hc
    exact ⟨parsed, by simp [split, List.splitOn_eq_singleton unbroken, lineDeletion_line parsed]⟩

/-- The policy of a space of the realm `default`, on the bridge of its network. -/
def onDefaultRealm (spaceName : String) : Policy :=
  { bridge := safeBridgeName ("default-" ++ spaceName), realmName := "default", spaceName
    default := .deny, allow := [] }

theorem dispatch_readBack_web :
    (parseRuleLine (onDefaultRealm "web").line = .ok (ruleArgs (dispatchRule (onDefaultRealm "web"))) ∧
        (split (onDefaultRealm "web").line '\n').filterMap
          (lineDeletion (onDefaultRealm "web").chainName) =
          [.ok ("-D" :: masterChainName :: (dispatchRule (onDefaultRealm "web")).args)]) ↔
      ("default" ++ "web").toList.all survives = true :=
  @dispatch_readBack_iff (onDefaultRealm "web") (by decide) (by decide) (by decide +kernel)

/-- A quote in the name of the space: the printed line has three, and cannot be parsed. -/
theorem quoted_space_unparsed :
    validateRealmName "default" = .ok () ∧ validateHierarchyName "space" "a\"b" = .ok () ∧
      parseRuleLine (onDefaultRealm "a\"b").line =
        .error "unterminated quote in iptables -S line" := by
  decide +kernel

end Dispatch

end Kukeon.Netpolicy
