import Mathlib.Data.List.Basic
import Mathlib.Data.List.DropRight
import Mathlib.Data.List.Infix

/-! # Texts as the Go standard library treats them

The few functions of `strings` and `fmt` that a modelled message or check calls. They work on
the list of characters of a string, so that they evaluate on concrete texts.
-/

namespace GoText

/-- `unicode.IsSpace`. -/
def isSpace (c : Char) : Bool :=
  let n := c.toNat
  (9 ≤ n && n ≤ 13) || n == 0x20 || n == 0x85 || n == 0xA0 || n == 0x1680 ||
    (0x2000 ≤ n && n ≤ 0x200A) || n == 0x2028 || n == 0x2029 || n == 0x202F || n == 0x205F ||
    n == 0x3000

/-- `strings.TrimSpace`. -/
def trimSpace (text : String) : String :=
  String.ofList ((text.toList.dropWhile isSpace).reverse.dropWhile isSpace).reverse

theorem trimSpace_trimSpace (text : String) : trimSpace (trimSpace text) = trimSpace text := by
  have hk : ((text.toList.dropWhile isSpace).rdropWhile isSpace).dropWhile isSpace =
      (text.toList.dropWhile isSpace).rdropWhile isSpace := by
    generalize hst : text.toList.dropWhile isSpace = body
    rw [List.dropWhile_eq_self_iff]
    intro hn
    have hi := List.rdropWhile_prefix (p := isSpace) (l := body)
    have hb : 0 < body.length := lt_of_lt_of_le hn hi.length_le
    have hs : (body.rdropWhile isSpace)[0] = body[0] := hi.getElem hn
    rw [hs]
    have hsl : body.dropWhile isSpace = body := by
      rw [← hst, List.dropWhile_idempotent]
    exact List.dropWhile_eq_self_iff.mp hsl hb
  have ha : ∀ text : String, trimSpace text =
      String.ofList ((text.toList.dropWhile isSpace).rdropWhile isSpace) := fun _ => rfl
  rw [ha (trimSpace text), ha text, String.toList_ofList, hk,
    List.rdropWhile_idempotent]

theorem trimSpace_ne_empty {text : String} {c : Char} (hm : c ∈ text.toList)
    (hv : isSpace c = false) : trimSpace text ≠ "" := by
  intro hb
  have hn : ((text.toList.dropWhile isSpace).reverse.dropWhile isSpace).reverse = [] := by
    have hl := congrArg String.toList hb
    rwa [trimSpace, String.toList_ofList] at hl
  rw [List.reverse_eq_nil_iff, List.dropWhile_eq_nil_iff] at hn
  rw [← List.takeWhile_append_dropWhile (p := isSpace) (l := text.toList),
    List.mem_append] at hm
  cases hm with
  | inl he =>
    have hs := List.mem_takeWhile_imp he
    rw [hv] at hs
    cases hs
  | inr hlt =>
    have hs := hn c (List.mem_reverse.mpr hlt)
    rw [hv] at hs
    cases hs

def orElse (text fallback : String) : String := if text = "" then fallback else text

/-- `strings.HasSuffix`. -/
def hasSuffix (text suffix : String) : Bool := suffix.toList.isSuffixOf text.toList

/-- `strings.HasPrefix`. -/
def hasPrefix (text start : String) : Bool := start.toList.isPrefixOf text.toList

/-- `strings.Split` at a single character. -/
def split (text : String) (sep : Char) : List String :=
  (text.toList.splitOn sep).map String.ofList

/-- `strings.Contains` for a one-character needle. -/
def containsChar (text : String) (needle : Char) : Bool := text.toList.contains needle

def hexDigit (n : Nat) : Char := Char.ofNat (if n < 10 then 48 + n else 87 + n)

/-- The escape `fmt`'s `%q` writes for a character, for the characters below `0x80`; any other
    character stands for itself. -/
def escape (c : Char) : List Char :=
  let backslash := Char.ofNat 92
  match c.toNat with
  | 7 => [backslash, 'a']
  | 8 => [backslash, 'b']
  | 9 => [backslash, 't']
  | 10 => [backslash, 'n']
  | 11 => [backslash, 'v']
  | 12 => [backslash, 'f']
  | 13 => [backslash, 'r']
  | 34 => [backslash, Char.ofNat 34]
  | 92 => [backslash, backslash]
  | n =>
    if n < 32 || n == 127 then [backslash, 'x', hexDigit (n / 16), hexDigit (n % 16)] else [c]

/-- `fmt`'s `%q` for a string. -/
def quoted (text : String) : String :=
  String.ofList ([Char.ofNat 34] ++ text.toList.flatMap escape ++ [Char.ofNat 34])

/-- `fmt`'s `%v` for a boolean. -/
def boolText (b : Bool) : String := if b then "true" else "false"

example : quoted "a b" = "\"a b\"" := by decide
example : trimSpace " cell\t" = "cell" := by decide

/-- `strings.Join(strings.Fields(_), " ")`, in one pass: `started` says that a word was written and
    `ended` that white space has followed it. -/
def joinFields : (started ended : Bool) → List Char → List Char
  | _, _, [] => []
  | started, ended, c :: rest =>
    if isSpace c then joinFields started true rest
    else if started && ended then ' ' :: c :: joinFields true false rest
    else c :: joinFields true false rest

/-- The longest beginning of a text that fits into so many bytes. -/
def cutToBytes : Nat → List Char → List Char
  | _, [] => []
  | room, c :: rest =>
    if c.utf8Size ≤ room then c :: cutToBytes (room - c.utf8Size) rest else []

theorem mem_joinFields {text : List Char} {c : Char} (hm : c ∈ text)
    (hv : isSpace c = false) (started ended : Bool) : c ∈ joinFields started ended text := by
  induction text generalizing started ended with
  | nil => cases hm
  | cons first rest ih =>
    unfold joinFields
    rcases List.mem_cons.mp hm with rfl | hl
    · rw [if_neg (by simp [hv])]
      split
      · simp
      · simp
    · split
      · exact ih hl started true
      · split
        · exact List.mem_cons_of_mem _ (List.mem_cons_of_mem _ (ih hl true false))
        · exact List.mem_cons_of_mem _ (ih hl true false)

example : joinFields false false "  disk\t is  full ".toList = "disk is full".toList := by decide
example : cutToBytes 4 "aéé".toList = "aé".toList := by decide

end GoText

namespace ListRewrite

variable {α : Type}

/-- Replace the leftmost matches that do not overlap. The first `skip` elements are covered by a
    match met before them. -/
def rewrite (matched : List α → Option Nat) (written : List α → List α) :
    Nat → List α → List α
  | _, [] => []
  | skip + 1, _ :: rest => rewrite matched written skip rest
  | 0, head :: rest =>
    match matched (head :: rest) with
    | some covered =>
      written (head :: rest) ++ rewrite matched written (covered - 1) rest
    | none => head :: rewrite matched written 0 rest

def hits (matched : List α → Option Nat) : Nat → List α → Nat
  | _, [] => 0
  | skip + 1, _ :: rest => hits matched skip rest
  | 0, head :: rest =>
    match matched (head :: rest) with
    | some covered => hits matched (covered - 1) rest + 1
    | none => hits matched 0 rest

variable {matched : List α → Option Nat}

theorem length_rewrite_const (new : List α) (skip : Nat) (text : List α) :
    (rewrite matched (fun _ => new) skip text).length =
      (rewrite matched (fun _ => []) skip text).length + hits matched skip text * new.length := by
  induction text generalizing skip with
  | nil => cases skip <;> simp [rewrite, hits]
  | cons head rest ih =>
    cases skip with
    | succ skip => simpa only [rewrite, hits] using ih skip
    | zero =>
      simp only [rewrite, hits]
      cases matched (head :: rest) with
      | none => simp only [List.length_cons, ih 0]; omega
      | some covered =>
        simp only [List.length_append, List.length_nil, ih (covered - 1), Nat.add_one_mul]
        omega

theorem rewrite_const_eq_of_length {a b : List α} (hs : a.length = b.length)
    (skip : Nat) (text : List α) (hr : 0 < hits matched skip text)
    (hsm : rewrite matched (fun _ => a) skip text = rewrite matched (fun _ => b) skip text) :
    a = b := by
  induction text generalizing skip with
  | nil => cases skip <;> simp [hits] at hr
  | cons head rest ih =>
    cases skip with
    | succ skip => exact ih skip hr hsm
    | zero =>
      simp only [rewrite, hits] at hsm hr
      cases hf : matched (head :: rest) with
      | none =>
        simp only [hf] at hsm hr
        exact ih 0 hr (List.cons.inj hsm).2
      | some covered =>
        simp only [hf] at hsm
        exact (List.append_inj hsm hs).1

/-- One text stands in place of every match, and there is a match: the text can be read off the
    result. -/
theorem rewrite_const_injective {a b : List α} {text : List α}
    (hr : 0 < hits matched 0 text)
    (hsm : rewrite matched (fun _ => a) 0 text = rewrite matched (fun _ => b) 0 text) :
    a = b := by
  have hl := congrArg List.length hsm
  rw [length_rewrite_const a, length_rewrite_const b] at hl
  have hs : a.length = b.length :=
    Nat.eq_of_mul_eq_mul_left hr (Nat.add_left_cancel hl)
  exact rewrite_const_eq_of_length hs 0 text hr hsm

def prefixAt [DecidableEq α] (old : List α) (text : List α) : Option Nat :=
  if old <+: text then some old.length else none

theorem hits_prefixAt_pos [DecidableEq α] {old text : List α} (hn : old ≠ [])
    (ho : old <:+: text) : 0 < hits (prefixAt old) 0 text := by
  induction text with
  | nil => exact absurd (List.infix_nil.mp ho) hn
  | cons head rest ih =>
    simp only [hits, prefixAt]
    by_cases ha : old <+: head :: rest
    · simp [ha]
    · have hl := (List.infix_cons_iff.mp ho).resolve_left ha
      simpa [ha] using ih hl

end ListRewrite

namespace GoText

/-- `strings.Contains`. -/
def contains (text needle : String) : Bool := decide (needle.toList <:+: text.toList)

/-- `strings.ReplaceAll`, for a needle that is not empty. -/
def replaceAll (text old new : String) : String :=
  String.ofList
    (ListRewrite.rewrite (ListRewrite.prefixAt old.toList) (fun _ => new.toList) 0 text.toList)

theorem replaceAll_injective {text old a b : String} (hnn : old ≠ "")
    (ho : contains text old = true) (hsm : replaceAll text old a = replaceAll text old b) :
    a = b := by
  have hn : old.toList ≠ [] := by simpa using hnn
  have hr :=
    ListRewrite.hits_prefixAt_pos hn (of_decide_eq_true ho)
  have hs := ListRewrite.rewrite_const_injective hr (String.ofList_injective hsm)
  exact String.toList_injective hs

example : replaceAll "mem-<c>-<c>" "<c>" "a" = "mem-a-a" := by decide

end GoText

/-- An error value over the sentinels `S`. -/
structure GoError (S : Type) where
  text : String
  wraps : List S := []
  deriving DecidableEq

namespace GoError

variable {S : Type}

/-- `errors.Is`. -/
def is [DecidableEq S] (err : GoError S) (sentinel : S) : Bool := err.wraps.contains sentinel

/-- `fmt.Errorf` of a text that ends in `%w`. -/
def under (text : String) (cause : GoError S) : GoError S where
  text := text ++ cause.text
  wraps := cause.wraps

/-- `fmt.Errorf` of `%w: %w`. -/
def wrapping (outer cause : GoError S) : GoError S where
  text := outer.text ++ ": " ++ cause.text
  wraps := outer.wraps ++ cause.wraps

end GoError

namespace GoText

/-- `strings.ToLower`, for the letters of ASCII. -/
def lower (text : String) : String := String.ofList (text.toList.map Char.toLower)

/-- One component of a path: no separator and no NUL byte in it, and neither `.` nor `..`. -/
def segmentSafe (value : String) : Bool :=
  value != "." && value != ".." && value.toList.all fun c => c ∉ ['\x00', '/', '\\']

end GoText

namespace Joined

variable {α : Type} {sep : α} {a b a' b' : List α}

theorem eq_iff : a ++ sep :: b = a' ++ sep :: b' ↔
    a = a' ∧ b = b' ∨ (∃ m, a = a' ++ sep :: m ∧ b' = m ++ sep :: b) ∨
      ∃ m, a' = a ++ sep :: m ∧ b = m ++ sep :: b' := by
  constructor
  · intro hs
    rw [List.append_eq_append_iff] at hs
    obtain ⟨m, hl, hr⟩ | ⟨m, hl, hr⟩ := hs
    · cases m with
      | nil =>
        rw [List.append_nil] at hl
        rw [List.nil_append, List.cons.injEq] at hr
        exact .inl ⟨hl.symm, hr.2⟩
      | cons c m =>
        rw [List.cons_append, List.cons.injEq] at hr
        obtain ⟨rfl, hr⟩ := hr
        exact .inr (.inr ⟨m, hl, hr⟩)
    · cases m with
      | nil =>
        rw [List.append_nil] at hl
        rw [List.nil_append, List.cons.injEq] at hr
        exact .inl ⟨hl, hr.2.symm⟩
      | cons c m =>
        rw [List.cons_append, List.cons.injEq] at hr
        obtain ⟨rfl, hr⟩ := hr
        exact .inr (.inl ⟨m, hl, hr⟩)
  · rintro (⟨rfl, rfl⟩ | ⟨m, rfl, rfl⟩ | ⟨m, rfl, rfl⟩) <;> simp

end Joined
