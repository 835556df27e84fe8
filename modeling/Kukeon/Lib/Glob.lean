import Mathlib.Data.List.Basic

/-! # File name patterns

`filepath.Match` of Go's standard library on a system that separates names by a slash: `*` stands for
any text, `?` for a character, brackets for a character of the ranges they hold or, after `^`, for any
other one, and a backslash takes the character after it as it is. A malformed pattern matches nothing.
-/

namespace Kukeon.Glob

inductive Term where
  | star
  | one
  | range (negated : Bool) (ranges : List (Char × Char))
  | literal (c : Char)

/-- One end of a range. A range is never the last of a pattern. -/
def getEsc : List Char → Option (Char × List Char)
  | '\\' :: c :: d :: rest => some (c, d :: rest)
  | c :: d :: rest => if c ∈ ['-', ']', '\\'] then none else some (c, d :: rest)
  | _ => none

def getRanges : Nat → List (Char × Char) → List Char → Option (List (Char × Char) × List Char)
  | 0, _, _ => none
  | _ + 1, ranges, ']' :: rest => if ranges = [] then none else some (ranges, rest)
  | fuel + 1, ranges, chunk =>
    match getEsc chunk with
    | none => none
    | some (low, '-' :: chunk) =>
      match getEsc chunk with
      | none => none
      | some (high, chunk) => getRanges fuel ((low, high) :: ranges) chunk
    | some (low, chunk) => getRanges fuel ((low, low) :: ranges) chunk

/-- The terms of a pattern, unless it is malformed. The fuel bounds the length of the pattern. -/
def readTerms : Nat → List Char → Option (List Term)
  | _, [] => some []
  | 0, _ :: _ => none
  | fuel + 1, c :: rest =>
    if c = '*' then (readTerms fuel rest).map (.star :: ·)
    else if c = '?' then (readTerms fuel rest).map (.one :: ·)
    else if c = '\\' then
      match rest with
      | [] => none
      | d :: rest => (readTerms fuel rest).map (.literal d :: ·)
    else if c = '[' then
      let negated := rest.head? = some '^'
      match getRanges fuel [] (if negated then rest.tail else rest) with
      | none => none
      | some (ranges, rest) => (readTerms fuel rest).map (.range negated ranges :: ·)
    else (readTerms fuel rest).map (.literal c :: ·)

def matchTerms : List Term → List Char → Bool
  | [], name => name.isEmpty
  | .star :: rest, name =>
    (List.range (name.length + 1)).any fun n =>
      '/' ∉ name.take n && matchTerms rest (name.drop n)
  | .one :: rest, c :: name => c ≠ '/' && matchTerms rest name
  | .range negated ranges :: rest, c :: name =>
    (ranges.any fun range => range.1 ≤ c && c ≤ range.2) != negated && matchTerms rest name
  | .literal d :: rest, c :: name => c = d && matchTerms rest name
  | _ :: _, [] => false

def matchName (pattern name : String) : Bool :=
  match readTerms pattern.toList.length pattern.toList with
  | none => false
  | some terms => matchTerms terms name.toList

/-- A text without the characters that mean something in a pattern. -/
def Plain (text : List Char) : Prop := ∀ c ∈ text, c ∉ ['*', '?', '[', '\\']

theorem readTerms_plain {text : List Char} (plain : Plain text) (fuel : Nat) (rest : List Char) :
    readTerms (text.length + fuel) (text ++ rest) =
      (readTerms fuel rest).map (text.map .literal ++ ·) := by
  induction text with
  | nil => simp
  | cons c text ih =>
    obtain ⟨hc, ht⟩ := List.forall_mem_cons.mp plain
    simp only [List.mem_cons, List.not_mem_nil, not_or, or_false] at hc
    rw [List.length_cons, Nat.add_right_comm, List.cons_append, readTerms.eq_def]
    simp only [hc, if_false, ih ht, Option.map_map]
    rfl

theorem matchTerms_literals {text name : List Char} {terms : List Term} :
    matchTerms (text.map .literal ++ terms) name = true ↔
      ∃ back, name = text ++ back ∧ matchTerms terms back = true := by
  induction text generalizing name with
  | nil => simp
  | cons c text ih =>
    cases name with
    | nil => simp [matchTerms]
    | cons d name => simp [matchTerms, ih, and_assoc]

theorem matchTerms_star {name : List Char} : matchTerms [.star] name = true ↔ '/' ∉ name := by
  simp only [matchTerms, List.any_eq_true, List.mem_range, Bool.and_eq_true, decide_eq_true_eq,
    List.isEmpty_iff, List.drop_eq_nil_iff]
  constructor
  · rintro ⟨n, _, plain, all⟩
    rwa [List.take_of_length_le all] at plain
  · intro plain
    exact ⟨name.length, by omega, by simpa using plain, Nat.le_refl _⟩

theorem matchName_plain {pattern name : String} (plain : Plain pattern.toList) :
    matchName pattern name = true ↔ name = pattern := by
  have read := readTerms_plain plain 0 []
  rw [Nat.add_zero, List.append_nil] at read
  rw [matchName, read]
  show matchTerms (pattern.toList.map .literal ++ []) name.toList = true ↔ _
  rw [matchTerms_literals]
  simp [matchTerms, String.toList_inj]

/-- A text and a star match what begins with the text. -/
theorem matchName_star {text name : String} (plain : Plain text.toList) :
    matchName (text ++ "*") name = true ↔
      ∃ back, name.toList = text.toList ++ back ∧ '/' ∉ back := by
  rw [matchName, String.toList_append, List.length_append, readTerms_plain plain]
  show matchTerms (text.toList.map .literal ++ [.star]) name.toList = true ↔ _
  simp only [matchTerms_literals, matchTerms_star]

end Kukeon.Glob
