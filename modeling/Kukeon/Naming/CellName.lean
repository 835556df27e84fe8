import Kukeon.Lib.GoText

/-! # Names of generated cells

`internal/util/naming/cellname.go` and `randomsuffix.go`. A cell gets the name the operator gave,
or `<prefix>-<6hex>` with random bytes. Each reading of the random source is one element of the
sequence `draws`; a reading can fail.
-/

namespace Kukeon.Naming

open GoText

/-! ## `hierarchyname.go` and `realmname.go` -/

/-- `strings.ContainsAny` for the two separators. -/
def hasSeparator (name : String) : Bool := containsChar name '_' || containsChar name '/'

def disallowedText (name : String) : String :=
  quoted name ++ " contains disallowed character (must not contain '_' or '/')"

def validateHierarchyName (kind name : String) : Except String Unit :=
  if trimSpace kind = "" then .error "hierarchy kind is required"
  else if trimSpace name = "" then .error ("name is invalid: " ++ kind ++ " name is required")
  else if hasSeparator (trimSpace name) then
    .error ("name is invalid: " ++ kind ++ " name " ++ disallowedText (trimSpace name))
  else .ok ()

def validateRealmName (name : String) : Except String Unit :=
  if trimSpace name = "" then .error "realm name is required"
  else if hasSeparator (trimSpace name) then
    .error ("realm name is invalid: " ++ disallowedText (trimSpace name))
  else .ok ()

theorem validateHierarchyName_eq_ok {kind name : String} (hg : trimSpace kind ≠ "") :
    validateHierarchyName kind name = .ok () ↔
      trimSpace name ≠ "" ∧ hasSeparator (trimSpace name) = false := by
  unfold validateHierarchyName
  rw [if_neg hg]
  by_cases hb : trimSpace name = ""
  · simp [hb]
  · by_cases hs : hasSeparator (trimSpace name) = true <;> simp [hb, hs]

theorem validateRealmName_eq_ok {name : String} :
    validateRealmName name = .ok () ↔
      trimSpace name ≠ "" ∧ hasSeparator (trimSpace name) = false := by
  unfold validateRealmName
  by_cases hb : trimSpace name = ""
  · simp [hb]
  · by_cases hs : hasSeparator (trimSpace name) = true <;> simp [hb, hs]

/-- The `DefaultCellNameSuffixBytes` random bytes of one suffix. -/
abbrev Suffix := Fin 256 × Fin 256 × Fin 256

/-- The readings of the random source, in order; `none` is a reading that fails. -/
abbrev Draws := Nat → Option Suffix

/-- `hex.EncodeToString`. -/
def hexSuffix (suffix : Suffix) : String :=
  String.ofList ([suffix.1, suffix.2.1, suffix.2.2].flatMap fun byte =>
    [hexDigit (byte.val / 16), hexDigit (byte.val % 16)])

/-- The errors of this package; `ε` is what the probe for a taken name can fail with. -/
inductive CellNameError (ε : Type) where
  | generate (cellPrefix : String)
  | probe (cause : ε)
  | exhausted (cellPrefix last : String)

variable {ε : Type}

def generatedName (cellPrefix : String) (suffix : Suffix) : String :=
  trimSpace cellPrefix ++ "-" ++ hexSuffix suffix

def generateCellName (cellPrefix : String) (draw : Option Suffix) :
    Except (CellNameError ε) String :=
  match draw with
  | none => .error (.generate (trimSpace cellPrefix))
  | some suffix => .ok (generatedName cellPrefix suffix)

def maxCellNameAllocAttempts : Nat := 64

/-- The loop of `AllocCellName` with `left` attempts to go; `attempt` readings were made. -/
def allocFrom (cellPrefix : String) (taken : String → Except ε Bool) (draws : Draws) :
    Nat → Nat → String → Except (CellNameError ε) String
  | 0, _, last => .error (.exhausted (trimSpace cellPrefix) last)
  | left + 1, attempt, _ => do
      let candidate ← generateCellName cellPrefix (draws attempt)
      if ← (taken candidate).mapError .probe then
        allocFrom cellPrefix taken draws left (attempt + 1) candidate
      else
        return candidate

def allocCellName (explicit cellPrefix : String) (taken : String → Except ε Bool)
    (draws : Draws) : Except (CellNameError ε) String :=
  if trimSpace explicit ≠ "" then .ok (trimSpace explicit)
  else allocFrom cellPrefix taken draws maxCellNameAllocAttempts 0 ""

theorem generatedName_ne_empty (cellPrefix : String) (suffix : Suffix) :
    generatedName cellPrefix suffix ≠ "" := by
  intro he
  have hd := congrArg String.toList he
  simp [generatedName] at hd

/-- For every text there is a suffix that is written differently. -/
theorem exists_generatedName_ne (cellPrefix name : String) :
    ∃ suffix, generatedName cellPrefix suffix ≠ name := by
  by_cases hz : generatedName cellPrefix (0, 0, 0) = name
  · refine ⟨(0, 0, 1), ?_⟩
    intro one
    have hs := congrArg String.toList (one.trans hz.symm)
    simp only [generatedName, String.toList_append, List.append_cancel_left_eq] at hs
    exact absurd hs (by decide)
  · exact ⟨(0, 0, 0), hz⟩

theorem allocFrom_generated {cellPrefix : String} {taken : String → Except ε Bool} {draws : Draws}
    {left attempt : Nat} {last name : String}
    (ha : allocFrom cellPrefix taken draws left attempt last = .ok name) :
    ∃ suffix, name = generatedName cellPrefix suffix := by
  induction left generalizing attempt last with
  | zero => simp [allocFrom] at ha
  | succ left ih =>
    unfold allocFrom at ha
    cases hd : draws attempt with
    | none => simp [hd, generateCellName, bind, Except.bind] at ha
    | some suffix =>
      simp only [hd, generateCellName, bind, Except.bind] at ha
      cases hp : (taken (generatedName cellPrefix suffix)).mapError
          (CellNameError.probe (ε := ε)) with
      | error cause => simp [hp] at ha
      | ok isTaken =>
        cases isTaken with
        | true => exact ih (by simpa [hp] using ha)
        | false =>
          refine ⟨suffix, ?_⟩
          simpa [hp, pure, Except.pure, eq_comm] using ha

theorem allocCellName_of_explicit {explicit : String} (hg : trimSpace explicit ≠ "")
    (cellPrefix : String) (taken : String → Except ε Bool) (draws : Draws) :
    allocCellName explicit cellPrefix taken draws = .ok (trimSpace explicit) := by
  simp [allocCellName, hg]

theorem allocCellName_generated {explicit cellPrefix : String} {taken : String → Except ε Bool}
    {draws : Draws} {name : String} (ho : trimSpace explicit = "")
    (ha : allocCellName explicit cellPrefix taken draws = .ok name) :
    ∃ suffix, name = generatedName cellPrefix suffix := by
  simp only [allocCellName, ho, ne_eq, not_true_eq_false, if_false] at ha
  exact allocFrom_generated ha

end Kukeon.Naming
