import Mathlib
import Kukeon.Lib.GoText

/-! # FNV-1a and its eight digits

The 32-bit hash of `hash/fnv` over the bytes of a text, and the fixed-width hexadecimal form in which
hashes are put into names.
-/

namespace Fnv

/-- The sum of `fnv.New32a` after writing the text. -/
def sum32a (text : String) : BitVec 32 :=
  (text.toList.flatMap String.utf8EncodeChar).foldl
    (fun sum byte => (sum ^^^ BitVec.ofNat 32 byte.toNat) * 16777619#32) 2166136261#32

def hex (sum : BitVec 32) : List Char :=
  [7, 6, 5, 4, 3, 2, 1, 0].map fun i => GoText.hexDigit (sum.toNat / 16 ^ i % 16)

theorem hexDigit_injective {m n : Nat} (hsm : m < 16) (hs : n < 16)
    (hsa : GoText.hexDigit m = GoText.hexDigit n) : m = n := by
  have all : ∀ m n : Fin 16, GoText.hexDigit m = GoText.hexDigit n → m = n := by decide
  exact congrArg Fin.val (all ⟨m, hsm⟩ ⟨n, hs⟩ hsa)

/-- Two numbers with the same `k` hexadecimal digits are equal. -/
theorem eq_of_digits {k a b : Nat} (hb : a < 16 ^ k) (hbb : b < 16 ^ k)
    (hd : ∀ i < k, a / 16 ^ i % 16 = b / 16 ^ i % 16) : a = b := by
  induction k generalizing a b with
  | zero =>
    rw [Nat.pow_zero, Nat.lt_one_iff] at hb hbb
    rw [hb, hbb]
  | succ k ih =>
    have low := hd 0 (Nat.succ_pos k)
    rw [Nat.pow_zero, Nat.div_one, Nat.div_one] at low
    have hh : a / 16 = b / 16 := by
      apply ih
      · exact Nat.div_lt_of_lt_mul (by rwa [Nat.pow_succ, Nat.mul_comm] at hb)
      · exact Nat.div_lt_of_lt_mul (by rwa [Nat.pow_succ, Nat.mul_comm] at hbb)
      · intro i hbl
        rw [Nat.div_div_eq_div_mul, Nat.div_div_eq_div_mul, Nat.mul_comm, ← Nat.pow_succ]
        exact hd (i + 1) (Nat.succ_lt_succ hbl)
    omega

theorem hex_injective : Function.Injective hex := by
  intro a b hs
  have hd : ∀ i ∈ [7, 6, 5, 4, 3, 2, 1, 0], a.toNat / 16 ^ i % 16 = b.toNat / 16 ^ i % 16 := by
    intro i hm
    exact hexDigit_injective (Nat.mod_lt _ (by decide)) (Nat.mod_lt _ (by decide))
      (List.map_inj_left.mp hs i hm)
  apply BitVec.eq_of_toNat_eq
  refine eq_of_digits (k := 8) a.isLt b.isLt ?_
  intro i hb
  apply hd
  simp only [List.mem_cons, List.not_mem_nil, or_false]
  omega

theorem hexDigit_ne_plus {n : Nat} (hs : n < 16) : GoText.hexDigit n ≠ '+' := by
  have all : ∀ n : Fin 16, GoText.hexDigit n ≠ '+' := by decide
  exact all ⟨n, hs⟩

end Fnv
