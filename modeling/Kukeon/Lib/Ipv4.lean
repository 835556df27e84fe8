import Mathlib

/-! # IPv4 addresses and blocks

Addresses are 32-bit words, blocks an address with the number of leading bits that count. Both have
a text form, the dotted one and the CIDR one, and reading a printed text gives back what was printed.
-/

namespace Ipv4

abbrev Address := BitVec 32

def decimal (n : Nat) : List Char := Nat.toDigits 10 n

def readDecimal (digits : List Char) : Option Nat :=
  if digits ≠ [] ∧ digits.all Char.isDigit then some (Nat.ofDigitChars 10 digits 0) else none

theorem isDigit_of_mem_decimal {n : Nat} {c : Char} (hm : c ∈ decimal n) : c.isDigit = true :=
  Nat.isDigit_of_mem_toDigits (by decide) (by decide) hm

theorem readDecimal_decimal (n : Nat) : readDecimal (decimal n) = some n := by
  have hd : (decimal n).all Char.isDigit = true := by
    rw [List.all_eq_true]
    intro c hm
    exact isDigit_of_mem_decimal hm
  rw [readDecimal, if_pos ⟨Nat.toDigits_ne_nil, hd⟩]
  exact congrArg some Nat.ofDigitChars_ten_toDigits

def octets (address : Address) : List Nat :=
  [address.toNat / 2 ^ 24, address.toNat / 2 ^ 16 % 256, address.toNat / 2 ^ 8 % 256,
    address.toNat % 256]

def ofOctets (a b c d : Nat) : Address :=
  BitVec.ofNat 32 (a * 2 ^ 24 + b * 2 ^ 16 + c * 2 ^ 8 + d)

def dotted (address : Address) : List Char :=
  ['.'].intercalate ((octets address).map decimal)

/-- One number of a dotted text: at most 255, without leading zeros. -/
def readOctet (digits : List Char) : Option Nat :=
  (readDecimal digits).filter fun n => n ≤ 255 && digits == decimal n

def readDotted (text : List Char) : Option Address :=
  match text.splitOn '.' with
  | [a, b, c, d] => do return ofOctets (← readOctet a) (← readOctet b) (← readOctet c) (← readOctet d)
  | _ => none

theorem readOctet_decimal {n : Nat} (hs : n ≤ 255) : readOctet (decimal n) = some n := by
  rw [readOctet, readDecimal_decimal]
  simp [Option.filter, hs]

theorem dot_notMem_decimal (n : Nat) : '.' ∉ decimal n := by
  intro hm
  exact absurd (isDigit_of_mem_decimal hm) (by decide)

theorem readDotted_dotted (address : Address) : readDotted (dotted address) = some address := by
  have hb := address.isLt
  have hs : (dotted address).splitOn '.' = (octets address).map decimal := by
    apply List.splitOn_intercalate
    · intro digits hm
      obtain ⟨n, _, rfl⟩ := List.mem_map.mp hm
      exact dot_notMem_decimal n
    · simp [octets]
  have hw : ofOctets (address.toNat / 2 ^ 24) (address.toNat / 2 ^ 16 % 256)
      (address.toNat / 2 ^ 8 % 256) (address.toNat % 256) = address := by
    apply BitVec.eq_of_toNat_eq
    simp only [ofOctets, BitVec.toNat_ofNat]
    omega
  have hf : address.toNat / 2 ^ 24 ≤ 255 := by omega
  simp only [readDotted, hs, octets, List.map_cons, List.map_nil]
  rw [readOctet_decimal hf, readOctet_decimal (by omega), readOctet_decimal (by omega),
    readOctet_decimal (by omega)]
  exact congrArg some hw

/-- The addresses that agree with `address` in the first `bits` bits. -/
structure Block where
  address : Address
  bits : Nat
  valid : bits ≤ 32
  deriving DecidableEq

namespace Block

/-- The number of the block of the given size that an address lies in. -/
def index (bits : Nat) (address : Address) : Nat := address.toNat / 2 ^ (32 - bits)

def covers (block : Block) (address : Address) : Bool :=
  index block.bits address == index block.bits block.address

theorem covers_iff {block : Block} {address : Address} :
    block.covers address = true ↔ index block.bits address = index block.bits block.address := by
  simp [covers]

def text (block : Block) : String :=
  String.ofList (dotted block.address ++ '/' :: decimal block.bits)

/-- `net.ParseCIDR` for IPv4 texts. -/
def read (text : String) : Option Block :=
  match text.toList.splitOn '/' with
  | [address, bits] => do
      let address ← readDotted address
      let bits ← readDecimal bits
      if valid : bits ≤ 32 then return ⟨address, bits, valid⟩ else none
  | _ => none

theorem slash_notMem_decimal (n : Nat) : '/' ∉ decimal n := by
  intro hm
  exact absurd (isDigit_of_mem_decimal hm) (by decide)

theorem slash_notMem_dotted (address : Address) : '/' ∉ dotted address := by
  simp [dotted, octets, List.intercalate, slash_notMem_decimal]

theorem read_text (block : Block) : read block.text = some block := by
  have hs : block.text.toList.splitOn '/' = [dotted block.address, decimal block.bits] := by
    rw [text, String.toList_ofList,
      List.splitOn_append_cons_self_of_not_mem (slash_notMem_dotted block.address),
      List.splitOn_eq_singleton (slash_notMem_decimal block.bits)]
  simp only [read, hs, readDotted_dotted, readDecimal_decimal]
  simp [block.valid]

theorem text_injective : Function.Injective text := by
  intro a b hs
  have hb := congrArg read hs
  rwa [read_text, read_text, Option.some.injEq] at hb

def network (block : Block) : Block :=
  { block with
    address := BitVec.ofNat 32 (index block.bits block.address * 2 ^ (32 - block.bits)) }

/-- The address `i` steps of `2 ^ (32 - bits)` after the start of the block. -/
def stepAddress (block : Block) (bits i : Nat) : Address :=
  block.network.address + BitVec.ofNat 32 i * BitVec.ofNat 32 (2 ^ (32 - bits))

/-- The sub-block with the given number, of the blocks with `bits` bits. -/
def chunk (block : Block) (bits i : Nat) (fits : bits ≤ 32) : Block :=
  ⟨block.stepAddress bits i, bits, fits⟩

theorem toNat_network (block : Block) :
    block.network.address.toNat = index block.bits block.address * 2 ^ (32 - block.bits) := by
  have hb : index block.bits block.address * 2 ^ (32 - block.bits) < 2 ^ 32 :=
    lt_of_le_of_lt (Nat.div_mul_le_self _ _) block.address.isLt
  simp only [network, BitVec.toNat_ofNat]
  exact Nat.mod_eq_of_lt hb

theorem index_network (block : Block) :
    index block.bits block.network.address = index block.bits block.address := by
  rw [index, toNat_network, Nat.mul_div_cancel _ (Nat.two_pow_pos _)]

theorem network_network (block : Block) : block.network.network = block.network := by
  have hs := block.index_network
  simp only [network] at hs ⊢
  rw [hs]

theorem covers_network (block : Block) (address : Address) :
    block.network.covers address = block.covers address := by
  rw [Bool.eq_iff_iff, covers_iff, covers_iff]
  exact Eq.congr_right block.index_network

theorem index_of_longer {bits longer : Nat} (le : bits ≤ longer) (fits : longer ≤ 32)
    (address : Address) : index bits address = index longer address / 2 ^ (longer - bits) := by
  have hs : 32 - bits = (32 - longer) + (longer - bits) := by omega
  rw [index, index, Nat.div_div_eq_div_mul, ← Nat.pow_add, hs]

section Steps

variable {block : Block} {bits i : Nat} (longer : block.bits ≤ bits) (fits : bits ≤ 32)
  (inside : i < 2 ^ (bits - block.bits))

include longer fits inside

theorem toNat_stepAddress : (block.stepAddress bits i).toNat =
    (index block.bits block.address * 2 ^ (bits - block.bits) + i) * 2 ^ (32 - bits) := by
  have hs : 2 ^ (32 - block.bits) = 2 ^ (bits - block.bits) * 2 ^ (32 - bits) := by
    rw [← Nat.pow_add]
    congr 1
    omega
  have ho : i * 2 ^ (32 - bits) < 2 ^ (32 - block.bits) := by
    rw [hs]
    exact (Nat.mul_lt_mul_right (Nat.two_pow_pos _)).mpr inside
  have hc : index block.bits block.address < 2 ^ block.bits := by
    apply Nat.div_lt_of_lt_mul
    rw [← Nat.pow_add, Nat.sub_add_cancel block.valid]
    exact block.address.isLt
  have hb : index block.bits block.address * 2 ^ (32 - block.bits) + i * 2 ^ (32 - bits)
      < 2 ^ 32 := by
    calc index block.bits block.address * 2 ^ (32 - block.bits) + i * 2 ^ (32 - bits)
        < (index block.bits block.address + 1) * 2 ^ (32 - block.bits) := by
          rw [Nat.add_mul, Nat.one_mul]
          omega
      _ ≤ 2 ^ block.bits * 2 ^ (32 - block.bits) := Nat.mul_le_mul_right _ hc
      _ = 2 ^ 32 := by rw [← Nat.pow_add, Nat.add_sub_cancel' block.valid]
  have hp : (BitVec.ofNat 32 i * BitVec.ofNat 32 (2 ^ (32 - bits))).toNat =
      i * 2 ^ (32 - bits) := by
    rw [BitVec.toNat_mul, BitVec.toNat_ofNat, BitVec.toNat_ofNat, ← Nat.mul_mod]
    apply Nat.mod_eq_of_lt
    omega
  rw [stepAddress, BitVec.toNat_add, toNat_network, hp, Nat.mod_eq_of_lt hb, hs,
    Nat.add_mul, Nat.mul_assoc]

theorem index_stepAddress : index bits (block.stepAddress bits i) =
    index block.bits block.address * 2 ^ (bits - block.bits) + i := by
  rw [index, toNat_stepAddress longer fits inside, Nat.mul_div_cancel _ (Nat.two_pow_pos _)]

end Steps

end Block

end Ipv4
