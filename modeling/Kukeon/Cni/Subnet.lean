import Kukeon.Lib.GoText
import Kukeon.Lib.Ipv4
import Kukeon.Lib.Keyed
import Kukeon.Lib.Runs

/-! # The subnets of spaces

`internal/cni/subnet.go`: the allocator carves the parent block into chunks of one size and records
the chunk of each space in a `network.json` of its own. The files are the only state. Names are
single path segments, so that a state file is known by its realm and its space.
-/

namespace Kukeon.Cni

open GoText Ipv4

def subnetStateVersion : String := "v1"
def subnetStateFileName : String := "network.json"

structure SubnetState where
  version : String
  subnetCIDR : String
  deriving DecidableEq

/-- What a `network.json` holds; a text that is no state comes with the error of the decoder. -/
inductive StateFile where
  | state (st : SubnetState)
  | malformed (cause : String)
  deriving DecidableEq

/-- The state files under the data root, each under its realm and space. -/
abbrev StateFiles := List ((String × String) × StateFile)

inductive SubnetError where
  /-- `ErrConfig`. -/
  | config (detail : String)
  /-- `ErrInvalidSubnetCIDR`. -/
  | invalidSubnetCIDR (detail : String)
  /-- `ErrSubnetStateCorrupt`. -/
  | subnetStateCorrupt (detail : String)
  /-- `ErrSubnetExhausted`. -/
  | subnetExhausted (detail : String)
  deriving DecidableEq

def SubnetError.text : SubnetError → String
  | .config detail => "config error: " ++ detail
  | .invalidSubnetCIDR detail => "invalid subnet CIDR: " ++ detail
  | .subnetStateCorrupt detail => "subnet allocator state is malformed: " ++ detail
  | .subnetExhausted detail => "no free subnet available in parent CIDR: " ++ detail

/-- What `net.ParseCIDR` makes of a text it accepts. -/
inductive ParsedCIDR where
  | ipv4 (block : Block)
  | ipv6

structure SubnetAllocator where
  dataRoot : String
  parentCIDR : String
  prefixLen : Nat
  /-- The parent block, with its address masked. -/
  parsedNet : Block
  parentSize : Nat
  subnetSpan : BitVec 32
  masked : parsedNet.network = parsedNet
  longer : parsedNet.bits < prefixLen
  fits : prefixLen ≤ 32
  size_eq : parentSize = 2 ^ (prefixLen - parsedNet.bits) % 2 ^ 32
  span_eq : subnetSpan = BitVec.ofNat 32 (2 ^ (32 - prefixLen))

theorem bits_lt_of_accepted {prefixLen : Nat} {block : Block}
    (accepted : ¬(prefixLen ≤ block.bits ∨ 32 < prefixLen)) :
    block.network.bits < prefixLen ∧ prefixLen ≤ 32 := by
  simp only [Block.network]
  omega

def newSubnetAllocator (parseCIDR : String → Except String ParsedCIDR)
    (runPath parentCIDR : String) (prefixLen : Nat) : Except SubnetError SubnetAllocator :=
  match parseCIDR parentCIDR with
  | .error cause =>
    .error (.invalidSubnetCIDR ("parent " ++ quoted parentCIDR ++ ": " ++ cause))
  | .ok .ipv6 => .error (.invalidSubnetCIDR ("parent " ++ quoted parentCIDR ++ " must be IPv4"))
  | .ok (.ipv4 block) =>
    if refused : prefixLen ≤ block.bits ∨ 32 < prefixLen then
      .error (.invalidSubnetCIDR ("prefix /" ++ toString prefixLen ++
        " must be longer than parent /" ++ toString block.bits ++ " and at most /32"))
    else
      .ok
        { dataRoot := runPath ++ "/data"
          parentCIDR := parentCIDR
          prefixLen := prefixLen
          parsedNet := block.network
          -- `uint32(1) << n` is zero for a shift by all 32 bits.
          parentSize := 2 ^ (prefixLen - block.bits) % 2 ^ 32
          subnetSpan := BitVec.ofNat 32 (2 ^ (32 - prefixLen))
          masked := block.network_network
          longer := (bits_lt_of_accepted refused).1
          fits := (bits_lt_of_accepted refused).2
          size_eq := rfl
          span_eq := rfl }

theorem newSubnetAllocator_eq_ok {parseCIDR : String → Except String ParsedCIDR}
    {parentCIDR : String} {block : Block} {prefixLen : Nat}
    (hp : parseCIDR parentCIDR = .ok (.ipv4 block)) (hl : block.bits < prefixLen)
    (hf : prefixLen ≤ 32) (runPath : String) :
    ∃ a, newSubnetAllocator parseCIDR runPath parentCIDR prefixLen = .ok a ∧
      a.parsedNet = block.network ∧ a.prefixLen = prefixLen := by
  have ha : ¬ (prefixLen ≤ block.bits ∨ 32 < prefixLen) := by omega
  unfold newSubnetAllocator
  rw [hp]
  simp only [ha, dif_neg, not_false_eq_true]
  exact ⟨_, rfl, rfl, rfl⟩

namespace SubnetAllocator

variable (a : SubnetAllocator)

def statePath (realm space : String) : String :=
  a.dataRoot ++ "/" ++ realm ++ "/" ++ space ++ "/" ++ subnetStateFileName

def readState (path : String) : Option StateFile → Except SubnetError String
  | none => .ok ""
  | some (.malformed cause) => .error (.subnetStateCorrupt (path ++ ": " ++ cause))
  | some (.state st) =>
    if trimSpace st.subnetCIDR = "" then
      .error (.subnetStateCorrupt (path ++ ": subnetCIDR is empty"))
    else .ok st.subnetCIDR

def loadAssigned (files : StateFiles) (realm space : String) : Except SubnetError String :=
  readState (a.statePath realm space) (files.lookup (realm, space))

/-- The subnets in use; a file that cannot be read is passed over. -/
def usedSubnets (files : StateFiles) : List String :=
  files.filterMap fun entry =>
    match readState (a.statePath entry.1.1 entry.1.2) (some entry.2) with
    | .error _ => none
    | .ok subnet => if subnet = "" then none else some subnet

def candidate (i : Nat) : Block :=
  ⟨a.parsedNet.address + BitVec.ofNat 32 i * a.subnetSpan, a.prefixLen, a.fits⟩

def firstFree (used : List String) : Except SubnetError String :=
  match (List.range a.parentSize).find? fun i => (a.candidate i).text ∉ used with
  | some i => .ok (a.candidate i).text
  | none =>
    .error (.subnetExhausted
      ("parent " ++ a.parentCIDR ++ " exhausted at /" ++ toString a.prefixLen))

def writeSubnetState (files : StateFiles) (key : String × String) (subnet : String) : StateFiles :=
  (key, .state { version := subnetStateVersion, subnetCIDR := subnet }) ::
    files.filter fun entry => entry.1 ≠ key

def allocate (files : StateFiles) (realm space : String) :
    Except SubnetError String × StateFiles :=
  if trimSpace realm = "" then (.error (.config "realm name is required"), files)
  else if trimSpace space = "" then (.error (.config "space name is required"), files)
  else
    match a.loadAssigned files realm space with
    | .error cause => (.error cause, files)
    | .ok existing =>
      if existing ≠ "" then (.ok existing, files)
      else
        match a.firstFree (a.usedSubnets files) with
        | .error cause => (.error cause, files)
        | .ok free => (.ok free, writeSubnetState files (realm, space) free)

def release (files : StateFiles) (realm space : String) : StateFiles :=
  if trimSpace realm = "" ∨ trimSpace space = "" then files
  else files.filter fun entry => entry.1 ≠ (realm, space)

end SubnetAllocator

inductive SubnetCall where
  | allocate (realm space : String)
  | release (realm space : String)
  deriving DecidableEq

namespace SubnetAllocator

variable (a : SubnetAllocator)

def step (files : StateFiles) : SubnetCall → StateFiles
  | .allocate realm space => (a.allocate files realm space).2
  | .release realm space => release files realm space

def Apart : Prop := a.prefixLen - a.parsedNet.bits ≤ 31

variable {a}

theorem candidate_address (i : Nat) :
    (a.candidate i).address = a.parsedNet.stepAddress a.prefixLen i := by
  rw [candidate, Block.stepAddress, a.masked, a.span_eq]

theorem candidate_eq_chunk {block : Block} (net : a.parsedNet = block.network) (i : Nat) :
    a.candidate i = block.chunk a.prefixLen i a.fits := by
  have ha : (a.candidate i).address = block.stepAddress a.prefixLen i := by
    rw [candidate_address, net, Block.stepAddress, block.network_network, Block.stepAddress]
  rw [Block.chunk, ← ha]
  rfl

section Chunks

variable {i j : Nat}

theorem lt_chunks (hi : i < a.parentSize) : i < 2 ^ (a.prefixLen - a.parsedNet.bits) := by
  rw [a.size_eq] at hi
  exact lt_of_lt_of_le hi (Nat.mod_le _ _)

theorem parentSize_eq (ha : a.Apart) : a.parentSize = 2 ^ (a.prefixLen - a.parsedNet.bits) := by
  rw [a.size_eq]
  apply Nat.mod_eq_of_lt
  exact Nat.pow_lt_pow_right (by decide) (by unfold Apart at ha; omega)

theorem candidate_covers (hin : i < a.parentSize) {address : Address} :
    (a.candidate i).covers address = true ↔
      Block.index a.prefixLen address =
        Block.index a.parsedNet.bits a.parsedNet.address *
          2 ^ (a.prefixLen - a.parsedNet.bits) + i := by
  rw [Block.covers_iff, candidate_address]
  have hi : Block.index a.prefixLen (a.parsedNet.stepAddress a.prefixLen i) = _ :=
    Block.index_stepAddress a.longer.le a.fits (lt_chunks hin)
  constructor
  · intro hs
    rw [← hi]
    exact hs
  · intro hs
    rw [← hi] at hs
    exact hs

theorem candidate_inside (hi : i < a.parentSize) {address : Address}
    (hc : (a.candidate i).covers address = true) : a.parsedNet.covers address = true := by
  have hin := (candidate_covers hi).mp hc
  rw [Block.covers_iff, Block.index_of_longer a.longer.le a.fits, hin, Nat.mul_comm,
    Nat.mul_add_div (Nat.two_pow_pos _), Nat.div_eq_of_lt (lt_chunks hi), Nat.add_zero]

theorem candidate_disjoint (hi : i < a.parentSize) (ho : j < a.parentSize)
    (hd : i ≠ j) (address : Address) :
    ¬ ((a.candidate i).covers address = true ∧ (a.candidate j).covers address = true) := by
  rintro ⟨hf, hs⟩
  have one := (candidate_covers hi).mp hf
  have two := (candidate_covers ho).mp hs
  omega

theorem candidate_text_injective (hi : i < a.parentSize) (ho : j < a.parentSize)
    (hs : (a.candidate i).text = (a.candidate j).text) : i = j := by
  by_contra hd
  have hb := Block.text_injective hs
  have hc : (a.candidate i).covers (a.candidate i).address = true := by
    rw [Block.covers_iff]
  exact candidate_disjoint hi ho hd _ ⟨hc, hb ▸ hc⟩

end Chunks

def chunkFile (a : SubnetAllocator) (i : Nat) : StateFile :=
  .state { version := subnetStateVersion, subnetCIDR := (a.candidate i).text }

/-- Every file records a chunk, and no two files record the same one. -/
structure Sound (a : SubnetAllocator) (files : StateFiles) : Prop where
  keys : (files.map Prod.fst).Nodup
  chunks : ∀ entry ∈ files, ∃ i < a.parentSize, entry.2 = a.chunkFile i
  distinct : (files.map Prod.snd).Nodup
  named : ∀ entry ∈ files, trimSpace entry.1.1 ≠ "" ∧ trimSpace entry.1.2 ≠ ""

theorem candidate_text_visible (i : Nat) : trimSpace (a.candidate i).text ≠ "" := by
  have hs : '/' ∈ (a.candidate i).text.toList := by
    simp [Block.text]
  exact trimSpace_ne_empty hs (by decide)

theorem readState_chunkFile (path : String) (i : Nat) :
    readState path (some (a.chunkFile i)) = .ok (a.candidate i).text := by
  simp only [readState, chunkFile, candidate_text_visible, if_false]

theorem candidate_text_ne_empty (i : Nat) : (a.candidate i).text ≠ "" := by
  intro he
  exact candidate_text_visible (a := a) i (by rw [he]; rfl)

namespace Sound

variable {files : StateFiles} {realm space : String} {i : Nat}

theorem nil : Sound a [] := ⟨by simp, by simp, by simp, by simp⟩

variable {key : String × String} {file : StateFile}

theorem mem_of_lookup (hf : files.lookup key = some file) : (key, file) ∈ files := by
  obtain ⟨before, after, hs, _⟩ := List.lookup_eq_some_iff.mp hf
  rw [hs]
  simp

variable (hsn : Sound a files)

include hsn

theorem filter (keep : (String × String) × StateFile → Bool) :
    Sound a (files.filter keep) where
  keys := hsn.keys.sublist (List.filter_sublist.map Prod.fst)
  chunks := fun entry hm => hsn.chunks entry (List.mem_of_mem_filter hm)
  distinct := hsn.distinct.sublist (List.filter_sublist.map Prod.snd)
  named := fun entry hm => hsn.named entry (List.mem_of_mem_filter hm)

theorem mem_usedSubnets (hin : i < a.parentSize) :
    (a.candidate i).text ∈ a.usedSubnets files ↔ a.chunkFile i ∈ files.map Prod.snd := by
  rw [usedSubnets, List.mem_filterMap, List.mem_map]
  constructor
  · rintro ⟨entry, hm, hg⟩
    obtain ⟨j, ho, hi⟩ := hsn.chunks entry hm
    rw [hi, readState_chunkFile] at hg
    simp only [candidate_text_ne_empty, if_false, Option.some.injEq] at hg
    refine ⟨entry, hm, ?_⟩
    rw [hi, candidate_text_injective ho hin hg]
  · rintro ⟨entry, hm, hi⟩
    refine ⟨entry, hm, ?_⟩
    rw [hi, readState_chunkFile]
    simp only [candidate_text_ne_empty, if_false]

/-- What the allocator answers for a space is what its file records. -/
theorem loadAssigned_eq (realm space : String) :
    (files.lookup (realm, space) = none ∧ a.loadAssigned files realm space = .ok "") ∨
      ∃ i < a.parentSize, files.lookup (realm, space) = some (a.chunkFile i) ∧
        a.loadAssigned files realm space = .ok (a.candidate i).text := by
  unfold loadAssigned
  cases hf : files.lookup (realm, space) with
  | none => exact .inl ⟨rfl, rfl⟩
  | some file =>
    obtain ⟨i, hin, hi⟩ := hsn.chunks _ (mem_of_lookup hf)
    have hi : file = a.chunkFile i := hi
    refine .inr ⟨i, hin, by rw [hi], ?_⟩
    rw [hi, readState_chunkFile]

theorem lowest_of_firstFree {subnet : String}
    (hf : a.firstFree (a.usedSubnets files) = .ok subnet) :
    ∃ i < a.parentSize, subnet = (a.candidate i).text ∧
      a.chunkFile i ∉ files.map Prod.snd ∧ ∀ j < i, a.chunkFile j ∈ files.map Prod.snd := by
  unfold firstFree at hf
  split at hf
  · next i hfn =>
      rw [List.find?_range_eq_some] at hfn
      obtain ⟨hu, hm, hb⟩ := hfn
      have hi := List.mem_range.mp hm
      simp only [decide_not, Bool.not_eq_true', decide_eq_false_iff_not] at hu
      cases hf
      refine ⟨i, hi, rfl, mt (hsn.mem_usedSubnets hi).mpr hu, ?_⟩
      intro j he
      have hus := hb j he
      simp only [decide_not, Bool.not_not, decide_eq_true_eq] at hus
      exact (hsn.mem_usedSubnets (he.trans hi)).mp hus
  · cases hf

theorem exhausted_of_firstFree {cause : SubnetError}
    (hf : a.firstFree (a.usedSubnets files) = .error cause) :
    (∃ detail, cause = .subnetExhausted detail) ∧
      ∀ i < a.parentSize, a.chunkFile i ∈ files.map Prod.snd := by
  unfold firstFree at hf
  split at hf
  · cases hf
  · next hn =>
      cases hf
      refine ⟨⟨_, rfl⟩, ?_⟩
      intro i hi
      rw [List.find?_range_eq_none] at hn
      have ht := hn i hi
      simp only [decide_not, Bool.not_not, decide_eq_true_eq] at ht
      exact (hsn.mem_usedSubnets hi).mp ht

theorem writeSubnetState (hi : i < a.parentSize)
    (hf : a.chunkFile i ∉ files.map Prod.snd) (hr : trimSpace realm ≠ "")
    (hs : trimSpace space ≠ "") :
    Sound a (SubnetAllocator.writeSubnetState files (realm, space) (a.candidate i).text) := by
  have hrs := hsn.filter fun entry => entry.1 ≠ (realm, space)
  constructor
  · rw [SubnetAllocator.writeSubnetState, List.map_cons, List.nodup_cons]
    refine ⟨?_, hrs.keys⟩
    simp
  · intro entry hm
    rw [SubnetAllocator.writeSubnetState, List.mem_cons] at hm
    rcases hm with rfl | hm
    · exact ⟨i, hi, rfl⟩
    · exact hrs.chunks entry hm
  · rw [SubnetAllocator.writeSubnetState, List.map_cons, List.nodup_cons]
    refine ⟨?_, hrs.distinct⟩
    intro ha
    exact hf ((List.filter_sublist.map Prod.snd).subset ha)
  · intro entry hm
    rw [SubnetAllocator.writeSubnetState, List.mem_cons] at hm
    rcases hm with rfl | hm
    · exact ⟨hr, hs⟩
    · exact hrs.named entry hm

/-- What a call of `Allocate` can do: refuse a blank name, answer with the recorded subnet, record
    the lowest free chunk, or fail because there is none. -/
theorem allocate_cases (realm space : String) :
    ((trimSpace realm = "" ∨ trimSpace space = "") ∧
      ∃ detail, a.allocate files realm space = (.error (.config detail), files)) ∨
    ((trimSpace realm ≠ "" ∧ trimSpace space ≠ "") ∧
      ((∃ i < a.parentSize, files.lookup (realm, space) = some (a.chunkFile i) ∧
          a.allocate files realm space = (.ok (a.candidate i).text, files)) ∨
        files.lookup (realm, space) = none ∧
          ((∃ i < a.parentSize, a.chunkFile i ∉ files.map Prod.snd ∧
              (∀ j < i, a.chunkFile j ∈ files.map Prod.snd) ∧
              a.allocate files realm space = (.ok (a.candidate i).text,
                SubnetAllocator.writeSubnetState files (realm, space) (a.candidate i).text)) ∨
            (∀ i < a.parentSize, a.chunkFile i ∈ files.map Prod.snd) ∧
              ∃ detail, a.allocate files realm space =
                (.error (.subnetExhausted detail), files)))) := by
  unfold allocate
  by_cases hr : trimSpace realm = ""
  · exact .inl ⟨.inl hr, _, by rw [if_pos hr]⟩
  by_cases hs : trimSpace space = ""
  · exact .inl ⟨.inr hs, _, by rw [if_neg hr, if_pos hs]⟩
  refine .inr ⟨⟨hr, hs⟩, ?_⟩
  rw [if_neg hr, if_neg hs]
  obtain ⟨ha, hl⟩ | ⟨i, hi, hfn, hl⟩ :=
    hsn.loadAssigned_eq realm space
  · refine .inr ⟨ha, ?_⟩
    rw [hl]
    cases hf : a.firstFree (a.usedSubnets files) with
    | ok subnet =>
      obtain ⟨i, hi, rfl, hu, hlw⟩ := hsn.lowest_of_firstFree hf
      exact .inl ⟨i, hi, hu, hlw, rfl⟩
    | error cause =>
      obtain ⟨⟨detail, rfl⟩, ht⟩ := hsn.exhausted_of_firstFree hf
      exact .inr ⟨ht, detail, rfl⟩
  · refine .inl ⟨i, hi, hfn, ?_⟩
    rw [hl]
    simp only [candidate_text_ne_empty, ne_eq, not_false_eq_true, if_true]

theorem step (call : SubnetCall) : Sound a (a.step files call) := by
  cases call with
  | allocate realm space =>
    rw [SubnetAllocator.step]
    obtain ⟨_, _, hd⟩ | ⟨⟨hr, hs⟩, ⟨_, _, _, hd⟩ | ⟨_,
      ⟨i, hi, hu, _, hd⟩ | ⟨_, _, hd⟩⟩⟩ := hsn.allocate_cases realm space
    · rw [hd]
      exact hsn
    · rw [hd]
      exact hsn
    · rw [hd]
      exact hsn.writeSubnetState hi hu hr hs
    · rw [hd]
      exact hsn
  | release realm space =>
    rw [SubnetAllocator.step, release]
    split
    · exact hsn
    · exact hsn.filter _

theorem run (history : List SubnetCall) :
    Sound a (Runs.run a.step files history) := by
  induction history generalizing files with
  | nil => exact hsn
  | cons call rest ih => exact ih (hsn.step call)

theorem lookup_step (hf : files.lookup key = some file)
    {call : SubnetCall} (hn : call ≠ .release key.1 key.2) :
    (a.step files call).lookup key = some file := by
  have hk : ∀ other, other ≠ key →
      (key, file) ∈ files.filter fun entry => entry.1 ≠ other := by
    intro other hd
    exact List.mem_filter.mpr ⟨mem_of_lookup hf, by simpa using hd.symm⟩
  have hm : (key, file) ∈ a.step files call := by
    cases call with
    | allocate realm space =>
      rw [SubnetAllocator.step]
      obtain ⟨_, _, hdn⟩ | ⟨_, ⟨_, _, _, hdn⟩ | ⟨ha,
        ⟨i, _, _, _, hdn⟩ | ⟨_, _, hdn⟩⟩⟩ := hsn.allocate_cases realm space
      · rw [hdn]
        exact mem_of_lookup hf
      · rw [hdn]
        exact mem_of_lookup hf
      · rw [hdn]
        refine List.mem_cons_of_mem _ (hk _ ?_)
        rintro rfl
        rw [ha] at hf
        cases hf
      · rw [hdn]
        exact mem_of_lookup hf
    | release realm space =>
      rw [SubnetAllocator.step, release]
      split
      · exact mem_of_lookup hf
      · refine hk _ ?_
        rintro rfl
        exact hn rfl
  exact Keyed.lookup_of_mem (hsn.step call).keys hm

theorem lookup_run (hf : files.lookup key = some file)
    {more : List SubnetCall} (hn : .release key.1 key.2 ∉ more) :
    (Runs.run a.step files more).lookup key = some file := by
  induction more generalizing files with
  | nil => exact hf
  | cons call rest ih =>
    have hfr : call ≠ .release key.1 key.2 := by
      rintro rfl
      exact hn List.mem_cons_self
    exact ih (hsn.step call) (hsn.lookup_step hf hfr)
      fun hl => hn (List.mem_cons_of_mem _ hl)

/-- A chunk is recorded exactly when some space is answered with it. -/
theorem recorded_iff (hin : i < a.parentSize) :
    a.chunkFile i ∈ files.map Prod.snd ↔
      ∃ realm space, a.loadAssigned files realm space = .ok (a.candidate i).text := by
  constructor
  · intro hr
    obtain ⟨entry, hm, hi⟩ := List.mem_map.mp hr
    refine ⟨entry.1.1, entry.1.2, ?_⟩
    rw [loadAssigned, Keyed.lookup_of_mem hsn.keys hm, hi, readState_chunkFile]
  · rintro ⟨realm, space, hl⟩
    obtain ⟨_, he⟩ | ⟨j, ho, hf, ha⟩ :=
      hsn.loadAssigned_eq realm space
    · rw [hl, Except.ok.injEq] at he
      exact absurd he (candidate_text_ne_empty i)
    · rw [hl, Except.ok.injEq] at ha
      rw [candidate_text_injective hin ho ha]
      exact List.mem_map_of_mem (mem_of_lookup hf)

theorem lookup_of_assigned {subnet : Block}
    (hl : a.loadAssigned files realm space = .ok subnet.text) :
    ∃ i < a.parentSize, files.lookup (realm, space) = some (a.chunkFile i) ∧
      subnet = a.candidate i := by
  obtain ⟨_, he⟩ | ⟨i, hi, hf, ha⟩ :=
    hsn.loadAssigned_eq realm space
  · rw [hl, Except.ok.injEq] at he
    have hs : '/' ∈ subnet.text.toList := by
      simp [Block.text]
    rw [he] at hs
    cases hs
  · rw [hl, Except.ok.injEq] at ha
    exact ⟨i, hi, hf, Block.text_injective ha⟩

theorem assigned_disjoint {realm' space' : String}
    {subnet subnet' : Block} (hd : (realm, space) ≠ (realm', space'))
    (hld : a.loadAssigned files realm space = .ok subnet.text)
    (hl : a.loadAssigned files realm' space' = .ok subnet'.text) (address : Address) :
    ¬ (subnet.covers address = true ∧ subnet'.covers address = true) := by
  obtain ⟨i, hi, hfn, rfl⟩ := hsn.lookup_of_assigned hld
  obtain ⟨j, ho, hf, rfl⟩ := hsn.lookup_of_assigned hl
  apply candidate_disjoint hi ho
  rintro rfl
  -- Two entries with one file are one entry, so they have one key.
  have hsm := List.inj_on_of_nodup_map hsn.distinct (mem_of_lookup hfn)
    (mem_of_lookup hf) rfl
  exact hd (congrArg Prod.fst hsm)

theorem assigned_kept {subnet : Block}
    (hl : a.loadAssigned files realm space = .ok subnet.text) {more : List SubnetCall}
    (hn : .release realm space ∉ more) :
    a.loadAssigned (Runs.run a.step files more) realm space = .ok subnet.text ∧
      (a.allocate (Runs.run a.step files more) realm space).1 = .ok subnet.text := by
  obtain ⟨i, hi, hf, rfl⟩ := hsn.lookup_of_assigned hl
  have hlt := hsn.lookup_run hf hn
  have hs := hsn.run more
  have ha : a.loadAssigned (Runs.run a.step files more) realm space =
      .ok (a.candidate i).text := by
    rw [loadAssigned, hlt, readState_chunkFile]
  refine ⟨ha, ?_⟩
  obtain ⟨hr, hsn⟩ := hs.named _ (mem_of_lookup hlt)
  unfold allocate
  rw [if_neg hr, if_neg hsn, ha]
  simp only [candidate_text_ne_empty, ne_eq, not_false_eq_true, if_true]

theorem lookup_eq_none (hu : a.loadAssigned files realm space = .ok "") :
    files.lookup (realm, space) = none := by
  obtain ⟨hab, _⟩ | ⟨i, _, _, ha⟩ :=
    hsn.loadAssigned_eq realm space
  · exact hab
  · rw [hu, Except.ok.injEq] at ha
    exact absurd ha.symm (candidate_text_ne_empty i)

theorem allocate_fresh (hun : a.loadAssigned files realm space = .ok "") {subnet : String} :
    (a.allocate files realm space).1 = .ok subnet ↔
      (trimSpace realm ≠ "" ∧ trimSpace space ≠ "") ∧
        ∃ i < a.parentSize, subnet = (a.candidate i).text ∧
          a.chunkFile i ∉ files.map Prod.snd ∧ ∀ j < i, a.chunkFile j ∈ files.map Prod.snd := by
  have ha := hsn.lookup_eq_none hun
  obtain ⟨hb, _, hd⟩ | ⟨hn, ⟨_, _, hf, _⟩ | ⟨_,
    ⟨i, hin, hu, hlw, hd⟩ | ⟨ht, _, hd⟩⟩⟩ := hsn.allocate_cases realm space
  · rw [hd]
    constructor
    · intro hi
      cases hi
    · rintro ⟨⟨hr, hs⟩, _⟩
      rcases hb with hb | hb
      · exact absurd hb hr
      · exact absurd hb hs
  · rw [ha] at hf
    cases hf
  · rw [hd]
    constructor
    · intro hsm
      cases hsm
      exact ⟨hn, i, hin, rfl, hu, hlw⟩
    · rintro ⟨_, j, _, rfl, huj, hl⟩
      have hsm : i = j := by
        rcases Nat.lt_trichotomy i j with hls | hsm | hm
        · exact absurd (hl i hls) hu
        · exact hsm
        · exact absurd (hlw j hm) huj
      rw [hsm]
  · rw [hd]
    constructor
    · intro hi
      cases hi
    · rintro ⟨_, i, hin, _, hu, _⟩
      exact absurd (ht i hin) hu

/-- What `Allocate` answers is on record after it. -/
theorem allocate_recorded {subnet : String}
    (answered : (a.allocate files realm space).1 = .ok subnet) :
    a.loadAssigned (a.allocate files realm space).2 realm space = .ok subnet := by
  obtain ⟨_, _, done⟩ | ⟨_, ⟨i, _, found, done⟩ | ⟨_, ⟨i, _, _, _, done⟩ | ⟨_, _, done⟩⟩⟩ :=
    hsn.allocate_cases realm space
  · rw [done] at answered
    cases answered
  · rw [done] at answered ⊢
    cases answered
    rw [loadAssigned, found]
    exact readState_chunkFile _ i
  · rw [done] at answered ⊢
    cases answered
    rw [loadAssigned, SubnetAllocator.writeSubnetState, List.lookup_cons_self]
    exact readState_chunkFile _ i
  · rw [done] at answered
    cases answered

theorem allocate_exhausted :
    (∃ detail, (a.allocate files realm space).1 = .error (.subnetExhausted detail)) ↔
      (trimSpace realm ≠ "" ∧ trimSpace space ≠ "") ∧
        a.loadAssigned files realm space = .ok "" ∧
        ∀ i < a.parentSize, a.chunkFile i ∈ files.map Prod.snd := by
  obtain ⟨hb, _, hd⟩ | ⟨hn, ⟨i, _, hf, hd⟩ | ⟨ha,
    ⟨i, hin, hun, _, hd⟩ | ⟨ht, detail, hd⟩⟩⟩ := hsn.allocate_cases realm space
  · rw [hd]
    constructor
    · rintro ⟨_, hi⟩
      cases hi
    · rintro ⟨⟨hr, hs⟩, _⟩
      rcases hb with hb | hb
      · exact absurd hb hr
      · exact absurd hb hs
  · rw [hd]
    constructor
    · rintro ⟨_, hi⟩
      cases hi
    · rintro ⟨_, hu, _⟩
      rw [hsn.lookup_eq_none hu] at hf
      cases hf
  · rw [hd]
    constructor
    · rintro ⟨_, hi⟩
      cases hi
    · rintro ⟨_, _, ht⟩
      exact absurd (ht i hin) hun
  · rw [hd]
    constructor
    · intro _
      refine ⟨hn, ?_, ht⟩
      rw [loadAssigned, ha]
      rfl
    · intro _
      exact ⟨detail, rfl⟩

end Sound

end SubnetAllocator

open SubnetAllocator

/-- The subnets of every history of allocations and releases: each lies in the parent block and has
    the configured size, those of different spaces are disjoint, a space keeps its subnet until it
    is released, an answer is on record afterwards, a new subnet is the lowest free chunk, and a space
    without one is refused exactly when all chunks are taken. -/
theorem subnets_of_every_history {parseCIDR : String → Except String ParsedCIDR}
    {parentCIDR : String} {block : Block} {prefixLen : Nat}
    (parsed : parseCIDR parentCIDR = .ok (.ipv4 block)) (longer : block.bits < prefixLen)
    (fits : prefixLen ≤ 32) (apart : prefixLen - block.bits ≤ 31) (runPath : String) :
    ∃ a, newSubnetAllocator parseCIDR runPath parentCIDR prefixLen = .ok a ∧
      ∀ history : List SubnetCall, ∀ files, files = Runs.run a.step [] history →
        (∀ realm space, a.loadAssigned files realm space = .ok "" ∨
          ∃ subnet : Block, a.loadAssigned files realm space = .ok subnet.text ∧
            subnet.bits = prefixLen ∧
            ∀ address, subnet.covers address = true → block.covers address = true) ∧
        (∀ realm space realm' space' (subnet subnet' : Block),
          (realm, space) ≠ (realm', space') →
          a.loadAssigned files realm space = .ok subnet.text →
          a.loadAssigned files realm' space' = .ok subnet'.text →
          ∀ address, ¬ (subnet.covers address = true ∧ subnet'.covers address = true)) ∧
        (∀ realm space (subnet : Block), a.loadAssigned files realm space = .ok subnet.text →
          ∀ more, .release realm space ∉ more →
            a.loadAssigned (Runs.run a.step files more) realm space = .ok subnet.text ∧
            (a.allocate (Runs.run a.step files more) realm space).1 = .ok subnet.text) ∧
        (∀ realm space subnet, (a.allocate files realm space).1 = .ok subnet →
          a.loadAssigned (a.allocate files realm space).2 realm space = .ok subnet) ∧
        (∀ realm space subnet, a.loadAssigned files realm space = .ok "" →
          ((a.allocate files realm space).1 = .ok subnet ↔
            (trimSpace realm ≠ "" ∧ trimSpace space ≠ "") ∧
            ∃ i < 2 ^ (prefixLen - block.bits),
              subnet = (block.chunk prefixLen i fits).text ∧
              (∀ realm' space', a.loadAssigned files realm' space' ≠ .ok subnet) ∧
              ∀ j < i, ∃ realm' space',
                a.loadAssigned files realm' space' = .ok (block.chunk prefixLen j fits).text)) ∧
        ∀ realm space,
          (∃ detail, (a.allocate files realm space).1 = .error (.subnetExhausted detail)) ↔
            (trimSpace realm ≠ "" ∧ trimSpace space ≠ "") ∧
            a.loadAssigned files realm space = .ok "" ∧
            ∀ i < 2 ^ (prefixLen - block.bits), ∃ realm' space',
              a.loadAssigned files realm' space' = .ok (block.chunk prefixLen i fits).text := by
  obtain ⟨a, hm, net, rfl⟩ := newSubnetAllocator_eq_ok parsed longer fits runPath
  refine ⟨a, hm, ?_⟩
  rintro history files rfl
  have hs := (Sound.nil (a := a)).run history
  have hsz : a.parentSize = 2 ^ (a.prefixLen - block.bits) := by
    rw [parentSize_eq (by rw [Apart, net]; exact apart), net]
    rfl
  have hc : ∀ i, a.candidate i = block.chunk a.prefixLen i fits := candidate_eq_chunk net
  have hr : ∀ i < a.parentSize, a.chunkFile i ∈ (Runs.run a.step [] history).map Prod.snd ↔
      ∃ realm space, a.loadAssigned (Runs.run a.step [] history) realm space =
        .ok (block.chunk a.prefixLen i fits).text := by
    intro i hi
    rw [hs.recorded_iff hi, hc]
  rw [← hsz]
  refine ⟨?_, ?_, ?_, fun _ _ _ => hs.allocate_recorded, ?_, ?_⟩
  · intro realm space
    obtain ⟨_, he⟩ | ⟨i, hi, _, ha⟩ :=
      hs.loadAssigned_eq realm space
    · exact .inl he
    · refine .inr ⟨a.candidate i, ha, rfl, ?_⟩
      intro address hcv
      have hip := candidate_inside hi hcv
      rwa [net, Block.covers_network] at hip
  · intro realm space realm' space' subnet subnet' hd hl hld
    exact hs.assigned_disjoint hd hl hld
  · intro realm space subnet hl more hn
    exact hs.assigned_kept hl hn
  · intro realm space subnet hu
    rw [hs.allocate_fresh hu]
    refine and_congr_right fun _ => exists_congr fun i => and_congr_right fun hi => ?_
    rw [hc]
    refine and_congr_right fun hsm => and_congr ?_ ?_
    · rw [hr i hi, hsm]
      simp
    · exact forall₂_congr fun j hlw => hr j (hlw.trans hi)
  · intro realm space
    rw [hs.allocate_exhausted]
    exact and_congr_right fun _ => and_congr_right fun _ =>
      forall₂_congr fun i hi => hr i hi

/-- The lowest chunk is free again after its release, the second one is not. -/
def defaultHistory : List SubnetCall :=
  [.allocate "default" "alpha", .allocate "default" "beta", .release "default" "alpha"]

theorem subnets_of_default_pool :
    ∃ a, newSubnetAllocator (fun _ => .ok (.ipv4 ⟨0x0A580000#32, 16, by decide⟩)) "/opt/kukeon"
        "10.88.0.0/16" 24 = .ok a ∧
      let files := Runs.run a.step [] defaultHistory
      a.loadAssigned files "default" "beta" = .ok "10.88.1.0/24" ∧
      (a.allocate files "default" "gamma").1 = .ok "10.88.0.0/24" ∧
      a.loadAssigned (a.allocate files "default" "gamma").2 "default" "gamma" =
        .ok "10.88.0.0/24" := by
  obtain ⟨a, made, every⟩ := @subnets_of_every_history
    (fun _ => .ok (.ipv4 ⟨0x0A580000#32, 16, by decide⟩)) "10.88.0.0/16"
    ⟨0x0A580000#32, 16, by decide⟩ 24 rfl (by decide) (by decide) (by decide) "/opt/kukeon"
  obtain ⟨_, _, _, recorded, _⟩ := every defaultHistory _ rfl
  obtain rfl := Except.ok.inj (show Except.ok _ = Except.ok a from made)
  exact ⟨_, made, by decide +kernel, by decide +kernel, recorded _ _ _ (by decide +kernel)⟩

end Kukeon.Cni
