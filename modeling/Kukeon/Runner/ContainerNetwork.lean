import Kukeon.Ctr.Client
import Kukeon.Lib.Glob
import Kukeon.Naming.SpaceNetwork

/-! # The network state of one container

`purgeCNIForContainer`, `containsExactContainerID` and `processOrphanedContainers` of
`internal/controller/runner/helpers.go`. host-local keeps a reservation as a file named by its
address that holds the container ID and the interface; libcni caches a result under
`<network>-<containerID>-<interface>`. The plugin-chain DEL is left out: it goes by the exact ID.
-/

namespace Kukeon.Runner.ContainerNetwork

open GoText Naming Ctr Glob

/-- The coordinates of a container whose names were accepted, trimmed. -/
structure Place where
  realm : String
  space : String
  stack : String
  cell : String
  container : String
  accepted : ∀ name ∈ [realm, space, stack, cell, container],
    trimSpace name = name ∧ name ≠ "" ∧ hasSeparator name = false

namespace Place

def id (p : Place) : String :=
  p.space ++ "_" ++ p.stack ++ "_" ++ p.cell ++ "_" ++ p.container

def network (p : Place) : String := p.realm ++ "-" ++ p.space

theorem plain (p : Place) : ∀ name ∈ [p.realm, p.space, p.stack, p.cell, p.container],
    '_' ∉ name.toList := by
  intro name hm
  have := (p.accepted name hm).2.2
  simp_all [hasSeparator, containsChar]

theorem buildContainerdID_eq (p : Place) :
    buildContainerdID p.space p.stack p.cell p.container = some p.id := by
  have := p.accepted
  simp_all [buildContainerdID, joinNames, id, String.append_assoc]

theorem buildSpaceNetworkName_eq (p : Place) :
    buildSpaceNetworkName p.realm p.space = .ok p.network := by
  have := p.accepted
  simp_all [buildSpaceNetworkName, network]

theorem toList_id (p : Place) : p.id.toList = p.space.toList ++ '_' :: (p.stack.toList ++
    '_' :: (p.cell.toList ++ '_' :: p.container.toList)) := by
  simp [id]

end Place

inductive Drain where
  | stopped (containerID : String)
  | deleted (containerID : String)
  | purged (containerID networkName : String)
  deriving DecidableEq

def processOrphanedContainers (containers : List String) : List Drain :=
  containers.flatMap fun containerID =>
    [.stopped containerID, .deleted containerID] ++
      match split containerID '-' with
      | first :: second :: _ => [.purged containerID (first ++ "-" ++ second)]
      | _ => []

/-- The network of its own space is purged, and no other. -/
def ReleasesOwn (p : Place) : Prop :=
  ∀ networkName, .purged p.id networkName ∈ processOrphanedContainers [p.id] ↔
    networkName = p.network

theorem two_parts {text first second : String} {rest : List String}
    (hs : split text '-' = first :: second :: rest) :
    ∃ back, text.toList = (first ++ "-" ++ second).toList ++ back := by
  unfold split at hs
  obtain ⟨f, tail, hl, rfl, hm⟩ := List.map_eq_cons_iff.mp hs
  obtain ⟨s, tail, rfl, rfl, _⟩ := List.map_eq_cons_iff.mp hm
  have whole := @List.intercalate_splitOn _ text.toList _ _ '-'
  rw [hl] at whole
  cases tail with
  | nil => exact ⟨[], by simpa [List.intercalate] using whole.symm⟩
  | cons t tail =>
    refine ⟨'-' :: ['-'].intercalate (t :: tail), ?_⟩
    simpa [List.intercalate] using whole.symm

/-- The two parts are the beginning of the ID, and the ID begins with the space and an underscore,
    which neither the realm nor the space holds. -/
theorem not_releasesOwn (p : Place) : ¬ ReleasesOwn p := by
  intro own
  have there := (own p.network).mpr rfl
  unfold processOrphanedContainers at there
  rw [List.flatMap_singleton] at there
  split at there
  · next first second rest parts =>
    have same : p.network = first ++ "-" ++ second := by simpa using there
    obtain ⟨back, hb⟩ := two_parts parts
    have hr := p.plain p.realm (by simp)
    have hs := p.plain p.space (by simp)
    rw [← same, p.toList_id] at hb
    simp only [Place.network, String.toList_append] at hb
    rcases List.append_eq_append_iff.mp hb with ⟨m, hn, hx⟩ | ⟨m, hl, _⟩
    · cases m with
      | nil =>
        have := congrArg List.length hn
        simp at this
        omega
      | cons c m =>
        obtain ⟨rfl, _⟩ := List.cons.inj hx
        have hm : '_' ∈ p.realm.toList ++ "-".toList ++ p.space.toList := hn ▸ by simp
        simp [hr, hs] at hm
    · have := congrArg List.length hl
      simp at this
      omega
  · simp at there

def webApp : Place := ⟨"default", "web", "main", "api", "app", by decide⟩

def dashedApp : Place := ⟨"prod", "a-b-c", "main", "api", "app", by decide⟩

theorem orphans_purge_elsewhere :
    processOrphanedContainers [webApp.id] = [.stopped webApp.id, .deleted webApp.id] ∧
      .purged dashedApp.id "a-b" ∈ processOrphanedContainers [dashedApp.id] ∧
      buildSpaceNetworkName "a" "b" = .ok "a-b" := by
  decide +kernel

/-- The characters of `\w`. -/
def isWord (c : Char) : Bool := c.isAlphanum || c = '_'

def boundary : Option Char → Bool
  | none => true
  | some c => !isWord c

/-- A match of `(^|[^\w])<id>([^\w]|$)`, after the given character. -/
def holdsToken (id : List Char) : Option Char → List Char → Bool
  | _, [] => false
  | before, c :: rest =>
    (boundary before && id.isPrefixOf (c :: rest) && boundary ((c :: rest).drop id.length).head?) ||
      holdsToken id (some c) rest

def containsExactContainerID (content containerID : String) : Bool :=
  containerID ≠ "" &&
    (trimSpace content = containerID || holdsToken containerID.toList none content.toList)

/-- The reservations of each network as file name and content, and the names of the cache files. -/
structure NetworkFiles where
  ipam : String → List (String × String)
  results : List String

def purgeCNIForContainer (containerID networkName : String) (files : NetworkFiles) :
    NetworkFiles where
  ipam network :=
    if networkName ≠ "" ∧ network = networkName then
      (files.ipam network).filter fun file =>
        file.1 ≠ containerID && !containsExactContainerID file.2 containerID
    else files.ipam network
  results := files.results.filter fun name =>
    !matchName containerID name && !matchName (containerID ++ "-*") name

def Place.reservation (p : Place) : String := p.id ++ "\r\neth0"

def Place.cached (p : Place) : String := p.network ++ "-" ++ p.id ++ "-eth0"

/-- The purge of the one leaves the reservation and the cached result of the other. -/
def Untouched (p other : Place) : Prop :=
  ∀ (files : NetworkFiles) (address : String), containsChar address '_' = false →
    ((address, other.reservation) ∈ files.ipam other.network →
      (address, other.reservation) ∈ (purgeCNIForContainer p.id p.network files).ipam other.network) ∧
    (other.cached ∈ files.results →
      other.cached ∈ (purgeCNIForContainer p.id p.network files).results)

/-- No name has a character that means something in a pattern. -/
def Place.Plain (p : Place) : Prop :=
  ∀ name ∈ [p.space, p.stack, p.cell, p.container], Glob.Plain name.toList

/-- The ID of the one, alone or up to a dash, begins the name of the other's cache file. -/
def CacheOverlaps (p other : Place) : Prop :=
  p.space = other.network ++ "-" ++ other.space ∧ p.stack = other.stack ∧ p.cell = other.cell ∧
    (p.container = other.container ++ "-eth0" ∨
      ∃ back, (other.container ++ "-eth0").toList = p.container.toList ++ '-' :: back)

/-- They share a cell, and the name of the one is that of the other up to a character that no word
    holds; or the ID of the one leads to the cache file of the other, as a text or as a pattern. -/
def Overlaps (p other : Place) : Prop :=
  (p.realm = other.realm ∧ p.space = other.space ∧ p.stack = other.stack ∧ p.cell = other.cell ∧
    ∃ back, (other.container ++ "\r\neth0").toList = p.container.toList ++ back ∧
      boundary back.head? = true) ∨
  (p.Plain ∧ CacheOverlaps p other) ∨
  (¬ p.Plain ∧
    (matchName p.id other.cached = true ∨ matchName (p.id ++ "-*") other.cached = true))

theorem holdsToken_front {id text : List Char} {before : Option Char}
    (hh : holdsToken id before text = true) :
    ∃ front back, text = front ++ id ++ back ∧ boundary back.head? = true := by
  induction text generalizing before with
  | nil => cases hh
  | cons c rest ih =>
    simp only [holdsToken, Bool.or_eq_true, Bool.and_eq_true, List.isPrefixOf_iff_prefix] at hh
    obtain ⟨⟨_, back, hb⟩, he⟩ | later := hh
    · exact ⟨[], back, hb.symm, by simpa [← hb] using he⟩
    · obtain ⟨front, back, rfl, he⟩ := ih later
      exact ⟨c :: front, back, rfl, he⟩

theorem boundary_of_isSpace {c : Char} (hs : isSpace c = true) : boundary (some c) = true := by
  by_contra hw
  have range : 48 ≤ c.toNat ∧ c.toNat ≤ 122 := by
    simp [boundary, isWord, Char.isAlphanum, Char.isAlpha, Char.isUpper, Char.isLower,
      Char.isDigit, UInt32.le_iff_toNat_le] at hw
    by_cases hu : c = '_'
    · subst hu
      decide
    · by_contra out
      exact hu (hw (by omega) (by omega) (by omega))
  simp [isSpace] at hs
  omega

theorem trimSpace_parts (text : String) : ∃ front back,
    text.toList = front ++ (trimSpace text).toList ++ back ∧ boundary back.head? = true := by
  let body := text.toList.dropWhile isSpace
  refine ⟨text.toList.takeWhile isSpace, body.rtakeWhile isSpace, ?_, ?_⟩
  · have parts : body.rdropWhile isSpace ++ body.rtakeWhile isSpace = body :=
      List.rdropWhile_append_rtakeWhile
    have whole : text.toList.takeWhile isSpace ++ body = text.toList :=
      List.takeWhile_append_dropWhile
    rw [List.append_assoc]
    refine whole.symm.trans (congrArg _ (parts.symm.trans ?_))
    simp [trimSpace, body, List.rdropWhile]
  · cases hb : body.rtakeWhile isSpace with
    | nil => rfl
    | cons c rest => exact boundary_of_isSpace (List.mem_rtakeWhile_imp (hb ▸ List.mem_cons_self))

/-- The content holds the ID up to a boundary; from its beginning on that is enough. -/
theorem contains_infix {content id : String} (hc : containsExactContainerID content id = true) :
    ∃ front back, content.toList = front ++ id.toList ++ back ∧ boundary back.head? = true := by
  simp only [containsExactContainerID, Bool.and_eq_true, Bool.or_eq_true, decide_eq_true_eq] at hc
  obtain ⟨_, rfl | token⟩ := hc
  · exact trimSpace_parts content
  · exact holdsToken_front token

theorem contains_of_prefix {content id : String} {back : List Char} (hn : id ≠ "")
    (hc : content.toList = id.toList ++ back) (hb : boundary back.head? = true) :
    containsExactContainerID content id = true := by
  have hid : id.toList ≠ [] := by simpa using hn
  have token : holdsToken id.toList none content.toList = true := by
    cases hl : content.toList with
    | nil => simp_all
    | cons c rest =>
      unfold holdsToken
      rw [← hl, hc]
      simp [hb, show boundary none = true from rfl]
  simp [containsExactContainerID, hn, token]

/-- The parts before, between and after three separators are unique. -/
theorem parts_eq {a b c d a' b' c' d' : List Char} (ha : '_' ∉ a) (ha' : '_' ∉ a') (hb : '_' ∉ b)
    (hb' : '_' ∉ b') (hc : '_' ∉ c) (hc' : '_' ∉ c')
    (hs : a ++ '_' :: (b ++ '_' :: (c ++ '_' :: d)) =
      a' ++ '_' :: (b' ++ '_' :: (c' ++ '_' :: d'))) : a = a' ∧ b = b' ∧ c = c' ∧ d = d' := by
  have one : ∀ {x y x' y' : List Char}, '_' ∉ x → '_' ∉ x' →
      x ++ '_' :: y = x' ++ '_' :: y' → x = x' ∧ y = y' := by
    intro x y x' y' hx hx' same
    rcases Joined.eq_iff.mp same with both | ⟨m, rfl, _⟩ | ⟨m, rfl, _⟩
    · exact both
    · simp at hx
    · simp at hx'
  obtain ⟨sa, hs⟩ := one ha ha' hs
  obtain ⟨sb, hs⟩ := one hb hb' hs
  obtain ⟨sc, hs⟩ := one hc hc' hs
  exact ⟨sa, sb, sc, hs⟩

variable {p other : Place}

theorem contains_reservation (hs : p.space = other.space) :
    containsExactContainerID other.reservation p.id = true ↔
      p.stack = other.stack ∧ p.cell = other.cell ∧
        ∃ back, (other.container ++ "\r\neth0").toList = p.container.toList ++ back ∧
          boundary back.head? = true := by
  have hn : p.id ≠ "" := by
    intro he
    simpa [p.toList_id] using congrArg String.toList he
  have plain := p.plain
  have plain' := other.plain
  simp only [List.forall_mem_cons, List.not_mem_nil] at plain plain'
  have whole : other.reservation.toList = other.space.toList ++ '_' :: (other.stack.toList ++
      '_' :: (other.cell.toList ++ '_' :: (other.container ++ "\r\neth0").toList)) := by
    simp [Place.reservation, other.toList_id]
  constructor
  · intro hc
    obtain ⟨front, back, parts, hb⟩ := contains_infix hc
    have counts := congrArg (List.count '_') parts
    rw [whole] at counts parts
    rw [p.toList_id] at counts parts
    have none : '_' ∉ front := by
      rw [← List.count_eq_zero]
      simp [List.count_eq_zero.mpr, plain, plain'] at counts
      omega
    have shape := parts.symm
    simp only [List.append_assoc, List.cons_append] at shape
    rw [← List.append_assoc] at shape
    obtain ⟨_, hst, hce, hco⟩ := parts_eq (by simp [none, plain]) (by simp [plain'])
      (by simp [plain]) (by simp [plain']) (by simp [plain]) (by simp [plain']) shape
    exact ⟨String.toList_inj.mp hst, String.toList_inj.mp hce, back, hco.symm, hb⟩
  · rintro ⟨hst, hce, back, parts, hb⟩
    refine contains_of_prefix hn ?_ hb
    rw [whole, parts, p.toList_id, hs, hst, hce]
    simp

theorem cached_eq_iff {tail : List Char} : other.cached.toList = p.id.toList ++ tail ↔
    p.space = other.network ++ "-" ++ other.space ∧ p.stack = other.stack ∧ p.cell = other.cell ∧
      (other.container ++ "-eth0").toList = p.container.toList ++ tail := by
  have plain := p.plain
  have plain' := other.plain
  simp only [List.forall_mem_cons, List.not_mem_nil] at plain plain'
  have whole : other.cached.toList = (other.network ++ "-" ++ other.space).toList ++
      '_' :: (other.stack.toList ++ '_' :: (other.cell.toList ++
        '_' :: (other.container ++ "-eth0").toList)) := by
    simp [Place.cached, other.toList_id]
  rw [whole, p.toList_id]
  simp only [List.append_assoc, List.cons_append]
  constructor
  · intro same
    obtain ⟨hs, hst, hce, hco⟩ := parts_eq (by simp [Place.network, plain']) (by simp [plain])
      (by simp [plain']) (by simp [plain]) (by simp [plain']) (by simp [plain]) same
    exact ⟨(String.toList_inj.mp hs).symm, (String.toList_inj.mp hst).symm,
      (String.toList_inj.mp hce).symm, hco⟩
  · rintro ⟨hs, hst, hce, hco⟩
    rw [hs, hst, hce, hco]

theorem Place.slash_notMem_cached (other : Place) : '/' ∉ other.cached.toList := by
  have names := other.accepted
  simp only [List.forall_mem_cons, List.not_mem_nil, hasSeparator, containsChar] at names
  simp_all [Place.cached, Place.network, other.toList_id]

/-- For plain names the patterns of the purge are read off the names. -/
theorem cache_match_iff (plain : p.Plain) :
    matchName p.id other.cached = true ∨ matchName (p.id ++ "-*") other.cached = true ↔
      CacheOverlaps p other := by
  have hid : Glob.Plain p.id.toList := by
    simp only [Place.Plain, List.forall_mem_cons, List.not_mem_nil] at plain
    intro c member
    rw [p.toList_id] at member
    simp only [List.mem_append, List.mem_cons] at member
    rcases member with hc | rfl | hc | rfl | hc | rfl | hc
    exacts [plain.1 c hc, by decide, plain.2.1 c hc, by decide, plain.2.2.1 c hc, by decide,
      plain.2.2.2.1 c hc]
  have hdash : Glob.Plain (p.id ++ "-").toList := by
    intro c member
    rw [String.toList_append, List.mem_append] at member
    rcases member with hc | hc
    · exact hid c hc
    · cases List.mem_singleton.mp hc
      decide
  have hsplit : p.id ++ "-*" = p.id ++ "-" ++ "*" := by rw [String.append_assoc]; rfl
  have exact_iff := @cached_eq_iff p other []
  have dash_iff := fun back => @cached_eq_iff p other ('-' :: back)
  rw [matchName_plain hid, hsplit, matchName_star hdash, ← String.toList_inj]
  simp only [List.append_nil] at exact_iff
  have tails : ∀ back, (p.id ++ "-").toList ++ back = p.id.toList ++ '-' :: back := by simp
  simp only [exact_iff, tails]
  constructor
  · rintro (⟨hs, hst, hce, hco⟩ | ⟨back, hit, _⟩)
    · exact ⟨hs, hst, hce, .inl (String.toList_inj.mp hco).symm⟩
    · obtain ⟨hs, hst, hce, hco⟩ := (dash_iff back).mp hit
      exact ⟨hs, hst, hce, .inr ⟨back, hco⟩⟩
  · rintro ⟨hs, hst, hce, rfl' | ⟨back, hco⟩⟩
    · exact .inl ⟨hs, hst, hce, by rw [rfl']⟩
    · have hit := (dash_iff back).mpr ⟨hs, hst, hce, hco⟩
      refine .inr ⟨back, hit, fun member => other.slash_notMem_cached ?_⟩
      rw [hit]
      simp [member]

theorem untouched_iff (hd : p.network = other.network → p.realm = other.realm ∧
    p.space = other.space) : Untouched p other ↔ ¬ Overlaps p other := by
  constructor
  · intro kept overlap
    obtain ⟨reserved, cached⟩ := kept
      ⟨fun _ => [("10.0.0.1", other.reservation)], [other.cached]⟩ "10.0.0.1" (by decide)
    have cached := cached (by simp)
    simp only [purgeCNIForContainer, List.mem_filter, Bool.and_eq_true, Bool.not_eq_true'] at cached
    have missed : ¬ (matchName p.id other.cached = true ∨
        matchName (p.id ++ "-*") other.cached = true) := by simp [cached.2]
    rcases overlap with ⟨hr, hs, hst, hce, hco⟩ | ⟨plain, hit⟩ | ⟨_, hit⟩
    · have hc := (contains_reservation hs).mpr ⟨hst, hce, hco⟩
      have same : other.network = p.network := by rw [Place.network, Place.network, hr, hs]
      have := reserved (by simp)
      simp [purgeCNIForContainer, same, hc, show p.network ≠ "" from
        networkName_ne_empty _ _] at this
    · exact missed ((cache_match_iff plain).mpr hit)
    · exact missed hit
  · intro hn files address plain
    obtain ⟨apart, hits⟩ := not_or.mp hn
    have missed : ¬ (matchName p.id other.cached = true ∨
        matchName (p.id ++ "-*") other.cached = true) := by
      intro hit
      by_cases hp : p.Plain
      · exact hits (.inl ⟨hp, (cache_match_iff hp).mp hit⟩)
      · exact hits (.inr ⟨hp, hit⟩)
    simp only [purgeCNIForContainer]
    refine ⟨fun hm => ?_, fun hm => ?_⟩
    · split
      · next same =>
        obtain ⟨hr, hs⟩ := hd same.2.symm
        have hne : address ≠ p.id := by
          rintro rfl
          simp [containsChar, p.toList_id] at plain
        have hnc : ¬ containsExactContainerID other.reservation p.id = true :=
          fun hc => apart ⟨hr, hs, (contains_reservation hs).mp hc⟩
        simp [hm, hne, hnc]
      · exact hm
    · simp_all

def dashedSibling : Place := ⟨"default", "web", "main", "api", "app-2", by decide⟩

def proxy : Place := ⟨"default", "web", "main", "api", "proxy", by decide⟩

/-- Two containers of one cell whose names do not begin alike. -/
theorem untouched_sibling : Untouched webApp proxy := by
  refine (untouched_iff (by decide)).mpr ?_
  have plain : webApp.Plain := by simp [Place.Plain, Glob.Plain, webApp]
  rintro (⟨_, _, _, _, back, names, _⟩ | ⟨_, space, _⟩ | ⟨wild, _⟩)
  · simp [webApp, proxy] at names
  · exact absurd space (by decide)
  · exact wild plain

theorem sibling_reservation_removed :
    (purgeCNIForContainer webApp.id webApp.network
      ⟨fun _ => [("10.0.0.2", webApp.reservation), ("10.0.0.3", dashedSibling.reservation)],
        []⟩).ipam webApp.network = [] := by
  decide +kernel

end Kukeon.Runner.ContainerNetwork
