import Kukeon.Lib.Runs
import Kukeon.Runner.Metadata

/-! # No spec update is lost

Writers that carry the generation they read, on a document that is never deleted. A swap goes
through only on the content that the check has seen, so that at this moment the token was no older
than the generation on disk; and of two documents with one generation the specs are the same.
-/

/-! ## The file of a document

`ReadRaw`, `WriteMetadataCAS` and `DeleteMetadata` of `internal/metadata` run under the lock of the
file, so that each is one step. Between the steps of one writer those of others may come. -/

namespace Kukeon.Runner

open ModelHub

structure DocFormat (D S B : Type) extends DocAccess D S where
  encode : D → B
  decode : B → Except String D

/-- What a decoded document shows is what was encoded: its generation and the encoding of its
    spec. -/
structure DocFormat.Lawful {D S B : Type} (format : DocFormat D S B) : Prop where
  generation_set : ∀ doc generation,
    format.generation (format.setGeneration doc generation) = generation
  specOf_set : ∀ doc generation, format.specOf (format.setGeneration doc generation) =
    format.specOf doc
  decode_encode : ∀ doc, ∃ back, format.decode (format.encode doc) = .ok back ∧
    format.generation back = format.generation doc ∧ format.specOf back = format.specOf doc

section Write

variable {D S B : Type} [DecidableEq S] [DecidableEq B] (format : DocFormat D S B)

/-- `writeDocWithGeneration` up to the swap: the document to store, for the content it has read. -/
def prepareWrite (prior : Option B) (doc : D) : Except WriteError D :=
  match prior with
  | none => writeDocWithGeneration format.toDocAccess none doc
  | some bytes =>
    match format.decode bytes with
    | .error text => .error (.io ("decode prior metadata: " ++ text))
    | .ok priorDoc => writeDocWithGeneration format.toDocAccess (some priorDoc) doc

/-- The content after the swap, or nothing when the file has changed (`ErrStaleResource`). -/
def writeMetadataCAS (prior : Option B) (doc : D) (file : Option B) : Option B :=
  if file = prior then some (format.encode doc) else none

end Write

def cellFormat : DocFormat ModelHub.Cell ModelHub.CellSpec ModelHub.Cell :=
  { cellAccess with encode := id, decode := .ok }

theorem cellFormat_lawful : cellFormat.Lawful :=
  ⟨fun _ _ => rfl, fun _ _ => rfl, fun doc => ⟨doc, rfl, rfl, rfl⟩⟩

/-- A write between its two steps: the content it has read and the document it will store. -/
structure StagedWrite (D B : Type) where
  prior : Option B
  doc : D

structure Writer (D B : Type) where
  /-- The document it read, or built. -/
  base : D
  /-- Which of the documents that were created at the path it read; none if it built its own. -/
  incarnation : Option Nat
  staged : Option (StagedWrite D B) := none

structure DocFile (W D B : Type) where
  file : Option B := none
  /-- How many documents were created at the path. -/
  incarnations : Nat := 0
  /-- How many writes over an existing document have changed its spec. -/
  specWrites : Nat := 0
  writers : W → Option (Writer D B) := fun _ => none

inductive FileStep (W D : Type) where
  | read (writer : W)
  | build (writer : W) (doc : D)
  /-- The writer begins to write `doc`. -/
  | check (writer : W) (doc : D)
  /-- It goes on to the swap, which the file system may fail. -/
  | swap (writer : W) (fault : Bool)
  | delete

namespace DocFile

variable {W D S B : Type} [DecidableEq W] [DecidableEq S] [DecidableEq B]
  (format : DocFormat D S B)

def onDisk (docFile : DocFile W D B) : Option D :=
  docFile.file.bind fun bytes => (format.decode bytes).toOption

def hold (docFile : DocFile W D B) (writer : W) (inHand : Writer D B) : DocFile W D B :=
  { docFile with writers := Function.update docFile.writers writer (some inHand) }

def swapped (docFile : DocFile W D B) (doc : D) (bytes : B) : DocFile W D B :=
  { docFile with
    file := some bytes
    incarnations :=
      if docFile.file = none then docFile.incarnations + 1 else docFile.incarnations
    specWrites :=
      match docFile.onDisk format with
      | none => docFile.specWrites
      | some prior =>
        if format.specOf prior = format.specOf doc then docFile.specWrites
        else docFile.specWrites + 1 }

/-- The end of a write. Failed or refused, it leaves the file as it was. -/
def swap (docFile : DocFile W D B) (staged : StagedWrite D B) (fault : Bool) : DocFile W D B :=
  match if fault then none else writeMetadataCAS format staged.prior staged.doc docFile.file with
  | none => docFile
  | some bytes => docFile.swapped format staged.doc bytes

def step (docFile : DocFile W D B) : FileStep W D → DocFile W D B
  | .read writer =>
    match docFile.onDisk format with
    | none => docFile
    | some doc =>
      docFile.hold writer { base := doc, incarnation := some docFile.incarnations }
  | .build writer doc => docFile.hold writer { base := doc, incarnation := none }
  | .check writer doc =>
    match docFile.writers writer with
    | none => docFile
    | some inHand =>
      match prepareWrite format docFile.file doc with
      | .error _ => docFile.hold writer { inHand with staged := none }
      | .ok stamped =>
        docFile.hold writer { inHand with staged := some ⟨docFile.file, stamped⟩ }
  | .swap writer fault =>
    match docFile.writers writer with
    | none => docFile
    | some inHand =>
      match inHand.staged with
      | none => docFile
      | some staged =>
        (docFile.hold writer { inHand with staged := none }).swap format staged fault
  | .delete => { docFile with file := none }

/-- The writer has a write staged, and the swap finds the content that the write has read. -/
def Succeeds (docFile : DocFile W D B) (writer : W) (fault : Bool) : Prop :=
  ∃ inHand staged, docFile.writers writer = some inHand ∧ inHand.staged = some staged ∧
    fault = false ∧ docFile.file = staged.prior

def created (doc : D) : DocFile W D B where
  file := some (format.encode (format.setGeneration doc firstGeneration))
  incarnations := 1

variable {format}

/-- Every write carries the generation that its writer has read, and nothing is deleted or built. -/
def Versioned (format : DocFormat D S B) (docFile : DocFile W D B) : FileStep W D → Prop
  | .read _ | .swap _ _ => True
  | .check writer doc => ∀ inHand, docFile.writers writer = some inHand →
      format.generation doc = format.generation inHand.base
  | .build _ _ | .delete => False

/-- A document as the token rule sees it: no newer than the one on disk, and with its spec if it is
    as new. -/
structure Older (format : DocFormat D S B) (base disk : D) : Prop where
  positive : 0 < format.generation base
  le : format.generation base ≤ format.generation disk
  sameSpec : format.generation base = format.generation disk →
    format.specOf base = format.specOf disk

structure Checked (format : DocFormat D S B) (base : D) (staged : StagedWrite D B) (prior : D) :
    Prop where
  token : format.generation prior ≤ format.generation base
  stamp : format.generation staged.doc =
    if format.specOf prior = format.specOf staged.doc then format.generation prior
    else format.generation prior + 1

/-- The generation on disk counts the spec changes, and every writer has read an older document. -/
structure Sequenced (format : DocFormat D S B) (docFile : DocFile W D B) : Prop where
  disk : ∃ doc, docFile.onDisk format = some doc ∧
    format.generation doc = 1 + docFile.specWrites
  older : ∀ writer inHand doc, docFile.writers writer = some inHand →
    docFile.onDisk format = some doc → Older format inHand.base doc
  checked : ∀ writer inHand staged, docFile.writers writer = some inHand →
    inHand.staged = some staged → ∃ bytes prior, staged.prior = some bytes ∧
      format.decode bytes = .ok prior ∧ Checked format inHand.base staged prior

variable {docFile : DocFile W D B} {writer : W}

omit [DecidableEq W] [DecidableEq S] [DecidableEq B] in
theorem onDisk_some {doc : D} (ht : docFile.onDisk format = some doc) :
    ∃ bytes, docFile.file = some bytes ∧ format.decode bytes = .ok doc := by
  unfold onDisk at ht
  obtain ⟨bytes, hi, hd⟩ := Option.bind_eq_some_iff.mp ht
  refine ⟨bytes, hi, ?_⟩
  cases hr : format.decode bytes with
  | error text =>
    rw [hr] at hd
    cases hd
  | ok back =>
    rw [hr] at hd
    cases hd
    rfl

omit [DecidableEq B] in
theorem Sequenced.hold (hs : docFile.Sequenced format) {inHand : Writer D B}
    (ho : ∀ doc, docFile.onDisk format = some doc → Older format inHand.base doc)
    (hc : ∀ staged, inHand.staged = some staged → ∃ bytes prior,
      staged.prior = some bytes ∧ format.decode bytes = .ok prior ∧
        Checked format inHand.base staged prior) :
    (docFile.hold writer inHand).Sequenced format where
  disk := hs.disk
  older := by
    intro other holding doc hi ht
    by_cases hsm : other = writer
    · subst hsm
      simp only [DocFile.hold, Function.update_self, Option.some.injEq] at hi
      exact hi ▸ ho doc ht
    · simp only [DocFile.hold, Function.update_of_ne hsm] at hi
      exact hs.older other holding doc hi ht
  checked := by
    intro other holding staged hi his
    by_cases hsm : other = writer
    · subst hsm
      simp only [DocFile.hold, Function.update_self, Option.some.injEq] at hi
      subst hi
      exact hc staged his
    · simp only [DocFile.hold, Function.update_of_ne hsm] at hi
      exact hs.checked other holding staged hi his

omit [DecidableEq B] in
theorem checked_of_prepareWrite (hl : format.Lawful) {bytes : B} {prior doc stamped base : D}
    (hd : format.decode bytes = .ok prior)
    (hp : prepareWrite format (some bytes) doc = .ok stamped)
    (hc : format.generation doc = format.generation base)
    (hps : 0 < format.generation base) :
    Checked format base ⟨some bytes, stamped⟩ prior := by
  unfold prepareWrite at hp
  simp only [hd] at hp
  obtain ⟨hf, hs⟩ := writeDocWithGeneration_some hp
  have hsp : format.specOf stamped = format.specOf doc := by
    rw [hs]
    exact hl.specOf_set _ _
  refine ⟨?_, ?_⟩
  · rw [hc] at hf
    exact not_lt.mp fun hb => hf ⟨hps, hb⟩
  · change format.generation stamped =
      if format.specOf prior = format.specOf stamped then _ else _
    rw [hsp, hs]
    exact hl.generation_set _ _

omit [DecidableEq W] [DecidableEq B] in
theorem onDisk_swapped (hl : format.Lawful) (docFile : DocFile W D B) (doc : D) :
    ∃ back, (docFile.swapped format doc (format.encode doc)).onDisk format = some back ∧
      format.generation back = format.generation doc ∧ format.specOf back = format.specOf doc := by
  obtain ⟨back, hd, hg, hs⟩ := hl.decode_encode doc
  refine ⟨back, ?_, hg, hs⟩
  unfold onDisk swapped
  simp [hd, Except.toOption]

omit [DecidableEq W] [DecidableEq B] in
theorem Sequenced.swapped (hl : format.Lawful) (hs : docFile.Sequenced format)
    {prior base : D} (ht : docFile.onDisk format = some prior) {staged : StagedWrite D B}
    (hch : Checked format base staged prior) :
    (docFile.swapped format staged.doc (format.encode staged.doc)).Sequenced format := by
  obtain ⟨disk, ho, hc⟩ := hs.disk
  cases Option.some.inj (ho.symm.trans ht)
  obtain ⟨back, ha, hg, hsp⟩ := onDisk_swapped hl docFile staged.doc
  have hst := hch.stamp
  refine ⟨⟨back, ha, ?_⟩, ?_, hs.checked⟩
  · rw [hg, hst]
    unfold DocFile.swapped
    simp only [ht]
    split
    · exact hc
    · rw [hc]
      omega
  · intro writer inHand doc hih hi
    cases Option.some.inj (ha.symm.trans hi)
    obtain ⟨hp, le, hss⟩ := hs.older writer inHand prior hih ht
    by_cases hu : format.specOf prior = format.specOf staged.doc
    · rw [if_pos hu] at hst
      refine ⟨hp, ?_, ?_⟩
      · rw [hg, hst]
        exact le
      · intro han
        rw [hg, hst] at han
        rw [hss han, hu, hsp]
    · -- The generation has moved past everything that was read before.
      rw [if_neg hu] at hst
      refine ⟨hp, ?_, ?_⟩
      · rw [hg, hst]
        exact le.trans (by omega)
      · intro han
        rw [hg, hst] at han
        omega

theorem swap_succeeds {fault : Bool} {inHand : Writer D B} {staged : StagedWrite D B}
    (hih : docFile.writers writer = some inHand) (hi : inHand.staged = some staged)
    (hn : fault = false) (hu : docFile.file = staged.prior) :
    docFile.step format (.swap writer fault) =
      (docFile.hold writer { inHand with staged := none }).swapped format staged.doc
        (format.encode staged.doc) := by
  have hs : (docFile.hold writer { inHand with staged := none }).file = staged.prior := hu
  unfold step
  simp only [hih, hi]
  unfold DocFile.swap writeMetadataCAS
  rw [hn, hs]
  simp

/-- A write whose check passed and whose swap goes through, in terms of the file before it. -/
theorem Sequenced.succeeds (hs : docFile.Sequenced format) {fault : Bool}
    (hsc : docFile.Succeeds writer fault) :
    ∃ inHand staged prior, docFile.writers writer = some inHand ∧
      inHand.staged = some staged ∧ docFile.onDisk format = some prior ∧
        Checked format inHand.base staged prior ∧
          docFile.step format (.swap writer fault) =
            (docFile.hold writer { inHand with staged := none }).swapped format staged.doc
              (format.encode staged.doc) := by
  obtain ⟨inHand, staged, hih, hi, hn, hu⟩ := hsc
  obtain ⟨bytes, prior, hsn, hd, hc⟩ := hs.checked writer inHand staged hih
    hi
  refine ⟨inHand, staged, prior, hih, hi, ?_, hc, ?_⟩
  · unfold onDisk
    rw [hu, hsn]
    simp [hd, Except.toOption]
  · exact swap_succeeds hih hi hn hu

variable (format) in
theorem step_swap_fails {fault : Bool} (hf : ¬ docFile.Succeeds writer fault) :
    docFile.step format (.swap writer fault) = docFile ∨
      ∃ inHand, docFile.writers writer = some inHand ∧
        docFile.step format (.swap writer fault) =
          docFile.hold writer { inHand with staged := none } := by
  cases hih : docFile.writers writer with
  | none =>
    refine .inl ?_
    unfold step
    simp only [hih]
  | some inHand =>
    cases hi : inHand.staged with
    | none =>
      refine .inl ?_
      unfold step
      simp only [hih, hi]
    | some staged =>
      refine .inr ⟨inHand, rfl, ?_⟩
      unfold step
      simp only [hih, hi]
      unfold DocFile.swap writeMetadataCAS
      cases fault with
      | true => rfl
      | false =>
        have hc : (docFile.hold writer { inHand with staged := none }).file ≠
            staged.prior := by
          intro hs
          exact hf ⟨inHand, staged, hih, hi, rfl, hs⟩
        simp only [Bool.false_eq_true, if_false, hc]

/-- Only a swap that goes through, and a deletion, change the file. -/
theorem file_step (docFile : DocFile W D B) (fileStep : FileStep W D) (hk : fileStep ≠ .delete)
    (hf : ∀ writer fault, fileStep = .swap writer fault → ¬ docFile.Succeeds writer fault) :
    (docFile.step format fileStep).file = docFile.file := by
  cases fileStep with
  | delete => exact absurd rfl hk
  | build writer doc => rfl
  | read writer =>
    unfold step
    dsimp only
    split <;> rfl
  | check writer doc =>
    unfold step
    dsimp only
    split
    · rfl
    · split <;> rfl
  | swap writer fault =>
    rcases step_swap_fails format (hf writer fault rfl) with hs | ⟨inHand, _, hs⟩
    · rw [hs]
    · rw [hs]
      rfl

theorem Sequenced.step (hl : format.Lawful) (hs : docFile.Sequenced format)
    {fileStep : FileStep W D} (hv : docFile.Versioned format fileStep) :
    (docFile.step format fileStep).Sequenced format := by
  obtain ⟨disk, ht, hcn⟩ := hs.disk
  cases fileStep with
  | delete => exact hv.elim
  | build writer doc => exact hv.elim
  | read writer =>
    unfold DocFile.step
    simp only [ht]
    refine hs.hold ?_ (fun _ hn => by cases hn)
    intro doc hi
    cases Option.some.inj (ht.symm.trans hi)
    refine ⟨?_, le_refl _, fun _ => rfl⟩
    rw [hcn]
    omega
  | check writer doc =>
    unfold DocFile.step
    dsimp only
    split
    · exact hs
    · next inHand hih =>
      have ho := fun doc hi => hs.older writer inHand doc hih hi
      split
      · exact hs.hold ho (fun _ hn => by cases hn)
      · next stamped hp =>
        refine hs.hold ho ?_
        intro staged hsm
        cases hsm
        obtain ⟨bytes, hif, hd⟩ := onDisk_some ht
        rw [hif] at hp
        exact ⟨bytes, disk, hif, hd, hif ▸ checked_of_prepareWrite hl hd
          hp (hv inHand hih) (ho disk ht).positive⟩
  | swap writer fault =>
    by_cases hsc : docFile.Succeeds writer fault
    · obtain ⟨inHand, staged, prior, hih, his, hip, hc, hst⟩ :=
        hs.succeeds hsc
      rw [hst]
      have hr :
          (docFile.hold writer { inHand with staged := none }).Sequenced format := by
        refine hs.hold ?_ (fun _ hn => by cases hn)
        exact fun doc hi => hs.older writer inHand doc hih hi
      exact hr.swapped hl hip hc
    · rcases step_swap_fails format hsc with hsm | ⟨inHand, hih, hsm⟩
      · rw [hsm]
        exact hs
      · rw [hsm]
        exact hs.hold
          (fun doc hi => hs.older writer inHand doc hih hi)
          (fun _ hn => by cases hn)

omit [DecidableEq W] [DecidableEq B] in
theorem specWrites_le_swapped (docFile : DocFile W D B) (doc : D) (bytes : B) :
    docFile.specWrites ≤ (docFile.swapped format doc bytes).specWrites := by
  unfold swapped
  dsimp only
  split
  · exact le_refl _
  · split
    · exact le_refl _
    · exact Nat.le_succ _

omit [DecidableEq W] [DecidableEq B] in
theorem sequenced_created (hl : format.Lawful) (doc : D) :
    (created format doc : DocFile W D B).Sequenced format where
  disk := by
    obtain ⟨back, hd, hg, _⟩ :=
      hl.decode_encode (format.setGeneration doc firstGeneration)
    refine ⟨back, ?_, ?_⟩
    · unfold onDisk created
      simp [hd, Except.toOption]
    · rw [hg, hl.generation_set]
      rfl
  older := by
    intro writer inHand doc hi
    cases hi
  checked := by
    intro writer inHand staged hi
    cases hi

end DocFile

/-- Through every interleaving of versioned writers the generation on disk is one more than the number
    of spec changes and never decreases, a write that changes the spec is based on the spec it
    replaces, and every other step leaves the file as it was. -/
theorem no_spec_update_lost {W D S B : Type} [DecidableEq W] [DecidableEq S] [DecidableEq B]
    (format : DocFormat D S B) (lawful : format.Lawful) (doc : D) (steps : List (FileStep W D))
    (versioned : Runs.Along (DocFile.step format) (DocFile.Versioned format)
      (DocFile.created format doc : DocFile W D B) steps) :
    ∀ done fileStep rest, steps = done ++ fileStep :: rest →
      let before := Runs.run (DocFile.step format) (DocFile.created format doc) done
      let after := before.step format fileStep
      ∃ disk next, before.onDisk format = some disk ∧ after.onDisk format = some next ∧
        format.generation disk = 1 + before.specWrites ∧
        format.generation next = 1 + after.specWrites ∧
        format.generation disk ≤ format.generation next ∧
        (∀ writer fault, fileStep = .swap writer fault → before.Succeeds writer fault →
          ∃ inHand staged, before.writers writer = some inHand ∧ inHand.staged = some staged ∧
            format.specOf next = format.specOf staged.doc ∧
            (format.specOf next ≠ format.specOf disk →
              format.specOf inHand.base = format.specOf disk)) ∧
        ((∀ writer fault, fileStep = .swap writer fault → ¬ before.Succeeds writer fault) →
          after.file = before.file) := by
  intro done fileStep rest hsp before after
  have hsq : before.Sequenced format :=
    versioned.invariant (fun _ _ hh ha => hh.step lawful ha)
      (DocFile.sequenced_created lawful doc) done (fileStep :: rest) hsp
  have ha := versioned done fileStep rest hsp
  have hsa : after.Sequenced format := hsq.step lawful ha
  obtain ⟨disk, hth, hcn⟩ := hsq.disk
  obtain ⟨next, ht, hc⟩ := hsa.disk
  have hk : fileStep ≠ .delete := by
    intro hd
    rw [hd] at ha
    exact ha
  have hu : (∀ writer fault, fileStep = .swap writer fault →
      ¬ before.Succeeds writer fault) → after.file = before.file :=
    DocFile.file_step before fileStep hk
  refine ⟨disk, next, hth, ht, hcn, hc, ?_, ?_, hu⟩
  · by_cases hs : ∃ writer fault, fileStep = .swap writer fault ∧ before.Succeeds writer fault
    · obtain ⟨writer, fault, hi, hs⟩ := hs
      obtain ⟨inHand, staged, _, _, _, _, _, hst⟩ := hsq.succeeds hs
      have hct : before.specWrites ≤ after.specWrites := by
        change before.specWrites ≤ (before.step format fileStep).specWrites
        rw [hi, hst]
        exact DocFile.specWrites_le_swapped
          (before.hold writer { inHand with staged := none }) staged.doc
          (format.encode staged.doc)
      rw [hcn, hc]
      omega
    · have hsm : after.file = before.file := by
        refine hu ?_
        intro writer fault hi hg
        exact hs ⟨writer, fault, hi, hg⟩
      have hsd : after.onDisk format = before.onDisk format := by
        unfold DocFile.onDisk
        rw [hsm]
      cases Option.some.inj (ht.symm.trans (hsd.trans hth))
      exact le_refl _
  · intro writer fault hi hs
    obtain ⟨inHand, staged, prior, hih, his, hip, hch, hst⟩ :=
      hsq.succeeds hs
    cases Option.some.inj (hip.symm.trans hth)
    obtain ⟨back, haf, _, hsc⟩ := DocFile.onDisk_swapped lawful
      (before.hold writer { inHand with staged := none }) staged.doc
    have hin : after.onDisk format = some back := by
      change (before.step format fileStep).onDisk format = some back
      rw [hi, hst]
      exact haf
    cases Option.some.inj (ht.symm.trans hin)
    refine ⟨inHand, staged, hih, his, hsc, ?_⟩
    intro _
    -- The token was not behind the disk, and nothing that is read is ahead of it.
    have ho := hsq.older writer inHand disk hih hth
    exact ho.sameSpec (le_antisymm ho.le hch.token)

/-- One writer names a root container, and another one that read before it is refused. -/
theorem no_spec_update_lost_of_two_writers :
    let steps : List (FileStep Bool Cell) :=
      [ .read true, .read false,
        .check true { metadata := { generation := 1 }, spec := { rootContainerID := "root" } },
        .swap true false, .check false { metadata := { generation := 1 } } ]
    let before := Runs.run (DocFile.step cellFormat) (DocFile.created cellFormat {}) steps
    ∃ disk next, before.onDisk cellFormat = some disk ∧
      (before.step cellFormat (.swap false false)).onDisk cellFormat = some next ∧
        disk.metadata.generation ≤ next.metadata.generation ∧ before.specWrites = 1 ∧
          next = disk := by
  intro steps before
  have hv : Runs.Along (DocFile.step cellFormat) (DocFile.Versioned cellFormat)
      (DocFile.created cellFormat {} : DocFile Bool Cell Cell) (steps ++ [.swap false false]) := by
    refine .cons trivial (.cons trivial (.cons ?_ (.cons trivial (.cons ?_ (.cons trivial .nil)))))
    · intro inHand hi
      cases hi
      rfl
    · intro inHand hi
      cases hi
      rfl
  obtain ⟨disk, next, hth, ht, _, _, ho, _, hu⟩ :=
    no_spec_update_lost cellFormat cellFormat_lawful {} (steps ++ [.swap false false]) hv steps
      (.swap false false) [] rfl
  have hr : ∀ writer fault, FileStep.swap (D := Cell) false false = .swap writer fault →
      ¬ before.Succeeds writer fault := by
    intro writer fault hsm hs
    cases hsm
    obtain ⟨inHand, staged, hi, his, _⟩ := hs
    cases hi
    cases his
  have hsm := hu hr
  refine ⟨disk, next, hth, ht, ho, by decide, ?_⟩
  have hsd : (before.step cellFormat (.swap false false)).onDisk cellFormat =
      before.onDisk cellFormat := by
    unfold DocFile.onDisk
    rw [hsm]
  exact Option.some.inj (ht.symm.trans (hsd.trans hth))

end Kukeon.Runner
