import Kukeon.Controller.ConfigDrift
import Kukeon.Runner.Passes
import Kukeon.Runner.SpecUpdates

/-! # Writers of a document that is gone

Generations begin at one again with every document that is created at a path, and a missing file is
taken for the first write of a creator. A writer that read a document is refused after the deletion
only if another document has taken its place and has moved past its token.
-/

namespace Kukeon.Runner

open ModelHub Effect

namespace DocFile

variable {W D S B : Type} [DecidableEq W] [DecidableEq S] [DecidableEq B]
  {format : DocFormat D S B}

/-- The document that was created as the `k`-th at the path is no longer there. -/
def Gone (docFile : DocFile W D B) (k : Nat) : Prop :=
  docFile.file = none ∨ docFile.incarnations ≠ k

def Stale (docFile : DocFile W D B) (writer : W) : Prop :=
  ∃ inHand k, docFile.writers writer = some inHand ∧ inHand.incarnation = some k ∧ docFile.Gone k

def TokenBehind (format : DocFormat D S B) (docFile : DocFile W D B) (doc : D) : Prop :=
  ∃ disk, docFile.onDisk format = some disk ∧
    0 < format.generation doc ∧ format.generation doc < format.generation disk

/-- A writer of a document that is gone begins to write only while its token is behind, and no write
    stores the very bytes that the write of such a writer has read. -/
def RefusalDue (format : DocFormat D S B) (docFile : DocFile W D B) : FileStep W D → Prop
  | .check writer doc => docFile.Stale writer → docFile.TokenBehind format doc
  | .swap writer _ => ∀ inHand mine, docFile.writers writer = some inHand →
      inHand.staged = some mine → ∀ other theirs staged, other ≠ writer → docFile.Stale other →
        docFile.writers other = some theirs → theirs.staged = some staged →
          staged.prior ≠ some (format.encode mine.doc)
  | .read _ | .build _ _ | .delete => True

/-- A staged write of a reader has seen a document, and not the content that has taken its place. -/
def Unrepeated (docFile : DocFile W D B) : Prop :=
  ∀ writer inHand k staged, docFile.writers writer = some inHand → inHand.incarnation = some k →
    inHand.staged = some staged →
      staged.prior ≠ none ∧ (docFile.Gone k → docFile.file ≠ staged.prior)

variable {docFile : DocFile W D B}

omit [DecidableEq B] in
theorem Unrepeated.hold (hu : docFile.Unrepeated) {writer : W} {inHand : Writer D B}
    (hf : ∀ k staged, inHand.incarnation = some k → inHand.staged = some staged →
      staged.prior ≠ none ∧ (docFile.Gone k → docFile.file ≠ staged.prior)) :
    (docFile.hold writer inHand).Unrepeated := by
  intro other holding k staged hi hir his
  by_cases hs : other = writer
  · subst hs
    simp only [DocFile.hold, Function.update_self, Option.some.injEq] at hi
    subst hi
    exact hf k staged hir his
  · simp only [DocFile.hold, Function.update_of_ne hs] at hi
    exact hu other holding k staged hi hir his

omit [DecidableEq W] [DecidableEq B] in
theorem prepareWrite_behind {doc : D} (hb : docFile.TokenBehind format doc) :
    ∃ err, prepareWrite format docFile.file doc = .error err := by
  obtain ⟨disk, ht, ho⟩ := hb
  obtain ⟨bytes, hi, hd⟩ := onDisk_some ht
  unfold prepareWrite writeDocWithGeneration
  rw [hi]
  simp only [hd, if_pos ho]
  exact ⟨_, rfl⟩

theorem Unrepeated.swap (hu : docFile.Unrepeated) {writer : W} {fault : Bool}
    (due : docFile.RefusalDue format (.swap writer fault)) :
    (docFile.step format (.swap writer fault)).Unrepeated := by
  by_cases hs : docFile.Succeeds writer fault
  · obtain ⟨inHand, mine, hih, his, hnf, hsn⟩ := hs
    have hst : docFile.step format (.swap writer fault) =
        (docFile.hold writer { inHand with staged := none }).swapped format mine.doc
          (format.encode mine.doc) := swap_succeeds hih his hnf hsn
    rw [hst]
    intro other theirs k staged hi hir ht
    have hn : other ≠ writer := by
      intro hsm
      subst hsm
      simp only [swapped, DocFile.hold, Function.update_self, Option.some.injEq] at hi
      subst hi
      cases ht
    simp only [swapped, DocFile.hold, Function.update_of_ne hn] at hi
    obtain ⟨hw, _⟩ := hu other theirs k staged hi hir ht
    refine ⟨hw, ?_⟩
    intro hgn
    by_cases hg : docFile.Gone k
    · exact fun hsm => due inHand mine hih his other theirs staged hn
        ⟨theirs, k, hi, hir, hg⟩ hi ht hsm.symm
    · -- The write went over the document that the other has read, so that it is not gone.
      unfold Gone at hgn hg
      rw [not_or, not_not] at hg
      simp [swapped, DocFile.hold, hg] at hgn
  · rcases step_swap_fails format hs with hsm | ⟨inHand, _, hsm⟩
    · rw [hsm]
      exact hu
    · rw [hsm]
      refine hu.hold ?_
      intro k staged _ hnn
      cases hnn

theorem Unrepeated.step (hu : docFile.Unrepeated) {fileStep : FileStep W D}
    (due : docFile.RefusalDue format fileStep) : (docFile.step format fileStep).Unrepeated := by
  cases fileStep with
  | read writer =>
    unfold DocFile.step
    dsimp only
    split
    · exact hu
    · exact hu.hold fun _ _ _ hn => by cases hn
  | build writer doc => exact hu.hold fun _ _ hn => by cases hn
  | delete =>
    intro writer inHand k staged hi hir his
    obtain ⟨hw, _⟩ := hu writer inHand k staged hi hir his
    exact ⟨hw, fun _ => hw.symm⟩
  | swap writer fault => exact hu.swap due
  | check writer doc =>
    unfold DocFile.step
    dsimp only
    split
    · exact hu
    · next inHand hi =>
      split
      · exact hu.hold fun _ _ _ hn => by cases hn
      · next stamped hp =>
        refine hu.hold ?_
        intro k staged hir hs
        cases hs
        have hc : ¬ docFile.Gone k := by
          intro hg
          obtain ⟨err, hr⟩ := prepareWrite_behind (due ⟨inHand, k, hi, hir, hg⟩)
          rw [hr] at hp
          cases hp
        exact ⟨fun hm => hc (.inl hm), fun hg => absurd hg hc⟩

omit [DecidableEq W] [DecidableEq B] in
/-- A check lets a write through to a missing file, and over a document that is not past its
    token. -/
theorem prepareWrite_ok_iff (docFile : DocFile W D B) (doc : D) :
    (∃ stamped, prepareWrite format docFile.file doc = .ok stamped) ↔
      docFile.file = none ∨ ∃ disk, docFile.onDisk format = some disk ∧
        ¬ (0 < format.generation doc ∧ format.generation doc < format.generation disk) := by
  unfold prepareWrite onDisk
  cases docFile.file with
  | none => simp [writeDocWithGeneration]
  | some bytes =>
    cases hd : format.decode bytes with
    | error text => simp [hd, Except.toOption]
    | ok prior =>
      by_cases hb : 0 < format.generation doc ∧
          format.generation doc < format.generation prior
      · simp [writeDocWithGeneration, hd, Except.toOption, hb]
      · refine iff_of_true ?_ (.inr ⟨prior, ?_, hb⟩)
        · dsimp only
          rw [hd]
          unfold writeDocWithGeneration
          dsimp only
          rw [if_neg hb]
          exact ⟨_, rfl⟩
        · simp [hd, Except.toOption]

theorem check_succeeds_iff {writer : W} {inHand : Writer D B} {doc : D}
    (hi : docFile.writers writer = some inHand) :
    (docFile.step format (.check writer doc)).Succeeds writer false ↔
      docFile.file = none ∨ ∃ disk, docFile.onDisk format = some disk ∧
        ¬ (0 < format.generation doc ∧ format.generation doc < format.generation disk) := by
  rw [← prepareWrite_ok_iff]
  unfold DocFile.step Succeeds
  simp only [hi]
  cases hp : prepareWrite format docFile.file doc with
  | error err => simp [DocFile.hold]
  | ok stamped => simp [DocFile.hold]

end DocFile

/-- A writer of a document that is gone never writes, through every run in which such writers begin
    only while their token is behind. Undisturbed, the write of such a writer goes through exactly
    when the path is empty or its token is not behind. -/
theorem stale_writers_refused {W D S B : Type} [DecidableEq W] [DecidableEq S] [DecidableEq B]
    (format : DocFormat D S B) (start : DocFile W D B) (nobody : ∀ writer, start.writers writer = none)
    (steps : List (FileStep W D))
    (due : Runs.Along (DocFile.step format) (DocFile.RefusalDue format) start steps) :
    (∀ done writer fault rest, steps = done ++ .swap writer fault :: rest →
      (Runs.run (DocFile.step format) start done).Stale writer →
        ¬ (Runs.run (DocFile.step format) start done).Succeeds writer fault) ∧
    ∀ (docFile : DocFile W D B) writer doc, docFile.Stale writer →
      ((docFile.step format (.check writer doc)).Succeeds writer false ↔
        docFile.file = none ∨ ∃ disk, docFile.onDisk format = some disk ∧
          ¬ (0 < format.generation doc ∧ format.generation doc < format.generation disk)) := by
  refine ⟨?_, ?_⟩
  · intro done writer fault rest hsp hst hs
    have hin : start.Unrepeated := by
      intro other inHand k staged hi
      rw [nobody other] at hi
      cases hi
    have hu := due.invariant (fun _ _ hh ha => hh.step ha) hin done _ hsp
    obtain ⟨inHand, k, hi, hir, hg⟩ := hst
    obtain ⟨other, staged, hio, his, _, hsn⟩ := hs
    cases Option.some.inj (hi.symm.trans hio)
    exact (hu writer inHand k staged hi hir his).2 hg hsn
  · intro docFile writer doc hst
    obtain ⟨inHand, _, hi, _⟩ := hst
    exact DocFile.check_succeeds_iff hi

/-- A document is deleted and created again while a writer has it in hand; the new one moves past the
    writer's token. -/
theorem stale_writers_refused_of_recreated :
    let cell (generation : Int) (root : String) : Cell :=
      { metadata := { generation := generation }, spec := { rootContainerID := root } }
    let steps : List (FileStep Bool Cell) :=
      [ .read true, .delete, .build false (cell 0 ""), .check false (cell 0 ""), .swap false false,
        .check false (cell 0 "root"), .swap false false, .check true (cell 1 "") ]
    let start : DocFile Bool Cell Cell := .created cellFormat (cell 0 "")
    (Runs.run (DocFile.step cellFormat) start steps).Stale true ∧
      ¬ (Runs.run (DocFile.step cellFormat) start steps).Succeeds true false := by
  intro cell steps start
  have hs : (Runs.run (DocFile.step cellFormat) start steps).Stale true :=
    ⟨_, 1, rfl, rfl, .inr (by decide)⟩
  have due : Runs.Along (DocFile.step cellFormat) (DocFile.RefusalDue cellFormat) start
      (steps ++ [.swap true false]) := by
    refine .cons trivial (.cons trivial (.cons trivial (.cons ?_ (.cons ?_ (.cons ?_ (.cons ?_
      (.cons ?_ (.cons ?_ .nil))))))))
    · rintro ⟨inHand, k, hi, hir, _⟩
      cases hi
      cases hir
    · intro inHand mine _ _ other theirs staged hn _ hit ht
      cases other with
      | false => exact absurd rfl hn
      | true =>
        cases hit
        cases ht
    · rintro ⟨inHand, k, hi, hir, _⟩
      cases hi
      cases hir
    · intro inHand mine _ _ other theirs staged hn _ hit ht
      cases other with
      | false => exact absurd rfl hn
      | true =>
        cases hit
        cases ht
    · intro _
      exact ⟨_, rfl, by decide, by decide⟩
    · intro inHand mine hi his
      cases hi
      cases his
  exact ⟨hs, (stale_writers_refused cellFormat start (fun _ => rfl) (steps ++ [.swap true false])
    due).1 steps true false [] rfl hs⟩

def configCell : Cell :=
  { failedCell with
    metadata :=
      { name := "web", generation := 1
        labels := GoMap.ofList [(Controller.labelConfig, "web")] }
    status := { state := .ready, readyObserved := true } }

/-- The verdict of the reconcile pass brings back a cell that was deleted after its tick. -/
theorem outOfSync_write_resurrects_cell :
    let pass := Controller.reconcileOne (.steady (.all .ready))
      (fun _ _ => { outOfSync := true, reason := "spec differs" }) CellHost.removed configCell
    let after := finalState pass { disk := some configCell }
    (ending pass { disk := some configCell }).toOption = some true ∧
      .deleted ∈ after.trace ∧ after.disk.isSome = true := by
  intro pass after
  refine And.intro ?_ (And.intro ?_ ?_)
  · decide
  · decide
  · decide

end Kukeon.Runner
