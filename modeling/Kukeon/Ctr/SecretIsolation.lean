import Kukeon.Ctr.SecretStaging
import Kukeon.Lib.Keyed

/-! # Isolation of staged secrets

The secrets of a container are kept apart by the names of their files alone, their mounts by the paths
they are mounted at, and the containers by their IDs. Names and paths come from the spec, where nothing
keeps two of them from being equal or a name from leading out of the directory.
-/

namespace Kukeon.Ctr.Secrets

open ModelHub (ContainerSecret)
open ApplyParser (KukeError)
open GoText HostFiles Effect

variable {daemon : Daemon} {dir path : TreePath} {index : Nat} {name value : String}
variable {host after : Host} {secret : ContainerSecret} {progress next : Progress}

def Grows (tree grown : FileTree Node) : Prop :=
  ∀ path entry, tree.read path = some entry → grown.read path = some entry

theorem writeSecretFile_ok (hd : (writeSecretFile daemon index path value host).1 = .ok ()) :
    (writeSecretFile daemon index path value host).2 =
      { tree := host.tree.put path (.file value)
        written := host.written ++ [tempPath daemon path index, path] } := by
  unfold writeSecretFile at hd ⊢
  grind

theorem writeSecretFile_written {other : TreePath}
    (hw : other ∈ (writeSecretFile daemon index path value host).2.written) :
    other ∈ host.written ∨ other = tempPath daemon path index ∨ other = path := by
  unfold writeSecretFile at hw
  grind

theorem makeDir_ok (hd : (makeDir dir host).1 = .ok ()) :
    (makeDir dir host).2.written = host.written ∧ Grows host.tree (makeDir dir host).2.tree := by
  unfold makeDir at hd ⊢
  split at hd
  case h_1 tree made => exact ⟨rfl, fun path entry ht => read_mkdirAll made ht⟩
  case h_2 => cases hd

theorem makeDir_written : (makeDir dir host).2.written = host.written := by
  unfold makeDir
  split
  · rfl
  · rfl

theorem Yields.of_staging {step : Host → Except String Unit × Host}
    (ran : Yields (staging index name step) host () after) :
    (step host).1 = .ok () ∧ after = (step host).2 := by
  obtain ⟨he, hl⟩ := Prod.mk.inj ran
  exact ⟨Outcome.mapError_eq_ok.mp he, hl.symm⟩

theorem finalState_staging (step : Host → Except String Unit × Host) :
    finalState (staging index name step) host = (step host).2 := rfl

variable {made : Bool}

theorem prepareDir_yields (ran : Yields (prepareDir dir made index name) host () after) :
    after.written = host.written ∧ Grows host.tree after.tree := by
  unfold prepareDir at ran
  cases made with
  | true =>
    cases ran
    exact ⟨rfl, fun _ _ ht => ht⟩
  | false =>
    obtain ⟨hd, rfl⟩ := Yields.of_staging ran
    exact makeDir_ok hd

/-- The host after a secret with that value was staged from a tree. -/
def staged (daemon : Daemon) (dir : TreePath) (index : Nat) (secret : ContainerSecret)
    (value : String) (base : FileTree Node) (written : List TreePath) : Host where
  tree := base.put (stagedPath dir secret) (.file value)
  written := written ++ [tempPath daemon (stagedPath dir secret) index, stagedPath dir secret]

theorem stageFile_yields (ran : Yields (stageFile daemon dir made index secret value) host () after) :
    ∃ base, Grows host.tree base ∧
      after = staged daemon dir index secret value base host.written := by
  unfold stageFile at ran
  obtain ⟨_, middle, hd, hf⟩ := ran.of_bind
  obtain ⟨hw, hl⟩ := Yields.of_staging hf
  obtain ⟨hu, hg⟩ := prepareDir_yields hd
  refine ⟨middle.tree, hg, ?_⟩
  rw [hl, writeSecretFile_ok hw, hu, staged]

theorem stageSecret_yields
    (ran : Yields (stageSecret daemon dir progress (secret, index)) host next after) :
    (isMounted secret = false ∧ after = host ∧ next.out.mountAdds = progress.out.mountAdds) ∨
      (isMounted secret = true ∧
        next.out.mountAdds = progress.out.mountAdds ++ [mountOf dir secret] ∧
        ∃ value base, readSecretValue daemon secret host.tree = .ok value ∧
          Grows host.tree base ∧
          after = staged daemon dir index secret value base host.written) := by
  unfold stageSecret at ran
  obtain ⟨_, atCheck, hc, htr⟩ := ran.of_bind
  obtain ⟨_, rfl⟩ := of_yields_ofResult hc
  obtain ⟨seen, _, hl, htv⟩ := htr.of_bind
  cases hl
  obtain ⟨value, _, hr, ht⟩ := htv.of_bind
  obtain ⟨hf, rfl⟩ := of_yields_ofResult hr
  cases hm : isMounted secret with
  | false =>
    simp only [hm] at ht
    cases ht
    exact .inl ⟨rfl, rfl, rfl⟩
  | true =>
    simp only [hm] at ht
    obtain ⟨_, _, hfl, ⟨⟩⟩ := ht.of_bind
    obtain ⟨base, hg, hlf⟩ := stageFile_yields hfl
    exact .inr ⟨rfl, rfl, value, base, hf, hg, hlf⟩

def Confined (dir : TreePath) (host : Host) : Prop := ∀ path ∈ host.written, Inside dir path

section Kept

variable {P : Host → Prop} (dirKept : ∀ host, P host → P (makeDir dir host).2)

include dirKept

theorem stageFile_keeps
    (fileKept : ∀ host, P host → P (writeSecretFile daemon index (stagedPath dir secret) value host).2)
    (start : P host) : P (finalState (stageFile daemon dir made index secret value) host) := by
  unfold stageFile
  have prepared : P (finalState (prepareDir dir made index (trimSpace secret.name)) host) := by
    unfold prepareDir
    cases made with
    | true => exact start
    | false => exact dirKept host start
  refine holds_finalState_bind prepared fun _ _ => ?_
  rw [finalState_staging]
  exact fileKept _ prepared

/-- However a round ends, it keeps what making the directory and writing its own file keep. -/
theorem stageSecret_keeps
    (fileKept : isMounted secret = true → ∀ value host, P host →
      P (writeSecretFile daemon index (stagedPath dir secret) value host).2)
    (start : P host) : P (finalState (stageSecret daemon dir progress (secret, index)) host) := by
  unfold stageSecret
  refine holds_finalState_bind ?_ fun _ _ => ?_
  · rw [finalState_ofResult]
    exact start
  rw [finalState_ofResult]
  refine holds_finalState_bind start fun seen _ => ?_
  refine holds_finalState_bind ?_ fun value _ => ?_
  · rw [finalState_ofResult]
    exact start
  rw [finalState_ofResult]
  cases hm : isMounted secret with
  | false => exact start
  | true =>
    simp only [if_true]
    have filed : P (finalState (stageFile daemon dir progress.made index secret value) host) :=
      stageFile_keeps dirKept (fileKept hm value) start
    exact holds_finalState_bind filed fun _ _ => filed

end Kept

variable {entries : List (ContainerSecret × Nat)}

def stagedPaths (dir : TreePath) (secrets : List ContainerSecret) : List TreePath :=
  (secrets.filter isMounted).map (stagedPath dir)

structure Stages (dir : TreePath) (secrets : List ContainerSecret) (progress next : Progress)
    (host after : Host) : Prop where
  mounts : next.out.mountAdds = progress.out.mountAdds ++ (secrets.filter isMounted).map (mountOf dir)
  recorded : ∀ path, path ∈ host.written ∨ path ∈ stagedPaths dir secrets → path ∈ after.written
  /-- A file that no secret is staged to stays as it is. -/
  frame : ∀ path value, path ∉ stagedPaths dir secrets → host.tree.read path = some (.file value) →
    after.tree.read path = some (.file value)

theorem read_staged {base : FileTree Node} {written : List TreePath} :
    (staged daemon dir index secret value base written).tree.read (stagedPath dir secret) =
      some (.file value) := by
  unfold staged
  rw [FileTree.read_put, if_pos rfl]

theorem stageSecret_stages
    (ran : Yields (stageSecret daemon dir progress (secret, index)) host next after) :
    Stages dir [secret] progress next host after := by
  rcases stageSecret_yields ran with ⟨hu, rfl, hm⟩ |
    ⟨hmn, hm, value, base, _, hg, rfl⟩
  · refine ⟨by simpa [hu] using hm, ?_, fun _ _ _ ht => ht⟩
    rintro path (he | hh)
    · exact he
    · simp [stagedPaths, hu] at hh
  · have hp : stagedPaths dir [secret] = [stagedPath dir secret] := by
      simp [stagedPaths, hmn]
    refine ⟨by simpa [hmn] using hm, ?_, ?_⟩
    · rintro path (he | hh)
      · exact List.mem_append_left _ he
      · rw [hp, List.mem_singleton] at hh
        simp [staged, hh]
    · intro path kept ho ht
      rw [hp, List.mem_singleton] at ho
      unfold staged
      rw [FileTree.read_put, if_neg ho]
      exact hg path _ ht

theorem Stages.trans {first rest : List ContainerSecret} {middle : Progress} {between : Host}
    (one : Stages dir first progress middle host between)
    (two : Stages dir rest middle next between after) :
    Stages dir (first ++ rest) progress next host after := by
  have hp : stagedPaths dir (first ++ rest) = stagedPaths dir first ++ stagedPaths dir rest := by
    simp [stagedPaths]
  refine ⟨?_, ?_, ?_⟩
  · rw [two.mounts, one.mounts, List.filter_append, List.map_append, List.append_assoc]
  · intro path hh
    rw [hp, List.mem_append] at hh
    rcases hh with he | hhr | hl
    · exact two.recorded path (.inl (one.recorded path (.inl he)))
    · exact two.recorded path (.inl (one.recorded path (.inr hhr)))
    · exact two.recorded path (.inr hl)
  · intro path value ho ht
    rw [hp, List.mem_append, not_or] at ho
    exact two.frame path value ho.2 (one.frame path value ho.1 ht)

theorem stages_of_yields
    (ran : Yields (entries.foldlM (stageSecret daemon dir) progress) host next after) :
    Stages dir (entries.map Prod.fst) progress next host after := by
  induction entries generalizing progress host with
  | nil =>
    cases ran
    refine ⟨by simp, ?_, fun _ _ _ ht => ht⟩
    rintro path (he | hh)
    · exact he
    · simp [stagedPaths] at hh
  | cons entry rest ih =>
    obtain ⟨middle, between, hf, hl⟩ := ran.of_foldlM_cons
    exact (stageSecret_stages hf).trans (ih hl)

section Isolation

variable (daemon : Daemon) (containerdID stagingDir : String) (secrets : List ContainerSecret)

theorem resolveSecrets_eq :
    resolveSecrets daemon containerdID secrets stagingDir = (do
      let progress ← secrets.zipIdx.foldlM
        (stageSecret daemon (perContainerDir daemon containerdID stagingDir)) {}
      return progress.out) := by
  unfold resolveSecrets
  cases secrets with
  | nil => rfl
  | cons secret rest => rfl

/-- Another container: it has another ID, and its files lead into its own directory. -/
structure Neighbour (other : String × List ContainerSecret) : Prop where
  ids : other.1 ≠ containerdID
  plain : ∀ id ∈ [containerdID, other.1], id ≠ "" ∧ segmentSafe id = true
  inside : ∀ path ∈ stagedPaths (perContainerDir daemon other.1 stagingDir) other.2,
    Inside (perContainerDir daemon other.1 stagingDir) path

/-- The tree after the secrets of other containers were staged, however that ended for each. -/
def stageAll (later : List (String × List ContainerSecret)) (tree : FileTree Node) : FileTree Node :=
  later.foldl (fun tree other =>
    (finalState (resolveSecrets daemon other.1 other.2 stagingDir) { tree := tree }).tree) tree

/-- Where in the container the file of a secret is mounted. -/
def place (secret : ContainerSecret) : TreePath := join [] (trimSpace secret.mountPath)

def StagedMount.place (mount : StagedMount) : TreePath := join [] mount.target

/-- Staging keeps the secrets of a container apart and to its directory. -/
structure Isolated (tree : FileTree Node) : Prop where
  /-- However the run ends. -/
  confined : Confined (perContainerDir daemon containerdID stagingDir)
    (finalState (resolveSecrets daemon containerdID secrets stagingDir) { tree := tree })
  mounts : ∀ out,
    ending (resolveSecrets daemon containerdID secrets stagingDir) { tree := tree } = .ok out →
    out.mountAdds =
      (secrets.filter isMounted).map (mountOf (perContainerDir daemon containerdID stagingDir))
  apart : ∀ out,
    ending (resolveSecrets daemon containerdID secrets stagingDir) { tree := tree } = .ok out →
    (out.mountAdds.map StagedMount.source).Nodup
  /-- A mount shows what its secret had when it was read, after those before it: it is the last one at
      its target, and its file keeps the value whatever neighbours are staged later. -/
  shows : ∀ out,
    ending (resolveSecrets daemon containerdID secrets stagingDir) { tree := tree } = .ok out →
    ∀ before secret after, secrets = before ++ secret :: after → isMounted secret = true →
      Keyed.find StagedMount.place (place secret) out.mountAdds =
          some (mountOf (perContainerDir daemon containerdID stagingDir) secret) ∧
      ∃ value,
        readSecretValue daemon secret
          (finalState (resolveSecrets daemon containerdID before stagingDir) { tree := tree }).tree =
            .ok value ∧
        ∀ later, (∀ other ∈ later, Neighbour daemon containerdID stagingDir other) →
          (stageAll daemon stagingDir later (finalState (resolveSecrets daemon containerdID secrets
            stagingDir) { tree := tree }).tree).read
            (stagedPath (perContainerDir daemon containerdID stagingDir) secret) =
              some (.file value)

structure Separate (dir : TreePath) : Prop where
  distinct : (stagedPaths dir secrets).Nodup
  inside : ∀ path ∈ stagedPaths dir secrets, Inside dir path
  targets : ((secrets.filter isMounted).map place).Nodup

variable {daemon containerdID stagingDir secrets}

variable {tree : FileTree Node} {out : ResolvedSecrets}

theorem yields_of_resolveSecrets
    (he : ending (resolveSecrets daemon containerdID secrets stagingDir) { tree := tree } =
      .ok out) :
    ∃ next after, next.out = out ∧
      Yields (secrets.zipIdx.foldlM
        (stageSecret daemon (perContainerDir daemon containerdID stagingDir)) {}) { tree := tree }
        next after ∧
      finalState (resolveSecrets daemon containerdID secrets stagingDir) { tree := tree } =
        after := by
  have ran : Yields (resolveSecrets daemon containerdID secrets stagingDir) { tree := tree } out
      (finalState (resolveSecrets daemon containerdID secrets stagingDir) { tree := tree }) :=
    Prod.ext he rfl
  nth_rewrite 1 [resolveSecrets_eq] at ran
  obtain ⟨next, after, hl, hls⟩ := ran.of_bind
  obtain ⟨hs, hlf⟩ := Prod.mk.inj hls
  exact ⟨next, after, Except.ok.inj hs, hl, hlf.symm⟩

theorem stages_of_resolveSecrets
    (he : ending (resolveSecrets daemon containerdID secrets stagingDir) { tree := tree } =
      .ok out) :
    ∃ next, next.out = out ∧
      Stages (perContainerDir daemon containerdID stagingDir) secrets {} next { tree := tree }
        (finalState (resolveSecrets daemon containerdID secrets stagingDir) { tree := tree }) := by
  obtain ⟨next, after, hsm, hl, rfl⟩ := yields_of_resolveSecrets he
  have hs := stages_of_yields hl
  rw [List.zipIdx_map_fst] at hs
  exact ⟨next, hsm, hs⟩

theorem resolveSecrets_keeps {P : Host → Prop}
    (dirKept : ∀ host, P host → P (makeDir (perContainerDir daemon containerdID stagingDir) host).2)
    (fileKept : ∀ secret ∈ secrets, isMounted secret = true → ∀ index value host, P host →
      P (writeSecretFile daemon index
        (stagedPath (perContainerDir daemon containerdID stagingDir) secret) value host).2)
    (start : P { tree := tree }) :
    P (finalState (resolveSecrets daemon containerdID secrets stagingDir) { tree := tree }) := by
  rw [resolveSecrets_eq]
  have round : ∀ progress, ∀ entry ∈ secrets.zipIdx, ∀ host, P host →
      P (finalState (stageSecret daemon (perContainerDir daemon containerdID stagingDir) progress
        entry) host) := by
    intro progress entry member host held
    exact stageSecret_keeps dirKept (fun mounted => fileKept entry.1
      (List.fst_mem_of_mem_zipIdx member) mounted entry.2) held
  have all := holds_foldlM round {} _ start
  exact holds_finalState_bind all fun _ _ => all

theorem confined_of_inside
    (hi : ∀ path ∈ stagedPaths (perContainerDir daemon containerdID stagingDir) secrets,
      Inside (perContainerDir daemon containerdID stagingDir) path) (tree : FileTree Node) :
    Confined (perContainerDir daemon containerdID stagingDir)
      (finalState (resolveSecrets daemon containerdID secrets stagingDir) { tree := tree }) := by
  refine resolveSecrets_keeps (fun host held path hw => held path (makeDir_written ▸ hw)) ?_
    (fun path hw => by cases hw)
  intro secret member mounted index value host held path hw
  have own := hi _ (List.mem_map_of_mem (List.mem_filter.mpr ⟨member, mounted⟩))
  rcases writeSecretFile_written hw with he | ht | hf
  · exact held path he
  · rw [ht]
    exact own.sibling _
  · rw [hf]
    exact own

/-- A file outside of the directory of a container stays as it is while its secrets are staged. -/
theorem read_outside {other : String × List ContainerSecret}
    (inside : ∀ path ∈ stagedPaths (perContainerDir daemon other.1 stagingDir) other.2,
      Inside (perContainerDir daemon other.1 stagingDir) path)
    (outside : ¬ Inside (perContainerDir daemon other.1 stagingDir) path)
    (there : tree.read path = some (.file value)) :
    (finalState (resolveSecrets daemon other.1 other.2 stagingDir) { tree := tree }).tree.read path =
      some (.file value) := by
  refine resolveSecrets_keeps (P := fun host => host.tree.read path = some (.file value))
    (fun host held => ?_) ?_ there
  · unfold makeDir
    split
    · next grown made => exact read_mkdirAll made held
    · exact held
  · intro secret member mounted index content host held
    have own := inside _ (List.mem_map_of_mem (List.mem_filter.mpr ⟨member, mounted⟩))
    have apart : path ≠ stagedPath (perContainerDir daemon other.1 stagingDir) secret :=
      fun same => outside (same ▸ own)
    unfold writeSecretFile
    dsimp only
    split
    · split
      · exact held
      · exact held
      · rw [FileTree.read_put, if_neg apart]
        exact held
    · exact held
    · exact held

theorem perContainerDir_eq {id : String} (nonempty : id ≠ "") (safe : segmentSafe id = true) :
    perContainerDir daemon id stagingDir = (resolve daemon.cwd
      (if trimSpace stagingDir = "" then defaultSecretsStagingDir else stagingDir)) ++ [id] := by
  have slashes : '/' ∉ id.toList := by
    intro member
    simp only [segmentSafe, Bool.and_eq_true, List.all_eq_true] at safe
    exact absurd (safe.2 '/' member) (by decide)
  have parts : id.toList.splitOn '/' = [id.toList] := by
    simpa using List.splitOn_intercalate '/'
      (show ∀ part ∈ [id.toList], '/' ∉ part by simpa using slashes) (by simp)
  have one : split id '/' = [id] := by
    rw [split, parts]
    simp
  simp only [segmentSafe, Bool.and_eq_true, bne_iff_ne] at safe
  simp [perContainerDir, join, one, stepInto, nonempty, safe.1]

/-- Directories of different IDs have no file in common. -/
theorem Neighbour.outside {other : String × List ContainerSecret}
    (neighbour : Neighbour daemon containerdID stagingDir other)
    (own : Inside (perContainerDir daemon containerdID stagingDir) path) :
    ¬ Inside (perContainerDir daemon other.1 stagingDir) path := by
  intro theirs
  obtain ⟨mine, their⟩ := List.forall_mem_cons.mp neighbour.plain
  have their := List.forall_mem_singleton.mp their
  rw [perContainerDir_eq mine.1 mine.2] at own
  rw [perContainerDir_eq their.1 their.2] at theirs
  have same := List.prefix_of_prefix_length_le own.1 theirs.1 (by simp)
  have last := (List.append_inj' (same.eq_of_length (by simp)) rfl).2
  exact neighbour.ids (List.singleton_inj.mp last).symm

theorem read_stageAll {later : List (String × List ContainerSecret)}
    (neighbours : ∀ other ∈ later, Neighbour daemon containerdID stagingDir other)
    (own : Inside (perContainerDir daemon containerdID stagingDir) path)
    (there : tree.read path = some (.file value)) :
    (stageAll daemon stagingDir later tree).read path = some (.file value) := by
  induction later generalizing tree with
  | nil => exact there
  | cons other rest ih =>
    obtain ⟨first, others⟩ := List.forall_mem_cons.mp neighbours
    exact ih others (read_outside first.inside (first.outside own) there)

theorem shows_of_distinct
    {before after : List ContainerSecret}
    (hen : ending (resolveSecrets daemon containerdID (before ++ secret :: after) stagingDir)
      { tree := tree } = .ok out)
    (hd : (stagedPaths (perContainerDir daemon containerdID stagingDir)
      (before ++ secret :: after)).Nodup)
    (hm : isMounted secret = true) :
    ∃ value,
      readSecretValue daemon secret
        (finalState (resolveSecrets daemon containerdID before stagingDir) { tree := tree }).tree =
          .ok value ∧
      (finalState (resolveSecrets daemon containerdID (before ++ secret :: after) stagingDir)
        { tree := tree }).tree.read
        (stagedPath (perContainerDir daemon containerdID stagingDir) secret) =
          some (.file value) := by
  obtain ⟨next, last, _, hl, hfn⟩ := yields_of_resolveSecrets hen
  rw [List.zipIdx_append, List.zipIdx_cons] at hl
  obtain ⟨_, between, he, hf⟩ := hl.of_foldlM_append
  obtain ⟨_, following, hh, hlt⟩ := hf.of_foldlM_cons
  have hr : finalState (resolveSecrets daemon containerdID before stagingDir)
      { tree := tree } = between := by
    rw [resolveSecrets_eq]
    exact (he.finalState_bind).trans rfl
  rcases stageSecret_yields hh with ⟨hu, _, _⟩ | ⟨_, _, value, base, hrd, _, hlf⟩
  · rw [hm] at hu
    cases hu
  · refine ⟨value, by rw [hr]; exact hrd, ?_⟩
    rw [hfn]
    have hw : following.tree.read
        (stagedPath (perContainerDir daemon containerdID stagingDir) secret) =
          some (.file value) := by
      rw [hlf, read_staged]
    refine (stages_of_yields hlt).frame _ value ?_ hw
    rw [List.zipIdx_map_fst]
    simp only [stagedPaths, List.filter_append, List.filter_cons, hm, if_true,
      List.map_append, List.map_cons] at hd
    exact (List.nodup_cons.mp (List.nodup_append.mp hd).2.1).1

theorem sources_mountOf (dir : TreePath) :
    ((secrets.filter isMounted).map (mountOf dir)).map StagedMount.source =
      stagedPaths dir secrets := by
  rw [List.map_map, stagedPaths]
  refine List.map_congr_left fun secret _ => ?_
  rw [Function.comp_apply, mountOf]

attribute [local irreducible] join trimSpace

theorem place_mountOf (dir : TreePath) (secret : ContainerSecret) :
    (mountOf dir secret).place = place secret := rfl

/-- At a place of its own, the mount of a secret is the last one. -/
theorem find_mountOf {dir : TreePath} (targets : ((secrets.filter isMounted).map place).Nodup)
    (member : secret ∈ secrets.filter isMounted) :
    Keyed.find StagedMount.place (place secret) ((secrets.filter isMounted).map (mountOf dir)) =
      some (mountOf dir secret) := by
  have keys : ((secrets.filter isMounted).map (mountOf dir)).map StagedMount.place =
      (secrets.filter isMounted).map place := by
    rw [List.map_map]
    exact List.map_congr_left fun secret _ => place_mountOf dir secret
  rw [← keys] at targets
  rw [← place_mountOf dir secret]
  exact Keyed.find_of_mem targets (List.mem_map_of_mem member)

/-- The last mount at a place is that of every secret mounted there. -/
theorem targets_of_shown {dir : TreePath} (mounts : List StagedMount)
    (sources : (stagedPaths dir secrets).Nodup)
    (last : ∀ secret ∈ secrets.filter isMounted,
      Keyed.find StagedMount.place (place secret) mounts = some (mountOf dir secret)) :
    ((secrets.filter isMounted).map place).Nodup := by
  refine List.Nodup.map_on (fun a hm b hmb same => ?_) (List.Nodup.of_map _ sources)
  have mounts : some (mountOf dir a) = some (mountOf dir b) := by
    rw [← last a hm, same, last b hmb]
  exact List.inj_on_of_nodup_map sources hm hmb
    (congrArg StagedMount.source (Option.some.inj mounts))

/-- Two secrets of one name, and one whose name leads to the files of another container. -/
def meetingSecrets : List V1Beta1.ContainerSecret :=
  [ { name := "token", fromEnv := "ALPHA", mountPath := "/run/alpha" },
    { name := "token", fromEnv := "BETA", mountPath := "/run/beta" },
    { name := "../peer/token", fromEnv := "ALPHA", mountPath := "/run/gamma" } ]

def meetingContainer : ApplyParser.ContainerDoc where
  name := "main"
  spec :=
    { id := "main", realmID := "r", spaceID := "s", stackID := "t", cellID := "c", image := "alpine"
      secrets := meetingSecrets }

def meetingDaemon : Daemon where
  runPath := ["opt", "kukeon"]
  env := GoMap.ofList [("ALPHA", "alpha"), ("BETA", "beta")]

def peerTree : FileTree Node :=
  [ (["run"], .dir), (["run", "kukeon"], .dir), (["run", "kukeon", "secrets"], .dir),
    (["run", "kukeon", "secrets", "peer"], .dir),
    (["run", "kukeon", "secrets", "peer", "token"], .file "secret of the peer") ]

end Isolation

end Kukeon.Ctr.Secrets
