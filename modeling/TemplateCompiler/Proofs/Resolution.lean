import Mathlib.Data.List.TakeWhile
import TemplateCompiler.FileTree
import TemplateCompiler.Proofs.Parsing.Runs
import TemplateCompiler.Proofs.Path.Confined

/-! # Where resolved includes lie

An include directive of a local template leads to a path below the root of that template
(`IncludeTarget.exists_of_resolve`): the directory of the including template has no
separator at its start, so the joined path has none, its normal form is confined, and
suffixes that are plain keep it so. A library include starts at the library root instead.
Its path is confined in the same way where a character is left behind the tilde and the
separators after it (`IncludeTarget.library_of_resolve`); where nothing is left, the
normal form is the root of all files, and the library root does not count.
-/

namespace TemplateCompiler

open MonadAttach (CanReturn)

/-- A loader to which a path with one segment more does not name a file where the path itself
names none. -/
def Loader.Skips {m : Type → Type} [Monad m] [MonadAttach m] (loader : Loader m)
    (segment : String) : Prop :=
  ∀ path, path ≠ "" → CanReturn (loader.isFile path) false →
    ¬ CanReturn (loader.isFile (path ++ "/" ++ segment)) true

/-- Suffixes of include paths without separators and without two dots in a row. -/
structure Config.HasPlainSuffixes (config : Config) : Prop where
  extension : Path.IsPlain config.templateExtension
  index : Path.IsPlain config.indexFile

theorem Config.hasPlainSuffixes_default : ({} : Config).HasPlainSuffixes := by
  refine ⟨.of_count ?_ ?_, .of_count ?_ ?_⟩ <;> decide +kernel

/-- The index file is a segment that stays where it is. -/
def Config.HasIdleIndex (config : Config) : Prop :=
  config.indexFile = "" ∨ config.indexFile = "."

/-- A segment that stays where it is adds no component. -/
theorem Path.components_append_idle {path segment : String} (nonempty : path ≠ "")
    (idle : segment = "" ∨ segment = ".") :
    components (path ++ "/" ++ segment) = components path := by
  have pieces : segments (path ++ "/" ++ segment) = segments path ++ [segment.toList] := by
    rw [segments_append_slash]
    rcases idle with rfl | rfl <;> rfl
  have nothing : [segment.toList].filterMap component? = [] := by
    rcases idle with rfl | rfl <;> rfl
  have absolute : isAbsolute (path ++ "/" ++ segment) = isAbsolute path := by
    rw [String.append_assoc, isAbsolute_append nonempty]
  rw [components_of_segments pieces absolute (Text.split_ne_nil _ _) rfl rfl, nothing,
    List.append_nil]

theorem Path.Unrooted.not_isAbsolute {path : String} (unrooted : Unrooted path) :
    isAbsolute path = false := by
  unfold isAbsolute
  cases start : path.toList.head? with
  | none => rfl
  | some c =>
      have other : c ≠ '/' := by
        rintro rfl
        exact absurd (unrooted '/' start) (by decide)
      simpa using other

theorem Path.join_append {relative : String} (nonempty : relative ≠ "") (root tail : String) :
    join root (relative ++ tail) = join root relative ++ tail := by
  rw [join, join, isAbsolute_append nonempty]
  split_ifs
  · rfl
  · rw [String.append_assoc]
  · simp only [String.append_assoc]

theorem Path.join_ne_empty {relative : String} (nonempty : relative ≠ "") (root : String) :
    join root relative ≠ "" := by
  unfold join
  split_ifs <;> simp [nonempty]

/-- A store compares paths by their components. -/
theorem MemoryStore.loader_skips (store : MemoryStore) {segment : String}
    (idle : segment = "" ∨ segment = ".") : store.loader.Skips segment := by
  intro path nonempty absent present
  have same : ∀ other, Path.same other (path ++ "/" ++ segment) = Path.same other path := by
    intro other
    rw [Path.same, Path.same, Path.components_append_idle nonempty idle]
  have found : store.isFile (path ++ "/" ++ segment) = true := present
  have missing : store.isFile path = false := absent
  simp only [isFile, find?, same] at found missing
  rw [found] at missing
  cases missing

/-- No file stands at a path that ends in a segment that stays where it is. -/
theorem FileTree.isFile_append_idle (tree : FileTree) {path segment : String}
    (nonempty : path ≠ "") (idle : segment = "" ∨ segment = ".") :
    tree.isFile (path ++ "/" ++ segment) = false := by
  have pieces : Path.segments (path ++ "/" ++ segment) =
      Path.segments path ++ [segment.toList] := by
    rw [Path.segments_append_slash]
    rcases idle with rfl | rfl <;> rfl
  have whole : path ++ "/" ++ segment ≠ "" := by simp
  have located : tree.locate (path ++ "/" ++ segment) =
      tree.locate path >>= fun spot => spot.step segment := by
    rw [locate, locate, pieces, String.append_assoc, Path.isAbsolute_append nonempty]
    simp [nonempty, List.foldlM_append]
  unfold isFile
  rw [located]
  cases tree.locate path with
  | error cause => rfl
  | ok spot =>
      cases spot with
      | outside => rcases idle with rfl | rfl <;> rfl
      | inside entry above =>
          cases entry <;> rcases idle with rfl | rfl <;> rfl

theorem FileTree.loader_skips (tree : FileTree) {segment : String}
    (idle : segment = "" ∨ segment = ".") : tree.loader.Skips segment := by
  intro path nonempty _ present
  have found : tree.isFile (path ++ "/" ++ segment) = true := present
  rw [tree.isFile_append_idle nonempty idle] at found
  cases found

namespace IncludeTarget

section Base

variable {config : Config} {including : Settings} {raw : String} {location : Location}
  {start : Base}

/-- A path that starts with a tilde starts at the library root, without the separators
after the tilde. -/
theorem base_of_tilde {rest : List Char} (tilde : raw.toList = '~' :: rest)
    (based : base config including raw location = .ok start) :
    ∃ root, config.libraryRoot? = some root ∧
      start = ⟨root, String.ofList (rest.dropWhile Path.isSeparator), false⟩ := by
  unfold base at based
  rw [tilde] at based
  cases library : config.libraryRoot? with
  | none =>
      rw [library] at based
      cases based
  | some root =>
      rw [library] at based
      cases based
      exact ⟨root, rfl, rfl⟩

/-- A local path starts at the root of a local template, and is joined to the directory of
that template. -/
theorem base_of_isLocal (based : base config including raw location = .ok start)
    (isLocal : start.isLocal = true) :
    including.isLocal = true ∧ start.root = including.root ∧ Path.isRooted raw = false ∧
      (start.relative = raw ∨ Path.directory including.path ≠ "" ∧
        start.relative = Path.directory including.path ++ "/" ++ raw) := by
  unfold base at based
  split at based
  · split at based
    · cases based
    · cases based
      cases isLocal
  · split_ifs at based with rooted
    cases based
    refine ⟨isLocal, rfl, by simpa using rooted, ?_⟩
    dsimp only
    split_ifs with top
    · exact .inl rfl
    · exact .inr ⟨fun empty => top (.inl empty), rfl⟩

theorem exists_of_normalized (normal : normalized config including raw location = .ok start) :
    ∃ first, base config including (Text.trim raw) location = .ok first ∧
      Text.trim raw ≠ "" ∧ Path.normalize first.relative = .ok start.relative ∧
      start.relative ≠ "" ∧ start.root = first.root ∧ start.isLocal = first.isLocal := by
  unfold normalized at normal
  dsimp only at normal
  split_ifs at normal with empty
  obtain ⟨first, based, rest⟩ := exists_ok_of_bind normal
  split at rest
  · cases rest
  · split_ifs at rest with blank
    cases rest
    refine ⟨first, based, ?_, by assumption, ?_, rfl, rfl⟩
    · exact fun same => empty (String.isEmpty_iff.mpr same)
    · exact fun same => blank (String.isEmpty_iff.mpr same)

/-- Where a local path starts, there is no separator, and its only colons are those of the
including path. -/
theorem unrooted_of_base (based : base config including raw location = .ok start)
    (nonempty : raw ≠ "") (isLocal : start.isLocal = true)
    (unrooted : Path.Unrooted including.path) :
    start.relative ≠ "" ∧ Path.Unrooted start.relative ∧
      (':' ∈ start.relative.toList → ':' ∈ including.path.toList) := by
  obtain ⟨_, _, notRooted, relative⟩ := base_of_isLocal based isLocal
  rw [Path.isRooted, Bool.or_eq_false_iff] at notRooted
  have noColon : ':' ∉ raw.toList := by simpa using notRooted.2
  rcases relative with same | ⟨some, joined⟩
  · rw [same]
    refine ⟨nonempty, ?_, fun colon => absurd colon noColon⟩
    intro c head
    have first := notRooted.1
    rw [Option.mem_def.mp head] at first
    simpa using first
  · rw [joined]
    obtain ⟨rest, whole⟩ := Path.directory_isPrefix including.path
    have characters : (Path.directory including.path).toList ≠ [] :=
      fun empty => some (String.toList_eq_nil_iff.mp empty)
    refine ⟨by simp, ?_, ?_⟩
    · rw [String.append_assoc]
      refine Path.Unrooted.append ?_ some _
      intro c head
      refine unrooted c ?_
      rw [← whole, Path.head?_append_of_ne_nil characters]
      exact head
    · intro colon
      rw [← whole]
      have parts : ':' ∈ (Path.directory including.path).toList ∨ ':' ∈ raw.toList := by
        simpa using colon
      rcases parts with inside | inRaw
      · exact List.mem_append_left _ inside
      · exact absurd inRaw noColon

end Base

variable {m : Type → Type} [Monad m] [LawfulMonad m] [MonadAttach m] [LawfulMonadAttach m]
  {loader : Loader m} {config : Config} {including : Settings} {raw root relative path : String}
  {location : Location} {target : IncludeTarget}

/-- The file that is found is the path itself, the path with the extension, or the index
file, which is looked for where the path is no file. -/
theorem findFile_cases (found : CanReturn (findFile loader config root relative) (some path)) :
    path = relative ∨ path = relative ++ config.templateExtension ∨
      path = relative ++ "/" ++ config.indexFile ∧
        CanReturn (loader.isFile (Path.join root relative)) false ∧
        CanReturn (loader.isFile (Path.join root path)) true := by
  unfold findFile at found
  obtain ⟨literal, isLiteral, found⟩ := exists_canReturn_of_bind found
  cases literal with
  | true => exact .inl (Option.some.inj (eq_of_canReturn_pure found)).symm
  | false =>
      obtain ⟨extended, _, found⟩ := exists_canReturn_of_bind found
      cases extended with
      | true => exact .inr (.inl (Option.some.inj (eq_of_canReturn_pure found)).symm)
      | false =>
          obtain ⟨directory, _, found⟩ := exists_canReturn_of_bind found
          cases directory with
          | false => cases eq_of_canReturn_pure found
          | true =>
              obtain ⟨index, isIndex, found⟩ := exists_canReturn_of_bind found
              cases index with
              | false => cases eq_of_canReturn_pure found
              | true =>
                  cases eq_of_canReturn_pure found
                  exact .inr (.inr ⟨rfl, isLiteral, isIndex⟩)

/-- Below a confined path, the file that is found leads down. -/
theorem leadsDown_of_findFile (confined : Path.Confined relative)
    (plain : config.HasPlainSuffixes)
    (found : CanReturn (findFile loader config root relative) (some path)) :
    Path.Unrooted path ∧ Path.LeadsDown path := by
  rcases findFile_cases found with rfl | rfl | ⟨rfl, _, _⟩
  · exact ⟨confined.unrooted, confined.leadsDown⟩
  · have extended := confined.append plain.extension
    exact ⟨extended.unrooted, extended.leadsDown⟩
  · refine ⟨?_, confined.leadsDown.append_segment plain.index⟩
    rw [String.append_assoc]
    exact confined.unrooted.append confined.nonempty _

/-- The file that is found below a confined path is confined. An index file that is an idle
segment is not found, since the path before it would be. -/
theorem confined_of_findFile (confined : Path.Confined relative)
    (plain : config.HasPlainSuffixes) (skips : config.HasIdleIndex → loader.Skips config.indexFile)
    (found : CanReturn (findFile loader config root relative) (some path)) :
    Path.Confined path := by
  rcases findFile_cases found with rfl | rfl | ⟨rfl, notFile, isFile⟩
  · exact confined
  · exact confined.append plain.extension
  · by_cases idle : config.HasIdleIndex
    · have nonempty : Path.join root relative ≠ "" := Path.join_ne_empty confined.nonempty root
      rw [String.append_assoc, Path.join_append confined.nonempty, ← String.append_assoc] at isFile
      exact absurd isFile (skips idle _ nonempty notFile)
    · -- Any other plain index file is a name.
      rw [Config.HasIdleIndex, not_or] at idle
      exact confined.append_segment plain.index idle.1 idle.2

theorem exists_of_resolve
    (resolved : CanReturn (resolve loader config including raw location) (.ok target)) :
    ∃ start path, normalized config including raw location = .ok start ∧
      CanReturn (findFile loader config start.root start.relative) (some path) ∧
      target = ⟨⟨path, start.root, start.isLocal, true⟩, Path.join start.root path⟩ := by
  unfold resolve at resolved
  cases normal : normalized config including raw location with
  | error cause =>
      rw [normal] at resolved
      cases eq_of_canReturn_pure resolved
  | ok start =>
      rw [normal] at resolved
      obtain ⟨file?, found, resolved⟩ := exists_canReturn_of_bind resolved
      cases file? with
      | none => cases eq_of_canReturn_pure resolved
      | some path =>
          cases eq_of_canReturn_pure resolved
          exact ⟨start, path, rfl, found, rfl⟩

/-- A resolved include is read from its path below its root. -/
theorem file_of_resolve
    (resolved : CanReturn (resolve loader config including raw location) (.ok target)) :
    target.file = Path.join target.settings.root target.settings.path := by
  obtain ⟨_, _, _, _, rfl⟩ := exists_of_resolve resolved
  rfl

/-- The files that the root of all files stands for are absolute, and none leads back. -/
theorem absolute_of_findFile (plain : config.HasPlainSuffixes)
    (found : CanReturn (findFile loader config root "/") (some path)) :
    Path.isAbsolute path = true ∧ ['.', '.'] ∉ Path.segments path := by
  have rootSegments : Path.segments "/" = [[], []] := rfl
  rcases findFile_cases found with rfl | rfl | ⟨rfl, _, _⟩
  · exact ⟨rfl, by decide⟩
  · refine ⟨by rw [Path.isAbsolute_append (by decide)]; rfl, ?_⟩
    have pieces := Path.segments_append_slash "" config.templateExtension
    rw [plain.extension.segments_eq, String.empty_append] at pieces
    rw [pieces]
    simpa [Path.segments, Text.split] using plain.extension.ne_parent.symm
  · refine ⟨by rw [String.append_assoc, Path.isAbsolute_append (by decide)]; rfl, ?_⟩
    rw [Path.segments_append_slash, plain.index.segments_eq, rootSegments]
    simpa using plain.index.ne_parent.symm

/-- **A library include lies below the library root where a character is left** behind the
tilde and the separators after it. Where none is left, it lies where its path says, whatever
the library root is; no path leads back. -/
theorem library_of_resolve {rest : List Char} (plain : config.HasPlainSuffixes)
    (tilde : (Text.trim raw).toList = '~' :: rest)
    (resolved : CanReturn (resolve loader config including raw location) (.ok target)) :
    config.libraryRoot? = some target.settings.root ∧ target.settings.isLocal = false ∧
      ['.', '.'] ∉ Path.segments target.settings.path ∧
      (Path.Unrooted target.settings.path ↔ ∃ c ∈ rest, Path.isSeparator c = false) ∧
      ((∃ c ∈ rest, Path.isSeparator c = false) →
        Path.LiesBelow target.file target.settings.root) ∧
      ((∀ c ∈ rest, Path.isSeparator c = true) → target.file = target.settings.path) := by
  obtain ⟨start, path, normal, found, rfl⟩ := exists_of_resolve resolved
  obtain ⟨first, based, _, normal, some, sameRoot, sameLocal⟩ := exists_of_normalized normal
  obtain ⟨library, configured, rfl⟩ := base_of_tilde tilde based
  rw [sameRoot] at found
  simp only [sameRoot, sameLocal]
  refine ⟨configured, trivial, ?_⟩
  by_cases separators : ∀ c ∈ rest, Path.isSeparator c = true
  · have nothing : ¬ ∃ c ∈ rest, Path.isSeparator c = false := by
      rintro ⟨c, member, other⟩
      rw [separators c member] at other
      cases other
    rw [List.dropWhile_eq_nil_iff.mpr separators] at normal
    rw [← Except.ok.inj normal] at found
    obtain ⟨absolute, noParent⟩ := absolute_of_findFile plain found
    refine ⟨noParent, ?_, fun left => absurd left nothing, fun _ => ?_⟩
    · exact ⟨fun unrooted => absurd absolute (by rw [unrooted.not_isAbsolute]; decide),
        fun left => absurd left nothing⟩
    · rw [Path.join, if_pos absolute]
  · have left : ∃ c ∈ rest, Path.isSeparator c = false := by simpa using separators
    have nonempty : String.ofList (rest.dropWhile Path.isSeparator) ≠ "" := by
      intro empty
      refine separators (List.dropWhile_eq_nil_iff.mp ?_)
      rw [← String.toList_eq_nil_iff.mpr empty, String.toList_ofList]
    have unrooted : Path.Unrooted (String.ofList (rest.dropWhile Path.isSeparator)) := by
      intro c head
      rw [String.toList_ofList] at head
      have stopped := List.head?_dropWhile_not Path.isSeparator rest
      rw [Option.mem_def.mp head] at stopped
      exact stopped
    have confined := Path.Confined.of_normalize unrooted nonempty normal some
    obtain ⟨free, down⟩ := leadsDown_of_findFile confined plain found
    exact ⟨down.noParent, ⟨fun _ => left, fun _ => free⟩,
      fun _ => Path.liesBelow_join down library, fun all => absurd all separators⟩

/-- A bare tilde leads out of the library: the template that it finds is a file with no name
but the extension, at the root of all files. -/
theorem library_of_resolve_tilde :
    let store : MemoryStore := { entries := [("/.blade", ""), ("/lib/shared/nav.blade", "")] }
    let config : Config := { libraryRoot? := some "/lib" }
    let including : Settings := ⟨"home.blade", "/site", true, false⟩
    let bare : IncludeTarget := ⟨⟨"/.blade", "/lib", false, true⟩, "/.blade"⟩
    let shared : IncludeTarget :=
      ⟨⟨"shared/nav.blade", "/lib", false, true⟩, "/lib/shared/nav.blade"⟩
    (resolve store.loader config including "~" ⟨3, 7⟩).toOption = some bare ∧
      ¬ Path.Unrooted bare.settings.path ∧
      (resolve store.loader config including " ~/shared/nav" ⟨3, 7⟩).toOption =
        some shared ∧
      Path.LiesBelow shared.file "/lib" := by
  intro store config including bare shared
  have plain : config.HasPlainSuffixes :=
    ⟨Config.hasPlainSuffixes_default.extension, Config.hasPlainSuffixes_default.index⟩
  have outside : (resolve store.loader config including "~" ⟨3, 7⟩).toOption =
      some bare := by decide +kernel
  have inside : (resolve store.loader config including " ~/shared/nav" ⟨3, 7⟩).toOption =
      some shared := by decide +kernel
  refine ⟨outside, ?_, inside, ?_⟩
  · intro unrooted
    have tilde : (Text.trim "~").toList = '~' :: [] := by decide +kernel
    obtain ⟨_, _, _, left, _⟩ :=
      library_of_resolve plain tilde (canReturn_of_toOption outside)
    obtain ⟨c, member, _⟩ := left.mp unrooted
    cases member
  · have tilde : (Text.trim " ~/shared/nav").toList = '~' :: "/shared/nav".toList := by
      decide +kernel
    obtain ⟨_, _, _, _, below, _⟩ :=
      library_of_resolve plain tilde (canReturn_of_toOption inside)
    exact below ⟨'s', by decide +kernel, by decide⟩

end IncludeTarget

/-- The templates included in a tree are parsed as includes. -/
theorem Compiler.isInclude_invariant {m : Type → Type} [Monad m] [LawfulMonad m] [MonadAttach m]
    [LawfulMonadAttach m] (compiler : Compiler m) : compiler.Invariant fun tree =>
    ∀ template ∈ tree.includedTemplates, template.settings.isInclude = true where
  fresh := fun _ _ _ _ _ inside => nomatch inside
  edit := fun _ _ _ all _ => all
  adopt := by
    intro ancestors parent child tree raw location target outer inner resolved settings adopted
    obtain ⟨_, _, _, rfl⟩ := IncludeTree.adopt_eq_ok adopted
    obtain ⟨_, _, _, _, rfl⟩ := IncludeTarget.exists_of_resolve resolved
    intro template inside
    rcases IncludeTree.mem_includedTemplates_addIncluded.mp inside with before | rfl | below
    · exact outer template before
    · rw [settings]
    · exact inner template below

end TemplateCompiler
