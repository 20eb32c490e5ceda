import TemplateCompiler.Proofs.IncludeChains
import TemplateCompiler.Proofs.Path.Parents

/-! # Files next to each other

A template that is parsed as a file has the directory of the file for its root and the file name for
its path. So an include path that is a plain name leads to the file of that name in the same
directory (`IncludeTarget.sibling_of_forFile`), with two exceptions. A file without a directory is
seen from `.`, which a store of texts does not take for the place that bare names are in. And a
backslash in a file name counts as a separator, so that includes are looked for in what stands in
front of it, where that leads anywhere.
-/

namespace TemplateCompiler

open MonadAttach (CanReturn)

namespace MemoryStore

variable {path other : String}

/-- A store tells paths apart by their components only. -/
theorem find?_congr (store : MemoryStore) (same : Path.components path = Path.components other) :
    store.find? path = store.find? other := by
  simp only [find?, Path.same, same]

theorem isFile_congr (store : MemoryStore) (same : Path.components path = Path.components other) :
    store.isFile path = store.isFile other := by
  rw [isFile, isFile, store.find?_congr same]

theorem read_congr (store : MemoryStore) (stored : store.isFile other = true)
    (same : Path.components path = Path.components other) : store.read path = store.read other := by
  obtain ⟨entry, found⟩ := Option.isSome_iff_exists.mp stored
  simp only [read, Path.same, same, store.find?_congr same, found]

/-- A path whose first component no stored path starts with is in no store. -/
theorem not_isFile_of_head {first : Path.Component} (store : MemoryStore)
    (head : (Path.components path).head? = some first)
    (absent : ∀ entry ∈ store.entries, (Path.components entry.1).head? ≠ some first) :
    store.isFile path = false ∧ store.isDirectory path = false := by
  constructor
  · rw [isFile, Option.isSome_eq_false_iff, Option.isNone_iff_eq_none, find?, List.find?_eq_none]
    intro entry stored same
    have components : Path.components entry.1 = Path.components path := eq_of_beq same
    exact absent entry stored (components ▸ head)
  · rw [isDirectory, List.any_eq_false]
    intro entry stored inside
    obtain ⟨_, within⟩ := Bool.and_eq_true_iff.mp inside
    obtain ⟨rest, whole⟩ := List.isPrefixOf_iff_prefix.mp within
    have some : Path.components path ≠ [] := by
      intro nothing
      rw [nothing] at head
      cases head
    refine absent entry stored ?_
    rw [← whole, Path.head?_append_of_ne_nil some, head]

end MemoryStore

namespace Path

variable {name folder : String}

/-- A name that means nothing but itself as an include path. -/
structure IsPlainName (name : String) : Prop where
  nonempty : name ≠ ""
  noSeparator : ∀ c ∈ name.toList, isSeparator c = false
  noColon : ':' ∉ name.toList
  noTilde : name.toList.head? ≠ some '~'
  trimmed : Text.trim name = name
  notDot : name ≠ "."
  notParent : name ≠ ".."

namespace IsPlainName

theorem isInner (plain : IsPlainName name) : IsInner name.toList := by
  have whole : Text.dropEnds Text.isBlank name.toList = name.toList := by
    rw [← Text.toList_trim, plain.trimmed]
  refine ⟨?_, ?_, ?_, plain.noSeparator⟩
  · simpa using plain.nonempty
  · rw [isDot, whole, beq_eq_false_iff_ne]
    exact fun dot => plain.notDot (String.toList_inj.mp dot)
  · exact fun parent => plain.notParent (String.toList_inj.mp parent)

theorem slash_not_mem (plain : IsPlainName name) : '/' ∉ name.toList := by
  intro slash
  exact absurd (plain.noSeparator '/' slash) (by decide)

theorem isName (plain : IsPlainName name) : IsName name.toList := by
  refine ⟨plain.isInner.filled, ?_, plain.isInner.notParent⟩
  exact fun dot => plain.notDot (String.toList_inj.mp dot)

theorem isRelative (plain : IsPlainName name) : IncludeTarget.IsRelative (Text.trim name) := by
  rw [plain.trimmed]
  refine ⟨plain.nonempty, plain.noTilde, ?_⟩
  rw [isRooted, Bool.or_eq_false_iff]
  refine ⟨?_, by simpa using plain.noColon⟩
  cases characters : name.toList with
  | nil => rfl
  | cons c rest => exact plain.noSeparator c (characters ▸ List.mem_cons_self ..)

end IsPlainName

/-- A directory that leads nowhere else. -/
def StaysPut (folder : String) : Prop := folder = "" ∨ normalize folder = .ok ""

theorem place?_of_staysPut (stays : StaysPut folder) : place? false folder = some [] := by
  unfold place?
  split_ifs with empty
  · rfl
  · obtain ⟨stack, walked, written⟩ := exists_stack_of_refine (stays.resolve_left empty)
    have nothing := (isStack_of_stack? walked).writtenSegments_eq
    rw [← written] at nothing
    rw [walked, List.reverse_eq_nil_iff.mp nothing.symm]

theorem staysPut_of_place? (stays : place? false folder = some []) : StaysPut folder := by
  unfold place? at stays
  split_ifs at stays with empty
  · exact .inl empty
  · right
    rw [normalize, refine, normalSegments?_eq, stays]
    rfl

/-- In a file name, only a backslash is a separator. -/
theorem staysPut_of_fileName? {path : String} (named : fileName? path = some name)
    (plain : '\\' ∉ name.toList) : StaysPut (directory name) := by
  have noSlash := (isName_of_fileName? named).2
  refine .inl (directory_of_unbroken fun c member => ?_)
  have notSlash : c ≠ '/' := fun same => noSlash (same ▸ member)
  have notBackslash : c ≠ '\\' := fun same => plain (same ▸ member)
  simp [isSeparator, notSlash, notBackslash]

/-- A plain name goes on top of the stack. -/
theorem walk?_name (plain : IsPlainName name) (stack : List (List Char)) :
    walk? false stack (pieces name) = some (name.toList :: stack) := by
  have single : pieces name = [name.toList] := by
    rw [pieces, Text.split_eq_splitOnP, List.splitOnP_eq_singleton plain.noSeparator]
  have inner := plain.isInner
  rw [single]
  simp [walk?, inner.notParent, inner.filled, inner.notDot]

theorem join_dot {relative : String} (unrooted : isAbsolute relative = false) :
    join "." relative = "./" ++ relative := by
  have noSlash : ¬ (".".isEmpty ∨ ".".toList.getLast? = some '/') := by decide
  rw [join, unrooted, if_neg Bool.false_ne_true, if_neg noSlash]
  rfl

end Path

/-- The settings of a file that has a name: the name, and its directory or, where that is empty, the
place that paths start in. -/
theorem Settings.forFile_eq {file name directory : String}
    (named : Path.fileName? file = some name) (found : Path.parent? file = some directory) :
    forFile file = ⟨name, if directory = "" then "." else directory, true, false⟩ := by
  simp only [forFile, named, found, Option.getD_some, String.isEmpty_iff]

namespace IncludeTarget

variable {store : MemoryStore} {config : Config} {including : Settings} {raw : String}
  {location : Location} {start : Base}

/-- What is stored at the path itself is found. -/
theorem resolve_eq_of_isFile (normal : normalized config including raw location = .ok start)
    (stored : store.isFile (Path.join start.root start.relative) = true) :
    resolve store.loader config including raw location =
      pure (.ok ⟨⟨start.relative, start.root, start.isLocal, true⟩,
        Path.join start.root start.relative⟩) := by
  have found : findFile store.loader config start.root start.relative =
      pure (some start.relative) := by
    simp only [findFile, MemoryStore.loader, stored]
    rfl
  simp only [resolve, normal, found]
  rfl

/-- Nothing is found where neither a file nor a directory is stored. -/
theorem resolve_eq_of_absent (normal : normalized config including raw location = .ok start)
    (absent : ∀ tail, store.isFile (Path.join start.root (start.relative ++ tail)) = false)
    (noDirectory : store.isDirectory (Path.join start.root start.relative) = false) :
    resolve store.loader config including raw location =
      pure (.error (.includeNotFound (Path.join start.root start.relative) location)) := by
  have literal := absent ""
  have index := absent ("/" ++ config.indexFile)
  rw [String.append_empty] at literal
  rw [← String.append_assoc] at index
  have found : findFile store.loader config start.root start.relative = pure none := by
    simp only [findFile, MemoryStore.loader, literal, absent, noDirectory]
    rfl
  simp only [resolve, normal, found]
  rfl

/-- A plain name is its own normal form, seen from a directory that leads nowhere. -/
theorem normalized_name {name : String} (plain : Path.IsPlainName name)
    (stays : Path.StaysPut (Path.directory including.path)) :
    normalized config including name location = .ok ⟨including.root, name, including.isLocal⟩ := by
  have relative := plain.isRelative
  have written : Path.textOfSegments [name.toList] = name := by
    have notMarker : [name.toList] ≠ [[]] := by simpa using plain.nonempty
    rw [Path.textOfSegments, if_neg notMarker, Path.joinSegments, List.intercalate_singleton,
      String.ofList_toList]
  have normal : (Path.normalize (Path.below (Path.directory including.path) name)).toOption =
      some name := by
    have unrooted := relative.unrooted
    rw [plain.trimmed] at unrooted
    rw [Path.normalize, Path.toOption_refine, Path.stack?_below _ unrooted plain.nonempty,
      Path.place?_of_staysPut stays, Option.bind_some, Path.walk?_name plain]
    exact congrArg some written
  apply eq_ok_of_toOption
  rw [normalized_eq config including location relative, plain.trimmed, normal]
  simp [Option.filter, plain.nonempty]

/-- Seen from a directory that leads elsewhere, a plain name leads to a longer path. -/
theorem length_lt_of_normalized {name : String} (plain : Path.IsPlainName name)
    (elsewhere : ¬ Path.StaysPut (Path.directory including.path))
    (normal : normalized config including name location = .ok start) :
    name.toList.length < start.relative.toList.length := by
  obtain ⟨before, stack, placed, walked, _, written, _⟩ :=
    exists_stack_of_normalized plain.isRelative normal
  rw [plain.trimmed, Path.walk?_name plain] at walked
  cases walked
  have some : before.reverse ≠ [] := by
    intro nothing
    rw [List.reverse_eq_nil_iff.mp nothing] at placed
    exact elsewhere (Path.staysPut_of_place? placed)
  have notMarker : before.reverse ++ [name.toList] ≠ [[]] := by
    intro marker
    rcases List.append_eq_singleton_iff.mp marker with ⟨nothing, _⟩ | ⟨_, nothing⟩
    · exact some nothing
    · cases nothing
  rw [written, List.reverse_cons, Path.textOfSegments, if_neg notMarker, String.toList_ofList,
    Path.joinSegments_concat some, List.length_append, List.length_cons]
  omega

/-- An include of a plain name leads to another path than the name, seen from a directory that leads
elsewhere. -/
theorem path_ne_of_resolve {name : String} {target : IncludeTarget} (plain : Path.IsPlainName name)
    (elsewhere : ¬ Path.StaysPut (Path.directory including.path))
    (led : resolve store.loader config including name location = pure (.ok target)) :
    target.settings.path ≠ name := by
  have returned : CanReturn (resolve store.loader config including name location)
      (.ok target) := by
    rw [led]
    rfl
  obtain ⟨start, path, normal, at', rfl⟩ := exists_of_resolve returned
  have longer := length_lt_of_normalized plain elsewhere normal
  have tail : ∃ tail, path = start.relative ++ tail := by
    rcases findFile_cases at' with rfl | rfl | ⟨rfl, _⟩
    · exact ⟨"", String.append_empty.symm⟩
    · exact ⟨config.templateExtension, rfl⟩
    · exact ⟨"/" ++ config.indexFile, String.append_assoc ..⟩
  obtain ⟨tail, rfl⟩ := tail
  intro short
  rw [← short, String.toList_append, List.length_append] at longer
  omega

variable {file name sibling directory : String}

/-- An include of a plain name leads to the file of that name in the directory of the file. -/
theorem exists_resolve_beside (named : Path.fileName? file = some name)
    (found : Path.parent? file = some directory) (plain : Path.IsPlainName sibling)
    (beside : store.isFile (Path.withFileName file sibling) = true)
    (stays : Path.StaysPut (Path.directory name)) :
    ∃ target, resolve store.loader config ⟨name, directory, true, false⟩ sibling location =
      pure (.ok target) ∧ store.read target.file = store.read (Path.withFileName file sibling) := by
  have next : Path.components (Path.join directory sibling) =
      Path.components (Path.withFileName file sibling) := by
    obtain ⟨_, same, whole⟩ := Path.exists_of_fileName? named
    obtain rfl := Option.some.inj (found.symm.trans same)
    obtain ⟨down, single⟩ := Path.leadsDown_of_isName plain.isName plain.slash_not_mem
    rw [Path.components_withFileName named plain.isName plain.slash_not_mem,
      Path.components_join down, single, whole, List.dropLast_concat]
  have isFile : store.isFile (Path.join directory sibling) = true := by
    rw [store.isFile_congr next, beside]
  exact ⟨_, resolve_eq_of_isFile (normalized_name plain stays) isFile,
    store.read_congr beside next⟩

/-- Nothing is behind `.` in a store without paths that start with it. -/
theorem absent_behind_dot
    (absent : ∀ entry ∈ store.entries, (Path.components entry.1).head? ≠ some .current)
    {path : String} (unrooted : Path.isAbsolute path = false) :
    store.isFile (Path.join "." path) = false ∧
      store.isDirectory (Path.join "." path) = false := by
  refine store.not_isFile_of_head ?_ absent
  rw [Path.join_dot unrooted, Path.components_dot_slash]
  rfl

theorem resolve_behind_dot (rooted : including.root = ".")
    (absent : ∀ entry ∈ store.entries, (Path.components entry.1).head? ≠ some .current)
    (plain : Path.IsPlainName sibling) (stays : Path.StaysPut (Path.directory including.path)) :
    resolve store.loader config including sibling location =
      pure (.error (.includeNotFound ("./" ++ sibling) location)) := by
  obtain ⟨down, _⟩ := Path.leadsDown_of_isName plain.isName plain.slash_not_mem
  have unrooted := down.not_isAbsolute
  have normal : normalized config including sibling location =
      .ok ⟨including.root, sibling, including.isLocal⟩ := normalized_name plain stays
  rw [rooted] at normal
  rw [← Path.join_dot unrooted]
  refine resolve_eq_of_absent normal (fun tail => (absent_behind_dot absent ?_).1)
    (absent_behind_dot absent unrooted).2
  rw [Path.isAbsolute_append plain.nonempty]
  exact unrooted

/-- **A file finds the files next to it.** A file that has a name and a directory is read back from
its settings, and an include path that is a plain name leads to the file of that name in the same
directory, unless a backslash in the name of the including file leads elsewhere: then it leads to
another path. A file without a directory is looked for at paths that start with a dot, and so are
the files next to it: a store without such paths has neither. -/
theorem sibling_of_forFile (store : MemoryStore) (config : Config) (location : Location)
    {file name sibling : String} (named : Path.fileName? file = some name)
    (plain : Path.IsPlainName sibling) (stored : store.isFile file = true)
    (beside : store.isFile (Path.withFileName file sibling) = true) :
    let settings := Settings.forFile file
    let resolved := resolve store.loader config settings sibling location
    (Path.parent? file ≠ some "" →
      store.read (Path.join settings.root settings.path) = store.read file ∧
        (Path.StaysPut (Path.directory name) → ∃ target, resolved = pure (.ok target) ∧
          store.read target.file = store.read (Path.withFileName file sibling))) ∧
    (¬ Path.StaysPut (Path.directory name) → ∀ target, resolved = pure (.ok target) →
      target.settings.path ≠ sibling) ∧
    (Path.parent? file = some "" →
      (∀ entry ∈ store.entries, (Path.components entry.1).head? ≠ some .current) →
        store.isFile (Path.join settings.root settings.path) = false ∧
          (Path.StaysPut (Path.directory name) →
            resolved = pure (.error (.includeNotFound ("./" ++ sibling) location)))) := by
  intro settings resolved
  obtain ⟨directory, found, whole⟩ := Path.exists_of_fileName? named
  obtain ⟨isName, unbroken⟩ := Path.isName_of_fileName? named
  obtain ⟨down, single⟩ := Path.leadsDown_of_isName isName unbroken
  have same : settings = ⟨name, if directory = "" then "." else directory, true, false⟩ :=
    Settings.forFile_eq named found
  refine ⟨fun inside => ?_, fun elsewhere target led => ?_, fun bare absent => ?_⟩
  · have some : directory ≠ "" := fun empty => inside (by rw [found, empty])
    rw [if_neg some] at same
    refine ⟨store.read_congr stored ?_, fun stays => ?_⟩
    · rw [same, Path.components_join down, single, whole]
    · rw [show resolved = resolve store.loader config settings sibling location from rfl, same]
      exact exists_resolve_beside named found plain beside stays
  · exact path_ne_of_resolve plain (by rw [same]; exact elsewhere) led
  · have empty : directory = "" := Option.some.inj (found.symm.trans bare)
    rw [if_pos empty] at same
    have rooted : settings.root = "." := by rw [same]
    refine ⟨?_, fun stays => resolve_behind_dot rooted absent plain (by rw [same]; exact stays)⟩
    rw [same]
    exact (absent_behind_dot absent down.not_isAbsolute).1

/-- A page in a directory, one without a directory, and one whose name has a backslash in it. -/
theorem sibling_of_forFile_page :
    let inside : MemoryStore := { entries := [("/site/home.blade", "a"), ("/site/nav", "b")] }
    let bare : MemoryStore := { entries := [("home.blade", "a"), ("nav", "b")] }
    let divided : MemoryStore :=
      { entries := [("/site/parts\\home", "a"), ("/site/nav", "b"), ("/site/parts/nav", "c")] }
    (inside.read (Path.join "/site" "home.blade") = .ok "a" ∧
      ∃ target, resolve inside.loader {} (.forFile "/site/./home.blade/") "nav" ⟨1, 2⟩ =
        pure (.ok target) ∧ inside.read target.file = .ok "b") ∧
    (bare.isFile (Path.join "." "home.blade") = false ∧
      resolve bare.loader {} (.forFile "home.blade") "nav" ⟨1, 2⟩ =
        pure (.error (.includeNotFound "./nav" ⟨1, 2⟩))) ∧
    ∃ target, resolve divided.loader {} (.forFile "/site/parts\\home") "nav" ⟨1, 2⟩ =
      pure (.ok target) ∧ target.settings.path ≠ "nav" ∧ divided.read target.file = .ok "c" := by
  intro inside bare divided
  have plain : Path.IsPlainName "nav" := by
    have apart : "nav".toList.all (fun c => !Path.isSeparator c) = true := by decide +kernel
    refine ⟨?_, by simpa using apart, ?_, ?_, ?_, ?_, ?_⟩ <;> decide +kernel
  have named : Path.fileName? "/site/./home.blade/" = some "home.blade" := by decide +kernel
  have alone : Path.fileName? "home.blade" = some "home.blade" := by decide +kernel
  have broken : Path.fileName? "/site/parts\\home" = some "parts\\home" := by decide +kernel
  have stays := Path.staysPut_of_fileName? named (by decide +kernel)
  refine ⟨?_, ?_, ?_⟩
  · obtain ⟨found, _, _⟩ := sibling_of_forFile inside {} ⟨1, 2⟩ named plain
      (by decide +kernel) (by decide +kernel)
    obtain ⟨own, next⟩ := found (by decide +kernel)
    obtain ⟨target, led, same⟩ := next stays
    have text : inside.read (Path.withFileName "/site/./home.blade/" "nav") = .ok "b" := by
      decide +kernel
    have page : inside.read "/site/./home.blade/" = .ok "a" := by decide +kernel
    exact ⟨own.trans page, target, led, same.trans text⟩
  · obtain ⟨_, _, absent⟩ := sibling_of_forFile bare {} ⟨1, 2⟩ alone plain
      (by decide +kernel) (by decide +kernel)
    obtain ⟨own, next⟩ := absent (by decide +kernel) (by decide +kernel)
    exact ⟨own, next stays⟩
  · obtain ⟨_, elsewhere, _⟩ := sibling_of_forFile divided {} ⟨1, 2⟩ broken plain
      (by decide +kernel) (by decide +kernel)
    have led : resolve divided.loader {} (.forFile "/site/parts\\home") "nav" ⟨1, 2⟩ =
        pure (.ok ⟨⟨"parts/nav", "/site", true, true⟩, "/site/parts/nav"⟩) :=
      eq_ok_of_toOption (by decide +kernel)
    refine ⟨_, led, elsewhere ?_ _ led, by decide +kernel⟩
    rintro (empty | home)
    · exact absurd empty (by decide +kernel)
    · exact absurd home (by decide +kernel)

end IncludeTarget

end TemplateCompiler
