import TemplateCompiler.Proofs.Path.Segments

/-! # Directories of files

The directory of a path has its components but the last (`Path.components_of_parent?`). So a path
with a file name has the components of its directory and behind them the name, and its directory is
the empty path where the name is all that there is.
-/

namespace TemplateCompiler

/-- The first piece of a text is the whole text, or what stands in front of its first separator. -/
theorem Text.eq_of_split_cons {p : Char → Bool} {cs first : List Char} {rest : List (List Char)}
    (pieces : split p cs = first :: rest) :
    cs = first ∧ rest = [] ∨
      ∃ c more, p c = true ∧ cs = first ++ c :: more ∧ rest = split p more := by
  induction cs generalizing first rest with
  | nil =>
      cases pieces
      exact .inl ⟨rfl, rfl⟩
  | cons c cs ih =>
      rw [split] at pieces
      split_ifs at pieces with separator
      · cases pieces
        exact .inr ⟨c, cs, separator, rfl, rfl⟩
      · cases later : split p cs with
        | nil => exact absurd later (split_ne_nil p cs)
        | cons piece pieces' =>
            rw [later] at pieces
            cases pieces
            rcases ih later with ⟨rfl, none⟩ | ⟨d, more, separator, rfl, last⟩
            · exact .inl ⟨rfl, none⟩
            · exact .inr ⟨d, more, separator, rfl, last⟩

namespace Path

variable {path directory name : String} {inner : List (List Char)}

/-! ## Segments that are no components -/

theorem dropIdle_eq (segments : List (List Char)) :
    dropIdle segments = segments.rdropWhile fun segment => (component? segment).isNone := rfl

theorem filterMap_dropIdle (segments : List (List Char)) :
    (dropIdle segments).filterMap component? = segments.filterMap component? := by
  rw [dropIdle_eq]
  induction segments using List.reverseRecOn with
  | nil => rfl
  | append_singleton segments last ih =>
      rw [List.rdropWhile_concat]
      cases component : component? last with
      | none => simpa [component] using ih
      | some c => simp

theorem dropIdle_isPrefix (segments : List (List Char)) : dropIdle segments <+: segments := by
  rw [dropIdle_eq]
  exact List.rdropWhile_prefix _ _

/-- Where a segment is left, the last one is a component. -/
theorem exists_of_dropIdle (some : dropIdle inner ≠ []) :
    ∃ before last component, dropIdle inner = before ++ [last] ∧
      component? last = .some component := by
  rw [dropIdle_eq] at some ⊢
  have last := List.rdropWhile_last_not _ inner some
  obtain ⟨component, found⟩ := Option.ne_none_iff_exists'.mp (by simpa using last)
  exact ⟨_, _, component, (List.dropLast_append_getLast some).symm, found⟩

/-! ## The parts of a path -/

/-- The components of a path that has a dot at its start. -/
theorem components_dot_slash (rest : String) :
    components ("./" ++ rest) = .current :: (segments rest).filterMap component? := by
  simp [components, segments, isAbsolute, Text.split, component?]

theorem components_slash (rest : String) :
    components ("/" ++ rest) = .root :: (segments rest).filterMap component? := by
  simp [components, segments, isAbsolute, Text.split, component?]

/-- The components of a path that has neither a slash nor a dot at its start. -/
theorem components_of_head (notSlash : (segments path).head? ≠ some [])
    (notDot : (segments path).head? ≠ some ['.']) :
    components path = (segments path).filterMap component? := by
  have relative : isAbsolute path = false := by
    unfold isAbsolute
    cases characters : path.toList with
    | nil => rfl
    | cons c cs =>
        by_contra absolute
        have slash : c = '/' := by simpa using absolute
        rw [segments, characters, slash] at notSlash
        exact notSlash (by simp [Text.split])
  rw [components, relative, if_neg Bool.false_ne_true, if_neg notDot]

/-- A path is absolute, starts with a dot, or has all its segments in its second part. -/
theorem parts_cases (path : String) :
    (∃ rest, path = "/" ++ rest ∧ parts path = (['/'], segments rest)) ∨
    (∃ rest, path = "./" ++ rest ∧ parts path = (['.'], [] :: segments rest)) ∨
    path = "." ∨
    parts path = ([], segments path) ∧
      (path = "" ∨ (segments path).head? ≠ some [] ∧ (segments path).head? ≠ some ['.']) := by
  unfold parts
  split
  · rename_i rest characters
    exact .inl ⟨String.ofList rest, by rw [← String.toList_inj, characters]; simp, by
      simp [segments]⟩
  · rename_i rest characters
    exact .inr (.inl ⟨String.ofList rest, by rw [← String.toList_inj, characters]; simp, by
      simp [segments, Text.split]⟩)
  · rename_i characters
    exact .inr (.inr (.inl (by rw [← String.toList_inj, characters]; rfl)))
  · rename_i notSlash notDotSlash notDot
    refine .inr (.inr (.inr ⟨rfl, ?_⟩))
    cases pieces : segments path with
    | nil => exact absurd pieces (Text.split_ne_nil _ _)
    | cons first rest =>
        have head : path.toList = first ∨ ∃ more, path.toList = first ++ '/' :: more := by
          rcases Text.eq_of_split_cons pieces with ⟨whole, _⟩ | ⟨c, more, slash, whole, _⟩
          · exact .inl whole
          · exact .inr ⟨more, by rw [whole, eq_of_beq slash]⟩
        by_cases empty : path.toList = []
        · exact .inl (String.toList_eq_nil_iff.mp empty)
        · refine .inr ⟨?_, ?_⟩
          · rintro ⟨⟩
            rcases head with whole | ⟨more, whole⟩
            · exact empty whole
            · exact notSlash more whole
          · rintro ⟨⟩
            rcases head with whole | ⟨more, whole⟩
            · exact notDot whole
            · exact notDotSlash more whole

/-! ## The directory of a path -/

/-- Joined segments are the segments of the text. -/
theorem segments_join {pieces : List (List Char)} (nonempty : pieces ≠ [])
    (unbroken : ∀ segment ∈ pieces, '/' ∉ segment) :
    segments (String.ofList (joinSegments pieces)) = pieces := by
  rw [segments_eq, String.toList_ofList, joinSegments,
    List.splitOn_intercalate '/' unbroken nonempty]

theorem filterMap_segments_join {pieces : List (List Char)}
    (unbroken : ∀ segment ∈ pieces, '/' ∉ segment) :
    (segments (String.ofList (joinSegments pieces))).filterMap component? =
      pieces.filterMap component? := by
  by_cases empty : pieces = []
  · rw [empty]
    rfl
  · rw [segments_join empty unbroken]

theorem slash_not_mem_of_mem_segments {segment : List Char} (member : segment ∈ segments path) :
    '/' ∉ segment := by
  intro slash
  exact absurd (Text.mem_of_mem_split member '/' slash).2 (by decide)

/-- The segments of the directory: those in front of the last component. -/
def outer (inner : List (List Char)) : List (List Char) := dropIdle (dropIdle inner).dropLast

theorem outer_isPrefix (inner : List (List Char)) : outer inner <+: inner :=
  (dropIdle_isPrefix _).trans ((List.dropLast_prefix _).trans (dropIdle_isPrefix inner))

theorem filterMap_outer (inner : List (List Char)) :
    (outer inner).filterMap component? = (inner.filterMap component?).dropLast := by
  rw [outer, filterMap_dropIdle, ← filterMap_dropIdle inner]
  by_cases some : dropIdle inner = []
  · rw [some]
    rfl
  · obtain ⟨before, last, component, kept, found⟩ := exists_of_dropIdle some
    simp [kept, found]

/-- What is left ends with a component, so it is no empty segment alone. -/
theorem outer_ne_marker (inner : List (List Char)) : outer inner ≠ [[]] := by
  intro marker
  have some : dropIdle (dropIdle inner).dropLast ≠ [] := by
    rw [outer] at marker
    simp [marker]
  obtain ⟨before, last, component, kept, found⟩ := exists_of_dropIdle some
  rw [← outer, marker, eq_comm, List.append_eq_singleton_iff] at kept
  have empty : before = [] ∧ last = [] := by simpa using kept
  rw [empty.2] at found
  cases found

theorem parent?_eq {start : List Char} (parted : parts path = (start, inner)) :
    parent? path =
      if dropIdle inner = [] then if start = ['.'] then some "" else none
      else some (String.ofList (start ++ joinSegments (outer inner))) := by
  unfold parent? outer
  rw [parted]
  dsimp only
  split
  · rename_i idle
    rw [if_pos idle]
  · rename_i some
    rw [if_neg some]

/-- Where a segment is left, there is a component. -/
theorem filterMap_ne_nil (some : dropIdle inner ≠ []) : inner.filterMap component? ≠ [] := by
  obtain ⟨before, last, component, kept, found⟩ := exists_of_dropIdle some
  rw [← filterMap_dropIdle, kept]
  simp [found]

theorem unbroken_outer {inner : List (List Char)} (unbroken : ∀ segment ∈ inner, '/' ∉ segment) :
    ∀ segment ∈ outer inner, '/' ∉ segment :=
  fun segment member => unbroken segment ((outer_isPrefix inner).subset member)

/-- The directory of a path at the root. -/
theorem components_outer_rooted (rest : String) :
    components (String.ofList ('/' :: joinSegments (outer (segments rest)))) =
      .root :: (outer (segments rest)).filterMap component? := by
  have text : String.ofList ('/' :: joinSegments (outer (segments rest))) =
      "/" ++ String.ofList (joinSegments (outer (segments rest))) := by
    rw [← String.toList_inj]
    simp
  have unbroken := unbroken_outer fun segment (member : segment ∈ segments rest) =>
    slash_not_mem_of_mem_segments member
  rw [text, components_slash, filterMap_segments_join unbroken]

/-- The directory of a path that starts with a dot. What is left of the segments starts with the
empty one behind the dot, if with any. -/
theorem components_outer_dotted (rest : String) :
    components (String.ofList ('.' :: joinSegments (outer ([] :: segments rest)))) =
      .current :: (outer ([] :: segments rest)).filterMap component? := by
  cases kept : outer ([] :: segments rest) with
  | nil => rfl
  | cons first more =>
      obtain ⟨tail, whole⟩ := outer_isPrefix ([] :: segments rest)
      rw [kept, List.cons_append, List.cons.injEq] at whole
      obtain ⟨rfl, whole⟩ := whole
      have unbroken : ∀ segment ∈ more, '/' ∉ segment := fun segment member =>
        slash_not_mem_of_mem_segments (whole ▸ List.mem_append_left tail member)
      have filled : more ≠ [] := by
        rintro rfl
        exact outer_ne_marker _ kept
      have text : String.ofList ('.' :: joinSegments ([] :: more)) =
          "./" ++ String.ofList (joinSegments more) := by
        rw [← String.toList_inj, joinSegments, List.intercalate_cons_of_ne_nil filled]
        simp [joinSegments]
      rw [text, components_dot_slash, filterMap_segments_join unbroken]
      rfl

/-- The directory of a path that starts with a name. -/
theorem components_outer_plain (notSlash : (segments path).head? ≠ some [])
    (notDot : (segments path).head? ≠ some ['.']) :
    components (String.ofList (joinSegments (outer (segments path)))) =
      (outer (segments path)).filterMap component? := by
  cases kept : outer (segments path) with
  | nil => rfl
  | cons first more =>
      have unbroken := unbroken_outer fun segment (member : segment ∈ segments path) =>
        slash_not_mem_of_mem_segments member
      obtain ⟨tail, whole⟩ := outer_isPrefix (segments path)
      rw [kept] at whole unbroken
      have pieces := segments_join (List.cons_ne_nil first more) unbroken
      rw [← whole] at notSlash notDot
      rw [components_of_head, pieces]
      · rwa [pieces]
      · rwa [pieces]

/-- **The directory of a path has its components but the last.** -/
theorem components_of_parent? (found : parent? path = some directory) :
    components directory = (components path).dropLast := by
  rcases parts_cases path with ⟨rest, rfl, parted⟩ | ⟨rest, rfl, parted⟩ | rfl | ⟨parted, head⟩
  · rw [parent?_eq parted] at found
    split_ifs at found with idle dot
    · cases dot
    obtain rfl := Option.some.inj found
    rw [List.singleton_append, components_outer_rooted, components_slash, filterMap_outer,
      List.dropLast_cons_of_ne_nil (filterMap_ne_nil idle)]
  · rw [parent?_eq parted] at found
    have named : ([] :: segments rest).filterMap component? =
        (segments rest).filterMap component? := rfl
    rw [components_dot_slash, ← named]
    split_ifs at found with idle
    · cases found
      rw [← filterMap_dropIdle, idle]
      rfl
    · obtain rfl := Option.some.inj found
      rw [List.singleton_append, components_outer_dotted, filterMap_outer,
        List.dropLast_cons_of_ne_nil (filterMap_ne_nil idle)]
  · cases found
    rfl
  · rw [parent?_eq parted] at found
    split_ifs at found with idle dot
    · cases dot
    obtain ⟨notSlash, notDot⟩ := head.resolve_left (by
      rintro rfl
      exact idle rfl)
    obtain rfl := Option.some.inj found
    rw [List.nil_append, components_outer_plain notSlash notDot, filterMap_outer,
      components_of_head notSlash notDot]

/-- A path without a directory has no component, or the root as its only one. -/
theorem components_of_parent?_eq_none (none : parent? path = none) :
    components path = [] ∨ components path = [.root] := by
  rcases parts_cases path with ⟨rest, rfl, parted⟩ | ⟨rest, rfl, parted⟩ | rfl | ⟨parted, head⟩
  · rw [parent?_eq parted] at none
    split_ifs at none with idle
    rw [components_slash, ← filterMap_dropIdle, idle]
    exact .inr rfl
  · rw [parent?_eq parted] at none
    split_ifs at none
    contradiction
  · cases none
  · rw [parent?_eq parted] at none
    split_ifs at none with idle
    rcases head with rfl | ⟨notSlash, notDot⟩
    · exact .inl rfl
    · rw [components_of_head notSlash notDot, ← filterMap_dropIdle, idle]
      exact .inl rfl

/-! ## File names -/

/-- **A path with a file name** has the components of its directory and the name behind them. -/
theorem exists_of_fileName? (named : fileName? path = some name) :
    ∃ directory, parent? path = some directory ∧
      components path = components directory ++ [.name name.toList] := by
  have ends : ∃ front, components path = front ++ [.name name.toList] := by
    unfold fileName? at named
    split at named
    · rename_i text last
      obtain ⟨front, whole⟩ := List.getLast?_eq_some_iff.mp last
      rw [← Option.some.inj named, String.toList_ofList]
      exact ⟨front, whole⟩
    · cases named
  obtain ⟨front, whole⟩ := ends
  cases found : parent? path with
  | none =>
      rcases components_of_parent?_eq_none found with nothing | root
      · simp [whole] at nothing
      · rw [whole, List.append_eq_singleton_iff] at root
        simp at root
  | some directory =>
      refine ⟨directory, rfl, ?_⟩
      rw [components_of_parent? found, whole, List.dropLast_concat]

/-- A component that is a name is a segment of the path. -/
theorem isName_of_mem_components {text : List Char} (member : .name text ∈ components path) :
    IsName text ∧ '/' ∉ text := by
  have inside : ∃ segment ∈ segments path, component? segment = some (.name text) := by
    rw [← List.mem_filterMap]
    unfold components at member
    dsimp only at member
    split_ifs at member <;> simpa using member
  obtain ⟨segment, listed, component⟩ := inside
  unfold component? at component
  split_ifs at component with idle parent
  · cases component
  · cases component
    rw [not_or] at idle
    exact ⟨⟨idle.1, idle.2, parent⟩, slash_not_mem_of_mem_segments listed⟩

theorem isName_of_fileName? (named : fileName? path = some name) :
    IsName name.toList ∧ '/' ∉ name.toList := by
  obtain ⟨directory, _, whole⟩ := exists_of_fileName? named
  have inside : .name name.toList ∈ components path := by simp [whole]
  exact isName_of_mem_components inside

/-- A name leads down by itself. -/
theorem leadsDown_of_isName (isName : IsName name.toList) (unbroken : '/' ∉ name.toList) :
    LeadsDown name ∧ components name = [.name name.toList] := by
  have single : segments name = [name.toList] := by
    rw [segments_eq, List.splitOn_eq_singleton unbroken]
  have down : LeadsDown name := .of_names (by simpa [single] using isName)
  refine ⟨down, ?_⟩
  rw [down.components_eq, single]
  simp [component?_of_isName isName]

/-- The path with another file name. -/
def withFileName (path name : String) : String := join ((parent? path).getD "") name

theorem components_withFileName {other : String} (named : fileName? path = some name)
    (isName : IsName other.toList) (unbroken : '/' ∉ other.toList) :
    components (withFileName path other) = (components path).dropLast ++ [.name other.toList] := by
  obtain ⟨directory, found, whole⟩ := exists_of_fileName? named
  obtain ⟨down, alone⟩ := leadsDown_of_isName isName unbroken
  rw [withFileName, found, Option.getD_some, components_join down, alone, whole,
    List.dropLast_concat]

end Path

end TemplateCompiler
