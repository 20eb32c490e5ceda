import TemplateCompiler.Path.Normal
import TemplateCompiler.Proofs.Text.Cutting

/-! # Segments and components

A segment is a name where it is neither empty nor one of the two dotted ones; a path whose
segments are names, after a first name at least, lies below whatever it is joined to
(`Path.liesBelow_join`).
-/

namespace TemplateCompiler

/-- A text without separators that is put at the end goes to the last piece. -/
theorem splitOn_append_of_not_mem {x : Char} (cs : List Char) {tail : List Char}
    (absent : x ∉ tail) :
    ∃ before last, cs.splitOn x = before ++ [last] ∧
      (cs ++ tail).splitOn x = before ++ [last ++ tail] :=
  splitOnP_append_of_not cs fun _ member =>
    beq_eq_false_iff_ne.mpr fun same => absent (same ▸ member)

namespace Path

theorem segments_eq (path : String) : segments path = path.toList.splitOn '/' := by
  rw [segments, Text.split_eq_splitOnP, List.splitOn_eq_splitOnP]

/-- A segment that names an entry of a directory. -/
def IsName (segment : List Char) : Prop :=
  segment ≠ [] ∧ segment ≠ ['.'] ∧ segment ≠ ['.', '.']

theorem component?_of_isName {segment : List Char} (name : IsName segment) :
    component? segment = some (.name segment) := by
  obtain ⟨nonempty, current, parent⟩ := name
  simp [component?, nonempty, current, parent]

/-- More characters at the end of a name make a name. -/
theorem IsName.append {segment : List Char} (name : IsName segment) (tail : List Char) :
    IsName (segment ++ tail) := by
  obtain ⟨nonempty, current, parent⟩ := name
  cases segment with
  | nil => exact absurd rfl nonempty
  | cons c rest =>
      refine ⟨by simp, ?_, ?_⟩
      · intro same
        simp only [List.cons_append, List.cons.injEq, List.append_eq_nil_iff] at same
        exact current (by rw [same.1, same.2.1])
      · intro same
        simp only [List.cons_append, List.cons.injEq, List.append_eq_singleton_iff] at same
        rcases same with ⟨dot, ⟨rfl, _⟩ | ⟨rfl, _⟩⟩
        · exact current (by rw [dot])
        · exact parent (by rw [dot])

/-- A file lies below a directory where its components are those of the directory and at
least one name more. -/
def LiesBelow (file directory : String) : Prop :=
  ∃ names : List (List Char), names ≠ [] ∧
    components file = components directory ++ names.map .name

/-- A path that leads down: its first segment is a name, and no segment leads back. -/
structure LeadsDown (path : String) : Prop where
  first : ∃ first rest, segments path = first :: rest ∧ IsName first
  noParent : ['.', '.'] ∉ segments path

namespace LeadsDown

variable {path : String}

theorem of_names (names : ∀ segment ∈ segments path, IsName segment) :
    LeadsDown path := by
  refine ⟨?_, fun parent => (names _ parent).2.2 rfl⟩
  cases pieces : segments path with
  | nil =>
      rw [segments, Text.split_eq_splitOnP] at pieces
      exact absurd pieces (List.splitOnP_ne_nil _ _)
  | cons first rest => exact ⟨first, rest, rfl, names first (pieces ▸ List.mem_cons_self ..)⟩

/-- A path that leads down is not absolute. -/
theorem not_isAbsolute (down : LeadsDown path) : isAbsolute path = false := by
  obtain ⟨first, rest, pieces, name⟩ := down.first
  rw [segments_eq] at pieces
  unfold isAbsolute
  cases characters : path.toList with
  | nil => rfl
  | cons c cs =>
      by_cases slash : c = '/'
      · rw [characters, slash, List.splitOn_cons_eq_if_modifyHead] at pieces
        simp only [beq_self_eq_true, ↓reduceIte, List.cons.injEq] at pieces
        exact absurd pieces.1.symm name.1
      · simpa using slash

/-- The components of a path that leads down are those of its segments. -/
theorem components_eq (down : LeadsDown path) :
    components path = (segments path).filterMap component? := by
  obtain ⟨first, rest, pieces, name⟩ := down.first
  have notCurrent : (segments path).head? ≠ some ['.'] := by
    rw [pieces]
    simpa using name.2.1
  simp [components, down.not_isAbsolute, notCurrent]

/-- The components of a path that leads down are names, and there is one at least. -/
theorem exists_names (down : LeadsDown path) :
    ∃ names : List (List Char), names ≠ [] ∧ components path = names.map .name := by
  have all : ∀ pieces : List (List Char), ['.', '.'] ∉ pieces →
      ∃ names : List (List Char), pieces.filterMap component? = names.map .name := by
    intro pieces
    induction pieces with
    | nil => exact fun _ => ⟨[], rfl⟩
    | cons piece pieces ih =>
        intro noParent
        obtain ⟨names, later⟩ := ih fun member => noParent (List.mem_cons_of_mem _ member)
        by_cases idle : piece = [] ∨ piece = ['.']
        · exact ⟨names, by simp [component?, idle, later]⟩
        · have notParent : piece ≠ ['.', '.'] := fun same => noParent (same ▸ List.mem_cons_self ..)
          exact ⟨piece :: names, by simp [component?, idle, notParent, later]⟩
  obtain ⟨first, rest, pieces, name⟩ := down.first
  obtain ⟨names, later⟩ := all rest fun member =>
    down.noParent (pieces ▸ List.mem_cons_of_mem _ member)
  refine ⟨first :: names, by simp, ?_⟩
  rw [down.components_eq, pieces, List.filterMap_cons, component?_of_isName name, later,
    List.map_cons]

end LeadsDown

/-- The first of several things is the first of more. -/
theorem head?_append_of_ne_nil {α : Type} {front : List α} (start : front ≠ []) (more : List α) :
    (front ++ more).head? = front.head? := by
  cases front with
  | nil => exact absurd rfl start
  | cons first rest => rfl

/-- Components of a path whose segments are those of another and more. -/
theorem components_of_segments {file directory : String} {front more : List (List Char)}
    (pieces : segments file = front ++ more) (absolute : isAbsolute file = isAbsolute directory)
    (start : front ≠ []) (head : front.head? = (segments directory).head?)
    (same : front.filterMap component? = (segments directory).filterMap component?) :
    components file = components directory ++ more.filterMap component? := by
  simp only [components, absolute, pieces, head?_append_of_ne_nil start, head,
    List.filterMap_append, same]
  split_ifs <;> rfl

/-- A text that starts with another that is not empty is absolute where that one is. -/
theorem isAbsolute_append {directory : String} (nonempty : directory ≠ "") (tail : String) :
    isAbsolute (directory ++ tail) = isAbsolute directory := by
  have characters : directory.toList ≠ [] :=
    fun empty => nonempty (String.toList_eq_nil_iff.mp empty)
  rw [isAbsolute, isAbsolute, String.toList_append, head?_append_of_ne_nil characters]

/-- **Joining keeps the components of the directory** and adds those of a path that leads
down. -/
theorem components_join {directory path : String} (down : LeadsDown path) :
    components (join directory path) = components directory ++ components path := by
  unfold join
  rw [down.not_isAbsolute, if_neg Bool.false_ne_true]
  by_cases empty : directory = ""
  · subst empty
    rfl
  rw [down.components_eq]
  split_ifs with slash
  · have ends : directory.toList.getLast? = some '/' := by
      rcases slash with blank | ends
      · exact absurd (String.isEmpty_iff.mp blank) empty
      · exact ends
    obtain ⟨front, characters⟩ := List.getLast?_eq_some_iff.mp ends
    have whole : segments directory = front.splitOn '/' ++ [[]] := by
      rw [segments_eq, characters, List.splitOn_append_cons_self, List.splitOn_nil]
    refine components_of_segments ?_ (isAbsolute_append empty path) (List.splitOn_ne_nil '/' front)
      ?_ ?_
    · rw [segments_eq, segments_eq, String.toList_append, characters, List.append_assoc,
        List.singleton_append, List.splitOn_append_cons_self]
    · rw [whole, head?_append_of_ne_nil (List.splitOn_ne_nil '/' front)]
    · rw [whole, List.filterMap_append]
      simp [component?]
  · have apart : (directory ++ "/" ++ path).toList = directory.toList ++ '/' :: path.toList := by
      simp
    refine components_of_segments ?_ ?_ (List.splitOn_ne_nil '/' directory.toList) ?_ ?_
    · rw [segments_eq, segments_eq, apart, List.splitOn_append_cons_self]
    · rw [String.append_assoc]
      exact isAbsolute_append empty ("/" ++ path)
    · rw [segments_eq]
    · rw [segments_eq]

/-- **A path that leads down lies below the directory it is joined to.** -/
theorem liesBelow_join {path : String} (down : LeadsDown path) (directory : String) :
    LiesBelow (join directory path) directory := by
  obtain ⟨names, nonempty, named⟩ := down.exists_names
  exact ⟨names, nonempty, by rw [components_join down, named]⟩

end Path

end TemplateCompiler
