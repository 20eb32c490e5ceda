import TemplateCompiler.Proofs.Path.Segments

/-! # What normal forms look like

The normal form of a path that does not start with a separator is empty or consists of
names (`Path.segments_of_normalize`): the segments that stay where they are and those
that lead back are gone, and a path that would lead out has no normal form.
-/

namespace TemplateCompiler

/-- What is between the parts of a text, or in one of them. -/
theorem mem_of_mem_intercalate {α : Type} {x : α} {separator : List α} {parts : List (List α)}
    (member : x ∈ separator.intercalate parts) : x ∈ separator ∨ ∃ part ∈ parts, x ∈ part := by
  induction parts with
  | nil => cases member
  | cons part rest ih =>
      cases rest with
      | nil => exact .inr ⟨part, List.mem_cons_self .., by simpa using member⟩
      | cons next rest =>
          rw [List.intercalate_cons_cons, List.mem_append, List.mem_append] at member
          rcases member with (own | between) | later
          · exact .inr ⟨part, List.mem_cons_self .., own⟩
          · exact .inl between
          · rcases ih later with between | ⟨piece, inside, char⟩
            · exact .inl between
            · exact .inr ⟨piece, List.mem_cons_of_mem _ inside, char⟩

end TemplateCompiler

namespace TemplateCompiler.Path

/-- A segment of a normal form: a name without separators. -/
def IsKept (segment : List Char) : Prop :=
  IsName segment ∧ ∀ c ∈ segment, isSeparator c = false

/-- A path that does not start with a separator. -/
def Unrooted (path : String) : Prop := ∀ c ∈ path.toList.head?, isSeparator c = false

instance (path : String) : Decidable (Unrooted path) :=
  decidable_of_iff (path.toList.head?.all (fun c => !isSeparator c) = true) <| by
    simp [Unrooted, Option.all_eq_true]

/-- Stepping back drops the latest segment of the stack. -/
theorem stepBack?_eq_some {stack below : List (List Char)}
    (stepped : stepBack? false stack = some below) : ∃ top, stack = top :: below := by
  cases stack with
  | nil => cases stepped
  | cons top rest =>
      simp only [stepBack?, Bool.false_eq_true, ↓reduceIte] at stepped
      split_ifs at stepped
      cases stepped
      exact ⟨top, rfl⟩

/-- Walking puts names on the stack, which are segments of the path. -/
theorem mem_of_walk? {stack segments result : List (List Char)}
    (walked : walk? false stack segments = some result) :
    ∀ piece ∈ result, piece ∈ stack ∨ piece ∈ segments ∧ IsName piece := by
  induction segments generalizing stack with
  | nil =>
      cases walked
      exact fun _ member => .inl member
  | cons segment rest ih =>
      intro piece member
      unfold walk? at walked
      split_ifs at walked with parent idle
      · obtain ⟨below, stepped, continued⟩ := Option.bind_eq_some_iff.mp walked
        obtain ⟨top, rfl⟩ := stepBack?_eq_some stepped
        rcases ih continued piece member with before | ⟨later, name⟩
        · exact .inl (List.mem_cons_of_mem _ before)
        · exact .inr ⟨List.mem_cons_of_mem _ later, name⟩
      · rcases ih walked piece member with before | ⟨later, name⟩
        · exact .inl before
        · exact .inr ⟨List.mem_cons_of_mem _ later, name⟩
      · rcases ih walked piece member with before | ⟨later, name⟩
        · rcases List.mem_cons.mp before with rfl | below
          · rw [not_or] at idle
            have notDot : piece ≠ ['.'] := by
              intro dot
              exact idle.2 (by rw [dot]; rfl)
            exact .inr ⟨List.mem_cons_self .., idle.1, notDot, parent⟩
          · exact .inl below
        · exact .inr ⟨List.mem_cons_of_mem _ later, name⟩

/-- The segments of a path that is written from its segments. -/
theorem segments_textOfSegments {pieces : List (List Char)} (nonempty : pieces ≠ [])
    (kept : ∀ segment ∈ pieces, IsKept segment) : segments (textOfSegments pieces) = pieces := by
  have notRoot : pieces ≠ [[]] := by
    intro root
    exact (kept [] (by rw [root]; exact List.mem_singleton.mpr rfl)).1.1 rfl
  rw [textOfSegments, if_neg notRoot, segments_eq, String.toList_ofList, joinSegments]
  refine List.splitOn_intercalate '/' ?_ nonempty
  intro segment member slash
  exact absurd ((kept segment member).2 '/' slash) (by decide)

/-- **Normal forms consist of names.** The normal form of a path that does not start with a
separator is written from names, which have characters of the path in them and no
separators. -/
theorem exists_pieces_of_normalize {path result : String} (unrooted : Unrooted path)
    (nonempty : path ≠ "") (normal : normalize path = .ok result) :
    ∃ pieces, result = textOfSegments pieces ∧
      ∀ piece ∈ pieces, IsKept piece ∧ ∀ c ∈ piece, c ∈ path.toList := by
  unfold normalize refine at normal
  split at normal
  case h_2 => cases normal
  case h_1 pieces walked =>
    cases normal
    refine ⟨pieces, rfl, ?_⟩
    unfold normalSegments? at walked
    cases characters : path.toList with
    | nil => exact absurd (String.toList_eq_nil_iff.mp characters) nonempty
    | cons c cs =>
        have head : isSeparator c = false := unrooted c (by rw [characters]; rfl)
        obtain ⟨piece, rest, first⟩ := Text.split_of_head head cs
        rw [characters, first] at walked
        obtain ⟨stack, result, rfl⟩ := Option.map_eq_some_iff.mp walked
        intro segment member
        rcases mem_of_walk? result segment (List.mem_reverse.mp member) with
          nothing | ⟨inside, name⟩
        · cases nothing
        · have plain := Text.mem_of_mem_split (first ▸ inside)
          exact ⟨⟨name, fun d char => (plain d char).2⟩, fun d char => (plain d char).1⟩

/-- A normal form that is not empty has names as its segments. -/
theorem segments_of_normalize {path result : String} (unrooted : Unrooted path)
    (nonempty : path ≠ "") (normal : normalize path = .ok result) (some : result ≠ "") :
    ∀ segment ∈ segments result, IsKept segment := by
  obtain ⟨pieces, rfl, kept⟩ := exists_pieces_of_normalize unrooted nonempty normal
  have names : ∀ piece ∈ pieces, IsKept piece := fun piece member => (kept piece member).1
  have filled : pieces ≠ [] := by
    rintro rfl
    exact some rfl
  rw [segments_textOfSegments filled names]
  exact names

/-- A normal form has characters of the path and slashes. -/
theorem mem_of_normalize {path result : String} (unrooted : Unrooted path)
    (nonempty : path ≠ "") (normal : normalize path = .ok result) :
    ∀ c ∈ result.toList, c = '/' ∨ c ∈ path.toList := by
  obtain ⟨pieces, rfl, kept⟩ := exists_pieces_of_normalize unrooted nonempty normal
  intro c member
  unfold textOfSegments at member
  split_ifs at member with root
  · exact .inl (by simpa using member)
  · rw [String.toList_ofList, joinSegments] at member
    rcases mem_of_mem_intercalate member with slash | ⟨piece, inside, char⟩
    · exact .inl (List.mem_singleton.mp slash)
    · exact .inr ((kept piece inside).2 c char)

/-- The directory part of a path is what the path starts with. -/
theorem directory_isPrefix (path : String) : (directory path).toList <+: path.toList := by
  rw [directory, String.toList_ofList]
  rw [← List.reverse_reverse path.toList, List.reverse_prefix, List.reverse_reverse]
  exact (List.drop_suffix _ _).trans (List.dropWhile_suffix _)

end TemplateCompiler.Path
