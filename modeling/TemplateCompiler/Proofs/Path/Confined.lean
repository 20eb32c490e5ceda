import TemplateCompiler.Proofs.Path.NormalForm

/-! # Paths below their root

A confined path is one that include directives of a template may lead to: it starts with
no separator and its segments are names. Normal forms of paths without a separator at the
start are confined (`Path.Confined.of_normalize`), and a suffix that is plain keeps them
so, be it an extension or a segment more.
-/

namespace TemplateCompiler.Path

/-- A path below a root: not empty, without a separator at its start, of names only. -/
structure Confined (path : String) : Prop where
  nonempty : path ≠ ""
  unrooted : Unrooted path
  names : ∀ segment ∈ segments path, IsName segment

/-- What may be put behind a path: a text without separators and without two dots in a
row. -/
structure IsPlain (suffix : String) : Prop where
  noSeparator : ∀ c ∈ suffix.toList, isSeparator c = false
  noDots : ¬ ['.', '.'] <:+: suffix.toList

namespace IsPlain

variable {suffix : String}

/-- A text with one dot at most has no two dots in a row. -/
theorem of_count (noSeparator : suffix.toList.any isSeparator = false)
    (dots : suffix.toList.count '.' ≤ 1) : IsPlain suffix := by
  refine ⟨by simpa using noSeparator, fun twice => ?_⟩
  have two : ['.', '.'].count '.' ≤ suffix.toList.count '.' := twice.sublist.count_le '.'
  have same : ['.', '.'].count '.' = 2 := rfl
  omega

theorem slash_not_mem (plain : IsPlain suffix) : '/' ∉ suffix.toList := by
  intro slash
  exact absurd (plain.noSeparator '/' slash) (by decide)

theorem ne_parent (plain : IsPlain suffix) : suffix.toList ≠ ['.', '.'] := by
  intro parent
  exact plain.noDots (parent ▸ List.infix_rfl)

theorem segments_eq (plain : IsPlain suffix) : segments suffix = [suffix.toList] := by
  rw [Path.segments_eq, List.splitOn_eq_singleton plain.slash_not_mem]

end IsPlain

/-- The segments of a path and of a segment behind it. -/
theorem segments_append_slash (path rest : String) :
    segments (path ++ "/" ++ rest) = segments path ++ segments rest := by
  have apart : (path ++ "/" ++ rest).toList = path.toList ++ '/' :: rest.toList := by simp
  rw [segments_eq, segments_eq, segments_eq, apart, List.splitOn_append_cons_self]

theorem Unrooted.append {path : String} (unrooted : Unrooted path) (nonempty : path ≠ "")
    (tail : String) : Unrooted (path ++ tail) := by
  have characters : path.toList ≠ [] := fun empty => nonempty (String.toList_eq_nil_iff.mp empty)
  intro c head
  rw [String.toList_append, head?_append_of_ne_nil characters] at head
  exact unrooted c head

/-- A path that leads down still does with a plain segment behind it. -/
theorem LeadsDown.append_segment {path name : String} (down : LeadsDown path)
    (plain : IsPlain name) : LeadsDown (path ++ "/" ++ name) := by
  obtain ⟨first, rest, pieces, start⟩ := down.first
  refine ⟨⟨first, rest ++ segments name, ?_, start⟩, ?_⟩
  · rw [segments_append_slash, pieces, List.cons_append]
  · rw [segments_append_slash, plain.segments_eq, List.mem_append, List.mem_singleton]
    rintro (inside | last)
    · exact down.noParent inside
    · exact plain.ne_parent last.symm

namespace Confined

variable {path : String}

theorem leadsDown (confined : Confined path) : LeadsDown path := .of_names confined.names

theorem of_normalize {raw : String} (unrooted : Unrooted raw) (nonempty : raw ≠ "")
    (normal : normalize raw = .ok path) (some : path ≠ "") : Confined path := by
  have kept := segments_of_normalize unrooted nonempty normal some
  refine ⟨some, ?_, fun segment member => (kept segment member).1⟩
  intro c head
  cases characters : path.toList with
  | nil => exact absurd (String.toList_eq_nil_iff.mp characters) some
  | cons d rest =>
      rw [characters] at head
      cases head
      by_cases slash : c = '/'
      · have first : [] ∈ segments path := by
          rw [segments_eq, characters, slash, List.splitOn_cons_eq_if_modifyHead]
          simp
        exact absurd rfl (kept [] first).1.1
      · obtain ⟨piece, more, pieces⟩ :=
          Text.split_of_head (p := (· == '/')) (beq_eq_false_iff_ne.mpr slash) rest
        have first : c :: piece ∈ segments path := by
          rw [segments, characters, pieces]
          exact List.mem_cons_self ..
        exact (kept _ first).2 c (List.mem_cons_self ..)

/-- A plain suffix keeps a path confined. -/
theorem append (confined : Confined path) {suffix : String} (plain : IsPlain suffix) :
    Confined (path ++ suffix) := by
  refine ⟨?_, confined.unrooted.append confined.nonempty suffix, ?_⟩
  · intro empty
    exact confined.nonempty (String.append_eq_empty_iff.mp empty).1
  · obtain ⟨before, last, pieces, extended⟩ :=
      splitOn_append_of_not_mem path.toList plain.slash_not_mem
    intro segment member
    have name : ∀ segment ∈ before ++ [last], IsName segment := by
      rw [← pieces, ← segments_eq]
      exact confined.names
    rw [segments_eq, String.toList_append, extended, List.mem_append, List.mem_singleton] at member
    rcases member with inside | rfl
    · exact name segment (List.mem_append_left _ inside)
    · exact (name last (by simp)).append suffix.toList

/-- One more segment that is no idle one keeps a path confined. -/
theorem append_segment (confined : Confined path) {name : String} (plain : IsPlain name)
    (notEmpty : name ≠ "") (notDot : name ≠ ".") : Confined (path ++ "/" ++ name) := by
  refine ⟨by simp, ?_, ?_⟩
  · rw [String.append_assoc]
    exact confined.unrooted.append confined.nonempty _
  · intro segment member
    rw [segments_append_slash, plain.segments_eq, List.mem_append, List.mem_singleton] at member
    rcases member with inside | rfl
    · exact confined.names segment inside
    · refine ⟨?_, ?_, plain.ne_parent⟩
      · exact fun empty => notEmpty (String.toList_eq_nil_iff.mp empty)
      · exact fun dot => notDot (String.toList_inj.mp dot)

end Confined

end TemplateCompiler.Path
