import TemplateCompiler.Proofs.Path.NormalForm

/-! # Refined paths are canonical

What refining makes of a path has one written form: slashes between its segments, no segment that
stays where it is, and `..` at the start only, where walking out is allowed (`Path.IsCanonical`).
The stack that refining works with has that form after every segment (`IsStack.of_walk?`). Refining
leaves canonical paths as they are, the empty one excepted: its only segment is empty, and an empty
segment at the start is read as the root marker (`Path.refine_eq_self_iff`).
-/

namespace TemplateCompiler

/-- Separators that agree on a text split it alike. -/
theorem Text.split_congr {p q : Char → Bool} {cs : List Char} (agree : ∀ c ∈ cs, p c = q c) :
    split p cs = split q cs := by
  induction cs with
  | nil => rfl
  | cons c cs ih =>
      rw [split, split, agree c (List.mem_cons_self ..),
        ih fun d later => agree d (List.mem_cons_of_mem _ later)]

namespace Path

/-- A segment that leads down: it is written out, without separators, and neither stays where it is
nor leads back. -/
structure IsInner (segment : List Char) : Prop where
  filled : segment ≠ []
  notDot : isDot segment = false
  notParent : segment ≠ ['.', '.']
  unbroken : ∀ c ∈ segment, isSeparator c = false

/-- What a normal form starts with: the root marker, or `..` segments where walking out is
allowed. -/
inductive IsStart (allowEscape : Bool) : List (List Char) → Prop where
  | root : IsStart allowEscape [[]]
  | parents (count : Nat) (allowed : allowEscape = false → count = 0) :
      IsStart allowEscape (List.replicate count ['.', '.'])

/-- The stack of a normal form, latest segment first: segments that lead down on top of a start. -/
def IsStack (allowEscape : Bool) (stack : List (List Char)) : Prop :=
  ∃ inner start, stack = inner ++ start ∧ (∀ segment ∈ inner, IsInner segment) ∧
    IsStart allowEscape start

variable {allowEscape : Bool} {stack next segments inner start : List (List Char)}
  {path result : String}

theorem IsStart.reverse_eq (isStart : IsStart allowEscape start) : start.reverse = start := by
  cases isStart with
  | root => rfl
  | parents count allowed => exact List.reverse_replicate

theorem IsStart.unbroken (isStart : IsStart allowEscape start) :
    ∀ segment ∈ start, ∀ c ∈ segment, isSeparator c = false := by
  cases isStart with
  | root => simp
  | parents count allowed =>
      intro segment member
      rw [List.eq_of_mem_replicate member]
      simp [isSeparator]

/-! ## The stack -/

namespace IsStack

/-- A segment that leads down goes on top. -/
theorem cons (isStack : IsStack allowEscape stack) {segment : List Char} (down : IsInner segment) :
    IsStack allowEscape (segment :: stack) := by
  obtain ⟨inner, start, rfl, leadsDown, isStart⟩ := isStack
  exact ⟨segment :: inner, start, rfl, List.forall_mem_cons.mpr ⟨down, leadsDown⟩, isStart⟩

/-- Stepping back drops a segment that leads down, or leads further out of the start. -/
theorem of_stepBack? (isStack : IsStack allowEscape stack)
    (stepped : stepBack? allowEscape stack = some next) : IsStack allowEscape next := by
  obtain ⟨inner, start, rfl, leadsDown, isStart⟩ := isStack
  cases inner with
  | cons top inner =>
      have down := leadsDown top (List.mem_cons_self ..)
      simp only [List.cons_append, stepBack?, down.notParent, down.filled, ↓reduceIte,
        Option.some.injEq] at stepped
      exact ⟨inner, start, stepped.symm,
        fun segment member => leadsDown segment (List.mem_cons_of_mem _ member), isStart⟩
  | nil =>
      -- Only `..` segments are left, one more than before, or one in place of the root marker.
      have out : ∃ count, stepBack? allowEscape start =
          if allowEscape then some (List.replicate count ['.', '.']) else none := by
        cases isStart with
        | root => exact ⟨1, by simp [stepBack?]⟩
        | parents count allowed =>
            cases count with
            | zero => exact ⟨1, by simp [stepBack?]⟩
            | succ count => exact ⟨count + 2, by simp [stepBack?, List.replicate_succ]⟩
      obtain ⟨count, out⟩ := out
      rw [List.nil_append, out] at stepped
      split_ifs at stepped with escapes
      cases stepped
      refine ⟨[], _, rfl, by simp, .parents count ?_⟩
      simp [escapes]

/-- **Walking keeps the form of the stack.** -/
theorem of_walk? (isStack : IsStack allowEscape stack)
    (unbroken : ∀ segment ∈ segments, ∀ c ∈ segment, isSeparator c = false)
    (walked : walk? allowEscape stack segments = some next) : IsStack allowEscape next := by
  induction segments generalizing stack with
  | nil =>
      cases walked
      exact isStack
  | cons segment rest ih =>
      have behind := fun other later => unbroken other (List.mem_cons_of_mem segment later)
      unfold walk? at walked
      split_ifs at walked with parent idle
      · obtain ⟨below, stepped, continued⟩ := Option.bind_eq_some_iff.mp walked
        exact ih (isStack.of_stepBack? stepped) behind continued
      · exact ih isStack behind walked
      · rw [not_or, Bool.not_eq_true] at idle
        have down : IsInner segment :=
          ⟨idle.1, idle.2, parent, unbroken segment (List.mem_cons_self ..)⟩
        exact ih (isStack.cons down) behind walked

end IsStack

/-- The stack after the segments of a path, latest segment first. -/
def stack? (allowEscape : Bool) (path : String) : Option (List (List Char)) :=
  match Text.split isSeparator path.toList with
  | [] :: rest => walk? allowEscape [[]] rest
  | segments => walk? allowEscape [] segments

theorem normalSegments?_eq (allowEscape : Bool) (path : String) :
    normalSegments? allowEscape path = (stack? allowEscape path).map List.reverse := rfl

theorem isStack_of_stack? (walked : stack? allowEscape path = some stack) :
    IsStack allowEscape stack := by
  have unbroken : ∀ segment ∈ Text.split isSeparator path.toList,
      ∀ c ∈ segment, isSeparator c = false :=
    fun segment member c char => (Text.mem_of_mem_split member c char).2
  unfold stack? at walked
  split at walked
  · rename_i rest split
    rw [split] at unbroken
    exact IsStack.of_walk? ⟨[], [[]], rfl, by simp, .root⟩
      (fun other later => unbroken other (List.mem_cons_of_mem _ later)) walked
  · exact IsStack.of_walk? ⟨[], [], rfl, by simp, .parents 0 fun _ => rfl⟩ unbroken walked

/-- **A refined path** is written from a start and segments that lead down. -/
theorem exists_of_refine (refined : refine path allowEscape = .ok result) :
    ∃ start inner, IsStart allowEscape start ∧ (∀ segment ∈ inner, IsInner segment) ∧
      result = textOfSegments (start ++ inner) := by
  unfold refine at refined
  split at refined
  case h_2 => cases refined
  case h_1 pieces normal =>
    cases refined
    rw [normalSegments?_eq] at normal
    obtain ⟨stack, walked, rfl⟩ := Option.map_eq_some_iff.mp normal
    obtain ⟨inner, start, rfl, leadsDown, isStart⟩ := isStack_of_stack? walked
    refine ⟨start, inner.reverse, isStart, ?_, ?_⟩
    · simpa using leadsDown
    · rw [List.reverse_append, isStart.reverse_eq]

/-! ## Walking along a normal form -/

theorem walk?_inner (leadsDown : ∀ segment ∈ inner, IsInner segment) :
    walk? allowEscape stack inner = some (inner.reverse ++ stack) := by
  induction inner generalizing stack with
  | nil => rfl
  | cons segment inner ih =>
      obtain ⟨down, later⟩ := List.forall_mem_cons.mp leadsDown
      rw [walk?, if_neg down.notParent, if_neg (by simp [down.filled, down.notDot]), ih later]
      simp

theorem walk?_parents (count before : Nat) :
    walk? true (List.replicate before ['.', '.'])
        (List.replicate count ['.', '.'] ++ segments) =
      walk? true (List.replicate (count + before) ['.', '.']) segments := by
  induction count generalizing before with
  | zero => simp
  | succ count ih =>
      have back : stepBack? true (List.replicate before ['.', '.']) =
          some (List.replicate (before + 1) ['.', '.']) := by
        cases before <;> simp [stepBack?, List.replicate_succ]
      rw [List.replicate_succ, List.cons_append, walk?, if_pos rfl, back, Option.bind_some, ih]
      congr 2
      omega

/-- The normal form of a text that is split into a normal form. -/
theorem normalSegments?_of_split (isStart : IsStart allowEscape start)
    (leadsDown : ∀ segment ∈ inner, IsInner segment) (nonempty : start ++ inner ≠ [])
    (split : Text.split isSeparator path.toList = start ++ inner) :
    normalSegments? allowEscape path = some (start ++ inner) := by
  unfold normalSegments?
  rw [split]
  cases isStart with
  | root => simp [walk?_inner leadsDown]
  | parents count allowed =>
      have filled : ∀ rest, List.replicate count ['.', '.'] ++ inner ≠ [] :: rest := by
        intro rest same
        have first : [] ∈ List.replicate count ['.', '.'] ++ inner :=
          same ▸ List.mem_cons_self ..
        rcases List.mem_append.mp first with parent | down
        · cases List.eq_of_mem_replicate parent
        · exact (leadsDown [] down).filled rfl
      have walked : walk? allowEscape [] (List.replicate count ['.', '.'] ++ inner) =
          some (inner.reverse ++ List.replicate count ['.', '.']) := by
        cases allowEscape with
        | true =>
            have out : walk? true [] (List.replicate count ['.', '.'] ++ inner) =
                walk? true (List.replicate count ['.', '.']) inner := walk?_parents count 0
            rw [out, walk?_inner leadsDown]
        | false =>
            rw [allowed rfl]
            exact walk?_inner leadsDown
      split
      · rename_i rest same
        exact absurd same (filled rest)
      · simp [walked]

/-! ## Canonical paths -/

/-- The segments that a path is written from: none in the empty path, and the root marker alone in
the root. -/
def writtenSegments (path : String) : List (List Char) :=
  if path = "" then [] else if path = "/" then [[]] else Text.split isSeparator path.toList

/-- A path in its one written form: slashes between segments, no empty segment but a root marker at
the start, no segment that is a dot when trimmed, and `..` segments only in a run at the start,
which is empty where walking out is not allowed. -/
structure IsCanonical (allowEscape : Bool) (path : String) : Prop where
  slashes : '\\' ∉ path.toList
  filled : ∀ segment ∈ (writtenSegments path).tail, segment ≠ []
  noDot : ∀ segment ∈ writtenSegments path, isDot segment = false
  parentsLead : ∃ count rest, writtenSegments path = List.replicate count ['.', '.'] ++ rest ∧
    ['.', '.'] ∉ rest ∧ (allowEscape = false → count = 0)

/-- Segments without separators are those of the text they are joined to. -/
theorem split_joinSegments (nonempty : segments ≠ [])
    (unbroken : ∀ segment ∈ segments, ∀ c ∈ segment, isSeparator c = false) :
    Text.split isSeparator (joinSegments segments) = segments := by
  have agree : ∀ c ∈ joinSegments segments, isSeparator c = (c == '/') := by
    intro c member
    rcases mem_of_mem_intercalate member with slash | ⟨segment, inside, char⟩
    · rw [List.mem_singleton.mp slash]
      rfl
    · have plain := unbroken segment inside c char
      rw [plain]
      exact ((Bool.or_eq_false_iff.mp plain).1).symm
  rw [Text.split_congr agree, Text.split_eq_splitOnP, ← List.splitOn_eq_splitOnP]
  refine List.splitOn_intercalate '/' ?_ nonempty
  intro segment member slash
  exact absurd (unbroken segment member '/' slash) (by decide)

/-- **The segments of a path can be read off its text**, where it is written from a start and
segments that lead down. -/
theorem writtenSegments_textOfSegments (isStart : IsStart allowEscape start)
    (leadsDown : ∀ segment ∈ inner, IsInner segment) :
    writtenSegments (textOfSegments (start ++ inner)) = start ++ inner := by
  by_cases empty : start ++ inner = []
  · rw [empty]
    rfl
  by_cases root : start ++ inner = [[]]
  · rw [root]
    rfl
  have unbroken : ∀ segment ∈ start ++ inner, ∀ c ∈ segment, isSeparator c = false := by
    intro segment member
    rcases List.mem_append.mp member with atStart | down
    · exact isStart.unbroken segment atStart
    · exact (leadsDown segment down).unbroken
  have pieces := split_joinSegments empty unbroken
  have notEmpty : String.ofList (joinSegments (start ++ inner)) ≠ "" := by
    intro same
    rw [← String.toList_inj, String.toList_ofList] at same
    rw [same] at pieces
    exact root pieces.symm
  have notRoot : String.ofList (joinSegments (start ++ inner)) ≠ "/" := by
    intro same
    rw [← String.toList_inj, String.toList_ofList] at same
    rw [same] at pieces
    -- The second of two empty segments would have to lead down.
    have two : start ++ inner = [[], []] := pieces.symm
    cases isStart with
    | root =>
        have rest : inner = [[]] := List.tail_eq_of_cons_eq two
        exact (leadsDown [] (rest ▸ List.mem_singleton_self _)).filled rfl
    | parents count allowed =>
        cases count with
        | zero =>
            have all : inner = [[], []] := two
            exact (leadsDown [] (all ▸ List.mem_cons_self ..)).filled rfl
        | succ count => simp [List.replicate_succ] at two
  rw [textOfSegments, if_neg root, writtenSegments, if_neg notEmpty, if_neg notRoot,
    String.toList_ofList, pieces]

/-- A path that is written from a start and segments that lead down is canonical. -/
theorem isCanonical_textOfSegments (isStart : IsStart allowEscape start)
    (leadsDown : ∀ segment ∈ inner, IsInner segment) :
    IsCanonical allowEscape (textOfSegments (start ++ inner)) := by
  have written := writtenSegments_textOfSegments isStart leadsDown
  have noParent : ['.', '.'] ∉ inner := fun member => (leadsDown _ member).notParent rfl
  refine ⟨?_, ?_, ?_, ?_⟩
  · unfold textOfSegments
    split_ifs with root
    · decide
    · rw [String.toList_ofList]
      intro member
      rcases mem_of_mem_intercalate member with slash | ⟨segment, inside, char⟩
      · exact absurd (List.mem_singleton.mp slash) (by decide)
      · rcases List.mem_append.mp inside with atStart | down
        · exact absurd (isStart.unbroken segment atStart _ char) (by decide)
        · exact absurd ((leadsDown segment down).unbroken _ char) (by decide)
  · rw [written]
    intro segment member
    have later : segment ∈ start.tail ∨ segment ∈ inner := by
      cases start with
      | nil => exact .inr (List.mem_of_mem_tail member)
      | cons first rest => exact List.mem_append.mp member
    rcases later with atStart | down
    · cases isStart with
      | root => cases atStart
      | parents count allowed =>
          rw [List.eq_of_mem_replicate (List.mem_of_mem_tail atStart)]
          exact List.cons_ne_nil _ _
    · exact (leadsDown segment down).filled
  · rw [written]
    intro segment member
    rcases List.mem_append.mp member with atStart | down
    · cases isStart with
      | root =>
          rw [List.mem_singleton.mp atStart]
          rfl
      | parents count allowed =>
          rw [List.eq_of_mem_replicate atStart]
          decide
    · exact (leadsDown segment down).notDot
  · rw [written]
    cases isStart with
    | root => exact ⟨0, [] :: inner, rfl, by simp [noParent], fun _ => rfl⟩
    | parents count allowed => exact ⟨count, inner, rfl, noParent, allowed⟩

namespace IsCanonical

/-- A canonical path is written from a start and segments that lead down. -/
theorem exists_form (canonical : IsCanonical allowEscape path) :
    ∃ start inner, IsStart allowEscape start ∧ (∀ segment ∈ inner, IsInner segment) ∧
      writtenSegments path = start ++ inner := by
  have unbroken : ∀ segment ∈ writtenSegments path, ∀ c ∈ segment, isSeparator c = false := by
    intro segment member c char
    unfold writtenSegments at member
    split_ifs at member
    · cases member
    · rw [List.mem_singleton.mp member] at char
      cases char
    · exact (Text.mem_of_mem_split member c char).2
  obtain ⟨count, rest, written, noParent, allowed⟩ := canonical.parentsLead
  have noDot := canonical.noDot
  have filled := canonical.filled
  rw [written] at unbroken noDot filled
  have down : ∀ segment ∈ rest, segment ≠ [] → IsInner segment := fun segment member full =>
    ⟨full, noDot segment (List.mem_append_right _ member),
      fun parent => noParent (parent ▸ member),
      unbroken segment (List.mem_append_right _ member)⟩
  cases count with
  | succ count =>
      refine ⟨_, rest, .parents (count + 1) allowed, fun segment member => ?_, written⟩
      refine down segment member (filled segment ?_)
      rw [List.replicate_succ, List.cons_append, List.tail_cons]
      exact List.mem_append_right _ member
  | zero =>
      -- The first segment may be the root marker.
      cases rest with
      | nil => exact ⟨[], [], .parents 0 fun _ => rfl, by simp, written⟩
      | cons first rest =>
          have later : ∀ segment ∈ rest, IsInner segment := fun segment member =>
            down segment (List.mem_cons_of_mem _ member) (filled segment member)
          by_cases root : first = []
          · rw [root] at written
            exact ⟨[[]], rest, .root, later, written⟩
          · refine ⟨[], first :: rest, .parents 0 fun _ => rfl, ?_, written⟩
            exact List.forall_mem_cons.mpr ⟨down first (List.mem_cons_self ..) root, later⟩

/-- A canonical path has slashes only between its segments. -/
theorem split_eq_segments (canonical : IsCanonical allowEscape path) :
    Text.split isSeparator path.toList = Path.segments path := by
  refine Text.split_congr fun c member => ?_
  have other : c ≠ '\\' := fun same => canonical.slashes (same ▸ member)
  simp [isSeparator, other]

/-- **Refining leaves canonical paths as they are**, where they are not empty. -/
theorem refine_eq (canonical : IsCanonical allowEscape path) (nonempty : path ≠ "") :
    refine path allowEscape = .ok path := by
  by_cases root : path = "/"
  · subst root
    cases allowEscape <;> decide
  obtain ⟨start, inner, isStart, leadsDown, written⟩ := canonical.exists_form
  have pieces : Text.split isSeparator path.toList = start ++ inner := by
    rwa [writtenSegments, if_neg nonempty, if_neg root] at written
  have some : start ++ inner ≠ [] := pieces ▸ Text.split_ne_nil _ _
  have joined : joinSegments (start ++ inner) = path.toList := by
    rw [← pieces, canonical.split_eq_segments, Path.segments_eq]
    exact List.intercalate_splitOn '/'
  have notMarker : start ++ inner ≠ [[]] := by
    intro marker
    rw [marker] at joined
    exact nonempty (String.toList_eq_nil_iff.mp joined.symm)
  rw [refine, normalSegments?_of_split isStart leadsDown some pieces]
  simp only [textOfSegments, if_neg notMarker, joined, String.ofList_toList]

end IsCanonical

theorem isCanonical_of_refine (refined : refine path allowEscape = .ok result) :
    IsCanonical allowEscape result := by
  obtain ⟨start, inner, isStart, leadsDown, rfl⟩ := exists_of_refine refined
  exact isCanonical_textOfSegments isStart leadsDown

theorem refine_empty (allowEscape : Bool) : refine "" allowEscape = .ok "/" := by
  cases allowEscape <;> decide

/-- The fixed points of refining are the canonical paths that are not empty. -/
theorem refine_eq_self_iff :
    refine path allowEscape = .ok path ↔ path ≠ "" ∧ IsCanonical allowEscape path := by
  constructor
  · intro fixed
    refine ⟨?_, isCanonical_of_refine fixed⟩
    rintro rfl
    rw [refine_empty] at fixed
    exact absurd (Except.ok.inj fixed) (by decide)
  · rintro ⟨nonempty, canonical⟩
    exact canonical.refine_eq nonempty

/-- **Refined paths are canonical**, and refining leaves them as they are unless nothing is left of
the path: the empty path is refined to the root. -/
theorem canonical_of_refine (refined : refine path allowEscape = .ok result) :
    IsCanonical allowEscape result ∧
      (refine result allowEscape = .ok result ↔ result ≠ "") ∧
      (result = "" → refine result allowEscape = .ok "/") := by
  have canonical := isCanonical_of_refine refined
  refine ⟨canonical, ?_, ?_⟩
  · rw [refine_eq_self_iff]
    exact and_iff_left canonical
  · rintro rfl
    exact refine_empty allowEscape

/-- A path that walks out and in again, and one that walks back to where it starts. -/
theorem canonical_of_refine_page :
    (refine "a\\../..// . /b" true = .ok "../b" ∧ IsCanonical true "../b" ∧
      refine "../b" true = .ok "../b") ∧
    refine "a/.." false = .ok "" ∧ refine "" false = .ok "/" := by
  have out : refine "a\\../..// . /b" true = .ok "../b" := by decide
  have back : refine "a/.." false = .ok "" := by decide
  obtain ⟨canonical, fixed, _⟩ := canonical_of_refine out
  obtain ⟨_, _, empty⟩ := canonical_of_refine back
  exact ⟨⟨out, canonical, fixed.mpr (by decide)⟩, back, empty rfl⟩

end Path

end TemplateCompiler
