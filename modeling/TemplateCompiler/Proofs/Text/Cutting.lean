import Mathlib.Data.List.DropRight
import Mathlib.Tactic.SplitIfs
import TemplateCompiler.Text.Trim

/-! # Laws of cutting text

Splitting a text is the library's `List.splitOnP`, which gives its laws, and so does
`List.rdropWhile` for trimming. The lines of a text are its pieces between line feeds up to a
carriage return, which is a blank; so the words of its lines, as they are cut out of each line and
trimmed, are those of the text cut at line feeds as well (`Text.wordsOf_lines`).
-/

namespace TemplateCompiler

/-- A text without separators that is put at the end goes to the last piece. -/
theorem splitOnP_append_of_not {p : Char → Bool} (cs : List Char) {tail : List Char}
    (absent : ∀ c ∈ tail, p c = false) :
    ∃ before last, cs.splitOnP p = before ++ [last] ∧
      (cs ++ tail).splitOnP p = before ++ [last ++ tail] := by
  induction cs with
  | nil => exact ⟨[], [], rfl, by simp [List.splitOnP_eq_singleton absent]⟩
  | cons c cs ih =>
      obtain ⟨before, last, pieces, extended⟩ := ih
      rw [List.cons_append, List.splitOnP_cons_eq_if_modifyHead,
        List.splitOnP_cons_eq_if_modifyHead, pieces, extended]
      by_cases separator : p c = true
      · exact ⟨[] :: before, last, by simp [separator], by simp [separator]⟩
      · cases before with
        | nil => exact ⟨[], c :: last, by simp [separator], by simp [separator]⟩
        | cons first before =>
            exact ⟨(c :: first) :: before, last, by simp [separator], by simp [separator]⟩

/-- Pieces that are split again are split by either separator. -/
theorem flatMap_splitOnP (p q : Char → Bool) (cs : List Char) :
    (cs.splitOnP p).flatMap (List.splitOnP q) = cs.splitOnP fun c => p c || q c := by
  induction cs with
  | nil => rfl
  | cons c cs ih =>
      rw [List.splitOnP_cons_eq_if_modifyHead, List.splitOnP_cons_eq_if_modifyHead, ← ih]
      by_cases outer : p c = true
      · simp [outer]
      · obtain ⟨first, rest, pieces⟩ := List.exists_cons_of_ne_nil (List.splitOnP_ne_nil p cs)
        by_cases inner : q c = true
        · simp [pieces, outer, inner, List.splitOnP_cons_eq_if_modifyHead]
        · obtain ⟨word, words, split⟩ := List.exists_cons_of_ne_nil (List.splitOnP_ne_nil q first)
          simp [pieces, outer, inner, List.splitOnP_cons_eq_if_modifyHead, split]

namespace Text

variable {p : Char → Bool} {c : Char} {cs : List Char}

/-- Pieces between separators are those of the library. -/
theorem split_eq_splitOnP (p : Char → Bool) (cs : List Char) :
    split p cs = cs.splitOnP p := by
  induction cs with
  | nil => rfl
  | cons c cs ih =>
      rw [List.splitOnP_cons_eq_if_modifyHead, split, ih]
      split_ifs
      · rfl
      · cases pieces : cs.splitOnP p with
        | nil => exact absurd pieces (List.splitOnP_ne_nil p cs)
        | cons piece rest => rfl

/-- A piece has characters of the text in it, and no separators. -/
theorem mem_of_mem_split {piece : List Char} (member : piece ∈ split p cs) :
    ∀ c ∈ piece, c ∈ cs ∧ p c = false := by
  induction cs generalizing piece with
  | nil =>
      rw [List.mem_singleton.mp member]
      simp
  | cons d cs ih =>
      have deeper : ∀ piece ∈ split p cs, ∀ c ∈ piece, c ∈ d :: cs ∧ p c = false :=
        fun piece inside c char =>
          ⟨List.mem_cons_of_mem d (ih inside c char).1, (ih inside c char).2⟩
      rw [split] at member
      split_ifs at member with separator
      · rcases List.mem_cons.mp member with rfl | later
        · simp
        · exact deeper piece later
      · cases pieces : split p cs with
        | nil => exact absurd pieces (split_ne_nil p cs)
        | cons first rest =>
            rw [pieces] at deeper member
            rcases List.mem_cons.mp member with rfl | later
            · intro c inside
              rcases List.mem_cons.mp inside with rfl | after
              · exact ⟨List.mem_cons_self .., by simpa using separator⟩
              · exact deeper first (List.mem_cons_self ..) c after
            · exact deeper piece (List.mem_cons_of_mem _ later)

/-- A character of a text is a separator or stands in a piece. -/
theorem exists_mem_split (p : Char → Bool) {c : Char} {cs : List Char} (member : c ∈ cs) :
    p c = true ∨ ∃ piece ∈ split p cs, c ∈ piece := by
  induction cs with
  | nil => cases member
  | cons d cs ih =>
      rw [split]
      split_ifs with separator
      · rcases List.mem_cons.mp member with rfl | later
        · exact .inl separator
        · refine (ih later).imp_right ?_
          rintro ⟨piece, listed, inside⟩
          exact ⟨piece, List.mem_cons_of_mem _ listed, inside⟩
      · cases pieces : split p cs with
        | nil => exact absurd pieces (split_ne_nil p cs)
        | cons first rest =>
            rw [pieces] at ih
            rcases List.mem_cons.mp member with rfl | later
            · exact .inr ⟨_, List.mem_cons_self .., List.mem_cons_self ..⟩
            · refine (ih later).imp_right ?_
              rintro ⟨piece, listed, inside⟩
              rcases List.mem_cons.mp listed with rfl | after
              · exact ⟨_, List.mem_cons_self .., List.mem_cons_of_mem _ inside⟩
              · exact ⟨piece, List.mem_cons_of_mem _ after, inside⟩

/-- A text that does not start with a separator has a first piece that is not empty. -/
theorem split_of_head (head : p c = false) (cs : List Char) :
    ∃ piece rest, split p (c :: cs) = (c :: piece) :: rest := by
  rw [split, head]
  cases pieces : split p cs with
  | nil => exact absurd pieces (split_ne_nil p cs)
  | cons piece rest => exact ⟨piece, rest, rfl⟩

/-- Splitting at a text of one character is splitting at the character. -/
theorem splitAtText_singleton (c : Char) (cs : List Char) :
    splitAtText [c] 0 cs = cs.splitOnP (· == c) := by
  induction cs with
  | nil => rfl
  | cons d cs ih =>
      rw [splitAtText, List.splitOnP_cons_eq_if_modifyHead]
      by_cases separator : d = c
      · simp [separator, ih]
      · have other : ¬ c = d := fun same => separator same.symm
        simp only [List.isPrefixOf, Bool.and_true, beq_iff_eq, if_neg other, if_neg separator, ih]
        cases pieces : cs.splitOnP (· == c) with
        | nil => exact absurd pieces (List.splitOnP_ne_nil _ cs)
        | cons piece rest => rfl

/-! ## Trimmed text -/

/-- Neither the first nor the last character satisfies `p`. -/
structure IsTrimmed (p : Char → Bool) (cs : List Char) : Prop where
  head : ∀ c ∈ cs.head?, p c = false
  last : ∀ c ∈ cs.getLast?, p c = false

instance (p : Char → Bool) (cs : List Char) : Decidable (IsTrimmed p cs) :=
  decidable_of_iff
    ((cs.head?.all fun c => !p c) = true ∧ (cs.getLast?.all fun c => !p c) = true) <| by
      simp only [Option.all_eq_true, Bool.not_eq_true']
      exact ⟨fun both => ⟨both.1, both.2⟩, fun trimmed => ⟨trimmed.head, trimmed.last⟩⟩

theorem IsTrimmed.imp {q : Char → Bool} (trimmed : IsTrimmed p cs)
    (weaker : ∀ c, p c = false → q c = false) : IsTrimmed q cs :=
  ⟨fun c first => weaker c (trimmed.head c first), fun c last => weaker c (trimmed.last c last)⟩

theorem dropEnd_eq_rdropWhile (p : Char → Bool) (cs : List Char) :
    dropEnd p cs = cs.rdropWhile p := rfl

/-- What is left of trimming is what stands between characters that satisfy `p`. -/
theorem exists_of_dropEnds (p : Char → Bool) (cs : List Char) :
    ∃ front back, cs = front ++ dropEnds p cs ++ back ∧ (∀ c ∈ front, p c = true) ∧
      ∀ c ∈ back, p c = true := by
  refine ⟨cs.takeWhile p, (cs.dropWhile p).rtakeWhile p, ?_, fun c => List.mem_takeWhile_imp,
    fun c => List.mem_rtakeWhile_imp⟩
  rw [dropEnds, dropEnd_eq_rdropWhile, List.append_assoc, List.rdropWhile_append_rtakeWhile,
    List.takeWhile_append_dropWhile]

theorem isTrimmed_dropEnds (p : Char → Bool) (cs : List Char) : IsTrimmed p (dropEnds p cs) := by
  constructor
  · intro c first
    have prefixed : dropEnds p cs <+: cs.dropWhile p := List.rdropWhile_prefix p _
    obtain ⟨more, whole⟩ := prefixed
    have head : c ∈ (cs.dropWhile p).head? := by
      rw [← whole, List.head?_append, Option.mem_def.mp first]
      rfl
    have kept := List.head?_dropWhile_not p cs
    simpa only [Option.mem_def.mp head] using kept
  · intro c last
    have nonempty : dropEnds p cs ≠ [] := by
      rintro empty
      simp [empty] at last
    have same : (dropEnds p cs).getLast nonempty = c := by
      simpa [List.getLast?_eq_getLast_of_ne_nil nonempty] using last
    rw [← same]
    exact Bool.eq_false_iff.mpr (List.rdropWhile_last_not p (cs.dropWhile p) nonempty)

theorem dropEnds_of_isTrimmed (trimmed : IsTrimmed p cs) : dropEnds p cs = cs := by
  have front : cs.dropWhile p = cs := by
    cases cs with
    | nil => rfl
    | cons c cs => simp [trimmed.head c rfl]
  rw [dropEnds, front, dropEnd_eq_rdropWhile, List.rdropWhile_eq_self_iff]
  intro nonempty
  simp [trimmed.last _ (List.getLast?_eq_getLast_of_ne_nil nonempty)]

/-- Characters at the start that satisfy `p` do not count. -/
theorem dropEnds_append_left {front : List Char} (all : ∀ c ∈ front, p c = true) :
    dropEnds p (front ++ cs) = dropEnds p cs := by
  rw [dropEnds, dropEnds, List.dropWhile_append_of_pos all]

theorem dropEnds_append_right {back : List Char} (all : ∀ c ∈ back, p c = true) :
    dropEnds p (cs ++ back) = dropEnds p cs := by
  rw [dropEnds, dropEnds, List.dropWhile_append]
  split_ifs with empty
  · rw [List.isEmpty_iff.mp empty, List.dropWhile_eq_nil_iff.mpr all]
  · rw [dropEnd, List.reverse_append, List.dropWhile_append_of_pos, dropEnd]
    simpa using all

/-- Nothing is left of trimming exactly where all characters satisfy `p`. -/
theorem dropEnds_eq_nil_iff : dropEnds p cs = [] ↔ ∀ c ∈ cs, p c = true := by
  constructor
  · intro empty
    obtain ⟨front, back, whole, before, behind⟩ := exists_of_dropEnds p cs
    rw [empty, List.append_nil] at whole
    rw [whole]
    intro c member
    rcases List.mem_append.mp member with inFront | inBack
    · exact before c inFront
    · exact behind c inBack
  · intro all
    have same : dropEnds p (cs ++ []) = dropEnds p [] := dropEnds_append_left all
    rwa [List.append_nil] at same

theorem infix_dropEnds (p : Char → Bool) (cs : List Char) : dropEnds p cs <:+: cs := by
  obtain ⟨front, back, whole, _⟩ := exists_of_dropEnds p cs
  exact ⟨front, back, whole.symm⟩

theorem IsTrimmed.append {more : List Char} (first : IsTrimmed p cs) (second : IsTrimmed p more) :
    IsTrimmed p (cs ++ more) := by
  constructor
  · intro c head
    rw [List.head?_append, Option.mem_def, Option.or_eq_some_iff] at head
    rcases head with inFirst | ⟨_, inSecond⟩
    · exact first.head c inFirst
    · exact second.head c inSecond
  · intro c last
    rw [List.getLast?_append, Option.mem_def, Option.or_eq_some_iff] at last
    rcases last with inSecond | ⟨_, inFirst⟩
    · exact second.last c inSecond
    · exact first.last c inFirst

/-- A text is trimmed where its first and its last part are. -/
theorem isTrimmed_of_ends {front back : List Char} (before : IsTrimmed p front)
    (behind : IsTrimmed p back) (first : front ≠ []) (last : back ≠ []) (middle : List Char) :
    IsTrimmed p (front ++ middle ++ back) where
  head c head := by
    rw [List.append_assoc, List.head?_append_of_ne_nil _ first] at head
    exact before.head c head
  last c end_ := by
    rw [List.getLast?_append_of_ne_nil _ last] at end_
    exact behind.last c end_

@[simp] theorem toList_trim (s : String) : (trim s).toList = dropEnds isBlank s.toList := by
  simp [trim, trimBy]

/-! ## Words -/

/-- The pieces of a text between separators, trimmed, where anything is left of them. -/
def wordsOf (p : Char → Bool) (cs : List Char) : List (List Char) :=
  ((cs.splitOnP p).map (dropEnds isBlank)).filter (· ≠ [])

@[simp] theorem wordsOf_nil (p : Char → Bool) : wordsOf p [] = [] := rfl

theorem wordsOf_append_cons (separator : p c = true) (cs more : List Char) :
    wordsOf p (cs ++ c :: more) = wordsOf p cs ++ wordsOf p more := by
  simp [wordsOf, List.splitOnP_append_cons _ _ separator]

/-- A trimmed text without separators is its only word. -/
theorem wordsOf_of_isTrimmed (trimmed : IsTrimmed isBlank cs) (nonempty : cs ≠ [])
    (unbroken : ∀ c ∈ cs, p c = false) : wordsOf p cs = [cs] := by
  simp [wordsOf, List.splitOnP_eq_singleton unbroken, dropEnds_of_isTrimmed trimmed, nonempty]

theorem wordsOf_append_blank (blank : isBlank c = true) (cs : List Char) :
    wordsOf p (cs ++ [c]) = wordsOf p cs := by
  by_cases separator : p c = true
  · rw [wordsOf_append_cons separator, wordsOf_nil, List.append_nil]
  · have absent : ∀ d ∈ [c], p d = false := by simpa using separator
    obtain ⟨before, last, pieces, extended⟩ := splitOnP_append_of_not cs absent
    have blanks : ∀ d ∈ [c], isBlank d = true := by simpa using blank
    simp [wordsOf, pieces, extended, dropEnds_append_right blanks]

/-- Words are trimmed texts without separators, cut out of the text. -/
theorem of_mem_wordsOf {word : List Char} (member : word ∈ wordsOf p cs) :
    word ≠ [] ∧ IsTrimmed isBlank word ∧ ∀ c ∈ word, p c = false := by
  simp only [wordsOf, ne_eq, decide_not, List.mem_filter, List.mem_map, Bool.not_eq_eq_eq_not,
    Bool.not_true, decide_eq_false_iff_not] at member
  obtain ⟨⟨piece, inside, rfl⟩, nonempty⟩ := member
  refine ⟨nonempty, isTrimmed_dropEnds .., fun c char => ?_⟩
  rw [← split_eq_splitOnP] at inside
  exact (mem_of_mem_split inside c ((infix_dropEnds isBlank piece).subset char)).2

theorem wordsOf_dropReturn (p : Char → Bool) (line : List Char) :
    wordsOf p (dropReturn line) = wordsOf p line := by
  unfold dropReturn
  split_ifs with ended
  · have whole := List.dropLast_append_getLast? '\r' ended
    conv_rhs => rw [← whole]
    exact (wordsOf_append_blank (by decide) _).symm
  · rfl

/-- **The words of the lines of a text** are its words between separators and line feeds. -/
theorem wordsOf_lines (p : Char → Bool) (s : String) :
    (lines s).flatMap (fun line => wordsOf p line.toList) =
      wordsOf (fun c => c == '\n' || p c) s.toList := by
  have pieces (lines : List (List Char)) :
      (linesOfPieces lines).flatMap (wordsOf p) = lines.flatMap (wordsOf p) := by
    induction lines with
    | nil => rfl
    | cons piece rest ih =>
        cases rest with
        | nil =>
            by_cases empty : piece = []
            · simp [linesOfPieces, empty]
            · simp [linesOfPieces, empty]
        | cons next rest =>
            rw [linesOfPieces, List.flatMap_cons, List.flatMap_cons, ih, wordsOf_dropReturn]
            simp
  have split : (s.toList.splitOnP (· == '\n')).flatMap (wordsOf p) =
      wordsOf (fun c => c == '\n' || p c) s.toList := by
    unfold wordsOf
    rw [← flatMap_splitOnP, List.map_flatMap, List.filter_flatMap]
  rw [lines, List.flatMap_map, split_eq_splitOnP, ← split, ← pieces]
  simp

/-! ## Lines -/

/-- A line of a text stands between two line feeds of it, or between one and an end. -/
def HasLine (text line : String) : Prop := line.toList ∈ text.toList.splitOnP (· == '\n')

theorem splitOnP_append_line (front back : String) :
    (front ++ "\n" ++ back).toList.splitOnP (· == '\n') =
      front.toList.splitOnP (· == '\n') ++ back.toList.splitOnP (· == '\n') := by
  simp only [String.toList_append, List.append_assoc]
  exact List.splitOnP_append_cons _ _ (by decide)

theorem hasLine_append_iff {front back line : String} :
    HasLine (front ++ "\n" ++ back) line ↔ HasLine front line ∨ HasLine back line := by
  rw [HasLine, splitOnP_append_line, List.mem_append]
  rfl

theorem hasLine_self {line : String} (unbroken : ∀ c ∈ line.toList, c ≠ '\n') :
    HasLine line line := by
  rw [HasLine, List.splitOnP_eq_singleton (by simpa using unbroken)]
  exact List.mem_singleton_self _

theorem empty_addLine (line : String) : addLine "" line = line := by
  unfold addLine
  split_ifs with nothing
  · exact (String.isEmpty_iff.mp nothing).symm
  · rfl
  · rename_i full
    exact absurd rfl full

/-- The texts that are not empty, a line feed between each two. -/
def joinFilled (texts : List String) : String := "\n".intercalate (texts.filter (· ≠ ""))

theorem joinFilled_singleton (text : String) : joinFilled [text] = text := by
  by_cases empty : text = "" <;> simp [joinFilled, empty]

/-- A line is put behind a text before other texts follow. -/
theorem joinFilled_addLine (text line : String) (texts : List String) :
    joinFilled (addLine text line :: texts) = joinFilled (text :: line :: texts) := by
  unfold addLine joinFilled
  split_ifs with nothing empty
  · simp [String.isEmpty_iff.mp nothing, List.filter_cons]
  · simp [String.isEmpty_iff.mp empty]
  · have someText : text ≠ "" := fun same => empty (String.isEmpty_iff.mpr same)
    have someLine : line ≠ "" := fun same => nothing (String.isEmpty_iff.mpr same)
    simp [someText, someLine, String.intercalate_cons_append, String.append_assoc]

/-- **Adding lines joins what is not empty.** -/
theorem foldl_addLine (text : String) (lines : List String) :
    lines.foldl addLine text = joinFilled (text :: lines) := by
  induction lines generalizing text with
  | nil => exact (joinFilled_singleton text).symm
  | cons line lines ih => rw [List.foldl_cons, ih, joinFilled_addLine]

/-- An added line leaves the lines that are there. -/
theorem HasLine.addLine {text line : String} (has : HasLine text line) (nonempty : line ≠ "")
    (added : String) : HasLine (addLine text added) line := by
  unfold Text.addLine
  split_ifs with nothing empty
  · exact has
  · rw [String.isEmpty_iff.mp empty, HasLine] at has
    exact absurd (String.toList_eq_nil_iff.mp (List.mem_singleton.mp has)) nonempty
  · exact hasLine_append_iff.mpr (.inl has)

/-- Lines that are joined are lines of what they are joined to. -/
theorem hasLine_join {line : String} {all : List String} (member : line ∈ all)
    (unbroken : ∀ line ∈ all, ∀ c ∈ line.toList, c ≠ '\n') : HasLine (join "\n" all) line := by
  induction all with
  | nil => cases member
  | cons first rest ih =>
      have own := hasLine_self (unbroken first (List.mem_cons_self ..))
      have below := fun inside => ih inside
        fun other after => unbroken other (List.mem_cons_of_mem _ after)
      cases rest with
      | nil =>
          rw [List.mem_singleton.mp member, join, String.intercalate_singleton]
          exact own
      | cons next rest =>
          rw [join, String.intercalate_cons_cons]
          refine hasLine_append_iff.mpr ?_
          rcases List.mem_cons.mp member with rfl | later
          · exact .inl own
          · exact .inr (below later)

/-- A line without a carriage return at its end is among the lines of its text. -/
theorem HasLine.mem_lines {text line : String} (has : HasLine text line)
    (trimmed : IsTrimmed isBlank line.toList) (nonempty : line ≠ "") : line ∈ lines text := by
  have kept : dropReturn line.toList = line.toList := by
    unfold dropReturn
    split_ifs with ended
    · exact absurd (trimmed.last _ ended) (by decide)
    · rfl
  have listed (pieces : List (List Char)) (member : line.toList ∈ pieces) :
      line.toList ∈ linesOfPieces pieces := by
    induction pieces with
    | nil => cases member
    | cons piece rest ih =>
        cases rest with
        | nil =>
            rw [← List.mem_singleton.mp member]
            simp [linesOfPieces, nonempty]
        | cons next rest =>
            rcases List.mem_cons.mp member with rfl | later
            · rw [linesOfPieces, kept]
              · exact List.mem_cons_self ..
              · simp
            · exact List.mem_cons_of_mem _ (ih later)
  rw [HasLine, ← split_eq_splitOnP] at has
  exact List.mem_map.mpr ⟨line.toList, listed _ has, String.ofList_toList⟩

/-- The words of a line are words of its text. -/
theorem HasLine.mem_wordsOf {text line : String} (has : HasLine text line) {word : List Char}
    (member : word ∈ wordsOf p line.toList) :
    word ∈ wordsOf (fun c => c == '\n' || p c) text.toList := by
  have inside := List.mem_flatMap.mpr ⟨_, has, member⟩
  unfold wordsOf at inside ⊢
  rwa [← flatMap_splitOnP, List.map_flatMap, List.filter_flatMap]

end Text

end TemplateCompiler
