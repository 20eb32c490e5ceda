import TemplateCompiler.Proofs.Text.Cutting

/-! # Parts of texts

A text is part of another one where it stands there unbroken (`Text.Within`). Several texts stand
in another one in order where they can be found there one behind the other, apart from each other
(`Text.InOrder`). Trimming a text takes nothing away from its parts that are trimmed themselves.
-/

namespace TemplateCompiler.Text

/-- A text stands in another one unbroken. -/
def Within (part text : String) : Prop := part.toList <:+: text.toList

theorem Within.refl (text : String) : Within text text := List.infix_rfl

theorem Within.trans {part text whole : String} (inner : Within part text)
    (outer : Within text whole) : Within part whole := List.IsInfix.trans inner outer

theorem within_append (front part back : String) : Within part (front ++ part ++ back) :=
  ⟨front.toList, back.toList, by simp⟩

theorem within_append_right (front part : String) : Within part (front ++ part) :=
  ⟨front.toList, [], by simp⟩

theorem within_append_left (part back : String) : Within part (part ++ back) :=
  ⟨[], back.toList, by simp⟩

theorem Within.append {part text : String} (inside : Within part text) (back : String) :
    Within part (text ++ back) := inside.trans (within_append_left text back)

theorem Within.exists_eq {part text : String} (within : Within part text) :
    ∃ front back, text = front ++ part ++ back := by
  obtain ⟨front, back, whole⟩ := within
  exact ⟨String.ofList front, String.ofList back, by simp [← String.toList_inj, ← whole]⟩

/-- Texts stand in another one, one behind the other and apart from each other. -/
def InOrder : (parts : List String) → (text : String) → Prop
  | [], _ => True
  | part :: parts, text =>
    ∃ front back, text = front ++ part ++ back ∧ InOrder parts back

namespace InOrder

variable {parts more : List String} {text whole part : String}

theorem append_right (inOrder : InOrder parts text) (back : String) :
    InOrder parts (text ++ back) := by
  induction parts generalizing text with
  | nil => trivial
  | cons part parts ih =>
      obtain ⟨front, behind, rfl, rest⟩ := inOrder
      exact ⟨front, behind ++ back, by simp only [String.append_assoc], ih rest⟩

theorem append_left (inOrder : InOrder parts text) (front : String) :
    InOrder parts (front ++ text) := by
  cases parts with
  | nil => trivial
  | cons part parts =>
      obtain ⟨before, behind, rfl, rest⟩ := inOrder
      exact ⟨front ++ before, behind, by simp only [String.append_assoc], rest⟩

theorem within (inOrder : InOrder parts text) (inside : Within text whole) :
    InOrder parts whole := by
  obtain ⟨front, back, rfl⟩ := inside.exists_eq
  exact (inOrder.append_left front).append_right back

/-- Texts that stand in the first part of a text and texts that stand behind it. -/
theorem append (first : InOrder parts text) (second : InOrder more whole) :
    InOrder (parts ++ more) (text ++ whole) := by
  induction parts generalizing text with
  | nil => exact second.append_left text
  | cons part parts ih =>
      obtain ⟨front, behind, rfl, rest⟩ := first
      exact ⟨front, behind ++ whole, by simp only [String.append_assoc], ih rest⟩

/-- Texts put together stand in the whole in order. -/
theorem join (parts : List String) : InOrder parts (String.join parts) := by
  induction parts with
  | nil => trivial
  | cons part parts ih => exact ⟨"", String.join parts, by simp, ih⟩

theorem singleton (inside : Within part text) : InOrder [part] text := by
  obtain ⟨front, back, same⟩ := inside.exists_eq
  exact ⟨front, back, same, trivial⟩

end InOrder

/-! ## Trimmed parts -/

section Trimmed

variable {p : Char → Bool} {part : List Char}

/-- Dropping characters at the start stops before a character that is not dropped. -/
theorem exists_dropWhile_append (first : ∀ c ∈ part.head?, p c = false) (nonempty : part ≠ [])
    (front back : List Char) :
    ∃ kept, (front ++ part ++ back).dropWhile p = kept ++ part ++ back := by
  rw [List.append_assoc, List.dropWhile_append]
  split_ifs
  · obtain ⟨c, rest, rfl⟩ := List.exists_cons_of_ne_nil nonempty
    exact ⟨[], by simp [first c rfl]⟩
  · exact ⟨front.dropWhile p, by rw [List.append_assoc]⟩

/-- Trimming leaves a part that is trimmed itself. -/
theorem infix_dropEnds_of_isTrimmed {text : List Char} (trimmed : IsTrimmed p part)
    (inside : part <:+: text) : part <:+: dropEnds p text := by
  by_cases empty : part = []
  · rw [empty]
    exact List.nil_infix
  · obtain ⟨front, back, rfl⟩ := inside
    obtain ⟨before, start⟩ := exists_dropWhile_append trimmed.head empty front back
    have last : ∀ c ∈ part.reverse.head?, p c = false := by
      rw [List.head?_reverse]
      exact trimmed.last
    obtain ⟨behind, ending⟩ := exists_dropWhile_append last (by simpa using empty) back.reverse
      before.reverse
    refine ⟨before, behind.reverse, ?_⟩
    rw [dropEnds, dropEnd, start, List.reverse_append, List.reverse_append, ← List.append_assoc,
      ending]
    simp

end Trimmed

/-- No line feed stands at either end of a text. -/
def IsLineTrimmed (text : String) : Prop := IsTrimmed (· == '\n') text.toList

instance (text : String) : Decidable (IsLineTrimmed text) :=
  inferInstanceAs (Decidable (IsTrimmed _ _))

theorem isLineTrimmed_trimLineFeeds (text : String) : IsLineTrimmed (trimLineFeeds text) := by
  rw [IsLineTrimmed, trimLineFeeds, trimBy, String.toList_ofList]
  exact isTrimmed_dropEnds ..

theorem Within.trimLineFeeds {part text : String} (inside : Within part text)
    (trimmed : IsLineTrimmed part) : Within part (trimLineFeeds text) := by
  rw [Within, Text.trimLineFeeds, trimBy, String.toList_ofList]
  exact infix_dropEnds_of_isTrimmed trimmed inside

theorem isLineTrimmed_of_ends {front back : String} (first : IsLineTrimmed front)
    (last : IsLineTrimmed back) (frontFull : front ≠ "") (backFull : back ≠ "") (middle : String) :
    IsLineTrimmed (front ++ middle ++ back) := by
  rw [IsLineTrimmed, String.toList_append, String.toList_append]
  exact isTrimmed_of_ends first last (by simpa using frontFull) (by simpa using backFull) _

/-- Line feeds around a trimmed text are trimmed. -/
theorem trimLineFeeds_append {text : String} (trimmed : IsLineTrimmed text) {front back : String}
    (before : ∀ c ∈ front.toList, c = '\n') (behind : ∀ c ∈ back.toList, c = '\n') :
    trimLineFeeds (front ++ text ++ back) = text := by
  rw [← String.toList_inj, trimLineFeeds, trimBy, String.toList_ofList, String.toList_append,
    String.toList_append, dropEnds_append_right (by simpa using behind),
    dropEnds_append_left (by simpa using before), dropEnds_of_isTrimmed trimmed]

/-- A line is added behind the text, with a line feed before it or nothing. -/
theorem exists_addLine (text line : String) :
    ∃ middle, addLine text line = text ++ middle ++ line := by
  unfold addLine
  split_ifs with nothing empty
  · exact ⟨"", by simp [String.isEmpty_iff.mp nothing]⟩
  · exact ⟨"", by simp [String.isEmpty_iff.mp empty]⟩
  · exact ⟨"\n", rfl⟩

theorem IsLineTrimmed.addLine {text line : String} (first : IsLineTrimmed text)
    (last : IsLineTrimmed line) : IsLineTrimmed (addLine text line) := by
  unfold Text.addLine
  split_ifs with nothing empty
  · exact first
  · exact last
  · exact isLineTrimmed_of_ends first last (by simpa using empty) (by simpa using nothing) _

/-- Between two trimmed texts, the whole is trimmed and has its parts in it. -/
theorem of_frame {first last : String} (front : IsLineTrimmed first)
    (back : IsLineTrimmed last) (frontFull : first ≠ "") (backFull : last ≠ "")
    (before body between functions behind : String) :
    IsLineTrimmed (first ++ (before ++ body ++ between ++ functions ++ behind) ++ last) ∧
      Within body (first ++ (before ++ body ++ between ++ functions ++ behind) ++ last) ∧
      Within functions (first ++ (before ++ body ++ between ++ functions ++ behind) ++ last) := by
  have whole := within_append first (before ++ body ++ between ++ functions ++ behind) last
  refine ⟨isLineTrimmed_of_ends front back frontFull backFull _, ?_, ?_⟩
  · exact ((((within_append_right _ _).append _).append _).append _).trans whole
  · exact ((within_append_right _ _).append _).trans whole

/-! ## Lines within a text -/

/-- The lines of a text that have lines before and behind them. -/
def innerLines (text : String) : List (List Char) :=
  (text.toList.splitOnP (· == '\n')).tail.dropLast

/-- Of a text with lines before and behind it, all lines are inner ones. -/
theorem innerLines_between (front middle back : String) :
    innerLines (front ++ "\n" ++ middle ++ "\n" ++ back) =
      (front.toList.splitOnP (· == '\n')).tail ++ middle.toList.splitOnP (· == '\n') ++
        (back.toList.splitOnP (· == '\n')).dropLast := by
  have someFront := List.splitOnP_ne_nil (· == '\n') front.toList
  rw [innerLines, splitOnP_append_line, splitOnP_append_line,
    List.tail_append_of_ne_nil (by simp [someFront]), List.tail_append_of_ne_nil someFront,
    List.dropLast_append_of_ne_nil (List.splitOnP_ne_nil _ _)]

theorem infix_intercalate {separator part : List Char} {before behind : List (List Char)}
    (someBefore : before ≠ []) (someBehind : behind ≠ []) :
    separator ++ part ++ separator <:+: separator.intercalate (before ++ part :: behind) := by
  obtain ⟨next, behind, rfl⟩ := List.exists_cons_of_ne_nil someBehind
  induction before with
  | nil => exact absurd rfl someBefore
  | cons first before ih =>
      cases before with
      | nil =>
          rw [List.singleton_append, List.intercalate_cons_cons, List.intercalate_cons_cons]
          exact ⟨first, separator.intercalate (next :: behind), by simp only [List.append_assoc]⟩
      | cons second before =>
          rw [List.cons_append, List.cons_append, List.intercalate_cons_cons]
          exact (ih (List.cons_ne_nil _ _)).trans (List.suffix_append _ _).isInfix

/-- An inner line stands between two line feeds. -/
theorem infix_of_mem_innerLines {text : String} {line : List Char}
    (member : line ∈ innerLines text) : ['\n'] ++ line ++ ['\n'] <:+: text.toList := by
  obtain ⟨first, pieces, cut⟩ :=
    List.exists_cons_of_ne_nil (List.splitOnP_ne_nil (· == '\n') text.toList)
  rw [innerLines, cut, List.tail_cons] at member
  have nonempty : pieces ≠ [] := by
    rintro rfl
    cases member
  obtain ⟨before, behind, inside⟩ := List.append_of_mem member
  have whole : text.toList = ['\n'].intercalate
      ((first :: before) ++ line :: (behind ++ [pieces.getLast nonempty])) := by
    have joined : ['\n'].intercalate (text.toList.splitOn '\n') = text.toList :=
      List.intercalate_splitOn '\n'
    rw [List.splitOn, cut, ← List.dropLast_append_getLast nonempty, inside] at joined
    rw [← joined]
    simp
  rw [whole]
  apply infix_intercalate
  · exact List.cons_ne_nil _ _
  · simp

theorem not_mem_of_mem_innerLines {text : String} {line : List Char}
    (member : line ∈ innerLines text) : '\n' ∉ line := by
  intro feed
  have listed : line ∈ split (· == '\n') text.toList := by
    rw [split_eq_splitOnP]
    exact List.mem_of_mem_tail (List.dropLast_subset _ member)
  have plain := (mem_of_mem_split listed '\n' feed).2
  cases plain

/-- A line between two line feeds is an inner line. -/
theorem mem_innerLines_of_infix {text : String} {line : List Char} (plain : '\n' ∉ line)
    (inside : ['\n'] ++ line ++ ['\n'] <:+: text.toList) : line ∈ innerLines text := by
  obtain ⟨front, back, whole⟩ := inside
  obtain ⟨first, before, start⟩ :=
    List.exists_cons_of_ne_nil (List.splitOnP_ne_nil (· == '\n') front)
  have single : line.splitOnP (· == '\n') = [line] := by
    apply List.splitOnP_eq_singleton
    intro c member
    exact beq_eq_false_iff_ne.mpr fun feed => plain (feed ▸ member)
  have cut : text.toList.splitOnP (· == '\n') =
      first :: (before ++ line :: back.splitOnP (· == '\n')) := by
    have separated (front back : List Char) : (front ++ '\n' :: back).splitOnP (· == '\n') =
        front.splitOnP (· == '\n') ++ back.splitOnP (· == '\n') :=
      List.splitOnP_append_cons front back rfl
    have pieces : front ++ (['\n'] ++ line ++ ['\n']) ++ back =
        front ++ '\n' :: (line ++ '\n' :: back) := by simp
    rw [← whole, pieces, separated, separated, start, single]
    rfl
  rw [innerLines, cut, List.tail_cons, List.dropLast_append_of_ne_nil (List.cons_ne_nil _ _),
    List.dropLast_cons_of_ne_nil (List.splitOnP_ne_nil _ back)]
  exact List.mem_append_right _ (List.mem_cons_self ..)

/-- The inner lines of a part are inner lines of the whole. -/
theorem Within.innerLines_subset {part text : String} (within : Within part text) :
    innerLines part ⊆ innerLines text := by
  intro line member
  apply mem_innerLines_of_infix (not_mem_of_mem_innerLines member)
  exact (infix_of_mem_innerLines member).trans within

theorem splitOnP_join {lines : List String} (nonempty : lines ≠ [])
    (unbroken : ∀ line ∈ lines.map String.toList, '\n' ∉ line) :
    (join "\n" lines).toList.splitOnP (· == '\n') = lines.map String.toList := by
  have cut := List.splitOn_intercalate '\n' unbroken (by simpa using nonempty)
  rw [join, String.toList_intercalate]
  exact cut

theorem innerLines_join {lines : List String}
    (unbroken : ∀ line ∈ lines.map String.toList, '\n' ∉ line) :
    innerLines (join "\n" lines) = (lines.map String.toList).tail.dropLast := by
  by_cases empty : lines = []
  · rw [empty]
    rfl
  · rw [innerLines, splitOnP_join empty unbroken]

theorem Within.addLine {part text : String} (within : Within part text) (line : String) :
    Within part (addLine text line) := by
  obtain ⟨middle, ends⟩ := exists_addLine text line
  rw [ends]
  exact (within.append middle).append line

end TemplateCompiler.Text
