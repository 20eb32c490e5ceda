import TemplateCompiler.Proofs.Literals.Strings
import TemplateCompiler.Proofs.Text.Cutting

/-! # Literals of Visual Basic

A literal of Visual Basic is an expression that joins strings of one line and line feeds. The
expression is read by a `Dialect`, which tells the characters that count as quotation marks and as
line ends. It stands for the text, up to carriage returns before line feeds, just where all other
characters of the text can stand in a string (`VisualBasic.literal_denotes_iff`): a carriage return
of its own is dropped at the end of a line and written as it is inside one, and a quotation mark
other than `"` is not doubled.
-/

namespace TemplateCompiler

open StringLiteral

/-! ## Line ends -/

namespace Text

/-- The text with each carriage return and line feed in a row written as a line feed. -/
def joinLineEnds : List Char → List Char
  | '\r' :: '\n' :: rest => '\n' :: joinLineEnds rest
  | c :: rest => c :: joinLineEnds rest
  | [] => []

theorem dropEnd_cons {p : Char → Bool} {c : Char} (kept : p c = false) (cs : List Char) :
    dropEnd p (c :: cs) = c :: dropEnd p cs := by
  rw [dropEnd, dropEnd, List.reverse_cons, List.dropWhile_append]
  split_ifs with empty
  · rw [List.isEmpty_iff.mp empty]
    simp [kept]
  · simp

theorem intercalate_cons (c : Char) (separator first : List Char) (rest : List (List Char)) :
    separator.intercalate ((c :: first) :: rest) = c :: separator.intercalate (first :: rest) := by
  cases rest with
  | nil => simp
  | cons next rest => simp [List.intercalate_cons_cons]

theorem subset_intercalate {part separator : List Char} {parts : List (List Char)}
    (member : part ∈ parts) : part ⊆ separator.intercalate parts := by
  induction parts with
  | nil => cases member
  | cons first rest ih =>
      cases rest with
      | nil =>
          rw [List.mem_singleton.mp member]
          simp
      | cons next rest =>
          rw [List.intercalate_cons_cons]
          rcases List.mem_cons.mp member with rfl | later
          · exact List.Subset.trans (List.subset_append_left ..) (List.subset_append_left ..)
          · exact List.Subset.trans (ih later) (List.subset_append_right ..)

/-- Where no other carriage returns stand in a text, those at the ends of its lines are the ones
that line feeds follow. -/
theorem intercalate_dropEnd {text : List Char} (noReturn : '\r' ∉ joinLineEnds text) :
    ['\n'].intercalate ((split (· == '\n') text).map (dropEnd (· == '\r'))) =
      joinLineEnds text := by
  fun_induction joinLineEnds text with
  | case1 rest ih =>
      obtain ⟨piece, pieces, cut⟩ := List.exists_cons_of_ne_nil (split_ne_nil (· == '\n') rest)
      have inner := ih fun later => noReturn (List.mem_cons_of_mem _ later)
      have pieces : split (· == '\n') ('\r' :: '\n' :: rest) = ['\r'] :: piece :: pieces := by
        simp [split, cut]
      rw [cut] at inner
      rw [pieces, List.map_cons, List.map_cons, List.intercalate_cons_cons, ← inner]
      rfl
  | case2 c rest other ih =>
      obtain ⟨piece, pieces, cut⟩ := List.exists_cons_of_ne_nil (split_ne_nil (· == '\n') rest)
      have inner := ih fun later => noReturn (List.mem_cons_of_mem _ later)
      have noOwn : c ≠ '\r' := fun same => noReturn (same ▸ List.mem_cons_self ..)
      rw [← inner, split]
      split_ifs with feed
      · rw [cut, List.map_cons, List.map_cons, List.intercalate_cons_cons, eq_of_beq feed]
        rfl
      · have own : dropEnd (· == '\r') (c :: piece) = c :: dropEnd (· == '\r') piece :=
          dropEnd_cons (p := (· == '\r')) (beq_eq_false_iff_ne.mpr noOwn) piece
        rw [cut, List.map_cons, List.map_cons, own]
        exact intercalate_cons ..
  | case3 => rfl

end Text

/-! ## Expressions -/

namespace VisualBasic

/-- The characters that count as quotation marks and as line ends. A blank is no quotation mark. -/
structure Dialect where
  isQuote : Char → Bool
  isLineEnd : Char → Bool
  quote : isQuote '"' = true
  blank : isQuote ' ' = false
  lineFeed : isLineEnd '\n' = true
  carriageReturn : isLineEnd '\r' = true

namespace Dialect

/-- The characters that every reader of the language takes so. -/
def ascii : Dialect where
  isQuote c := c == '"'
  isLineEnd c := c == '\n' || c == '\r'
  quote := rfl
  blank := rfl
  lineFeed := rfl
  carriageReturn := rfl

/-- Typographic and fullwidth quotation marks, and the line ends of Unicode, count as well. -/
def unicode : Dialect where
  isQuote c := ['"', '\u201c', '\u201d', '\uff02'].contains c
  isLineEnd c := ['\n', '\r', '\u0085', '\u2028', '\u2029'].contains c
  quote := by decide
  blank := by decide
  lineFeed := by decide
  carriageReturn := by decide

/-- The text of the operand that an expression begins with, a string or a line feed, and what stands
behind it. -/
def operand? (dialect : Dialect) : List Char → Option (List Char × List Char)
  | '"' :: rest => doubled? dialect.isQuote dialect.isLineEnd rest
  | 'v' :: 'b' :: 'L' :: 'f' :: rest => some (['\n'], rest)
  | _ => none

theorem length_of_operand? {dialect : Dialect} {source value rest : List Char}
    (read : dialect.operand? source = some (value, rest)) : rest.length < source.length := by
  unfold operand? at read
  split at read
  · exact Nat.lt_succ_of_lt (length_of_doubled? read)
  · cases read
    simp only [List.length_cons]
    omega
  · cases read

/-- The text that an expression stands for, operands joined by `&`. -/
def denote? (dialect : Dialect) (source : List Char) : Option (List Char) :=
  match _ : dialect.operand? source with
  | none => none
  | some (value, []) => some value
  | some (value, ' ' :: '&' :: ' ' :: rest) => (dialect.denote? rest).map (value ++ ·)
  | some (_, _ :: _) => none
termination_by source.length
decreasing_by
  have shorter := length_of_operand? ‹_›
  simp only [List.length_cons] at shorter
  omega

/-- A character that can stand in a literal: a quotation mark, a line feed, or one that is neither a
quotation mark nor a line end. -/
def IsWritable (dialect : Dialect) (c : Char) : Prop :=
  c = '"' ∨ c = '\n' ∨ dialect.isQuote c = false ∧ dialect.isLineEnd c = false

instance (dialect : Dialect) (c : Char) : Decidable (dialect.IsWritable c) :=
  inferInstanceAs (Decidable (_ ∨ _ ∨ _ ∧ _))

instance (dialect : Dialect) (text : List Char) :
    Decidable (∀ c ∈ text, dialect.IsWritable c) :=
  List.decidableBAll _ text

variable {dialect : Dialect} {source value rest line : List Char}

theorem isWritable_of_operand? (read : dialect.operand? source = some (value, rest)) :
    ∀ c ∈ value, dialect.IsWritable c := by
  unfold operand? at read
  split at read
  · intro c member
    exact (mem_of_doubled? read c member).imp_right .inr
  · cases read
    exact List.forall_mem_singleton.mpr (.inr (.inl rfl))
  · cases read

/-- **What an expression stands for** can be written in a literal. -/
theorem isWritable_of_denote? (denotes : dialect.denote? source = some value) :
    ∀ c ∈ value, dialect.IsWritable c := by
  fun_induction denote? dialect source generalizing value with
  | case1 source none => cases denotes
  | case2 source single found =>
      cases denotes
      exact isWritable_of_operand? found
  | case3 source first rest found ih =>
      obtain ⟨behind, read, rfl⟩ := Option.map_eq_some_iff.mp denotes
      intro c member
      rcases List.mem_append.mp member with own | later
      · exact isWritable_of_operand? found c own
      · exact ih read c later
  | case4 => cases denotes

theorem denote?_of_operand? (read : dialect.operand? source = some (value, [])) :
    dialect.denote? source = some value := by
  rw [denote?.eq_def]
  split <;> simp_all

theorem denote?_of_joined
    (read : dialect.operand? source = some (value, ' ' :: '&' :: ' ' :: rest)) :
    dialect.denote? source = (dialect.denote? rest).map (value ++ ·) := by
  rw [denote?.eq_def]
  split <;> simp_all

/-- A line of a literal is read back without the carriage returns at its end. -/
theorem operand?_lineLiteral
    (writable : ∀ c ∈ Text.dropEnd (· == '\r') line, c ≠ '\n' ∧ dialect.IsWritable c)
    (ends : ∀ c ∈ rest.head?, dialect.isQuote c = false) :
    dialect.operand? ((lineLiteral line).toList ++ rest) =
      some (Text.dropEnd (· == '\r') line, rest) := by
  have source : (lineLiteral line).toList ++ rest =
      '"' :: ((Text.doubleQuotes (String.ofList (Text.dropEnd (· == '\r') line))).toList ++
        '"' :: rest) := by
    simp [lineLiteral]
  rw [source, operand?]
  apply doubled?_doubleQuotes dialect.quote
  · intro c member
    obtain ⟨noFeed, quote | feed | plain⟩ := writable c member
    · exact .inl quote
    · exact absurd feed noFeed
    · exact .inr plain
  · exact ends

/-- **Lines that can be written** are read back with line feeds between them. -/
theorem denote?_lines {lines : List (List Char)} (nonempty : lines ≠ [])
    (writable : ∀ line ∈ lines, ∀ c ∈ Text.dropEnd (· == '\r') line,
      c ≠ '\n' ∧ dialect.IsWritable c) :
    dialect.denote? (Text.join " & vbLf & " (lines.map lineLiteral)).toList =
      some (['\n'].intercalate (lines.map (Text.dropEnd (· == '\r')))) := by
  induction lines with
  | nil => exact absurd rfl nonempty
  | cons line lines ih =>
      obtain ⟨own, later⟩ := List.forall_mem_cons.mp writable
      cases lines with
      | nil =>
          have read : dialect.operand? ((lineLiteral line).toList ++ []) =
              some (Text.dropEnd (· == '\r') line, []) := operand?_lineLiteral own nofun
          rw [List.append_nil] at read
          simpa [Text.join] using denote?_of_operand? read
      | cons next lines =>
          have source : (Text.join " & vbLf & " ((line :: next :: lines).map lineLiteral)).toList =
              (lineLiteral line).toList ++ ' ' :: '&' :: ' ' :: 'v' :: 'b' :: 'L' :: 'f' ::
                ' ' :: '&' :: ' ' :: (Text.join " & vbLf & "
                  ((next :: lines).map lineLiteral)).toList := by
            rw [List.map_cons, List.map_cons, Text.join, String.intercalate_cons_cons]
            simp [Text.join]
          have blank : ∀ c ∈ some ' ', dialect.isQuote c = false := by
            intro c same
            rw [← Option.some.inj same]
            exact dialect.blank
          rw [source, denote?_of_joined (operand?_lineLiteral own blank), denote?_of_joined rfl,
            ih (List.cons_ne_nil _ _) later]
          simp [List.intercalate_cons_cons]

end Dialect

/-! ## Literals -/

/-- The expression that the lines of a text are written as. -/
theorem literal_eq {text : String} (nonempty : text ≠ "") :
    literal text = value (Text.join " & vbLf & "
      ((Text.split (· == '\n') text.toList).map lineLiteral)) := by
  have full : ¬ text.isEmpty = true := by simpa using nonempty
  unfold literal value
  exact if_neg full

/-- **A literal stands for its text**, with line feeds for its line ends, just where nothing else in
the text ends a line and `"` is its only quotation mark. -/
theorem literal_denotes_iff (text : String) (nonempty : text ≠ "") :
    ∃ expression, literal text = value expression ∧ ∀ dialect : Dialect,
      dialect.denote? expression.toList = some (Text.joinLineEnds text.toList) ↔
        ∀ c ∈ Text.joinLineEnds text.toList, dialect.IsWritable c := by
  refine ⟨_, literal_eq nonempty, fun dialect => ⟨Dialect.isWritable_of_denote?, ?_⟩⟩
  intro writable
  have noReturn : '\r' ∉ Text.joinLineEnds text.toList := by
    intro inside
    rcases writable _ inside with quote | feed | ⟨_, noEnd⟩
    · exact absurd quote (by decide)
    · exact absurd feed (by decide)
    · exact absurd noEnd (by simp [dialect.carriageReturn])
  have lines := Text.intercalate_dropEnd noReturn
  rw [← lines] at writable ⊢
  apply Dialect.denote?_lines
  · exact Text.split_ne_nil _ _
  · intro line listed c member
    refine ⟨fun feed => ?_, writable c ?_⟩
    · have inLine : c ∈ line := by
        rw [Text.dropEnd_eq_rdropWhile] at member
        exact (List.rdropWhile_prefix _ line).subset member
      have plain := (Text.mem_of_mem_split listed c inLine).2
      simp [feed] at plain
    · exact Text.subset_intercalate (List.mem_map_of_mem listed) member

/-- Two lines with quotation marks and a carriage return before the line feed are written as two
strings that stand for them; of a text that ends in a carriage return, the string does not, and
typographic quotation marks are no quotation marks for everybody. -/
theorem literal_denotes_iff_lines :
    (∃ expression, literal "\"a\"\r\n" = value expression ∧
      Dialect.unicode.denote? expression.toList = some ['"', 'a', '"', '\n']) ∧
    (∃ expression, literal "a\r" = value expression ∧
      Dialect.ascii.denote? expression.toList ≠ some ['a', '\r']) ∧
    ∃ expression, literal "\u201ca\u201d" = value expression ∧
      Dialect.ascii.denote? expression.toList = some ['\u201c', 'a', '\u201d'] ∧
      Dialect.unicode.denote? expression.toList ≠ some ['\u201c', 'a', '\u201d'] := by
  obtain ⟨twoLines, writtenLines, standsFor⟩ := literal_denotes_iff "\"a\"\r\n" (by decide)
  obtain ⟨ended, writtenEnded, standsEnded⟩ := literal_denotes_iff "a\r" (by decide)
  obtain ⟨quoted, writtenQuoted, standsQuoted⟩ :=
    literal_denotes_iff "\u201ca\u201d" (by decide)
  refine ⟨⟨twoLines, writtenLines, (standsFor .unicode).mpr ?_⟩,
    ⟨ended, writtenEnded, fun stands => absurd ((standsEnded .ascii).mp stands) ?_⟩,
    quoted, writtenQuoted, (standsQuoted .ascii).mpr ?_,
    fun stands => absurd ((standsQuoted .unicode).mp stands) ?_⟩
  all_goals decide

end VisualBasic

end TemplateCompiler
