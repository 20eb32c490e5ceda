import Mathlib.Tactic.SplitIfs
import TemplateCompiler.Emitter

/-! # Literal text as strings of the target languages

A literal is written as one string of the target language, and reading the string gives the text
back, whatever code stands behind it (`Emitter.literal_is_string`). A string is read in two passes.
Java reads Unicode escapes first, wherever they stand in a source text: a backslash begins one
unless it stands behind an odd number of other backslashes. The second pass reads the string: its
quotation marks are doubled, or escaped with a backslash.
-/

namespace TemplateCompiler

namespace StringLiteral

/-- What has been read of a string and of the text behind it, with one more character in front. -/
def push (c : Char) (read : List Char × List Char) : List Char × List Char :=
  (c :: read.1, read.2)

/-! ## Doubled quotation marks -/

/-- The text of a string behind its opening quotation mark, and what stands behind the string. Two
quotation marks stand for one, and a single one ends the string. Other characters may be barred. -/
def doubled? (isQuote isBarred : Char → Bool) : List Char → Option (List Char × List Char)
  | [] => none
  | c :: rest =>
    if isQuote c then
      match rest with
      | [] => some ([], [])
      | d :: more =>
        if isQuote d then (doubled? isQuote isBarred more).map (push '"') else some ([], d :: more)
    else if isBarred c then none
    else (doubled? isQuote isBarred rest).map (push c)

section Doubled

variable {isQuote isBarred : Char → Bool} {source value rest text : List Char}

/-- A string has one quotation mark of its pairs in it, and else no quotation marks and nothing that
is barred. -/
theorem mem_of_doubled? (read : doubled? isQuote isBarred source = some (value, rest)) :
    ∀ c ∈ value, c = '"' ∨ isQuote c = false ∧ isBarred c = false := by
  fun_induction doubled? isQuote isBarred source generalizing value with
  | case1 => cases read
  | case2 c quote =>
      cases read
      exact nofun
  | case3 c quote d more second ih =>
      obtain ⟨inner, readInner, same⟩ := Option.map_eq_some_iff.mp read
      cases same
      exact List.forall_mem_cons.mpr ⟨.inl rfl, ih readInner⟩
  | case4 c quote d more single =>
      cases read
      exact nofun
  | case5 c rest other barred => cases read
  | case6 c rest other allowed ih =>
      obtain ⟨inner, readInner, same⟩ := Option.map_eq_some_iff.mp read
      cases same
      refine List.forall_mem_cons.mpr ⟨.inr ⟨?_, ?_⟩, ih readInner⟩
      · exact Bool.eq_false_iff.mpr other
      · exact Bool.eq_false_iff.mpr allowed

/-- Reading a string uses up characters. -/
theorem length_of_doubled? (read : doubled? isQuote isBarred source = some (value, rest)) :
    rest.length < source.length := by
  fun_induction doubled? isQuote isBarred source generalizing value with
  | case1 => cases read
  | case2 c quote =>
      cases read
      exact Nat.zero_lt_succ _
  | case3 c quote d more second ih =>
      obtain ⟨inner, readInner, same⟩ := Option.map_eq_some_iff.mp read
      cases same
      have shorter := ih readInner
      simp only [List.length_cons]
      omega
  | case4 c quote d more single =>
      cases read
      exact Nat.lt_succ_self _
  | case5 c rest other barred => cases read
  | case6 c rest other allowed ih =>
      obtain ⟨inner, readInner, same⟩ := Option.map_eq_some_iff.mp read
      cases same
      exact Nat.lt_succ_of_lt (ih readInner)

/-- **A text with its quotation marks doubled** is read back from between two of them, where no
other quotation marks and nothing that is barred stand in it, and no quotation mark behind it. -/
theorem doubled?_doubleQuotes (quote : isQuote '"' = true)
    (plain : ∀ c ∈ text, c = '"' ∨ isQuote c = false ∧ isBarred c = false)
    (ends : ∀ c ∈ rest.head?, isQuote c = false) :
    doubled? isQuote isBarred ((Text.doubleQuotes (String.ofList text)).toList ++ '"' :: rest) =
      some (text, rest) := by
  rw [Text.doubleQuotes, String.toList_ofList, String.toList_ofList]
  induction text with
  | nil =>
      cases rest with
      | nil => simp [doubled?, quote]
      | cons d rest => simp [doubled?, quote, ends d rfl]
  | cons c text ih =>
      obtain ⟨own, later⟩ := List.forall_mem_cons.mp plain
      rw [List.flatMap_cons, List.append_assoc]
      by_cases isMark : c = '"'
      · simp [isMark, doubled?, quote, ih later, push]
      · obtain ⟨noQuote, allowed⟩ := own.resolve_left isMark
        rw [if_neg isMark, List.singleton_append, doubled?.eq_def]
        simp [noQuote, allowed, ih later, push]

end Doubled

/-! ## Escapes -/

/-- The character that four hexadecimal digits stand for; none where one of them is no such digit,
and where they stand for half a surrogate pair. -/
def hexChar? (first second third fourth : Char) : Option Char := do
  let code := 4096 * (← Text.hexDigit? first) + 256 * (← Text.hexDigit? second) +
    16 * (← Text.hexDigit? third) + (← Text.hexDigit? fourth)
  if 0xd800 ≤ code ∧ code < 0xe000 then none else some (Char.ofNat code)

/-- How a language escapes characters of strings. -/
structure Escapes where
  /-- The character that a letter or a mark behind a backslash stands for. -/
  short? : Char → Option Char
  /-- Whether `\u` with four digits stands for a character. -/
  hasUnits : Bool
  /-- Characters that may not stand in a string as they are. -/
  isBarred : Char → Bool

/-- The escapes of JSON strings, in which no controls stand as they are. -/
def Escapes.json : Escapes where
  short?
    | '"' => some '"'
    | '\\' => some '\\'
    | '/' => some '/'
    | 'b' => some '\x08'
    | 'f' => some '\x0c'
    | 'n' => some '\n'
    | 'r' => some '\r'
    | 't' => some '\t'
    | _ => none
  hasUnits := true
  isBarred c := c.toNat < 0x20

/-- The escapes of Java strings, those in octal apart. Line ends may not stand in a string. -/
def Escapes.java : Escapes where
  short?
    | '"' => some '"'
    | '\'' => some '\''
    | '\\' => some '\\'
    | 'b' => some '\x08'
    | 'f' => some '\x0c'
    | 'n' => some '\n'
    | 'r' => some '\r'
    | 's' => some ' '
    | 't' => some '\t'
    | _ => none
  hasUnits := false
  isBarred c := c == '\n' || c == '\r'

/-- The text of a string behind its opening quotation mark, and what stands behind the string. A
backslash begins an escape, and a quotation mark without one ends the string. -/
def escaped? (escapes : Escapes) : List Char → Option (List Char × List Char)
  | [] => none
  | c :: rest =>
    if c = '"' then some ([], rest)
    else if c = '\\' then
      match rest with
      | 'u' :: first :: second :: third :: fourth :: more =>
        if escapes.hasUnits then do
          return push (← hexChar? first second third fourth) (← escaped? escapes more)
        else none
      | letter :: more => do return push (← escapes.short? letter) (← escaped? escapes more)
      | [] => none
    else if escapes.isBarred c then none
    else (escaped? escapes rest).map (push c)

/-- A source text with its Unicode escapes read, where so many backslashes stand directly before it.
A backslash behind an even number of others begins an escape if a `u` follows; a `u` without four
digits behind it, and more than one `u`, are refused. -/
def readUnits? (before : Nat) : List Char → Option (List Char)
  | [] => some []
  | c :: rest =>
    if c = '\\' then
      if before % 2 = 0 ∧ rest.head? = some 'u' then
        match rest with
        | _ :: first :: second :: third :: fourth :: more => do
          return (← hexChar? first second third fourth) :: (← readUnits? 0 more)
        | _ => none
      else (readUnits? (before + 1) rest).map (c :: ·)
    else (readUnits? 0 rest).map (c :: ·)

end StringLiteral

open StringLiteral

/-- The source text that a language reads: Java reads Unicode escapes before anything else. -/
def Target.decode? : Target → List Char → Option (List Char)
  | .java, source => readUnits? 0 source
  | _, source => some source

/-- The text of the string that a decoded source text begins with, and what stands behind it. In
Visual Basic, a literal is more than one string, and none is read here. -/
def Target.scanString? : Target → List Char → Option (List Char × List Char)
  | .cSharp, '@' :: '"' :: rest => doubled? (· == '"') (fun _ => false) rest
  | .javaScript, '"' :: rest => escaped? .json rest
  | .java, '"' :: rest => escaped? .java rest
  | _, _ => none

/-- The text of the string that a source text begins with, and what stands behind it. -/
def Target.readString? (target : Target) (source : List Char) : Option (List Char × List Char) :=
  (target.decode? source).bind target.scanString?

namespace StringLiteral

/-! ## Strings with JSON escapes -/

/-- The characters with an escape of one letter, and their letters. -/
def shortEscapes : List (Char × Char) :=
  [('"', '"'), ('\\', '\\'), ('\x08', 'b'), ('\x0c', 'f'), ('\n', 'n'), ('\r', 'r'), ('\t', 't')]

/-- The ways in which a character is written in a JSON string. -/
theorem escapeChar_cases (c : Char) :
    (∃ letter, (c, letter) ∈ shortEscapes ∧ Json.escapeChar c = ['\\', letter]) ∨
    (c.toNat < 0x20 ∧ (∀ letter, (c, letter) ∉ shortEscapes) ∧ Json.escapeChar c =
      ['\\', 'u', '0', '0', Nat.digitChar (c.toNat / 16), Nat.digitChar (c.toNat % 16)]) ∨
    (¬ c.toNat < 0x20 ∧ c ≠ '"' ∧ c ≠ '\\' ∧ Json.escapeChar c = [c]) := by
  unfold Json.escapeChar
  split_ifs with quote backslash backspace feed newline return_ tab control
  · exact .inl ⟨'"', by simp [quote, shortEscapes], rfl⟩
  · exact .inl ⟨'\\', by simp [backslash, shortEscapes], rfl⟩
  · exact .inl ⟨'b', by simp [backspace, shortEscapes], rfl⟩
  · exact .inl ⟨'f', by simp [feed, shortEscapes], rfl⟩
  · exact .inl ⟨'n', by simp [newline, shortEscapes], rfl⟩
  · exact .inl ⟨'r', by simp [return_, shortEscapes], rfl⟩
  · exact .inl ⟨'t', by simp [tab, shortEscapes], rfl⟩
  · refine .inr (.inl ⟨control, fun letter listed => ?_, rfl⟩)
    simp [shortEscapes, quote, backslash, backspace, feed, newline, return_, tab] at listed
  · exact .inr (.inr ⟨control, quote, backslash, rfl⟩)

/-- The letter of a short escape stands for its character in both languages. -/
theorem of_mem_shortEscapes {c letter : Char} (listed : (c, letter) ∈ shortEscapes) :
    letter ≠ 'u' ∧ Escapes.json.short? letter = some c ∧ Escapes.java.short? letter = some c := by
  have all : ∀ entry ∈ shortEscapes, entry.2 ≠ 'u' ∧
      Escapes.json.short? entry.2 = some entry.1 ∧ Escapes.java.short? entry.2 = some entry.1 := by
    decide
  exact all _ listed

/-- Controls are read back from their two last digits. -/
theorem hexChar?_of_control {c : Char} (control : c.toNat < 0x20) :
    hexChar? '0' '0' (Nat.digitChar (c.toNat / 16)) (Nat.digitChar (c.toNat % 16)) = some c := by
  have all : ∀ code < 0x20, hexChar? '0' '0' (Nat.digitChar (code / 16))
      (Nat.digitChar (code % 16)) = some (Char.ofNat code) := by
    decide
  rw [all _ control, Char.ofNat_toNat]

section Escaped

variable {escapes : Escapes} {c letter : Char} {source rest text : List Char} {before : Nat}

theorem escaped?_end (rest : List Char) : escaped? escapes ('"' :: rest) = some ([], rest) := by
  rw [escaped?.eq_def]
  rfl

theorem escaped?_short (notUnit : letter ≠ 'u') (stands : escapes.short? letter = some c)
    (rest : List Char) :
    escaped? escapes ('\\' :: letter :: rest) = (escaped? escapes rest).map (push c) := by
  rw [escaped?.eq_def]
  dsimp only
  rw [if_neg (by decide), if_pos rfl]
  split
  · rename_i same
    exact absurd (List.cons.inj same).1 notUnit
  · rename_i same
    obtain ⟨rfl, rfl⟩ := List.cons.inj same
    rw [stands, Option.map_eq_bind]
    rfl
  · contradiction

theorem escaped?_unit (units : escapes.hasUnits = true) {first second third fourth : Char}
    (stands : hexChar? first second third fourth = some c) (rest : List Char) :
    escaped? escapes ('\\' :: 'u' :: first :: second :: third :: fourth :: rest) =
      (escaped? escapes rest).map (push c) := by
  rw [escaped?.eq_def]
  simp only [↓reduceIte, units, stands, Option.map_eq_bind]
  rfl

theorem escaped?_plain (noQuote : c ≠ '"') (noBackslash : c ≠ '\\')
    (allowed : escapes.isBarred c = false) (rest : List Char) :
    escaped? escapes (c :: rest) = (escaped? escapes rest).map (push c) := by
  rw [escaped?.eq_def]
  simp only [noQuote, noBackslash, allowed, Bool.false_eq_true, ↓reduceIte]

/-- **A JSON string is read back**, whatever stands behind it. -/
theorem escaped?_json (text rest : List Char) :
    escaped? .json (text.flatMap Json.escapeChar ++ '"' :: rest) = some (text, rest) := by
  induction text with
  | nil => exact escaped?_end rest
  | cons c text ih =>
      have step : escaped? .json
          (Json.escapeChar c ++ (text.flatMap Json.escapeChar ++ '"' :: rest)) =
          (escaped? .json (text.flatMap Json.escapeChar ++ '"' :: rest)).map (push c) := by
        rcases escapeChar_cases c with ⟨letter, listed, written⟩ | ⟨control, _, written⟩ |
          ⟨printable, noQuote, noBackslash, written⟩
        · obtain ⟨notUnit, stands, _⟩ := of_mem_shortEscapes listed
          rw [written]
          exact escaped?_short notUnit stands _
        · rw [written]
          exact escaped?_unit rfl (hexChar?_of_control control) _
        · rw [written]
          exact escaped?_plain noQuote noBackslash (decide_eq_false printable) _
      rw [List.flatMap_cons, List.append_assoc, step, ih]
      rfl

/-! ## Unicode escapes of Java -/

theorem readUnits?_plain (noBackslash : c ≠ '\\') (rest : List Char) :
    readUnits? before (c :: rest) = (readUnits? 0 rest).map (c :: ·) := by
  rw [readUnits?.eq_def]
  simp only [noBackslash, ↓reduceIte]

/-- A backslash stays that begins no escape. -/
theorem readUnits?_backslash (noUnit : before % 2 = 0 → rest.head? ≠ some 'u') :
    readUnits? before ('\\' :: rest) = (readUnits? (before + 1) rest).map ('\\' :: ·) := by
  rw [readUnits?.eq_def]
  simp only [↓reduceIte]
  rw [if_neg]
  rintro ⟨even, unit⟩
  exact noUnit even unit

theorem readUnits?_unit (even : before % 2 = 0) {first second third fourth : Char}
    (stands : hexChar? first second third fourth = some c) (rest : List Char) :
    readUnits? before ('\\' :: 'u' :: first :: second :: third :: fourth :: rest) =
      (readUnits? 0 rest).map (c :: ·) := by
  rw [readUnits?.eq_def]
  simp only [↓reduceIte, even, List.head?_cons, and_self, stands, Option.map_eq_bind]
  rfl

/-- A character of a JSON string, where an even number of backslashes stands before it: the pass for
Unicode escapes leaves what stands for the character in a Java string, and an even number of
backslashes before what is next. -/
theorem exists_readUnits?_escapeChar (c : Char) (even : before % 2 = 0) :
    ∃ after kept, after % 2 = 0 ∧
      (∀ rest, readUnits? before (Json.escapeChar c ++ rest) =
        (readUnits? after rest).map (kept ++ ·)) ∧
      ∀ rest, escaped? .java (kept ++ rest) = (escaped? .java rest).map (push c) := by
  rcases escapeChar_cases c with ⟨letter, listed, written⟩ | ⟨control, unlisted, written⟩ |
    ⟨printable, noQuote, noBackslash, written⟩
  · obtain ⟨notUnit, _, stands⟩ := of_mem_shortEscapes listed
    rw [written]
    have first (rest : List Char) : readUnits? before ('\\' :: letter :: rest) =
        (readUnits? (before + 1) (letter :: rest)).map ('\\' :: ·) :=
      readUnits?_backslash fun _ unit => notUnit (Option.some.inj unit)
    by_cases pair : letter = '\\'
    · -- The second backslash stands behind an odd number of others.
      refine ⟨before + 2, ['\\', letter], by omega, fun rest => ?_, escaped?_short notUnit stands⟩
      rw [List.cons_append, List.cons_append, List.nil_append, first, pair,
        readUnits?_backslash (by omega), Option.map_map]
      rfl
    · refine ⟨0, ['\\', letter], rfl, fun rest => ?_, escaped?_short notUnit stands⟩
      rw [List.cons_append, List.cons_append, List.nil_append, first, readUnits?_plain pair,
        Option.map_map]
      rfl
  · -- The escape is read in the first pass, and the control is no line end.
    rw [written]
    have other : ∀ entry ∈ shortEscapes, c ≠ entry.1 := fun entry listed same =>
      unlisted entry.2 (same ▸ listed)
    refine ⟨0, [c], rfl, fun rest => readUnits?_unit even (hexChar?_of_control control) rest, ?_⟩
    intro rest
    apply escaped?_plain
    · exact other ('"', '"') (by decide)
    · exact other ('\\', '\\') (by decide)
    · simp [Escapes.java, other ('\n', 'n') (by decide), other ('\r', 'r') (by decide)]
  · rw [written]
    have noControl : Escapes.java.isBarred c = false := by
      have newline : c ≠ '\n' := fun same => printable (same ▸ by decide)
      have return_ : c ≠ '\r' := fun same => printable (same ▸ by decide)
      simp [Escapes.java, newline, return_]
    exact ⟨0, [c], rfl, fun rest => readUnits?_plain noBackslash rest,
      fun rest => escaped?_plain noQuote noBackslash noControl rest⟩

/-- **A JSON string is a Java string.** The pass for Unicode escapes leaves a string that is read
back, and goes on behind it as at the start of a text. -/
theorem exists_readUnits?_json (text : List Char) (even : before % 2 = 0) :
    ∃ kept, (∀ rest, readUnits? before (text.flatMap Json.escapeChar ++ '"' :: rest) =
        (readUnits? 0 rest).map fun behind => kept ++ '"' :: behind) ∧
      ∀ rest, escaped? .java (kept ++ '"' :: rest) = some (text, rest) := by
  induction text generalizing before with
  | nil => exact ⟨[], fun rest => readUnits?_plain (by decide) rest, escaped?_end⟩
  | cons c text ih =>
      obtain ⟨after, own, stillEven, passed, stands⟩ := exists_readUnits?_escapeChar c even
      obtain ⟨kept, passedText, stand⟩ := ih stillEven
      refine ⟨own ++ kept, fun rest => ?_, fun rest => ?_⟩
      · rw [List.flatMap_cons, List.append_assoc, passed, passedText, Option.map_map]
        simp only [Function.comp_def, List.append_assoc]
      · rw [List.append_assoc, stands, stand]
        rfl

end Escaped

end StringLiteral

namespace Target

theorem decode?_nil (target : Target) : target.decode? [] = some [] := by
  cases target <;> simp [decode?, readUnits?]

/-- A verbatim string is read back, unless a quotation mark goes on with it. -/
theorem readString?_verbatim (text : String) {rest : List Char}
    (ends : rest.head? ≠ some '"') :
    cSharp.readString? (("@\"" ++ Text.doubleQuotes text ++ "\"").toList ++ rest) =
      some (text.toList, rest) := by
  have source : ("@\"" ++ Text.doubleQuotes text ++ "\"").toList ++ rest =
      '@' :: '"' :: ((Text.doubleQuotes text).toList ++ '"' :: rest) := by
    simp
  have read : doubled? (· == '"') (fun _ => false)
      ((Text.doubleQuotes (String.ofList text.toList)).toList ++ '"' :: rest) =
        some (text.toList, rest) := by
    apply doubled?_doubleQuotes rfl
    · intro c _
      by_cases quote : c = '"'
      · exact .inl quote
      · exact .inr ⟨beq_eq_false_iff_ne.mpr quote, rfl⟩
    · intro c first
      have differs : c ≠ '"' := fun same => ends (same ▸ first)
      exact beq_eq_false_iff_ne.mpr differs
  rw [String.ofList_toList] at read
  simp only [source, readString?, decode?, Option.bind_some, scanString?, read]

theorem toList_quote_append (text : String) (rest : List Char) :
    (Json.quote text).toList ++ rest =
      '"' :: (text.toList.flatMap Json.escapeChar ++ '"' :: rest) := by
  simp [Json.quote]

/-- A JSON string is a JavaScript string. -/
theorem readString?_quote_javaScript (text : String) (rest : List Char) :
    javaScript.readString? ((Json.quote text).toList ++ rest) = some (text.toList, rest) := by
  rw [toList_quote_append, readString?, decode?, Option.bind_some, scanString?, escaped?_json]
  · exact nofun

/-- A JSON string is a Java string, and Unicode escapes behind it are read as they would be without
it. -/
theorem readString?_quote_java (text : String) (rest : List Char) :
    java.readString? ((Json.quote text).toList ++ rest) =
      (java.decode? rest).map fun behind => (text.toList, behind) := by
  have even : 0 % 2 = 0 := rfl
  obtain ⟨kept, passed, stands⟩ := exists_readUnits?_json text.toList even
  rw [toList_quote_append, readString?, decode?, decode?, readUnits?_plain (by decide), passed,
    Option.map_map]
  cases readUnits? 0 rest with
  | none => rfl
  | some behind =>
      rw [Option.map_some, Option.bind_some, Function.comp_apply, scanString?, stands]
      rfl

end Target

/-! ## Literals -/

section Statements

variable {text : String}

theorem CSharp.literal_eq (nonempty : text ≠ "") :
    literal text = value ("@\"" ++ Text.doubleQuotes text ++ "\"") := by
  have full : ¬ text.isEmpty = true := by simpa using nonempty
  have start : "\n_buffer.Append(@\"" = "\n_buffer.Append(" ++ "@\"" := by decide
  have ending : "\");" = "\"" ++ ");" := by decide
  unfold literal value
  refine (if_neg full).trans ?_
  rw [start, ending]
  simp only [String.append_assoc]

theorem JavaScript.literal_eq (nonempty : text ≠ "") :
    literal text = value (Json.quote text) := by
  have full : ¬ text.isEmpty = true := by simpa using nonempty
  unfold literal value
  exact if_neg full

theorem Java.literal_eq (nonempty : text ≠ "") : literal text = value (Json.quote text) := by
  have full : ¬ text.isEmpty = true := by simpa using nonempty
  unfold literal value
  exact if_neg full

end Statements

namespace Emitter

/-- **A literal is one string of the target language.** In C#, JavaScript and Java, a text that is
not empty is written as the value of a string, and reading the string gives the text, whatever
stands behind it. In C#, that must not be one more quotation mark. -/
theorem literal_is_string (emitter : Emitter) (other : emitter.target ≠ .visualBasic)
    (text : String) (nonempty : text ≠ "") :
    ∃ string, emitter.literal text = emitter.value string ∧
      emitter.target.readString? string.toList = some (text.toList, []) ∧
      ∀ rest : List Char, (emitter.target = .cSharp → rest.head? ≠ some '"') →
        emitter.target.readString? (string.toList ++ rest) =
          (emitter.target.decode? rest).map fun behind => (text.toList, behind) := by
  suffices continued : ∃ string, emitter.literal text = emitter.value string ∧
      ∀ rest : List Char, (emitter.target = .cSharp → rest.head? ≠ some '"') →
        emitter.target.readString? (string.toList ++ rest) =
          (emitter.target.decode? rest).map fun behind => (text.toList, behind) by
    obtain ⟨string, written, reads⟩ := continued
    refine ⟨string, written, ?_, reads⟩
    have alone := reads [] (by simp)
    rw [List.append_nil] at alone
    rw [alone, Target.decode?_nil, Option.map_some]
  unfold literal value
  cases target : emitter.target with
  | visualBasic => exact absurd target other
  | cSharp =>
      exact ⟨_, CSharp.literal_eq nonempty,
        fun rest ends => Target.readString?_verbatim text (ends rfl)⟩
  | javaScript =>
      exact ⟨_, JavaScript.literal_eq nonempty,
        fun rest _ => Target.readString?_quote_javaScript text rest⟩
  | java =>
      exact ⟨_, Java.literal_eq nonempty,
        fun rest _ => Target.readString?_quote_java text rest⟩

/-- A backslash before what looks like an escape, a quotation mark, a control and a line feed: how
Java writes them, and what is read of the string, also in its statement. -/
theorem literal_is_string_of_backslashes :
    let text := "\\u0022\"\x01\n"
    Java.literal text = "\n_buffer.append(\"\\\\u0022\\\"\\u0001\\n\");" ∧
    ∃ string, Java.literal text = Java.value string ∧
      Target.java.readString? string.toList = some (text.toList, []) ∧
      Target.java.readString? (string.toList ++ [')', ';']) = some (text.toList, [')', ';']) := by
  intro text
  have nonempty : text ≠ "" := by decide
  obtain ⟨string, written, alone, behind⟩ :=
    (Emitter.default .java).literal_is_string nofun text nonempty
  refine ⟨by decide +kernel, string, written, alone, ?_⟩
  refine (behind [')', ';'] nofun).trans ?_
  decide +kernel

end Emitter

end TemplateCompiler
