import TemplateCompiler.Proofs.Markup.Tokens

/-! # Sections of a template text

A template text is a list of sections and a tail (`sections`): a section is literal text and the
directive that ends it, the tail is what stands behind the last directive that is closed. Nothing
of the text is lost (`text_eq_sections`).
-/

namespace TemplateCompiler.Markup

/-- A directive that is closed. -/
inductive Directive where
  | body (region : Region) (tokens : List Token)
  | name (kind : NameKind) (name : List Char)
  | inclusion (path : List Char)
deriving DecidableEq, Repr

/-- Literal text and the directive behind it. -/
structure Section where
  literal : List Char
  /-- The directive as it stands behind its `<%`. -/
  written : List Char
  directive : Directive
deriving DecidableEq, Repr

/-- What the markup of a directive opens. -/
def Directive.opening : Directive → Opening
  | body region _ => .body region
  | name kind _ => .name kind
  | inclusion _ => .inclusion

/-- The text of a section. -/
def Section.text (s : Section) : List Char := s.literal ++ ['<', '%'] ++ s.written

/-- A name up to the backtick that closes its directive, and the text behind the directive. -/
def name? (kind : NameKind) (text : List Char) : Option (List Char × List Char) :=
  match text.dropWhile (Draft.isNameChar kind) with
  | '\x60' :: '%' :: '>' :: rest => some (text.takeWhile (Draft.isNameChar kind), rest)
  | _ => none

/-- The characters that a path between quotation marks goes on with. -/
def isPathChar (mark c : Char) : Bool := c != mark && c != '\r' && c != '\n'

/-- A path up to its quotation mark, and the text behind the directive that the mark ends. -/
def quotedPath? (mark : Char) (text : List Char) : Option (List Char × List Char) :=
  match text.dropWhile (isPathChar mark) with
  | c :: behind =>
    if c = mark then
      match behind.dropWhile Text.isBlank with
      | '%' :: '>' :: rest => some (text.takeWhile (isPathChar mark), rest)
      | _ => none
    else none
  | [] => none

/-- The path of an include, and the text behind the directive. -/
def path? (text : List Char) : Option (List Char × List Char) :=
  match text.dropWhile Text.isBlank with
  | mark :: inner => if mark = '"' ∨ mark = '\'' then quotedPath? mark inner else none
  | [] => none

/-- A text starts with what stands behind the markup of a directive, and goes on behind its close
tag. -/
def Directive.Starts (inner rest : List Char) : Directive → Prop
  | body region tokens => body? (bodyMark region) inner = some (tokens, rest)
  | name kind chars => name? kind inner = some (chars, rest)
  | inclusion path => path? inner = some (path, rest)

/-- The directive behind a `<%` where it is closed, and the text behind it. -/
def directive? (tag : List Char) : Option (Directive × List Char) :=
  match opening? tag with
  | none => none
  | some (.body region, inner) =>
    (body? (bodyMark region) inner).map fun found => (.body region found.1, found.2)
  | some (.name kind, inner) =>
    (name? kind inner).map fun found => (.name kind found.1, found.2)
  | some (.inclusion, inner) =>
    (path? inner).map fun found => (.inclusion found.1, found.2)

/-- The first section of a text, and the text behind it. -/
def section? (text : List Char) : Option (Section × List Char) :=
  match splitAt? ['<', '%'] text with
  | none => none
  | some (literal, tag) =>
    (directive? tag).map fun found =>
      (⟨literal, tag.take (tag.length - found.2.length), found.1⟩, found.2)

theorem suffix_of_name? {kind : NameKind} {text name rest : List Char}
    (found : name? kind text = some (name, rest)) : rest <:+ text := by
  refine .trans ?_ (List.dropWhile_suffix (Draft.isNameChar kind))
  unfold name? at found
  split at found
  · rename_i more dropped
    cases found
    rw [dropped]
    exact ⟨['\x60', '%', '>'], rfl⟩
  · cases found

theorem suffix_of_quotedPath? {mark : Char} {text path rest : List Char}
    (found : quotedPath? mark text = some (path, rest)) : rest <:+ text := by
  refine .trans ?_ (List.dropWhile_suffix (isPathChar mark))
  unfold quotedPath? at found
  split at found
  · rename_i c behind dropped
    split_ifs at found
    split at found
    · rename_i more after
      cases found
      rw [dropped]
      refine .trans ?_ (List.suffix_cons c behind)
      refine .trans ?_ (List.dropWhile_suffix Text.isBlank)
      rw [after]
      exact ⟨['%', '>'], rfl⟩
    · cases found
  · cases found

theorem suffix_of_path? {text path rest : List Char} (found : path? text = some (path, rest)) :
    rest <:+ text := by
  refine .trans ?_ (List.dropWhile_suffix Text.isBlank)
  unfold path? at found
  split at found
  · rename_i mark inner dropped
    split_ifs at found
    rw [dropped]
    exact (suffix_of_quotedPath? found).trans (List.suffix_cons mark inner)
  · cases found

theorem directive?_eq_some {tag rest : List Char} {directive : Directive}
    (found : directive? tag = some (directive, rest)) :
    ∃ inner, opening? tag = some (directive.opening, inner) ∧ directive.Starts inner rest := by
  unfold directive? at found
  split at found
  · cases found
  all_goals
    rename_i opens
    obtain ⟨⟨_, behind⟩, closed, same⟩ := Option.map_eq_some_iff.mp found
    obtain ⟨rfl, rfl⟩ := Prod.mk.inj same
    exact ⟨_, opens, closed⟩

/-- Behind a directive stands what is left of the text. -/
theorem suffix_of_directive? {tag rest : List Char} {directive : Directive}
    (found : directive? tag = some (directive, rest)) : rest <:+ tag := by
  obtain ⟨inner, opens, closed⟩ := directive?_eq_some found
  obtain ⟨markup, _, whole⟩ := opening?_eq_some opens
  refine .trans ?_ ⟨markup, whole.symm⟩
  cases directive with
  | body region tokens => exact ⟨_, (body?_eq_some closed).symm⟩
  | name kind name => exact suffix_of_name? closed
  | inclusion path => exact suffix_of_path? closed

/-- A text with a first section is that section and what stands behind it. -/
theorem section?_eq_some {text rest : List Char} {s : Section}
    (found : section? text = some (s, rest)) :
    ∃ tag, splitAt? ['<', '%'] text = some (s.literal, tag) ∧
      directive? tag = some (s.directive, rest) ∧ tag = s.written ++ rest := by
  unfold section? at found
  split at found
  · cases found
  · rename_i literal tag tagged
    obtain ⟨⟨directive, behind⟩, closed, same⟩ := Option.map_eq_some_iff.mp found
    cases same
    refine ⟨tag, tagged, closed, ?_⟩
    obtain ⟨written, whole⟩ := suffix_of_directive? closed
    dsimp only
    rw [← whole]
    simp

theorem text_eq_section {text rest : List Char} {s : Section}
    (found : section? text = some (s, rest)) : text = s.text ++ rest := by
  obtain ⟨tag, tagged, _, whole⟩ := section?_eq_some found
  rw [splitAt?_eq_some tagged, whole, Section.text]
  simp only [List.append_assoc]

/-- The sections of a text, and the text behind the last one. -/
def sections (text : List Char) : List Section × List Char :=
  match _first : section? text with
  | none => ([], text)
  | some (s, rest) => (s :: (sections rest).1, (sections rest).2)
termination_by text.length
decreasing_by
  all_goals
    rw [text_eq_section _first, Section.text]
    simp only [List.length_append, List.length_cons]
    omega

theorem sections_of_none {text : List Char} (none : section? text = none) :
    sections text = ([], text) := by
  rw [sections]
  split
  · rfl
  · simp_all

theorem sections_of_some {text rest : List Char} {s : Section}
    (first : section? text = some (s, rest)) :
    sections text = (s :: (sections rest).1, (sections rest).2) := by
  rw [sections]
  split
  · simp_all
  · simp_all

/-- Sections are read one after the other. -/
theorem sections_induction {holds : List Char → Prop}
    (tail : ∀ text, section? text = none → holds text)
    (behind : ∀ text s rest, section? text = some (s, rest) → holds rest → holds text)
    (text : List Char) : holds text := by
  induction length : text.length using Nat.strongRecOn generalizing text with
  | ind size ih =>
      cases first : section? text with
      | none => exact tail text first
      | some found =>
          obtain ⟨s, rest⟩ := found
          refine behind text s rest first (ih rest.length ?_ rest rfl)
          rw [← length, text_eq_section first, Section.text]
          simp only [List.length_append, List.length_cons]
          omega

/-- **Nothing of a text is lost** between its sections. -/
theorem text_eq_sections (text : List Char) :
    text = (sections text).1.flatMap Section.text ++ (sections text).2 := by
  induction text using sections_induction with
  | tail text none => rw [sections_of_none none]; rfl
  | behind text s rest first ih =>
      rw [sections_of_some first, List.flatMap_cons, List.append_assoc, ← ih]
      exact text_eq_section first

/-- No directive is closed in the tail. -/
theorem section?_tail (text : List Char) : section? (sections text).2 = none := by
  induction text using sections_induction with
  | tail text none => rwa [sections_of_none none]
  | behind text s rest first ih => rwa [sections_of_some first]

/-- The tail of a text is literal text. -/
def EndsInLiteral (text : List Char) : Prop := splitAt? ['<', '%'] (sections text).2 = none

/-- The tail of a text ends in a function block. -/
def EndsInFunctionBlock (text : List Char) : Prop :=
  ∃ literal tag inner, splitAt? ['<', '%'] (sections text).2 = some (literal, tag) ∧
    opening? tag = some (.body .function, inner)

end TemplateCompiler.Markup
