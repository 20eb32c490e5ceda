import TemplateCompiler.Pattern.Notation
import TemplateCompiler.Text.Trim

/-! # Grammars of names

Class and engine names are plain identifiers. Module names are dotted identifiers unless
a pattern is configured for them. `Grammar.accepts` decides; `Grammar.text` is the
grammar written as a pattern.
-/

namespace TemplateCompiler

/-- A rule that declared names have to satisfy. -/
inductive Grammar where
  /-- ASCII letters, digits and low lines, no digit first. -/
  | plain
  /-- Words between dots, each with an ASCII letter or a low line first, after an
  optional `@`. -/
  | dotted
  /-- Any text in which a pattern is found. -/
  | custom (text : String) (pattern : Pattern)
deriving DecidableEq, Repr

namespace Grammar

/-- Characters that an identifier can start with. -/
def isStart (c : Char) : Bool := c.isAlpha || c == '_'

/-- Whether characters form a plain identifier. -/
def isPlain : List Char → Bool
  | [] => false
  | c :: rest => isStart c && rest.all fun c => c.isAlphanum || c == '_'

/-- Whether characters form one word of a dotted identifier, without its `@`. -/
def isWord : List Char → Bool
  | [] => false
  | c :: rest => isStart c && rest.all Text.isWordChar

/-- Whether characters form one segment of a dotted identifier. -/
def isSegment : List Char → Bool
  | '@' :: rest => isWord rest
  | cs => isWord cs

/-- Whether the grammar accepts a name. -/
def accepts (grammar : Grammar) (name : String) : Bool :=
  match grammar with
  | plain => isPlain name.toList
  | dotted => (Text.split (· == '.') name.toList).all isSegment
  | custom _ pattern => pattern.foundIn name

/-- The grammar as a pattern. -/
def text : Grammar → String
  | plain => "^[A-Za-z_][A-Za-z0-9_]*$"
  | dotted => "^@?[A-Za-z_]\\w*(\\.@?[A-Za-z_]\\w*)*$"
  | custom text _ => text

/-- The grammar of a pattern; none where the text is no pattern. -/
def ofPattern? (text : String) : Option Grammar :=
  (Pattern.ofText? text).map (custom text)

end Grammar

end TemplateCompiler
