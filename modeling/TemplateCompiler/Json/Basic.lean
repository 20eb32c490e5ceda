import TemplateCompiler.Text.Hex
import TemplateCompiler.Text.Trim

/-! # JSON values

The value type, and its written forms: on one line, and over several lines with two
spaces for each level.
-/

namespace TemplateCompiler

/-- A JSON value. -/
inductive Json where
  | null
  | bool (value : Bool)
  /-- An integer that is not negative. -/
  | nat (value : Nat)
  /-- Any other number, as it is written. -/
  | number (lexeme : String)
  | string (text : String)
  | array (items : List Json)
  /-- Members in order of appearance. -/
  | object (members : List (String × Json))
  /-- A value that was written with half a surrogate pair and so stands for no text. -/
  | unreadable
deriving Repr, Inhabited, BEq

namespace Json

/-- A character as it stands in a string literal: quotation marks, backslashes and
controls are escaped, all other characters stand for themselves. -/
def escapeChar (c : Char) : List Char :=
  if c = '"' then ['\\', '"']
  else if c = '\\' then ['\\', '\\']
  else if c = '\x08' then ['\\', 'b']
  else if c = '\x0c' then ['\\', 'f']
  else if c = '\n' then ['\\', 'n']
  else if c = '\r' then ['\\', 'r']
  else if c = '\t' then ['\\', 't']
  else if c.toNat < 0x20 then
    ['\\', 'u', '0', '0', Nat.digitChar (c.toNat / 16), Nat.digitChar (c.toNat % 16)]
  else [c]

/-- A text as a string literal. -/
def quote (text : String) : String :=
  String.ofList ('"' :: (text.toList.flatMap escapeChar ++ ['"']))

mutual

/-- The value on one line. -/
def render : Json → String
  | null => "null"
  | bool value => if value then "true" else "false"
  | nat value => toString value
  | number lexeme => lexeme
  | string text => quote text
  | array items => "[" ++ Text.join "," (renderItems items) ++ "]"
  | object members => "\x7b" ++ Text.join "," (renderMembers members) ++ "\x7d"
  | unreadable => "null"

/-- The items of an array, each on one line. -/
def renderItems : List Json → List String
  | [] => []
  | item :: rest => item.render :: renderItems rest

/-- The members of an object, each on one line. -/
def renderMembers : List (String × Json) → List String
  | [] => []
  | (key, value) :: rest => (quote key ++ ":" ++ value.render) :: renderMembers rest

end

/-- The start of a line at a level. -/
def indentation (level : Nat) : String := String.ofList (List.replicate (2 * level) ' ')

/-- Lines between two brackets, one level deeper than the brackets. -/
def block (level : Nat) (opening closing : String) (lines : List String) : String :=
  if lines.isEmpty then opening ++ closing
  else
    opening ++ "\n" ++ Text.join ",\n" (lines.map (indentation (level + 1) ++ ·)) ++ "\n" ++
      indentation level ++ closing

mutual

/-- The value over several lines, its first line at a level. -/
def prettyAt (level : Nat) : Json → String
  | array items => block level "[" "]" (prettyItems (level + 1) items)
  | object members => block level "\x7b" "\x7d" (prettyMembers (level + 1) members)
  | value => value.render

/-- The items of an array, each over several lines. -/
def prettyItems (level : Nat) : List Json → List String
  | [] => []
  | item :: rest => item.prettyAt level :: prettyItems level rest

/-- The members of an object, each over several lines. -/
def prettyMembers (level : Nat) : List (String × Json) → List String
  | [] => []
  | (key, value) :: rest =>
    (quote key ++ ": " ++ value.prettyAt level) :: prettyMembers level rest

end

/-- The value over several lines. -/
def pretty (value : Json) : String := value.prettyAt 0

mutual

/-- The value with the members of its objects in the order of their keys. -/
def sorted : Json → Json
  | array items => .array (sortedItems items)
  | object members =>
    .object ((sortedMembers members).mergeSort fun left right => left.1 ≤ right.1)
  | value => value

/-- The items of an array with their members in order. -/
def sortedItems : List Json → List Json
  | [] => []
  | item :: rest => item.sorted :: sortedItems rest

/-- The members of an object, each with its own members in order. -/
def sortedMembers : List (String × Json) → List (String × Json)
  | [] => []
  | (key, value) :: rest => (key, value.sorted) :: sortedMembers rest

end

/-- A value for a text that may be missing. -/
def ofOption : Option String → Json
  | some text => .string text
  | none => .null

/-- An array of texts. -/
def strings (texts : List String) : Json := .array (texts.map .string)

end Json

end TemplateCompiler
