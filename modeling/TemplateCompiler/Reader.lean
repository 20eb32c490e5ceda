import TemplateCompiler.Location

/-! # Reading a text character by character

A `Reader` yields the characters of a text in order. The character yielded last can be
held back once, and is then yielded again without the cursor moving.
-/

namespace TemplateCompiler

/-- A text in the middle of being read. -/
structure Reader where
  /-- The place behind the most recent character. -/
  cursor : Cursor
  /-- The characters not read yet. -/
  ahead : List Char
  /-- Whether the most recent character is yielded again next. -/
  held : Bool
deriving DecidableEq, Repr

namespace Reader

/-- The reader before the first character of a text. -/
def ofText (source : String) : Reader := ⟨Cursor.start, source.toList, false⟩

/-- The most recent character. -/
def current? (reader : Reader) : Option Char := reader.cursor.current?

/-- The position of the most recent character, counted from one. -/
def position (reader : Reader) : Nat := reader.cursor.position

/-- The location of the most recent character. -/
def location (reader : Reader) : Location := reader.cursor.location

/-- Whether the characters read end with a text. -/
def endedWith (reader : Reader) (ending : String) : Bool := reader.cursor.endedWith ending

/-- Holds the most recent character back. Before the first character this does nothing. -/
def hold (reader : Reader) : Reader :=
  { reader with held := reader.held || reader.current?.isSome }

/-- The next character, if there is one, and the reader after it. -/
def next (reader : Reader) : Option Char × Reader :=
  if reader.held then (reader.current?, { reader with held := false })
  else
    match reader.ahead with
    | [] => (none, reader)
    | c :: rest => (some c, ⟨reader.cursor.advance c, rest, false⟩)

/-- All the characters left, and the reader after them. -/
def rest (reader : Reader) : List Char × Reader :=
  let again := if reader.held then reader.current?.toList else []
  (again ++ reader.ahead, ⟨reader.cursor.advanceBy reader.ahead, [], false⟩)

/-- How many more characters a reader can yield. -/
def left (reader : Reader) : Nat := reader.ahead.length + if reader.held then 1 else 0

end Reader

end TemplateCompiler
