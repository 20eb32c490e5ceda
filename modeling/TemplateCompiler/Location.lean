/-! # Places in a text

A `Location` is the row and column of a character. A `Cursor` stands behind a
character of a text: it keeps the characters read so far, the most recent first, and
the location of the last one. `Cursor.advance` is the only way to move it.
-/

namespace TemplateCompiler

/-- Row and column of a character, both counted from one. -/
structure Location where
  row : Nat
  col : Nat
deriving DecidableEq, Repr, Inhabited

namespace Location

/-- The location as messages show it. -/
def text (location : Location) : String :=
  "(" ++ toString location.row ++ ", " ++ toString location.col ++ ")"

/-- The location of the character after one at `location`: a line feed ends its row. -/
def next (location : Location) (endsRow : Bool) : Location :=
  if endsRow then ⟨location.row + 1, 1⟩ else ⟨location.row, location.col + 1⟩

end Location

/-- A place in a text, behind the characters read so far. -/
structure Cursor where
  /-- The characters read, the most recent first. -/
  behind : List Char
  /-- Location of the most recent character; row one, column zero before the first. -/
  location : Location
deriving DecidableEq, Repr

namespace Cursor

/-- The cursor before the first character of a text. -/
def start : Cursor := ⟨[], ⟨1, 0⟩⟩

/-- The cursor after reading one more character. -/
def advance (cursor : Cursor) (c : Char) : Cursor :=
  ⟨c :: cursor.behind, cursor.location.next (cursor.behind.head? == some '\n')⟩

/-- The cursor after reading a run of characters. -/
def advanceBy (cursor : Cursor) (cs : List Char) : Cursor := cs.foldl advance cursor

/-- The most recent character. -/
def current? (cursor : Cursor) : Option Char := cursor.behind.head?

/-- How many characters have been read: the position of the most recent one, counted
from one. -/
def position (cursor : Cursor) : Nat := cursor.behind.length

/-- Whether the characters read end with a text. -/
def endedWith (cursor : Cursor) (ending : String) : Bool :=
  ending.toList.reverse.isPrefixOf cursor.behind

@[simp] theorem advance_behind (cursor : Cursor) (c : Char) :
    (cursor.advance c).behind = c :: cursor.behind := rfl

@[simp] theorem advanceBy_nil (cursor : Cursor) : cursor.advanceBy [] = cursor := rfl

@[simp] theorem advanceBy_cons (cursor : Cursor) (c : Char) (cs : List Char) :
    cursor.advanceBy (c :: cs) = (cursor.advance c).advanceBy cs := rfl

theorem advanceBy_append (cursor : Cursor) (left right : List Char) :
    cursor.advanceBy (left ++ right) = (cursor.advanceBy left).advanceBy right :=
  List.foldl_append

theorem advanceBy_behind (cursor : Cursor) (cs : List Char) :
    (cursor.advanceBy cs).behind = cs.reverse ++ cursor.behind := by
  induction cs generalizing cursor with
  | nil => rfl
  | cons c cs ih => simp [ih]

end Cursor

end TemplateCompiler
