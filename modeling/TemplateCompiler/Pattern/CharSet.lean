import TemplateCompiler.Pattern.CaseFold
import TemplateCompiler.Text.Class

/-! # Sets of characters in patterns

A set as a pattern writes it, by name, by range and by the operations on sets.
`CharSet.contains` decides membership; `CharSet.ranges` lists the set as ranges of code
points.
-/

namespace TemplateCompiler.Pattern

/-- A set of characters, as a pattern writes it. -/
inductive CharSet where
  /-- The characters between two, both included. -/
  | range (first last : Char)
  | word
  | digit
  | blank
  | union (left right : CharSet)
  | inter (left right : CharSet)
  | compl (set : CharSet)
  /-- With each character, those that differ from it in case only. -/
  | anyCase (set : CharSet)
deriving DecidableEq, Repr

namespace CharSet

/-- Whether a character belongs to the set. -/
def contains : CharSet → Char → Bool
  | range first last, c => first ≤ c && c ≤ last
  | word, c => Text.isWordChar c
  | digit, c => Text.isDigit c
  | blank, c => Text.isBlank c
  | union left right, c => left.contains c || right.contains c
  | inter left right, c => left.contains c && right.contains c
  | compl set, c => !set.contains c
  | anyCase set, c => (sameLetter c).any set.contains

/-- The set as ranges of code points, in ascending order and with gaps between them. -/
def ranges : CharSet → Text.Ranges
  | range first last => if first ≤ last then [(first.toNat, last.toNat)] else []
  | word => Text.wordRanges
  | digit => Text.digitRanges
  | blank => Text.blankRanges
  | union left right => left.ranges.union right.ranges
  | inter left right => left.ranges.inter right.ranges
  | compl set => set.ranges.compl
  | anyCase set => closeCase set.ranges

/-- The set of one character. -/
def single (c : Char) : CharSet := range c c

/-- The set of no character: all characters and their complement have none in common. -/
def noChar : CharSet := compl (range '\x00' (Char.ofNat 0x10ffff))

/-- The union of several sets. -/
def unionAll (sets : List CharSet) : CharSet := sets.foldl union noChar

/-- The characters of the first set that the second does not have. -/
def minus (left right : CharSet) : CharSet := inter left (compl right)

/-- The characters that one of two sets has and the other has not. -/
def symmDiff (left right : CharSet) : CharSet :=
  minus (union left right) (inter left right)

/-- The set, with those that differ in case only where case does not matter. -/
def folded (set : CharSet) (caseless : Bool) : CharSet := if caseless then anyCase set else set

end CharSet

end TemplateCompiler.Pattern
