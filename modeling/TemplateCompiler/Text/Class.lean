import TemplateCompiler.Text.Letters
import TemplateCompiler.Text.Marks
import TemplateCompiler.Text.Newcomers
import TemplateCompiler.Text.Numerals
import TemplateCompiler.Text.Unprintable

/-! # Character classes

The classes that names, blank text, messages and patterns are made of. Each is
decided by a table of ranges, most of them by arithmetic on ASCII. The tables are
those of Unicode 17; the classes that patterns name (`isDigit`, `isWordChar`) keep to
Unicode 16.
-/

namespace TemplateCompiler.Text

/-- The characters of the Unicode property White_Space. -/
def blankRanges : Ranges := [
  (0x09, 0x0d), (0x20, 0x20), (0x85, 0x85), (0xa0, 0xa0), (0x1680, 0x1680), (0x2000, 0x200a),
  (0x2028, 0x2029), (0x202f, 0x202f), (0x205f, 0x205f), (0x3000, 0x3000)]

/-- Blank characters. -/
def isBlank (c : Char) : Bool := blankRanges.contains c

/-- Letters: the Unicode property Alphabetic. -/
def isLetter (c : Char) : Bool :=
  if c.toNat < 0x80 then c.isAlpha else letters.contains c

/-- Decimal digits of every script, the newcomers apart. -/
def isDigit (c : Char) : Bool :=
  if c.toNat < 0x80 then c.isDigit else digits.contains c && !newcomers.contains c

/-- Letters, decimal digits and the other numerals of every script. -/
def isAlphanumeric (c : Char) : Bool :=
  if c.toNat < 0x80 then c.isAlphanum
  else letters.contains c || digits.contains c || numerals.contains c

/-- Characters of a word: letters, marks, decimal digits, the low line and the other
characters that join a word together, the newcomers apart. -/
def isWordChar (c : Char) : Bool :=
  if c.toNat < 0x80 then c.isAlphanum || c == '_'
  else !newcomers.contains c &&
    (letters.contains c || marks.contains c || digits.contains c || joiners.contains c)

/-- The decimal digits as ranges. -/
def digitRanges : Ranges := Ranges.inter ((0x30, 0x39) :: digits) newcomers.compl

/-- The characters of a word as ranges. -/
def wordRanges : Ranges :=
  let ascii : Ranges := [(0x30, 0x39), (0x41, 0x5a), (0x5f, 0x5f), (0x61, 0x7a)]
  let all := ((letters.union marks).union (digits.union joiners)).union ascii
  all.inter newcomers.compl

/-- Characters that a message can show as they are. -/
def isPrintable (c : Char) : Bool :=
  if c.toNat < 0x80 then 0x20 ≤ c.toNat && c.toNat < 0x7f else !unprintable.contains c

end TemplateCompiler.Text
