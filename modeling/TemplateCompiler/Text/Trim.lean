import TemplateCompiler.Text.Class

/-! # Cutting text

Trimming, splitting and the lines of a text. The work is done on lists of
characters; the functions on `String` are these under `String.toList`.
-/

namespace TemplateCompiler.Text

/-- The characters without those at the end that satisfy `p`. -/
def dropEnd (p : Char → Bool) (cs : List Char) : List Char :=
  (cs.reverse.dropWhile p).reverse

/-- The characters without those at either end that satisfy `p`. -/
def dropEnds (p : Char → Bool) (cs : List Char) : List Char :=
  dropEnd p (cs.dropWhile p)

/-- The text without the characters at its end that satisfy `p`. -/
def trimEndBy (p : Char → Bool) (s : String) : String :=
  String.ofList (dropEnd p s.toList)

/-- The text without the characters at either end that satisfy `p`. -/
def trimBy (p : Char → Bool) (s : String) : String :=
  String.ofList (dropEnds p s.toList)

/-- The text without blanks at either end. -/
def trim (s : String) : String := trimBy isBlank s

/-- The text without blanks at its end. -/
def trimEnd (s : String) : String := trimEndBy isBlank s

/-- The text without line feeds at either end. -/
def trimLineFeeds (s : String) : String := trimBy (· == '\n') s

/-- The text consists of blanks only. -/
def isBlankText (s : String) : Bool := s.toList.all isBlank

/-- The pieces between the characters that satisfy `p`; there is one more piece than
there are such characters. -/
def split (p : Char → Bool) : List Char → List (List Char)
  | [] => [[]]
  | c :: cs =>
    if p c then [] :: split p cs
    else
      match split p cs with
      | [] => [[c]]
      | piece :: rest => (c :: piece) :: rest

/-- The pieces between the occurrences of a separator, found from left to right without
overlap. The first `skip` characters belong to a separator already found. -/
def splitAtText (sep : List Char) : (skip : Nat) → List Char → List (List Char)
  | _, [] => [[]]
  | skip + 1, _ :: cs => splitAtText sep skip cs
  | 0, c :: cs =>
    if sep.isPrefixOf (c :: cs) then [] :: splitAtText sep (sep.length - 1) cs
    else
      match splitAtText sep 0 cs with
      | [] => [[c]]
      | piece :: rest => (c :: piece) :: rest

/-- The pieces of a text between the occurrences of a separator; the whole text where the
separator is empty. -/
def splitOn (sep s : String) : List String :=
  if sep.isEmpty then [s] else (splitAtText sep.toList 0 s.toList).map String.ofList

/-- One line without the carriage return that a line feed after it leaves behind. -/
def dropReturn (line : List Char) : List Char :=
  if line.getLast? = some '\r' then line.dropLast else line

/-- Lines from the pieces between line feeds. A piece that a line feed ended loses one
carriage return; an empty piece at the end is no line. -/
def linesOfPieces : List (List Char) → List (List Char)
  | [] => []
  | [last] => if last.isEmpty then [] else [last]
  | piece :: rest => dropReturn piece :: linesOfPieces rest

/-- The lines of a text, without their ends. -/
def lines (s : String) : List String :=
  (linesOfPieces (split (· == '\n') s.toList)).map String.ofList

/-- The parts with a separator between each two. -/
def join (sep : String) (parts : List String) : String := sep.intercalate parts

/-- Adds a line to a text: an empty line changes nothing, and a line feed goes before
any line but the first. -/
def addLine (text line : String) : String :=
  if line.isEmpty then text else if text.isEmpty then line else text ++ "\n" ++ line

/-- ASCII capitals as small letters. -/
def lowerAscii (s : String) : String := s.map Char.toLower

/-- The quotation marks of a text written twice. -/
def doubleQuotes (s : String) : String :=
  String.ofList (s.toList.flatMap fun c => if c = '"' then ['"', '"'] else [c])

@[simp] theorem dropEnd_nil (p : Char → Bool) : dropEnd p [] = [] := rfl

theorem split_ne_nil (p : Char → Bool) (cs : List Char) : split p cs ≠ [] := by
  cases cs with
  | nil => simp [split]
  | cons c cs =>
      simp only [split]
      split
      · simp
      · split <;> simp

end TemplateCompiler.Text
