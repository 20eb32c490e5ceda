import TemplateCompiler.Text.Ranges

/-! # Ranges of characters as bytes

The characters of a range of code points, encoded in UTF-8, are the byte texts of a few
sequences of byte ranges. `byteSequences` lists these sequences, in ascending order and
without overlaps.
-/

namespace TemplateCompiler.Text

/-- The bytes of a code point. -/
def utf8Bytes (n : Nat) : List Nat :=
  if n < 0x80 then [n]
  else if n < 0x800 then [0xc0 + n / 0x40, 0x80 + n % 0x40]
  else if n < 0x10000 then [0xe0 + n / 0x1000, 0x80 + n / 0x40 % 0x40, 0x80 + n % 0x40]
  else
    [0xf0 + n / 0x40000, 0x80 + n / 0x1000 % 0x40, 0x80 + n / 0x40 % 0x40, 0x80 + n % 0x40]

/-- The code points whose encodings are equally long, surrogates left out. -/
def lengthClasses : Ranges :=
  [(0, 0x7f), (0x80, 0x7ff), (0x800, 0xd7ff), (0xe000, 0xffff), (0x10000, 0x10ffff)]

/-- A range cut where its last bytes do not run through all of their values: `unit` code
points differ in the last bytes only, and as many bytes as `before` says may stand before
them. -/
def cut : (before unit : Nat) → Nat × Nat → Ranges
  | 0, _, range => [range]
  | before + 1, unit, (first, last) =>
    if first / unit = last / unit then [(first, last)]
    else
      let (head, first) :=
        if first % unit = 0 then ([], first)
        else ([(first, (first / unit + 1) * unit - 1)], (first / unit + 1) * unit)
      if first / unit = last / unit then head ++ [(first, last)]
      else
        let (tail, last) :=
          if last % unit = unit - 1 then ([], last)
          else ([(last / unit * unit, last)], last / unit * unit - 1)
        head ++ cut before (0x40 * unit) (first, last) ++ tail

/-- The byte sequences of the characters in a range of code points. -/
def byteSequences (range : Nat × Nat) : List Ranges :=
  lengthClasses.flatMap fun (least, most) =>
    let first := max range.1 least
    let last := min range.2 most
    if last < first then []
    else if last < 0x80 then [[(first, last)]]
    else
      (cut 3 0x40 (first, last)).map fun (first, last) =>
        List.zip (utf8Bytes first) (utf8Bytes last)

end TemplateCompiler.Text
