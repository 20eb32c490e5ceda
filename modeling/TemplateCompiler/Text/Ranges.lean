/-! # Sets of characters given by ranges

The character classes of this library are tables of inclusive code point ranges.
`Ranges.contains` is membership in such a table. Union and complement are taken on tables
whose ranges ascend and leave gaps between them, and give such tables again.
-/

namespace TemplateCompiler.Text

/-- A set of characters as inclusive ranges of code points. -/
abbrev Ranges := List (Nat × Nat)

namespace Ranges

/-- Whether a code point lies in one of the ranges. -/
def covers (ranges : Ranges) (n : Nat) : Bool :=
  ranges.any fun range => range.1 ≤ n && n ≤ range.2

/-- Whether a character lies in one of the ranges. -/
def contains (ranges : Ranges) (c : Char) : Bool := ranges.covers c.toNat

theorem contains_iff (ranges : Ranges) (c : Char) :
    ranges.contains c = true ↔ ∃ range ∈ ranges, range.1 ≤ c.toNat ∧ c.toNat ≤ range.2 := by
  simp [contains, covers]

/-- The table with one more range, which swallows the ranges that it meets. -/
def insert (range : Nat × Nat) : Ranges → Ranges
  | [] => [range]
  | next :: rest =>
    if range.2 + 1 < next.1 then range :: next :: rest
    else if next.2 + 1 < range.1 then next :: insert range rest
    else insert (min range.1 next.1, max range.2 next.2) rest

/-- The union of two tables. The ranges of the second may stand in any order. -/
def union (left right : Ranges) : Ranges :=
  right.foldl (fun ranges range => insert range ranges) left

/-- The last code point. -/
def lastCode : Nat := 0x10ffff

/-- The code points from `least` on that are outside the ranges. -/
def gapsFrom (least : Nat) : Ranges → Ranges
  | [] => if least ≤ lastCode then [(least, lastCode)] else []
  | (first, last) :: rest =>
    if least < first then (least, first - 1) :: gapsFrom (last + 1) rest
    else gapsFrom (last + 1) rest

/-- The code points outside the ranges. -/
def compl (ranges : Ranges) : Ranges := ranges.gapsFrom 0

/-- The code points that two tables have in common. -/
def inter (left right : Ranges) : Ranges := (left.compl.union right.compl).compl

end Ranges

end TemplateCompiler.Text
