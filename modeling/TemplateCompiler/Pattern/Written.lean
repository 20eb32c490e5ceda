import TemplateCompiler.Pattern.AutomatonSize

/-! # Written patterns

What the written form of a pattern says, piece by piece, before any of it is simplified.
`Written.depth` says how deep its pieces nest, `Written.meaning` is the pattern that is
written, and `Written.outline` the form from which its automaton is built.
-/

namespace TemplateCompiler.Pattern

/-- A set of characters as it is written: the set, and how deep its brackets nest. -/
structure WrittenSet where
  set : CharSet
  depth : Nat
deriving DecidableEq, Repr

/-- A pattern as it is written. -/
inductive Written where
  /-- A change of flags, which matches the empty text. -/
  | flags
  | chars (set : WrittenSet)
  | assertion (assertion : Assertion)
  /-- A group, with its number where it is remembered. -/
  | group (number? : Option Nat) (body : Written)
  /-- Any number of items but one. -/
  | seq (items : List Written)
  | either (alternatives : List Written)
  | times (body : Written) (least : Nat) (most? : Option Nat) (reluctant : Bool)
deriving Repr

namespace Written

/-- Items in a row as one. -/
def ofItems : List Written → Written
  | [item] => item
  | items => seq items

mutual

/-- How deep the pieces of a pattern nest. Single characters and assertions are no
level of their own. -/
def depth : Written → Nat
  | flags => 0
  | chars set => set.depth
  | assertion _ => 0
  | group _ body => 1 + body.depth
  | seq [] => 0
  | seq (item :: rest) => 1 + max item.depth (depthOfAll rest)
  | either alternatives => 1 + depthOfAll alternatives
  | times body _ _ _ => 1 + body.depth

/-- How deep any of several patterns nests. -/
def depthOfAll : List Written → Nat
  | [] => 0
  | first :: rest => max first.depth (depthOfAll rest)

end

mutual

/-- The pattern that is written. -/
def meaning : Written → Pattern
  | flags => .empty
  | chars set => .chars set.set
  | assertion a => .assertion a
  | group _ body => body.meaning
  | seq items => meaningOfItems items
  | either alternatives => meaningOfAlternatives alternatives
  | times body least most? _ => .times body.meaning least most?

/-- The pattern of several items in a row. -/
def meaningOfItems : List Written → Pattern
  | [] => .empty
  | [only] => only.meaning
  | item :: rest => .seq item.meaning (meaningOfItems rest)

/-- The pattern of several alternatives. -/
def meaningOfAlternatives : List Written → Pattern
  | [] => .chars .noChar
  | [only] => only.meaning
  | first :: rest => .either first.meaning (meaningOfAlternatives rest)

end

mutual

/-- The form from which the automaton of a pattern is built. -/
def outline : Written → Outline
  | flags => .empty
  | chars set => .ofSet set.set.ranges
  | assertion a => .assertion a
  | group none body => body.outline
  | group (some number) body => .group number body.outline
  | seq items => .concat (outlines items)
  | either alternatives => .alternatives (outlines alternatives)
  | times body least most? reluctant => body.outline.repeated least most? reluctant

/-- The outlines of several patterns. -/
def outlines : List Written → List Outline
  | [] => []
  | first :: rest => first.outline :: outlines rest

end

/-- How deep a pattern may nest. -/
def depthLimit : Nat := 250

/-- Whether a pattern keeps within the limits of depth and space. -/
def isWithinLimits (written : Written) : Bool :=
  written.depth ≤ depthLimit && written.outline.fits

end Written

end TemplateCompiler.Pattern
