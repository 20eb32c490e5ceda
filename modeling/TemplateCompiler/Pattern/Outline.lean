import TemplateCompiler.Pattern.Basic

/-! # Outlines of patterns

An outline is a pattern brought into the form from which its automaton is built: adjacent
literals are joined, groups that are not remembered are dissolved, alternatives of single
characters become one set, and what alternatives begin with in common stands before them.
The functions `Outline.ofSet`, `Outline.concat`, `Outline.alternatives` and
`Outline.repeated` build outlines in that form. `Outline.shape` says what an outline
matches at least.
-/

namespace TemplateCompiler.Pattern

/-- A pattern in the form from which its automaton is built. -/
inductive Outline where
  /-- The empty text. -/
  | empty
  /-- One text, which is not empty. -/
  | literal (text : List Char)
  /-- One character of a set. -/
  | set (ranges : Text.Ranges)
  | assertion (assertion : Assertion)
  /-- A group that is remembered, with its number. -/
  | group (number : Nat) (body : Outline)
  | seq (parts : List Outline)
  | either (alternatives : List Outline)
  | times (body : Outline) (least : Nat) (most? : Option Nat) (reluctant : Bool)
deriving Repr, BEq

namespace Outline

/-- What can be said of all matches. -/
structure Shape where
  /-- The least length; none where there is no match at all. -/
  shortest? : Option Nat
  /-- All matches are empty. -/
  isBlank : Bool
  /-- All matches begin where the text begins. -/
  fromStart : Bool
  /-- All matches end where the text ends. -/
  toEnd : Bool
deriving DecidableEq, Repr

namespace Shape

/-- The shape of the empty text. -/
def empty : Shape := ⟨some 0, true, false, false⟩

/-- The shape of one match after another. -/
def andThen (first second : Shape) : Shape where
  shortest? := do return (← first.shortest?) + (← second.shortest?)
  isBlank := first.isBlank && second.isBlank
  fromStart := first.fromStart || (first.isBlank && second.fromStart)
  toEnd := second.toEnd || (second.isBlank && first.toEnd)

/-- The shape of one match or another. -/
def union (left right : Shape) : Shape where
  shortest? := do return min (← left.shortest?) (← right.shortest?)
  isBlank := left.isBlank && right.isBlank
  fromStart := left.fromStart && right.fromStart
  toEnd := left.toEnd && right.toEnd

/-- The shape of at least `least` matches. -/
def times (body : Shape) (least : Nat) : Shape where
  shortest? := body.shortest?.map (least * ·)
  isBlank := body.isBlank
  fromStart := least != 0 && body.fromStart
  toEnd := least != 0 && body.toEnd

end Shape

mutual

/-- What an outline matches at least. -/
def shape : Outline → Shape
  | empty => .empty
  | literal text => ⟨some text.length, false, false, false⟩
  | set ranges => ⟨if ranges.isEmpty then none else some 1, false, false, false⟩
  | assertion a => ⟨some 0, true, a == .textStart, a == .textEnd⟩
  | group _ body => body.shape
  | seq parts => shapeOfParts parts
  | either alternatives => shapeOfAlternatives alternatives
  | times body least _ _ => body.shape.times least

/-- What several outlines in a row match at least. -/
def shapeOfParts : List Outline → Shape
  | [] => .empty
  | part :: rest => part.shape.andThen (shapeOfParts rest)

/-- What any of several outlines matches at least. -/
def shapeOfAlternatives : List Outline → Shape
  | [] => ⟨none, false, false, false⟩
  | [only] => only.shape
  | first :: rest => first.shape.union (shapeOfAlternatives rest)

end

/-- One character of a set. A set of one character is a literal. -/
def ofSet (ranges : Text.Ranges) : Outline :=
  match ranges with
  | [(first, last)] => if first = last then literal [Char.ofNat first] else set ranges
  | _ => set ranges

/-- The parts that stand in a row in an outline. -/
def parts : Outline → List Outline
  | empty => []
  | seq parts => parts
  | part => [part]

/-- Parts with adjacent literals joined. -/
def joinLiterals : List Outline → List Outline
  | [] => []
  | literal text :: rest =>
    match joinLiterals rest with
    | literal more :: rest => literal (text ++ more) :: rest
    | rest => literal text :: rest
  | part :: rest => part :: joinLiterals rest

/-- Several outlines in a row. -/
def concat (outlines : List Outline) : Outline :=
  match joinLiterals (outlines.flatMap parts) with
  | [] => empty
  | [part] => part
  | parts => seq parts

/-- The alternatives of an outline. -/
def branches : Outline → List Outline
  | either alternatives => alternatives
  | branch => [branch]

/-- The set of the character, where an outline is one character. -/
def single? : Outline → Option Text.Ranges
  | literal [c] => some [(c.toNat, c.toNat)]
  | _ => none

/-- The set, where an outline is one character of a set. -/
def set? : Outline → Option Text.Ranges
  | set ranges => some ranges
  | _ => none

/-- Alternatives as one outline, where there is at most one, where all are single
characters, or where all are sets. -/
def merged? (alternatives : List Outline) : Option Outline :=
  match alternatives with
  | [] => some (set [])
  | [only] => some only
  | _ =>
    match alternatives.mapM single?, alternatives.mapM set? with
    | some sets, _ => some (ofSet (sets.foldl Text.Ranges.union []))
    | none, some sets => some (ofSet (sets.foldl Text.Ranges.union []))
    | none, none => none

/-- The parts of an outline that is several in a row. -/
def seqParts? : Outline → Option (List Outline)
  | seq parts => some parts
  | _ => none

/-- What two rows of parts begin with in common. -/
def commonPrefix : List Outline → List Outline → List Outline
  | first :: left, second :: right =>
    if first == second then first :: commonPrefix left right else []
  | _, _ => []

/-- What all of several rows of parts begin with. -/
def commonParts : List (List Outline) → List Outline
  | [] => []
  | first :: rest => rest.foldl commonPrefix first

/-- One outline or another. -/
def alternatives (outlines : List Outline) : Outline :=
  let flat := outlines.flatMap branches
  match merged? flat with
  | some outline => outline
  | none =>
    match flat.mapM seqParts? with
    | none => either flat
    | some rows =>
      match commonParts rows with
      | [] => either flat
      | common =>
        let rests := (rows.map fun row => concat (row.drop common.length)).flatMap branches
        concat (common ++ [(merged? rests).getD (either rests)])

/-- A number of repetitions. A body that matches the empty text only is needed once at
most. -/
def repeated (body : Outline) (least : Nat) (most? : Option Nat) (reluctant : Bool) : Outline :=
  let (least, most?) :=
    if body.shape.isBlank then (min least 1, some (min 1 (most?.getD 1))) else (least, most?)
  if least = 0 ∧ most? = some 0 then empty
  else if least = 1 ∧ most? = some 1 then body
  else times body least most? reluctant

mutual

/-- The outline with the parts that stand in a row turned round, each literal kept as one. -/
def mirror : Outline → Outline
  | empty => empty
  | literal text => literal text
  | set ranges => set ranges
  | assertion a => assertion a
  | group number body => group number body.mirror
  | seq parts => seq (mirrors parts).reverse
  | either alternatives => either (mirrors alternatives)
  | times body least most? reluctant => times body.mirror least most? reluctant

/-- Several outlines, each turned round. -/
def mirrors : List Outline → List Outline
  | [] => []
  | first :: rest => first.mirror :: mirrors rest

end

end Outline

end TemplateCompiler.Pattern
