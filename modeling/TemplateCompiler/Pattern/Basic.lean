import TemplateCompiler.Pattern.CharSet

/-! # Patterns

A pattern describes texts: characters of a set, one pattern after another, alternatives
and repetitions, and assertions about the place itself. A `Place` is a point of a text.
`Pattern.matchesAt` gives the lengths of the matches that begin at each place of a text,
`Pattern.endsFrom` the ends of those that begin at some places, and `Pattern.foundIn` says
whether a pattern matches anywhere in a text.
-/

namespace TemplateCompiler

namespace Pattern

/-- An assertion about a place of a text. -/
inductive Assertion where
  | textStart
  | textEnd
  | lineStart
  | lineEnd
  | wordEdge
  | noWordEdge
deriving DecidableEq, Repr

/-- A point of a text: the character before it, if any, and the text after it. -/
structure Place where
  before? : Option Char
  after : List Char
deriving DecidableEq, Repr

/-- Whether an assertion holds at a place. -/
def Assertion.holds (assertion : Assertion) (place : Place) : Bool :=
  let wordBefore := place.before?.any Text.isWordChar
  let wordAfter := place.after.head?.any Text.isWordChar
  match assertion with
  | textStart => place.before?.isNone
  | textEnd => place.after.isEmpty
  | lineStart => place.before?.isNone || place.before? == some '\n'
  | lineEnd => place.after.isEmpty || place.after.head? == some '\n'
  | wordEdge => wordBefore != wordAfter
  | noWordEdge => wordBefore == wordAfter

end Pattern

/-- A description of texts. -/
inductive Pattern where
  /-- The empty text. -/
  | empty
  /-- One character of a set. -/
  | chars (set : Pattern.CharSet)
  /-- The empty text, at places where the assertion holds. -/
  | assertion (assertion : Pattern.Assertion)
  | seq (first second : Pattern)
  | either (left right : Pattern)
  /-- At least `least` and at most `most?` repetitions, any number above where there is
  no `most?`. -/
  | times (body : Pattern) (least : Nat) (most? : Option Nat)
deriving DecidableEq, Repr

namespace Pattern

/-- The places of a text, from a place on. -/
def placesFrom (before? : Option Char) : List Char → List Place
  | [] => [⟨before?, []⟩]
  | c :: rest => ⟨before?, c :: rest⟩ :: placesFrom (some c) rest

/-- Lengths of matches that begin at one place, or distances of other places from it: the
binary digit of `2ⁿ` is one where `n` is among them. -/
abbrev Lengths := Nat

/-- Lengths of matches for each of several places in a row. -/
abbrev Row := List Lengths

/-- The distances of the places where matches end that begin at given distances from the
first of several places. -/
def Lengths.andThen (starts : Lengths) : Row → Lengths
  | [] => 0
  | lengths :: later =>
    if starts = 0 then 0
    else (if starts % 2 = 1 then lengths else 0) ||| 2 * Lengths.andThen (starts / 2) later

/-- The distances that lie on the way from given distances, where each place has all
distances on the way from it. One that is reached from another is not followed again. -/
def Lengths.andOnward (starts : Lengths) : Row → Lengths
  | [] => 0
  | onward :: later =>
    if starts = 0 then 0
    else if starts % 2 = 1 then
      onward ||| 2 * Lengths.andOnward ((starts ^^^ (starts &&& onward)) / 2) later
    else 2 * Lengths.andOnward (starts / 2) later

namespace Row

/-- The empty match at every place. -/
def empty (row : Row) : Row := row.map fun _ => 1

/-- One match, then another. -/
def andThen : Row → Row → Row
  | lengths :: first, here :: second =>
    Lengths.andThen lengths (here :: second) :: andThen first second
  | _, _ => []

/-- One match or another. -/
def union (left right : Row) : Row := List.zipWith (· ||| ·) left right

/-- Any number of matches. Those of length zero lead nowhere else and are left out. -/
def star : Row → Row
  | [] => []
  | lengths :: rest =>
    let later := star rest
    (1 ||| 2 * Lengths.andOnward (lengths / 2) later) :: later

/-- Exactly `count` matches. -/
def exactly (row : Row) : (count : Nat) → Row
  | 0 => row.empty
  | count + 1 => row.andThen (row.exactly count)

/-- At most `count` matches. -/
def atMost (row : Row) : (count : Nat) → Row
  | 0 => row.empty
  | count + 1 => Row.union row.empty (row.andThen (row.atMost count))

/-- From `least` to `most?` matches. As many matches as there are places reach every place
that more of them reach, so higher bounds are lowered. -/
def times (row : Row) (least : Nat) (most? : Option Nat) : Row :=
  let rest :=
    match most? with
    | none => row.star
    | some most => if most - least < row.length then row.atMost (most - least) else row.star
  match min least row.length with
  | 0 => rest
  | count + 1 => (row.exactly (count + 1)).andThen rest

end Row

/-- The lengths of the matches that begin at each of the places. -/
def matchesAt (places : List Place) : Pattern → Row
  | empty => places.map fun _ => 1
  | chars set => places.map fun place => if place.after.head?.any set.contains then 2 else 0
  | assertion a => places.map fun place => if a.holds place then 1 else 0
  | seq first second => (first.matchesAt places).andThen (second.matchesAt places)
  | either left right => (left.matchesAt places).union (right.matchesAt places)
  | times body least most? => (body.matchesAt places).times least most?

/-- The distances of the places where matches end that begin at given distances from the
first place. -/
def endsFrom (places : List Place) : Pattern → (starts : Lengths) → Lengths
  | seq first second, starts => second.endsFrom places (first.endsFrom places starts)
  | either left right, starts => left.endsFrom places starts ||| right.endsFrom places starts
  | pattern, starts => starts.andThen (pattern.matchesAt places)

/-- Whether the pattern matches anywhere in a text. -/
def foundIn (pattern : Pattern) (text : String) : Bool :=
  let places := placesFrom none text.toList
  pattern.endsFrom places (Nat.pow 2 places.length - 1) != 0

end Pattern

end TemplateCompiler
