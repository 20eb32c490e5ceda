import Std.Data.HashMap
import TemplateCompiler.Pattern.Outline
import TemplateCompiler.Text.Utf8

/-! # How large the automata of a pattern are

A pattern is searched for by two automata over the bytes of a text, one that reads
forward and one that reads backward. A pattern whose automata take too much space is
refused. `Outline.fits` builds both as far as their size goes: only the number of states
and the space of their transitions are kept. A state takes a fixed space; on top of that
come its transitions where it has several ranges of bytes, and its successors where it is
a fork.

The states of a set of characters are shared where they are equal, through a table of
fixed capacity. A state that meets another one in its place of the table replaces it, so
how much is shared hangs on the numbers of the states.
-/

namespace TemplateCompiler.Pattern

/-- Which way an automaton reads a text. -/
inductive Direction where
  | forward
  | backward
deriving DecidableEq, Repr

/-- How large an automaton is. -/
structure Tally where
  states : Nat
  /-- The bytes that transitions and successors take. -/
  extra : Nat
deriving DecidableEq, Repr

namespace Tally

/-- The bytes that an automaton takes. -/
def space (tally : Tally) : Nat := 32 * tally.states + tally.extra

/-- The bytes that an automaton may take. -/
def spaceLimit : Nat := 10 * Nat.pow 2 20

/-- An automaton with more states and more bytes for transitions; none where it becomes
too large. -/
def add? (tally : Tally) (states extra : Nat) : Option Tally :=
  let grown : Tally := ⟨tally.states + states, tally.extra + extra⟩
  if grown.space ≤ spaceLimit then some grown else none

end Tally

/-- An automaton to whose last part more can be joined. -/
structure Built where
  tally : Tally
  /-- The last part ends in a fork, which takes up every successor in a list. -/
  endsInFork : Bool
deriving DecidableEq, Repr

namespace Built

/-- The automaton when its last part has a successor. -/
def joined? (built : Built) : Option Tally :=
  built.tally.add? 0 (if built.endsInFork then 4 else 0)

/-- The automaton with more states at its end, the last of them no fork. -/
def close? (built : Built) (states extra : Nat) : Option Built := do
  return ⟨← (← built.joined?).add? states extra, false⟩

/-- The automaton with a fork at its end that leads back to its last part. -/
def loop? (built : Built) : Option Built := do
  return ⟨← (← built.joined?).add? 1 4, true⟩

end Built

/-- The automaton with states at its end of which the last is no fork. -/
def Tally.close? (tally : Tally) (states extra : Nat) : Option Built :=
  (tally.add? states extra).map (⟨·, false⟩)

/-! ## Sets of characters -/

/-- A number that spreads the entries of a table over its places. -/
def spread (values : List Nat) : UInt64 :=
  values.foldl (fun h value => (h ^^^ UInt64.ofNat value) * 1099511628211) 14695981039346656037

/-- A state of an automaton as its byte ranges, each with the state that it leads to. -/
abbrev Node := List (Nat × Nat × Nat)

/-- An automaton with a table of its latest states, by their places in the table. -/
structure Shared where
  tally : Tally
  table : Std.HashMap UInt64 (Node × Nat)

/-- The number of a state, which is added unless it stands in the table. -/
def Shared.place? (shared : Shared) (capacity : UInt64) (node : Node) (extra : Nat) :
    Option (Nat × Shared) :=
  let slot := spread (node.flatMap fun (first, last, next) => [first, last, next]) % capacity
  let known? := shared.table[slot]?.filter fun entry => entry.1 == node
  match known? with
  | some (_, id) => some (id, shared)
  | none => do
    let id := shared.tally.states
    let tally ← shared.tally.add? 1 extra
    return (id, ⟨tally, shared.table.insert slot (node, id)⟩)

/-- Byte sequences by their first ranges: each with what stands behind it. -/
def byHead : List Text.Ranges → List ((Nat × Nat) × List Text.Ranges)
  | [] => []
  | [] :: rest => byHead rest
  | (head :: tail) :: rest =>
    match byHead rest with
    | (next, tails) :: more =>
      if head = next then (head, tail :: tails) :: more
      else (head, [tail]) :: (next, tails) :: more
    | [] => [(head, [tail])]

/-- The state from which byte sequences of a length at most lead to the end. -/
def placeTree? (finish : Nat) :
    (length : Nat) → List Text.Ranges → Shared → Option (Nat × Shared)
  | 0, _, shared => some (finish, shared)
  | length + 1, sequences, shared =>
    match byHead sequences with
    | [] => some (finish, shared)
    | groups => do
      let (node, shared) ← groups.foldlM (fun (node, shared) (range, tails) => do
        let (next, shared) ← placeTree? finish length tails shared
        return ((range.1, range.2, next) :: node, shared)) (([] : Node), shared)
      shared.place? 10000 node.reverse (8 * node.length)

/-- The automaton with a set of characters, read forward: equal ends are shared, and what
a state leads to stands in the state. -/
def placeForward? (sequences : List Text.Ranges) (tally : Tally) : Option Tally := do
  let finish := tally.states
  let finished ← tally.add? 1 0
  let (start, shared) ← (byHead sequences).foldlM (fun (node, shared) (range, tails) => do
    let (next, shared) ← placeTree? finish 3 tails shared
    return ((range.1, range.2, next) :: node, shared)) (([] : Node), (⟨finished, {}⟩ : Shared))
  let (_, shared) ← shared.place? 10000 start.reverse (8 * start.length)
  return shared.tally

/-- The automaton with a set of characters, read backward: a fork leads to the last bytes
of all sequences, and equal beginnings are shared. -/
def placeBackward? (sequences : List Text.Ranges) (tally : Tally) : Option Tally := do
  let finish := tally.states + 1
  let finished ← tally.add? 2 0
  let shared ← sequences.foldlM (fun shared sequence => do
    let (_, shared) ← sequence.foldlM (fun (next, shared) (first, last) =>
      shared.place? 1000 [(next, first, last)] 0) (finish, shared)
    return ⟨← shared.tally.add? 0 4, shared.table⟩) (⟨finished, {}⟩ : Shared)
  return shared.tally

/-- The automaton with one character of a set. A set within ASCII needs one state that
branches and one where the branches meet. -/
def placeSet? (direction : Direction) (ranges : Text.Ranges) (tally : Tally) : Option Built :=
  if ranges.all (·.2 < 0x80) then tally.close? 2 (8 * ranges.length)
  else
    let sequences := ranges.flatMap Text.byteSequences
    match direction with
    | .forward => (placeForward? sequences tally).map (⟨·, false⟩)
    | .backward => (placeBackward? sequences tally).map (⟨·, false⟩)

/-! ## Alternatives of texts -/

/-- Several texts by their first bytes. A text that ends at a branching closes what
branches there so far. -/
inductive TextTree where
  | node (closed : List (List (Nat × TextTree))) (current : List (Nat × TextTree))

namespace TextTree

/-- The tree of no text. -/
def empty : TextTree := node [] []

/-- Whether nothing branches. -/
def isLeaf : TextTree → Bool
  | node closed current => closed.all List.isEmpty && current.isEmpty

/-- The tree with one more text. -/
def insert : List Nat → TextTree → TextTree
  | [], node closed current =>
    if closed.all List.isEmpty && current.isEmpty && !closed.isEmpty then node closed current
    else node (closed ++ [current]) []
  | byte :: rest, node closed current =>
    if current.any fun branch => branch.1 == byte then
      node closed (current.map fun (other, tree) =>
        if other == byte then (other, insert rest tree) else (other, tree))
    else node closed (current ++ [(byte, insert rest empty)])

/-- The size of a state that branches. -/
def sizeOfBranching (branches : Nat) : Tally :=
  if branches = 0 then ⟨0, 0⟩
  else if branches = 1 then ⟨1, 4⟩
  else ⟨1, 8 * branches + 4⟩

/-- Two sizes together. -/
def plus (left right : Tally) : Tally := ⟨left.states + right.states, left.extra + right.extra⟩

mutual

/-- The size of the states of a tree: a fork, and a state for all that branches between
two texts. -/
def size : TextTree → Tally
  | node closed current =>
    plus ⟨1, 4 * closed.length⟩ (plus (sizeOfAll closed)
      (plus (sizeOfBranching current.length) (sizeOfBranches current)))

/-- The size of the states behind several branchings, with these. -/
def sizeOfAll : List (List (Nat × TextTree)) → Tally
  | [] => ⟨0, 0⟩
  | branches :: rest =>
    plus (plus (sizeOfBranching branches.length) (sizeOfBranches branches)) (sizeOfAll rest)

/-- The size of the states behind a branching. -/
def sizeOfBranches : List (Nat × TextTree) → Tally
  | [] => ⟨0, 0⟩
  | (_, tree) :: rest =>
    plus (if tree.isLeaf then ⟨0, 0⟩ else tree.size) (sizeOfBranches rest)

end

end TextTree

/-- The bytes of a text. -/
def bytesOf (text : List Char) : List Nat := text.flatMap fun c => Text.utf8Bytes c.toNat

/-- The automaton with one of several texts. -/
def placeTexts? (direction : Direction) (texts : List (List Char)) (tally : Tally) :
    Option Built :=
  let tree := texts.foldl (fun tree text =>
    let bytes := bytesOf text
    tree.insert (if direction = .forward then bytes else bytes.reverse)) TextTree.empty
  let size := tree.size
  tally.close? (size.states + 1) size.extra

/-! ## Repetitions -/

/-- The automaton with a part joined to its end a number of times. -/
def copies? (part : Tally → Option Built) : (count : Nat) → Built → Option Built
  | 0, built => some built
  | count + 1, built => do copies? part count (← part (← built.joined?))

/-- The automaton with exactly a number of repetitions. None of them still takes a
state. -/
def exactly? (part : Tally → Option Built) (count : Nat) (tally : Tally) : Option Built :=
  if count = 0 then tally.close? 1 0 else copies? part count ⟨tally, false⟩

/-- The automaton with a part joined to its end a number of times, and a fork before each
that leads past all that follow. -/
def optional? (part : Tally → Option Built) : (count : Nat) → Built → Option Built
  | 0, built => some built
  | count + 1, built => do
    optional? part count (← part (← (← built.joined?).add? 1 8))

/-- The automaton with repetitions of a part, which can be empty or not. -/
def repeat? (part : Tally → Option Built) (canBeEmpty : Bool) (least : Nat)
    (most? : Option Nat) (tally : Tally) : Option Built :=
  match least, most? with
  | 0, some 1 => do (← part (← tally.add? 1 8)).close? 1 0
  | 0, none => do
    if canBeEmpty then (← part tally).close? 3 16
    else return ⟨← (← part (← tally.add? 1 4)).joined?, true⟩
  | least, none => do (← exactly? part least tally).loop?
  | least, some most => do
    let first ← exactly? part least tally
    if most ≤ least then return first
    else
      let first : Built := { first with tally := ← first.tally.add? 1 0 }
      (← optional? part (most - least) first).close? 0 0

/-! ## Outlines -/

namespace Outline

/-- The text, where an outline is one. -/
def text? : Outline → Option (List Char)
  | literal text => some text
  | _ => none

mutual

/-- The automaton with an outline joined to its end. What is remembered of a group is
needed forward only. -/
def build? (direction : Direction) : Outline → Tally → Option Built
  | empty, tally => tally.close? 1 0
  | literal text, tally => tally.close? (bytesOf text).length 0
  | set ranges, tally => placeSet? direction ranges tally
  | assertion _, tally => tally.close? 1 0
  | group _ body, tally =>
    match direction with
    | .forward => do (← build? direction body (← tally.add? 1 0)).close? 1 0
    | .backward => build? direction body tally
  | seq parts, tally => buildParts? direction parts ⟨tally, false⟩
  | either alternatives, tally =>
    match alternatives.mapM text? with
    | some texts => placeTexts? direction texts tally
    | none => do return ⟨← buildBranches? direction 0 alternatives tally, false⟩
  | times body least most? _, tally =>
    repeat? (fun tally => build? direction body tally) (body.shape.shortest?.getD 0 == 0) least
      most? tally

/-- The automaton with several outlines in a row joined to its end. -/
def buildParts? (direction : Direction) : List Outline → Built → Option Built
  | [], built => some built
  | part :: rest, built => do
    buildParts? direction rest (← build? direction part (← built.joined?))

/-- The automaton with alternatives, of which some have been built. The fork before them
and the state where they meet are added behind the second. -/
def buildBranches? (direction : Direction) :
    (built : Nat) → List Outline → Tally → Option Tally
  | _, [], tally => some tally
  | count, branch :: rest, tally => do
    let tally ← (← build? direction branch tally).joined?
    buildBranches? direction (count + 1) rest (← tally.add? (if count = 1 then 2 else 0) 4)

end

/-- The start of an automaton. One that finds matches everywhere passes over any number
of bytes first. -/
def start? (isAnchored : Bool) : Option Tally :=
  if isAnchored then Tally.add? ⟨0, 0⟩ 1 0 else Tally.add? ⟨0, 0⟩ 3 16

/-- The whole automaton of an outline, which is one group forward; none where it becomes
too large. -/
def automaton? (direction : Direction) (outline : Outline) : Option Built :=
  match direction with
  | .forward => do
    (← build? direction (group 0 outline) (← start? outline.shape.fromStart)).close? 1 0
  | .backward => do
    (← build? direction outline.mirror (← start? outline.shape.toEnd)).close? 1 0

/-- Whether both automata of an outline keep within the limit. -/
def fits (outline : Outline) : Bool :=
  (outline.automaton? .forward).isSome && (outline.automaton? .backward).isSome

end Outline

end TemplateCompiler.Pattern
