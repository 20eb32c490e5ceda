import TemplateCompiler.Pattern.Written
import TemplateCompiler.Text.Hex

/-! # How patterns are written

`Written.ofText?` reads the written form of a pattern, and refuses a text that is none.
The text is taken item by item, with the groups that are still open on a stack, so
reading ends with the text. `Pattern.ofText?` gives the pattern that a text writes, where
it keeps within the limits.
-/

namespace TemplateCompiler.Pattern

/-! ## Single characters and sets -/

/-- What one escape or one plain character stands for. -/
inductive Atom where
  | char (c : Char)
  | set (set : CharSet)
  | assertion (assertion : Assertion)
deriving Repr

/-- The character with a code point written in hexadecimal. -/
def hexChar? (digits : List Char) : Option Char := do
  if digits.isEmpty then none
  let values ← digits.mapM Text.hexDigit?
  let n := values.foldl (fun n digit => 16 * n + digit) 0
  if h : n.isValidChar then some ⟨n.toUInt32, by
    rw [Nat.toUInt32, UInt32.isValidChar, UInt32.toNat_ofNat']
    have : n % 2 ^ 32 = n := Nat.mod_eq_of_lt (by
      rcases h with h | ⟨_, h⟩ <;> omega)
    rw [this]; exact h⟩
  else none

/-- A code point in hexadecimal: in braces, or with a fixed number of digits. -/
def hexEscape? (width : Nat) (cs : List Char) : Option (Char × List Char) :=
  match cs with
  | '{' :: rest => do
    let digits := rest.takeWhile (· != '}')
    match rest.dropWhile (· != '}') with
    | [] => none
    | _ :: after => some (← hexChar? digits, after)
  | _ =>
    if (cs.take width).length < width then none
    else (hexChar? (cs.take width)).map (·, cs.drop width)

/-- What follows a backslash. Letters and digits have a meaning of their own or none;
every other ASCII character but the angle brackets stands for itself. -/
def escape? : List Char → Option (Atom × List Char)
  | [] => none
  | 'd' :: rest => some (.set .digit, rest)
  | 'D' :: rest => some (.set (.compl .digit), rest)
  | 'w' :: rest => some (.set .word, rest)
  | 'W' :: rest => some (.set (.compl .word), rest)
  | 's' :: rest => some (.set .blank, rest)
  | 'S' :: rest => some (.set (.compl .blank), rest)
  | 'b' :: rest => some (.assertion .wordEdge, rest)
  | 'B' :: rest => some (.assertion .noWordEdge, rest)
  | 'A' :: rest => some (.assertion .textStart, rest)
  | 'z' :: rest => some (.assertion .textEnd, rest)
  | 'n' :: rest => some (.char '\n', rest)
  | 't' :: rest => some (.char '\t', rest)
  | 'r' :: rest => some (.char '\r', rest)
  | 'f' :: rest => some (.char '\x0c', rest)
  | 'v' :: rest => some (.char '\x0b', rest)
  | 'a' :: rest => some (.char '\x07', rest)
  | 'x' :: rest => (hexEscape? 2 rest).map fun (c, after) => (.char c, after)
  | 'u' :: rest => (hexEscape? 4 rest).map fun (c, after) => (.char c, after)
  | 'U' :: rest => (hexEscape? 8 rest).map fun (c, after) => (.char c, after)
  | c :: rest =>
    if c.toNat < 0x80 ∧ !c.isAlphanum ∧ c ≠ '<' ∧ c ≠ '>' then some (.char c, rest) else none

/-- A member of a set: an escape, or a character that stands for itself. -/
def member? : List Char → Option (Atom × List Char)
  | [] => none
  | '\\' :: rest => escape? rest
  | c :: rest => some (.char c, rest)

/-- The ASCII sets that have a name. -/
def namedSet? (name : String) : Option CharSet :=
  let span (first last : Char) := CharSet.range first last
  match name with
  | "alnum" => some (.unionAll [span '0' '9', span 'A' 'Z', span 'a' 'z'])
  | "alpha" => some (.union (span 'A' 'Z') (span 'a' 'z'))
  | "ascii" => some (span '\x00' '\x7f')
  | "blank" => some (.union (.single '\t') (.single ' '))
  | "cntrl" => some (.union (span '\x00' '\x1f') (.single '\x7f'))
  | "digit" => some (span '0' '9')
  | "graph" => some (span '!' '~')
  | "lower" => some (span 'a' 'z')
  | "print" => some (span ' ' '~')
  | "punct" => some (.unionAll [span '!' '/', span ':' '@', span '[' '\x60', span '\x7b' '~'])
  | "space" => some (.unionAll [span '\t' '\r', .single ' '])
  | "upper" => some (span 'A' 'Z')
  | "word" => some (.unionAll [span '0' '9', span 'A' 'Z', span 'a' 'z', .single '_'])
  | "xdigit" => some (.unionAll [span '0' '9', span 'A' 'F', span 'a' 'f'])
  | _ => none

/-- A named set behind its `[:`, up to its `:]`. Differences of case are ignored before
the complement is taken. -/
def namedSetIn? (caseless : Bool) (cs : List Char) : Option (CharSet × List Char) :=
  let (negated, body) :=
    match cs with
    | '^' :: rest => (true, rest)
    | _ => (false, cs)
  let name := body.takeWhile fun c => c != ':'
  match body.dropWhile fun c => c != ':' with
  | ':' :: ']' :: rest =>
    (namedSet? (String.ofList name)).map fun set =>
      (if negated then .compl (set.folded caseless) else set, rest)
  | _ => none

/-- How the sets on the two sides of a set operator are combined. -/
inductive SetOperator where
  | inter
  | minus
  | symmDiff
deriving Repr

/-- The combination of two sets. -/
def SetOperator.apply : SetOperator → CharSet → CharSet → CharSet
  | inter => .inter
  | minus => .minus
  | symmDiff => .symmDiff

/-- A set in brackets that is still open. -/
structure OpenSet where
  negated : Bool
  /-- The set left of the last operator, and that operator. -/
  left? : Option (WrittenSet × SetOperator)
  /-- The members since then. -/
  members : List WrittenSet
deriving Repr

namespace OpenSet

/-- The members since the last operator as one set. Two members or more are a level of
their own. -/
def right (opened : OpenSet) : WrittenSet where
  set := .unionAll (opened.members.map (·.set))
  depth :=
    let deepest := opened.members.foldl (fun depth member => max depth member.depth) 0
    if opened.members.length ≤ 1 then deepest else 1 + deepest

/-- The set of the members, combined with what stands left of them. Differences of case
are ignored on both sides of an operator, which is a level of its own. -/
def combined (opened : OpenSet) (caseless : Bool) : WrittenSet :=
  let right := opened.right
  match opened.left? with
  | none => right
  | some (left, operator) =>
    ⟨operator.apply (left.set.folded caseless) (right.set.folded caseless),
      1 + max left.depth right.depth⟩

/-- The set with one more member. -/
def add (opened : OpenSet) (member : WrittenSet) : OpenSet :=
  { opened with members := opened.members ++ [member] }

/-- The set after an operator. -/
def operate (opened : OpenSet) (caseless : Bool) (operator : SetOperator) : OpenSet :=
  { opened with left? := some (opened.combined caseless, operator), members := [] }

/-- The set when its bracket closes. Differences of case are ignored before the
complement is taken. -/
def close (opened : OpenSet) (caseless : Bool) : WrittenSet :=
  let combined := opened.combined caseless
  let set := combined.set.folded caseless
  ⟨if opened.negated then .compl set else set, 1 + combined.depth⟩

end OpenSet

/-- A set behind its `[`: an optional `^`, then hyphens that stand for themselves, then
possibly a `]` that does. -/
def openSet (cs : List Char) : OpenSet × List Char :=
  let (negated, cs) :=
    match cs with
    | '^' :: rest => (true, rest)
    | _ => (false, cs)
  let hyphens := cs.takeWhile (· == '-')
  let cs := cs.dropWhile (· == '-')
  let members := hyphens.map fun c => (⟨.single c, 0⟩ : WrittenSet)
  match hyphens, cs with
  | [], ']' :: rest => (⟨negated, none, [⟨.single ']', 0⟩]⟩, rest)
  | _, _ => (⟨negated, none, members⟩, cs)

/-- One member of a set, or a range of characters. -/
def memberOrRange? (cs : List Char) : Option (CharSet × List Char) := do
  let (first, rest) ← member? cs
  let alone :=
    match rest with
    | '-' :: ']' :: _ => true
    | '-' :: '-' :: _ => true
    | '-' :: _ => false
    | _ => true
  if alone then
    match first with
    | .char c => some (.single c, rest)
    | .set set => some (set, rest)
    | .assertion _ => none
  else
    let (last, rest) ← member? (rest.drop 1)
    match first, last with
    | .char a, .char b => if a ≤ b then some (.range a b, rest) else none
    | _, _ => none

/-- The rest of the innermost open set, with the sets around it on a stack. Every step
reads at least one character, so as many steps as there are characters are enough. -/
def closeSet? (caseless : Bool) :
    (steps : Nat) → OpenSet → List OpenSet → List Char → Option (WrittenSet × List Char)
  | 0, _, _, _ => none
  | _ + 1, _, _, [] => none
  | steps + 1, opened, outer, c :: rest =>
    match c, rest with
    | ']', _ =>
      match outer with
      | [] => some (opened.close caseless, rest)
      | around :: outer => closeSet? caseless steps (around.add (opened.close caseless)) outer rest
    | '[', ':' :: after =>
      match namedSetIn? caseless after with
      | some (set, after) => closeSet? caseless steps (opened.add ⟨set, 0⟩) outer after
      | none =>
        let (inner, rest) := openSet rest
        closeSet? caseless steps inner (opened :: outer) rest
    | '[', _ =>
      let (inner, rest) := openSet rest
      closeSet? caseless steps inner (opened :: outer) rest
    | '&', '&' :: after => closeSet? caseless steps (opened.operate caseless .inter) outer after
    | '-', '-' :: after => closeSet? caseless steps (opened.operate caseless .minus) outer after
    | '~', '~' :: after => closeSet? caseless steps (opened.operate caseless .symmDiff) outer after
    | _, _ =>
      match memberOrRange? (c :: rest) with
      | some (set, rest) => closeSet? caseless steps (opened.add ⟨set, 0⟩) outer rest
      | none => none

/-! ## Flags and repetitions -/

/-- What flags change: whether case matters, whether the dot matches a line feed,
whether the anchors stand for lines, and whether repetitions prefer short matches. -/
structure Flags where
  anyCase : Bool := false
  dotAll : Bool := false
  multiLine : Bool := false
  reluctant : Bool := false
deriving Repr

/-- The flags after one flag letter is turned on or off. -/
def Flags.set? (flags : Flags) (letter : Char) (on : Bool) : Option Flags :=
  match letter with
  | 'i' => some { flags with anyCase := on }
  | 's' => some { flags with dotAll := on }
  | 'm' => some { flags with multiLine := on }
  | 'U' => some { flags with reluctant := on }
  | 'u' => some flags
  | _ => none

/-- The flags after a run of flag letters; a hyphen turns the letters after it off. At
most one hyphen is allowed, with a letter after it, and no letter twice. -/
def Flags.setAll? (flags : Flags) (seen : List Char) (on : Bool) : List Char → Option Flags
  | [] => some flags
  | '-' :: rest => if on && !rest.isEmpty then flags.setAll? seen false rest else none
  | c :: rest =>
    if seen.contains c then none
    else
      match flags.set? c on with
      | some flags => flags.setAll? (c :: seen) on rest
      | none => none

/-- A decimal number below 2³², with blanks allowed around it. -/
def decimal? (cs : List Char) : Option (Nat × List Char) :=
  let cs := cs.dropWhile Text.isBlank
  let digits := cs.takeWhile Char.isDigit
  let n := digits.foldl (fun n c => 10 * n + (c.toNat - '0'.toNat)) 0
  if digits.isEmpty || n ≥ 4294967296 then none
  else some (n, (cs.dropWhile Char.isDigit).dropWhile Text.isBlank)

/-- The bounds of a repetition behind its opening brace. -/
def bounds? (cs : List Char) : Option ((Nat × Option Nat) × List Char) := do
  let (least, rest) ← decimal? cs
  match rest with
  | '}' :: rest => some ((least, some least), rest)
  | ',' :: '}' :: rest => some ((least, none), rest)
  | ',' :: rest =>
    let (most, rest) ← decimal? rest
    match rest with
    | '}' :: rest => if least ≤ most then some ((least, some most), rest) else none
    | _ => none
  | _ => none

/-! ## Groups -/

/-- A group that is still open. -/
structure Level where
  /-- The number under which the group is remembered. -/
  number? : Option Nat := none
  /-- The alternatives that are complete, the latest first. -/
  alternatives : List Written := []
  /-- The items of the current alternative, the latest first. -/
  items : List Written := []
  /-- The flags in force. -/
  flags : Flags := {}
deriving Repr

namespace Level

/-- The current alternative. -/
def current (level : Level) : Written := .ofItems level.items.reverse

/-- All alternatives. -/
def combined (level : Level) : Written :=
  match level.alternatives with
  | [] => level.current
  | alternatives => .either (alternatives.reverse ++ [level.current])

/-- The group with one more item. -/
def add (level : Level) (item : Written) : Level := { level with items := item :: level.items }

/-- The group after a bar. -/
def bar (level : Level) : Level :=
  { level with alternatives := level.current :: level.alternatives, items := [] }

/-- The group with its last item repeated. There has to be one, and no change of
flags. -/
def times? (level : Level) (least : Nat) (most? : Option Nat) (reluctant : Bool) : Option Level :=
  match level.items with
  | [] => none
  | .flags :: _ => none
  | item :: items => some { level with items := .times item least most? reluctant :: items }

/-- The group with a set of characters as one more item. -/
def addSet (level : Level) (set : CharSet) : Level :=
  level.add (.chars ⟨set.folded level.flags.anyCase, 0⟩)

/-- The group with what an escape or a plain character stands for. -/
def addAtom (level : Level) : Atom → Level
  | .char c => level.addSet (.single c)
  | .set set => level.addSet set
  | .assertion a => level.add (.assertion a)

end Level

/-- A pattern in the middle of being read. -/
structure Reading where
  /-- The innermost open group. -/
  level : Level := {}
  /-- The groups around it, the innermost first. -/
  outer : List Level := []
  /-- The group names used so far. -/
  names : List String := []
  /-- How many groups are remembered so far. -/
  groups : Nat := 0
deriving Repr

namespace Reading

/-- Opens a group with given flags that is not remembered. -/
def push (reading : Reading) (flags : Flags) : Reading :=
  { reading with level := { flags := flags }, outer := reading.level :: reading.outer }

/-- Opens a group that is remembered. -/
def pushNumbered (reading : Reading) : Reading :=
  let number := reading.groups + 1
  { reading with
    level := { number? := some number, flags := reading.level.flags }
    outer := reading.level :: reading.outer
    groups := number }

/-- Closes the innermost group. -/
def pop? (reading : Reading) : Option Reading :=
  match reading.outer with
  | [] => none
  | around :: outer =>
    let group := .group reading.level.number? reading.level.combined
    some { reading with level := around.add group, outer := outer }

/-- Opens a group with a name behind its `<`. -/
def pushNamed? (reading : Reading) (cs : List Char) : Option (Reading × List Char) :=
  let name := cs.takeWhile (· != '>')
  match name, cs.dropWhile (· != '>') with
  | first :: others, _ :: rest =>
    let text := String.ofList name
    if (first == '_' || Text.isLetter first) && !reading.names.contains text &&
        others.all fun c => Text.isAlphanumeric c || c == '_' || c == '.' || c == '[' || c == ']'
    then
      some ({ reading.pushNumbered with names := text :: reading.names }, rest)
    else none
  | _, _ => none

/-- What stands behind the `(?` of a group. -/
def group? (reading : Reading) (cs : List Char) : Option (Reading × List Char) :=
  match cs with
  | 'P' :: '<' :: rest => reading.pushNamed? rest
  | '<' :: rest => reading.pushNamed? rest
  | _ =>
    let letters := cs.takeWhile fun c => c != ':' && c != ')'
    match reading.level.flags.setAll? [] true letters, cs.dropWhile fun c => c != ':' && c != ')' with
    | some flags, ':' :: rest => some (reading.push flags, rest)
    | some flags, ')' :: rest =>
      if letters.isEmpty then none
      else
        let level := reading.level
        some ({ reading with level := { level.add .flags with flags := flags } }, rest)
    | _, _ => none

/-- The reading with its last item repeated; a `?` behind the repetition turns round
which matches it prefers. -/
def repeat? (reading : Reading) (least : Nat) (most? : Option Nat) (rest : List Char) :
    Option (Reading × List Char) := do
  let (turned, rest) :=
    match rest with
    | '?' :: rest => (true, rest)
    | _ => (false, rest)
  let level ← reading.level.times? least most? (turned != reading.level.flags.reluctant)
  some ({ reading with level := level }, rest)

/-- The reading after the next item of a text that begins with `c`. -/
def step? (reading : Reading) (c : Char) (rest : List Char) : Option (Reading × List Char) :=
  let level := reading.level
  match c with
  | '\\' => (escape? rest).map fun (atom, rest) => ({ reading with level := level.addAtom atom }, rest)
  | '[' =>
    let (opened, after) := openSet rest
    (closeSet? level.flags.anyCase (after.length + 1) opened [] after).map fun (set, rest) =>
      ({ reading with level := level.add (.chars set) }, rest)
  | '(' =>
    match rest with
    | '?' :: rest => reading.group? rest
    | _ => some (reading.pushNumbered, rest)
  | ')' => reading.pop?.map (·, rest)
  | '|' => some ({ reading with level := level.bar }, rest)
  | '*' => reading.repeat? 0 none rest
  | '+' => reading.repeat? 1 none rest
  | '?' => reading.repeat? 0 (some 1) rest
  | '{' => (bounds? rest).bind fun ((least, most?), rest) => reading.repeat? least most? rest
  | '^' =>
    let place := if level.flags.multiLine then .lineStart else .textStart
    some ({ reading with level := level.add (.assertion place) }, rest)
  | '$' =>
    let place := if level.flags.multiLine then .lineEnd else .textEnd
    some ({ reading with level := level.add (.assertion place) }, rest)
  | '.' =>
    let set := if level.flags.dotAll then .compl .noChar else .compl (.single '\n')
    some ({ reading with level := level.add (.chars ⟨set, 0⟩) }, rest)
  | c => some ({ reading with level := level.addSet (.single c) }, rest)

/-- The reading after all of a text. Every step reads at least one character, so as many
steps as there are characters are enough. -/
def run? : (steps : Nat) → Reading → List Char → Option Reading
  | _, reading, [] => some reading
  | 0, _, _ :: _ => none
  | steps + 1, reading, c :: rest =>
    match reading.step? c rest with
    | some (reading, rest) => run? steps reading rest
    | none => none

end Reading

/-- What a text writes; none where the text is no pattern. -/
def Written.ofText? (text : String) : Option Written := do
  let reading ← Reading.run? text.toList.length {} text.toList
  if reading.outer.isEmpty then some reading.level.combined else none

/-- The pattern with a written form; none where the text is no pattern or the pattern
exceeds a limit. -/
def ofText? (text : String) : Option Pattern := do
  let written ← Written.ofText? text
  if written.isWithinLimits then some written.meaning else none

end TemplateCompiler.Pattern
