import TemplateCompiler.Json.Basic

/-! # Reading JSON

`Json.ofText?` reads a JSON text and accepts nothing but JSON: no comment, no comma too
many, no number or escape outside the grammar. The text is cut into tokens, and the
tokens are taken one by one with the arrays and objects that are still open on a stack;
both passes end with their input.
-/

namespace TemplateCompiler.Json

/-! ## Tokens -/

/-- A token of a JSON text. -/
inductive Token where
  | openArray
  | closeArray
  | openObject
  | closeObject
  | comma
  | colon
  /-- A string; none where it has half a surrogate pair. -/
  | string (text? : Option String)
  /-- A number or one of the three words. -/
  | bare (lexeme : List Char)
deriving Repr

/-- The part of a string read so far. -/
structure StringPart where
  /-- The characters, the latest first. -/
  chars : List Char := []
  /-- The first half of a surrogate pair that waits for the second. -/
  high? : Option Nat := none
  /-- Whether half a pair was met alone. -/
  broken : Bool := false
deriving Repr

namespace StringPart

/-- The part with one more character. A half pair before it stays alone. -/
def push (part : StringPart) (c : Char) : StringPart :=
  ⟨c :: part.chars, none, part.broken || part.high?.isSome⟩

/-- The part with one more code unit of UTF-16, written as an escape. -/
def pushUnit (part : StringPart) (unit : Nat) : StringPart :=
  if 0xdc00 ≤ unit ∧ unit < 0xe000 then
    match part.high? with
    | some high =>
      let c := Char.ofNat (0x10000 + (high - 0xd800) * 0x400 + (unit - 0xdc00))
      ⟨c :: part.chars, none, part.broken⟩
    | none => { part with broken := true }
  else if 0xd800 ≤ unit ∧ unit < 0xdc00 then
    ⟨part.chars, some unit, part.broken || part.high?.isSome⟩
  else part.push (Char.ofNat unit)

/-- The text of a string that ends here; none where a half pair stands alone. -/
def finish? (part : StringPart) : Option String :=
  if part.broken || part.high?.isSome then none else some (String.ofList part.chars.reverse)

end StringPart

/-- Where in a JSON text one is. -/
inductive Lexing where
  | between
  /-- In a number or word, the latest character first. -/
  | bare (chars : List Char)
  | inString (part : StringPart)
  /-- Behind a backslash. -/
  | escape (part : StringPart)
  /-- In an escaped code unit of which some digits are left. -/
  | unit (part : StringPart) (left : Nat) (value : Nat)
deriving Repr

/-- Characters between tokens. -/
def isGap (c : Char) : Bool := c == ' ' || c == '\n' || c == '\t' || c == '\r'

/-- Characters of numbers and words. -/
def isBare (c : Char) : Bool := c.isAlphanum || c == '+' || c == '-' || c == '.'

/-- The token of a character that is one by itself. -/
def mark? : Char → Option Token
  | '[' => some .openArray
  | ']' => some .closeArray
  | '{' => some .openObject
  | '}' => some .closeObject
  | ',' => some .comma
  | ':' => some .colon
  | _ => none

/-- The state and the tokens, the latest first, after a character between tokens. -/
def lexBetween (c : Char) (tokens : List Token) : Option (Lexing × List Token) :=
  if isGap c then some (.between, tokens)
  else if c = '"' then some (.inString {}, tokens)
  else if isBare c then some (.bare [c], tokens)
  else (mark? c).map fun token => (.between, token :: tokens)

/-- The character that a short escape stands for. -/
def shortEscape? : Char → Option Char
  | '"' => some '"'
  | '\\' => some '\\'
  | '/' => some '/'
  | 'b' => some '\x08'
  | 'f' => some '\x0c'
  | 'n' => some '\n'
  | 'r' => some '\r'
  | 't' => some '\t'
  | _ => none

/-- The state and the tokens, the latest first, after one more character. -/
def lexStep (state : Lexing) (tokens : List Token) (c : Char) :
    Option (Lexing × List Token) :=
  match state with
  | .between => lexBetween c tokens
  | .bare chars =>
    if isBare c then some (.bare (c :: chars), tokens)
    else lexBetween c (.bare chars.reverse :: tokens)
  | .inString part =>
    if c = '"' then some (.between, .string part.finish? :: tokens)
    else if c = '\\' then some (.escape part, tokens)
    else if c.toNat < 0x20 then none
    else some (.inString (part.push c), tokens)
  | .escape part =>
    if c = 'u' then some (.unit part 4 0, tokens)
    else (shortEscape? c).map fun c => (.inString (part.push c), tokens)
  | .unit part left value => do
    let value := 16 * value + (← Text.hexDigit? c)
    if left ≤ 1 then some (.inString (part.pushUnit value), tokens)
    else some (.unit part (left - 1) value, tokens)

/-- The tokens of the rest of a text. -/
def lex (state : Lexing) (tokens : List Token) : List Char → Option (List Token)
  | [] =>
    match state with
    | .between => some tokens.reverse
    | .bare chars => some (Token.bare chars.reverse :: tokens).reverse
    | _ => none
  | c :: rest =>
    match lexStep state tokens c with
    | some (state, tokens) => lex state tokens rest
    | none => none

/-! ## Numbers and words -/

/-- A run of digits that is not empty, and the rest. -/
def digits? (cs : List Char) : Option (List Char × List Char) :=
  let run := cs.takeWhile Char.isDigit
  if run.isEmpty then none else some (run, cs.dropWhile Char.isDigit)

/-- Whether characters are the exponent of a number, or nothing. -/
def isExponent : List Char → Bool
  | [] => true
  | e :: cs =>
    let digits :=
      match cs with
      | '+' :: rest => rest
      | '-' :: rest => rest
      | _ => cs
    (e == 'e' || e == 'E') && !digits.isEmpty && digits.all Char.isDigit

/-- Whether characters are the fraction and exponent of a number, or nothing. -/
def isFraction (cs : List Char) : Bool :=
  match cs with
  | '.' :: rest =>
    match digits? rest with
    | some (_, rest) => isExponent rest
    | none => false
  | _ => isExponent cs

/-- The number that characters spell. -/
def number? (lexeme : List Char) : Option Json := do
  let (negative, magnitude) :=
    match lexeme with
    | '-' :: rest => (true, rest)
    | _ => (false, lexeme)
  let (whole, rest) ← digits? magnitude
  if whole.length > 1 && whole.head? == some '0' then none
  else if !isFraction rest then none
  else if negative || !rest.isEmpty then some (.number (String.ofList lexeme))
  else some (.nat (whole.foldl (fun n c => 10 * n + (c.toNat - '0'.toNat)) 0))

/-- The value of a number or word. -/
def bare? (lexeme : List Char) : Option Json :=
  if lexeme = "null".toList then some .null
  else if lexeme = "true".toList then some (.bool true)
  else if lexeme = "false".toList then some (.bool false)
  else number? lexeme

/-! ## Values -/

/-- An array or object that is still open. -/
inductive Frame where
  /-- An array with its items so far, the latest first. -/
  | array (items : List Json)
  /-- An object with its members so far, the latest first. -/
  | object (members : List (Option String × Json))
  /-- An object behind a key. -/
  | member (members : List (Option String × Json)) (key : Option String)

/-- What the next token can be. -/
inductive Expected where
  | value
  | valueOrClose
  | key
  | keyOrClose
  | colon
  | commaOrClose

/-- A JSON text in the middle of being read. -/
inductive Progress where
  | within (stack : List Frame) (expected : Expected)
  | complete (value : Json)

/-- The object with given members, the latest first. -/
def closeObject (members : List (Option String × Json)) : Json :=
  match members.reverse.mapM fun (key, value) => key.map (·, value) with
  | some members => .object members
  | none => .unreadable

/-- The progress after a value is complete. -/
def Progress.ofValue (stack : List Frame) (value : Json) : Option Progress :=
  match stack with
  | [] => some (.complete value)
  | .array items :: outer => some (.within (.array (value :: items) :: outer) .commaOrClose)
  | .member members key :: outer =>
    some (.within (.object ((key, value) :: members) :: outer) .commaOrClose)
  | .object _ :: _ => none

/-- The progress after a token that begins a value. -/
def Progress.begin (stack : List Frame) : Token → Option Progress
  | .openArray => some (.within (.array [] :: stack) .valueOrClose)
  | .openObject => some (.within (.object [] :: stack) .keyOrClose)
  | .string (some text) => ofValue stack (.string text)
  | .string none => ofValue stack .unreadable
  | .bare lexeme => (bare? lexeme).bind (ofValue stack)
  | _ => none

/-- The progress after one more token. -/
def Progress.step : Progress → Token → Option Progress
  | .complete _, _ => none
  | .within stack .value, token => begin stack token
  | .within stack .valueOrClose, token =>
    match token, stack with
    | .closeArray, .array items :: outer => ofValue outer (.array items.reverse)
    | _, _ => begin stack token
  | .within stack expected, token =>
    match expected, token, stack with
    | .key, .string key, .object members :: outer =>
      some (.within (.member members key :: outer) .colon)
    | .keyOrClose, .string key, .object members :: outer =>
      some (.within (.member members key :: outer) .colon)
    | .keyOrClose, .closeObject, .object members :: outer => ofValue outer (closeObject members)
    | .colon, .colon, _ => some (.within stack .value)
    | .commaOrClose, .comma, .array _ :: _ => some (.within stack .value)
    | .commaOrClose, .comma, .object _ :: _ => some (.within stack .key)
    | .commaOrClose, .closeArray, .array items :: outer => ofValue outer (.array items.reverse)
    | .commaOrClose, .closeObject, .object members :: outer =>
      ofValue outer (closeObject members)
    | _, _, _ => none

/-- The progress after a list of tokens. -/
def Progress.run (progress : Progress) : List Token → Option Progress
  | [] => some progress
  | token :: rest =>
    match progress.step token with
    | some progress => progress.run rest
    | none => none

/-- The value that a JSON text spells; none where the text is no JSON. -/
def ofText? (text : String) : Option Json := do
  let tokens ← lex .between [] text.toList
  match ← (Progress.within [] .value).run tokens with
  | .complete value => some value
  | .within _ _ => none

end TemplateCompiler.Json
