import TemplateCompiler.Emitter
import TemplateCompiler.Error

/-! # Templates in the middle of being read

A `Draft` is a template of which part of the text has been read. `Draft.step` reads one
more character, `Draft.finish` ends the text. What a step cannot settle by itself it
reports as an `Event`: an include directive is complete, or the engine has been declared.

A character that does not belong to the markup it follows is read again where it
belongs, in the same step: `<x` is literal text, `%x` in a directive is part of its body.
-/

namespace TemplateCompiler

/-- Whether code is being collected as functions. -/
inductive FunctionMode where
  | off
  | on
  /-- A function block has been closed; the next one ends the functions. -/
  | ending
deriving DecidableEq, Repr

/-- What a step leaves to be done by the one who reads. -/
inductive Event where
  | none
  /-- An include directive with its path is complete. -/
  | inclusion (path : String)
  /-- The engine has been declared. -/
  | engine (name : String)
deriving DecidableEq, Repr

/-- A template of which part of the text has been read. -/
structure Draft where
  cursor : Cursor
  state : State
  /-- The text collected for the literal or the directive being read. -/
  pending : String
  mode : FunctionMode
  /-- Location of the `%` that opened the latest directive. -/
  tagStart : Location
  /-- Location of the `%` that opened the latest function block outside functions. -/
  functionStart : Location
  /-- What has been read so far. -/
  tree : IncludeTree

namespace Draft

/-- The draft of a template before its text. -/
def start (template : Template) : Draft where
  cursor := Cursor.start
  state := .literal
  pending := ""
  mode := .off
  tagStart := ⟨0, 0⟩
  functionStart := ⟨0, 0⟩
  tree := ⟨template, []⟩

/-- The template as read so far. -/
def template (draft : Draft) : Template := draft.tree.template

/-- The draft with another template. -/
def withTemplate (draft : Draft) (template : Template) : Draft :=
  { draft with tree := { draft.tree with template := template } }

/-- The draft in another state. -/
def goTo (draft : Draft) (state : State) : Draft := { draft with state := state }

/-- The draft with a character collected. -/
def push (draft : Draft) (c : Char) : Draft := { draft with pending := draft.pending.push c }

/-- The draft with a text collected. -/
def pushText (draft : Draft) (text : String) : Draft :=
  { draft with pending := draft.pending ++ text }

/-- The draft with nothing collected. -/
def clear (draft : Draft) : Draft := { draft with pending := "" }

/-- The draft with a fragment at the end of the functions, where they are being
collected, or of the body. -/
def append (draft : Draft) (fragment : Fragment) : Draft :=
  draft.withTemplate <|
    if draft.mode = .off then draft.template.addToBody fragment
    else draft.template.addToFunctions fragment

/-- The error at the character just read, where another was needed. -/
def unexpected (draft : Draft) (expected : Expected) (c : Char) : ParseError :=
  .invalidCharacter expected c draft.cursor.position draft.cursor.location draft.state

/-! ## Literal text -/

/-- A literal that is a single line break. -/
def isLineBreak (text : String) : Bool := text == "\n" || text == "\r\n"

/-- The draft with the collected text as a literal. There is none for an empty text, nor
for a line break where these are dropped. -/
def flushLiteral (writer : Writer) (draft : Draft) : Draft :=
  let text := draft.pending
  let draft := draft.clear
  if text.isEmpty || (writer.skipsLineBreaks && isLineBreak text) then draft
  else draft.append ⟨.literal, text, writer.literal text⟩

/-- The draft after a character of literal text. -/
def readLiteral (draft : Draft) (c : Char) : Draft :=
  if c = '<' then draft.goTo .lessThan else (draft.push c).goTo .literal

/-! ## Directive bodies -/

/-- The draft after a character of a directive body. -/
def readBody (draft : Draft) (region : Region) (c : Char) : Draft :=
  if c = '%' ∧ region ≠ .comment then draft.goTo (.closing region)
  else if c = '*' ∧ region = .comment then draft.goTo .star
  else if c = '~' ∧ region.isCode then draft.goTo (.tilde region)
  else if c = '\\' then draft.goTo (.escape region)
  else (draft.push c).goTo (.scan region)

/-- The draft after functions have ended. -/
def endFunctions (draft : Draft) : Draft := { draft with mode := .off }

/-- The draft after a raw block has been closed. A block without text leaves no fragment;
one closed by `~%>` ends the functions. -/
def completeBlock (draft : Draft) : Except ParseError Draft :=
  let text := draft.pending
  let draft := draft.clear
  let draft := if text.isEmpty then draft else draft.append ⟨.code, text, text⟩
  if draft.cursor.endedWith "~%>" then
    if draft.mode = .off then .error (.functionCloseWithoutOpen draft.tagStart)
    else .ok draft.endFunctions
  else .ok draft

/-- The draft after a function block has been closed. One closed by `~%>` ends the
functions, and so does the second one since they began. -/
def completeFunction (draft : Draft) : Draft :=
  let text := draft.pending
  let draft := draft.clear.append ⟨.code, text, text⟩
  if draft.cursor.endedWith "~%>" ∨ draft.mode = .ending then draft.endFunctions
  else { draft with mode := .ending }

/-- The draft after a name has been declared. A module or class name must not make the
identity of the template one that an including or included template has. -/
def declareName (ancestors : List Identity) (draft : Draft) (kind : NameKind) (name : String) :
    Except ParseError Draft :=
  if name.isEmpty then .error (.missingName kind draft.tagStart)
  else
    match draft.template.declare kind name with
    | .error cause => .error (.naming cause draft.tagStart)
    | .ok template =>
      let draft := draft.withTemplate template
      let identity := template.identity
      if kind ≠ .engineName ∧ (identity ∈ ancestors ∨ draft.tree.containsIdentity identity) then
        .error (.classAlreadyIncluded identity draft.tagStart)
      else .ok draft

/-- The text before the two `@` that end the body of an engine directive. -/
def engineText? (body : String) : Option String :=
  match (Text.trim body).toList.reverse with
  | '@' :: '@' :: rest => some (Text.trim (String.ofList rest.reverse))
  | _ => none

/-- The draft after an engine directive has been closed. -/
def completeEngine (ancestors : List Identity) (draft : Draft) :
    Except ParseError (Draft × Event) :=
  match engineText? draft.pending with
  | none => .error (draft.unexpected .engineMark '>')
  | some name => do
    let draft ← declareName ancestors draft.clear .engineName name
    return (draft, .engine name)

/-- The draft after a directive body has been closed. -/
def complete (writer : Writer) (ancestors : List Identity) (draft : Draft) (region : Region) :
    Except ParseError (Draft × Event) :=
  let text := draft.pending
  let expression := Text.trim text
  let emptied := draft.clear
  match region with
  | .comment => .ok (emptied, .none)
  | .dependency =>
    .ok (emptied.withTemplate (draft.template.addDependency expression), .none)
  | .externalCode =>
    let code := Text.trimBy (fun c => c == '\r' || c == '\n') text
    .ok (emptied.withTemplate (draft.template.addExternalCode code), .none)
  | .engineName => completeEngine ancestors draft
  | .write => .ok (emptied.append ⟨.value, expression, writer.value expression⟩, .none)
  | .transform t =>
    .ok (emptied.append ⟨.transform t, expression, writer.transform t expression⟩, .none)
  | .block => do return (← draft.completeBlock, .none)
  | .function => .ok (draft.completeFunction, .none)

/-! ## Opening markup -/

/-- The draft after a character between an include's opening markup and its path. -/
def readIncludeLead (draft : Draft) (c : Char) : Except ParseError Draft :=
  let draft := draft.goTo .includeLead
  if c = '"' ∨ c = '\'' then .ok (draft.goTo (.includePath c))
  else if Text.isBlank c then .ok draft
  else .error (draft.unexpected .pathOpening c)

/-- The draft after the character behind `<%`. One that is no sigil belongs to a raw
block. -/
def readOpening (draft : Draft) (c : Char) : Draft :=
  match c with
  | '@' => draft.goTo (.sigil .atSign)
  | '!' => draft.goTo (.sigil .bang)
  | '*' => draft.goTo (.scan .comment)
  | '#' => draft.goTo (.sigil .hash)
  | '=' => draft.goTo (.scan .write)
  | '~' => draft.goTo (.sigil .tilde)
  | '$' => draft.goTo (.sigil .dollar)
  | '?' => draft.goTo (.sigil (.write .urlEncode))
  | '&' => draft.goTo (.sigil (.write .urlDecode))
  | '^' => draft.goTo (.sigil (.write .fullUrlDecode))
  | ':' => draft.goTo (.sigil (.write .base64Encode))
  | '.' => draft.goTo (.sigil (.write .base64Decode))
  | _ => draft.readBody .block c

/-- The draft in a function block. The first one since functions ended begins them anew,
with a line break before its text. -/
def openFunction (draft : Draft) : Draft :=
  if draft.mode = .off then
    { draft.push '\n' with mode := .on, functionStart := draft.tagStart }
  else draft

/-- The draft after the character behind a sigil. An `=` selects the write directive of
the sigil's helper; any other character is read under the sigil's other meaning. -/
def readSigil (draft : Draft) (sigil : Sigil) (c : Char) : Except ParseError Draft :=
  match sigil, c with
  | .atSign, '@' => .ok (draft.goTo (.scan .engineName))
  | .atSign, '\x60' => .ok (draft.goTo (.name .className))
  | .atSign, _ => .ok (draft.readBody .dependency c)
  | .dollar, '\x60' => .ok (draft.goTo (.name .moduleName))
  | _, _ =>
    match sigil.transform?, c with
    | some t, '=' => .ok (draft.goTo (.scan (.transform t)))
    | _, _ =>
      match sigil with
      | .bang => .ok (draft.readBody .externalCode c)
      | .hash => draft.readIncludeLead c
      | .tilde => .ok (draft.openFunction.readBody .function c)
      | _ => .ok (draft.readBody .block c)

/-! ## Steps -/

/-- Characters of a name between backticks. -/
def isNameChar (kind : NameKind) (c : Char) : Bool :=
  Text.isAlphanumeric c || c == '_' || (kind == .moduleName && (c == '.' || c == '@'))

/-- A result without an event. -/
def quietly (draft : Draft) : Except ParseError (Draft × Event) := .ok (draft, .none)

/-- The draft after one more character of the text, and what is left to be done. -/
def step (writer : Writer) (ancestors : List Identity) (draft : Draft) (c : Char) :
    Except ParseError (Draft × Event) :=
  let draft := { draft with cursor := draft.cursor.advance c }
  match draft.state with
  | .literal => quietly (draft.readLiteral c)
  | .lessThan =>
    if c = '%' then
      quietly { (draft.flushLiteral writer).goTo .tagOpen with tagStart := draft.cursor.location }
    else quietly ((draft.push '<').readLiteral c)
  | .tagOpen => quietly (draft.readOpening c)
  | .sigil sigil => do quietly (← draft.readSigil sigil c)
  | .scan region => quietly (draft.readBody region c)
  | .closing region =>
    if c = '>' then (draft.goTo .literal).complete writer ancestors region
    else quietly ((draft.push '%').readBody region c)
  | .tilde region =>
    if c = '%' then quietly (draft.goTo (.closing region))
    else quietly ((draft.push '~').readBody region c)
  | .star =>
    if c = '%' then quietly (draft.goTo (.closing .comment))
    else quietly (draft.readBody .comment c)
  | .escape region =>
    if c = '%' then quietly (draft.goTo (.escapePercent region))
    else quietly (((draft.push '\\').push c).goTo (.scan region))
  | .escapePercent region =>
    if c = '>' then quietly ((draft.pushText "%>").goTo (.scan region))
    else quietly ((draft.pushText "\\%").readBody region c)
  | .name kind =>
    if c = '\x60' then quietly (draft.goTo (.nameTick kind))
    else if isNameChar kind c then quietly (draft.push c)
    else .error (draft.unexpected (.nameCharacter kind) c)
  | .nameTick kind =>
    if c = '%' then quietly (draft.goTo (.nameClose kind))
    else .error (draft.unexpected .namePercent c)
  | .nameClose kind =>
    if c = '>' then do
      quietly (← (draft.goTo .literal).clear.declareName ancestors kind draft.pending)
    else .error (draft.unexpected .nameBracket c)
  | .includeLead => do quietly (← draft.readIncludeLead c)
  | .includePath mark =>
    if c = mark then quietly (draft.goTo .includeAfterPath)
    else if c = '\r' ∨ c = '\n' then .error (draft.unexpected .pathClosing c)
    else quietly (draft.push c)
  | .includeAfterPath =>
    if c = '%' then quietly (draft.goTo .includeClose)
    else if Text.isBlank c then quietly draft
    else .error (draft.unexpected .includePercent c)
  | .includeClose =>
    if c = '>' then .ok ((draft.goTo .literal).clear, .inclusion draft.pending)
    else .error (draft.unexpected .includeBracket c)

/-- The templates read when the text ends. A `<` at the end is literal text; a directive
or functions that are still open are an error. -/
def finish (writer : Writer) (draft : Draft) : Except ParseError IncludeTree :=
  let draft := if draft.state = .lessThan then (draft.push '<').goTo .literal else draft
  match draft.state.family? with
  | some .function => .error (.unterminatedFunction draft.functionStart)
  | some family => .error (.unterminatedTag family draft.tagStart)
  | none =>
    if draft.mode = .off then .ok (draft.flushLiteral writer).tree
    else .error (.unterminatedFunction draft.functionStart)

end Draft

end TemplateCompiler
