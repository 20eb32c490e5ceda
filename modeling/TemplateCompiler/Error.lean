import TemplateCompiler.Dependency
import TemplateCompiler.Directive.State
import TemplateCompiler.Location
import TemplateCompiler.Name
import TemplateCompiler.Text.Quoted

/-! # Errors of parsing

Why a template cannot be parsed. Every error but one is located in the text of the
template that it arises in. An error in an included template is wrapped once for each
template on the way to it; `ParseError.rootCause` and `ParseError.includeChain` take the
wrapping apart.
-/

namespace TemplateCompiler

/-- What a directive needs where another character stands. -/
inductive Expected where
  /-- A character of a name. -/
  | nameCharacter (kind : NameKind)
  /-- The `%` after the backtick of a name. -/
  | namePercent
  /-- The `>` that closes a name directive. -/
  | nameBracket
  /-- The two `@` that close an engine name. -/
  | engineMark
  /-- The quotation mark that opens an include path. -/
  | pathOpening
  /-- The quotation mark that closes an include path. -/
  | pathClosing
  /-- The `%` after an include path. -/
  | includePercent
  /-- The `>` that closes an include. -/
  | includeBracket
deriving DecidableEq, Repr

namespace Expected

/-- The kind of the error in messages. -/
def label : Expected → String
  | nameCharacter .moduleName => "InvalidCharacterInModuleName"
  | nameCharacter _ => "InvalidCharacterInTemplateName"
  | namePercent => "TemplateNameEndTagError"
  | nameBracket => "TemplateNameEndTagError"
  | engineMark => "EngineNameEndTagError"
  | pathOpening => "IncludeError"
  | pathClosing => "UnTerminatedIncludePath"
  | includePercent => "IncludeEndError"
  | includeBracket => "IncludePathEndTagError"

/-- What is needed, in messages. -/
def text : Expected → String
  | nameCharacter .moduleName => "num|alpha|_|."
  | nameCharacter _ => "num|alpha|_"
  | namePercent => "%"
  | nameBracket => ">"
  | engineMark => "@@%>"
  | pathOpening => "string starter character (' or \")"
  | pathClosing => "closing quote"
  | includePercent => "whitespace or %"
  | includeBracket => ">"

end Expected

/-- Why a template cannot be parsed. -/
inductive ParseError where
  /-- A character stands where a directive needs another. -/
  | invalidCharacter (expected : Expected) (seen : Char) (position : Nat) (location : Location)
      (state : State)
  /-- The text ends in a directive. -/
  | unterminatedTag (family : DirectiveFamily) (location : Location)
  /-- The text ends in a function. -/
  | unterminatedFunction (location : Location)
  /-- A function is closed where none is open. -/
  | functionCloseWithoutOpen (location : Location)
  /-- A name directive has no name in it. -/
  | missingName (kind : NameKind) (location : Location)
  /-- A name cannot be declared. -/
  | naming (cause : NameError) (location : Location)
  | includePathEmpty (location : Location)
  | rootedInclude (path : String) (location : Location)
  | includePathUnderflow (path : String) (location : Location)
  | libraryRootMissing (path : String) (location : Location)
  | includeNotFound (path : String) (location : Location)
  | includeUnreadable (path reason : String) (location : Location)
  /-- An included template cannot be parsed. -/
  | includeParse (path : String) (cause : ParseError) (location : Location)
  /-- An identity stands twice in one tree of includes. -/
  | classAlreadyIncluded (identity : Identity) (location : Location)
  /-- The dependencies of an included template cannot be merged. -/
  | mergeDependencies (path : String) (cause : DependencyError) (location : Location)
  | includeDepthExceeded (path : String) (limit : Nat) (location : Location)
  /-- The template file itself cannot be read. -/
  | templateUnreadable (path reason : String)
deriving DecidableEq, Repr

namespace ParseError

/-- The location of the error in the template that it arises in. -/
def location? : ParseError → Option Location
  | invalidCharacter _ _ _ location _ => some location
  | unterminatedTag _ location => some location
  | unterminatedFunction location => some location
  | functionCloseWithoutOpen location => some location
  | missingName _ location => some location
  | naming _ location => some location
  | includePathEmpty location => some location
  | rootedInclude _ location => some location
  | includePathUnderflow _ location => some location
  | libraryRootMissing _ location => some location
  | includeNotFound _ location => some location
  | includeUnreadable _ _ location => some location
  | includeParse _ _ location => some location
  | classAlreadyIncluded _ location => some location
  | mergeDependencies _ _ location => some location
  | includeDepthExceeded _ _ location => some location
  | templateUnreadable _ _ => none

/-- What the error says, without its location. -/
def detail : ParseError → String
  | invalidCharacter expected seen position location state =>
      "parse error '" ++ expected.label ++ "' at position " ++ toString position ++ " " ++
        location.text ++ ": expected " ++ expected.text ++ ", but saw " ++ Text.quoteChar seen ++
        " (state = " ++ state.label ++ ")"
  | unterminatedTag family _ => "unterminated " ++ family.label ++ " (" ++ family.opener ++ ")"
  | unterminatedFunction _ => "function is not closed"
  | functionCloseWithoutOpen _ =>
      "encountered function end tag without a previous function start tag"
  | missingName kind _ => "missing " ++ kind.label ++ " name"
  | naming cause _ => cause.message
  | includePathEmpty _ => "no include path specified"
  | rootedInclude path _ =>
      "using absolute path in include files is not allowed ('" ++ path ++ "')"
  | includePathUnderflow path _ => "include path " ++ path ++ " surpasses root in going back"
  | libraryRootMissing path _ =>
      "library include '" ++ path ++ "' requires a configured library root"
  | includeNotFound path _ => "include file " ++ path ++ " not found"
  | includeUnreadable path _ _ => "error while reading include file '" ++ path ++ "'"
  | includeParse path _ _ => "error while parsing include file '" ++ path ++ "'"
  | classAlreadyIncluded identity _ => "class '" ++ identity.text ++ "' already included"
  | mergeDependencies path _ _ =>
      "error while merging include file '" ++ path ++ "' dependencies"
  | includeDepthExceeded path limit _ =>
      "include '" ++ path ++ "' exceeds the maximum include depth of " ++ toString limit
  | templateUnreadable path _ => "error while reading template '" ++ path ++ "'"

/-- The text of the error. A message about a character says the location itself. -/
def message (error : ParseError) : String :=
  match error with
  | invalidCharacter .. => error.detail
  | _ =>
    match error.location? with
    | some location => "Line: " ++ location.text ++ ": " ++ error.detail
    | none => error.detail

/-- The error in the innermost included template. -/
def rootCause : ParseError → ParseError
  | includeParse _ cause _ => cause.rootCause
  | error => error

/-- The paths of the included templates on the way to the root cause, the outermost
first. -/
def includeChain : ParseError → List String
  | includeParse path cause _ => path :: cause.includeChain
  | _ => []

@[simp] theorem rootCause_includeParse (path : String) (cause : ParseError)
    (location : Location) : (includeParse path cause location).rootCause = cause.rootCause := rfl

@[simp] theorem includeChain_includeParse (path : String) (cause : ParseError)
    (location : Location) :
    (includeParse path cause location).includeChain = path :: cause.includeChain := rfl

end ParseError

end TemplateCompiler
