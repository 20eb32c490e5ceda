import TemplateCompiler.Text.Trim

/-! # Command line arguments

The arguments name a command and the template it works on. Options stand anywhere: those
of the program before or behind the command, and behind it also the command's own. An
option is given once at each of the two places, and behind the command it counts more.
A value that is an argument of its own is looked at when the next option comes, so the
last one before the command waits until the command has been read. `Request.ofArguments`
reads the arguments.
-/

namespace TemplateCompiler.CommandLine

/-- What the program does with a template. -/
inductive Verb where
  /-- Prints the generated source. -/
  | render
  /-- Prints the compiled unit. -/
  | compile
  /-- Prints the declared engine. -/
  | detect
deriving DecidableEq, Repr

namespace Verb

/-- The verb as it is given. -/
def name : Verb → String
  | render => "render"
  | compile => "compile"
  | detect => "detect"

/-- The verb with a given name. -/
def ofName? (name : String) : Option Verb :=
  [render, compile, detect].find? fun verb => verb.name == name

/-- Whether the verb works for an engine. -/
def takesEngine : Verb → Bool
  | detect => false
  | _ => true

end Verb

/-- An option with a value. -/
inductive Setting where
  | config
  | libraryRoot
  | engine
deriving DecidableEq, Repr

namespace Setting

/-- Whether the option is one of the program. -/
def isGlobal : Setting → Bool
  | engine => false
  | _ => true

/-- The option with a given long name. -/
def ofLong? : List Char → Option Setting
  | name =>
    if name = "config".toList then some config
    else if name = "library-root".toList then some libraryRoot
    else if name = "engine".toList then some engine
    else none

/-- The option with a given letter. -/
def ofShort? : Char → Option Setting
  | 'c' => some config
  | 'l' => some libraryRoot
  | 'e' => some engine
  | _ => none

end Setting

/-- What help is asked for. -/
inductive HelpTopic where
  | program
  | verb (verb : Verb)
  | help
deriving DecidableEq, Repr

/-- What the program is asked to do. -/
inductive Request where
  | run (verb : Verb) (template : String) (engine? config? libraryRoot? : Option String)
  | help (topic : HelpTopic)
  /-- The arguments are no request. -/
  | misuse
deriving DecidableEq, Repr

/-- One argument by itself. -/
inductive Argument where
  | plain (text : String)
  /-- The two hyphens behind which there are no options. -/
  | endOfOptions
  | help
  /-- An option, with its value where that is part of the argument. -/
  | setting (setting : Setting) (value? : Option String)
  | unknown
deriving DecidableEq, Repr

/-- An argument read by itself. A single hyphen is no option. -/
def Argument.ofText (text : String) : Argument :=
  match text.toList with
  | ['-', '-'] => endOfOptions
  | '-' :: '-' :: long =>
    let name := long.takeWhile (· != '=')
    let value? :=
      match long.dropWhile (· != '=') with
      | _ :: value => some (String.ofList value)
      | [] => none
    match Setting.ofLong? name with
    | some s => setting s value?
    | none => if name = "help".toList ∧ value? = none then help else unknown
  | ['-', 'h'] => help
  | '-' :: 'h' :: _ => help
  | '-' :: letter :: attached =>
    match Setting.ofShort? letter, attached with
    | none, _ => unknown
    | some s, [] => setting s none
    | some s, '=' :: value => setting s (some (String.ofList value))
    | some s, value => setting s (some (String.ofList value))
  | _ => plain text

/-- The request, where it asks for help; misuse otherwise. -/
def Request.helpOnly : Request → Request
  | .help topic => .help topic
  | _ => .misuse

/-- What has been given at one place. -/
structure Given where
  config? : Option String := none
  libraryRoot? : Option String := none
  engine? : Option String := none
  template? : Option String := none

namespace Given

/-- The place with an option given. Nothing is given twice, and paths are not empty. -/
def set? (given : Given) (setting : Setting) (value : String) : Option Given :=
  match setting with
  | .config =>
    if given.config?.isSome || value.isEmpty then none
    else some { given with config? := some value }
  | .libraryRoot =>
    if given.libraryRoot?.isSome || value.isEmpty then none
    else some { given with libraryRoot? := some value }
  | .engine =>
    if given.engine?.isSome then none else some { given with engine? := some value }

/-- The place with the template given. -/
def setTemplate? (given : Given) (path : String) : Option Given :=
  if given.template?.isSome || path.isEmpty then none
  else some { given with template? := some path }

end Given

/-- Whether a text can be the value of the option before it. -/
def isValue (text : String) : Bool := text == "-" || !"-".toList.isPrefixOf text.toList

/-- The request of a command when its arguments end. -/
def finish (verb : Verb) (outer inner : Given) : Request :=
  match inner.template? with
  | none => .misuse
  | some template =>
    .run verb template inner.engine? (inner.config?.or outer.config?)
      (inner.libraryRoot?.or outer.libraryRoot?)

/-- The request of a command whose arguments behind two hyphens are left. -/
def readPlain (verb : Verb) (outer inner : Given) : List String → Request
  | [] => finish verb outer inner
  | text :: rest =>
    match inner.setTemplate? text with
    | some inner => readPlain verb outer inner rest
    | none => .misuse

/-- The request of a command with some of its arguments left. `awaiting?` is the option
whose value comes next. -/
def readCommand (verb : Verb) (outer : Given) :
    (inner : Given) → (awaiting? : Option Setting) → List String → Request
  | inner, none, [] => finish verb outer inner
  | _, some _, [] => .misuse
  | inner, some setting, text :: rest =>
    if isValue text then
      match inner.set? setting text with
      | some inner => readCommand verb outer inner none rest
      | none => .misuse
    else .misuse
  | inner, none, text :: rest =>
    match Argument.ofText text with
    | .plain path =>
      match inner.setTemplate? path with
      | some inner => readCommand verb outer inner none rest
      | none => .misuse
    | .endOfOptions => readPlain verb outer inner rest
    | .help => .help (.verb verb)
    | .unknown => .misuse
    | .setting setting value? =>
      if setting.isGlobal || verb.takesEngine then
        match value? with
        | none => readCommand verb outer inner (some setting) rest
        | some value =>
          match inner.set? setting value with
          | some inner => readCommand verb outer inner none rest
          | none => .misuse
      else .misuse

/-- The request for help on a command. -/
def readHelp : List String → Request
  | [] => .help .program
  | [name] =>
    if name = "help" then .help .help
    else
      match Verb.ofName? name with
      | some verb => .help (.verb verb)
      | none => .misuse
  | _ => .misuse

/-- What comes next in the arguments of the program: any argument, behind a value that is
still to be looked at or behind none, or the value of an option. -/
inductive Expected where
  | any (unsettled? : Option (Setting × String))
  | value (setting : Setting)

/-- What has been given, with the value that was still to be looked at. -/
def Given.settle? (given : Given) (unsettled? : Option (Setting × String)) : Option Given :=
  match unsettled? with
  | none => some given
  | some (setting, value) => given.set? setting value

/-- The request of a command and its arguments, behind the arguments of the program. -/
def readVerb (name : String) (given? : Option Given) (rest : List String) : Request :=
  let request (outer : Given) :=
    match Verb.ofName? name with
    | some verb => readCommand verb outer {} none rest
    | none => if name = "help" then readHelp rest else .misuse
  match given? with
  | some given => request given
  | none => (request {}).helpOnly

/-- The request of the arguments from some argument of the program on. -/
def readProgram : (given : Given) → Expected → List String → Request
  | _, _, [] => .misuse
  | given, .value setting, text :: rest =>
    if isValue text then readProgram given (.any (some (setting, text))) rest else .misuse
  | given, .any unsettled?, text :: rest =>
    match Argument.ofText text with
    | .plain name => readVerb name (given.settle? unsettled?) rest
    | .help => if (given.settle? unsettled?).isSome then .help .program else .misuse
    | .endOfOptions => .misuse
    | .unknown => .misuse
    | .setting setting value? =>
      match given.settle? unsettled? with
      | none => .misuse
      | some given =>
        if setting.isGlobal then
          match value? with
          | none => readProgram given (.value setting) rest
          | some value =>
            match given.set? setting value with
            | some given => readProgram given (.any none) rest
            | none => .misuse
        else .misuse

/-- What the arguments ask for. -/
def Request.ofArguments (arguments : List String) : Request := readProgram {} (.any none) arguments

end TemplateCompiler.CommandLine
