import TemplateCompiler.CommandLine.Help
import TemplateCompiler.Config.Json
import TemplateCompiler.EngineName
import TemplateCompiler.Serial

/-! # Running a request

What the program answers to its arguments: an exit code with a text or a JSON value. A
request that fails before a template is parsed ends with one, a template that cannot be
parsed and arguments that are no request with two.
-/

namespace TemplateCompiler.CommandLine

/-- What the program prints. -/
inductive Output where
  | text (text : String)
  | json (value : Json)

/-- The printed characters. JSON is printed over several lines, keys in order. -/
def Output.print : Output → String
  | .text shown => shown
  | .json value => value.sorted.pretty ++ "\n"

/-- The answer of the program. -/
structure Response where
  exitCode : Nat
  output : Output

namespace Response

/-- The answer to a request that fails before a template is parsed. -/
def failure (reason : String) : Response :=
  ⟨1, .json (.object [("error", .string reason), ("success", .bool false)])⟩

/-- The answer to a template that cannot be parsed. -/
def parseFailure (error : ParseError) : Response :=
  ⟨2, .json (.object [
    ("cause", .string error.rootCause.message),
    ("error", .string error.message),
    ("includes", .strings error.includeChain),
    ("location", (error.location?.map Location.toJson).getD .null),
    ("success", .bool false)])⟩

end Response

/-- What the program runs in: the files it sees, the ids and the stamp it uses. -/
structure Environment (m : Type → Type) where
  loader : Loader m
  ids : Nat → String
  stamp : Stamp

variable {m : Type → Type} [Monad m]

/-- The text of a template file that has to be there. -/
def readTemplate (environment : Environment m) (path : String) : m (Except String String) := do
  return (← environment.loader.read path).mapError fun reason =>
    "Failed to read " ++ path ++ ": " ++ reason

/-- The configuration of a request. A library root among the arguments replaces the
configured one. -/
def readConfig (environment : Environment m) (config? libraryRoot? : Option String) :
    m (Except String Config) := do
  let read : Except ConfigError Config ←
    match config? with
    | none => pure (.ok {})
    | some path => do
      match ← environment.loader.read path with
      | .error reason => pure (.error (.unreadable path reason))
      | .ok text => pure (Config.ofJsonText text)
  return read.mapError ConfigError.message |>.map fun config =>
    { config with libraryRoot? := libraryRoot?.or config.libraryRoot? }

/-- The engine that is asked for, or else the one that the template declares. -/
def engineName (environment : Environment m) (template : String) (engine? : Option String) :
    m (Except String String) := do
  match engine? with
  | some name => return .ok name
  | none =>
    match ← readTemplate environment template with
    | .error reason => return .error reason
    | .ok source =>
      match declaredEngine source with
      | .error cause => return .error cause.message
      | .ok none => return .error "No engine given and the template declares none"
      | .ok (some name) => return .ok name

/-- The compiler of a request. -/
def compilerFor (environment : Environment m) (template : String) (engine? : Option String)
    (config : Config) : m (Except String (Compiler m)) := do
  match ← engineName environment template engine? with
  | .error reason => return .error reason
  | .ok name =>
    return (Emitter.ofName name config).mapError ConfigError.message |>.map fun emitter =>
      { emitter := emitter, loader := environment.loader, ids := environment.ids }

/-- The answer to a request to print the generated source. -/
def render (compiler : Compiler m) (template : String) : m Response := do
  match ← compiler.parseFile template with
  | .ok tree => return ⟨0, .text (compiler.render tree)⟩
  | .error cause => return .parseFailure cause

/-- The answer to a request to print the compiled unit. -/
def compile (environment : Environment m) (compiler : Compiler m) (template : String) :
    m Response := do
  match ← compiler.compileFile environment.stamp template with
  | .ok unit => return ⟨0, .json (.object [("success", .bool true), ("unit", unit.toJson)])⟩
  | .error cause => return .parseFailure cause

/-- The answer to a request to print the declared engine. -/
def detect (environment : Environment m) (template : String) : m Response := do
  match ← readTemplate environment template with
  | .error reason => return .failure reason
  | .ok source =>
    match declaredEngine source with
    | .ok engine? => return ⟨0, .json (.object [("engine", .ofOption engine?)])⟩
    | .error cause => return .parseFailure cause

/-- The answer to a request. -/
def answer (environment : Environment m) : Request → m Response
  | .misuse => return ⟨2, .text ""⟩
  | .help topic => return ⟨0, .text topic.text⟩
  | .run verb template engine? config? libraryRoot? => do
    match ← readConfig environment config? libraryRoot? with
    | .error reason => return .failure reason
    | .ok config =>
      if verb = .detect then detect environment template
      else
        match ← compilerFor environment template engine? config with
        | .error reason => return .failure reason
        | .ok compiler =>
          if verb = .render then render compiler template
          else compile environment compiler template

/-- The answer to arguments. -/
def run (environment : Environment m) (arguments : List String) : m Response :=
  answer environment (Request.ofArguments arguments)

end TemplateCompiler.CommandLine
