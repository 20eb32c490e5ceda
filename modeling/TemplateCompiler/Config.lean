import TemplateCompiler.Grammar
import TemplateCompiler.Json.Reading

/-! # Configuration

The options of a compilation, their defaults, and how they are read from JSON and
written to it. Reading knows the keys of the options and passes over all others; a known
key may stand once, and only an option that may be missing may be null. The options may
also be written as an array in the order of their declaration, the last ones left out.
-/

namespace TemplateCompiler

/-- The options of a compilation. -/
structure Config where
  /-- Whether helper names begin with a small letter. -/
  camelCase : Bool := false
  /-- Whether literals that are a single line break are dropped. -/
  skipLineBreaks : Bool := true
  /-- What is added to an include path that names no file. -/
  templateExtension : String := ".blade"
  /-- The file that stands for its directory. -/
  indexFile : String := "index.blade"
  /-- The root of library includes. -/
  libraryRoot? : Option String := none
  /-- The pattern that module names have to satisfy instead of the usual grammar. -/
  moduleNamePattern? : Option String := none
  /-- The module of templates that declare none. -/
  defaultModule? : Option String := none
  /-- How many levels of includes there may be below a template. -/
  maxIncludeDepth : Nat := 32
  /-- The type of the render method's parameter. -/
  modelType? : Option String := none
deriving DecidableEq, Repr

/-- Why a configuration or an engine name was refused. -/
inductive ConfigError where
  /-- The configuration file cannot be read. -/
  | unreadable (path reason : String)
  /-- The text is no configuration. -/
  | malformed
  /-- The pattern for module names is no pattern. -/
  | invalidPattern (pattern : String)
  | unknownEngine (name : String)
deriving DecidableEq, Repr

/-- The text of the error. -/
def ConfigError.message : ConfigError → String
  | unreadable path reason => "Failed to read config " ++ path ++ ": " ++ reason
  | malformed => "Invalid config: not a JSON object of engine options"
  | invalidPattern pattern => "Invalid module name pattern '" ++ pattern ++ "'"
  | unknownEngine name => "Unknown engine '" ++ name ++ "'"

namespace Config

/-- The grammar of module names. -/
def moduleGrammar (config : Config) : Except ConfigError Grammar :=
  match config.moduleNamePattern? with
  | none => .ok .dotted
  | some pattern =>
    match Grammar.ofPattern? pattern with
    | some grammar => .ok grammar
    | none => .error (.invalidPattern pattern)

/-- The written type of the model without blanks around it; none where it is blank. -/
def modelTypeName? (config : Config) : Option String :=
  (config.modelType?.map Text.trim).filter fun name => !name.isEmpty

end Config

end TemplateCompiler
