import TemplateCompiler.Config
import TemplateCompiler.Dependency
import TemplateCompiler.Template

/-! # Target languages

The languages that templates are compiled to, and the names by which they are asked for.
-/

namespace TemplateCompiler

/-- A language that templates are compiled to. -/
inductive Target where
  | cSharp
  | javaScript
  | visualBasic
  | java
deriving DecidableEq, Repr

namespace Target

/-- The name that a template declares as its engine. -/
def name : Target → String
  | cSharp => "CSharp"
  | javaScript => "Javascript"
  | visualBasic => "VisualBasic"
  | java => "Java"

/-- The target that a name asks for. Blanks around the name and ASCII capitals do not
count, and short names do. -/
def ofName? (name : String) : Option Target :=
  match Text.lowerAscii (Text.trim name) with
  | "csharp" | "cs" | "c#" => some cSharp
  | "javascript" | "js" => some javaScript
  | "visualbasic" | "vb" => some visualBasic
  | "java" => some java
  | _ => none

/-- The configuration that a target works with: the helpers of JavaScript and Java are
always in camel case. -/
def adjust (target : Target) (config : Config) : Config :=
  match target with
  | javaScript | java => { config with camelCase := true }
  | cSharp | visualBasic => config

end Target

/-- The parameter of a render method in a language with default values; `untyped` is the
parameter where no type is configured. -/
def Config.defaultedModelParameter (config : Config) (untyped : String) : String :=
  match config.modelTypeName? with
  | some name => name ++ " model = default"
  | none => untyped

end TemplateCompiler
