import TemplateCompiler.Target.CSharp
import TemplateCompiler.Target.Java
import TemplateCompiler.Target.JavaScript
import TemplateCompiler.Target.VisualBasic

/-! # Generating code

An `Emitter` is a target with a configuration. It writes the statements of fragments,
prepares new templates, folds included templates into the template that includes them,
and renders a template as a unit of source code. Parsing needs only the statements: a
`Writer` is what is left of an emitter for it.
-/

namespace TemplateCompiler

/-- How the fragments of a template are written. -/
structure Writer where
  /-- Whether literals that are a single line break are dropped. -/
  skipsLineBreaks : Bool
  literal : String → String
  value : String → String
  transform : Transform → String → String

/-- A target with a configuration. -/
structure Emitter where
  target : Target
  config : Config
  moduleGrammar : Grammar
deriving DecidableEq, Repr

namespace Emitter

/-- The emitter of a target without configuration. -/
def default (target : Target) : Emitter := ⟨target, target.adjust {}, .dotted⟩

/-- The emitter of a target with a configuration. -/
def ofConfig (target : Target) (config : Config) : Except ConfigError Emitter := do
  return ⟨target, target.adjust config, ← config.moduleGrammar⟩

/-- The emitter of the target that a name asks for. -/
def ofName (name : String) (config : Config) : Except ConfigError Emitter :=
  match Target.ofName? name with
  | some target => ofConfig target config
  | none => .error (.unknownEngine name)

/-- The engine name of the emitter. -/
def name (emitter : Emitter) : String := emitter.target.name

/-- How the target spells dependencies. -/
def rule (emitter : Emitter) : DependencyRule :=
  match emitter.target with
  | .cSharp => CSharp.rule
  | .javaScript => JavaScript.rule
  | .visualBasic => VisualBasic.rule
  | .java => Java.rule

/-- The statement that writes a text. -/
def literal (emitter : Emitter) : String → String :=
  match emitter.target with
  | .cSharp => CSharp.literal
  | .javaScript => JavaScript.literal
  | .visualBasic => VisualBasic.literal
  | .java => Java.literal

/-- The statement that writes the value of an expression. -/
def value (emitter : Emitter) : String → String :=
  match emitter.target with
  | .cSharp => CSharp.value
  | .javaScript => JavaScript.value
  | .visualBasic => VisualBasic.value
  | .java => Java.value

/-- The call of a helper in the target's spelling. -/
def helperCall (emitter : Emitter) (transform : Transform) (expression : String) : String :=
  let call := transform.helperName emitter.config.camelCase ++ "(" ++ expression ++ ")"
  match emitter.target with
  | .javaScript => "this." ++ call
  | _ => call

/-- The statement that writes the value of an expression passed through a helper. -/
def transform (emitter : Emitter) (transform : Transform) (expression : String) : String :=
  emitter.value (emitter.helperCall transform expression)

/-- The writer of the emitter. -/
def writer (emitter : Emitter) : Writer where
  skipsLineBreaks := emitter.config.skipLineBreaks
  literal := emitter.literal
  value := emitter.value
  transform := emitter.transform

/-- A new template with what the target puts into every template. -/
def prepare (emitter : Emitter) (template : Template) : Template :=
  match emitter.target with
  | .cSharp => template
  | .javaScript => template.addDependency JavaScript.baseImport
  | .visualBasic =>
    if template.settings.isInclude then template
    else
      (template.addDependency VisualBasic.defaultImports).addExternalCode VisualBasic.baseClass
  | .java => template.addDependency Java.defaultImports

/-- The generated code of a template without its dependencies. -/
def renderContent (emitter : Emitter) (template : Template) : String :=
  match emitter.target with
  | .cSharp => CSharp.renderContent emitter.config template
  | .javaScript => JavaScript.renderContent template
  | .visualBasic => VisualBasic.renderContent emitter.config template
  | .java => Java.renderContent emitter.config template

/-- The dependencies that an included template brings along. -/
def broughtDependencies (emitter : Emitter) (child : Template) : String :=
  match emitter.target with
  | .cSharp | .java => child.dependencies
  | .javaScript => child.dependencies ++ "\n" ++ JavaScript.importOf child
  | .visualBasic =>
    if child.hasContent then child.dependencies ++ "\n" ++ VisualBasic.importOf child
    else child.dependencies

/-- The external code that an included template becomes. -/
def broughtCode (emitter : Emitter) (child : Template) : String :=
  let content := emitter.renderContent child
  match emitter.target with
  | .cSharp | .java => Text.trimLineFeeds content
  | .javaScript => ""
  | .visualBasic => VisualBasic.includedCode child content

/-- The template with an included template folded into it. -/
def absorb (emitter : Emitter) (parent child : Template) : Except DependencyError Template := do
  let dependencies ← emitter.rule.merge parent.dependencies (emitter.broughtDependencies child)
  return { parent with dependencies := dependencies }.addExternalCode (emitter.broughtCode child)

/-- A template as one unit of source code. -/
def renderUnit (emitter : Emitter) (template : Template) : String :=
  let unit :=
    Text.trimEnd template.dependencies ++ "\n\n" ++
      Text.trimLineFeeds (emitter.renderContent template) ++ "\n"
  match emitter.target with
  | .java => "package " ++ Java.package emitter.config template ++ ";\n\n" ++ unit
  | _ => unit

end Emitter

end TemplateCompiler
