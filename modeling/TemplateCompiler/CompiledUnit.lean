import TemplateCompiler.Compiler
import TemplateCompiler.Digest.Sha256
import TemplateCompiler.Timestamp

/-! # Compiled units

A `CompiledUnit` is a rendered template with a record of what it was made from. Its
fingerprint depends on the engine, the full class name and the source alone.
-/

namespace TemplateCompiler

/-- A rendered template with a record of what it was made from. -/
structure CompiledUnit where
  id : String
  engine : String
  engineVersion : String
  moduleName : String
  className : String
  templatePath : String
  createdAt : Timestamp
  fingerprint : String
  /-- The paths of the included templates, a template before those it includes. -/
  includes : List String
  source : String
deriving DecidableEq, Repr

namespace CompiledUnit

/-- The version that units are marked with. -/
def version : String := "1.0.0"

/-- What a fingerprint is the hash of: engine, full class name and the hash of the
source. -/
def fingerprintText (engine fullClassName source : String) : String :=
  engine ++ ":" ++ fullClassName ++ ":" ++ Digest.sha256HexOfText source

/-- The fingerprint of a unit. -/
def fingerprintOf (engine fullClassName source : String) : String :=
  Digest.sha256HexOfText (fingerprintText engine fullClassName source)

end CompiledUnit

/-- What sets one compilation apart from another of the same template. -/
structure Stamp where
  id : String
  createdAt : Timestamp
deriving DecidableEq, Repr

namespace Compiler

variable {m : Type → Type} [Monad m]

/-- The unit of a parsed template. -/
def unitOf (compiler : Compiler m) (stamp : Stamp) (tree : IncludeTree) : CompiledUnit :=
  let source := compiler.render tree
  let template := tree.template
  { id := stamp.id
    engine := compiler.emitter.name
    engineVersion := CompiledUnit.version
    moduleName := template.moduleName
    className := template.className
    templatePath := template.settings.path
    createdAt := stamp.createdAt
    fingerprint :=
      CompiledUnit.fingerprintOf compiler.emitter.name template.fullClassName source
    includes := tree.includedPaths
    source := source }

/-- Compiles a template text. -/
def compile (compiler : Compiler m) (stamp : Stamp) (source : String) (settings : Settings) :
    m (Except ParseError CompiledUnit) := do
  return (← compiler.parse source settings).map (compiler.unitOf stamp)

/-- Compiles a template file. -/
def compileFile (compiler : Compiler m) (stamp : Stamp) (path : String) :
    m (Except ParseError CompiledUnit) := do
  return (← compiler.parseFile path).map (compiler.unitOf stamp)

end Compiler

end TemplateCompiler
