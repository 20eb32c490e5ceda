import TemplateCompiler.Path.Basic

/-! # Where a template comes from

The settings of a template are fixed when it is created: its path below an include root,
the root itself, and whether it is included by another template.
-/

namespace TemplateCompiler

/-- How a template was located. -/
structure Settings where
  /-- The path below the root. -/
  path : String
  /-- The include root that the path is relative to. -/
  root : String
  /-- False for templates that come from the library. -/
  isLocal : Bool
  isInclude : Bool
deriving DecidableEq, Repr

namespace Settings

/-- The settings of a template file that is not included: its directory is the root. -/
def forFile (file : String) : Settings where
  path := (Path.fileName? file).getD "."
  root :=
    match Path.parent? file with
    | some directory => if directory.isEmpty then "." else directory
    | none => "."
  isLocal := true
  isInclude := false

end Settings

end TemplateCompiler
