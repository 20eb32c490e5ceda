import TemplateCompiler.Config
import TemplateCompiler.Error
import TemplateCompiler.Loader
import TemplateCompiler.Path.Normal
import TemplateCompiler.Settings

/-! # What an include directive points to

The quoted path of an include is taken from the library root where it begins with a
tilde, and from the directory of the including template otherwise. Its normal form must
not leave the root. It names a file, a file with the usual extension, or a directory
with an index file.
-/

namespace TemplateCompiler

/-- What an include directive points to. -/
structure IncludeTarget where
  /-- The settings of the included template. -/
  settings : Settings
  /-- The path that its text is read from. -/
  file : String
deriving DecidableEq, Repr

namespace IncludeTarget

/-- Where an include path starts, before its file is looked for. -/
structure Base where
  root : String
  /-- The path below the root, not in normal form. -/
  relative : String
  isLocal : Bool
deriving DecidableEq, Repr

/-- Where the include path `raw`, without blanks around it, starts. -/
def base (config : Config) (including : Settings) (raw : String) (location : Location) :
    Except ParseError Base :=
  match raw.toList with
  | '~' :: rest =>
    match config.libraryRoot? with
    | none => .error (.libraryRootMissing raw location)
    | some root => .ok ⟨root, String.ofList (rest.dropWhile Path.isSeparator), false⟩
  | _ =>
    if Path.isRooted raw then .error (.rootedInclude raw location)
    else
      let directory := Path.directory including.path
      let relative :=
        if directory = "" ∨ directory = "." then raw else directory ++ "/" ++ raw
      .ok ⟨including.root, relative, including.isLocal⟩

/-- The root of an include and the normal form of its path. -/
def normalized (config : Config) (including : Settings) (raw : String) (location : Location) :
    Except ParseError Base :=
  let raw := Text.trim raw
  if raw.isEmpty then .error (.includePathEmpty location)
  else do
    let base ← base config including raw location
    match Path.normalize base.relative with
    | .error _ => .error (.includePathUnderflow raw location)
    | .ok relative =>
      if relative.isEmpty then .error (.includePathEmpty location)
      else .ok { base with relative := relative }

/-- The path of the file that a path below a root stands for: the path itself, with the
extension, or the index file of the directory. -/
def findFile {m : Type → Type} [Monad m] (loader : Loader m) (config : Config)
    (root relative : String) : m (Option String) := do
  if ← loader.isFile (Path.join root relative) then return some relative
  let extended := relative ++ config.templateExtension
  if ← loader.isFile (Path.join root extended) then return some extended
  if ← loader.isDirectory (Path.join root relative) then
    let index := relative ++ "/" ++ config.indexFile
    if ← loader.isFile (Path.join root index) then return some index
  return none

/-- What the quoted path `raw` of an include directive points to. -/
def resolve {m : Type → Type} [Monad m] (loader : Loader m) (config : Config)
    (including : Settings) (raw : String) (location : Location) :
    m (Except ParseError IncludeTarget) := do
  match normalized config including raw location with
  | .error cause => return .error cause
  | .ok base =>
    match ← findFile loader config base.root base.relative with
    | none => return .error (.includeNotFound (Path.join base.root base.relative) location)
    | some path =>
      return .ok {
        settings := { path := path, root := base.root, isLocal := base.isLocal, isInclude := true }
        file := Path.join base.root path }

end IncludeTarget

end TemplateCompiler
