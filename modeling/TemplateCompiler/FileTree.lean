import TemplateCompiler.Loader

/-! # Trees of files

A file system as a value: files of bytes in nested directories. Paths are looked up from
the directory at the top of the tree, one segment after the other; every segment but the
last has to lead to a directory, and `..` leads back. What lies outside the tree is a
directory without known entries.
-/

namespace TemplateCompiler

/-- Files and directories by name. -/
inductive FileTree where
  | file (bytes : ByteArray)
  | directory (entries : List (String × FileTree))

/-- Why a file cannot be read. -/
inductive FileError where
  | notFound
  | notDirectory
  | isDirectory
  | nameTooLong
  | notText
deriving DecidableEq, Repr

/-- The text of the error. -/
def FileError.message : FileError → String
  | notFound => "No such file or directory (os error 2)"
  | notDirectory => "Not a directory (os error 20)"
  | isDirectory => "Is a directory (os error 21)"
  | nameTooLong => "File name too long (os error 36)"
  | notText => "stream did not contain valid UTF-8"

namespace FileTree

/-- The tree without files. -/
def empty : FileTree := .directory []

/-- The entry of a directory with a given name. -/
def child? : FileTree → String → Option FileTree
  | file _, _ => none
  | directory entries, name => entries.lookup name

/-- The tree with a file below nested directories, which are made where they are
missing. -/
def insert (tree : FileTree) (bytes : ByteArray) : List String → FileTree
  | [] => file bytes
  | name :: rest =>
    let entries :=
      match tree with
      | directory entries => entries
      | file _ => []
    let inner := ((tree.child? name).getD empty).insert bytes rest
    directory ((name, inner) :: entries.filter fun entry => entry.1 != name)

/-- The tree with a file at a path. -/
def write (tree : FileTree) (path : String) (bytes : ByteArray) : FileTree :=
  tree.insert bytes <| (Path.components path).filterMap fun
    | .name text => some (String.ofList text)
    | _ => none

/-- A place that a path leads to. -/
inductive Spot where
  /-- An entry of the tree, with the directories above it, the nearest first. -/
  | inside (entry : FileTree) (above : List FileTree)
  | outside

/-- The place that one more segment leads to. -/
def Spot.step (spot : Spot) (segment : String) : Except FileError Spot :=
  match spot with
  | outside =>
    if segment = "" ∨ segment = "." ∨ segment = ".." then .ok outside else .error .notFound
  | inside (file _) _ => .error .notDirectory
  | inside (directory entries) above =>
    if segment = "" ∨ segment = "." then .ok spot
    else if segment = ".." then
      match above with
      | [] => .ok outside
      | parent :: above => .ok (inside parent above)
    else if segment.utf8ByteSize > 255 then .error .nameTooLong
    else
      match entries.lookup segment with
      | some entry => .ok (inside entry (directory entries :: above))
      | none => .error .notFound

/-- The place that a path leads to from the top of the tree. -/
def locate (tree : FileTree) (path : String) : Except FileError Spot :=
  if path.isEmpty then .error .notFound
  else
    let start := if Path.isAbsolute path then .outside else .inside tree []
    ((Path.segments path).map String.ofList).foldlM Spot.step start

/-- Whether a path leads to a file. -/
def isFile (tree : FileTree) (path : String) : Bool :=
  match tree.locate path with
  | .ok (.inside (file _) _) => true
  | _ => false

/-- Whether a path leads to a directory. -/
def isDirectory (tree : FileTree) (path : String) : Bool :=
  match tree.locate path with
  | .ok (.inside (file _) _) => false
  | .ok _ => true
  | .error _ => false

/-- The text of the file that a path leads to. -/
def readText (tree : FileTree) (path : String) : Except FileError String :=
  match tree.locate path with
  | .ok (.inside (file bytes) _) =>
    match String.fromUTF8? bytes with
    | some text => .ok text
    | none => .error .notText
  | .ok _ => .error .isDirectory
  | .error cause => .error cause

/-- The tree as a loader. -/
def loader (tree : FileTree) : Loader Id where
  isFile path := tree.isFile path
  isDirectory path := tree.isDirectory path
  read path := (tree.readText path).mapError FileError.message

end FileTree

end TemplateCompiler
