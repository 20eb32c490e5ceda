import TemplateCompiler.Text.Trim

/-! # Paths

A path is a text, read as components between slashes. Two paths name the same place when
their components are equal: slashes in a row, a slash at the end and a `.` inside do not
count, a `.` at the start does, and `..` is a component like any other.
-/

namespace TemplateCompiler.Path

/-- A component of a path. -/
inductive Component where
  /-- The slash at the start of an absolute path. -/
  | root
  /-- A `.` at the start. -/
  | current
  /-- A `..`. -/
  | parent
  /-- Any other name. -/
  | name (text : List Char)
deriving DecidableEq, Repr

/-- A path that starts at the root. -/
def isAbsolute (path : String) : Bool := path.toList.head? == some '/'

/-- The texts between the slashes of a path. -/
def segments (path : String) : List (List Char) := Text.split (· == '/') path.toList

/-- The component that a segment behind the start of a path stands for. -/
def component? (segment : List Char) : Option Component :=
  if segment = [] ∨ segment = ['.'] then none
  else if segment = ['.', '.'] then some .parent
  else some (.name segment)

/-- The components of a path. -/
def components (path : String) : List Component :=
  let inner := (segments path).filterMap component?
  if isAbsolute path then .root :: inner
  else if (segments path).head? = some ['.'] then .current :: inner
  else inner

/-- Whether two paths name the same place. -/
def same (left right : String) : Bool := components left == components right

/-- Whether a path lies in the directory of another, or is that directory. -/
def isWithin (path directory : String) : Bool :=
  (components directory).isPrefixOf (components path)

/-- The path `relative` seen from `base`. An absolute path replaces the base. -/
def join (base relative : String) : String :=
  if isAbsolute relative then relative
  else if base.isEmpty ∨ base.toList.getLast? = some '/' then base ++ relative
  else base ++ "/" ++ relative

/-- A path in two parts: the root slash or the `.` at its start, and the segments of the
rest. -/
def parts (path : String) : List Char × List (List Char) :=
  match path.toList with
  | '/' :: rest => (['/'], Text.split (· == '/') rest)
  | '.' :: '/' :: rest => (['.'], Text.split (· == '/') ('/' :: rest))
  | ['.'] => (['.'], [])
  | cs => ([], Text.split (· == '/') cs)

/-- Segments without those at the end that are no components. -/
def dropIdle (segments : List (List Char)) : List (List Char) :=
  (segments.reverse.dropWhile fun segment => (component? segment).isNone).reverse

/-- The characters of segments with slashes between them. -/
def joinSegments (segments : List (List Char)) : List Char := ['/'].intercalate segments

/-- The path without its last component; none where there is no component to drop, or
the only one is the root. -/
def parent? (path : String) : Option String :=
  let (start, inner) := parts path
  match dropIdle inner with
  | [] => if start = ['.'] then some "" else none
  | kept => some (String.ofList (start ++ joinSegments (dropIdle kept.dropLast)))

/-- The last component of a path where it is a name. -/
def fileName? (path : String) : Option String :=
  match (components path).getLast? with
  | some (.name text) => some (String.ofList text)
  | _ => none

end TemplateCompiler.Path
