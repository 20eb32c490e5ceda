import TemplateCompiler.Path.Basic

/-! # Normal form of include paths

Include paths are separated by slashes or backslashes. Their normal form has slashes
only, no `.` and no empty segment but one at the start of a rooted path, and no `..`
except, where walking out is allowed, at the start. `refine` computes it with a stack
of the segments kept so far.
-/

namespace TemplateCompiler.Path

/-- Why a path has no normal form. -/
inductive PathError where
  /-- The path walks out of the place it starts at. -/
  | underflow (path : String)
deriving DecidableEq, Repr

/-- The text of the error. -/
def PathError.message : PathError → String
  | underflow path => "path '" ++ path ++ "' surpasses root in going back"

/-- Slash and backslash. -/
def isSeparator (c : Char) : Bool := c == '/' || c == '\\'

/-- A segment that stays where it is: a dot, blanks around it allowed. -/
def isDot (segment : List Char) : Bool := Text.dropEnds Text.isBlank segment == ['.']

/-- The stack, latest segment first, after a `..`: the latest segment is dropped. Where
there is none to drop, walking out keeps the `..`, in place of a root marker. -/
def stepBack? (allowEscape : Bool) : List (List Char) → Option (List (List Char))
  | [] => if allowEscape then some [['.', '.']] else none
  | top :: below =>
    if top = ['.', '.'] then if allowEscape then some (['.', '.'] :: top :: below) else none
    else if top = [] then if allowEscape then some (['.', '.'] :: below) else none
    else some below

/-- The stack after the segments behind the first. -/
def walk? (allowEscape : Bool) (stack : List (List Char)) :
    List (List Char) → Option (List (List Char))
  | [] => some stack
  | segment :: rest =>
    if segment = ['.', '.'] then (stepBack? allowEscape stack).bind (walk? allowEscape · rest)
    else if segment = [] ∨ isDot segment then walk? allowEscape stack rest
    else walk? allowEscape (segment :: stack) rest

/-- The segments of the normal form. An empty segment at the start is the root marker. -/
def normalSegments? (allowEscape : Bool) (path : String) : Option (List (List Char)) :=
  let stack? :=
    match Text.split isSeparator path.toList with
    | [] :: rest => walk? allowEscape [[]] rest
    | segments => walk? allowEscape [] segments
  stack?.map List.reverse

/-- The text of a normal form; the root marker alone is the root. -/
def textOfSegments (segments : List (List Char)) : String :=
  if segments = [[]] then "/" else String.ofList (joinSegments segments)

/-- The normal form of a path. Walking out of the start keeps `..` segments at the start
where that is allowed, and is an error otherwise. -/
def refine (path : String) (allowEscape : Bool) : Except PathError String :=
  match normalSegments? allowEscape path with
  | some segments => .ok (textOfSegments segments)
  | none => .error (.underflow path)

/-- The normal form of a path that has to stay inside its root. -/
def normalize (path : String) : Except PathError String := refine path false

/-- The directory part of an include path: the text before its last separator. -/
def directory (path : String) : String :=
  String.ofList ((path.toList.reverse.dropWhile (!isSeparator ·)).drop 1).reverse

/-- A path that names a place without regard to where it is used: one that starts with a
separator or has a colon in it. -/
def isRooted (path : String) : Bool :=
  path.toList.head?.any isSeparator || path.toList.contains ':'

end TemplateCompiler.Path
