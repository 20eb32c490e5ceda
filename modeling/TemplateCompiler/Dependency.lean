import TemplateCompiler.Text.Trim

/-! # Dependency declarations

A block of dependency declarations is text, one or more declarations to a line. A
`DependencyRule` says how a language spells them: `DependencyRule.declarations` reads a
block, without the keyword and without repetitions, `DependencyRule.render` writes one,
and `DependencyRule.merge` folds two blocks into one.
-/

namespace TemplateCompiler

/-- Why a block of declarations was refused. -/
inductive DependencyError where
  /-- A declaration is the keyword alone. -/
  | missingTarget (declaration : String)
deriving DecidableEq, Repr

/-- The text of the error. -/
def DependencyError.message : DependencyError → String
  | missingTarget declaration => "dependency declaration '" ++ declaration ++ "' names nothing"

/-- How a language spells dependency declarations. -/
structure DependencyRule where
  keyword : String
  /-- What ends a declaration; empty where the end of the line does. -/
  separator : String
  /-- Whether ASCII capitals count as small letters in the keyword. -/
  ignoresCase : Bool := false
  /-- Whether blanks around the `=` of an alias are dropped. -/
  normalizesAliases : Bool := false
deriving DecidableEq, Repr

/-- A declaration without blanks around its first `=`. One without `=` is left as it
is. -/
def normalizeAlias (declaration : String) : String :=
  let cs := declaration.toList
  match cs.dropWhile (· != '=') with
  | [] => declaration
  | _ :: target =>
    Text.trim (String.ofList (cs.takeWhile (· != '='))) ++ "=" ++ Text.trim (String.ofList target)

namespace DependencyRule

/-- The characters of the keyword with which a text begins, and the rest of the text. The
keyword has to end where a character ends. -/
def afterKeyword? (rule : DependencyRule) (declaration : List Char) : Option (List Char) :=
  let length := rule.keyword.toList.length
  let head := declaration.take length
  let fits :=
    if rule.ignoresCase then head.map Char.toLower == rule.keyword.toList.map Char.toLower
    else head == rule.keyword.toList
  if fits then some (declaration.drop length) else none

/-- A declaration without its keyword. The keyword only counts with a blank behind it; a
declaration that is the keyword alone names nothing. -/
def strip (rule : DependencyRule) (declaration : String) : Except DependencyError String :=
  match rule.afterKeyword? declaration.toList with
  | none => .ok declaration
  | some [] => .error (.missingTarget declaration)
  | some (c :: rest) =>
    if Text.isBlank c then .ok (Text.trim (String.ofList (c :: rest))) else .ok declaration

/-- The written declarations of a block: the pieces of its lines that are not blank. -/
def pieces (rule : DependencyRule) (block : String) : List String :=
  ((Text.lines block).flatMap (Text.splitOn rule.separator)).map Text.trim
    |>.filter fun piece => !piece.isEmpty

/-- The canonical spelling of a declaration without its keyword. -/
def canonical (rule : DependencyRule) (declaration : String) : String :=
  if rule.normalizesAliases then normalizeAlias declaration else declaration

/-- A list of declarations with more added at its end, those it has already left out. -/
def insertAll (declarations new : List String) : List String :=
  new.foldl (fun kept d => if kept.contains d then kept else kept ++ [d]) declarations

/-- The declarations of a block in order of appearance, each once. -/
def declarations (rule : DependencyRule) (block : String) :
    Except DependencyError (List String) := do
  let stripped ← (rule.pieces block).mapM rule.strip
  return insertAll [] (stripped.map rule.canonical)

/-- A declaration as the language spells it. -/
def renderOne (rule : DependencyRule) (declaration : String) : String :=
  rule.keyword ++ " " ++ declaration ++ rule.separator

/-- A block with a line for each declaration. -/
def render (rule : DependencyRule) (declarations : List String) : String :=
  Text.join "\n" (declarations.map rule.renderOne)

/-- One block for two: the declarations of the first, then those that only the second
has. -/
def merge (rule : DependencyRule) (current new : String) : Except DependencyError String := do
  let first ← rule.declarations current
  let second ← rule.declarations new
  return rule.render (insertAll first second)

end DependencyRule

end TemplateCompiler
