import TemplateCompiler.Directive.Family

/-! # States of reading

Reading a template, one is either in literal text or at some point of a directive.
`State` names these points. A directive body that collects text until its close tag is
a `Region`; a character after `<%` that needs one more character to decide is a
`Sigil`.
-/

namespace TemplateCompiler

/-- A character right after `<%` whose meaning depends on the next one. -/
inductive Sigil where
  /-- `@`: a dependency, a class name or an engine name. -/
  | atSign
  /-- `!`: external code, or a write directive. -/
  | bang
  /-- `#`: an include, or a write directive. -/
  | hash
  /-- `~`: a function block, or a write directive. -/
  | tilde
  /-- `$`: a module name, or a write directive. -/
  | dollar
  /-- A character that stands for a helper when `=` follows. -/
  | write (transform : Transform)
deriving DecidableEq, Repr

/-- The helper that a sigil stands for when `=` follows. -/
def Sigil.transform? : Sigil → Option Transform
  | atSign => none
  | bang => some .fullUrlEncode
  | hash => some .htmlEncode
  | tilde => some .htmlDecode
  | dollar => some .md5
  | write t => some t

/-- A directive body that collects text until its close tag. -/
inductive Region where
  | dependency
  | engineName
  | externalCode
  | comment
  | write
  | transform (transform : Transform)
  | block
  | function
deriving DecidableEq, Repr

namespace Region

/-- The family of the directives with such a body. -/
def family : Region → DirectiveFamily
  | dependency => .dependency
  | engineName => .engineName
  | externalCode => .externalCode
  | comment => .comment
  | write => .write
  | transform t => t.family
  | block => .block
  | function => .function

/-- Whether the body is code, in which a tilde can belong to the close tag. -/
def isCode : Region → Bool
  | block | function => true
  | _ => false

end Region

/-- The points of a template at which reading can be. -/
inductive State where
  /-- In literal text. -/
  | literal
  /-- Behind a `<` of literal text. -/
  | lessThan
  /-- Behind `<%`. -/
  | tagOpen
  /-- Behind a sigil. -/
  | sigil (sigil : Sigil)
  /-- In a directive body. -/
  | scan (region : Region)
  /-- Behind a `%` of a directive body. -/
  | closing (region : Region)
  /-- Behind a `~` of a code body. -/
  | tilde (region : Region)
  /-- Behind a `*` of a comment. -/
  | star
  /-- Behind a `\` of a directive body. -/
  | escape (region : Region)
  /-- Behind a `\%` of a directive body. -/
  | escapePercent (region : Region)
  /-- In a name between backticks. -/
  | name (kind : NameKind)
  /-- Behind the backtick that ends a name. -/
  | nameTick (kind : NameKind)
  /-- Behind the `%` after a name. -/
  | nameClose (kind : NameKind)
  /-- Before the path of an include. -/
  | includeLead
  /-- In the path of an include, which ends at the given quotation mark. -/
  | includePath (mark : Char)
  /-- Behind the path of an include. -/
  | includeAfterPath
  /-- Behind the `%` after the path of an include. -/
  | includeClose
deriving DecidableEq, Repr

namespace State

/-- The family of the directive that is left open when the text ends in a state. -/
def family? : State → Option DirectiveFamily
  | literal => none
  | lessThan | tagOpen | sigil _ => some .tag
  | scan region | closing region | tilde region | escape region | escapePercent region =>
      some region.family
  | star => some .comment
  | name kind | nameTick kind | nameClose kind => some kind.family
  | includeLead | includePath _ | includeAfterPath | includeClose => some .inclusion

end State

/-! ## How messages show a state -/

/-- The sigil as messages show it. -/
def Sigil.label : Sigil → String
  | atSign => "At"
  | bang => "Bang"
  | hash => "Hash"
  | tilde => "Tilde"
  | dollar => "Dollar"
  | write t => "Write(" ++ t.pascalName ++ ")"

/-- The region as messages show it. -/
def Region.label : Region → String
  | dependency => "Dependency"
  | engineName => "EngineName"
  | externalCode => "ExternalCode"
  | comment => "Comment"
  | write => "Write"
  | transform t => "Transform(" ++ t.pascalName ++ ")"
  | block => "Block"
  | function => "Function"

/-- The kind of name as it stands in the label of a state. -/
def NameKind.stateLabel : NameKind → String
  | className => "Class"
  | moduleName => "Module"
  | engineName => "Engine"

/-- The state as messages show it. -/
def State.label : State → String
  | literal => "Start"
  | lessThan => "LessThan"
  | tagOpen => "TagOpen"
  | sigil s => "Sigil(" ++ s.label ++ ")"
  | scan r => "Scan(" ++ r.label ++ ")"
  | closing r => "Closing(" ++ r.label ++ ")"
  | tilde r => "Tilde(" ++ r.label ++ ")"
  | star => "Star"
  | escape r => "Escape(" ++ r.label ++ ")"
  | escapePercent r => "EscapePercent(" ++ r.label ++ ")"
  | name k => "Name(" ++ k.stateLabel ++ ")"
  | nameTick k => "NameTick(" ++ k.stateLabel ++ ")"
  | nameClose k => "NameClose(" ++ k.stateLabel ++ ")"
  | includeLead => "IncludeLead"
  | includePath _ => "IncludePath"
  | includeAfterPath => "IncludeAfterPath"
  | includeClose => "IncludeClose"

end TemplateCompiler
