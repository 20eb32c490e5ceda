import TemplateCompiler.Draft

/-! # The engine that a template declares

`declaredEngine` reads a template up to its first engine declaration, without being bound
to a target: nothing is written, includes are passed over, and module names follow the
usual grammar.
-/

namespace TemplateCompiler

/-- The writer that writes nothing. -/
def Writer.silent : Writer where
  skipsLineBreaks := true
  literal _ := ""
  value _ := ""
  transform _ _ := ""

/-- Reads the rest of a text up to an engine declaration. -/
def Draft.findEngine : Draft → List Char → Except ParseError (Option String)
  | draft, [] => do return (← draft.finish Writer.silent).template.engineName?
  | draft, c :: rest =>
    match draft.step Writer.silent [] c with
    | .error cause => .error cause
    | .ok (_, .engine name) => .ok (some name)
    | .ok (draft, _) => draft.findEngine rest

/-- The template that an engine declaration is looked for in. -/
def undeclaredTemplate : Template :=
  Template.empty { path := ".", root := ".", isLocal := true, isInclude := false } .dotted none ""

/-- The engine that a template declares first; none where it declares no engine. -/
def declaredEngine (source : String) : Except ParseError (Option String) :=
  (Draft.start undeclaredTemplate).findEngine source.toList

end TemplateCompiler
