import TemplateCompiler.Text.Trim
import TemplateCompiler.Transform

/-! # Fragments of generated code

A template body is a list of fragments in document order. A fragment keeps the text it
was written as and the code that was generated for it.
-/

namespace TemplateCompiler

/-- What a fragment stands for in the template. -/
inductive FragmentKind where
  | literal
  | value
  | transform (transform : Transform)
  | code
deriving DecidableEq, Repr

/-- A piece of generated code with the text it stands for. -/
structure Fragment where
  kind : FragmentKind
  /-- The text as written in the template. -/
  source : String
  /-- The code generated for it. -/
  code : String
deriving DecidableEq, Repr

/-- Fragments in document order. -/
abbrev FragmentStream := List Fragment

namespace FragmentStream

/-- The generated code of all fragments. -/
def code (stream : FragmentStream) : String := String.join (stream.map Fragment.code)

/-- Whether any generated code is more than blanks. -/
def hasContent (stream : FragmentStream) : Bool :=
  stream.any fun fragment => !Text.isBlankText fragment.code

end FragmentStream

end TemplateCompiler
