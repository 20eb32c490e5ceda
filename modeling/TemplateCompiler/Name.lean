import TemplateCompiler.Directive.Family
import TemplateCompiler.Grammar

/-! # Names of templates

A template has a class, a module and an engine name, each in a `NameSlot` that can be
declared once. Module and class together are the template's `Identity`.
-/

namespace TemplateCompiler

/-- Why a name was refused. -/
inductive NameError where
  /-- The grammar does not accept the name. -/
  | invalidIdentifier (kind : NameKind) (name : String)
  /-- Another name has been declared already. -/
  | conflict (kind : NameKind) (existing given : String)
deriving DecidableEq, Repr

/-- The text of the error. -/
def NameError.message : NameError → String
  | invalidIdentifier kind name => kind.label ++ " name '" ++ name ++ "' is invalid"
  | conflict kind existing given =>
      kind.label ++ " name mismatch: already '" ++ existing ++ "', cannot become '" ++ given ++ "'"

/-- A name that can be declared once. -/
inductive NameSlot where
  | unset
  /-- A name that stands in until one is declared. -/
  | generated (name : String)
  /-- A declared name. -/
  | explicit (name : String)
deriving DecidableEq, Repr

namespace NameSlot

/-- The name in the slot. -/
def value? : NameSlot → Option String
  | unset => none
  | generated name => some name
  | explicit name => some name

/-- The name in the slot, empty where there is none. -/
def value (slot : NameSlot) : String := slot.value?.getD ""

/-- Whether the name has been declared. -/
def isExplicit : NameSlot → Bool
  | explicit _ => true
  | _ => false

/-- Declares a name. The name that has been declared already can be declared again, any
other cannot. -/
def declare (slot : NameSlot) (kind : NameKind) (name : String) : Except NameError NameSlot :=
  match slot with
  | explicit existing =>
    if existing = name then .ok slot else .error (.conflict kind existing name)
  | _ => .ok (explicit name)

@[simp] theorem value_explicit (name : String) : (explicit name).value = name := rfl

@[simp] theorem value_generated (name : String) : (generated name).value = name := rfl

/-- After a declaration the slot holds exactly the declared name. -/
theorem eq_explicit_of_declare {slot slot' : NameSlot} {kind : NameKind} {name : String}
    (h : slot.declare kind name = .ok slot') : slot' = explicit name := by
  cases slot with
  | unset => simpa [declare, eq_comm] using h
  | generated _ => simpa [declare, eq_comm] using h
  | explicit existing =>
      by_cases same : existing = name
      · simpa [declare, same, eq_comm] using h
      · simp [declare, same] at h

end NameSlot

/-- Module and class of a template. -/
structure Identity where
  moduleName : String
  className : String
deriving DecidableEq, Repr

/-- The identity as one dotted name; the class alone where the module is empty. -/
def Identity.text (identity : Identity) : String :=
  if identity.moduleName.isEmpty then identity.className
  else identity.moduleName ++ "." ++ identity.className

end TemplateCompiler
