import TemplateCompiler.Fragment
import TemplateCompiler.Name
import TemplateCompiler.Settings

/-! # Templates

A `Template` is what one template text says: its names, dependencies, external code and
fragments. An `IncludeTree` is a template together with the templates it includes, in
the order of their directives. `IncludeTree.templates` lists a tree before its included
trees, from left to right.
-/

namespace TemplateCompiler

/-- What one template text says. -/
structure Template where
  moduleSlot : NameSlot
  classSlot : NameSlot
  engineSlot : NameSlot
  /-- The rule for the module name. -/
  moduleGrammar : Grammar
  /-- Dependency declarations, one or more to a line. -/
  dependencies : String
  /-- Code that stands beside the generated class. -/
  externalCode : String
  /-- Fragments of the generated render method. -/
  body : FragmentStream
  /-- Fragments that stand beside the generated render method. -/
  functions : FragmentStream
  settings : Settings
deriving DecidableEq, Repr

namespace Template

/-- The module name that stands in for an id until one is declared. -/
def generatedModule (id : String) : String := "BladeModule" ++ id

/-- The class name that stands in for an id until one is declared. -/
def generatedClass (id : String) : String := "BladeTemplate" ++ id

/-- An empty template. A namespace stands in for the module name until one is declared;
without one, the module name is generated from the id, as the class name is. -/
def empty (settings : Settings) (moduleGrammar : Grammar) (defaultModule? : Option String)
    (id : String) : Template where
  moduleSlot := .generated (defaultModule?.getD (generatedModule id))
  classSlot := .generated (generatedClass id)
  engineSlot := .unset
  moduleGrammar := moduleGrammar
  dependencies := ""
  externalCode := ""
  body := []
  functions := []
  settings := settings

/-- The module name in force. -/
def moduleName (template : Template) : String := template.moduleSlot.value

/-- The class name in force. -/
def className (template : Template) : String := template.classSlot.value

/-- The engine the template is bound to. -/
def engineName? (template : Template) : Option String := template.engineSlot.value?

/-- Module and class in force. -/
def identity (template : Template) : Identity := ⟨template.moduleName, template.className⟩

/-- Module and class in force as one dotted name. -/
def fullClassName (template : Template) : String := template.identity.text

/-- Declares the class name. -/
def declareClass (template : Template) (name : String) : Except NameError Template :=
  if Grammar.plain.accepts name then do
    let slot ← template.classSlot.declare .className name
    return { template with classSlot := slot }
  else .error (.invalidIdentifier .className name)

/-- Declares the module name. -/
def declareModule (template : Template) (name : String) : Except NameError Template :=
  if template.moduleGrammar.accepts name then do
    let slot ← template.moduleSlot.declare .moduleName name
    return { template with moduleSlot := slot }
  else .error (.invalidIdentifier .moduleName name)

/-- Binds the template to an engine, or confirms the one it is bound to. -/
def declareEngine (template : Template) (name : String) : Except NameError Template :=
  if Grammar.plain.accepts name then do
    let slot ← template.engineSlot.declare .engineName name
    return { template with engineSlot := slot }
  else .error (.invalidIdentifier .engineName name)

/-- Declares a name of any kind. -/
def declare (template : Template) : NameKind → String → Except NameError Template
  | .className, name => template.declareClass name
  | .moduleName, name => template.declareModule name
  | .engineName, name => template.declareEngine name

/-- The template with a dependency line added. -/
def addDependency (template : Template) (declaration : String) : Template :=
  { template with dependencies := Text.addLine template.dependencies declaration }

/-- The template with external code added. -/
def addExternalCode (template : Template) (code : String) : Template :=
  { template with externalCode := Text.addLine template.externalCode code }

/-- The template with a fragment at the end of its body. -/
def addToBody (template : Template) (fragment : Fragment) : Template :=
  { template with body := template.body ++ [fragment] }

/-- The template with a fragment at the end of its functions. -/
def addToFunctions (template : Template) (fragment : Fragment) : Template :=
  { template with functions := template.functions ++ [fragment] }

/-- The dependency lines that are not blank, without blanks around them. -/
def dependencyLines (template : Template) : List String :=
  ((Text.lines template.dependencies).map Text.trim).filter fun line => !line.isEmpty

/-- Whether the body or the functions generate more than blanks. -/
def hasContent (template : Template) : Bool :=
  template.body.hasContent || template.functions.hasContent

end Template

/-- A template with the templates it includes, in document order. -/
structure IncludeTree where
  template : Template
  included : List IncludeTree

namespace IncludeTree

mutual

/-- The template of a tree, then those of its included trees from left to right. -/
def templates : IncludeTree → List Template
  | ⟨template, included⟩ => template :: forestTemplates included

/-- The templates of several trees, one tree after the other. -/
def forestTemplates : List IncludeTree → List Template
  | [] => []
  | tree :: rest => tree.templates ++ forestTemplates rest

end

/-- The templates included anywhere in a tree. -/
def includedTemplates (tree : IncludeTree) : List Template := forestTemplates tree.included

/-- How many templates a tree has. -/
def size (tree : IncludeTree) : Nat := tree.templates.length

/-- The identities of a tree, a template before those it includes. -/
def identities (tree : IncludeTree) : List Identity := tree.templates.map Template.identity

/-- Whether a template included anywhere in a tree has an identity. -/
def containsIdentity (tree : IncludeTree) (identity : Identity) : Bool :=
  tree.includedTemplates.any fun template => template.identity == identity

/-- The paths of the included templates, a template before those it includes. -/
def includedPaths (tree : IncludeTree) : List String :=
  tree.includedTemplates.map fun template => template.settings.path

/-- The tree with one more included tree at the end. -/
def addIncluded (tree child : IncludeTree) : IncludeTree :=
  { tree with included := tree.included ++ [child] }

theorem forestTemplates_eq (forest : List IncludeTree) :
    forestTemplates forest = forest.flatMap templates := by
  induction forest with
  | nil => rfl
  | cons tree rest ih => simp [forestTemplates, ih]

theorem forestTemplates_append (left right : List IncludeTree) :
    forestTemplates (left ++ right) = forestTemplates left ++ forestTemplates right := by
  simp [forestTemplates_eq]

theorem templates_eq (tree : IncludeTree) :
    tree.templates = tree.template :: tree.includedTemplates := by
  cases tree
  rfl

theorem templates_addIncluded (tree child : IncludeTree) :
    (tree.addIncluded child).templates = tree.templates ++ child.templates := by
  simp [templates_eq, includedTemplates, addIncluded, forestTemplates_eq]

end IncludeTree

end TemplateCompiler
