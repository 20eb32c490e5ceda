import TemplateCompiler.Draft
import TemplateCompiler.IncludeTarget

/-! # Parsing templates

A `Compiler` joins an emitter with a loader and a supply of ids for generated names.
`Compiler.parse` reads a template and, at each include directive, the template that it
includes; the depth of includes is bounded, so parsing ends for every loader, also where
files include each other.
-/

namespace TemplateCompiler

/-- The templates read, with an included tree folded into them. No identity of the
included tree may stand in the including one or among the ancestors. -/
def IncludeTree.adopt (emitter : Emitter) (ancestors : List Identity) (parent child : IncludeTree)
    (location : Location) : Except ParseError IncludeTree :=
  let taken := parent.identities ++ ancestors
  match child.identities.find? fun identity => identity ∈ taken with
  | some identity => .error (.classAlreadyIncluded identity location)
  | none =>
    match emitter.absorb parent.template child.template with
    | .error cause =>
      .error (.mergeDependencies child.template.settings.path cause location)
    | .ok template => .ok ({ parent with template := template }.addIncluded child)

namespace Draft

/-- Reads the rest of a text, with a way to include the template at a path. -/
def run {m : Type → Type} [Monad m] (writer : Writer) (ancestors : List Identity)
    (compose : IncludeTree → String → Location → m (Except ParseError IncludeTree)) :
    Draft → List Char → m (Except ParseError IncludeTree)
  | draft, [] => pure (draft.finish writer)
  | draft, c :: rest =>
    match draft.step writer ancestors c with
    | .error cause => pure (.error cause)
    | .ok (draft, .inclusion path) => do
      match ← compose draft.tree path draft.tagStart with
      | .error cause => return .error cause
      | .ok tree => run writer ancestors compose { draft with tree := tree } rest
    | .ok (draft, _) => run writer ancestors compose draft rest

end Draft

/-- An emitter, a loader and a supply of ids for generated names. -/
structure Compiler (m : Type → Type) where
  emitter : Emitter
  loader : Loader m
  /-- The id of the template that is created after so many others. -/
  ids : Nat → String

namespace Compiler

variable {m : Type → Type} [Monad m]

/-- A new template, bound to the engine and prepared by it. -/
def newTemplate (compiler : Compiler m) (settings : Settings) (id : String) :
    Except ParseError Template :=
  let emitter := compiler.emitter
  let template := Template.empty settings emitter.moduleGrammar emitter.config.defaultModule? id
  match template.declareEngine emitter.name with
  | .error cause => .error (.naming cause ⟨0, 0⟩)
  | .ok template => .ok (emitter.prepare template)

/-- A way to parse a text: the number of templates created before, the identities of the
templates around it, its settings and the text. -/
abbrev ParseText (m : Type → Type) :=
  Nat → List Identity → Settings → String → m (Except ParseError IncludeTree)

/-- Includes the template that an include directive points to. Where there is no way to
parse it, the bound on the depth of includes has been reached. -/
def incorporate (compiler : Compiler m) (parse? : Option (ParseText m)) (created : Nat)
    (ancestors : List Identity) (parent : IncludeTree) (location : Location) :
    Except ParseError IncludeTarget → m (Except ParseError IncludeTree)
  | .error cause => return .error cause
  | .ok target => do
    let path := target.settings.path
    match parse? with
    | none =>
      return .error (.includeDepthExceeded path compiler.emitter.config.maxIncludeDepth location)
    | some parse =>
      match ← compiler.loader.read target.file with
      | .error reason => return .error (.includeUnreadable path reason location)
      | .ok text =>
        let lineage := ancestors ++ [parent.template.identity]
        match ← parse (created + parent.size) lineage target.settings text with
        | .error cause => return .error (.includeParse path cause location)
        | .ok child => return parent.adopt compiler.emitter ancestors child location

/-- Includes the template at a quoted path. -/
def compose (compiler : Compiler m) (parse? : Option (ParseText m)) (created : Nat)
    (ancestors : List Identity) (parent : IncludeTree) (raw : String) (location : Location) :
    m (Except ParseError IncludeTree) := do
  let target ← IncludeTarget.resolve compiler.loader compiler.emitter.config
    parent.template.settings raw location
  compiler.incorporate parse? created ancestors parent location target

/-- Parses a text with includes composed in a given way. -/
def parseWith (compiler : Compiler m) (parse? : Option (ParseText m)) : ParseText m :=
  fun created ancestors settings source =>
    match compiler.newTemplate settings (compiler.ids created) with
    | .error cause => pure (.error cause)
    | .ok template =>
      Draft.run compiler.emitter.writer ancestors (compiler.compose parse? created ancestors)
        (Draft.start template) source.toList

/-- Parses a text below which there may be so many levels of includes. -/
def parseWithin (compiler : Compiler m) : (depth : Nat) → ParseText m
  | 0 => compiler.parseWith none
  | depth + 1 => compiler.parseWith (some (compiler.parseWithin depth))

/-- Parses a template that is not included by another. -/
def parse (compiler : Compiler m) (source : String) (settings : Settings) :
    m (Except ParseError IncludeTree) :=
  compiler.parseWithin compiler.emitter.config.maxIncludeDepth 0 [] settings source

/-- Parses a template file. Its directory becomes the root of its includes. -/
def parseFile (compiler : Compiler m) (path : String) : m (Except ParseError IncludeTree) := do
  match ← compiler.loader.read path with
  | .error reason => return .error (.templateUnreadable path reason)
  | .ok source => compiler.parse source (Settings.forFile path)

/-- A parsed template as one unit of source code. -/
def render (compiler : Compiler m) (tree : IncludeTree) : String :=
  compiler.emitter.renderUnit tree.template

end Compiler

end TemplateCompiler
