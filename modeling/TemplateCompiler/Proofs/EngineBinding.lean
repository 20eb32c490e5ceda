import TemplateCompiler.Proofs.EngineDetection
import TemplateCompiler.Proofs.Manifest

/-! # The engine of a tree of includes

A new template is bound to the engine that compiles it, and what is bound stays bound: a directive
that names another engine is refused wherever it stands (`Template.BoundTo.perform`). Included
templates are parsed by the same compiler, so every text that is read for a tree names the engine
of the tree or none (`Compiler.engine_bound_of_parse`).
-/

namespace TemplateCompiler

open Markup
open MonadAttach (CanReturn)

namespace Template

variable {template performed : Template} {directive : Directive} {engine : String}

/-- A template that is bound to an engine. -/
def BoundTo (template : Template) (engine : String) : Prop :=
  template.engineSlot = .explicit engine

/-- **A directive keeps the engine**, and one that names an engine names that one. -/
theorem BoundTo.perform (bound : template.BoundTo engine) (named : directive.IsNamed)
    (result : template.perform directive = .ok performed) :
    performed.BoundTo engine ∧ ∀ name ∈ directive.engine?, name = engine := by
  cases names : directive.engine? with
  | none => exact ⟨(engineSlot_of_perform named names result).trans bound, nofun⟩
  | some name =>
      cases directive with
      | name kind chars => cases names
      | inclusion path => cases names
      | body region tokens =>
          cases region with
          | engineName =>
              have same : engineText? tokens = some name := names
              simp only [Template.perform, same] at result
              obtain ⟨_, free⟩ := exists_declare_iff.mp ⟨performed, result⟩
              have declared : engine ∈ (template.slot .engineName).declared? := by
                rw [slot, bound]
                rfl
              have confirmed : engine = name := free engine declared
              have after : performed.slot .engineName = .explicit name := by
                rw [slot_of_declare result, if_pos rfl]
              subst confirmed
              exact ⟨after, fun other member => (Option.some.inj member).symm⟩
          | _ => cases names

end Template

/-- An engine directive is performed only where the text of its body names an engine. -/
theorem Draft.exists_engine_of_perform {writer : Writer} {ancestors : List Identity}
    {draft : Draft} {s : Section} {tokens : List Token} {done : Draft × Event}
    (directive : s.directive = .body .engineName tokens)
    (performed : draft.perform writer ancestors s = .ok done) :
    ∃ name, Markup.engineText? tokens = some name := by
  cases named : Markup.engineText? tokens with
  | some name => exact ⟨name, rfl⟩
  | none =>
      have collects := pending_atClose writer draft s.literal s.written
        (show Region.engineName ≠ .function by decide) tokens
      have unnamed : engineText? (String.ofList (collected .engineName tokens)) = none := named
      rw [← collects] at unnamed
      simp only [perform, directive, complete, completeEngine, unnamed] at performed
      cases performed

namespace Compiler

variable {m : Type → Type} [Monad m]

section Definitions

variable [MonadAttach m]

/-- A tree is found in another one along include directives, each of which leads to the template
that the next tree is parsed from. -/
inductive Descends (compiler : Compiler m) : IncludeTree → Call → IncludeTree → Call → Prop where
  | refl (tree : IncludeTree) (call : Call) : Descends compiler tree call tree call
  | step {tree child last : IncludeTree} {call inner lastCall : Call} {path : String}
      {location : Location} (directive : (path, location) ∈ inclusions call.source.toList)
      (reaches : compiler.Reaches call path location inner)
      (parsed : CanReturn (compiler.parseCall inner) (.ok child))
      (included : child ∈ tree.included) (deeper : Descends compiler child inner last lastCall) :
      Descends compiler tree call last lastCall

variable {compiler : Compiler m} {call inner lastCall : Call} {tree child last : IncludeTree}

theorem Descends.trans (first : compiler.Descends tree call child inner)
    (second : compiler.Descends child inner last lastCall) :
    compiler.Descends tree call last lastCall := by
  induction first with
  | refl => exact second
  | step directive reaches parsed included _ ih =>
      exact .step directive reaches parsed included (ih second)

/-- What is found in a parsed tree has been parsed. -/
theorem Descends.parsed (descends : compiler.Descends tree call last lastCall)
    (returned : CanReturn (compiler.parseCall call) (.ok tree)) :
    CanReturn (compiler.parseCall lastCall) (.ok last) := by
  induction descends with
  | refl => exact returned
  | step _ _ parsed _ _ ih => exact ih parsed

/-- Every include directive stands for an inner tree. -/
theorem ManifestsAll.exists_of_mem {included : List IncludeTree} {path : String}
    {location : Location} {directives : List (String × Location)}
    (manifests : compiler.ManifestsAll included call directives)
    (directive : (path, location) ∈ directives) :
    ∃ child ∈ included, ∃ inner, compiler.Reaches call path location inner ∧
      CanReturn (compiler.parseCall inner) (.ok child) := by
  induction included generalizing directives with
  | nil =>
      cases manifests
      cases directive
  | cons first rest ih =>
      cases manifests with
      | cons reaches parsed _ behind =>
          rcases List.mem_cons.mp directive with same | later
          · cases same
            exact ⟨first, List.mem_cons_self .., _, reaches, parsed⟩
          · obtain ⟨child, inside, found⟩ := ih behind later
            exact ⟨child, List.mem_cons_of_mem _ inside, found⟩

end Definitions

omit [Monad m] in
/-- All templates of a tree are bound to the engine of the compiler. -/
theorem boundTo_invariant (compiler : Compiler m) : compiler.SectionInvariant fun _ tree =>
    ∀ template ∈ tree.templates, template.BoundTo compiler.emitter.name :=
  .of_templates (fun _ _ => rfl) (fun _ _ _ bound named result => (bound.perform named result).1)
    (fun _ _ _ _ _ bound => bound)

variable [LawfulMonad m] [MonadAttach m] [LawfulMonadAttach m] {compiler : Compiler m}
  {call : Call} {tree : IncludeTree}

/-- A followed section keeps the engine, and an engine directive names that one. -/
theorem boundTo_of_follow {draft next : Draft} {s : Section} {engine : String}
    (bound : draft.tree.template.BoundTo engine) (named : s.directive.IsNamed)
    (followed : CanReturn (compiler.follow call draft s) next) :
    next.tree.template.BoundTo engine ∧ ∀ tokens, s.directive = .body .engineName tokens →
      engineText? tokens = some engine := by
  obtain ⟨template, body, functions, performs, outcome⟩ := Draft.follow_cases followed
  obtain ⟨kept, names⟩ := bound.perform named performs
  constructor
  · rcases outcome with ⟨_, after⟩ | ⟨_, _, composed⟩
    · rw [after]
      exact kept
    · obtain ⟨_, _, _, _, _, _, _, _, adopted⟩ := exists_of_compose composed
      obtain ⟨_, _, _, whole⟩ := IncludeTree.adopt_eq_ok adopted
      rw [whole]
      exact kept
  · intro tokens directive
    obtain ⟨_, performed, _⟩ := Draft.exists_of_canReturn_follow followed
    obtain ⟨name, text⟩ := Draft.exists_engine_of_perform directive performed
    rw [directive] at names
    rw [text, names name text]

/-- **The engine directives of a text that is parsed** name the engine of the compiler. -/
theorem engineText?_of_parseCall (returned : CanReturn (compiler.parseCall call) (.ok tree)) :
    ∀ s ∈ (sections call.source.toList).1, ∀ tokens, s.directive = .body .engineName tokens →
      engineText? tokens = some compiler.emitter.name := by
  rw [parseCall_eq] at returned
  obtain ⟨_, last, followed, _⟩ := exists_sections_of_parseWith returned
  refine (foldlM_induction (fun read draft => draft.tree.template.BoundTo compiler.emitter.name ∧
    ∀ s ∈ read, ∀ tokens, s.directive = .body .engineName tokens →
      engineText? tokens = some compiler.emitter.name) ?_ ?_ followed).2
  · have fresh := compiler.boundTo_invariant.fresh call.settings call.created
    exact ⟨(IncludeTree.forall_templates_iff.mp fresh).1, nofun⟩
  · rintro front s mid next inside _ ⟨bound, earlier⟩ follows
    have member : s ∈ (sections call.source.toList).1 := inside.subset (by simp)
    obtain ⟨kept, names⟩ := boundTo_of_follow bound (isNamed_of_mem_sections member) follows
    refine ⟨kept, fun other listed => ?_⟩
    rcases List.mem_append.mp listed with before | last
    · exact earlier other before
    · rw [List.mem_singleton.mp last]
      exact names

/-- An include directive of a text that is parsed leads to a text that is parsed for the tree. -/
theorem exists_descends_of_directive {path : String} {location : Location}
    (returned : CanReturn (compiler.parseCall call) (.ok tree))
    (directive : (path, location) ∈ inclusions call.source.toList) :
    ∃ child inner, compiler.Reaches call path location inner ∧
      compiler.Descends tree call child inner := by
  cases manifests_of_parseCall returned with
  | intro _ listed =>
      obtain ⟨child, included, inner, reaches, parsed⟩ := listed.exists_of_mem directive
      exact ⟨child, inner, reaches, .step directive reaches parsed included (.refl child inner)⟩

/-- **One engine for a tree of includes.** Every template of a parsed tree is bound to the engine
of the compiler, and those below the root are parsed as includes. The engine directives of all
texts that are read for the tree name the engine of the compiler, exactly: of the source, and with
any text of the texts that its include directives lead to. -/
theorem engine_bound_of_parse (compiler : Compiler m) (source : String) (settings : Settings)
    (tree : IncludeTree) (returned : CanReturn (compiler.parse source settings) (.ok tree)) :
    (∀ template ∈ tree.templates, template.engineSlot = .explicit compiler.emitter.name) ∧
    (∀ template ∈ tree.includedTemplates, template.settings.isInclude = true) ∧
    ∀ node call, compiler.Descends tree ⟨0, [], settings, source⟩ node call →
      (∀ s ∈ (sections call.source.toList).1, ∀ tokens, s.directive = .body .engineName tokens →
        engineText? tokens = some compiler.emitter.name) ∧
      ∀ path location, (path, location) ∈ inclusions call.source.toList →
        ∃ child inner, compiler.Reaches call path location inner ∧
          compiler.Descends tree ⟨0, [], settings, source⟩ child inner := by
  refine ⟨compiler.boundTo_invariant.of_parse returned,
    compiler.isInclude_invariant.of_parse returned, fun node call descends => ?_⟩
  have parsed := descends.parsed returned
  refine ⟨engineText?_of_parseCall parsed, fun path location directive => ?_⟩
  obtain ⟨child, inner, reaches, deeper⟩ := exists_descends_of_directive parsed directive
  exact ⟨child, inner, reaches, descends.trans deeper⟩

/-- A page includes a template that names the engine between functions, behind an include. -/
theorem engine_bound_of_page :
    let nav := "<%# 'menu' %><%~ a(); %><%@@ CSharp @@%><%~ b(); ~%>"
    let compiler := Compiler.ofTexts .cSharp [("/site/menu.blade", "m"), ("/site/nav.blade", nav)]
    let root : Call :=
      ⟨0, [], ⟨"home.blade", "/site", true, false⟩, "<%@@CSharp@@%><%# 'nav' %>"⟩
    ∃ tree node call, CanReturn (compiler.parse root.source root.settings) (.ok tree) ∧
      tree.templates.length = 3 ∧
      (∀ template ∈ tree.templates, template.engineSlot = .explicit "CSharp") ∧
      (∀ template ∈ tree.includedTemplates, template.settings.isInclude = true) ∧
      compiler.Descends tree root node call ∧ call.source = nav ∧
      (sections nav.toList).1.any (·.directive.engine?.isSome) = true ∧
      ∀ s ∈ (sections nav.toList).1, ∀ tokens, s.directive = .body .engineName tokens →
        engineText? tokens = some "CSharp" := by
  intro nav compiler root
  have parsed : (compiler.parse root.source root.settings).toOption.map
      (fun tree => tree.templates.length) = some 3 := by decide +kernel
  have names : (sections nav.toList).1.any (·.directive.engine?.isSome) = true := by decide +kernel
  obtain ⟨tree, result, templates⟩ := Option.map_eq_some_iff.mp parsed
  obtain ⟨bound, includes, texts⟩ :=
    compiler.engine_bound_of_parse root.source root.settings tree (canReturn_of_toOption result)
  have directive : ("nav", ⟨1, 16⟩) ∈ inclusions root.source.toList := by decide +kernel
  obtain ⟨node, call, ⟨_, target, resolved, _, loaded⟩, descends⟩ :=
    (texts tree root (.refl tree root)).2 "nav" _ directive
  have found : IncludeTarget.resolve compiler.loader compiler.emitter.config root.settings "nav"
      ⟨1, 16⟩ = .ok ⟨⟨"nav.blade", "/site", true, true⟩, "/site/nav.blade"⟩ :=
    eq_ok_of_toOption (by decide +kernel)
  have resolution := eq_pure_of_canReturn resolved
  rw [found] at resolution
  rw [← Except.ok.inj resolution] at loaded
  have text : compiler.loader.read "/site/nav.blade" = .ok nav :=
    eq_ok_of_toOption (by decide +kernel)
  have loading := eq_pure_of_canReturn loaded
  rw [text] at loading
  have source : call.source = nav := (Except.ok.inj loading).symm
  exact ⟨tree, node, call, canReturn_of_toOption result, templates, bound, includes, descends,
    source, names, source ▸ (texts node call descends).1⟩

end Compiler

end TemplateCompiler
