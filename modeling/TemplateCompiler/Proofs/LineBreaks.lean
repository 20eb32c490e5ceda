import TemplateCompiler.Proofs.Comparisons.Filtered

/-! # Dropping line breaks

Whether literals that are single line breaks are dropped decides about these literals only
(`Compiler.parse_skipping`). Parsing goes the same way with them and without them, through all
includes: in Visual Basic, a template that has no content without its line breaks brings no import,
but this import could not have been refused.
-/

namespace TemplateCompiler

open Markup

namespace Emitter

/-- The emitter with line breaks dropped or not. -/
def skipping (emitter : Emitter) (skips : Bool) : Emitter :=
  { emitter with config := { emitter.config with skipLineBreaks := skips } }

variable {emitter : Emitter} {tree filtered : IncludeTree}

/-- What an included template brings is refused with its line breaks where it is without them. -/
theorem check_broughtDependencies (filters : tree.Filters emitter.rule filtered) :
    emitter.rule.check (emitter.broughtDependencies filtered.template) =
      emitter.rule.check (emitter.broughtDependencies tree.template) := by
  have plain := emitter.isPlain_rule
  have check := filters.check
  cases target : emitter.target with
  | cSharp => simpa only [broughtDependencies, target] using check
  | java => simpa only [broughtDependencies, target] using check
  | javaScript =>
      have imports : JavaScript.importOf filtered.template = JavaScript.importOf tree.template := by
        rw [JavaScript.importOf, JavaScript.importOf, Template.fullClassName,
          Template.fullClassName, filters.identity_eq]
      simp only [broughtDependencies, target, imports]
      rw [DependencyRule.check_append plain, DependencyRule.check_append plain, check]
  | visualBasic =>
      have rule : emitter.rule = VisualBasic.rule := by simp only [Emitter.rule, target]
      have modules : filtered.template.moduleName = tree.template.moduleName :=
        congrArg Identity.moduleName filters.identity_eq
      -- The import is read whether it is there or not.
      have read (template : Template) (same : template.moduleName = tree.template.moduleName) :
          emitter.rule.check (emitter.broughtDependencies template) =
            emitter.rule.check template.dependencies := by
        have imports : emitter.rule.check (VisualBasic.importOf template) = .ok () := by
          rw [rule]
          exact VisualBasic.check_importOf (same ▸ filters.fits) (same ▸ filters.named)
        simp only [broughtDependencies, target]
        split_ifs
        · rw [DependencyRule.check_append plain, imports]
          cases emitter.rule.check template.dependencies <;> rfl
        · rfl
      rw [read _ modules, read _ rfl, check]

end Emitter

namespace IncludeTree

variable {emitter : Emitter} {parent child grown filtered : IncludeTree}

/-- What an included tree adds to the top of a tree is no fragment. -/
theorem Filters.addIncluded {rule : DependencyRule} (outer : parent.Filters rule grown)
    (inner : child.Filters rule filtered) {merged block : String}
    (check : rule.check block = rule.check merged) (code otherCode : String) :
    Filters rule
      ((parent.withTemplate
        ({ parent.template with dependencies := merged }.addExternalCode code)).addIncluded child)
      ((grown.withTemplate
        ({ grown.template with dependencies := block }.addExternalCode otherCode)).addIncluded
          filtered) where
  templates := by
    rw [mapTemplates_addIncluded, mapTemplates_addIncluded, mapTemplates_withTemplate,
      mapTemplates_withTemplate, outer.templates, inner.templates]
    simp [outer.template_eq]
  check := check
  fits := outer.fits
  named := outer.named

/-- **What filters an included tree is taken in** where the included tree is, and otherwise refused
for the same reason. -/
theorem Filters.adopt (ancestors : List Identity) (location : Location)
    (outer : parent.Filters emitter.rule grown) (inner : child.Filters emitter.rule filtered) :
    Parallel True (Filters emitter.rule)
      (parent.adopt (emitter.skipping false) ancestors child location)
      (grown.adopt (emitter.skipping true) ancestors filtered location) := by
  simp only [IncludeTree.adopt, outer.identities_eq, inner.identities_eq]
  cases child.identities.find? fun identity => identity ∈ parent.identities ++ ancestors with
  | some identity => exact .error rfl fun _ => rfl
  | none =>
      have plain := emitter.isPlain_rule
      have absorbs (skips : Bool) (parent child : Template) :
          (emitter.skipping skips).absorb parent child =
            emitter.rule.merge parent.dependencies (emitter.broughtDependencies child) >>=
              fun merged => .ok ({ parent with dependencies := merged }.addExternalCode
                ((emitter.skipping skips).broughtCode child)) := rfl
      rw [absorbs, absorbs]
      rcases DependencyRule.merge_cases outer.check (Emitter.check_broughtDependencies inner) with
        ⟨cause, fails, failed⟩ | ⟨merged, block, merges, merging⟩
      · rw [fails, failed]
        simp only [bind, Except.bind, inner.settings_eq]
        exact .error rfl fun _ => rfl
      · rw [merges, merging]
        have check : emitter.rule.check block = emitter.rule.check merged := by
          rw [DependencyRule.check_of_merge plain merges,
            DependencyRule.check_of_merge plain merging]
        exact .ok (outer.addIncluded inner check _ _)

end IncludeTree

namespace Compiler

variable {m : Type → Type} [Monad m]

/-- The compiler with line breaks dropped or not. -/
def skipping (compiler : Compiler m) (skips : Bool) : Compiler m :=
  { compiler with emitter := compiler.emitter.skipping skips }

/-- Include paths are resolved with line breaks dropped as they are without. -/
theorem resolve_skipping (compiler : Compiler m) (skips : Bool) (including : Settings)
    (raw : String) (location : Location) :
    IncludeTarget.resolve (compiler.skipping skips).loader (compiler.skipping skips).emitter.config
        including raw location =
      IncludeTarget.resolve compiler.loader compiler.emitter.config including raw location := by
  have based (raw : String) :
      IncludeTarget.base (compiler.skipping skips).emitter.config including raw location =
        IncludeTarget.base compiler.emitter.config including raw location := rfl
  have normal :
      IncludeTarget.normalized (compiler.skipping skips).emitter.config including raw location =
        IncludeTarget.normalized compiler.emitter.config including raw location := by
    simp only [IncludeTarget.normalized, based]
  have finds (root relative : String) :
      IncludeTarget.findFile (compiler.skipping skips).loader
          (compiler.skipping skips).emitter.config root relative =
        IncludeTarget.findFile compiler.loader compiler.emitter.config root relative := rfl
  simp only [IncludeTarget.resolve, normal, finds]

variable {compiler : Compiler m}

omit [Monad m] in
/-- Drafts of new templates are in step. -/
theorem inStep_startDraft (ids : ∀ created, FitsDeclaration (compiler.ids created))
    (modules : ∀ name ∈ compiler.emitter.config.defaultModule?, Grammar.dotted.accepts name = true)
    (created : Nat) (settings : Settings) :
    ((compiler.skipping false).startDraft created settings).InStep True
      (IncludeTree.Filters compiler.emitter.rule) 2
      ((compiler.skipping true).startDraft created settings) where
  state := rfl
  pending := rfl
  mode := rfl
  ending := rfl
  places := fun _ => ⟨rfl, rfl, rfl⟩
  trees := by
    obtain ⟨dependencies, code, same⟩ :=
      compiler.emitter.prepare_eq (compiler.boundTemplate settings (compiler.ids created))
    have start (skips : Bool) : ((compiler.skipping skips).startDraft created settings).tree =
        ⟨compiler.emitter.prepare (compiler.boundTemplate settings (compiler.ids created)), []⟩ :=
      rfl
    rw [start, start, same]
    refine ⟨rfl, rfl, ?_, ?_⟩
    · change FitsDeclaration (compiler.emitter.config.defaultModule?.getD
        ("BladeModule" ++ compiler.ids created))
      cases configured : compiler.emitter.config.defaultModule? with
      | none => exact FitsDeclaration.append (by decide) (ids created)
      | some name => exact Grammar.fitsDeclaration_of_dotted (modules name configured)
    · change compiler.emitter.config.defaultModule?.getD
        ("BladeModule" ++ compiler.ids created) ≠ ""
      cases configured : compiler.emitter.config.defaultModule? with
      | none => simp
      | some name =>
          rintro rfl
          exact absurd (modules _ configured) (by decide)

variable [LawfulMonad m]

/-- **Parsing goes alike** whether line breaks are dropped or not, at every depth of includes. -/
theorem parseWithin_skipping (ids : ∀ created, FitsDeclaration (compiler.ids created))
    (modules : ∀ name ∈ compiler.emitter.config.defaultModule?, Grammar.dotted.accepts name = true)
    (depth created : Nat) (ancestors : List Identity) (settings : Settings) (source : String) :
    GoesAlike (Parallel True (IncludeTree.Filters compiler.emitter.rule))
      ((compiler.skipping false).parseWithin depth created ancestors settings source)
      ((compiler.skipping true).parseWithin depth created ancestors settings source) := by
  have texts {parse? other? : Option (ParseText m)}
      (below : Option.Rel (fun parse other => ∀ created ancestors settings text,
        GoesAlike (Parallel True (IncludeTree.Filters compiler.emitter.rule))
          (parse created ancestors settings text) (other created ancestors settings text))
        parse? other?)
      (created : Nat) (ancestors : List Identity) (settings : Settings) (source : String) :
      GoesAlike (Parallel True (IncludeTree.Filters compiler.emitter.rule))
        ((compiler.skipping false).parseWith parse? created ancestors settings source)
        ((compiler.skipping true).parseWith other? created ancestors settings source) := by
    have corresponds : Correspondence (IncludeTree.Filters compiler.emitter.rule)
        (compiler.skipping false).emitter.writer (compiler.skipping true).emitter.writer :=
      Correspondence.filters compiler.emitter.isPlain_rule compiler.emitter.writer
    rw [parseWith, parseWith, newTemplate_eq, newTemplate_eq]
    refine (inStep_startDraft ids modules created settings).run corresponds ?_ trivial
      source.toList
    intro parent grown path location elsewhere filters places
    obtain rfl := places trivial
    refine compose_alike created (fun _ => rfl) rfl rfl ?_ below filters.size_eq
      filters.identity_eq fun child filtered inner => filters.adopt ancestors elsewhere inner
    rw [filters.settings_eq, resolve_skipping, resolve_skipping]
    exact .refl (.refl fun _ => rfl) _
  induction depth generalizing created ancestors settings source with
  | zero => exact texts .none created ancestors settings source
  | succ depth ih =>
      exact texts (.some fun created ancestors settings text => ih created ancestors settings text)
        created ancestors settings source

/-- **Dropping line breaks is a filter.** What parsing returns where literals that are single line
breaks are dropped is what it returns where they are kept, without these literals: the same tree,
template by template, up to the dependencies and the external code that includes add to, or the same
error at the same place. -/
theorem parse_skipping (compiler : Compiler m)
    (ids : ∀ created, FitsDeclaration (compiler.ids created))
    (modules : ∀ name ∈ compiler.emitter.config.defaultModule?, Grammar.dotted.accepts name = true)
    (source : String) (settings : Settings) :
    Except.map (IncludeTree.mapTemplates Template.withoutBlocks) <$>
        (compiler.skipping true).parse source settings =
      Except.map (IncludeTree.mapTemplates fun template =>
          template.withoutLineBreaks.withoutBlocks) <$>
        (compiler.skipping false).parse source settings := by
  have alike := parseWithin_skipping ids modules compiler.emitter.config.maxIncludeDepth 0 []
    settings source
  refine (alike.map_eq fun result counterpart parallel => ?_).symm
  cases parallel with
  | ok filters => exact congrArg Except.ok filters.templates.symm
  | error _ same =>
      cases same trivial
      rfl

/-- A page with line breaks around its includes. The first included template has nothing but a line
break, the second one has one among its functions too. -/
theorem parse_skipping_page :
    let compiler := Compiler.ofTexts .cSharp
      [("/nav.blade", "\n"), ("/item.blade", "a\n<%~ f %>\r\n<%~ g %><%= x %>\n")]
    let settings : Settings := ⟨"page.blade", "/", true, false⟩
    let source := "\n<%# 'nav' %>\n<%# 'item' %>b"
    let fragments (tree : IncludeTree) := tree.templates.map fun template =>
      (template.body.map Fragment.source, template.functions.map Fragment.source)
    Except.map (IncludeTree.mapTemplates Template.withoutBlocks)
        ((compiler.skipping true).parse source settings) =
      Except.map (IncludeTree.mapTemplates fun template =>
          template.withoutLineBreaks.withoutBlocks)
        ((compiler.skipping false).parse source settings) ∧
    ((compiler.skipping true).parse source settings).toOption.map fragments =
      some [(["b"], []), ([], []), (["a\n", "x"], ["\n f ", " g "])] ∧
    ((compiler.skipping false).parse source settings).toOption.map fragments =
      some [(["\n", "\n", "b"], []), (["\n"], []),
        (["a\n", "x", "\n"], ["\n f ", "\r\n", " g "])] := by
  intro compiler settings source fragments
  have ids : ∀ created, FitsDeclaration (compiler.ids created) := by
    intro created c inside
    have stroke : created ≠ 0 ∧ c = 'i' := by simpa [compiler, ofTexts] using inside
    rw [stroke.2]
    exact ⟨by decide, by decide, by decide⟩
  have modules : compiler.emitter.config.defaultModule? = none := rfl
  refine ⟨?_, by decide +kernel, by decide +kernel⟩
  exact compiler.parse_skipping ids (by simp [modules]) source settings

end Compiler

end TemplateCompiler
