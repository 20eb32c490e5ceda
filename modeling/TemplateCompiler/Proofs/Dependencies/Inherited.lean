import TemplateCompiler.Proofs.Dependencies.Names

/-! # Dependencies of included templates

What an included template declares reaches the template at the root, line by line
(`Compiler.dependencies_inherited_of_parse`): each including template carries what the included
one brings, through its own declarations and its further includes (`DependencyRule.Carries`).
-/

namespace TemplateCompiler

open Markup
open MonadAttach (CanReturn)

namespace DependencyRule

variable {rule : DependencyRule} {block current new merged brought : String}

/-- A block carries another one: this can be read, and the block has the line of each of its
declarations. -/
def Carries (rule : DependencyRule) (block brought : String) : Prop :=
  ∃ met, rule.occurrences brought = .ok met ∧ ∀ d ∈ met, Text.HasLine block (rule.renderOne d)

theorem Carries.addLine (carries : rule.Carries block brought) (line : String) :
    rule.Carries (Text.addLine block line) brought := by
  obtain ⟨met, meets, lines⟩ := carries
  exact ⟨met, meets, fun d member => (lines d member).addLine (rule.renderOne_ne_empty d) line⟩

/-- A block carries the parts of what it carries. -/
theorem Carries.of_append (plain : rule.IsPlain) {front back : String}
    (carries : rule.Carries block (front ++ "\n" ++ back)) :
    rule.Carries block front ∧ rule.Carries block back := by
  obtain ⟨met, meets, lines⟩ := carries
  obtain ⟨first, second, before, behind, rfl⟩ := (occurrences_append_eq_ok_iff plain).mp meets
  exact ⟨⟨first, before, fun d member => lines d (List.mem_append_left _ member)⟩,
    ⟨second, behind, fun d member => lines d (List.mem_append_right _ member)⟩⟩

/-- What is declared in either of two blocks has its line in the merged one. -/
theorem hasLine_of_merge (plain : rule.IsPlain) (result : rule.merge current new = .ok merged)
    {block : String} (part : block = current ∨ block = new) :
    ∃ met, rule.occurrences block = .ok met ∧
      ∀ d ∈ met, Text.HasLine merged (rule.renderOne d) := by
  obtain ⟨older, newer, declared, meetsOld, meetsNew, rfl, _, members, canonical⟩ :=
    exists_of_merge plain result
  rcases part with rfl | rfl
  · exact ⟨older, meetsOld, fun d member =>
      hasLine_render plain canonical ((members d).mpr (.inl member))⟩
  · exact ⟨newer, meetsNew, fun d member =>
      hasLine_render plain canonical ((members d).mpr (.inr member))⟩

/-- **A merged block carries** what either of its parts carries. -/
theorem Carries.merge (plain : rule.IsPlain) (result : rule.merge current new = .ok merged)
    {block : String} (part : block = current ∨ block = new)
    (carries : rule.Carries block brought) : rule.Carries merged brought := by
  -- A line of the part is read as its declaration again, so the merged block spells it too.
  obtain ⟨met, meets, lines⟩ := carries
  obtain ⟨all, meetsAll, merges⟩ := hasLine_of_merge plain result part
  refine ⟨met, meets, fun d member => merges d ?_⟩
  exact mem_of_hasLine plain (isCanonical_of_mem plain meets member) (lines d member) meetsAll

/-- A carried declaration is among the lines of the block. -/
theorem Carries.mem_lines (plain : rule.IsPlain) (carries : rule.Carries block brought)
    {met : List String} (meets : rule.occurrences brought = .ok met) {d : String}
    (member : d ∈ met) : rule.renderOne d ∈ Text.lines block := by
  obtain ⟨_, same, lines⟩ := carries
  rw [meets] at same
  cases same
  have canonical := isCanonical_of_mem plain meets member
  exact (lines d member).mem_lines (isTrimmed_renderOne plain canonical)
    (rule.renderOne_ne_empty d)

end DependencyRule

namespace Emitter

variable (emitter : Emitter) (child : Template)

/-- What an included template brings begins with what it declares. -/
theorem broughtDependencies_cases :
    emitter.broughtDependencies child = child.dependencies ∨
      ∃ added, emitter.broughtDependencies child = child.dependencies ++ "\n" ++ added := by
  unfold broughtDependencies
  cases emitter.target with
  | cSharp => exact .inl rfl
  | java => exact .inl rfl
  | javaScript => exact .inr ⟨_, rfl⟩
  | visualBasic =>
      dsimp only
      split_ifs
      · exact .inr ⟨_, rfl⟩
      · exact .inl rfl

end Emitter

namespace IncludeTree

/-- The top of a tree carries what each included template brings. -/
def CarriesIncludes (emitter : Emitter) (tree : IncludeTree) : Prop :=
  ∀ template ∈ tree.includedTemplates,
    emitter.rule.Carries tree.template.dependencies (emitter.broughtDependencies template)

variable {emitter : Emitter} {ancestors : List Identity} {tree parent child : IncludeTree}
  {template : Template} {location : Location}

/-- An edit adds a line to the dependencies at the top, or leaves them as they are. -/
theorem Edit.dependencies_eq (edit : tree.Edit ancestors template) :
    ∃ line, template.dependencies = Text.addLine tree.template.dependencies line := by
  cases edit with
  | dependency declaration => exact ⟨declaration, rfl⟩
  | name kind name declared unused =>
      have written := Template.declare_eq_ok declared
      refine ⟨"", ?_⟩
      cases kind <;> exact written.2 ▸ rfl
  | _ => exact ⟨"", rfl⟩

theorem CarriesIncludes.adopt (outer : parent.CarriesIncludes emitter)
    (inner : child.CarriesIncludes emitter)
    (adopted : parent.adopt emitter ancestors child location = .ok tree) :
    tree.CarriesIncludes emitter := by
  have plain := emitter.isPlain_rule
  obtain ⟨merged, result, rfl⟩ := exists_of_adopt adopted
  intro template included
  have carried : emitter.rule.Carries merged (emitter.broughtDependencies template) := by
    rcases mem_includedTemplates_addIncluded.mp included with before | rfl | below
    · exact (outer template before).merge plain result (.inl rfl)
    · exact DependencyRule.hasLine_of_merge plain result (.inr rfl)
    · -- The included template carries it among its own dependencies, which it brings along.
      obtain ⟨met, meets, lines⟩ := inner template below
      refine DependencyRule.Carries.merge plain result (.inr rfl) ⟨met, meets, fun d member => ?_⟩
      rcases emitter.broughtDependencies_cases child.template with same | ⟨added, same⟩
      · rw [same]
        exact lines d member
      · rw [same]
        exact Text.hasLine_append_iff.mpr (.inl (lines d member))
  exact carried

end IncludeTree

namespace Compiler

variable {m : Type → Type} [Monad m] [MonadAttach m]

/-- Carrying what included templates bring is an invariant of every compiler. -/
theorem carriesIncludes_invariant (compiler : Compiler m) :
    compiler.Invariant fun tree => tree.CarriesIncludes compiler.emitter where
  fresh := by
    rintro settings created template new member ⟨⟩
  edit := by
    intro ancestors tree template carries edit member included
    obtain ⟨line, added⟩ := edit.dependencies_eq
    have kept := (carries member included).addLine line
    rw [← added] at kept
    exact kept
  adopt := fun _ _ _ _ _ _ _ outer inner _ _ adopted => outer.adopt inner adopted

variable [LawfulMonad m] [LawfulMonadAttach m]

/-- **What included templates declare reaches the root**: each of their declarations is a line of
the dependencies there, in canonical spelling. In JavaScript so is the import of each included
class, and in Visual Basic that of the module of each included template with content, where the
ids and the configured module that names are made of fit into a declaration. -/
theorem dependencies_inherited_of_parse (compiler : Compiler m) (source : String)
    (settings : Settings) (tree : IncludeTree)
    (returned : CanReturn (compiler.parse source settings) (.ok tree)) :
    ∀ template ∈ tree.includedTemplates,
      (∃ declared, compiler.emitter.rule.declarations template.dependencies = .ok declared ∧
        ∀ d ∈ declared,
          compiler.emitter.rule.render [d] ∈ Text.lines tree.template.dependencies) ∧
      ((∀ created, FitsDeclaration (compiler.ids created)) →
        (∀ name ∈ compiler.emitter.config.defaultModule?, Grammar.dotted.accepts name = true) →
        (compiler.emitter.target = .javaScript →
          "import './" ++ template.fullClassName ++ "';" ∈
            Text.lines tree.template.dependencies) ∧
        (compiler.emitter.target = .visualBasic → template.hasContent = true →
          "Imports " ++ template.moduleName ∈ Text.lines tree.template.dependencies)) := by
  intro template included
  have plain := compiler.emitter.isPlain_rule
  have carries := compiler.carriesIncludes_invariant.of_parse returned template included
  have own : compiler.emitter.rule.Carries tree.template.dependencies template.dependencies := by
    rcases compiler.emitter.broughtDependencies_cases template with same | ⟨added, same⟩
    · exact same ▸ carries
    · rw [same] at carries
      exact (carries.of_append plain).1
  refine ⟨?_, fun ids modules => ?_⟩
  · have ⟨met, meets, _⟩ := own
    refine ⟨_, DependencyRule.declarations_eq_ok_iff.mpr ⟨met, meets, rfl⟩, fun d member => ?_⟩
    have inside := (DependencyRule.mem_insertAll.mp member).resolve_left (by simp)
    have line := own.mem_lines plain meets inside
    rwa [DependencyRule.render, List.map_singleton, Text.join, String.intercalate_singleton]
  · have fit := (namesFit_invariant ids fun name configured =>
      Grammar.fitsDeclaration_of_dotted (modules name configured)).of_parse returned template
        (IncludeTree.templates_eq tree ▸ List.mem_cons_of_mem _ included)
    have imported {d : String} (canonical : compiler.emitter.rule.IsCanonical d)
        (brought : compiler.emitter.broughtDependencies template =
          template.dependencies ++ "\n" ++ compiler.emitter.rule.renderOne d) :
        compiler.emitter.rule.renderOne d ∈ Text.lines tree.template.dependencies := by
      rw [brought] at carries
      exact (carries.of_append plain).2.mem_lines plain
        (DependencyRule.occurrences_renderOne plain canonical) (List.mem_singleton_self d)
    constructor
    · intro target
      have rule : compiler.emitter.rule = JavaScript.rule := by simp only [Emitter.rule, target]
      obtain ⟨d, fits, nonempty, same⟩ := JavaScript.exists_importOf fit
      change JavaScript.importOf template ∈ _
      rw [same, ← rule]
      refine imported (fits.isCanonical plain nonempty) ?_
      rw [rule, ← same]
      simp only [Emitter.broughtDependencies, target]
    · intro target content
      have rule : compiler.emitter.rule = VisualBasic.rule := by simp only [Emitter.rule, target]
      have brought : compiler.emitter.broughtDependencies template =
          template.dependencies ++ "\n" ++ VisualBasic.importOf template := by
        simp only [Emitter.broughtDependencies, target, content, ↓reduceIte]
      have nonempty : template.moduleName ≠ "" := by
        intro empty
        rw [brought] at carries
        obtain ⟨met, meets, _⟩ := (carries.of_append plain).2
        rw [rule, VisualBasic.importOf, empty] at meets
        exact VisualBasic.occurrences_nothing met meets
      change VisualBasic.importOf template ∈ _
      rw [VisualBasic.importOf_eq, ← rule]
      refine imported (fit.moduleName.isCanonical plain nonempty) ?_
      rw [brought, rule, VisualBasic.importOf_eq]

/-- A page that includes a template with names and a dependency, and declares another one behind
the include. -/
theorem dependencies_inherited_of_page :
    let compiler := Compiler.ofTexts .javaScript
      [("/nav.blade", "<%$\x60Site\x60%><%@\x60Nav\x60%><%@ 'x' %>")]
    ∃ tree nav, CanReturn (compiler.parse "<%# 'nav' %><%@ 'y' %>" ⟨"home", "/", true, false⟩)
        (.ok tree) ∧
      tree.includedTemplates = [nav] ∧ nav.fullClassName = "Site.Nav" ∧
      compiler.emitter.rule.declarations nav.dependencies =
        .ok ["'./BladeTemplateJavascriptBase'", "'x'"] ∧
      "import './BladeTemplateJavascriptBase';" ∈ Text.lines tree.template.dependencies ∧
      "import 'x';" ∈ Text.lines tree.template.dependencies ∧
      "import './Site.Nav';" ∈ Text.lines tree.template.dependencies := by
  intro compiler
  have parsed : (compiler.parse "<%# 'nav' %><%@ 'y' %>" ⟨"home", "/", true, false⟩).toOption.map
      (fun tree => tree.includedTemplates.map fun template => (template.fullClassName,
        (compiler.emitter.rule.declarations template.dependencies).toOption)) =
      some [("Site.Nav", some ["'./BladeTemplateJavascriptBase'", "'x'"])] := by
    decide +kernel
  obtain ⟨tree, result, listed⟩ := Option.map_eq_some_iff.mp parsed
  obtain ⟨nav, alone, same⟩ := List.map_eq_singleton_iff.mp listed
  obtain ⟨name, declared⟩ := Prod.mk.inj same
  have declared := eq_ok_of_toOption declared
  have returned := canReturn_of_toOption result
  have ids : ∀ created, FitsDeclaration (compiler.ids created) := by
    intro created c inside
    have stroke : created ≠ 0 ∧ c = 'i' := by simpa [compiler, ofTexts] using inside
    rw [stroke.2]
    exact ⟨by decide, by decide, by decide⟩
  have modules : compiler.emitter.config.defaultModule? = none := rfl
  obtain ⟨⟨found, meets, lines⟩, imports⟩ := compiler.dependencies_inherited_of_parse _ _ tree
    returned nav (alone ▸ List.mem_singleton_self nav)
  obtain rfl := Except.ok.inj (declared.symm.trans meets)
  have base := lines "'./BladeTemplateJavascriptBase'" (by decide)
  have own := lines "'x'" (by decide)
  have imported := (imports ids (by simp [modules])).1 rfl
  have path : "import './" ++ "Site.Nav" ++ "';" = "import './Site.Nav';" := by decide +kernel
  rw [name, path] at imported
  refine ⟨tree, nav, returned, alone, name, declared, ?_, ?_, imported⟩
  · have written : compiler.emitter.rule.render ["'./BladeTemplateJavascriptBase'"] =
        "import './BladeTemplateJavascriptBase';" := by decide +kernel
    rwa [written] at base
  · have written : compiler.emitter.rule.render ["'x'"] = "import 'x';" := by decide +kernel
    rwa [written] at own

end Compiler

end TemplateCompiler
