import TemplateCompiler.Proofs.Comparisons.FreshNames
import TemplateCompiler.Proofs.Comparisons.Includes
import TemplateCompiler.Proofs.Dependencies.Readable

/-! # Other generated names

Where a text can be parsed, it can be parsed with any fresh ids (`Compiler.exists_parse_of_fresh`).
The second parse goes along with the first: a template has the same names in both, but for those
that stand in, which are generated from the ids with the same index (`Template.IsRenamed`).
Identities that meet in the second parse have met in the first (`Identity.IsRenamed.eq_of_eq`), and
the dependencies that an included template brings can be read in the second parse where they can be
in the first (`Template.IsRenamed.isReadable_broughtDependencies`).
-/

namespace TemplateCompiler

open Markup
open MonadAttach (CanReturn)
open Template (generatedName)

/-! ## Names -/

/-- A name with ids and with others: the same one, generated from none of the others, or the names
generated from the ids with the same index. -/
inductive IsRenamed (ids others : Nat → String) (kind : NameKind) : String → String → Prop where
  | kept {name : String} (undrawn : Undrawn others kind name) : IsRenamed ids others kind name name
  | generated (index : Nat) :
      IsRenamed ids others kind (generatedName kind (ids index)) (generatedName kind (others index))

/-- A slot of the template with an index, with ids and with others. A class name fits into a
declaration. -/
inductive NameSlot.IsRenamed (ids others : Nat → String) (index : Nat) (kind : NameKind) :
    NameSlot → NameSlot → Prop where
  | kept {slot : NameSlot} (undrawn : Undrawn others kind slot.value)
      (fits : kind = .className → FitsDeclaration slot.value) :
      IsRenamed ids others index kind slot slot
  | generated : IsRenamed ids others index kind (.generated (generatedName kind (ids index)))
      (.generated (generatedName kind (others index)))

/-- An identity with ids and with others. -/
def Identity.IsRenamed (ids others : Nat → String) (first second : Identity) : Prop :=
  ∀ kind ≠ .engineName,
    TemplateCompiler.IsRenamed ids others kind (first.name kind) (second.name kind)

section Names

variable {ids others : Nat → String} {index : Nat} {kind : NameKind}

/-- Names that are the same with other ids have been the same. -/
theorem IsRenamed.eq_of_eq {first second meeting : String} (distinct : Function.Injective others)
    (renamed : IsRenamed ids others kind first meeting)
    (otherRenamed : IsRenamed ids others kind second meeting) : first = second := by
  cases renamed with
  | kept undrawn =>
      cases otherRenamed with
      | kept _ => rfl
      | generated index => exact absurd rfl (undrawn index)
  | generated index =>
      generalize same : generatedName kind (others index) = meeting at otherRenamed
      cases otherRenamed with
      | kept undrawn => exact absurd same.symm (undrawn index)
      | generated other =>
          rw [distinct (Template.generatedName_injective kind same)]

theorem NameSlot.IsRenamed.value {first second : NameSlot}
    (renamed : IsRenamed ids others index kind first second) :
    TemplateCompiler.IsRenamed ids others kind first.value second.value := by
  cases renamed with
  | kept undrawn _ => exact .kept undrawn
  | generated => exact .generated index

theorem NameSlot.IsRenamed.declared {first second : NameSlot}
    (renamed : IsRenamed ids others index kind first second) :
    second.declared? = first.declared? := by
  cases renamed <;> rfl

/-- **Identities that meet with other ids** have met before. -/
theorem Identity.IsRenamed.eq_of_eq {first second meeting : Identity}
    (distinct : Function.Injective others) (renamed : first.IsRenamed ids others meeting)
    (otherRenamed : second.IsRenamed ids others meeting) : first = second :=
  Identity.eq_of_names fun kind named =>
    (renamed kind named).eq_of_eq distinct (otherRenamed kind named)

/-- An identity that is not among others is not among them with other ids. -/
theorem Identity.IsRenamed.not_mem {first second : Identity} {before after : List Identity}
    (distinct : Function.Injective others) (renamed : first.IsRenamed ids others second)
    (around : List.Forall₂ (Identity.IsRenamed ids others) before after)
    (outside : first ∉ before) :
    second ∉ after := by
  induction around with
  | nil => simp
  | cons head _ ih =>
      rw [List.mem_cons, not_or] at outside ⊢
      refine ⟨?_, ih outside.2⟩
      rintro rfl
      exact outside.1 (renamed.eq_of_eq distinct head)

/-- Identities that are apart are apart with other ids. -/
theorem Identity.IsRenamed.disjoint {before after earlier later : List Identity}
    (distinct : Function.Injective others)
    (renamed : List.Forall₂ (Identity.IsRenamed ids others) before after)
    (around : List.Forall₂ (Identity.IsRenamed ids others) earlier later)
    (apart : ∀ identity ∈ before, identity ∉ earlier) : ∀ identity ∈ after, identity ∉ later := by
  induction renamed with
  | nil => simp
  | cons head _ ih =>
      rw [List.forall_mem_cons] at apart ⊢
      exact ⟨head.not_mem distinct around apart.1, ih apart.2⟩

theorem fitsDeclaration_generatedName {id : String} (fits : FitsDeclaration id) :
    FitsDeclaration (generatedName kind id) := by
  cases kind with
  | moduleName =>
      have start : FitsDeclaration "BladeModule" := by decide
      exact start.append fits
  | _ =>
      have start : FitsDeclaration "BladeTemplate" := by decide
      exact start.append fits

/-- A name stays the same with other ids, or fits into a declaration. -/
theorem NameSlot.IsRenamed.eq_or_fits {first second : NameSlot}
    (renamed : IsRenamed ids others index kind first second)
    (idsFit : ∀ created, FitsDeclaration (ids created))
    (othersFit : ∀ created, FitsDeclaration (others created)) :
    second.value = first.value ∧ (kind = .className → FitsDeclaration first.value) ∨
      FitsDeclaration first.value ∧ FitsDeclaration second.value ∧ second.value ≠ "" := by
  cases renamed with
  | kept _ fits => exact .inl ⟨rfl, fits⟩
  | generated =>
      refine .inr ⟨fitsDeclaration_generatedName (idsFit index),
        fitsDeclaration_generatedName (othersFit index), ?_⟩
      rw [NameSlot.value_generated]
      cases kind <;> simp [generatedName, Template.generatedModule, Template.generatedClass]

end Names

/-! ## Templates -/

/-- The template with an index, with the ids of a compiler and with others: but for its names and
its dependencies, it generates the same. -/
structure Template.IsRenamed (compiler : Compiler Id) (others : Nat → String) (index : Nat)
    (first second : Template) : Prop where
  settings : second.settings = first.settings
  moduleGrammar : second.moduleGrammar = first.moduleGrammar
  engineSlot : second.engineSlot = first.engineSlot
  body : second.body = first.body
  functions : second.functions = first.functions
  names : ∀ kind ≠ .engineName, NameSlot.IsRenamed compiler.ids others index kind (first.slot kind)
    (second.slot kind)
  dependencies : compiler.emitter.rule.IsReadable first.dependencies →
    compiler.emitter.rule.IsReadable second.dependencies

namespace Template.IsRenamed

variable {compiler : Compiler Id} {others : Nat → String} {index : Nat} {first second : Template}

theorem identity (renamed : first.IsRenamed compiler others index second) :
    first.identity.IsRenamed compiler.ids others second.identity := by
  intro kind named
  rw [name_identity _ named, name_identity _ named]
  exact (renamed.names kind named).value

theorem addFragments (renamed : first.IsRenamed compiler others index second)
    (body functions : FragmentStream) :
    (first.addFragments body functions).IsRenamed compiler others index
      (second.addFragments body functions) where
  settings := renamed.settings
  moduleGrammar := renamed.moduleGrammar
  engineSlot := renamed.engineSlot
  body := congrArg (· ++ body) renamed.body
  functions := congrArg (· ++ functions) renamed.functions
  names kind named := by
    have names := renamed.names kind named
    cases kind <;> exact names
  dependencies := renamed.dependencies

/-- A new template has the names that stand in. -/
theorem start (compiler : Compiler Id) (others : Nat → String) (index : Nat)
    (settings : Settings)
    (configured :
      ∀ name ∈ compiler.emitter.config.defaultModule?, Undrawn others .moduleName name) :
    (compiler.startDraft index settings).tree.template.IsRenamed compiler others index
      ((compiler.withIds others).startDraft index settings).tree.template := by
  have made (ids : Nat → String) : ∃ dependencies externalCode,
      ((compiler.withIds ids).startDraft index settings).tree.template =
        { compiler.boundTemplate settings (ids index) with
          dependencies := dependencies, externalCode := externalCode } :=
    compiler.emitter.prepare_eq (compiler.boundTemplate settings (ids index))
  have seeded : compiler.emitter.rule.IsReadable
      ((compiler.withIds others).startDraft index settings).tree.template.dependencies := by
    have empty : (compiler.boundTemplate settings (others index)).dependencies = "" := rfl
    obtain ⟨seeds, canonical, _, same⟩ := compiler.emitter.exists_seeds empty
    change compiler.emitter.rule.IsReadable
      (compiler.emitter.prepare (compiler.boundTemplate settings (others index))).dependencies
    rw [same]
    exact DependencyRule.isReadable_render compiler.emitter.isPlain_rule canonical
  obtain ⟨_, _, first⟩ := made compiler.ids
  obtain ⟨_, _, second⟩ := made others
  refine ⟨by rw [second]; exact (congrArg Template.settings first).symm,
    by rw [second]; exact (congrArg Template.moduleGrammar first).symm,
    by rw [second]; exact (congrArg Template.engineSlot first).symm,
    by rw [second]; exact (congrArg Template.body first).symm,
    by rw [second]; exact (congrArg Template.functions first).symm, ?_, fun _ => seeded⟩
  intro kind named
  rw [second, show (compiler.startDraft index settings).tree.template = _ from first]
  cases kind with
  | engineName => exact absurd rfl named
  | className => exact .generated
  | moduleName =>
      simp only [slot, Compiler.boundTemplate, Template.empty]
      cases default : compiler.emitter.config.defaultModule? with
      | none => exact .generated
      | some name =>
          exact .kept (configured name default) fun other => absurd other (by decide)

/-- A name that the first template declares, the second one does. -/
theorem declare (renamed : first.IsRenamed compiler others index second) {kind : NameKind}
    {name : String} {declared : Template} (named : kind ≠ .engineName)
    (undrawn : Undrawn others kind name) (fitsDeclaration : FitsDeclaration name)
    (accepted : first.declare kind name = .ok declared) :
    ∃ counterpart, second.declare kind name = .ok counterpart ∧
      declared.IsRenamed compiler others index counterpart := by
  obtain ⟨fits, free⟩ := exists_declare_iff.mp ⟨declared, accepted⟩
  have grammar : second.grammar kind = first.grammar kind := by
    cases kind with
    | moduleName => exact renamed.moduleGrammar
    | _ => rfl
  obtain ⟨counterpart, accepts⟩ := exists_declare_iff.mpr
    ⟨grammar ▸ fits, (renamed.names kind named).declared ▸ free⟩
  refine ⟨counterpart, accepts, ?_⟩
  have written := declare_eq_ok accepted
  have writes := declare_eq_ok accepts
  have names : ∀ other ≠ .engineName, NameSlot.IsRenamed compiler.ids others index other
      (declared.slot other) (counterpart.slot other) := by
    intro other isName
    rw [slot_of_declare accepted, slot_of_declare accepts]
    split_ifs with same
    · exact .kept (same ▸ undrawn) fun _ => fitsDeclaration
    · exact renamed.names other isName
  cases kind with
  | engineName => exact absurd rfl named
  | _ =>
      rw [written.2, writes.2] at names ⊢
      exact ⟨renamed.settings, renamed.moduleGrammar, renamed.engineSlot, renamed.body,
        renamed.functions, names, renamed.dependencies⟩

/-- **A directive that the first template performs**, the second one does. -/
theorem perform (renamed : first.IsRenamed compiler others index second) {directive : Directive}
    {performed : Template} (named : directive.IsNamed) (undrawn : directive.IsUndrawn others)
    (performs : first.perform directive = .ok performed) :
    ∃ counterpart, second.perform directive = .ok counterpart ∧
      performed.IsRenamed compiler others index counterpart := by
  have plain := compiler.emitter.isPlain_rule
  cases directive with
  | inclusion path =>
      cases performs
      exact ⟨second, rfl, renamed⟩
  | name kind chars =>
      refine renamed.declare named.1 (undrawn kind chars rfl) (fun c inside => ?_) performs
      rw [String.toList_ofList] at inside
      exact isSolid_of_isNameChar (named.2 c inside)
  | body region tokens =>
      have same : ∃ counterpart, second.perform (.body region tokens) = .ok counterpart := by
        cases region with
        | engineName =>
            simp only [Template.perform] at performs ⊢
            cases name : engineText? tokens with
            | none => exact ⟨second, rfl⟩
            | some given =>
                simp only [name] at performs ⊢
                have accepted := exists_declare_iff.mp ⟨performed, performs⟩
                refine exists_declare_iff.mpr ⟨accepted.1, ?_⟩
                rw [show second.slot .engineName = _ from renamed.engineSlot]
                exact accepted.2
        | _ => exact ⟨_, rfl⟩
      obtain ⟨counterpart, performsAgain⟩ := same
      refine ⟨counterpart, performsAgain, ?_⟩
      rw [eq_of_perform_body performs, eq_of_perform_body performsAgain]
      refine ⟨renamed.settings, renamed.moduleGrammar, ?_, renamed.body, renamed.functions,
        fun kind named => ?_, ?_⟩
      · rw [renamed.engineSlot]
      · have names := renamed.names kind named
        cases kind with
        | engineName => exact absurd rfl named
        | _ => exact names
      · dsimp only
        cases (Directive.body region tokens).dependency? with
        | none => exact renamed.dependencies
        | some line =>
            change compiler.emitter.rule.IsReadable (Text.addLine first.dependencies line) →
              compiler.emitter.rule.IsReadable (Text.addLine second.dependencies line)
            rw [DependencyRule.isReadable_addLine_iff plain,
              DependencyRule.isReadable_addLine_iff plain]
            exact And.imp_left renamed.dependencies

variable (idsFit : ∀ created, FitsDeclaration (compiler.ids created))
  (othersFit : ∀ created, FitsDeclaration (others created))
include idsFit othersFit

/-- Where the import that JavaScript adds for a template can be read, it can be with other ids. -/
theorem isReadable_javaScript (renamed : first.IsRenamed compiler others index second)
    (readable : JavaScript.rule.IsReadable (JavaScript.importOf first)) :
    JavaScript.rule.IsReadable (JavaScript.importOf second) := by
  have classes : FitsDeclaration first.className ∧ FitsDeclaration second.className := by
    rcases (renamed.names .className (by decide)).eq_or_fits idsFit othersFit with
      ⟨same, fits⟩ | ⟨fits, otherFits, _⟩
    · change FitsDeclaration (first.slot .className).value ∧
        FitsDeclaration (second.slot .className).value
      rw [same]
      exact ⟨fits rfl, fits rfl⟩
    · exact ⟨fits, otherFits⟩
  rcases (renamed.names .moduleName (by decide)).eq_or_fits idsFit othersFit with
    ⟨same, _⟩ | ⟨fits, otherFits, _⟩
  · -- The module is the same, whatever stands in it: the class name ends the import.
    have modules : second.moduleName = first.moduleName := same
    have split (template : Template) : JavaScript.importOf template = "import './" ++
        (if template.moduleName.isEmpty then "" else template.moduleName ++ ".") ++
          template.className ++ "';" := by
      rw [JavaScript.importOf, fullClassName, Identity.text,
        show template.identity.moduleName = template.moduleName from rfl,
        show template.identity.className = template.className from rfl]
      split_ifs <;> simp only [String.append_assoc, String.append_empty]
    rw [split] at readable ⊢
    rw [modules]
    exact JavaScript.isReadable_rename classes.1 classes.2 readable
  · exact JavaScript.isReadable_rename (NamesFit.fullClassName ⟨fits, classes.1⟩)
      (NamesFit.fullClassName ⟨otherFits, classes.2⟩) readable

/-- Where the import that Visual Basic adds for a template can be read, it can be with other ids. -/
theorem isReadable_visualBasic (renamed : first.IsRenamed compiler others index second)
    (readable : VisualBasic.rule.IsReadable (VisualBasic.importOf first)) :
    VisualBasic.rule.IsReadable (VisualBasic.importOf second) := by
  rcases (renamed.names .moduleName (by decide)).eq_or_fits idsFit othersFit with
    ⟨same, _⟩ | ⟨_, fits, nonempty⟩
  · have modules : second.moduleName = first.moduleName := same
    rwa [VisualBasic.importOf, modules]
  · have plain : VisualBasic.rule.IsPlain := by decide
    rw [VisualBasic.importOf_eq]
    exact ⟨_, DependencyRule.occurrences_renderOne plain (fits.isCanonical plain nonempty)⟩

/-- **What an included template brings** can be read with other ids where it can be read. -/
theorem isReadable_broughtDependencies (renamed : first.IsRenamed compiler others index second)
    (readable : compiler.emitter.rule.IsReadable (compiler.emitter.broughtDependencies first)) :
    compiler.emitter.rule.IsReadable (compiler.emitter.broughtDependencies second) := by
  have plain := compiler.emitter.isPlain_rule
  have kept := renamed.dependencies
  have content : second.hasContent = first.hasContent := by
    rw [hasContent, hasContent, renamed.body, renamed.functions]
  cases target : compiler.emitter.target with
  | cSharp =>
      simp only [Emitter.broughtDependencies, target] at readable ⊢
      exact kept readable
  | java =>
      simp only [Emitter.broughtDependencies, target] at readable ⊢
      exact kept readable
  | javaScript =>
      have rule : compiler.emitter.rule = JavaScript.rule := by simp [Emitter.rule, target]
      simp only [Emitter.broughtDependencies, target] at readable ⊢
      rw [DependencyRule.isReadable_append_iff plain] at readable ⊢
      rw [rule] at readable kept ⊢
      exact ⟨kept readable.1, renamed.isReadable_javaScript idsFit othersFit readable.2⟩
  | visualBasic =>
      have rule : compiler.emitter.rule = VisualBasic.rule := by simp [Emitter.rule, target]
      simp only [Emitter.broughtDependencies, target, content] at readable ⊢
      split_ifs at readable ⊢
      · rw [DependencyRule.isReadable_append_iff plain] at readable ⊢
        rw [rule] at readable kept ⊢
        exact ⟨kept readable.1, renamed.isReadable_visualBasic idsFit othersFit readable.2⟩
      · exact kept readable

end Template.IsRenamed

/-! ## Trees -/

theorem IncludeTree.includedTemplates_addIncluded (tree child : IncludeTree) :
    (tree.addIncluded child).includedTemplates = tree.includedTemplates ++ child.templates := by
  have whole := templates_addIncluded tree child
  rw [templates_eq, templates_eq, List.cons_append] at whole
  exact (List.cons.inj whole).2

/-- The tree of the template with an index, with the ids of a compiler and with others. -/
structure IncludeTree.IsRenamed (compiler : Compiler Id) (others : Nat → String) (index : Nat)
    (tree other : IncludeTree) : Prop where
  template : tree.template.IsRenamed compiler others index other.template
  included : List.Forall₂ (Identity.IsRenamed compiler.ids others)
    (tree.includedTemplates.map Template.identity) (other.includedTemplates.map Template.identity)

namespace IncludeTree.IsRenamed

variable {compiler : Compiler Id} {others : Nat → String} {index childIndex : Nat}
  {tree other parent parent' child child' : IncludeTree} {ancestors otherAncestors : List Identity}

theorem identities (renamed : tree.IsRenamed compiler others index other) :
    List.Forall₂ (Identity.IsRenamed compiler.ids others) tree.identities other.identities := by
  rw [identities_eq, identities_eq]
  exact .cons renamed.template.identity renamed.included

theorem size_eq (renamed : tree.IsRenamed compiler others index other) :
    other.size = tree.size := by
  have lengths := renamed.identities.length_eq
  rw [IncludeTree.identities, IncludeTree.identities, List.length_map, List.length_map] at lengths
  exact lengths.symm

/-- **An included tree that is taken in** is taken in with other ids. -/
theorem exists_adopt (renamed : parent.IsRenamed compiler others index parent')
    (inner : child.IsRenamed compiler others childIndex child')
    (distinct : Function.Injective others)
    (idsFit : ∀ created, FitsDeclaration (compiler.ids created))
    (othersFit : ∀ created, FitsDeclaration (others created))
    (around : List.Forall₂ (Identity.IsRenamed compiler.ids others) ancestors otherAncestors)
    {location : Location}
    (adopted : parent.adopt compiler.emitter ancestors child location = .ok tree)
    (place : Location) :
    ∃ other, parent'.adopt compiler.emitter otherAncestors child' place = .ok other ∧
      tree.IsRenamed compiler others index other := by
  have plain := compiler.emitter.isPlain_rule
  obtain ⟨apart, _⟩ := adopt_eq_ok adopted
  obtain ⟨dependencies, merged, rfl⟩ := exists_of_adopt adopted
  obtain ⟨readable, brought⟩ := DependencyRule.exists_merge_iff.mp ⟨_, merged⟩
  obtain ⟨others', merges⟩ := DependencyRule.exists_merge_iff.mpr
    ⟨renamed.template.dependencies readable,
      inner.template.isReadable_broughtDependencies idsFit othersFit brought⟩
  have outside := Identity.IsRenamed.disjoint distinct inner.identities renamed.identities
    fun identity member => (apart identity member).1
  have elsewhere := Identity.IsRenamed.disjoint distinct inner.identities around
    fun identity member => (apart identity member).2
  refine ⟨_, adopt_eq (fun identity member => ⟨outside identity member, elsewhere identity member⟩)
    merges, ?_, ?_⟩
  · refine ⟨renamed.template.settings, renamed.template.moduleGrammar,
      renamed.template.engineSlot, renamed.template.body, renamed.template.functions,
      fun kind named => ?_, fun _ => DependencyRule.isReadable_of_merge plain merges⟩
    have names := renamed.template.names kind named
    cases kind <;> exact names
  · rw [includedTemplates_addIncluded, includedTemplates_addIncluded, List.map_append,
      List.map_append]
    exact List.rel_append renamed.included inner.identities

end IncludeTree.IsRenamed

variable {compiler : Compiler Id} {others : Nat → String} {source : String}

/-- A tree and its counterpart with other ids go along with each other. -/
theorem Comparison.renamed {ancestors otherAncestors : List Identity}
    (distinct : Function.Injective others) (index : Nat)
    (around : List.Forall₂ (Identity.IsRenamed compiler.ids others) ancestors otherAncestors) :
    Comparison (IncludeTree.IsRenamed compiler others index) (Directive.IsUndrawn others) ancestors
      otherAncestors where
  addFragments := by
    rintro tree other renamed body functions
    exact ⟨renamed.template.addFragments body functions, renamed.included⟩
  perform := by
    rintro tree other directive template renamed named undrawn performed free
    obtain ⟨counterpart, performs, after⟩ := renamed.template.perform named undrawn performed
    refine ⟨counterpart, performs, fun isName => ?_, after, renamed.included⟩
    obtain ⟨outside, below⟩ := free isName
    refine ⟨after.identity.not_mem distinct around outside, ?_⟩
    rw [Bool.eq_false_iff, Ne, IncludeTree.containsIdentity_iff]
    exact after.identity.not_mem distinct renamed.included
      (IncludeTree.not_mem_of_containsIdentity below)

namespace Compiler

/-- **Where a call of the parser leads, it leads with fresh ids**, whatever stands in for the names
of the templates around. -/
theorem meets_of_fresh (fresh : compiler.IsFresh source others)
    (idsFit : ∀ created, FitsDeclaration (compiler.ids created))
    (othersFit : ∀ created, FitsDeclaration (others created)) (call : Call)
    {ancestors : List Identity} {tree : IncludeTree}
    (hasText : compiler.HasText source call.source)
    (around : List.Forall₂ (Identity.IsRenamed compiler.ids others) call.ancestors ancestors)
    (returned : CanReturn (compiler.parseCall call) (.ok tree)) :
    Meets (fun _ => False) (IncludeTree.IsRenamed compiler others call.created) tree
      (ExceptT.mk ((compiler.withIds others).parseCall { call with ancestors := ancestors })) := by
  induction levels : compiler.emitter.config.maxIncludeDepth - call.ancestors.length
    using Nat.strongRecOn generalizing call ancestors tree with
  | ind left ih =>
      have comparison := Comparison.renamed fresh.distinct call.created around
      refine meets_of_parseCall compiler (compiler.withIds others) call
        { call with ancestors := ancestors } rfl comparison rfl
        (fun last _ followed => ?_) returned
      have start : (compiler.startDraft call.created call.settings).Alongside
          (IncludeTree.IsRenamed compiler others call.created)
          ((compiler.withIds others).startDraft call.created call.settings) :=
        ⟨⟨_, isBetween_startDraft⟩, ⟨_, isBetween_startDraft⟩, rfl,
          .start compiler others call.created call.settings fresh.configured, .nil⟩
      refine meets_of_sections compiler (compiler.withIds others) call
        { call with ancestors := ancestors } rfl comparison start
        (fun s => isNamed_of_mem_sections) (fresh.undeclared _ hasText) ?_ followed
      rintro parent other path location elsewhere grown renamed _ composed
      obtain ⟨room, target, text, child, resolved, loaded, parsed, adopted, _⟩ :=
        exists_call_of_compose composed
      have deeper : List.Forall₂ (Identity.IsRenamed compiler.ids others)
          (call.ancestors ++ [parent.template.identity])
          (ancestors ++ [other.template.identity]) :=
        List.rel_append around (.cons renamed.template.identity .nil)
      have again := ih _ (by simp only [List.length_append, List.length_singleton]; omega)
        _ (.inr ⟨_, loaded⟩) deeper parsed rfl
      rw [← renamed.size_eq] at again
      refine meets_of_compose (compiler.withIds others) { call with ancestors := ancestors }
        (around.length_eq ▸ room) ?_ loaded again nofun fun included trees =>
          renamed.exists_adopt trees fresh.distinct idsFit othersFit around adopted elsewhere
      rw [renamed.template.settings]
      exact IncludeTarget.resolve_elsewhere ⟨rfl, rfl⟩ resolved elsewhere

/-- **A text that can be parsed can be parsed with fresh ids**, where these and the ids that it has
been parsed with fit into a declaration: the tree has the names that are generated from these. -/
theorem exists_parse_of_fresh (compiler : Compiler Id) {settings : Settings} {tree : IncludeTree}
    (fresh : compiler.IsFresh source others)
    (idsFit : ∀ created, FitsDeclaration (compiler.ids created))
    (othersFit : ∀ created, FitsDeclaration (others created))
    (returned : CanReturn (compiler.parse source settings) (.ok tree)) :
    ∃ other, CanReturn ((compiler.withIds others).parse source settings) (.ok other) ∧
      tree.IsRenamed compiler others 0 other :=
  (meets_of_fresh fresh idsFit othersFit ⟨0, [], settings, source⟩ (.inl rfl) .nil
    returned).exists_eq

end Compiler

end TemplateCompiler
