import TemplateCompiler.Proofs.Comparisons.Lockstep
import TemplateCompiler.Proofs.Comparisons.Swapped
import TemplateCompiler.Proofs.Dependencies.Refusals

/-! # Trees without line breaks

A tree filters another one where each template of it is the one at the same place without the
literals that are single line breaks, up to its dependencies and its external code
(`IncludeTree.Filters`). These two may differ in what included templates bring, but they are refused
for the same reasons. A tree that drops line breaks as it is read goes on to filter the tree that
keeps them (`Correspondence.filters`), and takes in what filters an included tree
(`IncludeTree.Filters.adopt`).
-/

namespace TemplateCompiler

open Markup

/-- Whether the fragment is a literal that is a single line break. -/
def Fragment.isLineBreak (fragment : Fragment) : Bool :=
  fragment.kind == .literal && (fragment.source == "\n" || fragment.source == "\r\n")

namespace Template

/-- The template without literals that are single line breaks. -/
def withoutLineBreaks (template : Template) : Template :=
  template.withFragments (template.body.filter fun fragment => !fragment.isLineBreak)
    (template.functions.filter fun fragment => !fragment.isLineBreak)

/-- The template without the dependencies and the external code, to which includes add. -/
def withoutBlocks (template : Template) : Template := template.withBlocks "" ""

variable {template other : Template} {kind : NameKind} {name : String}

theorem declare_withoutBlocks (template : Template) (kind : NameKind) (name : String) :
    template.withoutBlocks.declare kind name = (template.declare kind name).map withoutBlocks :=
  declare_withBlocks template "" "" kind name

theorem declare_withoutLineBreaks (template : Template) (kind : NameKind) (name : String) :
    template.withoutLineBreaks.declare kind name =
      (template.declare kind name).map withoutLineBreaks := by
  cases kind with
  | className =>
      simp only [declare, declareClass, withoutLineBreaks, withFragments]
      split_ifs
      · cases template.classSlot.declare .className name <;> rfl
      · rfl
  | moduleName =>
      have grammar : template.withoutLineBreaks.moduleGrammar = template.moduleGrammar := rfl
      simp only [declare, declareModule, grammar]
      split_ifs
      · simp only [withoutLineBreaks, withFragments]
        cases template.moduleSlot.declare .moduleName name <;> rfl
      · rfl
  | engineName =>
      simp only [declare, declareEngine, withoutLineBreaks, withFragments]
      split_ifs
      · cases template.engineSlot.declare .engineName name <;> rfl
      · rfl

@[simp] theorem withoutBlocks_addDependency (template : Template) (declaration : String) :
    (template.addDependency declaration).withoutBlocks = template.withoutBlocks := rfl

@[simp] theorem withoutBlocks_addExternalCode (template : Template) (code : String) :
    (template.addExternalCode code).withoutBlocks = template.withoutBlocks := rfl

@[simp] theorem withoutBlocks_dependencies (template : Template) (dependencies : String) :
    { template with dependencies := dependencies }.withoutBlocks = template.withoutBlocks := rfl

@[simp] theorem withoutLineBreaks_addDependency (template : Template) (declaration : String) :
    (template.addDependency declaration).withoutLineBreaks =
      template.withoutLineBreaks.addDependency declaration := rfl

@[simp] theorem withoutLineBreaks_addExternalCode (template : Template) (code : String) :
    (template.addExternalCode code).withoutLineBreaks =
      template.withoutLineBreaks.addExternalCode code := rfl

@[simp] theorem withoutLineBreaks_dependencies (template : Template) (dependencies : String) :
    { template with dependencies := dependencies }.withoutLineBreaks =
      { template.withoutLineBreaks with dependencies := dependencies } := rfl

theorem withoutLineBreaks_addFragments (template : Template) (body functions : FragmentStream) :
    (template.addFragments body functions).withoutLineBreaks =
      template.withoutLineBreaks.addFragments (body.filter fun fragment => !fragment.isLineBreak)
        (functions.filter fun fragment => !fragment.isLineBreak) := by
  simp [withoutLineBreaks, addFragments, withFragments]

end Template

/-! ## Templates of a tree, one by one -/

namespace IncludeTree

mutual

/-- The tree with a function applied to each template. -/
def mapTemplates (f : Template → Template) : IncludeTree → IncludeTree
  | ⟨template, included⟩ => ⟨f template, mapForest f included⟩

/-- Several trees with a function applied to each template. -/
def mapForest (f : Template → Template) : List IncludeTree → List IncludeTree
  | [] => []
  | tree :: rest => tree.mapTemplates f :: mapForest f rest

end

theorem mapForest_append (f : Template → Template) (front back : List IncludeTree) :
    mapForest f (front ++ back) = mapForest f front ++ mapForest f back := by
  induction front with
  | nil => rfl
  | cons tree front ih => rw [List.cons_append, mapForest, mapForest, ih, List.cons_append]

theorem mapTemplates_eq (f : Template → Template) (tree : IncludeTree) :
    tree.mapTemplates f = ⟨f tree.template, mapForest f tree.included⟩ := by
  cases tree
  rw [mapTemplates]

mutual

theorem templates_mapTemplates (f : Template → Template) :
    ∀ tree : IncludeTree, (tree.mapTemplates f).templates = tree.templates.map f
  | ⟨template, included⟩ => by
      rw [mapTemplates, templates, templates, List.map_cons, forestTemplates_mapForest]

theorem forestTemplates_mapForest (f : Template → Template) :
    ∀ forest : List IncludeTree,
      forestTemplates (mapForest f forest) = (forestTemplates forest).map f
  | [] => by
      rw [mapForest, forestTemplates, List.map_nil]
  | tree :: rest => by
      rw [mapForest, forestTemplates, forestTemplates, List.map_append, templates_mapTemplates,
        forestTemplates_mapForest]

end

theorem mapTemplates_withTemplate (f : Template → Template) (tree : IncludeTree)
    (template : Template) :
    (tree.withTemplate template).mapTemplates f =
      (tree.mapTemplates f).withTemplate (f template) := by
  rw [mapTemplates_eq, mapTemplates_eq]
  rfl

theorem mapTemplates_addIncluded (f : Template → Template) (tree child : IncludeTree) :
    (tree.addIncluded child).mapTemplates f =
      (tree.mapTemplates f).addIncluded (child.mapTemplates f) := by
  rw [mapTemplates_eq, mapTemplates_eq]
  simp only [addIncluded, mapForest_append, mapForest]

variable {f : Template → Template} (kept : ∀ template, (f template).identity = template.identity)
include kept

theorem identities_mapTemplates (tree : IncludeTree) :
    (tree.mapTemplates f).identities = tree.identities := by
  rw [identities, identities, templates_mapTemplates, List.map_map]
  exact List.map_congr_left fun template _ => kept template

theorem containsIdentity_mapTemplates (tree : IncludeTree) (identity : Identity) :
    (tree.mapTemplates f).containsIdentity identity = tree.containsIdentity identity := by
  rw [containsIdentity, containsIdentity, includedTemplates, includedTemplates, mapTemplates_eq,
    forestTemplates_mapForest, List.any_map]
  exact List.any_congr rfl fun template => by rw [Function.comp, kept]

omit kept

/-! ## Trees that filter others -/

/-- The filtered tree has the templates of the tree, in the same places, without line breaks. The
dependencies at the top are refused for the same reason, if they are. -/
structure Filters (rule : DependencyRule) (tree filtered : IncludeTree) : Prop where
  templates : filtered.mapTemplates Template.withoutBlocks =
    tree.mapTemplates fun template => template.withoutLineBreaks.withoutBlocks
  check : rule.check filtered.template.dependencies = rule.check tree.template.dependencies
  fits : FitsDeclaration tree.template.moduleName
  named : tree.template.moduleName ≠ ""

namespace Filters

variable {rule : DependencyRule} {tree filtered : IncludeTree} {template other : Template}

theorem template_eq (filters : Filters rule tree filtered) :
    filtered.template.withoutBlocks = tree.template.withoutLineBreaks.withoutBlocks := by
  have same := congrArg IncludeTree.template filters.templates
  rwa [mapTemplates_eq, mapTemplates_eq] at same

theorem identity_eq (filters : Filters rule tree filtered) :
    filtered.template.identity = tree.template.identity := by
  have same := congrArg Template.identity filters.template_eq
  exact same

theorem settings_eq (filters : Filters rule tree filtered) :
    filtered.template.settings = tree.template.settings := by
  have same := congrArg Template.settings filters.template_eq
  exact same

theorem identities_eq (filters : Filters rule tree filtered) :
    filtered.identities = tree.identities := by
  rw [← identities_mapTemplates (f := Template.withoutBlocks) fun _ => rfl, filters.templates,
    identities_mapTemplates (f := fun template => template.withoutLineBreaks.withoutBlocks)
      fun _ => rfl]

theorem containsIdentity_eq (filters : Filters rule tree filtered) (identity : Identity) :
    filtered.containsIdentity identity = tree.containsIdentity identity := by
  rw [← containsIdentity_mapTemplates (f := Template.withoutBlocks) fun _ => rfl,
    filters.templates,
    containsIdentity_mapTemplates (f := fun template => template.withoutLineBreaks.withoutBlocks)
      fun _ => rfl]

theorem size_eq (filters : Filters rule tree filtered) : filtered.size = tree.size := by
  have lengths := congrArg List.length filters.identities_eq
  rwa [identities, identities, List.length_map, List.length_map] at lengths

/-- What is made of the top template is filtered where it is. -/
theorem withTemplate (filters : Filters rule tree filtered)
    (same : other.withoutBlocks = template.withoutLineBreaks.withoutBlocks)
    (check : rule.check other.dependencies = rule.check template.dependencies)
    (fits : FitsDeclaration template.moduleName) (named : template.moduleName ≠ "") :
    Filters rule (tree.withTemplate template) (filtered.withTemplate other) where
  templates := by
    rw [mapTemplates_withTemplate, mapTemplates_withTemplate, filters.templates, same]
  check := check
  fits := fits
  named := named

/-- Fragments are added as they are where the lists without line breaks are the same. -/
theorem addFragments (filters : Filters rule tree filtered)
    {body functions otherBody otherFunctions : FragmentStream}
    (bodies : otherBody = body.filter fun fragment => !fragment.isLineBreak)
    (others : otherFunctions = functions.filter fun fragment => !fragment.isLineBreak) :
    Filters rule (tree.withTemplate (tree.template.addFragments body functions))
      (filtered.withTemplate (filtered.template.addFragments otherBody otherFunctions)) := by
  subst bodies others
  refine filters.withTemplate ?_ filters.check filters.fits filters.named
  rw [Template.withoutLineBreaks_addFragments]
  exact congrArg (Template.addFragments · _ _) filters.template_eq

/-- A declared name is the same in both trees. -/
theorem declare (filters : Filters rule tree filtered) (kind : NameKind) (name : String)
    (nonempty : name ≠ "") (spelled : kind.CanSpell name) :
    (∃ cause, tree.template.declare kind name = .error cause ∧
      filtered.template.declare kind name = .error cause) ∨
    ∃ template declared, tree.template.declare kind name = .ok template ∧
      filtered.template.declare kind name = .ok declared ∧
      declared.identity = template.identity ∧
      Filters rule (tree.withTemplate template) (filtered.withTemplate declared) := by
  have both := congrArg (Template.declare · kind name) filters.template_eq
  simp only [Template.declare_withoutBlocks, Template.declare_withoutLineBreaks] at both
  cases accepts : tree.template.declare kind name with
  | error cause =>
      cases accepted : filtered.template.declare kind name with
      | error reason =>
          rw [accepts, accepted] at both
          cases both
          exact .inl ⟨_, rfl, rfl⟩
      | ok declared =>
          rw [accepts, accepted] at both
          cases both
  | ok template =>
      cases accepted : filtered.template.declare kind name with
      | error reason =>
          rw [accepts, accepted] at both
          cases both
      | ok declared =>
          rw [accepts, accepted] at both
          have same : declared.withoutBlocks = template.withoutLineBreaks.withoutBlocks :=
            Except.ok.inj both
          have identity := congrArg Template.identity same
          refine .inr ⟨template, declared, rfl, rfl, identity, ?_⟩
          have written := Template.declare_eq_ok accepts
          have check : rule.check declared.dependencies = rule.check template.dependencies := by
            have writes := Template.declare_eq_ok accepted
            have kept := filters.check
            cases kind <;> rw [written.2, writes.2] <;> exact kept
          have fits (module_ : kind = .moduleName) : FitsDeclaration name := fun c inside =>
            isSolid_of_isNameChar (spelled (by rw [module_]; decide) c inside)
          refine filters.withTemplate same check ?_ ?_
          · cases kind with
            | moduleName => exact written.2 ▸ fits rfl
            | className => exact written.2 ▸ filters.fits
            | engineName => exact written.2 ▸ filters.fits
          · cases kind with
            | moduleName => exact written.2 ▸ nonempty
            | className => exact written.2 ▸ filters.named
            | engineName => exact written.2 ▸ filters.named

end Filters

end IncludeTree

/-- **A tree that drops line breaks** as it is read filters the one that keeps them. -/
theorem Correspondence.filters {rule : DependencyRule} (plain : rule.IsPlain) (writer : Writer) :
    Correspondence (IncludeTree.Filters rule) { writer with skipsLineBreaks := false }
      { writer with skipsLineBreaks := true } where
  value := rfl
  transform := rfl
  contains filters := filters.containsIdentity_eq
  withLiteral filters mode literal := by
    have dropped : (Piece.literal literal).fragments { writer with skipsLineBreaks := true } =
        ((Piece.literal literal).fragments { writer with skipsLineBreaks := false }).filter
          fun fragment => !fragment.isLineBreak := by
      by_cases empty : String.ofList literal = ""
      · simp [Piece.fragments, empty]
      · by_cases lineBreak : String.ofList literal = "\n" ∨ String.ofList literal = "\r\n"
        · rcases lineBreak with feed | both
          · simp [Piece.fragments, feed, Fragment.isLineBreak]
          · simp [Piece.fragments, both, Fragment.isLineBreak]
        · obtain ⟨feed, both⟩ := not_or.mp lineBreak
          simp [Piece.fragments, empty, feed, both, Fragment.isLineBreak]
    by_cases off : mode = .off
    · simp only [IncludeTree.withLiteral, off, if_true]
      exact filters.addFragments dropped rfl
    · simp only [IncludeTree.withLiteral, off, if_false]
      exact filters.addFragments rfl dropped
  addFragments filters body functions plain := by
    have kept (stream : FragmentStream) (plain : ∀ fragment ∈ stream, fragment.kind ≠ .literal) :
        stream = stream.filter fun fragment => !fragment.isLineBreak := by
      refine (List.filter_eq_self.mpr fun fragment inside => ?_).symm
      simp [Fragment.isLineBreak, plain fragment inside]
    exact filters.addFragments
      (kept body fun fragment inside => plain fragment (List.mem_append_left _ inside))
      (kept functions fun fragment inside => plain fragment (List.mem_append_right _ inside))
  addDependency filters declaration := by
    refine filters.withTemplate ?_ ?_ filters.fits filters.named
    · simpa using filters.template_eq
    · simp only [Template.addDependency]
      rw [DependencyRule.check_addLine plain, DependencyRule.check_addLine plain, filters.check]
  addExternalCode filters code :=
    filters.withTemplate (by simpa using filters.template_eq) filters.check filters.fits
      filters.named
  declare filters := filters.declare

end TemplateCompiler
