import TemplateCompiler.Proofs.Comparisons.Shifted
import TemplateCompiler.Proofs.Dependencies.Order

/-! # Included trees that trade places

A tree that takes in one tree and then another one can take them in the other way round
(`IncludeTree.exists_adopt_swapped`). The two trees that come of it differ in the order of the
included trees, and in that of their dependencies and their external code
(`IncludeTree.Swapped`); they go along with each other (`Comparison.swapped`).
-/

namespace TemplateCompiler

open Markup
open MonadAttach (CanReturn)

namespace Template

/-- The template with other dependencies and other external code. -/
def withBlocks (template : Template) (dependencies externalCode : String) : Template :=
  { template with dependencies := dependencies, externalCode := externalCode }

theorem declare_withBlocks (template : Template) (dependencies externalCode : String)
    (kind : NameKind) (name : String) :
    (template.withBlocks dependencies externalCode).declare kind name =
      (template.declare kind name).map (·.withBlocks dependencies externalCode) := by
  cases kind with
  | className =>
      simp only [declare, declareClass, withBlocks]
      split_ifs
      · cases template.classSlot.declare .className name <;> rfl
      · rfl
  | moduleName =>
      have grammar : (template.withBlocks dependencies externalCode).moduleGrammar =
        template.moduleGrammar := rfl
      simp only [declare, declareModule, grammar]
      split_ifs
      · simp only [withBlocks]
        cases template.moduleSlot.declare .moduleName name <;> rfl
      · rfl
  | engineName =>
      simp only [declare, declareEngine, withBlocks]
      split_ifs
      · cases template.engineSlot.declare .engineName name <;> rfl
      · rfl

/-- Directives do not look at dependencies and external code. -/
theorem exists_perform_withBlocks {template performed : Template} {directive : Directive}
    (performs : template.perform directive = .ok performed) (dependencies externalCode : String) :
    ∃ after behind, (template.withBlocks dependencies externalCode).perform directive =
      .ok (performed.withBlocks after behind) := by
  have declares {kind : NameKind} {name : String}
      (declared : template.declare kind name = .ok performed) :
      (template.withBlocks dependencies externalCode).declare kind name =
        .ok (performed.withBlocks dependencies externalCode) := by
    rw [declare_withBlocks, declared]
    rfl
  cases directive with
  | name kind chars => exact ⟨_, _, declares performs⟩
  | inclusion path =>
      cases performs
      exact ⟨_, _, rfl⟩
  | body region tokens =>
      cases region with
      | engineName =>
          simp only [perform] at performs ⊢
          split at performs
          · exact ⟨_, _, declares performs⟩
          · cases performs
            exact ⟨_, _, rfl⟩
      | dependency =>
          cases performs
          exact ⟨Text.addLine dependencies (dependencyText tokens), externalCode, rfl⟩
      | externalCode =>
          cases performs
          exact ⟨dependencies, Text.addLine externalCode (externalText tokens), rfl⟩
      | _ =>
          cases performs
          exact ⟨dependencies, externalCode, rfl⟩

end Template

namespace IncludeTree

/-- The tree that has taken in an included tree, with the dependencies that come of it. -/
def taking (emitter : Emitter) (parent child : IncludeTree) (dependencies : String) :
    IncludeTree where
  template := parent.template.withBlocks dependencies
    (Text.addLine parent.template.externalCode (emitter.broughtCode child.template))
  included := parent.included ++ [child]

theorem identities_taking (emitter : Emitter) (parent child : IncludeTree) (dependencies : String) :
    (parent.taking emitter child dependencies).identities =
      parent.identities ++ child.identities := by
  have added := identities_addIncluded ⟨(parent.taking emitter child dependencies).template,
    parent.included⟩ child
  rw [identities_eq parent]
  exact added

theorem size_taking (emitter : Emitter) (parent child : IncludeTree) (dependencies : String) :
    (parent.taking emitter child dependencies).size = parent.size + child.size := by
  have lengths := congrArg List.length (identities_taking emitter parent child dependencies)
  rwa [List.length_append, identities, identities, identities, List.length_map, List.length_map,
    List.length_map] at lengths

theorem identities_withLiteral (tree : IncludeTree) (writer : Writer) (mode : FunctionMode)
    (literal : List Char) :
    (tree.withLiteral writer mode literal).identities = tree.identities := by
  rw [identities_eq, identities_eq]
  rfl

/-- A tree takes in another one where their identities are apart and their dependencies can be
merged. -/
theorem adopt_eq_ok_iff {emitter : Emitter} {ancestors : List Identity}
    {parent child tree : IncludeTree} {location : Location} :
    parent.adopt emitter ancestors child location = .ok tree ↔
      (∀ identity ∈ child.identities, identity ∉ parent.identities ∧ identity ∉ ancestors) ∧
        ∃ dependencies, emitter.rule.merge parent.template.dependencies
            (emitter.broughtDependencies child.template) = .ok dependencies ∧
          tree = parent.taking emitter child dependencies := by
  constructor
  · intro adopted
    exact ⟨(adopt_eq_ok adopted).1, exists_of_adopt adopted⟩
  · rintro ⟨apart, dependencies, merged, rfl⟩
    exact adopt_eq apart merged

/-- Trees that include the same trees, two of which have traded places, and whose top templates
differ in the order of their dependencies and of their external code. -/
structure Swapped (rule : DependencyRule) (front : List IncludeTree) (first second : IncludeTree)
    (tree other : IncludeTree) : Prop where
  template : ∃ dependencies externalCode,
    other.template = tree.template.withBlocks dependencies externalCode ∧
      rule.SameLines tree.template.dependencies dependencies
  included : ∃ back, tree.included = front ++ first :: second :: back ∧
    other.included = front ++ second :: first :: back

variable {emitter : Emitter} {rule : DependencyRule} {front : List IncludeTree}
  {parent first second child tree other : IncludeTree} {ancestors : List Identity}
  {location : Location}

namespace Swapped

theorem identity_eq (swapped : Swapped rule front first second tree other) :
    other.template.identity = tree.template.identity := by
  obtain ⟨_, _, template, _⟩ := swapped.template
  rw [template]
  rfl

theorem settings_eq (swapped : Swapped rule front first second tree other) :
    other.template.settings = tree.template.settings := by
  obtain ⟨_, _, template, _⟩ := swapped.template
  rw [template]
  rfl

theorem includedTemplates_perm (swapped : Swapped rule front first second tree other) :
    other.includedTemplates.Perm tree.includedTemplates := by
  obtain ⟨back, included, otherIncluded⟩ := swapped.included
  rw [includedTemplates, includedTemplates, included, otherIncluded, forestTemplates_eq,
    forestTemplates_eq]
  exact ((List.Perm.swap first second back).append_left front).flatMap_right _

/-- The two trees have the same identities. -/
theorem identities_perm (swapped : Swapped rule front first second tree other) :
    other.identities.Perm tree.identities := by
  rw [identities_eq, identities_eq, swapped.identity_eq]
  exact (swapped.includedTemplates_perm.map _).cons _

theorem size_eq (swapped : Swapped rule front first second tree other) :
    other.size = tree.size := by
  have lengths := swapped.identities_perm.length_eq
  rwa [identities, identities, List.length_map, List.length_map] at lengths

/-- The trees that have traded places are among what a tree includes. -/
theorem le_size (swapped : Swapped rule front first second tree other) :
    1 + (forestTemplates front).length + first.size + second.size ≤ tree.size := by
  obtain ⟨back, included, _⟩ := swapped.included
  rw [show tree.size = tree.templates.length from rfl, templates_eq, includedTemplates, included]
  simp only [size, forestTemplates_append, forestTemplates, List.length_cons, List.length_append]
  omega

theorem addFragments (swapped : Swapped rule front first second tree other)
    (body functions : FragmentStream) :
    Swapped rule front first second
      (tree.withTemplate (tree.template.addFragments body functions))
      (other.withTemplate (other.template.addFragments body functions)) := by
  obtain ⟨dependencies, externalCode, template, lines⟩ := swapped.template
  refine ⟨⟨dependencies, externalCode, ?_, lines⟩, swapped.included⟩
  rw [withTemplate_template, withTemplate_template, template]
  rfl

/-- A tree that one takes in, the other one takes in. -/
theorem exists_adopt (swapped : Swapped emitter.rule front first second parent other)
    (adopted : parent.adopt emitter ancestors child location = .ok tree) (elsewhere : Location) :
    ∃ grown, other.adopt emitter ancestors child elsewhere = .ok grown ∧
      Swapped emitter.rule front first second tree grown := by
  obtain ⟨apart, dependencies, merged, rfl⟩ := adopt_eq_ok_iff.mp adopted
  obtain ⟨others, externalCode, template, lines⟩ := swapped.template
  obtain ⟨back, included, otherIncluded⟩ := swapped.included
  obtain ⟨block, merges, same⟩ := lines.exists_merge emitter.isPlain_rule merged
  refine ⟨other.taking emitter child block, adopt_eq_ok_iff.mpr ⟨?_, block, ?_, rfl⟩,
    ⟨block, Text.addLine externalCode (emitter.broughtCode child.template), ?_, same⟩,
    back ++ [child], ?_, ?_⟩
  · intro identity member
    rw [swapped.identities_perm.mem_iff]
    exact apart identity member
  · rw [template]
    exact merges
  · rw [taking, template]
    rfl
  · rw [taking, included]
    simp
  · rw [taking, otherIncluded]
    simp

end Swapped

/-- **Two trees can be taken in in either order**, with literal text between them. -/
theorem exists_adopt_swapped {writer : Writer} {mode : FunctionMode} {literal : List Char}
    {mid : IncludeTree} {later : Location}
    (adopted : parent.adopt emitter ancestors first location = .ok mid)
    (adopts : (mid.withLiteral writer mode literal).adopt emitter ancestors second later = .ok tree)
    (elsewhere behind : Location) :
    ∃ between other, parent.adopt emitter ancestors second elsewhere = .ok between ∧
      (between.withLiteral writer mode literal).adopt emitter ancestors first behind = .ok other ∧
      Swapped emitter.rule parent.included first second tree other := by
  obtain ⟨apart, dependencies, merged, rfl⟩ := adopt_eq_ok_iff.mp adopted
  obtain ⟨laterApart, dependenciesLater, merges, rfl⟩ := adopt_eq_ok_iff.mp adopts
  obtain ⟨soon, late, mergesSoon, mergesLate, lines⟩ :=
    DependencyRule.exists_merge_swapped emitter.isPlain_rule merged merges
  rw [identities_withLiteral, identities_taking] at laterApart
  refine ⟨parent.taking emitter second soon, _, adopt_eq_ok_iff.mpr ⟨?_, soon, mergesSoon, rfl⟩,
    adopt_eq_ok_iff.mpr ⟨?_, late, mergesLate, rfl⟩, ⟨late, _, rfl, lines⟩, [], ?_, ?_⟩
  · intro identity member
    obtain ⟨outside, around⟩ := laterApart identity member
    exact ⟨fun inside => outside (List.mem_append_left _ inside), around⟩
  · rw [identities_withLiteral, identities_taking]
    intro identity member
    obtain ⟨outside, around⟩ := apart identity member
    refine ⟨fun inside => ?_, around⟩
    rcases List.mem_append.mp inside with inParent | inSecond
    · exact outside inParent
    · exact (laterApart identity inSecond).1 (List.mem_append_right _ member)
  · exact List.append_assoc ..
  · exact List.append_assoc ..

end IncludeTree

/-- Swapped trees go along with each other. -/
theorem Comparison.swapped (rule : DependencyRule) (plain : rule.IsPlain)
    (front : List IncludeTree) (first second : IncludeTree) (ancestors : List Identity) :
    Comparison (IncludeTree.Swapped rule front first second) (fun _ => True) ancestors
      ancestors where
  addFragments swapped := swapped.addFragments
  perform := by
    rintro tree other directive template swapped _ _ performed free
    obtain ⟨dependencies, externalCode, same, lines⟩ := swapped.template
    obtain ⟨after, behind, performs⟩ :=
      Template.exists_perform_withBlocks performed dependencies externalCode
    refine ⟨template.withBlocks after behind, by rw [same]; exact performs,
      fun names => ⟨(free names).1, ?_⟩, ⟨after, behind, rfl, ?_⟩, swapped.included⟩
    · have below := (free names).2
      rw [Bool.eq_false_iff, Ne, IncludeTree.containsIdentity_iff] at below ⊢
      rwa [(swapped.includedTemplates_perm.map _).mem_iff]
    · have added := (Template.added_of_perform performed).1
      have adds : after = directive.dependency?.toList.foldl Text.addLine dependencies :=
        (Template.added_of_perform performs).1
      rw [IncludeTree.withTemplate_template, added, adds]
      cases directive.dependency? with
      | none => exact lines
      | some line => exact lines.addLine plain line

end TemplateCompiler
