import Mathlib.Data.List.Nodup
import Mathlib.Data.List.TakeWhile
import TemplateCompiler.Proofs.Parsing.Runs

/-! # Identities in a tree of includes

No two templates of a parsed tree have the same identity
(`Compiler.identities_nodup_of_parse`). A tree is checked where it is included and a name
where it is declared; together the two checks keep the identities of every tree in the
making apart, although the including templates can still be renamed after an include.

The dotted names of the identities are apart as well: a class name has no dot in it, so
the last dot of a dotted name divides module and class.
-/

namespace TemplateCompiler

open MonadAttach (CanReturn)

/-- A name without dots. -/
def Undotted (name : String) : Prop := '.' ∉ name.toList

/-- Plain identifiers have no dots. -/
theorem Grammar.undotted_of_plain {name : String} (accepted : Grammar.plain.accepts name = true) :
    Undotted name := by
  intro dotted
  simp only [accepts] at accepted
  cases characters : name.toList with
  | nil =>
      rw [characters] at dotted
      cases dotted
  | cons c rest =>
      rw [characters] at accepted dotted
      simp only [isPlain, Bool.and_eq_true, List.all_eq_true] at accepted
      obtain ⟨first, others⟩ := accepted
      rcases List.mem_cons.mp dotted with rfl | inside
      · exact absurd first (by decide)
      · exact absurd (others _ inside) (by decide)

/-- The class name of an identity is what stands behind the last dot of its text. -/
theorem Identity.takeWhile_text {identity : Identity} (plain : Undotted identity.className) :
    identity.text.toList.reverse.takeWhile (· != '.') = identity.className.toList.reverse := by
  have behind : ∀ c ∈ identity.className.toList.reverse, (c != '.') = true := by
    intro c member
    have different : c ≠ '.' := fun same => plain (same ▸ List.mem_reverse.mp member)
    simpa using different
  unfold text
  split_ifs
  · exact List.takeWhile_eq_self_iff.mpr behind
  · rw [String.toList_append, String.toList_append, List.reverse_append,
      List.takeWhile_append_of_pos behind]
    simp

/-- A module name with a dot in front of a class name cannot be left out. -/
theorem ne_dotted (moduleName className : String) : className ≠ moduleName ++ "." ++ className := by
  intro same
  have lengths := congrArg String.length same
  simp only [String.length_append] at lengths
  have dot : ".".length = 1 := rfl
  omega

/-- Dotted names determine identities whose class names have no dots. -/
theorem Identity.eq_of_text_eq {left right : Identity} (leftPlain : Undotted left.className)
    (rightPlain : Undotted right.className) (same : left.text = right.text) : left = right := by
  have classes : left.className = right.className := by
    have lastParts := takeWhile_text leftPlain
    rw [same, takeWhile_text rightPlain] at lastParts
    exact (String.toList_injective (List.reverse_inj.mp lastParts)).symm
  obtain ⟨leftModule, className⟩ := left
  obtain ⟨rightModule, rightClass⟩ := right
  simp only at classes
  subst classes
  have modules : leftModule = rightModule := by
    simp only [text] at same
    split_ifs at same with leftBare rightBare rightBare
    · rw [String.isEmpty_iff.mp leftBare, String.isEmpty_iff.mp rightBare]
    · exact absurd same (ne_dotted _ _)
    · exact absurd same.symm (ne_dotted _ _)
    · exact (String.append_left_inj _).mp ((String.append_left_inj _).mp same)
  rw [modules]

namespace IncludeTree

/-- The identity at the top of a tree comes first. -/
theorem identities_eq (tree : IncludeTree) :
    tree.identities = tree.template.identity :: tree.includedTemplates.map Template.identity := by
  rw [identities, templates_eq, List.map_cons]

theorem identities_addIncluded (tree child : IncludeTree) :
    (tree.addIncluded child).identities = tree.identities ++ child.identities := by
  rw [identities, templates_addIncluded, List.map_append, identities, identities]

/-- The search finds the identities of included templates. -/
theorem containsIdentity_iff {tree : IncludeTree} {identity : Identity} :
    tree.containsIdentity identity = true ↔
      identity ∈ tree.includedTemplates.map Template.identity := by
  simp [containsIdentity, List.any_eq_true]

/-- An identity that the search does not find is not among those of included templates. -/
theorem not_mem_of_containsIdentity {tree : IncludeTree} {identity : Identity}
    (absent : tree.containsIdentity identity = false) :
    identity ∉ tree.includedTemplates.map Template.identity :=
  fun member => Bool.eq_false_iff.mp absent (containsIdentity_iff.mpr member)

/-- Distinct identities have distinct texts where no class name has a dot. -/
theorem texts_nodup {tree : IncludeTree} (distinct : tree.identities.Nodup)
    (undotted : ∀ template ∈ tree.templates, Undotted template.className) :
    (tree.identities.map Identity.text).Nodup := by
  refine List.Nodup.map_on ?_ distinct
  intro left leftMember right rightMember same
  obtain ⟨leftTemplate, leftInside, rfl⟩ := List.mem_map.mp leftMember
  obtain ⟨rightTemplate, rightInside, rfl⟩ := List.mem_map.mp rightMember
  exact Identity.eq_of_text_eq (undotted _ leftInside) (undotted _ rightInside) same

/-- An edit keeps the identity at the top of a tree, or leads to one that no included
template has. -/
theorem Edit.identity_cases {ancestors : List Identity} {tree : IncludeTree} {template : Template}
    (edit : tree.Edit ancestors template) :
    template.identity = tree.template.identity ∨
      template.identity ∉ tree.includedTemplates.map Template.identity := by
  cases edit with
  | name kind name declared unused =>
      by_cases engine : kind = .engineName
      · subst engine
        exact .inl ((Template.declare_eq_ok declared).2 ▸ rfl)
      · exact .inr (not_mem_of_containsIdentity (unused engine).2)
  | _ => exact .inl rfl

/-- An edit keeps the class name at the top of a tree, or writes a plain identifier. -/
theorem Edit.undotted {ancestors : List Identity} {tree : IncludeTree} {template : Template}
    (edit : tree.Edit ancestors template) (plain : Undotted tree.template.className) :
    Undotted template.className := by
  cases edit with
  | name kind name declared unused =>
      have written := Template.declare_eq_ok declared
      cases kind with
      | className =>
          rw [written.2]
          exact Grammar.undotted_of_plain written.1
      | moduleName => exact written.2 ▸ plain
      | engineName => exact written.2 ▸ plain
  | _ => exact plain

/-- **Edits keep identities apart.** -/
theorem Edit.identities_nodup {ancestors : List Identity} {tree : IncludeTree}
    {template : Template} (edit : tree.Edit ancestors template) (distinct : tree.identities.Nodup) :
    (tree.withTemplate template).identities.Nodup := by
  rw [identities_eq, List.nodup_cons] at distinct ⊢
  refine ⟨?_, distinct.2⟩
  rcases edit.identity_cases with kept | fresh
  · exact kept ▸ distinct.1
  · exact fresh

/-- **Taking an included tree in keeps identities apart.** -/
theorem adopt_identities_nodup {emitter : Emitter} {ancestors : List Identity}
    {parent child tree : IncludeTree} {location : Location} (distinct : parent.identities.Nodup)
    (inner : child.identities.Nodup)
    (adopted : parent.adopt emitter ancestors child location = .ok tree) :
    tree.identities.Nodup := by
  obtain ⟨apart, dependencies, externalCode, rfl⟩ := adopt_eq_ok adopted
  have same : (parent.withTemplate { parent.template with
      dependencies := dependencies, externalCode := externalCode }).identities =
        parent.identities := by
    rw [identities_eq, identities_eq]
    rfl
  rw [identities_addIncluded, same]
  refine List.nodup_append.mpr ⟨distinct, inner, ?_⟩
  rintro outer outerMember identity member rfl
  exact (apart _ member).1 outerMember

end IncludeTree

namespace Compiler

variable {m : Type → Type} [Monad m] [MonadAttach m]

/-- Distinct identities are an invariant of every compiler. -/
theorem identities_invariant (compiler : Compiler m) :
    compiler.Invariant fun tree => tree.identities.Nodup where
  fresh := fun _ _ _ _ => List.nodup_singleton _
  edit := fun _ _ _ distinct edit => edit.identities_nodup distinct
  adopt := fun _ _ _ _ _ _ _ distinct inner _ _ adopted =>
    IncludeTree.adopt_identities_nodup distinct inner adopted

/-- Where ids have no dots, class names have none: the others are plain identifiers. -/
theorem undotted_invariant {compiler : Compiler m}
    (ids : ∀ created, Undotted (compiler.ids created)) :
    compiler.Invariant fun tree => ∀ template ∈ tree.templates, Undotted template.className := by
  refine .of_templates ?_ (fun _ _ _ plain edit => edit.undotted plain) (fun _ _ _ plain => plain)
  intro settings created template new dotted
  rw [newTemplate_eq] at new
  cases new
  obtain ⟨_, _, prepared⟩ :=
    compiler.emitter.prepare_eq (compiler.boundTemplate settings (compiler.ids created))
  rw [prepared] at dotted
  simp only [Template.className, boundTemplate, Template.empty, NameSlot.value_generated,
    Template.generatedClass, String.toList_append, List.mem_append] at dotted
  rcases dotted with inPrefix | inId
  · exact absurd inPrefix (by decide)
  · exact ids created inId

variable [LawfulMonad m] [LawfulMonadAttach m]

/-- **Identities are unique in a tree of includes**, and so are their texts where the ids of
generated names have no dots. -/
theorem identities_nodup_of_parse (compiler : Compiler m) (source : String) (settings : Settings)
    (tree : IncludeTree) (returned : CanReturn (compiler.parse source settings) (.ok tree)) :
    tree.identities.Nodup ∧
      ((∀ created, Undotted (compiler.ids created)) →
        (tree.identities.map Identity.text).Nodup) := by
  have distinct := compiler.identities_invariant.of_parse returned
  refine ⟨distinct, fun ids => ?_⟩
  exact IncludeTree.texts_nodup distinct ((undotted_invariant ids).of_parse returned)

/-- The identities of a page that is named between its two includes, one of which names its
class and the other its module. -/
theorem identities_nodup_of_page :
    let compiler := Compiler.ofTexts .cSharp
      [("/site/nav.blade", "<%@\x60Nav\x60%>"), ("/site/foot.blade", "<%$\x60Site.Foot\x60%>")]
    let identities : List Identity :=
      [⟨"BladeModule", "Home"⟩, ⟨"BladeModulei", "Nav"⟩, ⟨"Site.Foot", "BladeTemplateii"⟩]
    (compiler.parse "<%# 'nav' %><%@\x60Home\x60%><%# 'foot' %>"
        ⟨"home.blade", "/site", true, false⟩).toOption.map IncludeTree.identities =
        some identities ∧
      identities.Nodup ∧ (identities.map Identity.text).Nodup := by
  intro compiler identities
  have parsed : (compiler.parse "<%# 'nav' %><%@\x60Home\x60%><%# 'foot' %>"
      ⟨"home.blade", "/site", true, false⟩).toOption.map IncludeTree.identities =
      some identities := by decide +kernel
  obtain ⟨tree, result, listed⟩ := Option.map_eq_some_iff.mp parsed
  have ids : ∀ created, Undotted (compiler.ids created) := by
    intro created dotted
    simp [compiler, ofTexts] at dotted
  have unique := compiler.identities_nodup_of_parse _ _ tree (canReturn_of_toOption result)
  exact ⟨parsed, listed ▸ unique.1, listed ▸ unique.2 ids⟩

end Compiler

end TemplateCompiler
