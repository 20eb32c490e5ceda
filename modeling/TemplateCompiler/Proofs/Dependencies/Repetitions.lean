import Mathlib.Data.List.Duplicate
import TemplateCompiler.Proofs.Dependencies.Names

/-! # Repeated dependencies

An include folds the dependencies of the including template into a block without repetitions; a
dependency directive adds its text as it stands. So a declaration that a parsed template makes
twice is written by a dependency directive behind the last include
(`Compiler.repetitions_of_parse`).
-/

namespace TemplateCompiler

open Markup
open MonadAttach (CanReturn)

namespace Markup

/-- Whether a directive includes a template. -/
def Directive.isInclusion : Directive → Bool
  | .inclusion _ => true
  | _ => false

/-- The dependencies declared behind the last include. -/
def trailingDependencies (sections : List Section) : List String :=
  (sections.rtakeWhile fun s => !s.directive.isInclusion).filterMap (·.directive.dependency?)

theorem trailingDependencies_of_inclusion {sections : List Section} {s : Section}
    {path : List Char} (includes : s.directive = .inclusion path) :
    trailingDependencies (sections ++ [s]) = [] := by
  rw [trailingDependencies, List.rtakeWhile_concat_neg]
  · rfl
  · simp [includes, Directive.isInclusion]

theorem trailingDependencies_append {sections : List Section} {s : Section}
    (other : ∀ path, s.directive ≠ .inclusion path) :
    trailingDependencies (sections ++ [s]) =
      trailingDependencies sections ++ s.directive.dependency?.toList := by
  rw [trailingDependencies, List.rtakeWhile_concat_pos, List.filterMap_append]
  · cases declared : s.directive.dependency? <;> simp [trailingDependencies, declared]
  · cases directive : s.directive with
    | inclusion path => exact absurd directive (other path)
    | _ => rfl

end Markup

/-- What stands twice in two lists, the first of which has nothing twice, stands in the second. -/
theorem mem_of_duplicate_append {α : Type} {first second : List α} (distinct : first.Nodup) {d : α}
    (twice : List.Duplicate d (first ++ second)) : d ∈ second := by
  classical
  rw [List.duplicate_iff_two_le_count, List.count_append] at twice
  have once := List.nodup_iff_count_le_one.mp distinct d
  exact List.count_pos_iff.mp (by omega)

/-- The dependencies that a target puts into a new template. -/
def Emitter.seededDependencies (emitter : Emitter) (settings : Settings) : String :=
  match emitter.target with
  | .cSharp => ""
  | .javaScript => JavaScript.baseImport
  | .visualBasic => if settings.isInclude then "" else VisualBasic.defaultImports
  | .java => Java.defaultImports

/-- How the block comes about that dependencies are declared behind: it is what the target puts
into a new template, until an include merges it, with the dependencies declared behind it, and what
the included template brings along. -/
inductive Emitter.Settles (emitter : Emitter) (settings : Settings) :
    (read : List Section) → (included : List Template) → (block : String) → Prop
  | seeds : Settles emitter settings [] [] (emitter.seededDependencies settings)
  | other {read : List Section} {included : List Template} {block : String} {s : Section}
      (settles : Settles emitter settings read included block)
      (other : ∀ path, s.directive ≠ .inclusion path) :
      Settles emitter settings (read ++ [s]) included block
  | inclusion {read : List Section} {included : List Template} {block merged : String}
      {s : Section} {path : List Char} {child : Template}
      (settles : Settles emitter settings read included block)
      (includes : s.directive = .inclusion path)
      (result : emitter.rule.merge (Text.joinFilled (block :: trailingDependencies read))
        (emitter.broughtDependencies child) = .ok merged) :
      Settles emitter settings (read ++ [s]) (included ++ [child]) merged

namespace Emitter

variable {emitter : Emitter} {settings : Settings} {template : Template}

theorem prepare_dependencies (empty : template.dependencies = "") :
    (emitter.prepare template).dependencies = emitter.seededDependencies template.settings := by
  unfold prepare seededDependencies
  cases emitter.target with
  | cSharp => exact empty
  | visualBasic =>
      dsimp only
      split_ifs
      · exact empty
      · simp only [Template.addExternalCode, Template.addDependency, empty, Text.empty_addLine]
  | _ => simp only [Template.addDependency, empty, Text.empty_addLine]

/-- What a target puts into a new template has no repetitions, and a merged block has none. -/
theorem Settles.exists_occurrences {read : List Section} {included : List Template}
    {block : String} (settles : emitter.Settles settings read included block) :
    ∃ declared, emitter.rule.occurrences block = .ok declared ∧ declared.Nodup := by
  have plain := emitter.isPlain_rule
  induction settles with
  | seeds =>
      let fresh := Template.empty settings emitter.moduleGrammar none ""
      have empty : fresh.dependencies = "" := rfl
      obtain ⟨seeds, canonical, distinct, same⟩ := emitter.exists_seeds empty
      rw [prepare_dependencies empty] at same
      exact ⟨seeds, same ▸ DependencyRule.occurrences_render plain canonical, distinct⟩
  | other _ _ ih => exact ih
  | inclusion _ _ result _ =>
      obtain ⟨_, _, declared, _, _, rfl, distinct, _, canonical⟩ :=
        DependencyRule.exists_of_merge plain result
      exact ⟨declared, DependencyRule.occurrences_render plain canonical, distinct⟩

end Emitter

namespace Compiler

variable {m : Type → Type} [Monad m] [LawfulMonad m] [MonadAttach m] [LawfulMonadAttach m]

omit [Monad m] [LawfulMonad m] [MonadAttach m] [LawfulMonadAttach m] in
/-- Behind the block that the last include has settled, dependencies have only been added. -/
theorem settles_invariant (compiler : Compiler m) :
    compiler.SectionInvariant fun read tree => ∃ block,
      compiler.emitter.Settles tree.template.settings read
        (tree.included.map IncludeTree.template) block ∧
      tree.template.dependencies = Text.joinFilled (block :: trailingDependencies read) where
  fresh := by
    intro settings created
    have empty : (compiler.boundTemplate settings (compiler.ids created)).dependencies = "" := rfl
    obtain ⟨_, _, same⟩ :=
      compiler.emitter.prepare_eq (compiler.boundTemplate settings (compiler.ids created))
    have kept : (compiler.startDraft created settings).tree.template.settings = settings :=
      congrArg Template.settings same
    rw [kept]
    refine ⟨_, .seeds, ?_⟩
    exact (Emitter.prepare_dependencies empty).trans (Text.joinFilled_singleton _).symm
  fragments := fun _ _ _ _ settles => settles
  perform := by
    rintro read tree s template ⟨block, settles, added⟩ _ other result
    rw [IncludeTree.withTemplate_template, Template.settings_of_perform result]
    refine ⟨block, settles.other other, ?_⟩
    rw [trailingDependencies_append other, (Template.added_of_perform result).1, added,
      ← Text.foldl_addLine, ← Text.foldl_addLine, List.foldl_append]
  -- An include settles the block anew, with all that has been added before.
  adopt := by
    rintro ancestors parent child location read childRead s path tree ⟨block, settles, added⟩ _
      includes adopted
    obtain ⟨merged, result, rfl⟩ := IncludeTree.exists_of_adopt adopted
    rw [added] at result
    refine ⟨merged, ?_, ?_⟩
    · have next := settles.inclusion includes result
      rw [← List.map_singleton (f := IncludeTree.template), ← List.map_append] at next
      exact next
    · rw [trailingDependencies_of_inclusion includes, Text.joinFilled_singleton]
      rfl

/-- Where no dependency is declared behind the last include, no declaration is met twice. -/
theorem exists_occurrences_of_parseWithin {compiler : Compiler m} {depth created : Nat}
    {ancestors : List Identity} {settings : Settings} {source : String} {tree : IncludeTree}
    (none : trailingDependencies (sections source.toList).1 = [])
    (returned : CanReturn (compiler.parseWithin depth created ancestors settings source)
      (.ok tree)) :
    ∃ met, compiler.emitter.rule.occurrences tree.template.dependencies = .ok met ∧
      met.Nodup := by
  obtain ⟨block, settles, same⟩ := compiler.settles_invariant.of_parseWithin depth returned
  rw [same, none, Text.joinFilled_singleton]
  exact settles.exists_occurrences

/-- **What is declared twice is declared behind the last include**: the declarations met in the
dependencies of a parsed template are those of the block that its last include has settled, which
has no repetitions, then those of the dependency directives behind that include. Where there are
none of these, no declaration is met twice. -/
theorem repetitions_of_parse (compiler : Compiler m) (source : String) (settings : Settings)
    (tree : IncludeTree) (returned : CanReturn (compiler.parse source settings) (.ok tree)) :
    let rule := compiler.emitter.rule
    let read := (sections source.toList).1
    let trailing := trailingDependencies read
    (∃ block first,
      compiler.emitter.Settles settings read (tree.included.map IncludeTree.template) block ∧
      tree.template.dependencies = Text.joinFilled (block :: trailing) ∧
      rule.occurrences block = .ok first ∧ first.Nodup ∧
      ∀ met, rule.occurrences tree.template.dependencies = .ok met →
        ∃ later, trailing.mapM rule.occurrences = .ok later ∧ met = first ++ later.flatten ∧
          ∀ d, List.Duplicate d met → d ∈ later.flatten) ∧
    (trailing = [] →
      ∃ met, rule.occurrences tree.template.dependencies = .ok met ∧ met.Nodup) := by
  intro rule read trailing
  obtain ⟨block, settles, same⟩ := compiler.settles_invariant.of_parse returned
  rw [show tree.template.settings = settings from settings_of_parseWithin returned] at settles
  obtain ⟨first, meets, distinct⟩ := settles.exists_occurrences
  refine ⟨⟨block, first, settles, same, meets, distinct, fun met whole => ?_⟩,
    fun none => exists_occurrences_of_parseWithin none returned⟩
  rw [same, ← Text.foldl_addLine] at whole
  obtain ⟨front, later, settled, own, rfl⟩ :=
    (DependencyRule.occurrences_foldl_eq_ok_iff compiler.emitter.isPlain_rule).mp whole
  rw [meets] at settled
  cases settled
  exact ⟨later, own, rfl, fun d twice => mem_of_duplicate_append distinct twice⟩

/-- A page that declares two dependencies, includes a template that declares one of them again
and another one, and declares that one again behind the include. -/
theorem repetitions_of_page :
    let compiler := Compiler.ofTexts .cSharp [("/nav.blade", "<%@ B; C %>")]
    let source := "<%@ using A %><%@ B %><%# 'nav' %><%@ C %>"
    let settings : Settings := ⟨"home", "/", true, false⟩
    let read := (sections source.toList).1
    let block := "using A;\nusing B;\nusing C;"
    ∃ tree, CanReturn (compiler.parse source settings) (.ok tree) ∧
      compiler.emitter.rule.occurrences tree.template.dependencies =
        .ok ["A", "B", "C", "C"] ∧
      compiler.emitter.Settles settings read (tree.included.map IncludeTree.template) block ∧
      tree.template.dependencies = Text.joinFilled [block, "C"] ∧
      ∃ first, compiler.emitter.rule.occurrences block = .ok first ∧ first.Nodup ∧
        ∃ later, ["C"].mapM compiler.emitter.rule.occurrences = .ok later ∧
          ["A", "B", "C", "C"] = first ++ later.flatten ∧
          ∀ d, List.Duplicate d ["A", "B", "C", "C"] → d ∈ later.flatten := by
  intro compiler source settings read block
  have parsed : (compiler.parse source settings).toOption.map
      (fun tree => tree.template.dependencies) = some (block ++ "\n" ++ "C") := by decide +kernel
  have trailing : trailingDependencies read = ["C"] := by decide +kernel
  obtain ⟨tree, result, listed⟩ := Option.map_eq_some_iff.mp parsed
  have returned := canReturn_of_toOption result
  have meets : compiler.emitter.rule.occurrences tree.template.dependencies =
      .ok ["A", "B", "C", "C"] := by
    rw [listed]
    exact eq_ok_of_toOption (by decide +kernel)
  obtain ⟨⟨settled, first, settles, same, occurs, distinct, parts⟩, _⟩ :=
    compiler.repetitions_of_parse source settings tree returned
  rw [show trailingDependencies (sections source.toList).1 = ["C"] from trailing] at same parts
  obtain rfl : settled = block := by
    rw [listed, ← Text.foldl_addLine] at same
    have added : block ++ "\n" ++ "C" = Text.addLine settled "C" := same
    unfold Text.addLine at added
    split_ifs at added with nothing empty
    · cases nothing
    · exact absurd added (by decide)
    · exact ((String.append_left_inj _).mp ((String.append_left_inj _).mp added)).symm
  exact ⟨tree, returned, meets, settles, same, first, occurs, distinct, parts _ meets⟩

/-- Without an include, a dependency that is written twice is declared twice. -/
theorem dependencies_repeat_without_includes :
    let compiler := Compiler.ofTexts .cSharp []
    ∃ tree, CanReturn (compiler.parse "<%@ using System; %><%@ using System; %>"
        ⟨"home", "/", true, false⟩) (.ok tree) ∧
      ∃ met, compiler.emitter.rule.occurrences tree.template.dependencies = .ok met ∧
        ¬ met.Nodup := by
  intro compiler
  have parsed : (compiler.parse "<%@ using System; %><%@ using System; %>"
      ⟨"home", "/", true, false⟩).toOption.map
      (fun tree => (compiler.emitter.rule.occurrences tree.template.dependencies).toOption) =
      some (some ["System", "System"]) := by decide +kernel
  obtain ⟨tree, result, listed⟩ := Option.map_eq_some_iff.mp parsed
  exact ⟨tree, canReturn_of_toOption result, _, eq_ok_of_toOption listed, by decide⟩

end Compiler

end TemplateCompiler
