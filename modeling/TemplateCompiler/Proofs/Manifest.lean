import TemplateCompiler.CompiledUnit
import TemplateCompiler.Proofs.Parsing.Records
import TemplateCompiler.Proofs.Places

/-! # What a compiled unit says that it includes

Every template of a parsed tree includes one template for each include directive of its text, in
document order: the one that the path of the directive leads to (`Compiler.Manifests`). So the
paths that a compiled unit lists are those of the files that have been read for it, in the order
in which they have been read (`Compiler.manifest_of_compile`).
-/

namespace TemplateCompiler

open Markup
open MonadAttach (CanReturn)

namespace Markup

/-- The path of an include directive. -/
def Directive.path? : Directive → Option String
  | .inclusion path => some (String.ofList path)
  | _ => none

/-- The include directives of the sections behind a text: their paths, and the locations of their
tags. -/
def inclusionsBehind : List Char → List Section → List (String × Location)
  | _, [] => []
  | before, s :: rest =>
    (s.directive.path?.map fun path => (path, s.opened before)).toList ++
      inclusionsBehind (before ++ s.text) rest

/-- The include directives of a text in document order. -/
def inclusions (text : List Char) : List (String × Location) :=
  inclusionsBehind [] (sections text).1

theorem inclusionsBehind_append (before : List Char) (front back : List Section) :
    inclusionsBehind before (front ++ back) =
      inclusionsBehind before front ++
        inclusionsBehind (before ++ front.flatMap Section.text) back := by
  induction front generalizing before with
  | nil => simp [inclusionsBehind]
  | cons s rest ih => simp [inclusionsBehind, ih]

end Markup

namespace Compiler

variable {m : Type → Type} [Monad m] [MonadAttach m]

mutual

/-- A tree is what parsing a template makes of it and of all that it includes. The template has
the settings that it is parsed with, and the tree has one inner tree for each include directive of
its text. -/
inductive Manifests (compiler : Compiler m) : IncludeTree → Call → Prop where
  | intro {template : Template} {included : List IncludeTree} {call : Call}
      (settings : template.settings = call.settings)
      (listed : ManifestsAll compiler included call (inclusions call.source.toList)) :
      Manifests compiler ⟨template, included⟩ call

/-- Inner trees stem from include directives of a template, one from each: a tree is the parse of
the template that the directive leads to. -/
inductive ManifestsAll (compiler : Compiler m) :
    List IncludeTree → Call → List (String × Location) → Prop where
  | nil (call : Call) : ManifestsAll compiler [] call []
  | cons {child : IncludeTree} {rest : List IncludeTree} {outer inner : Call} {path : String}
      {location : Location} {directives : List (String × Location)}
      (reaches : compiler.Reaches outer path location inner)
      (parsed : CanReturn (compiler.parseCall inner) (.ok child))
      (below : Manifests compiler child inner)
      (behind : ManifestsAll compiler rest outer directives) :
      ManifestsAll compiler (child :: rest) outer ((path, location) :: directives)

end

variable {compiler : Compiler m} {call : Call}

theorem ManifestsAll.append {front back : List IncludeTree}
    {before behind : List (String × Location)} (first : compiler.ManifestsAll front call before)
    (second : compiler.ManifestsAll back call behind) :
    compiler.ManifestsAll (front ++ back) call (before ++ behind) := by
  induction front generalizing before with
  | nil =>
      cases first
      exact second
  | cons child rest ih =>
      cases first with
      | cons reaches parsed below others => exact .cons reaches parsed below (ih others)

variable [LawfulMonad m] [LawfulMonadAttach m]

/-- **An include section** adds the tree of the template that its directive leads to. -/
theorem exists_of_follow_inclusion {front : List Section} {s : Section} {mid next : Draft}
    {path : List Char} (inclusion : s.directive = .inclusion path)
    (read : CanReturn (compiler.followAll call front) mid)
    (followed : CanReturn (compiler.follow call mid s) next) :
    call.ancestors.length < compiler.emitter.config.maxIncludeDepth ∧ ∃ inner child,
      compiler.Reaches call (String.ofList path) (s.opened (front.flatMap Section.text)) inner ∧
      CanReturn (compiler.parseCall inner) (.ok child) ∧
      next.tree.included = mid.tree.included ++ [child] := by
  obtain ⟨template, body, functions, performs, outcome⟩ := Draft.follow_cases followed
  have settings : template.settings = call.settings :=
    (Template.settings_of_perform performs).trans (settings_of_followAll read)
  have opened : (mid.atTag compiler.emitter.writer s.literal).tagStart =
      s.opened (front.flatMap Section.text) :=
    Draft.tagStart_atTag _ (isBetween_of_followAll read) s.literal
  rcases outcome with ⟨other, _⟩ | ⟨chars, same, composed⟩
  · exact absurd inclusion (other path)
  · cases inclusion.symm.trans same
    obtain ⟨parse, target, text, child, levels, resolved, loaded, parsed, adopted⟩ :=
      exists_of_compose composed
    obtain ⟨_, _, _, whole⟩ := IncludeTree.adopt_eq_ok adopted
    rw [eq_parseCall_of_levelsBelow levels] at parsed
    rw [opened, IncludeTree.withTemplate_template,
      show (template.withFragments body functions).settings = _ from settings] at resolved
    have bounded := exists_levelsBelow_iff.mp ⟨parse, levels⟩
    refine ⟨bounded, _, child, ⟨by simp, target, resolved, rfl, loaded⟩, parsed, ?_⟩
    rw [whole]
    rfl

/-- Other sections leave the inner trees as they are. -/
theorem included_of_follow_other {s : Section} {mid next : Draft} (other : s.directive.path? = none)
    (followed : CanReturn (compiler.follow call mid s) next) :
    next.tree.included = mid.tree.included := by
  obtain ⟨template, body, functions, _, outcome⟩ := Draft.follow_cases followed
  rcases outcome with ⟨_, after⟩ | ⟨path, inclusion, _⟩
  · rw [after]
    rfl
  · rw [inclusion] at other
    cases other

/-- Between its sections, a template has one inner tree for each include directive so far. -/
theorem manifestsAll_of_followAll {read : List Section} {last : Draft}
    (below : ∀ inner child, inner.ancestors.length = call.ancestors.length + 1 →
      call.ancestors.length < compiler.emitter.config.maxIncludeDepth →
      CanReturn (compiler.parseCall inner) (.ok child) → compiler.Manifests child inner)
    (returned : CanReturn (compiler.followAll call read) last) :
    compiler.ManifestsAll last.tree.included call (inclusionsBehind [] read) := by
  refine foldlM_induction
    (fun read last => compiler.ManifestsAll last.tree.included call (inclusionsBehind [] read))
    (.nil call) (fun front s mid next _ read valid followed => ?_) returned
  rw [inclusionsBehind_append]
  cases directive : s.directive with
  | inclusion path =>
      obtain ⟨bounded, inner, child, reaches, parsed, included⟩ :=
        exists_of_follow_inclusion directive read followed
      rw [included]
      refine valid.append ?_
      simp only [inclusionsBehind, directive, Directive.path?]
      exact .cons reaches parsed (below inner child reaches.1 bounded parsed) (.nil call)
  | _ =>
      rw [included_of_follow_other (by rw [directive]; rfl) followed]
      simpa [inclusionsBehind, directive, Directive.path?] using valid

/-- **A tree that is returned manifests the includes** of the text that is parsed. -/
theorem manifests_of_parseCall {tree : IncludeTree}
    (returned : CanReturn (compiler.parseCall call) (.ok tree)) :
    compiler.Manifests tree call := by
  induction levels : compiler.emitter.config.maxIncludeDepth - call.ancestors.length
    using Nat.strongRecOn generalizing call tree with
  | ind left ih =>
      rw [parseCall_eq] at returned
      obtain ⟨_, last, followed, _, _, whole⟩ := exists_sections_of_parseWith returned
      have listed := manifestsAll_of_followAll (fun inner child deeper bounded parsed =>
        ih _ (by omega) parsed rfl) followed
      obtain ⟨body, functions, ended⟩ := Draft.changesFragments_addPiece compiler.emitter.writer
        last (.literal (last.pending.toList ++ (sections call.source.toList).2)) rfl rfl
      rw [whole, ended]
      exact .intro (settings_of_followAll followed) listed

/-- **The manifest of a compiled unit is exact.** A unit that compiling returns is made from a
parsed tree, in which every template includes the template that each include directive of its text
leads to, in document order. It lists the paths of the included templates, a template before those
it includes. These are the paths of the files that are read, in the order of reading: a parse whose
loader records the files that it is asked for parses the same, and records just these. -/
theorem manifest_of_compile (compiler : Compiler m) (stamp : Stamp) (source : String)
    (settings : Settings) (unit : CompiledUnit)
    (returned : CanReturn (compiler.compile stamp source settings) (.ok unit)) :
    ∃ tree, CanReturn (compiler.parse source settings) (.ok tree) ∧
      unit = compiler.unitOf stamp tree ∧
      compiler.Manifests tree ⟨0, [], settings, source⟩ ∧
      unit.includes = tree.includedTemplates.map (fun template => template.settings.path) ∧
      Mirrors (compiler.recording.parse source settings) (compiler.parse source settings) ∧
      (∃ record, CanReturn ((compiler.recording.parse source settings).run [])
        (.ok tree, record)) ∧
      ∀ record, CanReturn ((compiler.recording.parse source settings).run []) (.ok tree, record) →
        record = tree.includedTemplates.map fun template =>
          Path.join template.settings.root template.settings.path := by
  obtain ⟨result, parsed, compiled⟩ := exists_canReturn_of_bind returned
  have same := eq_of_canReturn_pure compiled
  cases result with
  | error cause => cases same
  | ok tree =>
      cases same
      refine ⟨tree, parsed, rfl, manifests_of_parseCall parsed, rfl,
        compiler.mirrors_parse source settings, ?_, fun record recorded => ?_⟩
      · rw [← compiler.mirrors_parse source settings []] at parsed
        obtain ⟨⟨_, record⟩, recorded, rfl⟩ := LawfulMonadAttach.canReturn_map_imp' parsed
        exact ⟨record, recorded⟩
      · have files := record_of_parse recorded
        rwa [List.nil_append] at files

/-- The manifest of a page that includes two templates, the first of which includes a third. -/
theorem manifest_of_compile_page :
    let compiler := Compiler.ofTexts .cSharp
      [("/site/nav.blade", "<%# 'menu' %>"), ("/site/menu.blade", "m"), ("/site/foot.blade", "f")]
    let source := "<%# 'nav' %>, <%# 'foot' %>"
    let settings : Settings := ⟨"home.blade", "/site", true, false⟩
    ∃ unit tree record, CanReturn (compiler.compile ⟨"unit", ⟨0, 0⟩⟩ source settings) (.ok unit) ∧
      CanReturn ((compiler.recording.parse source settings).run []) (.ok tree, record) ∧
      compiler.Manifests tree ⟨0, [], settings, source⟩ ∧
      unit.includes = ["nav.blade", "menu.blade", "foot.blade"] ∧
      record = ["/site/nav.blade", "/site/menu.blade", "/site/foot.blade"] := by
  intro compiler source settings
  have compiled : (Except.toOption (compiler.compile ⟨"unit", ⟨0, 0⟩⟩ source settings)).map
      CompiledUnit.includes = some ["nav.blade", "menu.blade", "foot.blade"] := by decide +kernel
  have read : (Except.toOption (compiler.parse source settings)).map IncludeTree.files =
      some ["/site/nav.blade", "/site/menu.blade", "/site/foot.blade"] := by decide +kernel
  obtain ⟨unit, made, includes⟩ := Option.map_eq_some_iff.mp compiled
  obtain ⟨tree, parsed, _, manifests, _, _, ⟨record, recorded⟩, files⟩ :=
    manifest_of_compile compiler _ source settings unit (canReturn_of_toOption made)
  obtain ⟨other, result, listed⟩ := Option.map_eq_some_iff.mp read
  have same : other = tree :=
    Except.ok.inj ((eq_ok_of_toOption result).symm.trans parsed)
  exact ⟨unit, tree, record, canReturn_of_toOption made, recorded, manifests, includes,
    (files record recorded).trans (same ▸ listed)⟩

end Compiler

end TemplateCompiler
