import Mathlib.Data.List.TakeWhile
import TemplateCompiler.Proofs.Markup.History

/-! # What the sections of a text make of a template

Fragments apart, a section changes the template being read in one way at most, which its
directive tells (`Template.perform`, `Draft.tree_of_perform`); an include takes in the included
tree. So a property of what has been read, together with the tree read so far, holds of every
parsed template together with the sections of its text, where each section and each include keeps
it (`Compiler.SectionInvariant`).
-/

namespace TemplateCompiler

open Markup
open MonadAttach (CanReturn)

namespace Markup

/-- The declaration that the body of a dependency directive stands for. -/
def dependencyText (tokens : List Token) : String :=
  Text.trim (String.ofList (tokens.flatMap Token.text))

/-- The code that the body of an external code directive stands for. -/
def externalText (tokens : List Token) : String :=
  Text.trimBy (fun c => c == '\r' || c == '\n') (String.ofList (tokens.flatMap Token.text))

/-- The engine that the body of an engine directive names. -/
def engineText? (tokens : List Token) : Option String :=
  Draft.engineText? (String.ofList (tokens.flatMap Token.text))

/-- The dependency that a directive declares. -/
def Directive.dependency? : Directive → Option String
  | .body .dependency tokens => some (dependencyText tokens)
  | _ => none

/-- The external code that a directive declares. -/
def Directive.externalCode? : Directive → Option String
  | .body .externalCode tokens => some (externalText tokens)
  | _ => none

/-- The engine that a directive names. -/
def Directive.engine? : Directive → Option String
  | .body .engineName tokens => engineText? tokens
  | _ => none

/-- What a directive leaves to be done. -/
def Directive.event : Directive → Event
  | .body .engineName tokens => (engineText? tokens).elim .none .engine
  | .inclusion path => .inclusion (String.ofList path)
  | _ => .none

theorem Directive.event_ne_inclusion (directive : Directive)
    (other : ∀ path, directive ≠ .inclusion path) (path : String) :
    directive.event ≠ .inclusion path := by
  cases directive with
  | inclusion path => exact absurd rfl (other path)
  | name kind chars => simp [event]
  | body region tokens =>
      cases region with
      | engineName => cases named : engineText? tokens <;> simp [event, named]
      | _ => simp [event]

/-- The engine is left to be done where a directive names one. -/
theorem Directive.event_eq_engine_iff {directive : Directive} {name : String} :
    directive.event = .engine name ↔ directive.engine? = some name := by
  cases directive with
  | name kind chars => simp [event, engine?]
  | inclusion path => simp [event, engine?]
  | body region tokens =>
      cases region with
      | engineName => cases named : engineText? tokens <;> simp [event, engine?, named]
      | _ => simp [event, engine?]

/-- Between backticks stand name characters, and they name a class or a module. -/
def Directive.IsNamed : Directive → Prop
  | .name kind chars => kind ≠ .engineName ∧ ∀ c ∈ chars, Draft.isNameChar kind c = true
  | _ => True

theorem mem_of_name? {kind : NameKind} {text name rest : List Char}
    (found : name? kind text = some (name, rest)) : ∀ c ∈ name, Draft.isNameChar kind c = true := by
  unfold name? at found
  split at found
  · cases found
    exact fun c member => List.mem_takeWhile_imp member
  · cases found

theorem isNamed_of_directive? {tag rest : List Char} {directive : Directive}
    (found : directive? tag = some (directive, rest)) : directive.IsNamed := by
  obtain ⟨inner, opens, starts⟩ := directive?_eq_some found
  obtain ⟨markup, listed, _⟩ := opening?_eq_some opens
  cases directive with
  | body region tokens => trivial
  | inclusion path => trivial
  | name kind chars =>
      have kinds : ∀ entry ∈ openings, entry.2 ≠ .name .engineName := by decide
      refine ⟨?_, mem_of_name? starts⟩
      rintro rfl
      exact kinds _ listed rfl

theorem isNamed_of_section? {text rest : List Char} {s : Section}
    (first : section? text = some (s, rest)) : s.directive.IsNamed := by
  obtain ⟨_, _, opened, _⟩ := section?_eq_some first
  exact isNamed_of_directive? opened

/-- The directives of a text name as names are written. -/
theorem isNamed_of_mem_sections {text : List Char} {s : Section}
    (member : s ∈ (sections text).1) : s.directive.IsNamed := by
  induction text using sections_induction with
  | tail text none =>
      rw [sections_of_none none] at member
      cases member
  | behind text first rest found ih =>
      rw [sections_of_some found] at member
      rcases List.mem_cons.mp member with rfl | later
      · exact isNamed_of_section? found
      · exact ih later

end Markup

/-! ## Templates up to their fragments -/

namespace Template

/-- The template with other fragments. -/
def withFragments (template : Template) (body functions : FragmentStream) : Template :=
  { template with body := body, functions := functions }

@[simp] theorem withFragments_self (template : Template) :
    template.withFragments template.body template.functions = template := rfl

/-- What a closed directive makes of a template, its fragments apart. -/
def perform (template : Template) : Directive → Except NameError Template
  | .body .dependency tokens => .ok (template.addDependency (dependencyText tokens))
  | .body .externalCode tokens => .ok (template.addExternalCode (externalText tokens))
  | .body .engineName tokens =>
    match engineText? tokens with
    | some name => template.declare .engineName name
    | none => .ok template
  | .name kind chars => template.declare kind (String.ofList chars)
  | _ => .ok template

/-- A directive with a body binds the engine that it names, and adds the dependency and the
external code that it declares. -/
theorem eq_of_perform_body {template performed : Template} {region : Region}
    {tokens : List Token} (result : template.perform (.body region tokens) = .ok performed) :
    performed = { template with
      engineSlot := (Directive.body region tokens).engine?.elim template.engineSlot .explicit
      dependencies := (Directive.body region tokens).dependency?.toList.foldl Text.addLine
        template.dependencies
      externalCode := (Directive.body region tokens).externalCode?.toList.foldl Text.addLine
        template.externalCode } := by
  cases region with
  | engineName =>
      simp only [perform] at result
      cases named : engineText? tokens with
      | none =>
          simp only [named] at result
          cases result
          simp only [Directive.engine?, named]
          rfl
      | some name =>
          simp only [named] at result
          have written := declare_eq_ok result
          simp only [Directive.engine?, named]
          exact written.2
  | dependency =>
      rw [← Except.ok.inj result]
      simp only [addDependency, Directive.engine?, Directive.dependency?,
        Directive.externalCode?, Option.elim_none, Option.toList_some, Option.toList_none,
        List.foldl_cons, List.foldl_nil]
  | externalCode =>
      rw [← Except.ok.inj result]
      simp only [addExternalCode, Directive.engine?, Directive.dependency?,
        Directive.externalCode?, Option.elim_none, Option.toList_some, Option.toList_none,
        List.foldl_cons, List.foldl_nil]
  | _ =>
      cases result
      rfl

/-- A directive adds the dependency and the external code that it declares. -/
theorem added_of_perform {template performed : Template} {directive : Directive}
    (result : template.perform directive = .ok performed) :
    performed.dependencies =
        directive.dependency?.toList.foldl Text.addLine template.dependencies ∧
      performed.externalCode =
        directive.externalCode?.toList.foldl Text.addLine template.externalCode := by
  cases directive with
  | body region tokens =>
      rw [eq_of_perform_body result]
      exact ⟨rfl, rfl⟩
  | name kind chars =>
      have written := declare_eq_ok result
      cases kind <;> exact written.2 ▸ ⟨rfl, rfl⟩
  | inclusion path =>
      cases result
      exact ⟨rfl, rfl⟩

/-- A declared name leaves all but its slot as it is. -/
theorem settings_of_declare {template declared : Template} {kind : NameKind} {name : String}
    (result : template.declare kind name = .ok declared) :
    declared.settings = template.settings := by
  have written := declare_eq_ok result
  cases kind <;> rw [written.2]

theorem settings_of_perform {template performed : Template} {directive : Directive}
    (result : template.perform directive = .ok performed) :
    performed.settings = template.settings := by
  cases directive with
  | body region tokens => rw [eq_of_perform_body result]
  | name kind chars => exact settings_of_declare result
  | inclusion path =>
      cases result
      rfl

theorem declare_withFragments (template : Template) (body functions : FragmentStream)
    (kind : NameKind) (name : String) :
    (template.withFragments body functions).declare kind name =
      (template.declare kind name).map fun declared => declared.withFragments body functions := by
  cases kind with
  | className =>
      simp only [declare, declareClass, withFragments]
      split_ifs
      · cases template.classSlot.declare .className name <;> rfl
      · rfl
  | moduleName =>
      have grammar : (template.withFragments body functions).moduleGrammar =
        template.moduleGrammar := rfl
      simp only [declare, declareModule, grammar]
      split_ifs
      · simp only [withFragments]
        cases template.moduleSlot.declare .moduleName name <;> rfl
      · rfl
  | engineName =>
      simp only [declare, declareEngine, withFragments]
      split_ifs
      · cases template.engineSlot.declare .engineName name <;> rfl
      · rfl

/-- Directives do not look at fragments. -/
theorem perform_withFragments (template : Template) (body functions : FragmentStream)
    (directive : Directive) :
    (template.withFragments body functions).perform directive =
      (template.perform directive).map fun performed => performed.withFragments body functions := by
  cases directive with
  | name kind chars => exact template.declare_withFragments body functions kind _
  | inclusion path => rfl
  | body region tokens =>
      cases region with
      | engineName =>
          simp only [perform]
          split
          · exact template.declare_withFragments body functions _ _
          · rfl
      | _ => simp only [perform, addDependency, addExternalCode, withFragments, Except.map]

end Template

namespace Draft

variable {writer : Writer} {ancestors : List Identity} {draft next : Draft}

/-- The fragments of the template may change, and nothing else in the tree. -/
def ChangesFragments (draft next : Draft) : Prop :=
  ∃ body functions,
    next.tree = draft.tree.withTemplate (draft.tree.template.withFragments body functions)

theorem changesFragments_of_same (same : next.tree = draft.tree) : draft.ChangesFragments next :=
  ⟨draft.tree.template.body, draft.tree.template.functions, by simp [same]⟩

theorem ChangesFragments.trans {mid : Draft} (first : draft.ChangesFragments mid)
    (second : mid.ChangesFragments next) : draft.ChangesFragments next := by
  obtain ⟨_, _, first⟩ := first
  obtain ⟨body, functions, second⟩ := second
  exact ⟨body, functions, by rw [second, first]; rfl⟩

theorem changesFragments_append (draft : Draft) (fragment : Fragment) :
    draft.ChangesFragments (draft.append fragment) := by
  by_cases off : draft.mode = .off
  · exact ⟨draft.tree.template.body ++ [fragment], draft.tree.template.functions,
      by simp [append, off, Template.addToBody, Template.withFragments]⟩
  · exact ⟨draft.tree.template.body, draft.tree.template.functions ++ [fragment],
      by simp [append, off, Template.addToFunctions, Template.withFragments]⟩

variable (writer) in
/-- A piece that declares nothing changes fragments only. -/
theorem changesFragments_addPiece (draft : Draft) (piece : Piece)
    (dependency : piece.dependency? = none) (externalCode : piece.externalCode? = none) :
    draft.ChangesFragments (draft.addPiece writer piece) := by
  by_cases off : draft.mode = .off
  · exact ⟨draft.tree.template.body ++ piece.fragments writer, draft.tree.template.functions, by
      simp [addPiece, off, extend_single, dependency, externalCode, Template.withFragments]⟩
  · exact ⟨draft.tree.template.body,
      draft.tree.template.functions ++ piece.fragments writer, by
      simp [addPiece, off, extend_single, dependency, externalCode, Template.withFragments]⟩

variable (writer) in
theorem changesFragments_atTag (draft : Draft) (literal : List Char) :
    draft.ChangesFragments (draft.atTag writer literal) := by
  obtain ⟨body, functions, changed⟩ := changesFragments_addPiece writer draft
    (.literal (draft.pending.toList ++ literal)) rfl rfl
  exact ⟨body, functions, changed⟩

/-- A name is declared where it is not empty, the template takes it, and no template around or
below has the identity to which a class or module name leads. -/
theorem declareName_eq_ok_iff {kind : NameKind} {name : String} :
    draft.declareName ancestors kind name = .ok next ↔
      name ≠ "" ∧ ∃ template, draft.tree.template.declare kind name = .ok template ∧
        (kind ≠ .engineName → template.identity ∉ ancestors ∧
          draft.tree.containsIdentity template.identity = false) ∧
        next = draft.withTemplate template := by
  have kept (template : Template) :
      (draft.withTemplate template).tree.containsIdentity template.identity =
        draft.tree.containsIdentity template.identity := rfl
  simp only [declareName, String.isEmpty_iff, template_tree]
  constructor
  · intro declared
    split_ifs at declared with empty
    refine ⟨empty, ?_⟩
    split at declared
    · cases declared
    · rename_i template accepted
      split_ifs at declared with inUse
      cases declared
      refine ⟨template, accepted, fun named => ?_, rfl⟩
      simp only [named, ne_eq, not_false_eq_true, true_and, not_or, kept] at inUse
      exact ⟨inUse.1, Bool.eq_false_iff.mpr inUse.2⟩
  · rintro ⟨nonempty, template, accepted, unused, rfl⟩
    rw [if_neg nonempty, accepted]
    simp only [kept]
    rw [if_neg]
    rintro ⟨named, inUse⟩
    obtain ⟨outside, below⟩ := unused named
    rw [below] at inUse
    exact inUse.elim outside Bool.false_ne_true

/-- What a draft makes of the tree of another one, fragments apart, where a directive leaves an
event. -/
structure Obeys (draft : Draft) (directive : Directive) (done : Draft × Event) : Prop where
  tree : ∃ template body functions, draft.tree.template.perform directive = .ok template ∧
    done.1.tree = draft.tree.withTemplate (template.withFragments body functions)
  event : done.2 = directive.event

/-- A directive is obeyed whatever becomes of the fragments before it. -/
theorem Obeys.after {mid : Draft} {directive : Directive} {done : Draft × Event}
    (obeys : mid.Obeys directive done) (changes : draft.ChangesFragments mid) :
    draft.Obeys directive done := by
  obtain ⟨_, _, before⟩ := changes
  obtain ⟨⟨template, body, functions, performed, after⟩, event⟩ := obeys
  rw [before, IncludeTree.withTemplate_template, Template.perform_withFragments] at performed
  cases result : draft.tree.template.perform directive with
  | error cause => rw [result] at performed; cases performed
  | ok found =>
      rw [result] at performed
      cases performed
      exact ⟨⟨found, body, functions, result, by rw [after, before]; rfl⟩, event⟩

/-- A directive that declares nothing is obeyed by changing fragments. -/
theorem ChangesFragments.obeys {region : Region} {tokens : List Token}
    (changes : draft.ChangesFragments next)
    (nothing : draft.tree.template.perform (.body region tokens) = .ok draft.tree.template)
    (quiet : (Directive.body region tokens).event = .none) :
    draft.Obeys (.body region tokens) (next, .none) := by
  obtain ⟨body, functions, after⟩ := changes
  exact ⟨⟨_, body, functions, nothing, after⟩, quiet.symm⟩

/-- A directive is obeyed by the draft with the template that it leads to. -/
theorem obeys_of_edit {directive : Directive} {template : Template} {event : Event}
    (performed : draft.tree.template.perform directive = .ok template)
    (after : next.tree = draft.tree.withTemplate template) (same : event = directive.event) :
    draft.Obeys directive (next, event) :=
  ⟨⟨template, template.body, template.functions, performed, after⟩, same⟩

/-- **A close tag does what its directive says**: completing the directive with the text of its
body performs it on the template, fragments apart. -/
theorem obeys_of_complete {region : Region} {tokens : List Token} {done : Draft × Event}
    (pending : region ≠ .function → draft.pending = String.ofList (collected region tokens))
    (completed : draft.complete writer ancestors region = .ok done) :
    draft.Obeys (.body region tokens) done := by
  have cleared : draft.ChangesFragments draft.clear := changesFragments_of_same rfl
  cases region with
  | comment =>
      cases completed
      exact cleared.obeys rfl rfl
  | dependency =>
      have text : Text.trim draft.pending = dependencyText tokens := by
        rw [pending (by decide)]
        rfl
      simp only [complete, text, Except.ok.injEq] at completed
      subst completed
      exact obeys_of_edit rfl rfl rfl
  | externalCode =>
      have text : Text.trimBy (fun c => c == '\r' || c == '\n') draft.pending =
          externalText tokens := by
        rw [pending (by decide)]
        rfl
      simp only [complete, text, Except.ok.injEq] at completed
      subst completed
      exact obeys_of_edit rfl rfl rfl
  | write =>
      cases completed
      exact (cleared.trans (changesFragments_append _ _)).obeys rfl rfl
  | transform transform =>
      cases completed
      exact (cleared.trans (changesFragments_append _ _)).obeys rfl rfl
  | function =>
      cases completed
      have appended := cleared.trans
        (changesFragments_append draft.clear ⟨.code, draft.pending, draft.pending⟩)
      obtain ⟨body, functions, after⟩ := appended
      refine ChangesFragments.obeys ⟨body, functions, ?_⟩ rfl rfl
      rw [completeFunction_eq]
      exact after
  | block =>
      obtain ⟨after, closed, rest⟩ := exists_ok_of_bind completed
      cases rest
      have added := cleared.trans (changesFragments_addPiece writer draft.clear
        (.directive .block draft.pending.toList) rfl rfl)
      obtain ⟨body, functions, changed⟩ := added
      rw [completeBlock_eq writer] at closed
      refine ChangesFragments.obeys ⟨body, functions, ?_⟩ rfl rfl
      split_ifs at closed <;> cases closed <;> exact changed
  | engineName =>
      have text : draft.pending = String.ofList (tokens.flatMap Token.text) := pending (by decide)
      cases named : Markup.engineText? tokens with
      | none =>
          have unnamed : engineText? draft.pending = none := text ▸ named
          simp only [complete, completeEngine, unnamed] at completed
          cases completed
      | some name =>
          have same : engineText? draft.pending = some name := text ▸ named
          simp only [complete, completeEngine, same] at completed
          obtain ⟨after, declared, rest⟩ := exists_ok_of_bind completed
          obtain ⟨_, template, accepted, _, rfl⟩ := declareName_eq_ok_iff.mp declared
          cases rest
          have performed : draft.tree.template.perform (.body .engineName tokens) =
              .ok template := by
            simp only [Template.perform, named]
            exact accepted
          refine obeys_of_edit performed rfl ?_
          simp only [Directive.event, named, Option.elim_some]

variable (writer) in
/-- At the close tag, the text of the body is collected. Only a function block may have more. -/
theorem pending_atClose (draft : Draft) (literal written : List Char) {region : Region}
    (other : region ≠ .function) (tokens : List Token) :
    ((draft.atTag writer literal).atClose region written tokens).pending =
      String.ofList (collected region tokens) := by
  have opening : Opening.body region ≠ .body .function := by simpa using other
  simp only [atClose, enter, if_neg opening, goTo_pending, ← String.toList_inj,
    String.toList_append]
  simp [atTag]

/-- **A performed section** does to the template what its directive tells, and leaves to be done
what its directive tells. -/
theorem obeys_of_perform {s : Section} {done : Draft × Event}
    (performed : draft.perform writer ancestors s = .ok done) : draft.Obeys s.directive done := by
  refine Obeys.after ?_ (changesFragments_atTag writer draft s.literal)
  unfold perform at performed
  cases directive : s.directive with
  | body region tokens =>
      simp only [directive] at performed
      have same : ((draft.atTag writer s.literal).atClose region s.written tokens).tree =
          (draft.atTag writer s.literal).tree := by
        simp only [atClose, enter]
        split_ifs <;> simp
      have pending (other : region ≠ .function) := pending_atClose writer draft s.literal s.written
        other tokens
      obtain ⟨⟨template, body, functions, performs, after⟩, event⟩ :=
        obeys_of_complete pending performed
      rw [same] at performs after
      exact ⟨⟨template, body, functions, performs, after⟩, event⟩
  | name kind name =>
      simp only [directive] at performed
      obtain ⟨after, declared, rest⟩ := exists_ok_of_bind performed
      obtain ⟨_, template, accepted, _, rfl⟩ := declareName_eq_ok_iff.mp declared
      cases rest
      exact ⟨⟨template, template.body, template.functions, accepted, rfl⟩, rfl⟩
  | inclusion path =>
      simp only [directive] at performed
      cases performed
      exact ⟨⟨_, _, _, rfl, rfl⟩, rfl⟩

variable (writer) in
/-- The draft behind a section whose directive has no body, before the directive is performed. -/
def atEnd (draft : Draft) (s : Section) : Draft :=
  (((draft.atTag writer s.literal).skip s.written).goTo .literal).clear

variable (writer) in
theorem changesFragments_atEnd (draft : Draft) (s : Section) :
    draft.ChangesFragments (draft.atEnd writer s) :=
  changesFragments_atTag writer draft s.literal

section Follow

variable {m : Type → Type} [Monad m] [LawfulMonad m]
  {compose : IncludeTree → String → Location → m (Except ParseError IncludeTree)} {s : Section}

/-- An include section composes its include at its tag. -/
theorem follow_of_inclusion {path : List Char} (inclusion : s.directive = .inclusion path) :
    draft.follow writer ancestors compose s =
      settle compose (draft.atEnd writer s, .inclusion (String.ofList path)) := by
  rw [follow, perform, inclusion]
  simp only [ofExcept_ok, pure_bind]
  rfl

/-- A name section declares its name. -/
theorem follow_of_name {kind : NameKind} {chars : List Char}
    (named : s.directive = .name kind chars) :
    draft.follow writer ancestors compose s =
      ofExcept ((draft.atEnd writer s).declareName ancestors kind (String.ofList chars)) := by
  rw [follow, perform, named]
  dsimp only
  rw [show (((draft.atTag writer s.literal).skip s.written).goTo .literal).clear =
    draft.atEnd writer s from rfl]
  cases (draft.atEnd writer s).declareName ancestors kind (String.ofList chars) with
  | error cause =>
      rw [show (Except.error cause >>= quietly) = .error cause from rfl, ofExcept_error,
        ofExcept_error]
      exact ExceptT.ext (by simp)
  | ok next =>
      rw [show (Except.ok next >>= quietly) = Except.ok (next, .none) from rfl, ofExcept_ok,
        ofExcept_ok, pure_bind, settle_none]

/-- **What one section does.** An include leads to the tree that composing it returns. Every other
section leads to the template that its directive tells, its fragments apart. -/
theorem follow_cases [MonadAttach m] [LawfulMonadAttach m]
    (returned : CanReturn (draft.follow writer ancestors compose s) next) :
    ∃ template body functions, draft.tree.template.perform s.directive = .ok template ∧
      let performed := draft.tree.withTemplate (template.withFragments body functions)
      (((∀ path, s.directive ≠ .inclusion path) ∧ next.tree = performed) ∨
        ∃ path, s.directive = .inclusion path ∧
          CanReturn (compose performed (String.ofList path)
            (draft.atTag writer s.literal).tagStart) (.ok next.tree)) := by
  obtain ⟨⟨done, event⟩, performed, settled⟩ := exists_of_canReturn_follow returned
  obtain ⟨⟨template, body, functions, performs, after⟩, left⟩ := obeys_of_perform performed
  refine ⟨template, body, functions, performs, ?_⟩
  dsimp only at after left ⊢
  rw [← after]
  by_cases includes : ∃ path, s.directive = .inclusion path
  · obtain ⟨path, inclusion⟩ := includes
    simp only [perform, inclusion] at performed
    cases performed
    obtain ⟨tree, composed, rfl⟩ := exists_of_settle_inclusion settled
    exact .inr ⟨path, inclusion, composed⟩
  · have other : ∀ path, s.directive ≠ .inclusion path :=
      fun path inclusion => includes ⟨path, inclusion⟩
    have quiet : ∀ path, event ≠ .inclusion path := fun path same =>
      s.directive.event_ne_inclusion other path (left.symm.trans same)
    rw [settle_of_other quiet] at settled
    exact .inl ⟨other, congrArg Draft.tree (eq_of_canReturn_pure settled).symm⟩

end Follow

end Draft

/-! ## Included templates -/

theorem IncludeTree.forall_templates_iff {valid : Template → Prop} {tree : IncludeTree} :
    (∀ template ∈ tree.templates, valid template) ↔
      valid tree.template ∧ ∀ template ∈ tree.includedTemplates, valid template := by
  rw [templates_eq, List.forall_mem_cons]

/-- A tree that takes in an included one merges what the target makes of its dependencies and
adds what the target makes of its code. -/
theorem IncludeTree.exists_of_adopt {emitter : Emitter} {ancestors : List Identity}
    {parent child tree : IncludeTree} {location : Location}
    (adopted : parent.adopt emitter ancestors child location = .ok tree) :
    ∃ dependencies,
      emitter.rule.merge parent.template.dependencies
        (emitter.broughtDependencies child.template) = .ok dependencies ∧
      tree = (parent.withTemplate
        ({ parent.template with dependencies := dependencies }.addExternalCode
          (emitter.broughtCode child.template))).addIncluded child := by
  simp only [adopt] at adopted
  split at adopted
  · cases adopted
  · split at adopted
    · cases adopted
    · rename_i template absorbed
      cases adopted
      obtain ⟨dependencies, merged, rest⟩ := exists_ok_of_bind absorbed
      cases rest
      exact ⟨dependencies, merged, rfl⟩

/-- A tree takes in an included one whose identities are not in use around or in it, and whose
dependencies can be merged. -/
theorem IncludeTree.adopt_eq {emitter : Emitter} {ancestors : List Identity}
    {parent child : IncludeTree} {location : Location} {dependencies : String}
    (apart : ∀ identity ∈ child.identities,
      identity ∉ parent.identities ∧ identity ∉ ancestors)
    (merged : emitter.rule.merge parent.template.dependencies
      (emitter.broughtDependencies child.template) = .ok dependencies) :
    parent.adopt emitter ancestors child location =
      .ok ((parent.withTemplate
        ({ parent.template with dependencies := dependencies }.addExternalCode
          (emitter.broughtCode child.template))).addIncluded child) := by
  have free : child.identities.find? (fun identity => identity ∈ parent.identities ++ ancestors) =
      none := by
    refine List.find?_eq_none.mpr fun identity member => ?_
    simpa only [decide_eq_true_eq, List.mem_append, not_or] using apart identity member
  simp only [adopt, free, Emitter.absorb, merged]
  rfl

namespace Compiler

variable {m : Type → Type} [Monad m] [LawfulMonad m] [MonadAttach m] [LawfulMonadAttach m]
  {compiler : Compiler m} {holds : List Section → IncludeTree → Prop}
  {parse? : Option (ParseText m)} {created : Nat} {ancestors : List Identity}
  {settings : Settings} {source : String} {tree : IncludeTree}

/-- A property of the sections read and the tree read so far that new templates have without a
section, that does not look at the fragments of the template being read, and that one more
directive or include keeps. -/
structure SectionInvariant {m : Type → Type} (compiler : Compiler m)
    (holds : List Section → IncludeTree → Prop) : Prop where
  fresh : ∀ settings created, holds [] (compiler.startDraft created settings).tree
  fragments : ∀ read tree body functions, holds read tree →
    holds read (tree.withTemplate (tree.template.withFragments body functions))
  perform : ∀ read tree (s : Section) template, holds read tree → s.directive.IsNamed →
    (∀ path, s.directive ≠ .inclusion path) →
    tree.template.perform s.directive = .ok template →
    holds (read ++ [s]) (tree.withTemplate template)
  adopt : ∀ ancestors parent child location read childRead (s : Section) path tree,
    holds read parent → holds childRead child → s.directive = .inclusion path →
    parent.adopt compiler.emitter ancestors child location = .ok tree → holds (read ++ [s]) tree

/-- **A parse that succeeds** has followed the sections of its text outside of functions, and its
tail is literal text. -/
theorem exists_sections_of_parseWith
    (returned : CanReturn (compiler.parseWith parse? created ancestors settings source)
      (.ok tree)) :
    EndsInLiteral source.toList ∧ ∃ mid : Draft,
      CanReturn ((sections source.toList).1.foldlM (Draft.follow compiler.emitter.writer ancestors
        (compiler.compose parse? created ancestors)) (compiler.startDraft created settings)) mid ∧
      mid.mode = .off ∧ mid.state = .literal ∧
      tree = (mid.addPiece compiler.emitter.writer
        (.literal (mid.pending.toList ++ (sections source.toList).2))).tree := by
  obtain ⟨literal, _⟩ := fragments_of_parseWith returned
  obtain ⟨last, read, finished⟩ := exists_reads_of_parseWith returned
  rw [Compiler.reads, Draft.reads_sections isBetween_startDraft] at read
  obtain ⟨mid, followed, read⟩ := exists_canReturn_of_bind read
  have between := (Draft.follows_of_sections keepsFragments follows_startDraft
    isBetween_startDraft followed).1
  obtain ⟨ended, leads, _, _, outcome⟩ := Draft.leadsTo_of_untagged compiler.emitter.writer
    ancestors between.state literal
  have same := Draft.eq_of_canReturn_reads leads nofun read
  subst same
  rw [outcome] at finished
  split_ifs at finished with off
  cases finished
  exact ⟨literal, mid, followed, off, between.state, rfl⟩

/-- A text whose tail is literal text is parsed where its sections lead to a draft outside of
functions. -/
theorem parseWith_of_sections {mid : Draft} (literal : EndsInLiteral source.toList)
    (followed : (sections source.toList).1.foldlM
      (Draft.follow compiler.emitter.writer ancestors (compiler.compose parse? created ancestors))
      (compiler.startDraft created settings) = pure mid)
    (off : mid.mode = .off) (state : mid.state = .literal) :
    compiler.parseWith parse? created ancestors settings source =
      pure (.ok (mid.addPiece compiler.emitter.writer
        (.literal (mid.pending.toList ++ (sections source.toList).2))).tree) := by
  obtain ⟨ended, leads, _, _, outcome⟩ := Draft.leadsTo_of_untagged compiler.emitter.writer
    ancestors state literal
  rw [parseWith_eq_reads, Compiler.reads, Draft.reads_sections isBetween_startDraft, followed,
    pure_bind, leads.reads_eq, Draft.reads_nil, pure_bind, outcome, if_pos off]
  rfl

namespace SectionInvariant

/-- Each section keeps the property, where it holds of what is included. -/
theorem of_sections (invariant : compiler.SectionInvariant holds)
    (inner : ∀ parse ∈ parse?, ∀ created ancestors settings source tree,
      CanReturn (parse created ancestors settings source) (.ok tree) → ∃ read, holds read tree)
    (read : List Section) {rest : List Section} {draft last : Draft}
    (named : ∀ s ∈ rest, s.directive.IsNamed) (valid : holds read draft.tree)
    (returned : CanReturn (rest.foldlM (Draft.follow compiler.emitter.writer ancestors
      (compiler.compose parse? created ancestors)) draft) last) :
    holds (read ++ rest) last.tree := by
  induction rest generalizing draft read with
  | nil =>
      rw [← eq_of_canReturn_pure returned, List.append_nil]
      exact valid
  | cons s rest ih =>
      rw [List.foldlM_cons] at returned
      obtain ⟨mid, followed, returned⟩ := exists_canReturn_of_bind returned
      obtain ⟨template, body, functions, performs, outcome⟩ := Draft.follow_cases followed
      have kept : holds (read ++ [s]) mid.tree := by
        rcases outcome with ⟨other, after⟩ | ⟨path, inclusion, composed⟩
        · rw [after]
          exact invariant.fragments _ _ body functions <|
            invariant.perform _ _ s template valid (named s (List.mem_cons_self ..)) other performs
        · rw [inclusion] at performs
          cases performs
          have before := invariant.fragments _ _ body functions valid
          obtain ⟨parse, _, _, child, given, _, _, parsed, adopted⟩ := exists_of_compose composed
          obtain ⟨childRead, childValid⟩ := inner parse given _ _ _ _ _ parsed
          exact invariant.adopt _ _ _ _ _ _ _ _ _ before childValid inclusion adopted
      rw [List.append_cons]
      exact ih _ (fun later member => named later (List.mem_cons_of_mem _ member)) kept returned

theorem of_parseWith (invariant : compiler.SectionInvariant holds)
    (inner : ∀ parse ∈ parse?, ∀ created ancestors settings source tree,
      CanReturn (parse created ancestors settings source) (.ok tree) → ∃ read, holds read tree)
    (returned : CanReturn (compiler.parseWith parse? created ancestors settings source)
      (.ok tree)) : holds (sections source.toList).1 tree := by
  obtain ⟨_, mid, followed, _, _, rfl⟩ := exists_sections_of_parseWith returned
  have valid := invariant.of_sections inner [] (fun s => isNamed_of_mem_sections)
    (invariant.fresh settings created) followed
  obtain ⟨body, functions, after⟩ := Draft.changesFragments_addPiece compiler.emitter.writer mid
    (.literal (mid.pending.toList ++ (sections source.toList).2)) rfl rfl
  rw [after]
  exact invariant.fragments _ _ _ _ valid

theorem of_parseWithin (invariant : compiler.SectionInvariant holds) (depth : Nat)
    (returned : CanReturn (compiler.parseWithin depth created ancestors settings source)
      (.ok tree)) : holds (sections source.toList).1 tree := by
  induction depth generalizing created ancestors settings source tree with
  | zero => exact invariant.of_parseWith (by simp) returned
  | succ depth ih =>
      refine invariant.of_parseWith ?_ returned
      rintro parse given created ancestors settings source tree parsed
      cases given
      exact ⟨_, ih parsed⟩

/-- **What sections and includes keep holds of parsed trees** and the sections of their texts. -/
theorem of_parse (invariant : compiler.SectionInvariant holds)
    (returned : CanReturn (compiler.parse source settings) (.ok tree)) :
    holds (sections source.toList).1 tree :=
  invariant.of_parseWithin _ returned

omit [Monad m] [LawfulMonad m] [MonadAttach m] [LawfulMonadAttach m] in
/-- A property of single templates that bound ones have, that directives keep, and that does not
look at dependencies, external code and fragments, holds of all templates of a tree. -/
theorem of_templates {valid : Template → Prop}
    (fresh : ∀ settings created, valid (compiler.boundTemplate settings (compiler.ids created)))
    (perform : ∀ (template : Template) (directive : Directive) performed, valid template →
      directive.IsNamed → template.perform directive = .ok performed → valid performed)
    (enriched : ∀ (template : Template) dependencies externalCode body functions,
      valid template → valid { template with
        dependencies := dependencies, externalCode := externalCode,
        body := body, functions := functions }) :
    compiler.SectionInvariant fun _ tree => ∀ template ∈ tree.templates, valid template where
  fresh := by
    intro settings created template inside
    obtain ⟨dependencies, code, prepared⟩ :=
      compiler.emitter.prepare_eq (compiler.boundTemplate settings (compiler.ids created))
    rw [List.mem_singleton.mp inside, prepared]
    exact enriched _ dependencies code _ _ (fresh settings created)
  fragments := by
    intro read tree body functions all
    obtain ⟨top, below⟩ := IncludeTree.forall_templates_iff.mp all
    exact IncludeTree.forall_templates_iff.mpr ⟨enriched _ _ _ body functions top, below⟩
  perform := by
    intro read tree s performed all named _ result
    obtain ⟨top, below⟩ := IncludeTree.forall_templates_iff.mp all
    exact IncludeTree.forall_templates_iff.mpr ⟨perform _ _ _ top named result, below⟩
  adopt := by
    intro ancestors parent child location read childRead s path tree outer inner _ adopted
    obtain ⟨_, dependencies, code, rfl⟩ := IncludeTree.adopt_eq_ok adopted
    obtain ⟨top, below⟩ := IncludeTree.forall_templates_iff.mp outer
    refine IncludeTree.forall_templates_iff.mpr
      ⟨enriched _ dependencies code _ _ top, fun template inside => ?_⟩
    rcases IncludeTree.mem_includedTemplates_addIncluded.mp inside with before | rfl | deeper
    · exact below template before
    · exact (IncludeTree.forall_templates_iff.mp inner).1
    · exact (IncludeTree.forall_templates_iff.mp inner).2 template deeper

end SectionInvariant

end Compiler

end TemplateCompiler
