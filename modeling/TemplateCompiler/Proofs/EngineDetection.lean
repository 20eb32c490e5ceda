import TemplateCompiler.EngineName
import TemplateCompiler.Proofs.Markup.Declarations
import TemplateCompiler.Proofs.Places

/-! # Detecting the engine of a template

Looking for the engine declaration of a text goes along with every parse of the text that
succeeds, although it writes nothing, follows no include and starts without an engine: section by
section, both have the same place and mode, and the names that have been declared
(`Draft.Accompanies`). Neither looks at names that stand in until one is declared. The search ends
with the first declaration, whatever stands behind it.

They part where a module has a name that the usual grammar refuses: the search knows no other
grammar (`Markup.refusal?`, `Compiler.declaredEngine_eq_of_parse`). Where the parse uses the usual
grammar too, they do not (`Compiler.declaredEngine_of_parse`).
-/

namespace TemplateCompiler

open Markup
open MonadAttach (CanReturn)

/-! ## Module names against the usual grammar -/

namespace Markup

/-- The module name that a directive declares against the usual grammar. -/
def Directive.unusual? : Directive → Option String
  | .name .moduleName chars =>
    if Grammar.dotted.accepts (String.ofList chars) then none else some (String.ofList chars)
  | _ => none

/-- The error that sections behind a text have for a reader who knows only the usual grammar and
stops at the first engine declaration. -/
def refusal? : (before : List Char) → List Section → Option ParseError
  | _, [] => none
  | before, s :: rest =>
    match s.directive.unusual? with
    | some name => some (.naming (.invalidIdentifier .moduleName name) (s.opened before))
    | none => if s.directive.engine?.isSome then none else refusal? (before ++ s.text) rest

theorem Directive.eq_of_unusual? {directive : Directive} {name : String}
    (unusual : directive.unusual? = some name) :
    ∃ chars, directive = .name .moduleName chars ∧ name = String.ofList chars ∧
      Grammar.dotted.accepts name = false := by
  cases directive with
  | name kind chars =>
      cases kind with
      | moduleName =>
          simp only [unusual?] at unusual
          split_ifs at unusual with accepted
          cases unusual
          exact ⟨chars, rfl, rfl, Bool.eq_false_iff.mpr accepted⟩
      | _ => cases unusual
  | _ => cases unusual

/-- A template with the usual grammar takes no other module names. -/
theorem Directive.unusual?_of_perform {directive : Directive} {template performed : Template}
    (usual : template.moduleGrammar = .dotted)
    (result : template.perform directive = .ok performed) : directive.unusual? = none := by
  cases unusual : directive.unusual? with
  | none => rfl
  | some name =>
      obtain ⟨chars, rfl, rfl, refused⟩ := eq_of_unusual? unusual
      have declared : template.declare .moduleName (String.ofList chars) = .ok performed := result
      have accepted := (Template.declare_eq_ok declared).1
      rw [usual, refused] at accepted
      cases accepted

end Markup

/-! ## Shadows of a template -/

namespace Template

variable {template : Template} {kind : NameKind} {name : String}

/-- A template without an engine, with the usual grammar, has the declared names of one that is
bound to an engine. -/
structure Shadows (engine : String) (shadow template : Template) : Prop where
  unbound : shadow.engineSlot = .unset
  bound : template.engineSlot = .explicit engine
  usual : shadow.moduleGrammar = .dotted
  classNames : shadow.classSlot.declared? = template.classSlot.declared?
  moduleNames : shadow.moduleSlot.declared? = template.moduleSlot.declared?

variable {engine : String} {shadow performed : Template} {directive : Directive}

theorem Shadows.withFragments (shadows : shadow.Shadows engine template)
    (body functions body' functions' : FragmentStream) :
    (shadow.withFragments body functions).Shadows engine
      (template.withFragments body' functions') :=
  ⟨shadows.unbound, shadows.bound, shadows.usual, shadows.classNames, shadows.moduleNames⟩

/-- What a template takes, its shadow takes, unless it is a module name against the usual grammar.
An engine must be the one that the template is bound to. -/
theorem Shadows.declare (shadows : shadow.Shadows engine template)
    (usual : kind = .moduleName → Grammar.dotted.accepts name = true)
    (declared : template.declare kind name = .ok performed) :
    (∃ after, shadow.declare kind name = .ok after) ∧ (kind = .engineName → name = engine) := by
  obtain ⟨fits, free⟩ := exists_declare_iff.mp ⟨performed, declared⟩
  rw [exists_declare_iff]
  cases kind with
  | className => exact ⟨⟨fits, shadows.classNames ▸ free⟩, nofun⟩
  | moduleName =>
      have accepted : (shadow.grammar .moduleName).accepts name = true := by
        rw [show shadow.grammar .moduleName = .dotted from shadows.usual]
        exact usual rfl
      exact ⟨⟨accepted, shadows.moduleNames ▸ free⟩, nofun⟩
  | engineName =>
      have unbound : (shadow.slot .engineName).declared? = none := by
        simp [slot, shadows.unbound, NameSlot.declared?]
      have bound : engine ∈ (template.slot .engineName).declared? := by
        simp [slot, shadows.bound, NameSlot.declared?]
      exact ⟨⟨fits, by simp [unbound]⟩, fun _ => (free engine bound).symm⟩

/-- What a template does, its shadow does, unless it is against the usual grammar. -/
theorem Shadows.exists_perform (shadows : shadow.Shadows engine template)
    (usual : directive.unusual? = none) (result : template.perform directive = .ok performed) :
    ∃ after, shadow.perform directive = .ok after := by
  cases directive with
  | name kind chars =>
      refine (shadows.declare ?_ result).1
      rintro rfl
      simpa [Directive.unusual?] using usual
  | inclusion path => exact ⟨shadow, rfl⟩
  | body region tokens =>
      cases region with
      | engineName =>
          simp only [perform] at result ⊢
          cases named : engineText? tokens with
          | none => exact ⟨shadow, rfl⟩
          | some name =>
              simp only [named] at result
              exact (shadows.declare (fun other => by cases other) result).1
      | _ => exact ⟨_, rfl⟩

/-- A named engine is the one that the template is bound to. -/
theorem Shadows.eq_of_engine? (shadows : shadow.Shadows engine template)
    (result : template.perform directive = .ok performed) (named : directive.engine? = some name) :
    name = engine := by
  cases directive with
  | name kind chars => cases named
  | inclusion path => cases named
  | body region tokens =>
      cases region with
      | engineName =>
          have same : engineText? tokens = some name := named
          simp only [perform, same] at result
          exact (shadows.declare (fun other => by cases other) result).2 rfl
      | _ => cases named

theorem moduleGrammar_of_perform (result : template.perform directive = .ok performed) :
    performed.moduleGrammar = template.moduleGrammar := by
  cases directive with
  | inclusion path =>
      cases result
      rfl
  | body region tokens => rw [eq_of_perform_body result]
  | name kind chars =>
      have written := declare_eq_ok result
      cases kind <;> rw [written.2]

theorem engineSlot_of_perform (named : directive.IsNamed) (other : directive.engine? = none)
    (result : template.perform directive = .ok performed) :
    performed.engineSlot = template.engineSlot := by
  cases directive with
  | inclusion path =>
      cases result
      rfl
  | body region tokens => rw [eq_of_perform_body result, other, Option.elim_none]
  | name kind chars =>
      have written := declare_eq_ok result
      cases kind with
      | engineName => exact absurd rfl named.1
      | _ => rw [written.2]

/-- A directive that names no engine keeps shadows. -/
theorem Shadows.perform {after : Template} (shadows : shadow.Shadows engine template)
    (named : directive.IsNamed) (other : directive.engine? = none)
    (result : template.perform directive = .ok performed)
    (shadowed : shadow.perform directive = .ok after) : after.Shadows engine performed := by
  have unbound := (engineSlot_of_perform named other shadowed).trans shadows.unbound
  have bound := (engineSlot_of_perform named other result).trans shadows.bound
  cases directive with
  | inclusion path =>
      cases result
      cases shadowed
      exact shadows
  | name kind chars =>
      have first := declare_eq_ok result
      have second := declare_eq_ok shadowed
      cases kind with
      | className =>
          rw [first.2] at bound ⊢
          rw [second.2] at unbound ⊢
          exact ⟨unbound, bound, shadows.usual, rfl, shadows.moduleNames⟩
      | moduleName =>
          rw [first.2] at bound ⊢
          rw [second.2] at unbound ⊢
          exact ⟨unbound, bound, shadows.usual, shadows.classNames, rfl⟩
      | engineName => exact absurd rfl named.1
  | body region tokens =>
      rw [eq_of_perform_body result] at bound ⊢
      rw [eq_of_perform_body shadowed] at unbound ⊢
      exact ⟨unbound, bound, shadows.usual, shadows.classNames, shadows.moduleNames⟩

end Template

/-! ## Searching section by section -/

namespace Draft

variable {writer : Writer} {ancestors : List Identity} {draft next last detector : Draft}
  {text rest : List Char} {s : Section}

theorem LeadsTo.findEngine_eq (leads : LeadsTo .silent [] draft text last rest) :
    draft.findEngine text = last.findEngine rest := by
  induction leads with
  | refl => rfl
  | step stepped _ ih => rw [findEngine, stepped, ← ih]
  | same steps _ ih => rw [← ih, findEngine, findEngine, steps]

/-- What leads on through a text does so whatever stands behind it. -/
theorem LeadsTo.append (leads : LeadsTo writer ancestors draft text last rest)
    (back : List Char) : LeadsTo writer ancestors draft (text ++ back) last (rest ++ back) := by
  induction leads with
  | refl draft text => exact .refl draft (text ++ back)
  | step stepped _ ih => exact .step stepped ih
  | same steps _ ih => exact .same steps ih

/-- What the search does with a section, whatever stands behind it. -/
theorem findEngine_section (state : draft.state = .literal)
    (first : section? text = some (s, rest)) (back : List Char) :
    draft.findEngine (text ++ back) =
      match draft.perform .silent [] s with
      | .error cause => .error cause
      | .ok (_, .engine name) => .ok (some name)
      | .ok (next, _) => next.findEngine (rest ++ back) := by
  obtain ⟨last, leads, performed⟩ := leadsTo_of_section .silent [] state first
  have read : last.findEngine ('>' :: (rest ++ back)) =
      match last.step .silent [] '>' with
      | .error cause => .error cause
      | .ok (_, .engine name) => .ok (some name)
      | .ok (next, _) => next.findEngine (rest ++ back) := rfl
  rw [(leads.append back).findEngine_eq, List.cons_append, read, performed]

/-- **The search ends with a section** that names an engine, and goes on behind every other one
that is performed. -/
theorem findEngine_section_of_perform (state : draft.state = .literal)
    (first : section? text = some (s, rest)) (back : List Char) {done : Draft × Event}
    (performed : draft.perform .silent [] s = .ok done) :
    draft.findEngine (text ++ back) =
      match s.directive.engine? with
      | some name => .ok (some name)
      | none => done.1.findEngine (rest ++ back) := by
  obtain ⟨next, event⟩ := done
  have quiet : event = s.directive.event := (obeys_of_perform performed).event
  rw [findEngine_section state first, performed]
  cases names : s.directive.engine? with
  | some name =>
      rw [quiet, Directive.event_eq_engine_iff.mpr names]
  | none =>
      cases event with
      | none => rfl
      | inclusion path => rfl
      | engine name =>
          rw [Directive.event_eq_engine_iff.mp quiet.symm] at names
          cases names

/-- Without templates around and below, a name is declared that the template takes. -/
theorem exists_declareName (draft : Draft) (alone : draft.tree.included = [])
    {kind : NameKind} {name : String} (nonempty : name ≠ "")
    (accepts : ∃ template, draft.tree.template.declare kind name = .ok template) :
    ∃ after, draft.declareName [] kind name = .ok after := by
  obtain ⟨template, accepted⟩ := accepts
  have unused : draft.tree.containsIdentity template.identity = false := by
    simp [IncludeTree.containsIdentity, IncludeTree.includedTemplates, alone,
      IncludeTree.forestTemplates]
  exact ⟨_, declareName_eq_ok_iff.mpr
    ⟨nonempty, template, accepted, fun _ => ⟨List.not_mem_nil, unused⟩, rfl⟩⟩

theorem ChangesFragments.exists_declare (changes : draft.ChangesFragments next) {kind : NameKind}
    {name : String} (accepts : ∃ template, draft.tree.template.declare kind name = .ok template) :
    ∃ template, next.tree.template.declare kind name = .ok template := by
  obtain ⟨body, functions, same⟩ := changes
  obtain ⟨template, accepted⟩ := accepts
  rw [same, IncludeTree.withTemplate_template, Template.declare_withFragments, accepted]
  exact ⟨_, rfl⟩

/-- Where one draft completes a directive, so does another one at the same place and in the same
mode that takes the engine. -/
theorem exists_complete_of_complete {region : Region} {done : Draft × Event}
    (cursor : detector.cursor = draft.cursor) (mode : detector.mode = draft.mode)
    (engine : region = .engineName → ∃ name, engineText? detector.pending = some name ∧
      ∃ after, detector.clear.declareName [] .engineName name = .ok after)
    (completed : draft.complete writer ancestors region = .ok done) :
    ∃ after, detector.complete .silent [] region = .ok after := by
  cases region with
  | block =>
      obtain ⟨closed, completed, _⟩ := exists_ok_of_bind completed
      simp only [complete]
      rw [completeBlock_eq writer] at completed
      rw [completeBlock_eq .silent, cursor, mode]
      dsimp only at completed ⊢
      split_ifs at completed ⊢ <;> exact ⟨_, rfl⟩
  | engineName =>
      obtain ⟨name, text, after, declared⟩ := engine rfl
      simp only [complete, completeEngine, text, declared]
      exact ⟨_, rfl⟩
  | _ => exact ⟨_, rfl⟩

theorem mode_enter (draft : Draft) (opening : Opening) :
    (draft.enter opening).mode =
      if opening = .body .function ∧ draft.mode = .off then .on else draft.mode := by
  simp only [enter, goTo_mode]
  by_cases function : opening = .body .function
  · by_cases off : draft.mode = .off <;> simp [function, openFunction, off]
  · simp [function]

/-- Where one draft performs a section, so does another one at the same place and in the same
mode, without templates around and below, whose template takes the directive. -/
theorem exists_perform_of_perform {done : Draft × Event}
    (cursor : detector.cursor = draft.cursor) (mode : detector.mode = draft.mode)
    (alone : detector.tree.included = [])
    (accepts : ∃ template, detector.tree.template.perform s.directive = .ok template)
    (performed : draft.perform writer ancestors s = .ok done) :
    ∃ after, detector.perform .silent [] s = .ok after := by
  have tagged := changesFragments_atTag .silent detector s.literal
  have taggedAlone : (detector.atTag .silent s.literal).tree.included = [] := by
    obtain ⟨_, _, same⟩ := tagged
    rw [same]
    exact alone
  -- Identities, which the search does not know, can only make a name fail that it accepts.
  unfold perform at performed ⊢
  cases directive : s.directive with
  | inclusion path => exact ⟨_, rfl⟩
  | name kind chars =>
      simp only [directive] at performed accepts ⊢
      obtain ⟨_, declared, _⟩ := exists_ok_of_bind performed
      obtain ⟨nonempty, _⟩ := declareName_eq_ok_iff.mp declared
      obtain ⟨after, declared⟩ := exists_declareName
        (((detector.atTag .silent s.literal).skip s.written).goTo .literal).clear
        taggedAlone nonempty (tagged.exists_declare accepts)
      rw [declared]
      exact ⟨_, rfl⟩
  | body region tokens =>
      simp only [directive] at performed accepts ⊢
      refine exists_complete_of_complete ?_ ?_ ?_ performed
      · simp only [atClose, atTag, cursor]
      · have same : (detector.atTag .silent s.literal).mode = (draft.atTag writer s.literal).mode :=
          mode
        simp only [atClose, mode_enter, same]
      · rintro rfl
        have other : Region.engineName ≠ .function := by decide
        have pending := pending_atClose writer draft s.literal s.written other tokens
        have same := pending_atClose .silent detector s.literal s.written other tokens
        simp only [complete, completeEngine, pending] at performed
        cases text : engineText? (String.ofList (collected .engineName tokens)) with
        | none =>
            simp only [text] at performed
            cases performed
        | some name =>
            simp only [text] at performed
            obtain ⟨_, declared, _⟩ := exists_ok_of_bind performed
            obtain ⟨nonempty, _⟩ := declareName_eq_ok_iff.mp declared
            have named : Markup.engineText? tokens = some name := text
            simp only [Template.perform, named] at accepts
            exact ⟨name, same ▸ text, exists_declareName
              ((detector.atTag .silent s.literal).atClose .engineName s.written tokens).clear
              taggedAlone nonempty (tagged.exists_declare accepts)⟩

/-- A module name against the usual grammar is refused at its directive. -/
theorem perform_of_unusual {before : List Char} {name : String} (between : draft.IsBetween before)
    (usual : draft.tree.template.moduleGrammar = .dotted) (nonempty : name ≠ "")
    (unusual : s.directive.unusual? = some name) :
    draft.perform writer ancestors s =
      .error (.naming (.invalidIdentifier .moduleName name) (s.opened before)) := by
  obtain ⟨chars, directive, rfl, refused⟩ := Directive.eq_of_unusual? unusual
  obtain ⟨_, _, same⟩ := changesFragments_atEnd writer draft s
  have grammar : (draft.atEnd writer s).tree.template.moduleGrammar = .dotted := by
    rw [same]
    exact usual
  have opened : (draft.atEnd writer s).tagStart = s.opened before :=
    tagStart_atTag writer between s.literal
  have declared : (draft.atEnd writer s).declareName ancestors .moduleName (String.ofList chars) =
      .error
        (.naming (.invalidIdentifier .moduleName (String.ofList chars)) (s.opened before)) := by
    simp [declareName, nonempty, Template.declare, Template.declareModule, grammar, refused, opened]
  rw [perform, directive]
  exact congrArg (· >>= quietly) declared

/-- A draft in which the engine of a text is looked for accompanies one that parses the text: both
have followed the same sections. It has the declared names, the usual grammar, no engine and no
included templates. -/
structure Accompanies (writer : Writer) (engine : String) (draft detector : Draft)
    (history : History) : Prop where
  between : draft.IsBetween history.before
  follows : draft.Follows writer history
  detectorBetween : detector.IsBetween history.before
  detectorFollows : detector.Follows .silent history
  alone : detector.tree.included = []
  shadows : detector.tree.template.Shadows engine draft.tree.template

/-- An accompanied draft itself has the usual grammar. -/
structure Detects (writer : Writer) (engine : String) (draft detector : Draft)
    (history : History) : Prop extends Accompanies writer engine draft detector history where
  usual : draft.tree.template.moduleGrammar = .dotted

theorem findEngine_nil (draft : Draft) :
    draft.findEngine [] =
      (draft.finish .silent).map fun tree => tree.template.engineName? := by
  rw [findEngine]
  cases draft.finish .silent <;> rfl

/-- At the end of literal text, no engine is found where none is bound. -/
theorem findEngine_of_untagged (state : draft.state = .literal)
    (unbound : draft.tree.template.engineSlot = .unset)
    (literal : splitAt? ['<', '%'] text = none) :
    (draft.mode = .off → draft.findEngine text = .ok none) ∧
      ∀ name, draft.findEngine text ≠ .ok (some name) := by
  obtain ⟨last, leads, _, _, finished⟩ := leadsTo_of_untagged .silent [] state literal
  obtain ⟨_, _, added⟩ := changesFragments_addPiece .silent draft
    (.literal (draft.pending.toList ++ text)) rfl rfl
  have nothing : ((draft.addPiece .silent
      (.literal (draft.pending.toList ++ text))).tree.template.engineName?) = none := by
    rw [added, IncludeTree.withTemplate_template, Template.engineName?, Template.withFragments,
      unbound]
    rfl
  rw [leads.findEngine_eq, findEngine_nil, finished]
  by_cases off : draft.mode = .off
  · rw [if_pos off]
    refine ⟨fun _ => congrArg Except.ok nothing, fun name found => ?_⟩
    have same := nothing.symm.trans (Except.ok.inj found)
    cases same
  · rw [if_neg off]
    refine ⟨fun on => absurd on off, fun name found => ?_⟩
    cases found

/-- In a directive that is not closed, no engine is found. -/
theorem findEngine_of_tail (state : draft.state = .literal)
    (unbound : draft.tree.template.engineSlot = .unset) (tail : section? text = none)
    (name : String) : draft.findEngine text ≠ .ok (some name) := by
  cases tagged : splitAt? ['<', '%'] text with
  | none => exact (findEngine_of_untagged state unbound tagged).2 name
  | some found =>
      obtain ⟨literal, tag⟩ := found
      have tagOpen : (draft.atTag .silent literal).state = .tagOpen := rfl
      obtain ⟨last, rest, leads, stuck, inside, _⟩ := leadsTo_of_open_directive .silent [] tagOpen
        (directive?_of_tail tail tagged)
      rw [((leadsTo_atTag .silent [] state tagged).trans leads).findEngine_eq]
      cases rest with
      | nil =>
          intro found
          rw [findEngine_nil] at found
          cases finished : last.finish .silent with
          | error cause =>
              rw [finished] at found
              cases found
          | ok tree => exact finish_ne_ok_of_inside inside tree finished
      | cons c rest =>
          obtain ⟨expected, failed⟩ := stuck c rfl
          rw [findEngine, failed]
          nofun

/-- **The search ends with the first declaration**, whatever stands behind it. -/
theorem findEngine_append {before front : List Char} {name : String}
    (between : draft.IsBetween before) (unbound : draft.tree.template.engineSlot = .unset)
    (found : draft.findEngine front = .ok (some name)) (back : List Char) :
    draft.findEngine (front ++ back) = .ok (some name) := by
  -- Up to the section that names the engine, the search performs the same sections in both texts;
  -- it cannot end in the tail, where no engine has been bound.
  induction front using sections_induction generalizing draft before with
  | tail front tail => exact absurd found (findEngine_of_tail between.state unbound tail name)
  | behind front s rest first ih =>
      have named := isNamed_of_section? first
      cases performed : draft.perform .silent [] s with
      | error cause =>
          have short := findEngine_section between.state first []
          rw [List.append_nil, found, performed] at short
          cases short
      | ok done =>
          have short := findEngine_section_of_perform between.state first [] performed
          rw [List.append_nil, List.append_nil, found] at short
          rw [findEngine_section_of_perform between.state first back performed]
          obtain ⟨⟨template, body, functions, performs, after⟩, _⟩ := obeys_of_perform performed
          cases names : s.directive.engine? with
          | some other =>
              rw [names] at short
              exact short.symm
          | none =>
              rw [names] at short
              refine ih (isBetween_of_perform between performed) ?_ short.symm
              rw [after]
              exact (Template.engineSlot_of_perform named names performs).trans unbound

end Draft

namespace Compiler

variable {m : Type → Type} [Monad m] [LawfulMonad m] [MonadAttach m] [LawfulMonadAttach m]
  {compiler : Compiler m} {parse? : Option (ParseText m)} {created : Nat}
  {ancestors : List Identity} {engine : String} {draft next detector : Draft} {history : History}

theorem shadows_of_settle {done : Draft × Event} {shadow : Template}
    (shadows : shadow.Shadows engine done.1.tree.template)
    (returned : CanReturn (Draft.settle (compiler.compose parse? created ancestors) done) next) :
    shadow.Shadows engine next.tree.template := by
  obtain ⟨last, event⟩ := done
  cases event with
  | none => rwa [← eq_of_canReturn_pure returned]
  | engine name => rwa [← eq_of_canReturn_pure returned]
  | inclusion path =>
      obtain ⟨tree, composed, rfl⟩ := Draft.exists_of_settle_inclusion returned
      obtain ⟨_, _, _, _, _, _, _, _, adopted⟩ := exists_of_compose composed
      obtain ⟨_, _, _, rfl⟩ := IncludeTree.adopt_eq_ok adopted
      exact ⟨shadows.unbound, shadows.bound, shadows.usual, shadows.classNames,
        shadows.moduleNames⟩

/-- **One section**: what a parse performs, the search performs, unless it is against the usual
grammar. A named engine is the one that the parse is bound to; otherwise the search goes along. -/
theorem exists_of_accompanies {s : Section}
    (accompanies : draft.Accompanies compiler.emitter.writer engine detector history)
    (named : s.directive.IsNamed) (usual : s.directive.unusual? = none)
    (returned : CanReturn (draft.follow compiler.emitter.writer ancestors
      (compiler.compose parse? created ancestors) s) next) :
    ∃ after, detector.perform .silent [] s = .ok after ∧
      (∀ name ∈ s.directive.engine?, name = engine) ∧
      (s.directive.engine? = none →
        next.Accompanies compiler.emitter.writer engine after.1 (history.next s)) := by
  obtain ⟨between, follows, detectorBetween, detectorFollows, alone, shadows⟩ := accompanies
  obtain ⟨done, performed, settled⟩ := Draft.exists_of_canReturn_follow returned
  obtain ⟨⟨template, body, functions, performs, tree⟩, _⟩ := Draft.obeys_of_perform performed
  obtain ⟨after, detected⟩ := Draft.exists_perform_of_perform
    (detectorBetween.cursor.trans between.cursor.symm)
    (detectorFollows.mode.trans follows.mode.symm) alone (shadows.exists_perform usual performs)
    performed
  refine ⟨after, detected, fun name names => shadows.eq_of_engine? performs names, fun other => ?_⟩
  obtain ⟨⟨shadow, shadowBody, shadowFunctions, shadowed, detectorTree⟩, _⟩ :=
    Draft.obeys_of_perform detected
  have kept : (shadow.withFragments shadowBody shadowFunctions).Shadows engine
      done.1.tree.template := by
    rw [tree]
    exact (shadows.perform named other performs shadowed).withFragments ..
  refine ⟨?_, ?_, ?_, ?_, ?_, ?_⟩
  · rw [History.before_next]
    exact Draft.isBetween_of_follow between returned
  · exact Draft.follows_of_settle keepsFragments
      (Draft.follows_of_perform between follows performed) settled
  · rw [History.before_next]
    exact Draft.isBetween_of_perform detectorBetween detected
  · exact Draft.follows_of_perform detectorBetween detectorFollows detected
  · rw [detectorTree]
    exact alone
  · rw [detectorTree]
    exact shadows_of_settle kept settled

/-- A module is not followed without a name. -/
theorem ne_empty_of_unusual {s : Section} {name : String}
    (unusual : s.directive.unusual? = some name)
    (returned : CanReturn (draft.follow compiler.emitter.writer ancestors
      (compiler.compose parse? created ancestors) s) next) : name ≠ "" := by
  obtain ⟨chars, directive, rfl, _⟩ := Directive.eq_of_unusual? unusual
  rw [Draft.follow_of_name directive] at returned
  exact (Draft.declareName_eq_ok_iff.mp (eq_ok_of_canReturn_ofExcept returned)).1

/-- **The search goes along with a parse** to the first engine declaration, to the first module
name against the usual grammar, or to the end of the text. -/
theorem findEngine_of_accompanies {text : List Char} {last : Draft}
    (accompanies : draft.Accompanies compiler.emitter.writer engine detector history)
    (literal : EndsInLiteral text)
    (returned : CanReturn ((sections text).1.foldlM (Draft.follow compiler.emitter.writer ancestors
      (compiler.compose parse? created ancestors)) draft) last)
    (off : last.mode = .off) :
    detector.findEngine text =
      match refusal? history.before (sections text).1 with
      | some cause => .error cause
      | none =>
        .ok (if (sections text).1.any (·.directive.engine?.isSome) then some engine else none) := by
  -- The induction is on the sections of the text; `exists_of_accompanies` carries the two drafts
  -- over each of them that does not end the search.
  unfold EndsInLiteral at literal
  induction text using sections_induction generalizing draft detector history with
  | tail text tail =>
      rw [sections_of_none tail] at literal returned ⊢
      cases eq_of_canReturn_pure returned
      have mode := accompanies.detectorFollows.mode.trans (accompanies.follows.mode.symm.trans off)
      exact (Draft.findEngine_of_untagged accompanies.detectorBetween.state
        accompanies.shadows.unbound literal).1 mode
  | behind text s rest first ih =>
      have named := isNamed_of_section? first
      rw [sections_of_some first] at literal returned ⊢
      rw [List.foldlM_cons] at returned
      obtain ⟨mid, followed, returned⟩ := exists_canReturn_of_bind returned
      rw [refusal?]
      cases unusual : s.directive.unusual? with
      | some name =>
          have search := Draft.findEngine_section accompanies.detectorBetween.state first []
          rw [List.append_nil, Draft.perform_of_unusual accompanies.detectorBetween
            accompanies.shadows.usual (ne_empty_of_unusual unusual followed) unusual] at search
          exact search
      | none =>
          obtain ⟨after, detected, bound, along⟩ :=
            exists_of_accompanies accompanies named unusual followed
          have search := Draft.findEngine_section_of_perform accompanies.detectorBetween.state
            first [] detected
          rw [List.append_nil, List.append_nil] at search
          rw [search]
          cases names : s.directive.engine? with
          | some name => simp [names, bound name names]
          | none => simpa [names, History.before_next] using ih (along names) literal returned

omit [Monad m] [LawfulMonad m] [MonadAttach m] [LawfulMonadAttach m] in
/-- Before a text, nothing has been declared but the engine that a parse is bound to. -/
theorem accompanies_startDraft (settings : Settings) :
    (compiler.startDraft created settings).Accompanies compiler.emitter.writer
      compiler.emitter.name (Draft.start undeclaredTemplate) .start where
  between := isBetween_startDraft
  follows := follows_startDraft
  detectorBetween := ⟨rfl, rfl, rfl⟩
  detectorFollows := ⟨rfl, nofun, rfl, rfl⟩
  alone := rfl
  shadows := by
    obtain ⟨_, _, prepared⟩ :=
      compiler.emitter.prepare_eq (compiler.boundTemplate settings (compiler.ids created))
    simp only [startDraft, Draft.start, prepared]
    exact ⟨rfl, rfl, rfl, rfl, rfl⟩

/-- **What is detected in a text that is parsed** is the engine of the parse where a section of the
text names one, unless a module name before it is against the usual grammar. -/
theorem declaredEngine_eq_of_parse {source : String} {settings : Settings} {tree : IncludeTree}
    (returned : CanReturn (compiler.parse source settings) (.ok tree)) :
    declaredEngine source =
      match refusal? [] (sections source.toList).1 with
      | some cause => .error cause
      | none => .ok (if (sections source.toList).1.any (·.directive.engine?.isSome)
          then some compiler.emitter.name else none) := by
  rw [parse, parseWithin_eq] at returned
  obtain ⟨literal, last, followed, off, _⟩ := exists_sections_of_parseWith returned
  exact findEngine_of_accompanies (accompanies_startDraft settings) literal followed off

/-! ## The usual grammar -/

/-- The grammar of modules stays as it is. -/
theorem moduleGrammar_of_follow {s : Section}
    (returned : CanReturn (draft.follow compiler.emitter.writer ancestors
      (compiler.compose parse? created ancestors) s) next) :
    next.tree.template.moduleGrammar = draft.tree.template.moduleGrammar := by
  obtain ⟨template, body, functions, performs, after⟩ := Draft.follow_cases returned
  have kept := Template.moduleGrammar_of_perform performs
  rcases after with ⟨_, same⟩ | ⟨path, _, composed⟩
  · rw [same]
    exact kept
  · obtain ⟨_, _, _, _, _, _, _, _, adopted⟩ := exists_of_compose composed
    obtain ⟨_, _, _, same⟩ := IncludeTree.adopt_eq_ok adopted
    rw [same]
    exact kept

/-- A parse with the usual grammar follows nothing against it. -/
theorem refusal?_of_followAll {read : List Section} {before : List Char} {last : Draft}
    (usual : draft.tree.template.moduleGrammar = .dotted)
    (returned : CanReturn (read.foldlM (Draft.follow compiler.emitter.writer ancestors
      (compiler.compose parse? created ancestors)) draft) last) :
    refusal? before read = none := by
  induction read generalizing draft before with
  | nil => rfl
  | cons s rest ih =>
      rw [List.foldlM_cons] at returned
      obtain ⟨mid, followed, returned⟩ := exists_canReturn_of_bind returned
      obtain ⟨_, _, _, performs, _⟩ := Draft.follow_cases followed
      rw [refusal?, Directive.unusual?_of_perform usual performs]
      have later : refusal? (before ++ s.text) rest = none :=
        ih ((moduleGrammar_of_follow followed).trans usual) returned
      simp [later]

/-- With the usual grammar, the search goes along to the first engine declaration, or to the end
of the text. -/
theorem findEngine_of_detects {text : List Char} {last : Draft}
    (detects : draft.Detects compiler.emitter.writer engine detector history)
    (literal : EndsInLiteral text)
    (returned : CanReturn ((sections text).1.foldlM (Draft.follow compiler.emitter.writer ancestors
      (compiler.compose parse? created ancestors)) draft) last)
    (off : last.mode = .off) :
    detector.findEngine text =
      .ok (if (sections text).1.any (·.directive.engine?.isSome) then some engine else none) := by
  rw [findEngine_of_accompanies detects.toAccompanies literal returned off,
    refusal?_of_followAll detects.usual returned]

omit [Monad m] [LawfulMonad m] [MonadAttach m] [LawfulMonadAttach m] in
theorem detects_startDraft (settings : Settings)
    (dotted : compiler.emitter.moduleGrammar = .dotted) :
    (compiler.startDraft created settings).Detects compiler.emitter.writer compiler.emitter.name
      (Draft.start undeclaredTemplate) .start where
  toAccompanies := accompanies_startDraft settings
  usual := by
    obtain ⟨_, _, prepared⟩ :=
      compiler.emitter.prepare_eq (compiler.boundTemplate settings (compiler.ids created))
    simp only [startDraft, Draft.start, prepared]
    exact dotted

/-- A text that is parsed with the usual grammar has nothing against it. -/
theorem refusal?_of_parse {source : String} {settings : Settings} {tree : IncludeTree}
    (dotted : compiler.emitter.moduleGrammar = .dotted)
    (returned : CanReturn (compiler.parse source settings) (.ok tree)) :
    refusal? [] (sections source.toList).1 = none := by
  rw [parse, parseWithin_eq] at returned
  obtain ⟨_, _, followed, _⟩ := exists_sections_of_parseWith returned
  exact refusal?_of_followAll (detects_startDraft settings dotted).usual followed

/-- **Engine detection goes along with parsing**: where modules are named by the usual grammar and
a text is parsed, the engine detected in it is that of the parse where a section of the text names
one, and none is detected otherwise. The engine that is detected in a text is detected whatever is
appended to the text. -/
theorem declaredEngine_of_parse (compiler : Compiler m) (target : Target) (config : Config)
    (made : Emitter.ofConfig target config = .ok compiler.emitter)
    (usual : config.moduleNamePattern? = none) :
    (∀ source settings tree, CanReturn (compiler.parse source settings) (.ok tree) →
      declaredEngine source =
        .ok (if (sections source.toList).1.any (·.directive.engine?.isSome)
          then some compiler.emitter.name else none)) ∧
    ∀ front back name, declaredEngine front = .ok (some name) →
      declaredEngine (front ++ back) = .ok (some name) := by
  have dotted : compiler.emitter.moduleGrammar = .dotted := by
    simp only [Emitter.ofConfig, Config.moduleGrammar, usual] at made
    generalize compiler.emitter = emitter at made ⊢
    cases made
    rfl
  constructor
  · intro source settings tree returned
    rw [parse, parseWithin_eq] at returned
    obtain ⟨literal, last, followed, off, _⟩ := exists_sections_of_parseWith returned
    exact findEngine_of_detects (detects_startDraft settings dotted) literal followed off
  · intro front back name found
    have between : (Draft.start undeclaredTemplate).IsBetween [] := ⟨rfl, rfl, rfl⟩
    rw [declaredEngine, String.toList_append]
    exact Draft.findEngine_append between rfl found back.toList

/-- A page that includes a template and names its class before it declares its engine, and a text
that ends in the middle of markup behind its declaration. -/
theorem declaredEngine_of_page :
    let compiler := Compiler.ofTexts .cSharp [("/nav.blade", "<%@@ CSharp @@%>")]
    let source := "<%# 'nav' %><%@\x60A\x60%><%@@ CSharp @@%>"
    (∃ tree, CanReturn (compiler.parse source ⟨"home", "/", true, false⟩) (.ok tree) ∧
      tree.includedTemplates.length = 1) ∧
    declaredEngine source = .ok (some "CSharp") ∧
    declaredEngine ("<%@@ Java @@%>" ++ "<%@@") = .ok (some "Java") := by
  intro compiler source
  have parsed : (compiler.parse source ⟨"home", "/", true, false⟩).toOption.map
      (fun tree => tree.includedTemplates.length) = some 1 := by decide +kernel
  obtain ⟨tree, result, included⟩ := Option.map_eq_some_iff.mp parsed
  have returned := canReturn_of_toOption result
  have named : (sections source.toList).1.any (·.directive.engine?.isSome) = true := by
    decide +kernel
  have alone : declaredEngine "<%@@ Java @@%>" = .ok (some "Java") := by decide +kernel
  obtain ⟨along, appended⟩ := compiler.declaredEngine_of_parse .cSharp {} rfl rfl
  refine ⟨⟨tree, returned, included⟩, ?_, appended _ _ _ alone⟩
  rw [along source _ tree returned, named]
  rfl

end Compiler

end TemplateCompiler
