import TemplateCompiler.Proofs.Depth
import TemplateCompiler.Proofs.Markup.Effects

/-! # Where directives stand and where they lead

The tag of a directive stands at the location of its `%`, which the text before it tells
(`Markup.HasTag`). The sections of a text have their tags one behind the other, and functions
that are open have begun with the tag of a function block (`Markup.hasTag_of_functions`). An
include directive leads to the template at the file that its path resolves to
(`Compiler.Reaches`).
-/

namespace TemplateCompiler

open MonadAttach (CanReturn)

namespace Markup

/-- A text has a `<%` behind `front` and some markup behind it, and its `%` stands at a
location. -/
structure HasTag (text front markup : List Char) (location : Location) : Prop where
  written : front ++ ['<', '%'] ++ markup <+: text
  location : location = locationBehind (front ++ ['<'])

theorem HasTag.append {text front markup : List Char} {location : Location}
    (tag : HasTag text front markup location) (more : List Char) :
    HasTag (text ++ more) front markup location :=
  ⟨tag.written.trans (List.prefix_append _ _), tag.location⟩

theorem HasTag.of_append {text front markup more : List Char} {location : Location}
    (tag : HasTag text front (markup ++ more) location) : HasTag text front markup location := by
  refine ⟨.trans ?_ tag.written, tag.location⟩
  rw [← List.append_assoc]
  exact List.prefix_append _ _

/-- The location of the `%` that opens the directive of a section. -/
def Section.opened (before : List Char) (s : Section) : Location :=
  locationBehind (before ++ s.literal ++ ['<'])

theorem Section.hasTag (before : List Char) (s : Section) :
    HasTag (before ++ s.text) (before ++ s.literal) [] (s.opened before) :=
  ⟨⟨s.written, by simp [Section.text]⟩, rfl⟩

/-- The sections of a text have their tags one behind the other. -/
theorem hasTag_of_sections {text : List Char} {read rest : List Section} {s : Section}
    (split : (sections text).1 = read ++ s :: rest) :
    HasTag text (read.flatMap Section.text ++ s.literal) []
      (s.opened (read.flatMap Section.text)) := by
  rw [text_eq_sections text, split, List.flatMap_append, List.flatMap_cons, List.append_assoc,
    List.append_assoc, ← List.append_assoc _ s.text]
  exact (s.hasTag _).append _

/-- A tag that is left open stands behind the sections. -/
theorem hasTag_of_tail {text literal tag : List Char}
    (tagged : splitAt? ['<', '%'] (sections text).2 = some (literal, tag)) :
    HasTag text ((sections text).1.flatMap Section.text ++ literal) tag
      (locationBehind ((sections text).1.flatMap Section.text ++ literal ++ ['<'])) := by
  refine ⟨⟨[], ?_⟩, rfl⟩
  rw [List.append_nil, List.append_assoc, List.append_assoc, ← List.append_assoc literal,
    ← splitAt?_eq_some tagged, ← text_eq_sections]

/-- What opens as a function block begins with a tilde. -/
theorem exists_of_opening_function {tag inner : List Char}
    (opens : opening? tag = some (.body .function, inner)) : tag = '~' :: inner := by
  obtain ⟨markup, listed, whole⟩ := opening?_eq_some opens
  have tildes : ∀ entry ∈ openings, entry.2 = .body .function → entry.1 = ['~'] := by decide
  rw [whole, show markup = ['~'] from tildes _ listed rfl]
  rfl

theorem exists_of_function_section {text rest : List Char} {s : Section}
    (first : section? text = some (s, rest)) (function : s.directive.opening = .body .function) :
    ∃ more, s.written = '~' :: more := by
  obtain ⟨tag, _, found, whole⟩ := section?_eq_some first
  obtain ⟨inner, opens, starts⟩ := directive?_eq_some found
  rw [function] at opens
  cases directive : s.directive with
  | body region tokens =>
      rw [directive] at starts
      refine ⟨tokens.flatMap Token.written ++ bodyMark region,
        (List.append_left_inj rest).mp (whole.symm.trans ?_)⟩
      rw [exists_of_opening_function opens, body?_eq_some starts]
      simp
  | name kind name => simp [directive, Directive.opening] at function
  | inclusion path => simp [directive, Directive.opening] at function

theorem exists_of_function_mem {text : List Char} {s : Section}
    (member : s ∈ (sections text).1) (function : s.directive.opening = .body .function) :
    ∃ more, s.written = '~' :: more := by
  induction text using sections_induction with
  | tail text none =>
      rw [sections_of_none none] at member
      cases member
  | behind text first rest found ih =>
      rw [sections_of_some found] at member
      rcases List.mem_cons.mp member with rfl | later
      · exact exists_of_function_section found function
      · exact ih later

namespace History

/-- Functions that are open have begun with the tag of a function block. -/
def HasFunctionTag (history : History) : Prop :=
  ∀ functions ∈ history.functions?, ∃ front, HasTag history.before front ['~'] functions.start

variable {history : History}

/-- Entering a directive behind its tag may begin functions, at that tag. -/
theorem start_of_enter {opening : Opening} {functions : OpenFunctions}
    (open_ : (history.enter opening).functions? = some functions) :
    history.functions? = some functions ∨
      (opening = .body .function ∧ functions.start = history.opened) := by
  unfold enter at open_
  split_ifs at open_ with begins
  · cases open_
    exact .inr ⟨by simpa [History.begins] using (Bool.and_eq_true_iff.mp begins).1, rfl⟩
  · exact .inl open_

theorem HasFunctionTag.next (has : history.HasFunctionTag) {s : Section}
    (tilde : s.directive.opening = .body .function → ∃ more, s.written = '~' :: more) :
    (history.next s).HasFunctionTag := by
  intro functions member
  rw [before_next]
  obtain ⟨before, open_, kept⟩ := Option.bind_eq_some_iff.mp member
  split_ifs at kept
  cases kept
  rcases start_of_enter open_ with earlier | ⟨function, start⟩
  · obtain ⟨front, tag⟩ := has before earlier
    exact ⟨front, tag.append _⟩
  · obtain ⟨more, written⟩ := tilde function
    refine ⟨history.before ++ s.literal, ⟨more, ?_⟩, start⟩
    simp [Section.text, written]

theorem HasFunctionTag.foldl {read : List Section}
    (tildes : ∀ s ∈ read, s.directive.opening = .body .function → ∃ more, s.written = '~' :: more)
    (has : history.HasFunctionTag) : (read.foldl History.next history).HasFunctionTag := by
  induction read generalizing history with
  | nil => exact has
  | cons s rest ih =>
      obtain ⟨tilde, tildes⟩ := List.forall_mem_cons.mp tildes
      exact ih tildes (has.next tilde)

end History

/-- **Functions begin with the tag of a function block.** -/
theorem hasTag_of_functions {text : List Char} {functions : OpenFunctions}
    (open_ : (History.ofText text).functions? = some functions) :
    ∃ front, HasTag text front ['~'] functions.start := by
  have behind : (History.behind (sections text).1).HasFunctionTag :=
    History.HasFunctionTag.foldl (fun s => exists_of_function_mem) nofun
  have before := History.before_behind (sections text).1
  have earlier (closed : (History.behind (sections text).1).functions? = some functions) :
      ∃ front, HasTag text front ['~'] functions.start := by
    obtain ⟨front, tag⟩ := behind functions closed
    rw [text_eq_sections text, ← before]
    exact ⟨front, tag.append _⟩
  unfold History.ofText History.atTail at open_
  cases tagged : splitAt? ['<', '%'] (sections text).2 with
  | none =>
      simp only [tagged] at open_
      exact earlier open_
  | some found =>
      obtain ⟨literal, tag⟩ := found
      cases opens : opening? tag with
      | none =>
          simp only [tagged, opens] at open_
          exact earlier open_
      | some found =>
          obtain ⟨opening, inner⟩ := found
          simp only [tagged, opens] at open_
          rcases History.start_of_enter open_ with closed | ⟨rfl, start⟩
          · exact earlier closed
          · have tail := hasTag_of_tail tagged
            rw [exists_of_opening_function opens] at tail
            rw [start, History.tag, before]
            exact ⟨_, HasTag.of_append (show HasTag _ _ (['~'] ++ inner) _ from tail)⟩

end Markup

open Markup

/-! ## Sections that are followed -/

namespace Draft

variable {writer : Writer} {ancestors : List Identity} {draft next last : Draft} {s : Section}
  {path : List Char}

/-- A section that cannot be performed is blamed at its tag, or at its close tag. -/
theorem fails_perform (s : Section) : ∃ cursor, FailsAs
    (Blames cursor (draft.atTag writer s.literal).tagStart '>')
    (draft.perform writer ancestors s) := by
  unfold perform
  cases s.directive with
  | body region tokens =>
      let closed := (draft.atTag writer s.literal).atClose region s.written tokens
      have fails : FailsAs (Blames closed.cursor closed.tagStart '>')
        (closed.complete writer ancestors region) := closed.fails_complete region
      have opened : closed.tagStart = (draft.atTag writer s.literal).tagStart := tagStart_enter _ _
      exact ⟨closed.cursor, opened ▸ fails⟩
  | name kind name =>
      let closed := (((draft.atTag writer s.literal).skip s.written).goTo .literal).clear
      refine ⟨closed.cursor, .bind (fun cause failed => .directive ?_) fun _ => fails_quietly _⟩
      exact closed.fails_declareName _ _ cause failed
  | inclusion path => exact ⟨draft.cursor, failsAs_ok _⟩

section Follow

variable {m : Type → Type} [Monad m] [LawfulMonad m] [MonadAttach m] [LawfulMonadAttach m]
  {compose : IncludeTree → String → Location → m (Except ParseError IncludeTree)}
  {cause : ParseError}

/-- An error of a section is one of performing it, or that of the include that it composes. -/
theorem error_of_follow
    (returned : CanReturn (draft.follow writer ancestors compose s).run (.error cause)) :
    draft.perform writer ancestors s = .error cause ∨
      ∃ path, s.directive = .inclusion path ∧
        CanReturn (compose (draft.atTag writer s.literal).tree (String.ofList path)
          (draft.atTag writer s.literal).tagStart) (.error cause) := by
  rcases canReturn_error_of_bind returned with failed | ⟨⟨done, event⟩, performed, failed⟩
  · exact .inl (eq_error_of_canReturn_ofExcept failed)
  · have performed := eq_ok_of_canReturn_ofExcept performed
    have quiet : event = s.directive.event := (obeys_of_perform performed).event
    cases event with
    | none => cases ne_error_of_canReturn_pure failed
    | engine name => cases ne_error_of_canReturn_pure failed
    | inclusion raw =>
        have includes : ∃ path, s.directive = .inclusion path := by
          by_contra none
          exact s.directive.event_ne_inclusion (fun path same => none ⟨path, same⟩) raw quiet.symm
        obtain ⟨path, inclusion⟩ := includes
        simp only [perform, inclusion] at performed
        cases performed
        rcases canReturn_error_of_bind failed with composed | ⟨tree, _, failed⟩
        · exact .inr ⟨path, inclusion, composed⟩
        · cases ne_error_of_canReturn_pure failed

end Follow

end Draft

/-! ## Where includes lead -/

namespace Compiler

variable {m : Type → Type} [Monad m]

section Definitions

variable (compiler : Compiler m)

/-- How the templates that a template includes are parsed. -/
def levelsBelow (call : Call) : Option (ParseText m) :=
  compiler.below (compiler.emitter.config.maxIncludeDepth - call.ancestors.length)

/-- The draft after one more section of a template. -/
def follow (call : Call) : Draft → Section → ExceptT ParseError m Draft :=
  Draft.follow compiler.emitter.writer call.ancestors
    (compiler.compose (compiler.levelsBelow call) call.created call.ancestors)

/-- The drafts behind sections at the start of a template. -/
def followAll (call : Call) (read : List Section) : ExceptT ParseError m Draft :=
  read.foldlM (compiler.follow call) (compiler.startDraft call.created call.settings)

/-- An include directive with a quoted path, opened at a location of a template, leads to another
template: its settings are those that the path resolves to, and its text is read at the file of
the path. It is parsed one level deeper. -/
def Reaches [MonadAttach m] (outer : Call) (raw : String) (location : Location) (inner : Call) :
    Prop :=
  inner.ancestors.length = outer.ancestors.length + 1 ∧
    ∃ target, CanReturn (IncludeTarget.resolve compiler.loader compiler.emitter.config
      outer.settings raw location) (.ok target) ∧
      inner.settings = target.settings ∧
      CanReturn (compiler.loader.read target.file) (.ok inner.source)

end Definitions

variable {compiler : Compiler m} {call : Call}

theorem parseCall_eq (call : Call) :
    compiler.parseCall call = compiler.parseWith (compiler.levelsBelow call) call.created
      call.ancestors call.settings call.source := by
  rw [parseCall, parseAt, parseWithin_eq, levelsBelow]

/-- Templates are included where the bound on depth leaves room for one more level. -/
theorem exists_levelsBelow_iff : (∃ parse, compiler.levelsBelow call = some parse) ↔
    call.ancestors.length < compiler.emitter.config.maxIncludeDepth := by
  unfold levelsBelow
  cases left : compiler.emitter.config.maxIncludeDepth - call.ancestors.length with
  | zero =>
      have full : ¬call.ancestors.length < compiler.emitter.config.maxIncludeDepth := by omega
      simp [below, full]
  | succ depth =>
      have room : call.ancestors.length < compiler.emitter.config.maxIncludeDepth := by omega
      simp [below, room]

/-- A template is parsed one level deeper than the one that includes it. -/
theorem eq_parseCall_of_levelsBelow {parse : ParseText m}
    (given : compiler.levelsBelow call = some parse) (created : Nat) (identity : Identity)
    (settings : Settings) (text : String) :
    parse created (call.ancestors ++ [identity]) settings text =
      compiler.parseCall ⟨created, call.ancestors ++ [identity], settings, text⟩ := by
  unfold levelsBelow at given
  cases left : compiler.emitter.config.maxIncludeDepth - call.ancestors.length with
  | zero =>
      rw [left] at given
      cases given
  | succ depth =>
      rw [left] at given
      cases given
      have one : compiler.emitter.config.maxIncludeDepth -
          (call.ancestors ++ [identity]).length = depth := by
        rw [List.length_append, List.length_singleton]
        omega
      rw [parseCall, parseAt, one]

section Returns

variable [LawfulMonad m] [MonadAttach m] [LawfulMonadAttach m] {draft next : Draft}

/-- Following a section keeps the settings. -/
theorem settings_of_follow {s : Section}
    (returned : CanReturn (compiler.follow call draft s) next) :
    next.tree.template.settings = draft.tree.template.settings := by
  obtain ⟨template, body, functions, performs, outcome⟩ := Draft.follow_cases returned
  have kept : template.settings = draft.tree.template.settings :=
    Template.settings_of_perform performs
  rcases outcome with ⟨_, after⟩ | ⟨_, _, composed⟩
  · rw [after]
    exact kept
  · obtain ⟨_, _, _, _, _, _, _, _, adopted⟩ := exists_of_compose composed
    obtain ⟨_, _, _, whole⟩ := IncludeTree.adopt_eq_ok adopted
    rw [whole]
    exact kept

/-- Between its sections, a template has the settings that it is parsed with. -/
theorem settings_of_followAll {read : List Section}
    (returned : CanReturn (compiler.followAll call read) draft) :
    draft.tree.template.settings = call.settings := by
  refine foldlM_induction (fun _ mid => mid.tree.template.settings = call.settings) ?_
    (fun _ _ _ _ _ _ kept followed => (settings_of_follow followed).trans kept) returned
  exact newTemplate_settings (newTemplate_eq call.settings (compiler.ids call.created))

/-- Between its sections, a template is read as far as their texts go. -/
theorem isBetween_of_followAll {read : List Section}
    (returned : CanReturn (compiler.followAll call read) draft) :
    draft.IsBetween (read.flatMap Section.text) := by
  refine foldlM_induction (fun read mid => mid.IsBetween (read.flatMap Section.text))
    isBetween_startDraft (fun front s mid next _ _ between followed => ?_) returned
  rw [List.flatMap_append, List.flatMap_singleton]
  exact Draft.isBetween_of_follow between followed

end Returns

end Compiler

end TemplateCompiler
