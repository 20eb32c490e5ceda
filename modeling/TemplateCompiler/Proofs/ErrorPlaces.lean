import TemplateCompiler.Proofs.Places

/-! # Where errors point to

Every error of parsing is located in the text of the template that it arises in
(`Compiler.errors_located`): at the character that is not the one needed, at the function block
with which functions began that are left open, at the directive that is left open, or at the
directive that cannot be performed. An error of an included template is located at the include
directive, and the error in it is located in the included text.
-/

namespace TemplateCompiler

open Markup
open MonadAttach (CanReturn)

/-- An error about a character that is not the one needed. -/
def ParseError.IsUnexpected (cause : ParseError) : Prop :=
  ∃ expected seen position location state,
    cause = .invalidCharacter expected seen position location state

/-- In a directive that is not closed, reading fails at a character only. -/
theorem Draft.isUnexpected_of_tail {m : Type → Type} [Monad m] [LawfulMonad m] [MonadAttach m]
    [LawfulMonadAttach m] {writer : Writer} {ancestors : List Identity}
    {compose : IncludeTree → String → Location → m (Except ParseError IncludeTree)}
    {draft : Draft} {text : List Char} {cause : ParseError} (state : draft.state = .literal)
    (tail : section? text = none)
    (returned : CanReturn (draft.reads writer ancestors compose text).run (.error cause)) :
    cause.IsUnexpected := by
  cases tagged : splitAt? ['<', '%'] text with
  | none =>
      obtain ⟨last, leads, _⟩ := leadsTo_of_untagged writer ancestors state tagged
      rw [leads.reads_eq] at returned
      cases ne_error_of_canReturn_pure returned
  | some found =>
      obtain ⟨literal, tag⟩ := found
      have tagOpen : (draft.atTag writer literal).state = .tagOpen := rfl
      obtain ⟨last, rest, leads, stuck, _⟩ := leadsTo_of_open_directive
        writer ancestors tagOpen (directive?_of_tail tail tagged)
      rw [((leadsTo_atTag writer ancestors state tagged).trans leads).reads_eq] at returned
      cases rest with
      | nil => cases ne_error_of_canReturn_pure returned
      | cons c rest =>
          obtain ⟨expected, failed⟩ := stuck c rfl
          rw [reads_cons, advance, failed] at returned
          rcases canReturn_error_of_bind returned with advanced | ⟨_, advanced, _⟩
          · rcases canReturn_error_of_bind advanced with stepped | ⟨_, stepped, _⟩
            · cases eq_error_of_canReturn_ofExcept stepped
              exact ⟨_, _, _, _, _, rfl⟩
            · cases eq_ok_of_canReturn_ofExcept stepped
          · obtain ⟨_, stepped, _⟩ := exists_canReturn_of_bind advanced
            cases eq_ok_of_canReturn_ofExcept stepped

namespace Compiler

variable {m : Type → Type} [Monad m] [MonadAttach m]

section Definitions

variable (compiler : Compiler m)

/-- Parsing a template fails with an error at a section of its text: the sections before it can be
followed, and it cannot. -/
structure FailsAt (call : Call) (read : List Section) (s : Section) (cause : ParseError) :
    Prop where
  split : ∃ rest, (sections call.source.toList).1 = read ++ s :: rest
  fails : ∃ draft, CanReturn (compiler.followAll call read) draft ∧
    CanReturn (compiler.follow call draft s).run (.error cause)

/-- An error points at its cause in the text of a template. -/
def Located : ParseError → Call → Prop
  | .invalidCharacter _ seen position location _, call =>
    0 < position ∧ call.source.toList[position - 1]? = some seen ∧
      location = locationBehind (call.source.toList.take (position - 1))
  | .unterminatedFunction location, call =>
    ∃ functions front, (History.ofText call.source.toList).functions? = some functions ∧
      location = functions.start ∧ HasTag call.source.toList front ['~'] location
  | .unterminatedTag family location, call =>
    ∃ literal tag, splitAt? ['<', '%'] (sections call.source.toList).2 = some (literal, tag) ∧
      family = openedFamily tag ∧ HasTag call.source.toList
        ((sections call.source.toList).1.flatMap Section.text ++ literal) tag location
  | .includeParse path below location, call =>
    ∃ read s raw inner, compiler.FailsAt call read s (.includeParse path below location) ∧
      HasTag call.source.toList (read.flatMap Section.text ++ s.literal) [] location ∧
      s.directive = .inclusion raw ∧
      compiler.Reaches call (String.ofList raw) location inner ∧ inner.settings.path = path ∧
      CanReturn (compiler.parseCall inner) (.error below) ∧ Located below inner
  | cause, call =>
    ∃ read s location, compiler.FailsAt call read s cause ∧ cause.location? = some location ∧
      HasTag call.source.toList (read.flatMap Section.text ++ s.literal) [] location

end Definitions

variable [LawfulMonad m] [LawfulMonadAttach m] {compiler : Compiler m} {call : Call}
  {cause : ParseError}

/-! ## Characters -/

/-- Reading a text moves the cursor behind it. -/
theorem cursor_of_reads {text : List Char} {draft : Draft}
    (returned : CanReturn (compiler.reads (compiler.levelsBelow call) call.created call.ancestors
      call.settings text) draft) : draft.cursor = Cursor.start.advanceBy text := by
  refine foldlM_induction (fun front mid => mid.cursor = Cursor.start.advanceBy front) rfl
    (fun front c mid next _ _ before advanced => ?_) returned
  obtain ⟨⟨done, event⟩, stepped, settled⟩ := exists_canReturn_of_bind advanced
  have moved := (Draft.step_edited (eq_ok_of_canReturn_ofExcept stepped)).2
  rw [Draft.eq_of_canReturn_settle settled, Cursor.advanceBy_append, ← before]
  exact moved

/-- An error of an include is about its directive. -/
theorem directive?_of_compose {parse? : Option (ParseText m)} {created : Nat}
    {ancestors : List Identity} {parent : IncludeTree} {raw : String} {location : Location}
    (returned : CanReturn (compiler.compose parse? created ancestors parent raw location)
      (.error cause)) : cause.directive? = some location := by
  rcases error_of_compose returned with direct | ⟨target, _, failed⟩
  · exact direct.directive
  · cases parse? with
    | none =>
        rw [failed]
        rfl
    | some parse =>
        obtain ⟨_, _, _, _, rfl⟩ := failed
        rfl

/-- **An unexpected character** stands at its position and its location. -/
theorem character_of_error {expected : Expected} {seen : Char} {position : Nat}
    {location : Location} {state : State}
    (returned : CanReturn (compiler.parseCall call)
      (.error (.invalidCharacter expected seen position location state))) :
    compiler.Located (.invalidCharacter expected seen position location state) call := by
  rw [parseCall_eq, parseWith_eq_reads] at returned
  rcases canReturn_error_of_bind returned with failed | ⟨last, _, failed⟩
  · obtain ⟨front, c, back, mid, whole, read, advanced⟩ := Draft.exists_of_reads_error failed
    have cursor := cursor_of_reads read
    rcases canReturn_error_of_bind advanced with stepped | ⟨⟨done, event⟩, _, settled⟩
    · have blames := Draft.fails_step mid c _ (eq_error_of_canReturn_ofExcept stepped)
      cases blames with
      | directive direct => cases direct.directive
      | character expected state =>
          have length : (mid.cursor.advance seen).position = front.length + 1 := by
            simp [Cursor.position, cursor, Cursor.advanceBy_behind, Cursor.start]
          have place : (mid.cursor.advance seen).location = locationBehind front := by
            rw [cursor, ← location_advanceBy front seen, Cursor.advanceBy_append]
            rfl
          refine ⟨by omega, ?_, ?_⟩
          · rw [length, whole, Nat.add_sub_cancel, List.getElem?_append_right (Nat.le_refl _),
              Nat.sub_self]
            rfl
          · rw [place, length, whole, Nat.add_sub_cancel, List.take_left]
    · cases event with
      | none => cases ne_error_of_canReturn_pure settled
      | engine name => cases ne_error_of_canReturn_pure settled
      | inclusion raw =>
          rcases canReturn_error_of_bind settled with composed | ⟨tree, _, failed⟩
          · cases directive?_of_compose composed
          · cases ne_error_of_canReturn_pure failed
  · rcases (Draft.fails_finish last _ (eq_error_of_canReturn_ofExcept failed)).2 with
      ⟨_, same⟩ | ⟨_, _, same⟩ <;> cases same

/-! ## Directives -/

variable {read : List Section} {s : Section}

/-- **A section that cannot be followed** is blamed at its tag, unless a character in it is. -/
theorem FailsAt.directive? (fails : compiler.FailsAt call read s cause) :
    cause.IsUnexpected ∨ cause.directive? = some (s.opened (read.flatMap Section.text)) := by
  obtain ⟨_, draft, followed, failed⟩ := fails
  have opened : (draft.atTag compiler.emitter.writer s.literal).tagStart =
      s.opened (read.flatMap Section.text) :=
    Draft.tagStart_atTag _ (isBetween_of_followAll followed) s.literal
  rcases Draft.error_of_follow failed with performed | ⟨path, _, composed⟩
  · obtain ⟨cursor, blamed⟩ := Draft.fails_perform s
    cases blamed cause performed with
    | character expected state => exact .inl ⟨_, _, _, _, _, rfl⟩
    | directive direct => exact .inr (direct.directive.trans (congrArg some opened))
  · exact .inr ((directive?_of_compose composed).trans (congrArg some opened))

/-- **An error of an included template** is one of the template that the include leads to. -/
theorem FailsAt.exists_of_includeParse {path : String} {below : ParseError} {location : Location}
    (fails : compiler.FailsAt call read s (.includeParse path below location)) :
    ∃ raw inner, s.directive = .inclusion raw ∧
      compiler.Reaches call (String.ofList raw) location inner ∧ inner.settings.path = path ∧
      CanReturn (compiler.parseCall inner) (.error below) := by
  obtain ⟨_, draft, followed, failed⟩ := fails
  rcases Draft.error_of_follow failed with performed | ⟨raw, inclusion, composed⟩
  · obtain ⟨cursor, blamed⟩ := Draft.fails_perform s
    cases blamed _ performed with
    | directive direct => cases direct.direct
  · obtain ⟨_, _, changed⟩ := Draft.changesFragments_atTag compiler.emitter.writer draft s.literal
    have settings : (draft.atTag compiler.emitter.writer s.literal).tree.template.settings =
        call.settings := by
      rw [changed]
      exact settings_of_followAll followed
    obtain ⟨parse, target, text, levels, resolved, loaded, parsed, rfl, rfl⟩ :=
      exists_of_compose_includeParse composed
    rw [settings] at resolved
    rw [eq_parseCall_of_levelsBelow levels] at parsed
    exact ⟨raw, _, inclusion, ⟨by simp, target, resolved, rfl, loaded⟩, rfl, parsed⟩

/-- **An error of a template** is about a character, about a section that cannot be followed, or
about what its text leaves open. -/
theorem error_of_sections (returned : CanReturn (compiler.parseCall call) (.error cause)) :
    cause.IsUnexpected ∨ (∃ read s, compiler.FailsAt call read s cause) ∨
      (cause.directive? = none ∧ compiler.Located cause call) := by
  rw [parseCall_eq, parseWith_eq_reads] at returned
  rcases canReturn_error_of_bind returned with failed | ⟨last, read, failed⟩
  · rw [reads, Draft.reads_sections isBetween_startDraft] at failed
    rcases canReturn_error_of_bind failed with unfollowed | ⟨mid, followed, unread⟩
    · obtain ⟨front, s, back, mid, split, followed, failed⟩ := exists_of_foldlM_error unfollowed
      exact .inr (.inl ⟨front, s, ⟨back, split⟩, mid, followed, failed⟩)
    · have state := (isBetween_of_followAll followed).state
      exact .inl (Draft.isUnexpected_of_tail state (section?_tail _) unread)
  · have finished := eq_error_of_canReturn_ofExcept failed
    refine .inr (.inr ?_)
    have functionsLeft {functions : OpenFunctions}
        (open_ : (History.ofText call.source.toList).functions? = some functions) :
        compiler.Located (.unterminatedFunction functions.start) call := by
      obtain ⟨front, tag⟩ := hasTag_of_functions open_
      exact ⟨functions, front, open_, rfl, tag⟩
    cases tagged : splitAt? ['<', '%'] (sections call.source.toList).2 with
    | none =>
        have ended := Draft.finish_of_literal keepsFragments follows_startDraft
          isBetween_startDraft tagged read
        cases open_ : (History.ofText call.source.toList).functions? with
        | none =>
            simp only [open_, finished] at ended
            obtain ⟨_, same, _⟩ := ended
            cases same
        | some functions =>
            simp only [open_, finished] at ended
            cases ended
            exact ⟨rfl, functionsLeft open_⟩
    | some found =>
        obtain ⟨literal, tag⟩ := found
        have ended := Draft.finish_of_directive keepsFragments follows_startDraft
          isBetween_startDraft tagged read
        rw [finished] at ended
        split_ifs at ended
        · obtain ⟨functions, open_, same⟩ := ended
          cases same
          exact ⟨rfl, functionsLeft open_⟩
        · cases ended
          have tail := hasTag_of_tail tagged
          rw [← History.before_behind] at tail
          exact ⟨rfl, literal, tag, tagged, rfl, by rw [← History.before_behind]; exact tail⟩

omit [LawfulMonad m] [LawfulMonadAttach m] in
/-- An error of a section itself is located at its tag. -/
theorem FailsAt.located (fails : compiler.FailsAt call read s cause)
    (opened : cause.directive? = some (s.opened (read.flatMap Section.text)))
    (direct : ∀ path below location, cause ≠ .includeParse path below location) :
    compiler.Located cause call := by
  obtain ⟨rest, split⟩ := fails.split
  have tag := hasTag_of_sections split
  cases cause with
  | invalidCharacter => cases opened
  | unterminatedTag => cases opened
  | unterminatedFunction => cases opened
  | includeParse path below location => exact absurd rfl (direct path below location)
  | _ => exact ⟨read, s, _, fails, opened, tag⟩

/-- **Every error is located** in the template that it arises in, at every level of includes. -/
theorem located_of_error (returned : CanReturn (compiler.parseCall call) (.error cause)) :
    compiler.Located cause call := by
  -- Only the error of an included template leads on, to the template that the include leads to.
  induction cause generalizing call with
  | includeParse path below location ih =>
      rcases error_of_sections returned with ⟨_, _, _, _, _, same⟩ | ⟨read, s, fails⟩ | ⟨other, _⟩
      · cases same
      · obtain ⟨raw, inner, inclusion, reaches, settings, failed⟩ := fails.exists_of_includeParse
        rcases fails.directive? with ⟨_, _, _, _, _, same⟩ | opened
        · cases same
        · cases opened
          obtain ⟨rest, split⟩ := fails.split
          exact ⟨read, s, raw, inner, fails, hasTag_of_sections split, inclusion, reaches, settings,
            failed, ih failed⟩
      · cases other
  | invalidCharacter expected seen position location state => exact character_of_error returned
  | _ =>
      rcases error_of_sections returned with ⟨_, _, _, _, _, same⟩ | ⟨read, s, fails⟩ |
        ⟨_, located⟩
      · cases same
      · rcases fails.directive? with ⟨_, _, _, _, _, same⟩ | opened
        · cases same
        · exact fails.located opened nofun
      · exact located

/-- **Errors point at their cause.** Every error of parsing has a location, and is located in the
text of the template that it arises in: an unexpected character is the one at its position, and
stands at the location; functions left open have begun with the function block at the location;
every other error is about the directive whose `%` stands there. An error of an included template
is located at the include directive, and the error in it is located in the included text. -/
theorem errors_located (compiler : Compiler m) (source : String) (settings : Settings)
    (cause : ParseError) (failed : CanReturn (compiler.parse source settings) (.error cause)) :
    (∃ location, cause.location? = some location) ∧
      compiler.Located cause ⟨0, [], settings, source⟩ := by
  have located : compiler.Located cause ⟨0, [], settings, source⟩ := located_of_error failed
  refine ⟨?_, located⟩
  cases cause with
  | templateUnreadable path reason =>
      obtain ⟨_, _, _, _, none, _⟩ := located
      cases none
  | _ => exact ⟨_, rfl⟩

/-- A page that includes a template in which a name has a blank. -/
theorem errors_located_page :
    let compiler := Compiler.ofTexts .java [("/name.blade", "x\n<%@\x60a b\x60%>")]
    let settings : Settings := ⟨"page.blade", "/", true, false⟩
    let source := "<% v %>\n\n <%# 'name' %>"
    let below : ParseError :=
      .invalidCharacter (.nameCharacter .className) ' ' 8 ⟨2, 6⟩ (.name .className)
    let cause : ParseError := .includeParse "name.blade" below ⟨3, 3⟩
    CanReturn (compiler.parse source settings) (.error cause) ∧
      compiler.Located cause ⟨0, [], settings, source⟩ := by
  intro compiler settings source below cause
  obtain ⟨_, failed, same⟩ := exists_canReturn_of_fails (compiler.parse source settings)
    (· == cause) (by decide +kernel)
  cases beq_iff_eq.mp same
  exact ⟨failed, (compiler.errors_located source settings cause failed).2⟩

end Compiler

end TemplateCompiler
