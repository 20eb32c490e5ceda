import TemplateCompiler.Proofs.Markup.Following

/-! # The history of a template text

A `History` tells, for a place of a text, what the sections before it have led to: which
functions are open, and since when, and in which order parts of the text have been seen, with
whether functions were open at each. It is computed from the sections alone. The drafts that
reading passes through follow the history of the text read (`Draft.follows_of_reads`).
-/

namespace TemplateCompiler

namespace Markup

/-- The region of the body of a directive. -/
def Directive.region? : Directive → Option Region
  | body region _ => some region
  | _ => none

namespace Section

/-- The section ends in a function block. -/
def isFunctionBlock (s : Section) : Bool := s.directive.region? == some .function

/-- The section ends in a raw block or a function block. -/
def isCodeBlock (s : Section) : Bool := s.directive.region?.any Region.isCode

/-- The section ends in a code block, and its text in `~%>`. -/
def endsInTilde (s : Section) : Bool := s.isCodeBlock && ['~', '%', '>'].isSuffixOf s.text

end Section

/-- Functions that have begun and have not ended. -/
structure OpenFunctions where
  /-- Location of the `%` that opened the function block with which they began. -/
  start : Location
  /-- The sections closed since, from that block on. -/
  since : List Section
deriving DecidableEq, Repr

namespace OpenFunctions

/-- A function block has been closed since the functions began. -/
def hasBlock (functions : OpenFunctions) : Bool := functions.since.any Section.isFunctionBlock

/-- Functions end at a code block closed by `~%>`, or at the second function block closed since
they began. -/
def isEndedBy (functions : OpenFunctions) (s : Section) : Bool :=
  s.endsInTilde || (s.isFunctionBlock && functions.hasBlock)

/-- The functions behind one more section. -/
def extend (functions : OpenFunctions) (s : Section) : OpenFunctions :=
  { functions with since := functions.since ++ [s] }

/-- How functions are being collected. -/
def mode (functions : OpenFunctions) : FunctionMode :=
  if functions.hasBlock then .ending else .on

theorem hasBlock_extend (functions : OpenFunctions) (s : Section) :
    (functions.extend s).hasBlock = (functions.hasBlock || s.isFunctionBlock) := by
  simp [hasBlock, extend]

end OpenFunctions

/-- A part of a text that can leave fragments. -/
inductive Part where
  | literal (text : List Char)
  /-- A directive, with whether functions begin with it. -/
  | directive (directive : Directive) (begins : Bool)
deriving DecidableEq, Repr

/-- The fragments of a part. A function block has one, and a line break goes before the text of
the block with which functions begin. -/
def Part.fragments (writer : Writer) : Part → List Fragment
  | literal text => (Piece.literal text).fragments writer
  | directive (.body .function tokens) begins =>
    let text := (if begins then "\n" else "") ++ String.ofList (codeText tokens)
    [⟨.code, text, text⟩]
  | directive (.body region tokens) _ =>
    (Piece.directive region (collected region tokens)).fragments writer
  | directive _ _ => []

/-- A part, with whether it stands in functions. -/
structure Entry where
  inFunctions : Bool
  part : Part
deriving DecidableEq, Repr

/-- What has happened in the text before a place. -/
structure History where
  before : List Char
  /-- Location of the `%` that opened the latest directive. -/
  opened : Location
  functions? : Option OpenFunctions
  /-- The parts seen, in document order. -/
  log : List Entry
deriving DecidableEq, Repr

namespace History

/-- Before a text, nothing has happened. -/
def start : History := ⟨[], ⟨0, 0⟩, none, []⟩

/-- The history with one more part. -/
def note (history : History) (part : Part) : History :=
  { history with log := history.log ++ [⟨history.functions?.isSome, part⟩] }

/-- The history behind literal text and the `<%` that ends it. -/
def tag (history : History) (literal : List Char) : History :=
  { history.note (.literal literal) with
    before := history.before ++ literal ++ ['<', '%']
    opened := locationBehind (history.before ++ literal ++ ['<']) }

/-- Functions begin with a function block where none are open. -/
def begins (history : History) (opening : Opening) : Bool :=
  opening == .body .function && history.functions?.isNone

/-- The history in a directive that has been opened. -/
def enter (history : History) (opening : Opening) : History :=
  if history.begins opening then
    { history with functions? := some ⟨history.opened, []⟩ }
  else history

/-- The history behind the close tag of a section. -/
def close (history : History) (s : Section) (begins : Bool) : History :=
  { history.note (.directive s.directive begins) with
    before := history.before ++ s.written
    functions? := history.functions?.bind fun functions =>
      if functions.isEndedBy s then none else some (functions.extend s) }

/-- The history behind one more section. -/
def next (history : History) (s : Section) : History :=
  let tagged := history.tag s.literal
  (tagged.enter s.directive.opening).close s (tagged.begins s.directive.opening)

/-- The history behind sections. -/
def behind (sections : List Section) : History := sections.foldl next start

/-- The history at the end of a tail. -/
def atTail (history : History) (tail : List Char) : History :=
  match splitAt? ['<', '%'] tail with
  | none => history
  | some (literal, tag) =>
    match opening? tag with
    | none => history.tag literal
    | some (opening, _) => (history.tag literal).enter opening

/-- The history of a text. -/
def ofText (text : List Char) : History := (behind (sections text).1).atTail (sections text).2

/-- How functions are being collected. -/
def mode (history : History) : FunctionMode := history.functions?.elim .off OpenFunctions.mode

/-- The fragments of the parts in functions, or of those outside, in document order. -/
def stream (history : History) (writer : Writer) (inFunctions : Bool) : List Fragment :=
  (history.log.filter fun entry => entry.inFunctions == inFunctions).flatMap fun entry =>
    entry.part.fragments writer

theorem mode_eq_off_iff {history : History} :
    history.mode = .off ↔ history.functions? = none := by
  cases open_ : history.functions? with
  | none => simp [mode, open_]
  | some functions =>
      simp only [mode, open_, Option.elim_some, OpenFunctions.mode, reduceCtorEq, iff_false]
      split_ifs <;> simp

theorem before_enter (history : History) (opening : Opening) :
    (history.enter opening).before = history.before := by
  unfold enter
  split_ifs <;> rfl

theorem log_enter (history : History) (opening : Opening) :
    (history.enter opening).log = history.log := by
  unfold enter
  split_ifs <;> rfl

theorem before_next (history : History) (s : Section) :
    (history.next s).before = history.before ++ s.text := by
  simp only [next, close, before_enter]
  simp only [tag, Section.text, List.append_assoc]

/-- Behind sections, their text has been read. -/
theorem before_behind (sections : List Section) :
    (behind sections).before = sections.flatMap Section.text := by
  have behindAll (history : History) :
      (sections.foldl next history).before =
        history.before ++ sections.flatMap Section.text := by
    induction sections generalizing history with
    | nil => simp
    | cons s sections ih => simp [ih, before_next]
  exact behindAll start

/-- A section adds its literal text and its directive to the log. -/
theorem log_next (history : History) (s : Section) :
    let tagged := history.tag s.literal
    let entered := tagged.enter s.directive.opening
    (history.next s).log = history.log ++ [⟨history.functions?.isSome, .literal s.literal⟩,
      ⟨entered.functions?.isSome,
        .directive s.directive (tagged.begins s.directive.opening)⟩] := by
  simp only [next, close, note, log_enter]
  simp only [tag, note, List.append_assoc, List.cons_append, List.nil_append]

theorem exists_of_enter_function (history : History) :
    ∃ functions, (history.enter (.body .function)).functions? = some functions := by
  by_cases begins : history.begins (.body .function) = true
  · rw [enter, if_pos begins]
    exact ⟨_, rfl⟩
  · rw [enter, if_neg begins]
    exact Option.ne_none_iff_exists'.mp (by simpa [History.begins] using begins)

theorem stream_note (history : History) (writer : Writer) (part : Part) (inFunctions : Bool) :
    (history.note part).stream writer inFunctions =
      history.stream writer inFunctions ++
        if history.functions?.isSome = inFunctions then part.fragments writer else [] := by
  by_cases same : history.functions?.isSome = inFunctions <;>
    simp [stream, note, same]

end History

end Markup

open Markup
open MonadAttach (CanReturn)

namespace Draft

/-- A draft has the functions and the fragments that a history tells. -/
structure Follows (writer : Writer) (draft : Draft) (history : History) : Prop where
  mode : draft.mode = history.mode
  start : ∀ functions ∈ history.functions?, draft.functionStart = functions.start
  body : draft.tree.template.body = history.stream writer false
  functions : draft.tree.template.functions = history.stream writer true

/-- Fragments go to the functions, where these are being collected, or to the body. -/
structure Adds (draft next : Draft) (fragments : List Fragment) : Prop where
  body : next.tree.template.body =
    draft.tree.template.body ++ if draft.mode = .off then fragments else []
  functions : next.tree.template.functions =
    draft.tree.template.functions ++ if draft.mode = .off then [] else fragments

variable {writer : Writer} {ancestors : List Identity} {draft next : Draft} {history : History}

variable (writer) in
theorem adds_addPiece (draft : Draft) (piece : Piece) :
    draft.Adds (draft.addPiece writer piece) (piece.fragments writer) := by
  by_cases off : draft.mode = .off
  · constructor <;> simp [addPiece, off, extend]
  · constructor <;> simp [addPiece, off, extend]

theorem adds_append (draft : Draft) (fragment : Fragment) :
    draft.Adds (draft.append fragment) [fragment] := by
  by_cases off : draft.mode = .off
  · constructor <;> simp [append, off, Template.addToBody]
  · constructor <;> simp [append, off, Template.addToFunctions]

theorem Adds.of_same (body : next.tree.template.body = draft.tree.template.body)
    (functions : next.tree.template.functions = draft.tree.template.functions) :
    draft.Adds next [] := by
  constructor <;> simp [body, functions]

/-- A draft follows one more part where it adds its fragments. -/
theorem Follows.note (follows : draft.Follows writer history) {part : Part}
    (adds : draft.Adds next (part.fragments writer)) (mode : next.mode = draft.mode)
    (start : next.functionStart = draft.functionStart) :
    next.Follows writer (history.note part) where
  mode := mode.trans follows.mode
  start functions member := start.trans (follows.start functions member)
  body := by
    rw [adds.body, follows.body, History.stream_note, follows.mode]
    cases open_ : history.functions? with
    | none => simp [History.mode_eq_off_iff.mpr open_]
    | some functions => simp [History.mode_eq_off_iff, open_]
  functions := by
    rw [adds.functions, follows.functions, History.stream_note, follows.mode]
    cases open_ : history.functions? with
    | none => simp [History.mode_eq_off_iff.mpr open_]
    | some functions => simp [History.mode_eq_off_iff, open_]

/-- Opening a tag is following the literal text before it. -/
theorem Follows.atTag (follows : draft.Follows writer history)
    (between : draft.IsBetween history.before) (literal : List Char) :
    (draft.atTag writer literal).Follows writer (history.tag literal) ∧
      (draft.atTag writer literal).tagStart = (history.tag literal).opened := by
  have piece : (Piece.literal (draft.pending.toList ++ literal)) = .literal literal := by
    rw [between.pending]
    rfl
  have added := adds_addPiece writer draft (.literal literal)
  have noted : (draft.atTag writer literal).Follows writer (history.note (.literal literal)) := by
    refine follows.note ⟨?_, ?_⟩ rfl rfl
    · rw [Draft.atTag, piece]
      exact added.body
    · rw [Draft.atTag, piece]
      exact added.functions
  exact ⟨⟨noted.mode, noted.start, noted.body, noted.functions⟩, tagStart_atTag writer between _⟩

theorem Follows.begins_iff (follows : draft.Follows writer history) (opening : Opening) :
    history.begins opening = true ↔ opening = .body .function ∧ draft.mode = .off := by
  rw [follows.mode, History.mode_eq_off_iff, History.begins, Bool.and_eq_true, beq_iff_eq,
    Option.isNone_iff_eq_none]

/-- A directive is entered as the history tells, with a line break where functions begin. -/
theorem Follows.enter (follows : draft.Follows writer history)
    (opened : draft.tagStart = history.opened) (opening : Opening) :
    (draft.enter opening).Follows writer (history.enter opening) ∧
      (draft.enter opening).pending =
        draft.pending ++ if history.begins opening then "\n" else "" := by
  by_cases begins : history.begins opening = true
  · obtain ⟨rfl, off⟩ := (follows.begins_iff opening).mp begins
    rw [Draft.enter, if_pos rfl, openFunction, if_pos off, History.enter, if_pos begins,
      if_pos begins]
    refine ⟨⟨rfl, ?_, follows.body, follows.functions⟩, ?_⟩
    · rintro functions member
      cases member
      exact opened
    · rw [← String.toList_inj]
      simp
  · have same : draft.enter opening = draft.goTo opening.state := by
      refine congrArg (fun entered => goTo entered _) ?_
      by_cases function : opening = .body .function
      · rw [if_pos function, openFunction, if_neg]
        exact fun off => begins ((follows.begins_iff opening).mpr ⟨function, off⟩)
      · rw [if_neg function]
    rw [same, History.enter, if_neg begins, if_neg begins]
    exact ⟨⟨follows.mode, follows.start, follows.body, follows.functions⟩, by simp⟩

/-- A directive is closed as the history tells, where it adds its fragments and leaves the mode
of the history. -/
theorem Follows.close (follows : draft.Follows writer history) {s : Section} {begins : Bool}
    (adds : draft.Adds next ((Part.directive s.directive begins).fragments writer))
    (mode : next.mode = (history.close s begins).mode)
    (start : next.functionStart = draft.functionStart) :
    next.Follows writer (history.close s begins) := by
  -- The fragments go where the mode before says, and only then does the mode change.
  have noted : { next with mode := draft.mode }.Follows writer
      (history.note (.directive s.directive begins)) :=
    follows.note ⟨adds.body, adds.functions⟩ rfl start
  refine ⟨mode, ?_, noted.body, noted.functions⟩
  rintro functions member
  obtain ⟨before, open_, kept⟩ := Option.bind_eq_some_iff.mp member
  split_ifs at kept
  cases kept
  exact start.trans (follows.start before open_)

end Draft

namespace Markup.History

variable {history : History} {s : Section}

theorem mode_close_of_other (other : s.isFunctionBlock = false) (unended : s.endsInTilde = false)
    (begins : Bool) : (history.close s begins).mode = history.mode := by
  cases open_ : history.functions? with
  | none => simp [mode, close, open_]
  | some functions =>
      simp [mode, close, open_, OpenFunctions.isEndedBy, other, unended, OpenFunctions.mode,
        OpenFunctions.hasBlock_extend]

theorem mode_close_of_tilde (ended : s.endsInTilde = true) (begins : Bool) :
    (history.close s begins).mode = .off := by
  rw [mode_eq_off_iff]
  cases open_ : history.functions? <;> simp [close, open_, OpenFunctions.isEndedBy, ended]

theorem mode_close_of_function (function : s.isFunctionBlock = true)
    (unended : s.endsInTilde = false) (started : history.mode ≠ .off) (begins : Bool) :
    (history.close s begins).mode = if history.mode = .ending then .off else .ending := by
  cases open_ : history.functions? with
  | none => exact absurd (mode_eq_off_iff.mpr open_) started
  | some functions =>
      by_cases second : functions.hasBlock = true <;>
        simp [mode, close, open_, OpenFunctions.isEndedBy, OpenFunctions.mode, second, function,
          unended, OpenFunctions.hasBlock_extend]

end Markup.History

/-- A text that the characters read end with, where these are at least as many. -/
theorem Cursor.endedWith_append (before text : List Char) {ending : String}
    (long : ending.toList.length ≤ text.length) :
    (Cursor.start.advanceBy (before ++ text)).endedWith ending =
      ending.toList.isSuffixOf text := by
  have short : ending.toList.reverse.length ≤ text.reverse.length := by simpa using long
  rw [Bool.eq_iff_iff, endedWith, advanceBy_behind, List.reverse_append, List.append_assoc,
    List.isPrefixOf_iff_prefix, List.isSuffixOf_iff_suffix, ← List.reverse_prefix]
  refine ⟨fun starts => ?_, fun starts => starts.trans (List.prefix_append _ _)⟩
  exact List.prefix_of_prefix_length_le starts (List.prefix_append _ _) short

namespace Draft

variable {writer : Writer} {ancestors : List Identity} {draft next : Draft} {history : History}
  {s : Section}

theorem fragments_of_other {region : Region} (other : region ≠ .function) (tokens : List Token)
    (begins : Bool) :
    (Part.directive (.body region tokens) begins).fragments writer =
      (Piece.directive region (collected region tokens)).fragments writer := by
  cases region with
  | function => exact absurd rfl other
  | _ => rfl

theorem Follows.close_piece (follows : draft.Follows writer history) {s : Section}
    {region : Region} {tokens : List Token} (directive : s.directive = .body region tokens)
    (other : region ≠ .function) {begins : Bool} {mode : FunctionMode}
    (left : mode = (history.close s begins).mode) :
    { draft.clear.addPiece writer (.directive region (collected region tokens)) with
      mode := mode }.Follows writer (history.close s begins) := by
  refine follows.close ?_ left rfl
  rw [directive, fragments_of_other other]
  exact ⟨(adds_addPiece writer draft.clear _).body, (adds_addPiece writer draft.clear _).functions⟩

/-- **A closed directive** adds its fragments and ends functions as the history tells. -/
theorem follows_of_complete {s : Section} {region : Region} {tokens : List Token} {begins : Bool}
    (follows : draft.Follows writer history) (directive : s.directive = .body region tokens)
    (pending : draft.pending.toList = (if begins then ['\n'] else []) ++ collected region tokens)
    (beginning : begins = true → region = .function)
    (started : region = .function → draft.mode ≠ .off)
    (ending : region.isCode = true → draft.cursor.endedWith "~%>" = s.endsInTilde)
    {done : Draft × Event} (completed : draft.complete writer ancestors region = .ok done) :
    done.1.Follows writer (history.close s begins) := by
  have regionOf : s.directive.region? = some region := by rw [directive]; rfl
  have uncoded : region.isCode = false → s.endsInTilde = false := by
    intro other
    simp [Section.endsInTilde, Section.isCodeBlock, regionOf, other]
  have notFunction : region ≠ .function → s.isFunctionBlock = false := by
    intro other
    simp [Section.isFunctionBlock, regionOf, other]
  have content : region ≠ .function → draft.pending.toList = collected region tokens := by
    intro other
    have first : begins = false := Bool.eq_false_iff.mpr fun first => other (beginning first)
    rw [pending, first]
    rfl
  have plainly (plain : isPlainRegion region = true) (other : region ≠ .function)
      (code : region.isCode = false) : done.1.Follows writer (history.close s begins) := by
    rw [complete_eq (collected region tokens) plain (fun _ => content other)
      (by rintro rfl; cases code)] at completed
    cases completed
    exact follows.close_piece directive other (follows.mode.trans
      (History.mode_close_of_other (notFunction other) (uncoded code) begins).symm)
  cases region with
  | comment => exact plainly rfl (by decide) rfl
  | dependency => exact plainly rfl (by decide) rfl
  | externalCode => exact plainly rfl (by decide) rfl
  | write => exact plainly rfl (by decide) rfl
  | transform transform => exact plainly rfl (by simp) rfl
  | engineName =>
      simp only [complete, completeEngine] at completed
      split at completed
      · cases completed
      · obtain ⟨after, declared, rest⟩ := exists_ok_of_bind completed
        obtain ⟨template, same, body, functions⟩ := declareName_eq_ok declared
        cases rest
        refine follows.close ?_ ?_ (by rw [same]; rfl)
        · rw [directive]
          exact .of_same (by rw [same]; exact body) (by rw [same]; exact functions)
        · rw [same, History.mode_close_of_other (notFunction (by decide)) (uncoded rfl)]
          exact follows.mode
  | block =>
      obtain ⟨after, closed, rest⟩ := exists_ok_of_bind completed
      cases rest
      rw [completeBlock_eq writer, ending rfl, content (by decide)] at closed
      split_ifs at closed with ended off
      · cases closed
        exact follows.close_piece directive (by decide)
          (History.mode_close_of_tilde ended begins).symm
      · cases closed
        exact follows.close_piece directive (by decide) (follows.mode.trans
          (History.mode_close_of_other (notFunction (by decide))
            (Bool.eq_false_iff.mpr ended) begins).symm)
  | function =>
      cases completed
      have text : draft.pending =
          (if begins then "\n" else "") ++ String.ofList (codeText tokens) := by
        rw [← String.toList_inj, pending]
        cases begins <;> simp [collected, Region.isCode]
      have isFunction : s.isFunctionBlock = true := by
        simp [Section.isFunctionBlock, regionOf]
      rw [completeFunction_eq, ending rfl]
      refine follows.close ?_ ?_ rfl
      · rw [directive, Part.fragments, ← text]
        exact ⟨(adds_append draft.clear _).body, (adds_append draft.clear _).functions⟩
      · by_cases ended : s.endsInTilde = true
        · rw [History.mode_close_of_tilde ended]
          simp [ended]
        · have open_ : history.mode ≠ .off := follows.mode ▸ started rfl
          rw [History.mode_close_of_function isFunction (Bool.eq_false_iff.mpr ended) open_,
            ← follows.mode]
          simp [ended]

/-- Whether the text read ends in `~%>` shows in the last section. -/
theorem endedWith_section (before : List Char) (s : Section) :
    (Cursor.start.advanceBy (before ++ s.text)).endedWith "~%>" =
      ['~', '%', '>'].isSuffixOf s.text := by
  by_cases written : s.written = []
  · have read : (Cursor.start.advanceBy (before ++ s.text)).behind =
        '%' :: '<' :: (s.literal.reverse ++ before.reverse) := by
      simp [Cursor.advanceBy_behind, Section.text, written, Cursor.start]
    rw [Cursor.endedWith, read]
    simp [List.isSuffixOf, Section.text, written, List.isPrefixOf]
  · refine Cursor.endedWith_append before s.text ?_
    have some : 0 < s.written.length := List.length_pos_iff.mpr written
    have split : s.text.length = s.literal.length + (s.written.length + 2) := by
      simp [Section.text]
    change 3 ≤ s.text.length
    omega

/-- A name or an include leaves the fragments and the mode as they are. -/
theorem Follows.next_of_bodiless (tagged : draft.Follows writer (history.tag s.literal))
    (bodiless : s.directive.region? = none) (mode : next.mode = draft.mode)
    (start : next.functionStart = draft.functionStart)
    (body : next.tree.template.body = draft.tree.template.body)
    (functions : next.tree.template.functions = draft.tree.template.functions) :
    next.Follows writer (history.next s) := by
  have opening : s.directive.opening ≠ .body .function := by
    intro same
    cases directive : s.directive <;> simp_all [Directive.opening, Directive.region?]
  have begins : (history.tag s.literal).begins s.directive.opening = false :=
    Bool.eq_false_iff.mpr fun begins => opening ((tagged.begins_iff _).mp begins).1
  have nothing : (Part.directive s.directive false).fragments writer = [] := by
    cases directive : s.directive with
    | body region tokens => rw [directive] at bodiless; cases bodiless
    | _ => rfl
  rw [History.next, History.enter, begins, if_neg Bool.false_ne_true]
  refine tagged.close ?_ ?_ start
  · rw [nothing]
    exact .of_same body functions
  · rw [mode, tagged.mode, History.mode_close_of_other]
    · simp [Section.isFunctionBlock, bodiless]
    · simp [Section.endsInTilde, Section.isCodeBlock, bodiless]

/-- **A performed section is followed**: what it leaves is what the history tells. -/
theorem follows_of_perform {s : Section} {done : Draft × Event}
    (between : draft.IsBetween history.before) (follows : draft.Follows writer history)
    (performed : draft.perform writer ancestors s = .ok done) :
    done.1.Follows writer (history.next s) := by
  obtain ⟨tagged, opened⟩ := follows.atTag between s.literal
  obtain ⟨entered, pending⟩ := tagged.enter opened s.directive.opening
  unfold perform at performed
  cases directive : s.directive with
  | body region tokens =>
      simp only [directive] at performed
      have cursor : ((draft.atTag writer s.literal).atClose region s.written tokens).cursor =
          Cursor.start.advanceBy (history.before ++ s.text) := by
        simp only [atClose, Draft.atTag, between.cursor, ← Cursor.advanceBy_append, Section.text,
          List.append_assoc]
      have opening : s.directive.opening = .body region := by rw [directive]; rfl
      have empty : (draft.atTag writer s.literal).pending = "" := rfl
      rw [opening] at entered pending
      rw [History.next, opening]
      have closing : ((draft.atTag writer s.literal).atClose region s.written tokens).Follows
          writer ((history.tag s.literal).enter (.body region)) :=
        ⟨entered.mode, entered.start, entered.body, entered.functions⟩
      refine follows_of_complete closing directive ?_ ?_ ?_ ?_ performed
      · rw [atClose, String.toList_append, pending, empty]
        split_ifs <;> simp
      · intro begins
        exact Opening.body.inj ((tagged.begins_iff _).mp begins).1
      · rintro rfl
        obtain ⟨functions, open_⟩ := History.exists_of_enter_function (history.tag s.literal)
        intro off
        rw [History.mode_eq_off_iff.mp (entered.mode.symm.trans off)] at open_
        cases open_
      · intro code
        have coded : s.isCodeBlock = true := by
          rw [Section.isCodeBlock, directive]
          exact code
        rw [cursor, endedWith_section, Section.endsInTilde, coded, Bool.true_and]
  | name kind name =>
      simp only [directive] at performed
      obtain ⟨after, declared, rest⟩ := exists_ok_of_bind performed
      obtain ⟨template, same, body, functions⟩ := declareName_eq_ok declared
      cases rest
      subst same
      exact tagged.next_of_bodiless (by rw [directive]; rfl) rfl rfl body functions
  | inclusion path =>
      simp only [directive] at performed
      cases performed
      exact tagged.next_of_bodiless (by rw [directive]; rfl) rfl rfl rfl rfl

theorem Follows.of_continues (follows : draft.Follows writer history)
    (continues : draft.Continues next) : next.Follows writer history := by
  rw [continues]
  exact ⟨follows.mode, follows.start, follows.body, follows.functions⟩

section Reads

variable {m : Type → Type} [Monad m] [LawfulMonad m] [MonadAttach m] [LawfulMonadAttach m]
  {compose : IncludeTree → String → Location → m (Except ParseError IncludeTree)}

/-- Including leaves the fragments of the including template as they are. -/
def KeepsFragments
    (compose : IncludeTree → String → Location → m (Except ParseError IncludeTree)) : Prop :=
  ∀ parent path location tree, CanReturn (compose parent path location) (.ok tree) →
    tree.template.body = parent.template.body ∧
      tree.template.functions = parent.template.functions

theorem follows_of_settle (keeps : KeepsFragments compose) {done : Draft × Event}
    (follows : done.1.Follows writer history) (returned : CanReturn (settle compose done) next) :
    next.Follows writer history := by
  obtain ⟨last, event⟩ := done
  cases event with
  | none => rwa [← eq_of_canReturn_pure returned]
  | engine name => rwa [← eq_of_canReturn_pure returned]
  | inclusion path =>
      obtain ⟨tree, composed, rfl⟩ := exists_of_settle_inclusion returned
      obtain ⟨body, functions⟩ := keeps _ _ _ _ composed
      exact ⟨follows.mode, follows.start, body.trans follows.body,
        functions.trans follows.functions⟩

/-- **Between sections, a draft follows the history** of the sections read. -/
theorem follows_of_sections (keeps : KeepsFragments compose) {sections : List Section}
    (follows : draft.Follows writer history) (between : draft.IsBetween history.before)
    (returned : CanReturn (sections.foldlM (follow writer ancestors compose) draft) next) :
    next.IsBetween (sections.foldl History.next history).before ∧
      next.Follows writer (sections.foldl History.next history) := by
  induction sections generalizing draft history with
  | nil =>
      rw [← eq_of_canReturn_pure returned]
      exact ⟨between, follows⟩
  | cons s sections ih =>
      rw [List.foldlM_cons] at returned
      obtain ⟨mid, followed, returned⟩ := exists_canReturn_of_bind returned
      obtain ⟨done, performed, settled⟩ := exists_of_canReturn_follow followed
      have midFollows : mid.Follows writer (history.next s) :=
        follows_of_settle keeps (follows_of_perform between follows performed) settled
      refine ih midFollows ?_ returned
      rw [History.before_next]
      exact isBetween_of_follow between followed

/-- Reading a text passes between its sections and its tail. -/
theorem exists_of_reads (keeps : KeepsFragments compose) (follows : draft.Follows writer .start)
    (between : draft.IsBetween []) {text : List Char}
    (returned : CanReturn (reads writer ancestors compose draft text) next) :
    ∃ mid, mid.IsBetween (History.behind (sections text).1).before ∧
      mid.Follows writer (.behind (sections text).1) ∧
      CanReturn (reads writer ancestors compose mid (sections text).2) next := by
  rw [reads_sections between] at returned
  obtain ⟨mid, followed, returned⟩ := exists_canReturn_of_bind returned
  obtain ⟨midBetween, midFollows⟩ := follows_of_sections keeps follows between followed
  exact ⟨mid, midBetween, midFollows, returned⟩

/-- **Every draft that reading passes through follows the history** of the text read. -/
theorem follows_of_reads (keeps : KeepsFragments compose) (follows : draft.Follows writer .start)
    (between : draft.IsBetween []) {text : List Char}
    (returned : CanReturn (reads writer ancestors compose draft text) next) :
    next.Follows writer (.ofText text) := by
  obtain ⟨mid, midBetween, midFollows, returned⟩ := exists_of_reads keeps follows between returned
  unfold History.ofText History.atTail
  cases tagged : splitAt? ['<', '%'] (sections text).2 with
  | none =>
      obtain ⟨last, leads, _, continues, _⟩ := leadsTo_of_untagged writer ancestors
        midBetween.state tagged
      rw [eq_of_canReturn_reads leads nofun returned]
      exact midFollows.of_continues continues
  | some found =>
      obtain ⟨literal, tag⟩ := found
      obtain ⟨tagFollows, opened⟩ := midFollows.atTag midBetween literal
      have tagOpen : (mid.atTag writer literal).state = .tagOpen := rfl
      obtain ⟨last, rest, leads, stuck, _, continues, _⟩ := leadsTo_of_open_directive
        writer ancestors tagOpen (directive?_of_tail (section?_tail text) tagged)
      rw [eq_of_canReturn_reads ((leadsTo_atTag writer ancestors midBetween.state tagged).trans
        leads) stuck returned]
      refine Follows.of_continues ?_ continues
      cases opens : opening? tag with
      | none =>
          simp only [atOpening, opens]
          exact tagFollows
      | some found =>
          simp only [atOpening, opens]
          exact (tagFollows.enter opened found.1).1

/-- **A text that ends in literal text** can be finished where no functions are open: the literal
is the last fragment of the body. -/
theorem finish_of_literal (keeps : KeepsFragments compose) (follows : draft.Follows writer .start)
    (between : draft.IsBetween []) {text : List Char}
    (literal : EndsInLiteral text)
    (returned : CanReturn (reads writer ancestors compose draft text) next) :
    match (History.ofText text).functions? with
    | some functions => next.finish writer = .error (.unterminatedFunction functions.start)
    | none => ∃ tree, next.finish writer = .ok tree ∧
      tree.template.body = (History.ofText text).stream writer false ++
        (Piece.literal (sections text).2).fragments writer ∧
      tree.template.functions = (History.ofText text).stream writer true := by
  obtain ⟨mid, midBetween, midFollows, returned⟩ := exists_of_reads keeps follows between returned
  obtain ⟨last, leads, _, _, finished⟩ := leadsTo_of_untagged writer ancestors
    midBetween.state literal
  have whole : History.ofText text = .behind (sections text).1 := by
    unfold History.ofText History.atTail
    rw [show splitAt? ['<', '%'] (sections text).2 = none from literal]
  rw [eq_of_canReturn_reads leads nofun returned, finished, whole]
  have mode := midFollows.mode
  cases open_ : (History.behind (sections text).1).functions? with
  | some functions =>
      have on : mid.mode ≠ .off := by
        rw [mode, Ne, History.mode_eq_off_iff, open_]
        simp
      simp only [if_neg on, midFollows.start functions open_]
  | none =>
      have off : mid.mode = .off := mode.trans (History.mode_eq_off_iff.mpr open_)
      have pending : mid.pending.toList ++ (sections text).2 = (sections text).2 := by
        rw [midBetween.pending]
        rfl
      have added := adds_addPiece writer mid (.literal (sections text).2)
      simp only [if_pos off, pending]
      refine ⟨_, rfl, ?_, ?_⟩
      · rw [added.body, midFollows.body, if_pos off]
      · rw [added.functions, midFollows.functions, if_pos off, List.append_nil]

/-- **A text that ends in a directive** cannot be finished. A function block leaves the functions
open, every other directive itself. -/
theorem finish_of_directive (keeps : KeepsFragments compose)
    (follows : draft.Follows writer .start) (between : draft.IsBetween [])
    {text literal tag : List Char}
    (tagged : splitAt? ['<', '%'] (sections text).2 = some (literal, tag))
    (returned : CanReturn (reads writer ancestors compose draft text) next) :
    if openedFamily tag = .function then
      ∃ functions, (History.ofText text).functions? = some functions ∧
        next.finish writer = .error (.unterminatedFunction functions.start)
    else next.finish writer = .error (.unterminatedTag (openedFamily tag)
      ((History.behind (sections text).1).tag literal).opened) := by
  have nextFollows := follows_of_reads keeps follows between returned
  obtain ⟨mid, midBetween, midFollows, returned⟩ := exists_of_reads keeps follows between returned
  have opened := (midFollows.atTag midBetween literal).2
  have tagOpen : (mid.atTag writer literal).state = .tagOpen := rfl
  obtain ⟨last, rest, leads, stuck, inside, continues, _, family⟩ := leadsTo_of_open_directive
    writer ancestors tagOpen (directive?_of_tail (section?_tail text) tagged)
  have same := eq_of_canReturn_reads ((leadsTo_atTag writer ancestors midBetween.state
    tagged).trans leads) stuck returned
  subst same
  rw [finish_of_family inside.ne_lessThan family]
  split_ifs with function
  · obtain ⟨inner, opens⟩ := openedFamily_eq_function_iff.mp function
    have open_ : ∃ functions, (History.ofText text).functions? = some functions := by
      simp only [History.ofText, History.atTail, tagged, opens]
      exact History.exists_of_enter_function _
    obtain ⟨functions, open_⟩ := open_
    exact ⟨functions, open_, by rw [nextFollows.start functions open_]⟩
  · rw [continues.tagStart, tagStart_atOpening, opened]

end Reads

end Draft

namespace Compiler

variable {m : Type → Type} [Monad m] [LawfulMonad m] [MonadAttach m] [LawfulMonadAttach m]
  {compiler : Compiler m} {parse? : Option (ParseText m)} {created : Nat}
  {ancestors : List Identity} {settings : Settings}

theorem keepsFragments :
    Draft.KeepsFragments (compiler.compose parse? created ancestors) := by
  intro parent path location tree composed
  obtain ⟨_, _, _, _, _, _, _, _, adopted⟩ := exists_of_compose composed
  obtain ⟨_, _, _, rfl⟩ := IncludeTree.adopt_eq_ok adopted
  exact ⟨rfl, rfl⟩

omit [Monad m] [LawfulMonad m] [MonadAttach m] [LawfulMonadAttach m] in
theorem follows_startDraft :
    (compiler.startDraft created settings).Follows compiler.emitter.writer .start := by
  obtain ⟨_, _, prepared⟩ :=
    compiler.emitter.prepare_eq (compiler.boundTemplate settings (compiler.ids created))
  have body : (compiler.startDraft created settings).tree.template.body = [] := by
    simp only [startDraft, Draft.start, prepared]
    rfl
  have functions : (compiler.startDraft created settings).tree.template.functions = [] := by
    simp only [startDraft, Draft.start, prepared]
    rfl
  exact ⟨rfl, nofun, body, functions⟩

omit [Monad m] [LawfulMonad m] [MonadAttach m] [LawfulMonadAttach m] in
theorem isBetween_startDraft : (compiler.startDraft created settings).IsBetween [] :=
  ⟨rfl, rfl, rfl⟩

/-- **Every draft that parsing passes through follows the history** of the text read. -/
theorem follows_of_reads {text : List Char} {draft : Draft}
    (returned : CanReturn (compiler.reads parse? created ancestors settings text) draft) :
    draft.Follows compiler.emitter.writer (.ofText text) :=
  Draft.follows_of_reads keepsFragments follows_startDraft isBetween_startDraft returned

/-- A parse that succeeds has read its text and ended it. -/
theorem exists_reads_of_parseWith {source : String} {tree : IncludeTree}
    (returned : CanReturn (compiler.parseWith parse? created ancestors settings source)
      (.ok tree)) :
    ∃ last, CanReturn (compiler.reads parse? created ancestors settings source.toList) last ∧
      last.finish compiler.emitter.writer = .ok tree := by
  rw [parseWith_eq_reads] at returned
  have ended : CanReturn (compiler.reads parse? created ancestors settings source.toList >>=
      fun last => ofExcept (last.finish compiler.emitter.writer)) tree := returned
  obtain ⟨last, read, finished⟩ := exists_canReturn_of_bind ended
  exact ⟨last, read, eq_ok_of_canReturn_ofExcept finished⟩

/-- **The fragments of a parsed template** are those of the history of its text, and the literal
at its end. -/
theorem fragments_of_parseWith {source : String} {tree : IncludeTree}
    (returned : CanReturn (compiler.parseWith parse? created ancestors settings source)
      (.ok tree)) :
    EndsInLiteral source.toList ∧ (History.ofText source.toList).functions? = none ∧
      tree.template.body = (History.ofText source.toList).stream compiler.emitter.writer false ++
        (Piece.literal (sections source.toList).2).fragments compiler.emitter.writer ∧
      tree.template.functions =
        (History.ofText source.toList).stream compiler.emitter.writer true := by
  obtain ⟨last, read, finished⟩ := exists_reads_of_parseWith returned
  cases tagged : splitAt? ['<', '%'] (sections source.toList).2 with
  | some found =>
      have ended := Draft.finish_of_directive keepsFragments follows_startDraft
        isBetween_startDraft tagged read
      split_ifs at ended
      · obtain ⟨_, _, failed⟩ := ended
        rw [failed] at finished
        cases finished
      · rw [ended] at finished
        cases finished
  | none =>
      have ended := Draft.finish_of_literal keepsFragments follows_startDraft
        isBetween_startDraft tagged read
      cases open_ : (History.ofText source.toList).functions? with
      | some functions =>
          simp only [open_, finished] at ended
          cases ended
      | none =>
          simp only [open_, finished] at ended
          obtain ⟨_, same, body, functions⟩ := ended
          cases same
          exact ⟨tagged, rfl, body, functions⟩

end Compiler

end TemplateCompiler
