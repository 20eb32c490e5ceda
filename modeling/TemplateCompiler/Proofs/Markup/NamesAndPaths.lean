import TemplateCompiler.Proofs.Markup.Openings
import TemplateCompiler.Proofs.Markup.Sections

/-! # Names and include paths, step by step

A name directive and an include directive have a syntax without escapes: runs of characters of
one kind, and single characters between them. Where the directive is closed, reading leads to
its close tag (`Draft.leadsTo_of_name`, `Draft.leadsTo_of_path`); where it is not, reading gets
stuck in the directive (`Draft.getsStuck_of_name`, `Draft.getsStuck_of_path`).
-/

namespace TemplateCompiler

open Markup

/-- The states in a directive or in the markup that opens one. -/
def State.IsInside : State → Prop
  | literal | lessThan => False
  | _ => True

theorem State.IsInside.ne_lessThan {state : State} (inside : state.IsInside) :
    state ≠ .lessThan := by
  rintro rfl
  exact inside

theorem State.family?_of_inside {state : State} (inside : state.IsInside) :
    ∃ family, state.family? = some family := by
  cases state with
  | literal => cases inside
  | lessThan => cases inside
  | _ => exact ⟨_, rfl⟩

theorem State.isInside_of_isIn {state : State} {region : Region} (inside : state.IsIn region) :
    state.IsInside := by
  cases state with
  | literal => cases inside
  | lessThan => cases inside
  | _ => trivial

namespace Draft

variable {writer : Writer} {ancestors : List Identity}

/-- The draft behind a text that leaves nothing. -/
def skip (draft : Draft) (text : List Char) : Draft :=
  { draft with cursor := draft.cursor.advanceBy text }

/-- The draft behind a text that has been collected. -/
def collect (draft : Draft) (text : List Char) : Draft :=
  { draft.skip text with pending := draft.pending ++ String.ofList text }

@[simp] theorem skip_nil (draft : Draft) : draft.skip [] = draft := rfl

@[simp] theorem collect_nil (draft : Draft) : draft.collect [] = draft := by
  simp [collect]

theorem skip_skip (draft : Draft) (front back : List Char) :
    (draft.skip front).skip back = draft.skip (front ++ back) := by
  simp [skip, Cursor.advanceBy_append]

theorem collect_collect (draft : Draft) (front back : List Char) :
    (draft.collect front).collect back = draft.collect (front ++ back) := by
  simp [collect, skip, Cursor.advanceBy_append, String.append_assoc]

/-- Characters of a kind that keep the state are read one after the other. -/
theorem leadsTo_run {state : State} {kind : Char → Bool} {after : Draft → List Char → Draft}
    (steps : ∀ (mid : Draft) c, kind c = true →
      (mid.goTo state).step writer ancestors c = .ok ((after mid [c]).goTo state, .none))
    (nil : ∀ mid, after mid [] = mid)
    (append : ∀ mid front back, after (after mid front) back = after mid (front ++ back))
    (draft : Draft) (text : List Char) :
    LeadsTo writer ancestors (draft.goTo state) text
      ((after draft (text.takeWhile kind)).goTo state) (text.dropWhile kind) := by
  induction text generalizing draft with
  | nil => rw [List.takeWhile_nil, nil]; exact .refl ..
  | cons c text ih =>
      by_cases more : kind c = true
      · rw [List.takeWhile_cons_of_pos more, List.dropWhile_cons_of_pos more]
        have later := ih (after draft [c])
        rw [append, List.singleton_append] at later
        exact .step (steps draft c more) later
      · rw [List.takeWhile_cons_of_neg more, List.dropWhile_cons_of_neg more, nil]
        exact .refl ..

/-- A character that is not the one needed cannot be read. -/
def Refuses (writer : Writer) (ancestors : List Identity) (draft : Draft) (c : Char) : Prop :=
  ∃ expected, draft.step writer ancestors c =
    .error ({ draft with cursor := draft.cursor.advance c }.unexpected expected c)

/-- The text behind a draft has ended or cannot be read on. -/
def IsStuck (writer : Writer) (ancestors : List Identity) (draft : Draft) (rest : List Char) :
    Prop :=
  ∀ c ∈ rest.head?, draft.Refuses writer ancestors c

/-- Reading leads from a draft to a place in a directive of a family, at which it is stuck. -/
def GetsStuck (writer : Writer) (ancestors : List Identity) (family : DirectiveFamily)
    (draft : Draft) (text : List Char) : Prop :=
  ∃ last rest, LeadsTo writer ancestors draft text last rest ∧
    last.IsStuck writer ancestors rest ∧ last.state.IsInside ∧
    last.state.family? = some family ∧ draft.Continues last

theorem GetsStuck.of_leadsTo {family : DirectiveFamily} {draft mid : Draft}
    {text middle : List Char} (leads : LeadsTo writer ancestors draft text mid middle)
    (continues : draft.Continues mid) (stuck : GetsStuck writer ancestors family mid middle) :
    GetsStuck writer ancestors family draft text := by
  obtain ⟨last, rest, later, isStuck, inside, open_, continued⟩ := stuck
  exact ⟨last, rest, leads.trans later, isStuck, inside, open_, continues.trans continued⟩

/-- Where a character is needed, reading is stuck before any other. -/
theorem GetsStuck.of_needed {family : DirectiveFamily} {draft : Draft} {text : List Char}
    (needed : Char) (inDirective : draft.state.IsInside)
    (open_ : draft.state.family? = some family)
    (others : ∀ c ∈ text.head?, c ≠ needed → draft.Refuses writer ancestors c)
    (later : ∀ rest, text = needed :: rest → GetsStuck writer ancestors family draft text) :
    GetsStuck writer ancestors family draft text := by
  cases text with
  | nil => exact ⟨draft, [], .refl .., nofun, inDirective, open_, rfl⟩
  | cons c rest =>
      by_cases same : c = needed
      · exact later rest (by rw [same])
      · refine ⟨draft, c :: rest, .refl .., ?_, inDirective, open_, rfl⟩
        rintro d head
        exact others d head (by cases head; exact same)

/-- A text that ends inside a directive cannot be finished. -/
theorem finish_ne_ok_of_inside {draft : Draft} (inside : draft.state.IsInside)
    (tree : IncludeTree) : draft.finish writer ≠ .ok tree := by
  obtain ⟨family, open_⟩ := State.family?_of_inside inside
  rw [finish_of_family inside.ne_lessThan open_]
  nofun

/-! ## Names -/

section Names

variable {draft : Draft} {kind : NameKind} {c : Char}

theorem isNameChar_tick (kind : NameKind) : isNameChar kind '\x60' = false := by
  cases kind <;> decide

theorem step_nameChar (draft : Draft) (more : isNameChar kind c = true) :
    (draft.goTo (.name kind)).step writer ancestors c =
      .ok ((draft.collect [c]).goTo (.name kind), .none) := by
  have notTick : c ≠ '\x60' := by
    rintro rfl
    rw [isNameChar_tick] at more
    cases more
  have pushed : draft.pending.push c = draft.pending ++ String.ofList [c] := by
    rw [← String.toList_inj]
    simp
  simp only [step, goTo_state, if_neg notTick, more, ↓reduceIte, collect, ← pushed]
  rfl

theorem step_nameTick (draft : Draft) :
    (draft.goTo (.name kind)).step writer ancestors '\x60' =
      .ok ((draft.skip ['\x60']).goTo (.nameTick kind), .none) := rfl

theorem step_namePercent (draft : Draft) :
    (draft.goTo (.nameTick kind)).step writer ancestors '%' =
      .ok ((draft.skip ['%']).goTo (.nameClose kind), .none) := rfl

variable (writer ancestors) in
theorem leadsTo_nameEnd (draft : Draft) (kind : NameKind) (text : List Char) :
    LeadsTo writer ancestors (draft.goTo (.name kind)) text
      ((draft.collect (text.takeWhile (isNameChar kind))).goTo (.name kind))
      (text.dropWhile (isNameChar kind)) :=
  leadsTo_run (fun mid _ => step_nameChar mid) collect_nil collect_collect draft text

variable (writer ancestors) in
/-- **A name that is closed** is declared at its close tag. -/
theorem leadsTo_of_name (draft : Draft) {text name written rest : List Char}
    (found : name? kind text = some (name, rest)) (whole : text = written ++ rest) :
    ∃ last, LeadsTo writer ancestors (draft.goTo (.name kind)) text last ('>' :: rest) ∧
      last.step writer ancestors '>' =
        (declareName ancestors ((draft.skip written).goTo .literal).clear kind
          (draft.pending ++ String.ofList name) >>= quietly) := by
  have chars := leadsTo_nameEnd writer ancestors draft kind text
  have split := List.takeWhile_append_dropWhile (p := isNameChar kind) (l := text)
  unfold name? at found
  split at found
  · rename_i more dropped
    cases found
    rw [dropped] at chars split
    have closed : written = text.takeWhile (isNameChar kind) ++ ['\x60'] ++ ['%'] ++ ['>'] :=
      (List.append_left_inj rest).mp (by simpa using whole.symm.trans split.symm)
    refine ⟨_, chars.trans (.step (step_nameTick _) (.of_step (step_namePercent _))), ?_⟩
    rw [closed]
    simp only [skip, Cursor.advanceBy_append]
    rfl
  · cases found

variable (writer ancestors) in
theorem getsStuck_of_name (draft : Draft) {text : List Char} (unclosed : name? kind text = none) :
    GetsStuck writer ancestors kind.family (draft.goTo (.name kind)) text := by
  have noMore := List.head?_dropWhile_not (isNameChar kind) text
  refine .of_leadsTo (leadsTo_nameEnd writer ancestors draft kind text) rfl ?_
  unfold name? at unclosed
  refine .of_needed '\x60' trivial rfl ?_ ?_
  · intro c head notTick
    rw [head] at noMore
    have other : isNameChar kind c = false := by simpa using noMore
    simp only [Refuses, step, goTo_state, if_neg notTick, other]
    exact ⟨_, rfl⟩
  · intro behindTick atTick
    rw [atTick] at unclosed ⊢
    refine .of_leadsTo (.of_step (step_nameTick _)) rfl ?_
    refine .of_needed '%' trivial rfl ?_ ?_
    · intro c _ other
      simp only [Refuses, step, goTo_state, if_neg other]
      exact ⟨_, rfl⟩
    · rintro behindPercent rfl
      refine .of_leadsTo (.of_step (step_namePercent _)) rfl ?_
      refine .of_needed '>' trivial rfl ?_ ?_
      · intro c _ other
        simp only [Refuses, step, goTo_state, if_neg other]
        exact ⟨_, rfl⟩
      · rintro rest rfl
        cases unclosed

end Names

/-! ## Include paths -/

section Paths

variable {mark c : Char}

theorem step_leadBlank (draft : Draft) (blank : Text.isBlank c = true) :
    (draft.goTo .includeLead).step writer ancestors c =
      .ok ((draft.skip [c]).goTo .includeLead, .none) := by
  have notQuote : ¬ (c = '"' ∨ c = '\'') := by
    rintro (rfl | rfl) <;> cases blank
  simp only [step, goTo_state, readIncludeLead, if_neg notQuote, blank, ↓reduceIte]
  rfl

theorem step_leadQuote (draft : Draft) (quote : mark = '"' ∨ mark = '\'') :
    (draft.goTo .includeLead).step writer ancestors mark =
      .ok ((draft.skip [mark]).goTo (.includePath mark), .none) := by
  simp only [step, goTo_state, readIncludeLead, if_pos quote]
  rfl

theorem step_pathChar (draft : Draft) (more : isPathChar mark c = true) :
    (draft.goTo (.includePath mark)).step writer ancestors c =
      .ok ((draft.collect [c]).goTo (.includePath mark), .none) := by
  have pushed : draft.pending.push c = draft.pending ++ String.ofList [c] := by
    rw [← String.toList_inj]
    simp
  simp only [isPathChar, Bool.and_eq_true, bne_iff_ne] at more
  obtain ⟨⟨notMark, notReturn⟩, notFeed⟩ := more
  have sameLine : ¬ (c = '\r' ∨ c = '\n') := by simp [notReturn, notFeed]
  simp only [step, goTo_state, if_neg notMark, if_neg sameLine, collect, ← pushed]
  rfl

theorem step_pathMark (draft : Draft) :
    (draft.goTo (.includePath mark)).step writer ancestors mark =
      .ok ((draft.skip [mark]).goTo .includeAfterPath, .none) := by
  simp only [step, goTo_state, ↓reduceIte]
  rfl

theorem step_afterBlank (draft : Draft) (blank : Text.isBlank c = true) :
    (draft.goTo .includeAfterPath).step writer ancestors c =
      .ok ((draft.skip [c]).goTo .includeAfterPath, .none) := by
  have notPercent : c ≠ '%' := by
    rintro rfl
    cases blank
  simp only [step, goTo_state, if_neg notPercent, blank, ↓reduceIte]
  rfl

theorem step_afterPercent (draft : Draft) :
    (draft.goTo .includeAfterPath).step writer ancestors '%' =
      .ok ((draft.skip ['%']).goTo .includeClose, .none) := rfl

variable (writer ancestors) in
theorem leadsTo_pathStart (draft : Draft) (text : List Char) :
    LeadsTo writer ancestors (draft.goTo .includeLead) text
      ((draft.skip (text.takeWhile Text.isBlank)).goTo .includeLead)
      (text.dropWhile Text.isBlank) :=
  leadsTo_run (fun mid _ => step_leadBlank mid) skip_nil skip_skip draft text

variable (writer ancestors) in
theorem leadsTo_pathEnd (draft : Draft) (mark : Char) (text : List Char) :
    LeadsTo writer ancestors (draft.goTo (.includePath mark)) text
      ((draft.collect (text.takeWhile (isPathChar mark))).goTo (.includePath mark))
      (text.dropWhile (isPathChar mark)) :=
  leadsTo_run (fun mid _ => step_pathChar mid) collect_nil collect_collect draft text

variable (writer ancestors) in
theorem leadsTo_pathClose (draft : Draft) (text : List Char) :
    LeadsTo writer ancestors (draft.goTo .includeAfterPath) text
      ((draft.skip (text.takeWhile Text.isBlank)).goTo .includeAfterPath)
      (text.dropWhile Text.isBlank) :=
  leadsTo_run (fun mid _ => step_afterBlank mid) skip_nil skip_skip draft text

variable (writer ancestors) in
/-- A path that its quotation mark and a close tag end is collected on the way to the close tag,
where the include is left to be composed. -/
theorem leadsTo_of_quotedPath (draft : Draft) {text path written rest : List Char}
    (found : quotedPath? mark text = some (path, rest)) (whole : text = written ++ rest) :
    ∃ last, LeadsTo writer ancestors (draft.goTo (.includePath mark)) text last ('>' :: rest) ∧
      last.step writer ancestors '>' =
        .ok (((draft.skip written).goTo .literal).clear,
          .inclusion (draft.pending ++ String.ofList path)) := by
  have chars := leadsTo_pathEnd writer ancestors draft mark text
  have split := List.takeWhile_append_dropWhile (p := isPathChar mark) (l := text)
  unfold quotedPath? at found
  split at found
  · rename_i c behind dropped
    split_ifs at found with same
    subst same
    split at found
    · rename_i more after
      cases found
      have blanks := List.takeWhile_append_dropWhile (p := Text.isBlank) (l := behind)
      rw [dropped] at chars split
      rw [after] at blanks
      have closed : written = text.takeWhile (isPathChar c) ++ [c] ++
          behind.takeWhile Text.isBlank ++ ['%'] ++ ['>'] :=
        (List.append_left_inj rest).mp (by simpa [blanks] using whole.symm.trans split.symm)
      have closing := chars.trans
        (.step (step_pathMark _) (leadsTo_pathClose writer ancestors _ behind))
      rw [after] at closing
      refine ⟨_, closing.trans (.of_step (step_afterPercent _)), ?_⟩
      rw [closed]
      simp only [skip, Cursor.advanceBy_append]
      rfl
    · cases found
  · cases found

variable (writer ancestors) in
/-- **An include that is closed** is left to be composed at its close tag. -/
theorem leadsTo_of_path (draft : Draft) {text path written rest : List Char}
    (found : path? text = some (path, rest)) (whole : text = written ++ rest) :
    ∃ last, LeadsTo writer ancestors (draft.goTo .includeLead) text last ('>' :: rest) ∧
      last.step writer ancestors '>' =
        .ok (((draft.skip written).goTo .literal).clear,
          .inclusion (draft.pending ++ String.ofList path)) := by
  have start := leadsTo_pathStart writer ancestors draft text
  have split := List.takeWhile_append_dropWhile (p := Text.isBlank) (l := text)
  unfold path? at found
  split at found
  · rename_i mark inner dropped
    split_ifs at found with quote
    rw [dropped] at start split
    obtain ⟨more, quoted⟩ := suffix_of_quotedPath? found
    obtain ⟨last, leads, closed⟩ := leadsTo_of_quotedPath writer ancestors
      ((draft.skip (text.takeWhile Text.isBlank)).skip [mark]) found quoted.symm
    have written : written = text.takeWhile Text.isBlank ++ [mark] ++ more :=
      (List.append_left_inj rest).mp (by simpa [quoted] using whole.symm.trans split.symm)
    refine ⟨last, start.trans (.step (step_leadQuote _ quote) leads), ?_⟩
    rw [closed, written]
    simp only [skip, Cursor.advanceBy_append]
  · cases found

variable (writer ancestors) in
/-- **Reading gets stuck in a path that is not closed**: at a line end or the end of the text
before the quotation mark, or behind it before the close tag. -/
theorem getsStuck_of_quotedPath (draft : Draft) {text : List Char}
    (unclosed : quotedPath? mark text = none) :
    GetsStuck writer ancestors .inclusion (draft.goTo (.includePath mark)) text := by
  have noMore := List.head?_dropWhile_not (isPathChar mark) text
  refine .of_leadsTo (leadsTo_pathEnd writer ancestors draft mark text) rfl ?_
  unfold quotedPath? at unclosed
  refine .of_needed mark trivial rfl ?_ ?_
  · intro c head notMark
    rw [head] at noMore
    have lineEnd : c = '\r' ∨ c = '\n' := by
      simp only [isPathChar, Bool.and_eq_false_iff, bne_eq_false_iff_eq,
        notMark, false_or] at noMore
      exact noMore
    simp only [Refuses, step, goTo_state, if_neg notMark, if_pos lineEnd]
    exact ⟨_, rfl⟩
  · intro behind atMark
    rw [atMark] at unclosed ⊢
    simp only [↓reduceIte] at unclosed
    have noMoreBlanks := List.head?_dropWhile_not Text.isBlank behind
    refine .of_leadsTo
      (.step (step_pathMark _) (leadsTo_pathClose writer ancestors _ behind)) rfl ?_
    refine .of_needed '%' trivial rfl ?_ ?_
    · intro c head notPercent
      rw [head] at noMoreBlanks
      have other : Text.isBlank c = false := by simpa using noMoreBlanks
      simp only [Refuses, step, goTo_state, if_neg notPercent, other]
      exact ⟨_, rfl⟩
    · intro behindPercent atPercent
      rw [atPercent] at unclosed ⊢
      refine .of_leadsTo (.of_step (step_afterPercent _)) rfl ?_
      refine .of_needed '>' trivial rfl ?_ ?_
      · intro c _ other
        simp only [Refuses, step, goTo_state, if_neg other]
        exact ⟨_, rfl⟩
      · rintro rest rfl
        cases unclosed

variable (writer ancestors) in
theorem getsStuck_of_path (draft : Draft) {text : List Char} (unclosed : path? text = none) :
    GetsStuck writer ancestors .inclusion (draft.goTo .includeLead) text := by
  have noMore := List.head?_dropWhile_not Text.isBlank text
  refine .of_leadsTo (leadsTo_pathStart writer ancestors draft text) rfl ?_
  unfold path? at unclosed
  cases behind : text.dropWhile Text.isBlank with
  | nil => exact .of_needed '"' trivial rfl nofun nofun
  | cons mark inner =>
      rw [behind] at unclosed noMore
      by_cases quote : mark = '"' ∨ mark = '\''
      · simp only [if_pos quote] at unclosed
        exact .of_leadsTo (.of_step (step_leadQuote _ quote)) rfl
          (getsStuck_of_quotedPath writer ancestors _ unclosed)
      · refine .of_needed '"' trivial rfl ?_ ?_
        · intro c head _
          cases head
          have other : Text.isBlank mark = false := by simpa using noMore
          simp only [Refuses, step, goTo_state, readIncludeLead, if_neg quote, other]
          exact ⟨_, rfl⟩
        · intro rest same
          exact absurd (.inl (List.cons.inj same).1) quote

end Paths

end Draft

end TemplateCompiler
