import TemplateCompiler.Proofs.Markup.Bodies

/-! # Opening markup, step by step

Behind `<%`, a character can be a sigil, whose meaning the next character decides. The table
of openings says the same: a sigil alone is incomplete, with some characters it opens a
directive of its own, and before any other character it opens what it means by itself.
-/

namespace TemplateCompiler

open Markup

/-- The characters that need one more character to decide. -/
def sigils : List (Char × Sigil) :=
  [('@', .atSign), ('!', .bang), ('#', .hash), ('~', .tilde), ('$', .dollar),
    ('?', .write .urlEncode), ('&', .write .urlDecode), ('^', .write .fullUrlDecode),
    (':', .write .base64Encode), ('.', .write .base64Decode)]

/-- What a sigil opens with a character that belongs to the markup. -/
def Sigil.pairOpening? (sigil : Sigil) (c : Char) : Option Opening :=
  if c = '=' then sigil.transform?.map fun transform => .body (.transform transform)
  else if c = '\x60' then
    match sigil with
    | atSign => some (.name .className)
    | dollar => some (.name .moduleName)
    | _ => none
  else if c = '@' ∧ sigil = atSign then some (.body .engineName)
  else none

/-- What a sigil opens by itself. -/
def Sigil.loneOpening : Sigil → Opening
  | atSign => .body .dependency
  | bang => .body .externalCode
  | hash => .inclusion
  | tilde => .body .function
  | dollar | write _ => .body .block

/-- The state in which a directive is read behind its markup. -/
def Markup.Opening.state : Opening → State
  | body region => .scan region
  | name kind => .name kind
  | inclusion => .includeLead

namespace Markup

/-- The family of the directives that are opened in a way. -/
def Opening.family : Opening → DirectiveFamily
  | body region => region.family
  | name kind => kind.family
  | inclusion => .inclusion

/-- The family of the directive that a text behind a `<%` opens, as far as its markup tells. -/
def openedFamily (tag : List Char) : DirectiveFamily :=
  (opening? tag).elim .tag fun found => found.1.family

variable {c d : Char} {sigil : Sigil}

/-- Functions are what a function block opens. -/
theorem openedFamily_eq_function_iff {tag : List Char} :
    openedFamily tag = .function ↔ ∃ inner, opening? tag = some (.body .function, inner) := by
  unfold openedFamily
  cases opens : opening? tag with
  | none => simp
  | some found =>
      obtain ⟨opening, inner⟩ := found
      cases opening with
      | body region => simp [Opening.family, Draft.family_eq_function_iff]
      | name kind => cases kind <;> simp [Opening.family, NameKind.family]
      | inclusion => simp [Opening.family]

theorem opening?_of_two (c d : Char) (rest : List Char) :
    opening? (c :: d :: rest) =
      (openings.find? fun entry => entry.1.isPrefixOf (c :: d :: rest)).map fun entry =>
        (entry.2, (c :: d :: rest).drop entry.1.length) := by
  have complete : isIncomplete (c :: d :: rest) = false := by simp [isIncomplete, openings]
  rw [opening?, complete, if_neg Bool.false_ne_true]

/-- A sigil alone is incomplete. -/
theorem opening?_alone (leads : (c, sigil) ∈ sigils) : opening? [c] = none := by
  simp only [sigils, List.mem_cons, Prod.mk.injEq, List.not_mem_nil, or_false] at leads
  rcases leads with ⟨rfl, rfl⟩ | ⟨rfl, rfl⟩ | ⟨rfl, rfl⟩ | ⟨rfl, rfl⟩ | ⟨rfl, rfl⟩ | ⟨rfl, rfl⟩ |
    ⟨rfl, rfl⟩ | ⟨rfl, rfl⟩ | ⟨rfl, rfl⟩ | ⟨rfl, rfl⟩ <;> rfl

theorem opening?_pair (leads : (c, sigil) ∈ sigils) {opening : Opening}
    (pair : sigil.pairOpening? d = some opening) (rest : List Char) :
    opening? (c :: d :: rest) = some (opening, rest) := by
  rw [opening?_of_two]
  unfold Sigil.pairOpening? at pair
  simp only [sigils, List.mem_cons, Prod.mk.injEq, List.not_mem_nil, or_false] at leads
  split_ifs at pair with equals tick mark
  · subst equals
    rcases leads with ⟨rfl, rfl⟩ | ⟨rfl, rfl⟩ | ⟨rfl, rfl⟩ | ⟨rfl, rfl⟩ | ⟨rfl, rfl⟩ |
      ⟨rfl, rfl⟩ | ⟨rfl, rfl⟩ | ⟨rfl, rfl⟩ | ⟨rfl, rfl⟩ | ⟨rfl, rfl⟩ <;> cases pair <;> rfl
  · subst tick
    rcases leads with ⟨rfl, rfl⟩ | ⟨rfl, rfl⟩ | ⟨rfl, rfl⟩ | ⟨rfl, rfl⟩ | ⟨rfl, rfl⟩ |
      ⟨rfl, rfl⟩ | ⟨rfl, rfl⟩ | ⟨rfl, rfl⟩ | ⟨rfl, rfl⟩ | ⟨rfl, rfl⟩ <;> cases pair <;> rfl
  · obtain ⟨rfl, rfl⟩ := mark
    cases pair
    rcases leads with ⟨rfl, _⟩ | ⟨_, same⟩ | ⟨_, same⟩ | ⟨_, same⟩ | ⟨_, same⟩ | ⟨_, same⟩ |
      ⟨_, same⟩ | ⟨_, same⟩ | ⟨_, same⟩ | ⟨_, same⟩
    · rfl
    all_goals cases same

/-- A sigil before any other character opens what it means by itself. -/
theorem opening?_lone (leads : (c, sigil) ∈ sigils) (lone : sigil.pairOpening? d = none)
    (rest : List Char) : opening? (c :: d :: rest) = some (sigil.loneOpening, d :: rest) := by
  rw [opening?_of_two]
  unfold Sigil.pairOpening? at lone
  simp only [sigils, List.mem_cons, Prod.mk.injEq, List.not_mem_nil, or_false] at leads
  split_ifs at lone with equals tick mark
  · subst equals
    rcases leads with ⟨rfl, rfl⟩ | ⟨rfl, rfl⟩ | ⟨rfl, rfl⟩ | ⟨rfl, rfl⟩ | ⟨rfl, rfl⟩ |
      ⟨rfl, rfl⟩ | ⟨rfl, rfl⟩ | ⟨rfl, rfl⟩ | ⟨rfl, rfl⟩ | ⟨rfl, rfl⟩ <;> cases lone
    rfl
  · subst tick
    rcases leads with ⟨rfl, rfl⟩ | ⟨rfl, rfl⟩ | ⟨rfl, rfl⟩ | ⟨rfl, rfl⟩ | ⟨rfl, rfl⟩ |
      ⟨rfl, rfl⟩ | ⟨rfl, rfl⟩ | ⟨rfl, rfl⟩ | ⟨rfl, rfl⟩ | ⟨rfl, rfl⟩ <;> cases lone <;> rfl
  · have notEquals := Ne.symm equals
    have notTick := Ne.symm tick
    rcases leads with ⟨rfl, rfl⟩ | ⟨rfl, rfl⟩ | ⟨rfl, rfl⟩ | ⟨rfl, rfl⟩ | ⟨rfl, rfl⟩ |
      ⟨rfl, rfl⟩ | ⟨rfl, rfl⟩ | ⟨rfl, rfl⟩ | ⟨rfl, rfl⟩ | ⟨rfl, rfl⟩
    · have notMark : '@' ≠ d := fun same => mark ⟨same.symm, rfl⟩
      simp [openings, List.isPrefixOf, Sigil.loneOpening, notTick, notMark]
    all_goals simp [openings, List.isPrefixOf, Sigil.loneOpening, notEquals, notTick]

theorem opening?_star (rest : List Char) :
    opening? ('*' :: rest) = some (.body .comment, rest) := by
  cases rest with
  | nil => rfl
  | cons d rest =>
      rw [opening?_of_two]
      rfl

theorem opening?_equals (rest : List Char) :
    opening? ('=' :: rest) = some (.body .write, rest) := by
  cases rest with
  | nil => rfl
  | cons d rest =>
      rw [opening?_of_two]
      rfl

theorem opening?_other (other : c ∉ sigils.map Prod.fst) (notStar : c ≠ '*')
    (notEquals : c ≠ '=') (rest : List Char) :
    opening? (c :: rest) = some (.body .block, c :: rest) := by
  have flipped : ∀ entry ∈ sigils, entry.1 ≠ c := by
    rintro entry member rfl
    exact other (List.mem_map_of_mem member)
  simp only [sigils, List.map_cons, List.map_nil, List.mem_cons, List.not_mem_nil, or_false,
    not_or, forall_eq_or_imp, forall_eq] at other flipped
  cases rest with
  | nil =>
      simp [opening?, isIncomplete, openings, List.isPrefixOf, other, flipped, notStar.symm,
        notEquals.symm]
  | cons d rest =>
      rw [opening?_of_two]
      simp [openings, List.isPrefixOf, flipped, notStar.symm, notEquals.symm]

end Markup

namespace Draft

variable {c d : Char} {sigil : Sigil} {opening : Opening}

theorem readOpening_of_sigil (leads : (c, sigil) ∈ sigils) (draft : Draft) :
    draft.readOpening c = draft.goTo (.sigil sigil) := by
  simp only [sigils, List.mem_cons, Prod.mk.injEq, List.not_mem_nil, or_false] at leads
  rcases leads with ⟨rfl, rfl⟩ | ⟨rfl, rfl⟩ | ⟨rfl, rfl⟩ | ⟨rfl, rfl⟩ | ⟨rfl, rfl⟩ |
    ⟨rfl, rfl⟩ | ⟨rfl, rfl⟩ | ⟨rfl, rfl⟩ | ⟨rfl, rfl⟩ | ⟨rfl, rfl⟩ <;> rfl

theorem readOpening_other (other : c ∉ sigils.map Prod.fst) (notStar : c ≠ '*')
    (notEquals : c ≠ '=') (draft : Draft) : draft.readOpening c = draft.readBody .block c := by
  unfold readOpening
  split
  case h_3 => exact absurd rfl notStar
  case h_5 => exact absurd rfl notEquals
  case h_13 => rfl
  all_goals exact absurd (by decide) other

/-- The draft in a directive that has been opened. Function blocks may begin functions. -/
def enter (draft : Draft) (opening : Opening) : Draft :=
  (if opening = .body .function then draft.openFunction else draft).goTo opening.state

/-- A sigil with a character that belongs to the markup leads into the directive. -/
theorem readSigil_pair (pair : sigil.pairOpening? d = some opening) (draft : Draft) :
    draft.readSigil sigil d = .ok (draft.enter opening) := by
  unfold Sigil.pairOpening? at pair
  split_ifs at pair with equals tick mark
  · subst equals
    cases sigil <;> cases pair <;> rfl
  · subst tick
    cases sigil <;> cases pair <;> rfl
  · obtain ⟨rfl, rfl⟩ := mark
    cases pair
    rfl

/-- A sigil before any other character reads it in the directive that it opens by itself. -/
theorem readSigil_lone (lone : sigil.pairOpening? d = none) (draft : Draft) :
    draft.readSigil sigil d =
      match sigil.loneOpening with
      | .body .function => .ok (draft.openFunction.readBody .function d)
      | .body region => .ok (draft.readBody region d)
      | _ => draft.readIncludeLead d := by
  have notEquals : sigil ≠ .atSign → d ≠ '=' := by
    rintro other rfl
    cases sigil <;> first | exact other rfl | cases lone
  have notTick : sigil = .atSign ∨ sigil = .dollar → d ≠ '\x60' := by
    rintro named rfl
    rcases named with rfl | rfl <;> cases lone
  have notMark : sigil = .atSign → d ≠ '@' := by
    rintro rfl rfl
    cases lone
  cases sigil <;> simp_all [readSigil, Sigil.transform?, Sigil.loneOpening]

variable {writer : Writer} {ancestors : List Identity}

theorem openFunction_mode (draft : Draft) :
    draft.openFunction.mode = if draft.mode = .off then .on else draft.mode := by
  unfold openFunction
  split_ifs <;> rfl

theorem openFunction_goTo (draft : Draft) (state : State) :
    (draft.goTo state).openFunction = draft.openFunction.goTo state := by
  by_cases off : draft.mode = .off
  · rw [openFunction, openFunction, if_pos off, goTo_mode, if_pos off]
    rfl
  · rw [openFunction, openFunction, if_neg off, goTo_mode, if_neg off]

theorem tagStart_enter (draft : Draft) (opening : Opening) :
    (draft.enter opening).tagStart = draft.tagStart := by
  simp only [enter, goTo_tagStart, openFunction]
  split_ifs <;> rfl

/-- A directive is entered in the same way from every state. -/
theorem enter_goTo (draft : Draft) (state : State) (opening : Opening) :
    (draft.goTo state).enter opening = draft.enter opening := by
  by_cases function : opening = .body .function
  · rw [enter, enter, if_pos function, if_pos function, openFunction_goTo]
    rfl
  · rw [enter, enter, if_neg function, if_neg function]
    rfl

theorem enter_at (draft : Draft) (cursor : Cursor) (opening : Opening) :
    ({ draft with cursor := cursor }.enter opening) =
      { draft.enter opening with cursor := cursor } := by
  by_cases function : opening = .body .function
  · by_cases off : draft.mode = .off
    · simp only [enter, openFunction, if_pos function, if_pos off]
      rfl
    · simp only [enter, openFunction, if_pos function, if_neg off]
      rfl
  · rw [enter, enter, if_neg function, if_neg function]
    rfl

theorem step_pair (pair : sigil.pairOpening? d = some opening) (draft : Draft) :
    (draft.goTo (.sigil sigil)).step writer ancestors d =
      .ok ({ draft with cursor := draft.cursor.advance d }.enter opening, .none) := by
  simp only [step, goTo_state, readSigil_pair pair]
  rw [← enter_goTo { draft with cursor := draft.cursor.advance d } (.sigil sigil)]
  rfl

theorem step_lone (lone : sigil.pairOpening? d = none) (draft : Draft) :
    (draft.goTo (.sigil sigil)).step writer ancestors d =
      (draft.enter sigil.loneOpening).step writer ancestors d := by
  simp only [step, goTo_state, readSigil_lone lone]
  cases sigil with
  | tilde =>
      by_cases off : draft.mode = .off <;>
        simp [goTo, enter, Sigil.loneOpening, Opening.state, openFunction, off] <;> rfl
  | _ => rfl

variable (writer ancestors) in
theorem step_tagOpen {draft : Draft} (state : draft.state = .tagOpen) (c : Char) :
    draft.step writer ancestors c =
      .ok ({ draft with cursor := draft.cursor.advance c }.readOpening c, .none) := by
  simp only [step, state]
  rfl

theorem finish_of_tag {draft : Draft} (tag : draft.state = .tagOpen ∨ ∃ s, draft.state = .sigil s) :
    draft.finish writer = .error (.unterminatedTag .tag draft.tagStart) := by
  rcases tag with state | ⟨sigil, state⟩
  · simp [finish, state, State.family?]
  · simp [finish, state, State.family?]

variable (writer ancestors) in
/-- **Markup that is not complete** leads to a state in it. -/
theorem leadsTo_of_incomplete {draft : Draft} (state : draft.state = .tagOpen) {tag : List Char}
    (incomplete : opening? tag = none) :
    ∃ last, LeadsTo writer ancestors draft tag last [] ∧
      (last.state = .tagOpen ∨ ∃ s, last.state = .sigil s) ∧ draft.Continues last := by
  cases tag with
  | nil => exact ⟨draft, .refl .., .inl state, rfl⟩
  | cons c more =>
      by_cases known : c ∈ sigils.map Prod.fst
      · obtain ⟨⟨_, sigil⟩, leads, rfl⟩ := List.mem_map.mp known
        cases more with
        | nil =>
            refine ⟨_, .of_step (step_tagOpen writer ancestors state _), ?_, ?_⟩
            · rw [readOpening_of_sigil leads]
              exact .inr ⟨sigil, rfl⟩
            · rw [readOpening_of_sigil leads]
              rfl
        | cons d rest =>
            rw [opening?_of_two, Option.map_eq_none_iff, List.find?_eq_none] at incomplete
            exact absurd rfl (incomplete ([], .body .block) (by decide))
      · by_cases star : c = '*'
        · rw [star, opening?_star] at incomplete
          cases incomplete
        · by_cases equals : c = '='
          · rw [equals, opening?_equals] at incomplete
            cases incomplete
          · rw [opening?_other known star equals] at incomplete
            cases incomplete

variable (writer ancestors) in
/-- **Markup that opens a directive** leads into it. -/
theorem leadsTo_of_opening {draft : Draft} (state : draft.state = .tagOpen)
    {tag inner : List Char} (opens : opening? tag = some (opening, inner)) :
    ∃ markup, (markup, opening) ∈ openings ∧ tag = markup ++ inner ∧
      LeadsTo writer ancestors draft tag
        ({ draft with cursor := draft.cursor.advanceBy markup }.enter opening) inner := by
  obtain ⟨markup, listed, whole⟩ := opening?_eq_some opens
  refine ⟨markup, listed, whole, ?_⟩
  cases tag with
  | nil => cases opens
  | cons c more =>
      have first := step_tagOpen writer ancestors state c
      by_cases known : c ∈ sigils.map Prod.fst
      · obtain ⟨⟨_, sigil⟩, leads, rfl⟩ := List.mem_map.mp known
        dsimp only at *
        rw [readOpening_of_sigil leads] at first
        cases more with
        | nil =>
            rw [opening?_alone leads] at opens
            cases opens
        | cons d rest =>
            cases pair : sigil.pairOpening? d with
            | some found =>
                rw [opening?_pair leads pair] at opens
                cases opens
                rw [(List.append_cancel_right whole.symm : markup = [_, d])]
                refine .step first (.of_step ?_)
                exact step_pair pair _
            | none =>
                rw [opening?_lone leads pair] at opens
                cases opens
                rw [(List.append_cancel_right whole.symm : markup = [_])]
                exact .step first (.of_same (step_lone pair _))
      · by_cases star : c = '*'
        · subst star
          rw [opening?_star] at opens
          cases opens
          rw [(List.append_cancel_right whole.symm : markup = ['*'])]
          exact .of_step first
        · by_cases equals : c = '='
          · subst equals
            rw [opening?_equals] at opens
            cases opens
            rw [(List.append_cancel_right whole.symm : markup = ['='])]
            exact .of_step first
          · rw [opening?_other known star equals] at opens
            cases opens
            rw [(List.append_cancel_right whole.symm : markup = [])]
            refine .of_same ?_
            rw [first, readOpening_other known star equals]
            rfl

end Draft

end TemplateCompiler
