import TemplateCompiler.Proofs.Parsing.Passages
import TemplateCompiler.Proofs.Markup.Tokens

/-! # Bodies of directives, step by step

In a state of a directive body, some characters have been read whose meaning is still open:
`State.held`. What the body will have collected at its end follows from what has been
collected so far and from the text that starts with the characters held (`gather`). A step that
does not close the body keeps this (`Draft.Collects.step`), because a character that does not
belong to the characters held is read again after they have been collected.
-/

namespace TemplateCompiler

namespace Markup

/-- What a body with a collected beginning has collected at its mark, and the text behind the
mark. What is collected of a comment does not matter. -/
def gather (region : Region) (pending text : List Char) : Option (List Char × List Char) :=
  (body? (bodyMark region) text).map fun found =>
    (if region = .comment then [] else pending ++ collected region found.1, found.2)

theorem collected_cons (region : Region) (token : Token) (rest : List Token) :
    collected region (token :: rest) =
      (if region.isCode = true ∧ isSkipped token rest = true then [] else token.text) ++
        collected region rest := by
  by_cases code : region.isCode = true <;> simp [collected, codeText, code]

section Gather

variable {region : Region} (pending : List Char) {text whole : List Char} {token : Token}

/-- A token that is collected goes to what has been collected. -/
theorem gather_token
    (front : body? (bodyMark region) whole = (body? (bodyMark region) text).map (withToken token))
    (kept : region.isCode = true → ∀ found ∈ body? (bodyMark region) text,
      isSkipped token found.1 = false) :
    gather region pending whole = gather region (pending ++ token.text) text := by
  rw [gather, gather, front, Option.map_map]
  refine Option.map_congr fun found member => ?_
  have taken : ¬ (region.isCode = true ∧ isSkipped token found.1 = true) := by
    rintro ⟨code, skipped⟩
    rw [kept code found member] at skipped
    cases skipped
  simp [withToken, collected_cons, taken]

theorem gather_skipped
    (front : body? (bodyMark region) whole = (body? (bodyMark region) text).map (withToken token))
    (code : region.isCode = true)
    (skipped : ∀ found ∈ body? (bodyMark region) text, isSkipped token found.1 = true) :
    gather region pending whole = gather region pending text := by
  rw [gather, gather, front, Option.map_map]
  refine Option.map_congr fun found member => ?_
  simp [withToken, collected_cons, code, skipped found member]

end Gather

theorem isSkipped_of_ne {token : Token} (other : token ≠ .plain '~') (rest : List Token) :
    isSkipped token rest = false := by
  simp [isSkipped, other]

/-- A tilde is skipped before a percent sign, whether that sign begins the mark or not. -/
theorem isSkipped_iff {c : Char} {text : List Char} {found : List Token × List Char}
    (member : found ∈ body? ['%', '>'] (c :: text)) :
    isSkipped (.plain '~') found.1 = true ↔ c = '%' := by
  have whole := body?_eq_some member
  cases tokens : found.1 with
  | nil =>
      rw [tokens] at whole
      cases whole
      simp [isSkipped]
  | cons token rest =>
      rw [tokens] at whole
      cases token <;> cases whole <;> simp [isSkipped]

end Markup

open Markup

namespace State

/-- The characters of a body that have been read but not been collected. -/
def held : State → List Char
  | closing region => if region = .comment then ['*', '%'] else ['%']
  | tilde _ => ['~']
  | star => ['*']
  | escape _ => ['\\']
  | escapePercent _ => ['\\', '%']
  | _ => []

/-- The states in the body of a directive. -/
def IsIn (region : Region) : State → Prop
  | scan inner | closing inner | escape inner | escapePercent inner => inner = region
  | tilde inner => inner = region ∧ region.isCode = true
  | star => region = .comment
  | _ => False

end State

namespace Draft

/-- A draft in the body of a directive, before a text that goes on with the body. -/
structure Collects (draft : Draft) (region : Region) (text : List Char)
    (found? : Option (List Char × List Char)) : Prop where
  inside : draft.state.IsIn region
  gathers : gather region draft.pending.toList (draft.state.held ++ text) = found?

/-- Reading a character of a body collects it, or holds it with what follows. -/
theorem collects_readBody {draft : Draft} {region : Region} {c : Char} {text : List Char}
    {found? : Option (List Char × List Char)}
    (gathers : gather region draft.pending.toList (c :: text) = found?) :
    (draft.readBody region c).Collects region text found? ∧
      draft.Continues (draft.readBody region c) := by
  unfold readBody
  split_ifs with percent star tilde backslash
  · obtain ⟨rfl, code⟩ := percent
    exact ⟨⟨rfl, by simpa [State.held, code] using gathers⟩, rfl⟩
  · obtain ⟨rfl, rfl⟩ := star
    exact ⟨⟨rfl, gathers⟩, rfl⟩
  · obtain ⟨rfl, code⟩ := tilde
    exact ⟨⟨⟨rfl, code⟩, gathers⟩, rfl⟩
  · subst backslash
    exact ⟨⟨rfl, gathers⟩, rfl⟩
  · have single : body? (bodyMark region) (c :: text) =
        (body? (bodyMark region) text).map (withToken (.plain c)) := by
      refine body?_plain _ _ backslash ?_
      by_cases comment : region = .comment
      · have other : c ≠ '*' := fun same => star ⟨same, comment⟩
        simp [bodyMark, comment, List.isPrefixOf, other.symm]
      · have other : c ≠ '%' := fun same => percent ⟨same, comment⟩
        simp [bodyMark, comment, List.isPrefixOf, other.symm]
    have kept := gather_token draft.pending.toList single fun code found _ =>
      isSkipped_of_ne (fun same => tilde ⟨Token.plain.inj same, code⟩) found.1
    rw [kept] at gathers
    refine ⟨⟨rfl, ?_⟩, rfl⟩
    rw [← gathers]
    simp [State.held, Token.text, push, goTo]

variable {writer : Writer} {ancestors : List Identity}

/-- A character that is read again after those held, which have been collected. -/
theorem quietly_readBody {draft mid : Draft} {region : Region} {c : Char}
    {pending text : List Char} {found? : Option (List Char × List Char)}
    (gathers : gather region pending (c :: text) = found?)
    (pushed : region = .comment ∨ mid.pending.toList = pending)
    (continues : draft.Continues mid) :
    ∃ next, quietly (mid.readBody region c) = .ok (next, .none) ∧
      next.Collects region text found? ∧ draft.Continues next := by
  have same : gather region mid.pending.toList (c :: text) = found? := by
    rcases pushed with rfl | pushed
    · exact gathers
    · rw [pushed, gathers]
  obtain ⟨collects, continued⟩ := collects_readBody same
  exact ⟨_, rfl, collects, continues.trans continued⟩

/-- **A step in a body goes on with it**, unless it closes it. -/
theorem Collects.step {draft : Draft} {region : Region} {c : Char} {text : List Char}
    {found? : Option (List Char × List Char)} (collects : draft.Collects region (c :: text) found?)
    (unclosed : ¬ (draft.state = .closing region ∧ c = '>')) :
    ∃ next, draft.step writer ancestors c = .ok (next, .none) ∧
      next.Collects region text found? ∧ draft.Continues next := by
  obtain ⟨inside, gathers⟩ := collects
  cases state : draft.state with
  | scan inner =>
      simp only [Draft.step, state]
      rw [state] at inside gathers
      cases inside
      exact quietly_readBody gathers (.inr rfl) rfl
  | closing inner =>
      simp only [Draft.step, state]
      rw [state] at inside gathers
      cases inside
      have other : c ≠ '>' := fun same => unclosed ⟨state, same⟩
      rw [if_neg other]
      -- In a comment the star is still held as well, so two characters are given back.
      by_cases comment : region = .comment
      · subst comment
        have star : body? (bodyMark .comment) ('*' :: '%' :: c :: text) =
            (body? (bodyMark .comment) ('%' :: c :: text)).map (withToken (.plain '*')) :=
          body?_plain _ _ (by decide) (by simp [bodyMark, List.isPrefixOf, other.symm])
        have percent : body? (bodyMark .comment) ('%' :: c :: text) =
            (body? (bodyMark .comment) (c :: text)).map (withToken (.plain '%')) :=
          body?_plain _ _ (by decide) (by simp [bodyMark, List.isPrefixOf])
        have kept := gather_token draft.pending.toList star nofun
        rw [gather_token _ percent nofun] at kept
        exact quietly_readBody (kept.symm.trans gathers) (.inl rfl) rfl
      · have percent : body? (bodyMark region) ('%' :: c :: text) =
            (body? (bodyMark region) (c :: text)).map (withToken (.plain '%')) :=
          body?_plain _ _ (by decide)
            (by simp [bodyMark, comment, List.isPrefixOf, other.symm])
        have kept := gather_token draft.pending.toList percent fun _ found _ =>
          isSkipped_of_ne (by decide) found.1
        simp only [State.held, comment, ↓reduceIte] at gathers
        exact quietly_readBody (kept.symm.trans gathers) (.inr (by simp [push, Token.text])) rfl
  | tilde inner =>
      simp only [Draft.step, state]
      rw [state] at inside gathers
      obtain ⟨rfl, code⟩ := inside
      have comment : inner ≠ .comment := by
        rintro rfl
        cases code
      have mark := bodyMark_of_isCode code
      have front : body? (bodyMark inner) ('~' :: c :: text) =
          (body? (bodyMark inner) (c :: text)).map (withToken (.plain '~')) :=
        body?_plain _ _ (by decide) (by simp [mark, List.isPrefixOf])
      by_cases percent : c = '%'
      · subst percent
        -- The tilde is given up here, before it is known whether the percent sign closes.
        rw [if_pos rfl]
        refine ⟨_, rfl, ⟨rfl, ?_⟩, rfl⟩
        have skipped := gather_skipped draft.pending.toList front code
          fun found member => (isSkipped_iff (mark ▸ member)).mpr rfl
        rw [← gathers]
        simpa [State.held, goTo, comment] using skipped.symm
      · rw [if_neg percent]
        have kept := gather_token draft.pending.toList front fun _ found member =>
          Bool.eq_false_iff.mpr fun skipped => percent ((isSkipped_iff (mark ▸ member)).mp skipped)
        exact quietly_readBody (kept.symm.trans gathers) (.inr (by simp [push, Token.text])) rfl
  | star =>
      simp only [Draft.step, state]
      rw [state] at inside gathers
      cases inside
      by_cases percent : c = '%'
      · subst percent
        rw [if_pos rfl]
        exact ⟨_, rfl, ⟨rfl, gathers⟩, rfl⟩
      · rw [if_neg percent]
        have front : body? (bodyMark .comment) ('*' :: c :: text) =
            (body? (bodyMark .comment) (c :: text)).map (withToken (.plain '*')) :=
          body?_plain _ _ (by decide) (by simp [bodyMark, List.isPrefixOf, Ne.symm percent])
        have kept := gather_token draft.pending.toList front nofun
        exact quietly_readBody (kept.symm.trans gathers) (.inl rfl) rfl
  | escape inner =>
      simp only [Draft.step, state]
      rw [state] at inside gathers
      cases inside
      by_cases percent : c = '%'
      · subst percent
        rw [if_pos rfl]
        exact ⟨_, rfl, ⟨rfl, gathers⟩, rfl⟩
      · rw [if_neg percent]
        have kept := gather_token draft.pending.toList
          (body?_escaped (bodyMark region) text fun closing => percent closing.1)
          fun _ found _ => isSkipped_of_ne (by simp) found.1
        refine ⟨_, rfl, ⟨rfl, ?_⟩, rfl⟩
        rw [← gathers, State.held, List.cons_append, List.nil_append, kept]
        simp [State.held, Token.text, push, goTo]
  | escapePercent inner =>
      simp only [Draft.step, state]
      rw [state] at inside gathers
      cases inside
      by_cases bracket : c = '>'
      · subst bracket
        rw [if_pos rfl]
        have kept := gather_token draft.pending.toList
          (body?_escapedClose (bodyMark region) text) fun _ found _ =>
            isSkipped_of_ne (by simp) found.1
        refine ⟨_, rfl, ⟨rfl, ?_⟩, rfl⟩
        rw [← gathers, State.held, List.cons_append, List.cons_append, List.nil_append, kept]
        simp [State.held, Token.text, pushText, goTo]
      · rw [if_neg bracket]
        have kept := gather_token draft.pending.toList
          (body?_escaped (bodyMark region) (c := '%') (c :: text)
            fun closing => bracket (Option.some.inj closing.2))
          fun _ found _ => isSkipped_of_ne (by simp) found.1
        exact quietly_readBody (kept.symm.trans gathers)
          (.inr (by simp [pushText, Token.text])) rfl
  | _ => exact absurd inside (by rw [state]; exact id)

/-- A close tag ends the body, and all of it has been collected. -/
theorem Collects.closed {draft : Draft} {region : Region} {text : List Char}
    {found? : Option (List Char × List Char)}
    (collects : draft.Collects region ('>' :: text) found?)
    (state : draft.state = .closing region) :
    found? = some (if region = .comment then [] else draft.pending.toList, text) := by
  rw [← collects.gathers, state, gather]
  by_cases comment : region = .comment
  · simp [State.held, comment, bodyMark, body?]
  · simp [State.held, comment, bodyMark, body?, collected, codeText]

theorem body?_held {state : State} {region : Region} (inside : state.IsIn region) :
    body? (bodyMark region) state.held = none := by
  by_cases comment : region = .comment
  · cases state <;> simp_all [State.IsIn, State.held, bodyMark, body?]
  · cases state <;> simp_all [State.IsIn, State.held, bodyMark, body?]

theorem Collects.of_nil {draft : Draft} {region : Region}
    {found? : Option (List Char × List Char)} (collects : draft.Collects region [] found?) :
    found? = none := by
  rw [← collects.gathers, List.append_nil, gather, body?_held collects.inside]
  rfl

variable (writer ancestors) in
/-- **A body that ends** leads to its close tag with its text collected. -/
theorem Collects.leadsTo {draft : Draft} {region : Region} {text content rest : List Char}
    (collects : draft.Collects region text (some (content, rest))) :
    ∃ raw last, text = raw ++ '>' :: rest ∧
      LeadsTo writer ancestors draft text last ('>' :: rest) ∧ last.state = .closing region ∧
      (region ≠ .comment → last.pending.toList = content) ∧
      last.cursor = draft.cursor.advanceBy raw ∧ draft.Continues last := by
  induction text generalizing draft with
  | nil => cases collects.of_nil
  | cons c text ih =>
      by_cases closes : draft.state = .closing region ∧ c = '>'
      · obtain ⟨state, rfl⟩ := closes
        obtain ⟨rfl, rfl⟩ := Prod.mk.inj (Option.some.inj (collects.closed state))
        exact ⟨[], draft, rfl, .refl .., state, fun other => (if_neg other).symm, rfl, rfl⟩
      · obtain ⟨next, stepped, later, continues⟩ := collects.step closes
        obtain ⟨raw, last, whole, leads, closing, content, cursor, continued⟩ := ih later
        have moved : next.cursor = draft.cursor.advance c := (step_edited stepped).2
        refine ⟨c :: raw, last, by rw [whole]; rfl, .step stepped leads, closing, content, ?_,
          continues.trans continued⟩
        rw [cursor, moved, Cursor.advanceBy_cons]

variable (writer ancestors) in
/-- **A body that does not end** leads to a state in it. -/
theorem Collects.leadsTo_end {draft : Draft} {region : Region} {text : List Char}
    (collects : draft.Collects region text none) :
    ∃ last, LeadsTo writer ancestors draft text last [] ∧ last.state.IsIn region ∧
      draft.Continues last := by
  induction text generalizing draft with
  | nil => exact ⟨draft, .refl .., collects.inside, rfl⟩
  | cons c text ih =>
      have unclosed : ¬ (draft.state = .closing region ∧ c = '>') := by
        rintro ⟨state, rfl⟩
        cases collects.closed state
      obtain ⟨next, stepped, later, continues⟩ := collects.step unclosed
      obtain ⟨last, leads, inside, continued⟩ := ih later
      exact ⟨last, .step stepped leads, inside, continues.trans continued⟩

theorem collects_scan {draft : Draft} {region : Region} (state : draft.state = .scan region)
    (text : List Char) :
    draft.Collects region text (gather region draft.pending.toList text) := by
  refine ⟨?_, ?_⟩ <;> rw [state]
  · rfl
  · rfl

theorem family_eq_function_iff {region : Region} :
    region.family = .function ↔ region = .function := by
  cases region with
  | transform transform => cases transform <;> simp [Region.family, Transform.family]
  | _ => simp [Region.family]

theorem family?_of_isIn {state : State} {region : Region} (inside : state.IsIn region) :
    state.family? = some region.family := by
  cases state <;> simp_all [State.IsIn, State.family?]
  rfl

/-- A text that ends in a directive leaves it open, or the functions. -/
theorem finish_of_family {draft : Draft} {family : DirectiveFamily}
    (notLess : draft.state ≠ .lessThan) (open_ : draft.state.family? = some family) :
    draft.finish writer = .error (if family = .function then
      .unterminatedFunction draft.functionStart
      else .unterminatedTag family draft.tagStart) := by
  rw [finish, if_neg notLess]
  simp only [open_]
  split
  · rename_i same
    cases same
    rw [if_pos rfl]
  · rename_i other same
    cases same
    rw [if_neg other]
  · cases ‹some family = none›

theorem finish_of_isIn {draft : Draft} {region : Region} (inside : draft.state.IsIn region) :
    draft.finish writer = .error (if region = .function then
      .unterminatedFunction draft.functionStart
      else .unterminatedTag region.family draft.tagStart) := by
  have notLess : draft.state ≠ .lessThan := by
    intro state
    rw [state] at inside
    exact inside
  rw [finish_of_family notLess (family?_of_isIn inside)]
  simp only [family_eq_function_iff]

end Draft

end TemplateCompiler
