import TemplateCompiler.Proofs.Parsing.Passages
import TemplateCompiler.Proofs.Markup.Reading

/-! # Literal text, step by step

Literal text goes on to the first `<%`, where it becomes a literal of the template
(`Draft.leadsTo_atTag`). A `<` before any other character is read again as literal text, so at
the end of a text the state can still be behind one (`Draft.leadsTo_of_untagged`).
-/

namespace TemplateCompiler

open Markup

namespace Draft

/-- The draft with a piece added. Its fragments go to the functions, where these are being
collected, or to the body. -/
def addPiece (writer : Writer) (draft : Draft) (piece : Piece) : Draft :=
  draft.withTemplate <|
    if draft.mode = .off then extend writer draft.template [piece]
    else { extend writer draft.template [piece] with
      body := draft.template.body
      functions := draft.template.functions ++ piece.fragments writer }

/-- The draft behind the `<%` that ends literal text. -/
def atTag (writer : Writer) (draft : Draft) (literal : List Char) : Draft :=
  let cursor := draft.cursor.advanceBy (literal ++ ['<', '%'])
  let piece := Piece.literal (draft.pending.toList ++ literal)
  { draft.addPiece writer piece with
    cursor := cursor
    state := .tagOpen
    pending := ""
    tagStart := cursor.location }

/-- The draft in literal text with a character more collected. -/
def literally (draft : Draft) (c : Char) : Draft :=
  { draft with
    cursor := draft.cursor.advance c, state := .literal, pending := draft.pending.push c }

variable {writer : Writer} {ancestors : List Identity}

/-- Outside functions, a piece is added as a reading adds it. -/
theorem addPiece_of_off {draft : Draft} (off : draft.mode = .off) (piece : Piece) :
    draft.addPiece writer piece = { draft with
      tree := draft.tree.withTemplate (extend writer draft.tree.template [piece]) } := by
  rw [addPiece, if_pos off]
  rfl

theorem addPiece_of_nil (draft : Draft) {piece : Piece} (nothing : piece.fragments writer = []) :
    draft.addPiece writer piece = draft.withTemplate { draft.template with
      dependencies := piece.dependency?.elim draft.template.dependencies
        (Text.addLine draft.template.dependencies)
      externalCode := piece.externalCode?.elim draft.template.externalCode
        (Text.addLine draft.template.externalCode) } := by
  simp only [addPiece, extend_single, nothing, List.append_nil, ite_self]

theorem addPiece_of_none (draft : Draft) {piece : Piece} (nothing : piece.fragments writer = [])
    (dependency : piece.dependency? = none) (externalCode : piece.externalCode? = none) :
    draft.addPiece writer piece = draft := by
  obtain ⟨cursor, state, pending, mode, tagStart, functionStart, template, included⟩ := draft
  rw [addPiece_of_nil _ nothing, dependency, externalCode]
  rfl

theorem addPiece_of_single (draft : Draft) {piece : Piece} {fragment : Fragment}
    (single : piece.fragments writer = [fragment]) (dependency : piece.dependency? = none)
    (externalCode : piece.externalCode? = none) :
    draft.addPiece writer piece = draft.append fragment := by
  simp only [addPiece, append, extend_single, single, dependency, externalCode,
    Option.elim_none]
  rfl

theorem atTag_literally (draft : Draft) (c : Char) (literal : List Char) :
    (draft.literally c).atTag writer literal = draft.atTag writer (c :: literal) := by
  simp only [atTag, literally, String.toList_push, List.append_assoc, List.cons_append,
    List.nil_append, Cursor.advanceBy_cons]
  rfl

/-- The collected text as a literal is what a literal piece stands for. -/
theorem flushLiteral_eq (draft : Draft) :
    draft.flushLiteral writer =
      draft.clear.addPiece writer (.literal draft.pending.toList) := by
  have same : String.ofList draft.pending.toList = draft.pending := String.ofList_toList
  by_cases dropped : draft.pending = "" ∨
      writer.skipsLineBreaks = true ∧ (draft.pending = "\n" ∨ draft.pending = "\r\n")
  · have nothing : (Piece.literal draft.pending.toList).fragments writer = [] := by
      simp only [Piece.fragments, same, if_pos dropped]
    rw [addPiece_of_none _ nothing rfl rfl]
    refine if_pos ?_
    simpa [isLineBreak] using dropped
  · have single : (Piece.literal draft.pending.toList).fragments writer =
        [⟨.literal, draft.pending, writer.literal draft.pending⟩] := by
      simp only [Piece.fragments, same, if_neg dropped]
    rw [addPiece_of_single _ single rfl rfl]
    refine if_neg ?_
    simpa [isLineBreak] using dropped

theorem step_literal {draft : Draft} (state : draft.state = .literal) {c : Char}
    (other : c ≠ '<') :
    draft.step writer ancestors c = .ok (draft.literally c, .none) := by
  simp only [step, state, readLiteral, if_neg other]
  rfl

theorem step_less {draft : Draft} (state : draft.state = .literal) :
    draft.step writer ancestors '<' =
      .ok ({ draft with cursor := draft.cursor.advance '<' }.goTo .lessThan, .none) := by
  simp only [step, state, readLiteral, ↓reduceIte]
  rfl

theorem step_tag (draft : Draft) :
    ({ draft with cursor := draft.cursor.advance '<' }.goTo .lessThan).step writer ancestors '%' =
      .ok (draft.atTag writer [], .none) := by
  simp only [step, goTo, ↓reduceIte, flushLiteral_eq]
  simp only [quietly, atTag, List.append_nil, List.nil_append, Cursor.advanceBy_cons,
    Cursor.advanceBy_nil]
  rfl

/-- A draft behind a `<` that no percent sign follows is one that has collected it. -/
theorem step_lessThan {draft : Draft} {c : Char} (other : c ≠ '%') :
    (draft.goTo .lessThan).step writer ancestors c =
      ((draft.push '<').goTo .literal).step writer ancestors c := by
  simp only [step, goTo, if_neg other]
  unfold readLiteral
  split_ifs <;> rfl

/-- Literal text without the start of a tag leads on in literal text. -/
theorem leadsTo_literally {draft : Draft} (state : draft.state = .literal) {c : Char}
    {text : List Char} (untagged : (['<', '%'] : List Char).isPrefixOf (c :: text) = false)
    (goesOn : c = '<' → text ≠ []) :
    LeadsTo writer ancestors draft (c :: text) (draft.literally c) text := by
  by_cases less : c = '<'
  · subst less
    cases text with
    | nil => exact absurd rfl (goesOn rfl)
    | cons d text =>
        refine .step (step_less state) (.of_same (step_lessThan ?_))
        rintro rfl
        cases untagged
  · exact .of_step (step_literal state less)

variable (writer ancestors) in
/-- **Literal text ends at the first tag.** -/
theorem leadsTo_atTag {draft : Draft} (state : draft.state = .literal)
    {text literal tag : List Char} (found : splitAt? ['<', '%'] text = some (literal, tag)) :
    LeadsTo writer ancestors draft text (draft.atTag writer literal) tag := by
  induction text generalizing draft literal with
  | nil => cases found
  | cons c text ih =>
      unfold splitAt? at found
      split_ifs at found with start
      · obtain ⟨behind, whole⟩ := List.isPrefixOf_iff_prefix.mp start
        rw [← whole, List.drop_left] at found
        cases found
        cases whole
        exact .step (step_less state) (.of_step (step_tag draft))
      · obtain ⟨later, within, same⟩ := Option.map_eq_some_iff.mp found
        cases same
        rw [← atTag_literally]
        refine (leadsTo_literally state (Bool.eq_false_iff.mpr start) ?_).trans (ih rfl within)
        rintro _ rfl
        cases within

theorem finish_lessThan (draft : Draft) :
    (draft.goTo .lessThan).finish writer = ((draft.push '<').goTo .literal).finish writer := by
  simp only [finish, goTo, ↓reduceIte]
  rfl

/-- A text that ends outside ends with the collected text as a literal, unless functions are
open. -/
theorem finish_literal {draft : Draft} (state : draft.state = .literal) :
    draft.finish writer =
      if draft.mode = .off then
        .ok (draft.addPiece writer (.literal draft.pending.toList)).tree
      else .error (.unterminatedFunction draft.functionStart) := by
  have notLess : draft.state ≠ .lessThan := by
    rw [state]
    decide
  rw [finish, if_neg notLess]
  simp only [state, State.family?, flushLiteral_eq]
  rfl

variable (writer ancestors) in
/-- **Literal text without a tag** goes on to the end of the text. -/
theorem leadsTo_of_untagged {draft : Draft} (state : draft.state = .literal) {text : List Char}
    (absent : splitAt? ['<', '%'] text = none) :
    ∃ last, LeadsTo writer ancestors draft text last [] ∧
      (last.state = .literal ∨ last.state = .lessThan) ∧ draft.Continues last ∧
      last.finish writer =
        if draft.mode = .off then
          .ok (draft.addPiece writer (.literal (draft.pending.toList ++ text))).tree
        else .error (.unterminatedFunction draft.functionStart) := by
  induction text generalizing draft with
  | nil => exact ⟨draft, .refl .., .inl state, rfl, by rw [finish_literal state, List.append_nil]⟩
  | cons c text ih =>
      unfold splitAt? at absent
      split_ifs at absent with start
      by_cases ends : c = '<' ∧ text = []
      · obtain ⟨rfl, rfl⟩ := ends
        refine ⟨_, .of_step (step_less state), .inr rfl, rfl, ?_⟩
        rw [finish_lessThan, finish_literal rfl]
        simp only [push_pending, goTo_pending, String.toList_push]
        rfl
      · obtain ⟨last, leads, ended, continues, finished⟩ :=
          ih (show (draft.literally c).state = .literal from rfl) (Option.map_eq_none_iff.mp absent)
        have goesOn : c = '<' → text ≠ [] := fun less nothing => ends ⟨less, nothing⟩
        refine ⟨last, (leadsTo_literally state (Bool.eq_false_iff.mpr start) goesOn).trans leads,
          ended, ?_, ?_⟩
        · exact Continues.trans (show draft.Continues (draft.literally c) from rfl) continues
        · rw [finished]
          simp only [literally, String.toList_push, List.append_assoc, List.cons_append,
            List.nil_append]
          rfl

end Draft

end TemplateCompiler
