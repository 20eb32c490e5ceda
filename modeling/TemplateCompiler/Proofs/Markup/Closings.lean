import TemplateCompiler.Proofs.Markup.Literals
import TemplateCompiler.Proofs.Markup.Openings

/-! # What a closed directive leaves

A directive with a plain region adds its piece (`Draft.complete_eq`). Only code blocks look at the
text that closes them: one that ends in `~%>` ends the functions.
-/

namespace TemplateCompiler

open Markup

namespace Draft

variable {writer : Writer} {ancestors : List Identity}

variable (writer) in
/-- A raw block adds its text, unless it is empty, and ends functions where `~%>` closes it. -/
theorem completeBlock_eq (draft : Draft) :
    draft.completeBlock =
      let closed := draft.clear.addPiece writer (.directive .block draft.pending.toList)
      if draft.cursor.endedWith "~%>" then
        if draft.mode = .off then .error (.functionCloseWithoutOpen draft.tagStart)
        else .ok closed.endFunctions
      else .ok closed := by
  have same : String.ofList draft.pending.toList = draft.pending := String.ofList_toList
  by_cases empty : draft.pending = ""
  · have nothing : (Piece.directive .block draft.pending.toList).fragments writer = [] := by
      rw [empty]
      rfl
    have blank : draft.pending.isEmpty = true := String.isEmpty_iff.mpr empty
    simp only [completeBlock, addPiece_of_none _ nothing rfl rfl, blank, ↓reduceIte]
    rfl
  · have filled : draft.pending.toList ≠ [] := by simpa using empty
    have single : (Piece.directive .block draft.pending.toList).fragments writer =
        [⟨.code, draft.pending, draft.pending⟩] := by
      rw [Piece.fragments, if_neg filled, same]
    have nonblank : draft.pending.isEmpty = false := by simpa using empty
    simp only [completeBlock, addPiece_of_single _ single rfl rfl, nonblank, Bool.false_eq_true,
      ↓reduceIte]
    rfl

/-- A function block adds its text, and ends functions where `~%>` closes it or it is not the
first one. -/
theorem completeFunction_eq (draft : Draft) :
    draft.completeFunction = { draft.clear.append ⟨.code, draft.pending, draft.pending⟩ with
      mode := if draft.cursor.endedWith "~%>" = true ∨ draft.mode = .ending then .off
        else .ending } := by
  unfold completeFunction
  by_cases ends : draft.cursor.endedWith "~%>" = true ∨ draft.mode = .ending
  · rw [if_pos ends]
    exact if_pos ends
  · rw [if_neg ends]
    exact if_neg ends

/-- A plain body that is closed adds its piece. -/
theorem complete_eq {draft : Draft} {region : Region} (body : List Char)
    (plain : isPlainRegion region = true)
    (collected : region ≠ .comment → draft.pending.toList = body)
    (noTilde : region = .block → draft.cursor.endedWith "~%>" = false) :
    draft.complete writer ancestors region =
      .ok (draft.clear.addPiece writer (.directive region body), .none) := by
  have text : region ≠ .comment → draft.pending = String.ofList body := by
    intro other
    rw [← collected other, String.ofList_toList]
  cases region with
  | function => cases plain
  | engineName => cases plain
  | comment =>
      rw [addPiece_of_none _ rfl rfl rfl]
      rfl
  | dependency =>
      rw [complete, text (by decide), addPiece_of_nil _ rfl]
      simp only [Piece.dependency?, Piece.externalCode?, Option.elim_some, Option.elim_none]
      rfl
  | externalCode =>
      rw [complete, text (by decide), addPiece_of_nil _ rfl]
      simp only [Piece.dependency?, Piece.externalCode?, Option.elim_some, Option.elim_none]
      rfl
  | write =>
      rw [complete, addPiece_of_single _ rfl rfl rfl, text (by decide)]
  | transform transform =>
      rw [complete, addPiece_of_single _ rfl rfl rfl, text (by simp)]
  | block =>
      rw [complete, completeBlock_eq writer, noTilde rfl, collected (by decide)]
      rfl

/-- The draft at the close tag of a directive, with the text collected for it. -/
def atClose (draft : Draft) (region : Region) (written : List Char) (tokens : List Token) :
    Draft :=
  let entered := draft.enter (.body region)
  { entered with
    cursor := draft.cursor.advanceBy written
    state := .literal
    pending := entered.pending ++ String.ofList (Markup.collected region tokens) }

variable (writer ancestors) in
/-- **A directive with a body that ends** leads to its close tag, which completes it. -/
theorem leadsTo_of_closed {draft : Draft} (state : draft.state = .tagOpen)
    {tag inner written rest : List Char} {region : Region} {tokens : List Token}
    (opens : opening? tag = some (.body region, inner))
    (closed : body? (bodyMark region) inner = some (tokens, rest)) (whole : tag = written ++ rest) :
    ∃ last, LeadsTo writer ancestors draft tag last ('>' :: rest) ∧
      last.step writer ancestors '>' =
        (draft.atClose region written tokens).complete writer ancestors region := by
  obtain ⟨markup, _, marked, entered⟩ := leadsTo_of_opening writer ancestors state opens
  have inScan : ({ draft with
      cursor := draft.cursor.advanceBy markup }.enter (.body region)).state = .scan region := rfl
  have collects := collects_scan inScan inner
  rw [gather, closed] at collects
  obtain ⟨raw, last, split, leads, closing, content, cursor, continues⟩ :=
    collects.leadsTo writer ancestors
  have written : written = markup ++ raw ++ ['>'] :=
    (List.append_left_inj rest).mp (by rw [← whole, marked, split]; simp)
  refine ⟨last, entered.trans leads, ?_⟩
  rw [enter_at] at content cursor continues
  simp only [step, closing, ↓reduceIte]
  rw [continues, cursor]
  by_cases comment : region = .comment
  · subst comment
    simp only [complete, atClose, written, Cursor.advanceBy_append]
    rfl
  · have text : last.pending = (draft.enter (.body region)).pending ++
        String.ofList (Markup.collected region tokens) := by
      rw [← String.toList_inj, content comment, if_neg comment]
      simp
    simp only [text, atClose, written, Cursor.advanceBy_append]
    rfl

variable (writer ancestors) in
/-- **A directive with a body that does not end** leads to a state in the body. -/
theorem leadsTo_of_unclosed {draft : Draft} (state : draft.state = .tagOpen)
    {tag inner : List Char} {region : Region} (opens : opening? tag = some (.body region, inner))
    (unclosed : body? (bodyMark region) inner = none) :
    ∃ last, LeadsTo writer ancestors draft tag last [] ∧ last.state.IsIn region ∧
      (draft.enter (.body region)).Continues last := by
  obtain ⟨markup, _, whole, entered⟩ := leadsTo_of_opening writer ancestors state opens
  have inScan : ({ draft with
      cursor := draft.cursor.advanceBy markup }.enter (.body region)).state = .scan region := rfl
  have collects := collects_scan inScan inner
  rw [gather, unclosed] at collects
  obtain ⟨last, leads, inside, continues⟩ :=
    collects.leadsTo_end writer ancestors
  refine ⟨last, entered.trans leads, inside, Continues.trans ?_ continues⟩
  rw [enter_at draft (draft.cursor.advanceBy markup)]
  rfl

end Draft

end TemplateCompiler
