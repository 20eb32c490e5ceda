import TemplateCompiler.Proofs.Markup.Closings
import TemplateCompiler.Proofs.Text.Cutting

/-! # Steps agree with the reading by search

Reading character by character adds to a template what the reading by search finds, or fails
where it ends in a directive (`Compiler.parse_eq_reading`), as long as the reading is plain.
Literal text is followed to the next tag (`Draft.run_of_splitAt?`), a directive from its
markup to its close tag (`Draft.run_of_directive`), and the induction is on the length of the
text behind it. Between directives nothing is collected, so nothing of one gets into the next.
-/

namespace TemplateCompiler

open Markup

namespace Draft

variable {writer : Writer} {ancestors : List Identity} {m : Type → Type} [Monad m]
  {compose : IncludeTree → String → Location → m (Except ParseError IncludeTree)}

/-- Literal text ends at the first tag. -/
theorem run_of_splitAt? (draft : Draft) (state : draft.state = .literal)
    {text literal tag : List Char} (found : splitAt? ['<', '%'] text = some (literal, tag)) :
    run writer ancestors compose draft text =
      run writer ancestors compose (draft.atTag writer literal) tag :=
  (leadsTo_atTag writer ancestors state found).run_eq

/-- Outside functions, the tag leaves the literal in the body. -/
theorem atTag_of_off {draft : Draft} (off : draft.mode = .off) (literal : List Char) :
    draft.atTag writer literal = { draft with
      cursor := draft.cursor.advanceBy (literal ++ ['<', '%'])
      state := .tagOpen
      pending := ""
      tagStart := (draft.cursor.advanceBy (literal ++ ['<', '%'])).location
      tree := draft.tree.withTemplate (extend writer draft.tree.template
        [.literal (draft.pending.toList ++ literal)]) } := by
  rw [atTag, addPiece_of_off off]

/-- Literal text without a tag goes on to the end. -/
theorem run_of_splitAt?_eq_none (draft : Draft) (state : draft.state = .literal)
    (off : draft.mode = .off) {text : List Char} (absent : splitAt? ['<', '%'] text = none) :
    run writer ancestors compose draft text = pure (.ok (draft.tree.withTemplate
      (extend writer draft.tree.template [.literal (draft.pending.toList ++ text)]))) := by
  obtain ⟨last, leads, _, _, finished⟩ :=
    leadsTo_of_untagged writer ancestors state absent
  rw [leads.run_eq, run, finished, if_pos off, addPiece_of_off off]

/-- Markup that is not complete leaves a tag open. -/
theorem run_of_incomplete {draft : Draft} (state : draft.state = .tagOpen) {tag : List Char}
    (incomplete : opening? tag = none) :
    run writer ancestors compose draft tag =
      pure (.error (.unterminatedTag .tag draft.tagStart)) := by
  obtain ⟨last, leads, inTag, continues⟩ :=
    leadsTo_of_incomplete writer ancestors state incomplete
  rw [leads.run_eq, run, finish_of_tag inTag, continues]

/-- A directive with a plain region is entered without more. -/
theorem enter_of_plain {draft : Draft} {region : Region} (plain : isPlainRegion region = true) :
    draft.enter (.body region) = draft.goTo (.scan region) := by
  refine congrArg (fun entered => goTo entered _) (if_neg ?_)
  rintro same
  cases same
  cases plain

/-- A directive that is not closed is left open, in its family. -/
theorem run_of_open_directive {draft : Draft} (state : draft.state = .tagOpen)
    {tag inner : List Char} {region : Region} (opens : opening? tag = some (.body region, inner))
    (unclosed : (searchBody (bodyMark region) inner).2 = none)
    (plain : isPlainRegion region = true) :
    run writer ancestors compose draft tag =
      pure (.error (.unterminatedTag region.family draft.tagStart)) := by
  rw [(searchBody_eq _ _).1, Option.map_eq_none_iff] at unclosed
  obtain ⟨last, leads, inside, continues⟩ :=
    leadsTo_of_unclosed writer ancestors state opens unclosed
  have other : region ≠ .function := by
    rintro rfl
    cases plain
  rw [leads.run_eq, run, finish_of_isIn inside, if_neg other, continues, enter_of_plain plain]
  rfl

variable (writer ancestors compose) in
/-- A directive that is closed adds its piece. -/
theorem run_of_directive {draft : Draft} (state : draft.state = .tagOpen)
    (empty : draft.pending = "") (off : draft.mode = .off)
    (behind : draft.cursor.behind.head? = some '%') {tag inner rest : List Char}
    {region : Region} (opens : opening? tag = some (.body region, inner))
    (closed : (searchBody (bodyMark region) inner).2 = some rest)
    (plain : (Piece.directive region (searchBody (bodyMark region) inner).1).isPlain = true) :
    ∃ read, tag = read ++ rest ∧
      run writer ancestors compose draft tag = run writer ancestors compose { draft with
        cursor := draft.cursor.advanceBy read
        state := .literal
        tree := draft.tree.withTemplate (extend writer draft.tree.template
          [.directive region (searchBody (bodyMark region) inner).1]) } rest := by
  rw [Piece.isPlain, Bool.and_eq_true] at plain
  obtain ⟨plain, tilde⟩ := plain
  obtain ⟨searched, written⟩ := searchBody_eq (bodyMark region) inner
  rw [searched] at closed
  obtain ⟨⟨tokens, behindMark⟩, found, same⟩ := Option.map_eq_some_iff.mp closed
  obtain rfl : behindMark = rest := same
  rw [written _ found] at tilde ⊢
  obtain ⟨markup, listed, marked⟩ := opening?_eq_some opens
  have absent : region = .block → '~' ∉ tokens.flatMap Token.text := by
    rintro rfl
    simpa using tilde
  have text : Markup.collected region tokens = tokens.flatMap Token.text := by
    by_cases block : region = .block
    · rw [Markup.collected, codeText_of_not_mem (absent block), ite_self]
    · refine if_neg fun code => block ?_
      cases region with
      | block => rfl
      | function => cases plain
      | _ => cases code
  have whole : tag = markup ++ tokens.flatMap Token.written ++ bodyMark region ++ behindMark := by
    rw [marked, body?_eq_some found]
    simp only [List.append_assoc]
  obtain ⟨last, leads, completes⟩ := leadsTo_of_closed writer ancestors state opens found whole
  refine ⟨_, whole, ?_⟩
  have noTilde : region = .block → (draft.atClose region (markup ++
      tokens.flatMap Token.written ++ bodyMark region) tokens).cursor.endedWith "~%>" = false := by
    rintro rfl
    exact (endedWith_eq_tildeCloses listed rfl behind).trans (tildeCloses_of_not_mem (absent rfl))
  rw [leads.run_eq, run, completes, complete_eq (tokens.flatMap Token.text) plain ?_ noTilde]
  · refine congrArg (fun after => run writer ancestors compose after behindMark) ?_
    have closeOff : (draft.atClose region (markup ++ tokens.flatMap Token.written ++
        bodyMark region) tokens).clear.mode = .off := by
      rw [atClose, enter_of_plain plain]
      exact off
    rw [addPiece_of_off closeOff, atClose, enter_of_plain plain, empty]
    rfl
  · intro _
    rw [atClose, text, enter_of_plain plain]
    simp [empty]

/-- **Steps agree with the reading by search**, from any place between directives. -/
theorem run_eq_reading (before text : List Char) (draft : Draft) (state : draft.state = .literal)
    (empty : draft.pending = "") (off : draft.mode = .off)
    (cursor : draft.cursor = Cursor.start.advanceBy before)
    (plain : (read before text).isPlain = true) :
    run writer ancestors compose draft text =
      pure (((read before text).outcome writer draft.tree.template).map
        draft.tree.withTemplate) := by
  -- On the length: the reading goes on behind a whole directive.
  induction length : text.length using Nat.strongRecOn generalizing before text draft with
  | ind size ih =>
      cases tagged : splitAt? ['<', '%'] text with
      | none =>
          rw [read_of_untagged tagged, run_of_splitAt?_eq_none draft state off tagged, empty]
          rfl
      | some found =>
          obtain ⟨literal, tag⟩ := found
          have opened : (draft.atTag writer literal).tagStart =
              locationBehind (before ++ literal ++ ['<']) := by
            rw [← location_advanceBy _ '%', atTag, cursor, ← Cursor.advanceBy_append]
            simp
          rw [run_of_splitAt? draft state tagged]
          cases opens : opening? tag with
          | none =>
              rw [read_of_incomplete tagged opens, run_of_incomplete rfl opens, opened]
              rfl
          | some found =>
              obtain ⟨opening, inner⟩ := found
              cases opening with
              | name kind =>
                  rw [read_of_other tagged opens (by simp)] at plain
                  cases plain
              | inclusion =>
                  rw [read_of_other tagged opens (by simp)] at plain
                  cases plain
              | body region =>
                  cases closed : (searchBody (bodyMark region) inner).2 with
                  | none =>
                      rw [read_of_unclosed tagged opens closed] at plain ⊢
                      rw [run_of_open_directive rfl opens closed plain, opened]
                      rfl
                  | some rest =>
                      rw [read_of_closed tagged opens closed] at plain ⊢
                      rw [isPlain_after, Bool.and_eq_true] at plain
                      have whole := splitAt?_eq_some tagged
                      have piece := List.all_eq_true.mp plain.1 _
                        (List.mem_cons_of_mem _ (List.mem_singleton.mpr rfl))
                      have percent : (draft.atTag writer literal).cursor.behind.head? =
                          some '%' := by
                        rw [atTag, Cursor.advanceBy_behind]
                        simp
                      have tagOff : (draft.atTag writer literal).mode = .off := off
                      obtain ⟨consumed, split, continued⟩ :=
                        run_of_directive writer ancestors compose rfl rfl tagOff percent opens
                          closed piece
                      have front : text.take (text.length - rest.length) =
                          literal ++ ['<', '%'] ++ consumed := by
                        rw [whole, split, ← List.append_assoc, List.take_left']
                        simp only [List.length_append]
                        omega
                      have shorter : rest.length < size := by
                        rw [← length, whole, split]
                        simp only [List.length_append, List.length_cons]
                        omega
                      rw [continued, outcome_after]
                      refine (ih rest.length shorter _ rest _ rfl ?_ ?_ ?_ plain.2 rfl).trans ?_
                      · rfl
                      · exact tagOff
                      · rw [front, atTag, cursor, ← Cursor.advanceBy_append,
                          ← Cursor.advanceBy_append, List.append_assoc]
                      · have both := extend_append writer draft.tree.template [.literal literal]
                          [.directive region (searchBody (bodyMark region) inner).1]
                        rw [List.singleton_append] at both
                        rw [both, atTag_of_off off, empty]
                        rfl

end Draft

namespace Compiler

variable {m : Type → Type} [Monad m]

/-- **Parsing agrees with the reading by search.** Where the reading of a text is plain and ends
outside, parsing returns a template with the fragments of the reading. Its dependencies are those
that the target prepares and then those of the reading, a line feed between each two that are not
empty, and so is its external code. Where the reading ends in a directive, parsing fails at the
opening of that directive. -/
theorem parse_eq_reading (compiler : Compiler m) (source : String) (settings : Settings)
    (plain : (Markup.read [] source.toList).isPlain = true) :
    let writer := compiler.emitter.writer
    let prepared := compiler.emitter.prepare (compiler.boundTemplate settings (compiler.ids 0))
    let reading := Markup.read [] source.toList
    (reading.ending = .outside →
      compiler.parse source settings = pure (.ok {
        template := { prepared with
          body := reading.pieces.flatMap (Piece.fragments writer)
          functions := []
          dependencies := Text.joinFilled
            (prepared.dependencies :: reading.pieces.filterMap Piece.dependency?)
          externalCode := Text.joinFilled
            (prepared.externalCode :: reading.pieces.filterMap Piece.externalCode?) }
        included := [] })) ∧
    ∀ region? opened, reading.ending = .inside region? opened →
      compiler.parse source settings =
        pure (.error (.unterminatedTag ((region?.map Region.family).getD .tag) opened)) := by
  intro writer prepared reading
  have parsed : compiler.parse source settings =
      pure ((reading.outcome writer prepared).map fun template => ⟨template, []⟩) := by
    have run : ∀ parse?, compiler.parseWith parse? 0 [] settings source =
        pure ((reading.outcome writer prepared).map fun template => ⟨template, []⟩) := by
      intro parse?
      rw [parseWith, newTemplate_eq]
      exact Draft.run_eq_reading [] source.toList _ rfl rfl rfl rfl plain
    unfold parse
    cases compiler.emitter.config.maxIncludeDepth with
    | zero => exact run none
    | succ depth => exact run _
  refine ⟨fun outside => ?_, fun region? opened inside => ?_⟩
  · have nothing : prepared.body = [] ∧ prepared.functions = [] := by
      obtain ⟨_, _, same⟩ :=
        compiler.emitter.prepare_eq (compiler.boundTemplate settings (compiler.ids 0))
      have same : prepared = _ := same
      rw [same]
      exact ⟨rfl, rfl⟩
    rw [parsed, Reading.outcome, outside]
    simp only [Except.map, extend, nothing.1, nothing.2, List.nil_append, Text.foldl_addLine]
  · rw [parsed, Reading.outcome, inside]
    rfl

/-- Tags that overlap with what stands around them, and dependencies and external code with blanks
and line ends around them or nothing in them. -/
theorem parse_eq_reading_overlaps :
    let compiler := Compiler.ofTexts .cSharp []
    let script := Compiler.ofTexts .javaScript []
    let imports := "<%@ import 'a'; %>x<%!\nlet n;\r\n%><%@ %><%@\n b\t%><%!\n%><%! k\\%> %>"
    let settings : Settings := ⟨"page.blade", "/site", true, false⟩
    (compiler.parse "a<<%%%><%*%>*\\*%>**%>%<%=x\\%%><%@ y%>" settings).toOption.map
        (fun tree => tree.template.body.map fun fragment => (fragment.kind, fragment.source)) =
      some [(.literal, "a<"), (.code, "%"), (.literal, "%"), (.value, "x\\%")] ∧
    (script.parse imports settings).toOption.map
        (fun tree => (tree.template.dependencies, tree.template.externalCode)) =
      some ("import './BladeTemplateJavascriptBase';\nimport 'a';\nb", "let n;\n k%> ") ∧
    compiler.parse "a\n<<%*%>" settings = .error (.unterminatedTag .comment ⟨2, 3⟩) := by
  intro compiler script imports settings
  have closed := compiler.parse_eq_reading "a<<%%%><%*%>*\\*%>**%>%<%=x\\%%><%@ y%>" settings
    (by decide +kernel)
  have added := script.parse_eq_reading imports settings (by decide +kernel)
  have unclosed := compiler.parse_eq_reading "a\n<<%*%>" settings (by decide +kernel)
  refine ⟨?_, ?_, unclosed.2 (some .comment) ⟨2, 3⟩ (by decide +kernel)⟩
  · rw [closed.1 (by decide +kernel)]
    decide +kernel
  · rw [added.1 (by decide +kernel)]
    decide +kernel

end Compiler

end TemplateCompiler
