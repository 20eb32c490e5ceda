import TemplateCompiler.Proofs.Manifest
import TemplateCompiler.Proofs.Markup.Agreement
import TemplateCompiler.Proofs.Markup.Escapes
import TemplateCompiler.Proofs.Markup.Splicing

/-! # Expressions that can be written

Escaping the close tags of an expression is undone by parsing: an expression is written in a
directive where its close tags can be escaped, and then it is the source of the only fragment
(`Compiler.parse_escaped`). No other expressions come out of a parse: what stands in a value or a
helper's argument, anywhere in a tree of includes, can be written
(`Compiler.isWritable_of_mem_fragments`).
-/

namespace TemplateCompiler

open Markup
open MonadAttach (CanReturn)

/-- The text with its close tags escaped. -/
def Text.escapeTags (text : String) : String := String.ofList (escape text.toList)

/-- The fragment stands for a value, perhaps one that is passed through a helper. -/
def Fragment.isExpression (fragment : Fragment) : Bool :=
  match fragment.kind with
  | .value | .transform _ => true
  | .literal | .code => false

namespace Markup

/-! ## One directive -/

/-- An escaped text between blanks is read back as the body of a directive. -/
theorem body?_between_blanks {text : List Char} (writable : IsWritable text) :
    body? ['%', '>'] (' ' :: (escape text ++ [' ', '%', '>'])) =
      some (units (' ' :: text ++ [' ']), []) := by
  have noTag : ' ' = '%' → text.head? ≠ some '>' := fun percent => absurd percent (by decide)
  have body : IsWritable (' ' :: text ++ [' ']) :=
    IsWritable.append_singleton ((isWritable_cons_iff (by decide) noTag).mpr writable) (by decide)
  have ended : ∀ front, ' ' :: text ++ [' '] ≠ front ++ ['\\'] := by
    intro front same
    exact absurd (List.append_singleton_inj.mp same).2 (by decide)
  have closed := body?_escape body ended []
  rw [escape_append_singleton _ (by decide), escape_cons noTag] at closed
  simpa using closed

/-- An escaped text between blanks is the body of the only directive of a text. -/
theorem read_escaped {markup : List Char} {region : Region}
    (opens : opening? (markup ++ [' ']) = some (.body region, [' '])) (other : region ≠ .comment)
    {text : List Char} (writable : IsWritable text) :
    read [] (['<', '%'] ++ (markup ++ ' ' :: (escape text ++ [' ', '%', '>']))) =
      ⟨[.literal [], .directive region (' ' :: text ++ [' ']), .literal []], .outside⟩ := by
  have mark : bodyMark region = ['%', '>'] := if_neg other
  have closed := body?_between_blanks writable
  obtain ⟨rest, written⟩ := searchBody_eq ['%', '>'] (' ' :: (escape text ++ [' ', '%', '>']))
  have tagged : splitAt? ['<', '%']
      (['<', '%'] ++ (markup ++ ' ' :: (escape text ++ [' ', '%', '>']))) =
        some ([], markup ++ ' ' :: (escape text ++ [' ', '%', '>'])) :=
    splitAt?_tag (show splitAt? ['<', '%'] [] = none from rfl) _
  have opened : opening? (markup ++ ' ' :: (escape text ++ [' ', '%', '>'])) =
      some (.body region, ' ' :: (escape text ++ [' ', '%', '>'])) := by
    have found := opening?_append (escape text ++ [' ', '%', '>']) opens
    rwa [List.append_assoc] at found
  have body := written _ closed
  rw [text_units] at body
  rw [closed, Option.map_some] at rest
  rw [read_of_closed tagged opened (by rw [mark]; exact rest), mark, body, read_of_untagged rfl]
  rfl

/-- Empty literals around a piece add nothing. -/
theorem extend_between_literals (writer : Writer) (template : Template) (piece : Piece) :
    extend writer template [.literal [], piece, .literal []] =
      extend writer template [piece] := by
  have nothing (template : Template) : extend writer template [.literal []] = template := by
    rw [extend_single]
    simp [Piece.fragments, Piece.dependency?, Piece.externalCode?]
  rw [show [Piece.literal [], piece, .literal []] = [.literal []] ++ [piece] ++ [.literal []]
    from rfl, extend_append, extend_append, nothing, nothing]

/-! ## Sections and their fragments -/

/-- The directive of a section has been read behind its markup. -/
theorem exists_starts_of_mem_sections {text : List Char} {s : Section}
    (member : s ∈ (sections text).1) : ∃ inner rest, s.directive.Starts inner rest := by
  induction text using sections_induction with
  | tail text none =>
      rw [sections_of_none none] at member
      cases member
  | behind text first rest found ih =>
      rw [sections_of_some found] at member
      rcases List.mem_cons.mp member with rfl | later
      · obtain ⟨tag, _, directive, _⟩ := section?_eq_some found
        obtain ⟨inner, _, starts⟩ := directive?_eq_some directive
        exact ⟨inner, rest, starts⟩
      · exact ih later

namespace History

/-- The directives of a history are those of the sections that it is behind. -/
theorem exists_section_of_mem_log {text : List Char} {entry : Entry}
    (member : entry ∈ (History.ofText text).log) {directive : Directive} {begins : Bool}
    (part : entry.part = .directive directive begins) :
    ∃ s ∈ (sections text).1, s.directive = directive := by
  have tagged (history : History) (literal : List Char)
      (inside : entry ∈ (history.tag literal).log) : entry ∈ history.log := by
    rcases List.mem_append.mp inside with before | last
    · exact before
    · rw [List.mem_singleton.mp last] at part
      cases part
  have behind (read : List Section) (history : History)
      (inside : entry ∈ (read.foldl next history).log) :
      entry ∈ history.log ∨ ∃ s ∈ read, s.directive = directive := by
    induction read generalizing history with
    | nil => exact .inl inside
    | cons s read ih =>
        rcases ih _ inside with before | ⟨later, listed, same⟩
        · rw [log_next, List.mem_append, List.mem_pair] at before
          rcases before with earlier | rfl | rfl
          · exact .inl earlier
          · cases part
          · cases part
            exact .inr ⟨s, List.mem_cons_self .., rfl⟩
        · exact .inr ⟨later, List.mem_cons_of_mem _ listed, same⟩
  have inside : entry ∈ (History.behind (sections text).1).log := by
    rw [ofText] at member
    unfold atTail at member
    split at member
    · exact member
    · split at member
      · exact tagged _ _ member
      · rw [log_enter] at member
        exact tagged _ _ member
  exact (behind _ start inside).resolve_left List.not_mem_nil

end History

/-- An expression of a part is the text of a body, trimmed. -/
theorem Part.source_of_isExpression {writer : Writer} {part : Part} {fragment : Fragment}
    (member : fragment ∈ part.fragments writer) (expression : fragment.isExpression = true) :
    ∃ region tokens begins, part = .directive (.body region tokens) begins ∧
      bodyMark region = ['%', '>'] ∧
      fragment.source = Text.trim (String.ofList (tokens.flatMap Token.text)) := by
  cases part with
  | literal text =>
      simp only [Part.fragments, Piece.fragments] at member
      split_ifs at member
      · cases member
      · rw [List.mem_singleton.mp member] at expression
        cases expression
  | directive directive begins =>
      cases directive with
      | name kind chars => cases member
      | inclusion path => cases member
      | body region tokens =>
          refine ⟨region, tokens, begins, rfl, ?_⟩
          cases region with
          | write | transform t =>
              rw [List.mem_singleton.mp member]
              exact ⟨rfl, rfl⟩
          | function =>
              rw [List.mem_singleton.mp member] at expression
              cases expression
          | block =>
              simp only [Part.fragments, Piece.fragments] at member
              split_ifs at member
              · cases member
              · rw [List.mem_singleton.mp member] at expression
                cases expression
          | dependency | engineName | externalCode | comment => cases member

/-- Expressions in the history of a text can be written. -/
theorem History.isWritable_of_mem_stream {writer : Writer} {text : List Char}
    {inFunctions : Bool} {fragment : Fragment}
    (member : fragment ∈ (History.ofText text).stream writer inFunctions)
    (expression : fragment.isExpression = true) : IsWritable fragment.source.toList := by
  obtain ⟨entry, kept, inside⟩ := List.mem_flatMap.mp member
  obtain ⟨region, tokens, begins, part, mark, source⟩ :=
    Part.source_of_isExpression inside expression
  obtain ⟨s, listed, directive⟩ := History.exists_section_of_mem_log (List.mem_filter.mp kept).1 part
  obtain ⟨inner, rest, starts⟩ := exists_starts_of_mem_sections listed
  rw [directive] at starts
  have closed : body? (bodyMark region) inner = some (tokens, rest) := starts
  rw [mark] at closed
  rw [source, Text.toList_trim, String.toList_ofList]
  exact (isWritable_of_body? closed).trim

end Markup

namespace Compiler

section Pure

variable {m : Type → Type} [Monad m]

/-- A text with a plain reading that ends outside is parsed to what its pieces add. -/
theorem parse_of_read (compiler : Compiler m) {source : String} (settings : Settings)
    {pieces : List Piece} (reads : Markup.read [] source.toList = ⟨pieces, .outside⟩)
    (plain : pieces.all Piece.isPlain = true) :
    compiler.parse source settings = pure (.ok ⟨extend compiler.emitter.writer
      (compiler.emitter.prepare (compiler.boundTemplate settings (compiler.ids 0))) pieces, []⟩) := by
  have readsPlain : (Markup.read [] source.toList).isPlain = true := by
    rw [reads, Reading.isPlain, plain]
    rfl
  rw [parse, parseWithin_eq, parseWith, newTemplate_eq]
  refine (Draft.run_eq_reading [] source.toList _ rfl rfl rfl rfl readsPlain).trans ?_
  rw [reads]
  rfl

omit [Monad m] in
/-- New templates have no fragments. -/
theorem fragments_prepared (compiler : Compiler m) (settings : Settings) :
    (compiler.emitter.prepare (compiler.boundTemplate settings (compiler.ids 0))).body = [] ∧
      (compiler.emitter.prepare (compiler.boundTemplate settings (compiler.ids 0))).functions =
        [] := by
  obtain ⟨_, _, same⟩ :=
    compiler.emitter.prepare_eq (compiler.boundTemplate settings (compiler.ids 0))
  have same : compiler.emitter.prepare (compiler.boundTemplate settings (compiler.ids 0)) = _ :=
    same
  rw [same]
  exact ⟨rfl, rfl⟩

/-- **An escaped expression is parsed back.** What its directive adds to a new template is what the
expression itself stands for. -/
theorem parse_escaped (compiler : Compiler m) (settings : Settings) (region : Region)
    (markup : List Char) (opener : region.family.opener.toList = ['<', '%'] ++ markup)
    (opens : opening? (markup ++ [' ']) = some (.body region, [' ']))
    (plain : isPlainRegion region = true) (noBlock : region ≠ .block) (noComment : region ≠ .comment)
    {e : String} (writable : IsWritable e.toList) :
    compiler.parse (region.family.opener ++ " " ++ Text.escapeTags e ++ " %>") settings =
      pure (.ok ⟨extend compiler.emitter.writer
        (compiler.emitter.prepare (compiler.boundTemplate settings (compiler.ids 0)))
        [.directive region (' ' :: e.toList ++ [' '])], []⟩) := by
  have source : (region.family.opener ++ " " ++ Text.escapeTags e ++ " %>").toList =
      ['<', '%'] ++ (markup ++ ' ' :: (escape e.toList ++ [' ', '%', '>'])) := by
    simp [opener, Text.escapeTags]
  have reads := read_escaped opens noComment writable
  rw [← source] at reads
  rw [compiler.parse_of_read settings reads (by simp [Piece.isPlain, plain, noBlock]),
    extend_between_literals]

end Pure

section Templates

variable {m : Type → Type} [Monad m] [MonadAttach m] {compiler : Compiler m}

mutual

/-- **Every template of a parsed tree** has been parsed from the text of a call. -/
theorem exists_parsed_of_manifests {tree : IncludeTree} {call : Call}
    (manifests : compiler.Manifests tree call)
    (returned : CanReturn (compiler.parseCall call) (.ok tree)) :
    ∀ template ∈ tree.templates, ∃ inner child,
      CanReturn (compiler.parseCall inner) (.ok child) ∧ child.template = template := by
  intro template member
  cases manifests with
  | intro _ listed =>
      rcases List.mem_cons.mp member with rfl | below
      · exact ⟨call, _, returned, rfl⟩
      · exact exists_parsed_of_manifestsAll listed template below

/-- The templates of inner trees have been parsed. -/
theorem exists_parsed_of_manifestsAll {included : List IncludeTree} {call : Call}
    {directives : List (String × Location)}
    (manifests : compiler.ManifestsAll included call directives) :
    ∀ template ∈ IncludeTree.forestTemplates included, ∃ inner child,
      CanReturn (compiler.parseCall inner) (.ok child) ∧ child.template = template := by
  intro template member
  cases manifests with
  | nil => cases member
  | cons _ parsed below behind =>
      rcases List.mem_append.mp member with first | later
      · exact exists_parsed_of_manifests below parsed template first
      · exact exists_parsed_of_manifestsAll behind template later

end

end Templates

variable {m : Type → Type} [Monad m] [LawfulMonad m] [MonadAttach m] [LawfulMonadAttach m]
  {compiler : Compiler m}

/-- **Expressions that come out of a parse can be written**, in every template of the tree. -/
theorem isWritable_of_mem_fragments {source : String} {settings : Settings} {tree : IncludeTree}
    (returned : CanReturn (compiler.parse source settings) (.ok tree)) {template : Template}
    (member : template ∈ tree.templates) {fragment : Fragment}
    (inside : fragment ∈ template.body ++ template.functions)
    (expression : fragment.isExpression = true) : IsWritable fragment.source.toList := by
  have manifests : compiler.Manifests tree ⟨0, [], settings, source⟩ :=
    manifests_of_parseCall returned
  obtain ⟨call, child, parsed, rfl⟩ := exists_parsed_of_manifests manifests returned template member
  rw [parseCall_eq] at parsed
  obtain ⟨_, _, body, functions⟩ := fragments_of_parseWith parsed
  rw [body, functions] at inside
  rcases List.mem_append.mp inside with inBody | inFunctions
  · rcases List.mem_append.mp inBody with inStream | inTail
    · exact History.isWritable_of_mem_stream inStream expression
    -- The literal at the end is no expression.
    · have inLiteral : fragment ∈ Part.fragments compiler.emitter.writer
          (.literal (sections call.source.toList).2) := inTail
      obtain ⟨_, _, _, part, _⟩ := Part.source_of_isExpression inLiteral expression
      cases part
  · exact History.isWritable_of_mem_stream inFunctions expression

/-- **Escaping can be undone on what can be written, and only that is ever read.** A trimmed
expression without a close tag behind an odd number of backslashes, escaped and written in a
directive, is the source of the only fragment that parsing returns, or the dependency that it adds.
The expressions of every template that parsing returns have no such close tag. -/
theorem escaping_of_parse (compiler : Compiler m) (settings : Settings) :
    (∀ e : String, Text.IsTrimmed Text.isBlank e.toList → IsWritable e.toList →
      let writer := compiler.emitter.writer
      let prepared := compiler.emitter.prepare (compiler.boundTemplate settings (compiler.ids 0))
      let parsed (region : Region) :=
        compiler.parse (region.family.opener ++ " " ++ Text.escapeTags e ++ " %>") settings
      parsed .write =
        pure (.ok ⟨{ prepared with body := [⟨.value, e, writer.value e⟩], functions := [] }, []⟩) ∧
      (∀ t, parsed (.transform t) =
        pure (.ok ⟨{ prepared with
          body := [⟨.transform t, e, writer.transform t e⟩], functions := [] }, []⟩)) ∧
      parsed .dependency = pure (.ok ⟨{ prepared with
        dependencies := Text.addLine prepared.dependencies e, body := [], functions := [] }, []⟩)) ∧
    ∀ source tree, CanReturn (compiler.parse source settings) (.ok tree) →
      ∀ template ∈ tree.templates, ∀ fragment ∈ template.body ++ template.functions,
        fragment.isExpression = true → IsWritable fragment.source.toList := by
  refine ⟨?_, fun source tree returned template member fragment inside expression =>
    isWritable_of_mem_fragments returned member inside expression⟩
  intro e trimmed writable writer prepared parsed
  obtain ⟨noBody, noFunctions⟩ := compiler.fragments_prepared settings
  have blank : ∀ c ∈ [' '], Text.isBlank c = true := List.forall_mem_singleton.mpr (by decide)
  have trims : Text.trim (String.ofList (' ' :: e.toList ++ [' '])) = e := by
    rw [← String.toList_inj, Text.toList_trim, String.toList_ofList]
    exact (Text.dropEnds_append_left blank).trans
      ((Text.dropEnds_append_right blank).trans (Text.dropEnds_of_isTrimmed trimmed))
  refine ⟨?_, fun t => ?_, ?_⟩
  · refine (compiler.parse_escaped settings .write ['='] (by decide)
      (by decide) rfl (by decide) (by decide) writable).trans ?_
    simp only [extend_single, Piece.fragments, Piece.dependency?, Piece.externalCode?, trims]
    simp [prepared, noBody, noFunctions, writer]
  · have opener : (Region.transform t).family.opener.toList =
        ['<', '%'] ++ (Region.transform t).family.opener.toList.drop 2 := by
      cases t <;> decide
    have opens : opening? ((Region.transform t).family.opener.toList.drop 2 ++ [' ']) =
        some (.body (.transform t), [' ']) := by
      cases t <;> decide
    refine (compiler.parse_escaped settings (.transform t) _ opener opens rfl (by simp) (by simp)
      writable).trans ?_
    simp only [extend_single, Piece.fragments, Piece.dependency?, Piece.externalCode?, trims]
    simp [prepared, noBody, noFunctions, writer]
  · refine (compiler.parse_escaped settings .dependency ['@'] (by decide)
      (by decide) rfl (by decide) (by decide) writable).trans ?_
    simp only [extend_single, Piece.fragments, Piece.dependency?, Piece.externalCode?, trims]
    simp [prepared, noBody, noFunctions]

/-- Two backslashes before a close tag: a third one escapes it. What a page and its include write is
as the theorem says. -/
theorem escaping_of_page :
    let compiler := Compiler.ofTexts .javaScript [("/item.blade", "<%$= c\\\\\\%>d %>")]
    let settings : Settings := ⟨"page.blade", "/", true, false⟩
    let prepared := compiler.emitter.prepare (compiler.boundTemplate settings (compiler.ids 0))
    compiler.parse "<%= a\\\\\\%>b %>" settings =
        .ok ⟨{ prepared with
          body := [⟨.value, "a\\\\%>b", compiler.emitter.value "a\\\\%>b"⟩], functions := [] }, []⟩ ∧
      compiler.parse "<%#= a\\\\\\%>b %>" settings =
        .ok ⟨{ prepared with
          body := [⟨.transform .htmlEncode, "a\\\\%>b",
            compiler.emitter.transform .htmlEncode "a\\\\%>b"⟩],
          functions := [] }, []⟩ ∧
      compiler.parse "<%@ a\\\\\\%>b %>" settings =
        .ok ⟨{ prepared with
          dependencies := prepared.dependencies ++ "\n" ++ "a\\\\%>b",
          body := [], functions := [] }, []⟩ ∧
      ∃ tree, CanReturn (compiler.parse "<%= a\\%>b %><%# 'item' %>" settings) (.ok tree) ∧
        (tree.templates.map fun template => template.body.map Fragment.source) =
          [["a%>b"], ["c\\\\%>d"]] ∧
        ∀ template ∈ tree.templates, ∀ fragment ∈ template.body,
          fragment.isExpression = true → IsWritable fragment.source.toList := by
  intro compiler settings prepared
  have writable : IsWritable "a\\\\%>b".toList :=
    (isWritable_cons_iff (by decide) (by decide)).mpr
      ((isWritable_escaped_iff (by decide)).mpr (isWritable_closeTag_iff.mpr
        ((isWritable_cons_iff (by decide) (by decide)).mpr isWritable_nil)))
  obtain ⟨escaped, read⟩ := compiler.escaping_of_parse settings
  obtain ⟨written, transformed, dependency⟩ := escaped "a\\\\%>b" (by decide) writable
  have parsed : (compiler.parse "<%= a\\%>b %><%# 'item' %>" settings).toOption.map
      (fun tree => tree.templates.map fun template => template.body.map Fragment.source) =
        some [["a%>b"], ["c\\\\%>d"]] := by
    decide +kernel
  obtain ⟨tree, result, listed⟩ := Option.map_eq_some_iff.mp parsed
  have returned := canReturn_of_toOption result
  exact ⟨written, transformed .htmlEncode, dependency, tree, returned, listed,
    fun template inTree fragment inBody =>
      read _ tree returned template inTree fragment (List.mem_append_left _ inBody)⟩

end Compiler

end TemplateCompiler
