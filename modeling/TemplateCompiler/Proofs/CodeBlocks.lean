import TemplateCompiler.Proofs.Markup.History

/-! # Code blocks

The text of a code block goes into its fragment unit by unit: an escaped close tag loses its
backslash, and the tilde of a close tag `~%>` is no part of the body. What is collected is that
text, except for tildes before a percent sign (`Markup.codeText_eq_iff`). Whether a block ends
functions is told by the character before its close tag, which can be a tilde that is part of
the body or of the markup (`Compiler.tilde_ends_functions`).
-/

namespace TemplateCompiler

namespace Markup

/-- The text that the body of a code block stands for, without the tilde of a close tag. -/
def bodyText (tokens : List Token) : List Char :=
  (if tokens.getLast? = some (.plain '~') then tokens.dropLast else tokens).flatMap Token.text

theorem bodyText_single (token : Token) :
    bodyText [token] = if token = .plain '~' then [] else token.text := by
  by_cases tilde : token = .plain '~' <;> simp [bodyText, tilde]

theorem bodyText_cons_cons (token second : Token) (rest : List Token) :
    bodyText (token :: second :: rest) = token.text ++ bodyText (second :: rest) := by
  unfold bodyText
  rw [List.getLast?_cons_cons]
  split_ifs <;> simp

/-- Nothing is collected that is not in the body. -/
theorem codeText_sublist (tokens : List Token) : (codeText tokens).Sublist (bodyText tokens) := by
  induction tokens with
  | nil => exact .refl _
  | cons token rest ih =>
      cases rest with
      | nil =>
          rw [bodyText_single]
          by_cases tilde : token = .plain '~' <;> simp [codeText, isSkipped, tilde]
      | cons second rest =>
          rw [bodyText_cons_cons, codeText]
          refine List.Sublist.append ?_ ih
          split_ifs
          · exact List.nil_sublist _
          · exact .refl _

/-- **All of the body is collected** unless a tilde that no backslash escapes stands before a
percent sign in it. -/
theorem codeText_eq_iff (tokens : List Token) :
    codeText tokens = bodyText tokens ↔ ¬ [Token.plain '~', .plain '%'] <:+: tokens := by
  induction tokens with
  | nil => simp [codeText, bodyText]
  | cons token rest ih =>
      cases rest with
      | nil =>
          have short : ¬ [Token.plain '~', .plain '%'] <:+: [token] := by
            intro within
            simpa using within.length_le
          have same : codeText [token] = bodyText [token] := by
            rw [bodyText_single]
            by_cases tilde : token = .plain '~' <;> simp [codeText, isSkipped, tilde]
          exact iff_of_true same short
      | cons second rest =>
          rw [List.infix_cons_iff, List.cons_prefix_cons, List.cons_prefix_cons,
            bodyText_cons_cons, codeText]
          -- A tilde that is lost cannot be made up for: what is collected behind it is no longer
          -- than what stands there.
          by_cases lost : token = .plain '~' ∧ second = .plain '%'
          · obtain ⟨rfl, rfl⟩ := lost
            have shorter := (codeText_sublist (.plain '%' :: rest)).length_le
            refine iff_of_false (fun same => ?_) (by simp)
            have lengths := congrArg List.length same
            simp only [isSkipped, Token.text, List.length_append, List.head?_cons, BEq.rfl,
              Bool.or_true, Bool.and_self, ↓reduceIte, List.length_nil, List.length_cons] at lengths
            omega
          · have kept : isSkipped token (second :: rest) = false := by
              refine Bool.eq_false_iff.mpr fun skipped => lost ?_
              simpa [isSkipped] using skipped
            rw [kept, if_neg Bool.false_ne_true, List.append_cancel_left_eq, ih, not_or]
            refine ⟨fun later => ⟨fun here => lost ⟨here.1.symm, here.2.1.symm⟩, later⟩, And.right⟩

/-- The tilde before a close tag is that of the body, of an escape, or of the markup. -/
theorem tildeCloses_iff (region : Region) (tokens : List Token) :
    tildeCloses region tokens = true ↔ tokens.getLast? = some (.plain '~') ∨
      tokens.getLast? = some (.escaped '~') ∨ (tokens = [] ∧ region = .function) := by
  unfold tildeCloses
  cases last : tokens.getLast? with
  | none => simp [List.getLast?_eq_none_iff.mp last]
  | some token =>
      have filled : tokens ≠ [] := by
        rintro rfl
        cases last
      cases token <;> simp [Token.endsInTilde, filled]

theorem suffix_codeText_of_escaped {tokens : List Token} {c : Char}
    (last : tokens.getLast? = some (.escaped c)) : ['\\', c] <:+ codeText tokens := by
  induction tokens with
  | nil => cases last
  | cons token rest ih =>
      cases rest with
      | nil =>
          cases last
          exact List.suffix_rfl
      | cons second rest =>
          rw [List.getLast?_cons_cons] at last
          exact (ih last).trans (List.suffix_append _ _)

/-- A directive with a code body. -/
def Directive.isCode (directive : Directive) : Bool := directive.region?.any Region.isCode

/-- A code block of a text. -/
structure CodeBlock where
  region : Region
  tokens : List Token
  /-- Functions begin with the block. -/
  begins : Bool
  inFunctions : Bool
deriving DecidableEq, Repr

/-- The code block of an entry. -/
def Entry.codeBlock? (entry : Entry) : Option CodeBlock :=
  match entry.part with
  | .directive (.body region tokens) begins =>
    if region.isCode then
      some ⟨region, tokens, begins && region == .function, entry.inFunctions⟩
    else none
  | _ => none

/-- The code blocks of a text, in document order. -/
def codeBlocks (text : List Char) : List CodeBlock :=
  (History.ofText text).log.filterMap Entry.codeBlock?

namespace CodeBlock

/-- The directive of the block. -/
def directive (block : CodeBlock) : Directive := .body block.region block.tokens

/-- The text that is collected of the block, behind a line break where functions begin. -/
def content (block : CodeBlock) : List Char :=
  (if block.begins then ['\n'] else []) ++ codeText block.tokens

/-- The fragment of the block. A raw block without text has none. -/
def fragment? (block : CodeBlock) : Option Fragment :=
  if block.region = .block ∧ block.content = [] then none
  else some ⟨.code, String.ofList block.content, String.ofList block.content⟩

end CodeBlock

/-- The code fragments of an entry are those of its code block. -/
theorem filter_fragments (writer : Writer) (entry : Entry) :
    (entry.part.fragments writer).filter (·.kind == .code) =
      (entry.codeBlock?.bind CodeBlock.fragment?).toList := by
  obtain ⟨inFunctions, part⟩ := entry
  cases part with
  | literal text =>
      simp only [Part.fragments, Piece.fragments, Entry.codeBlock?]
      split_ifs <;> rfl
  | directive directive begins =>
      cases directive with
      | name kind name => rfl
      | inclusion path => rfl
      | body region tokens =>
          cases region with
          | block =>
              have raw : (begins && Region.block == .function) = false := by simp
              by_cases empty : codeText tokens = [] <;>
                simp [Part.fragments, Piece.fragments, Entry.codeBlock?, CodeBlock.fragment?,
                  CodeBlock.content, collected, Region.isCode, raw, empty]
          | function =>
              have text : (if begins then "\n" else "") ++ String.ofList (codeText tokens) =
                  String.ofList ((if begins then ['\n'] else []) ++ codeText tokens) := by
                rw [← String.toList_inj]
                cases begins <;> simp
              simp [Part.fragments, Entry.codeBlock?, CodeBlock.fragment?, CodeBlock.content,
                Region.isCode, text]
          | _ => rfl

/-- The code fragments of a stream are those of the code blocks in it. -/
theorem filter_stream (history : History) (writer : Writer) (inFunctions : Bool) :
    (history.stream writer inFunctions).filter (·.kind == .code) =
      ((history.log.filterMap Entry.codeBlock?).filter
        (·.inFunctions == inFunctions)).filterMap CodeBlock.fragment? := by
  unfold History.stream
  induction history.log with
  | nil => rfl
  | cons entry log ih =>
      have flag : ∀ block ∈ entry.codeBlock?, block.inFunctions = entry.inFunctions := by
        intro block member
        unfold Entry.codeBlock? at member
        split at member
        · split_ifs at member <;> cases member
          rfl
        · cases member
      by_cases here : entry.inFunctions = inFunctions
      · rw [List.filter_cons_of_pos (by simpa using here), List.flatMap_cons, List.filter_append,
          filter_fragments, ih]
        cases code : entry.codeBlock? with
        | none => simp [code]
        | some block =>
            rw [List.filterMap_cons_some code, List.filter_cons_of_pos (by simp [flag, code, here])]
            cases fragment : block.fragment? <;> simp [fragment]
      · rw [List.filter_cons_of_neg (by simpa using here), ih]
        cases code : entry.codeBlock? with
        | none => simp [code]
        | some block =>
            rw [List.filterMap_cons_some code, List.filter_cons_of_neg (by simp [flag, code, here])]

theorem codeBlock?_literal (inFunctions : Bool) (text : List Char) :
    Entry.codeBlock? ⟨inFunctions, .literal text⟩ = none := rfl

theorem codeBlock?_directive (inFunctions begins : Bool) (directive : Directive) :
    (Entry.codeBlock? ⟨inFunctions, .directive directive begins⟩).map CodeBlock.directive =
      if directive.isCode then some directive else none := by
  cases directive with
  | body region tokens =>
      by_cases code : region.isCode = true <;>
        simp [Entry.codeBlock?, CodeBlock.directive, Directive.isCode, Directive.region?, code]
  | _ => rfl

theorem codeBlocks_next (history : History) (s : Section) :
    ((history.next s).log.filterMap Entry.codeBlock?).map CodeBlock.directive =
      (history.log.filterMap Entry.codeBlock?).map CodeBlock.directive ++
        if s.directive.isCode then [s.directive] else [] := by
  have added := codeBlock?_directive
    ((history.tag s.literal).enter s.directive.opening).functions?.isSome
    ((history.tag s.literal).begins s.directive.opening) s.directive
  rw [history.log_next s, List.filterMap_append, List.map_append,
    List.filterMap_cons_none (codeBlock?_literal _ _)]
  congr 1
  by_cases code : s.directive.isCode = true
  · rw [if_pos code, Option.map_eq_some_iff] at added
    obtain ⟨block, found, same⟩ := added
    rw [List.filterMap_cons_some found, if_pos code]
    simp [same]
  · rw [if_neg code, Option.map_eq_none_iff] at added
    rw [List.filterMap_cons_none added, if_neg code]
    rfl

/-- **Every code block of a text** is in its history, and nothing else. -/
theorem codeBlocks_sections (text : List Char) :
    (codeBlocks text).map CodeBlock.directive =
      ((sections text).1.map Section.directive).filter Directive.isCode := by
  have behind (sections : List Section) (history : History) :
      ((sections.foldl History.next history).log.filterMap Entry.codeBlock?).map
          CodeBlock.directive =
        (history.log.filterMap Entry.codeBlock?).map CodeBlock.directive ++
          (sections.map Section.directive).filter Directive.isCode := by
    induction sections generalizing history with
    | nil => simp
    | cons s sections ih =>
        rw [List.foldl_cons, ih, codeBlocks_next, List.map_cons, List.append_assoc]
        by_cases code : s.directive.isCode = true <;> simp [code]
  have tail (history : History) (rest : List Char) :
      (history.atTail rest).log.filterMap Entry.codeBlock? =
        history.log.filterMap Entry.codeBlock? := by
    have tagged (literal : List Char) : (history.tag literal).log.filterMap Entry.codeBlock? =
        history.log.filterMap Entry.codeBlock? := by
      simp [History.tag, History.note, Entry.codeBlock?]
    unfold History.atTail
    split
    · rfl
    · split
      · exact tagged _
      · rw [← tagged, History.enter]
        split_ifs <;> rfl
  unfold codeBlocks History.ofText
  rw [tail, History.behind, behind]
  rfl

/-- A code block is written as its markup, its tokens and the close tag. -/
theorem written_of_mem_sections {text : List Char} {s : Section} (member : s ∈ (sections text).1)
    {region : Region} {tokens : List Token} (directive : s.directive = .body region tokens)
    (code : region.isCode = true) :
    ∃ markup, (markup, .body region) ∈ openings ∧
      s.written = markup ++ tokens.flatMap Token.written ++ ['%', '>'] := by
  induction text using sections_induction with
  | tail text none =>
      rw [sections_of_none none] at member
      cases member
  | behind text first rest found ih =>
      rw [sections_of_some found] at member
      rcases List.mem_cons.mp member with rfl | later
      · obtain ⟨tag, _, opened, whole⟩ := section?_eq_some found
        obtain ⟨inner, opens, starts⟩ := directive?_eq_some opened
        rw [directive] at opens starts
        rw [← bodyMark_of_isCode code]
        exact written_eq opens starts whole
      · exact ih later

end Markup

open Markup
open MonadAttach (CanReturn)

namespace Draft

variable {writer : Writer} {ancestors : List Identity} {m : Type → Type} [Monad m] [LawfulMonad m]
  {compose : IncludeTree → String → Location → m (Except ParseError IncludeTree)}

variable (writer) in
/-- A code block is read as closed by `~%>` where a tilde stands before its close tag. -/
theorem endedWith_atClose (draft : Draft) (literal : List Char) (tokens : List Token)
    {markup : List Char} {region : Region} (listed : (markup, .body region) ∈ openings)
    (code : region.isCode = true) :
    ((draft.atTag writer literal).atClose region
      (markup ++ tokens.flatMap Token.written ++ ['%', '>']) tokens).cursor.endedWith "~%>" =
        tildeCloses region tokens := by
  have percent : (draft.atTag writer literal).cursor.behind.head? = some '%' := by
    simp [atTag, Cursor.advanceBy_behind]
  rw [← bodyMark_of_isCode code]
  exact endedWith_eq_tildeCloses listed code percent

variable (ancestors compose) in
/-- A raw block closed by `~%>` ends functions, and is an error where none are open. -/
theorem follow_block {draft : Draft} {s : Section} {tokens : List Token}
    (directive : s.directive = .body .block tokens)
    (ending : ((draft.atTag writer s.literal).atClose .block s.written tokens).cursor.endedWith
      "~%>" = tildeCloses .block tokens) :
    ∃ next, draft.follow writer ancestors compose s =
        (if tildeCloses .block tokens = true ∧ draft.mode = .off then
          throw (.functionCloseWithoutOpen (draft.atTag writer s.literal).tagStart)
        else pure next : ExceptT ParseError m Draft) ∧
      next.mode = if tildeCloses .block tokens = true then .off else draft.mode := by
  have performed : draft.perform writer ancestors s =
      (((draft.atTag writer s.literal).atClose .block s.written tokens).completeBlock >>=
        fun next => .ok (next, .none)) := by
    simp only [perform, directive]
    rfl
  have closing : ((draft.atTag writer s.literal).atClose .block s.written tokens).mode =
      draft.mode := rfl
  rw [completeBlock_eq writer, ending, closing] at performed
  by_cases fails : tildeCloses .block tokens = true ∧ draft.mode = .off
  · obtain ⟨closes, off⟩ := fails
    simp only [closes, off, ↓reduceIte] at performed
    refine ⟨{ draft with mode := .off }, ?_, by simp [closes]⟩
    rw [if_pos ⟨closes, off⟩]
    exact follow_of_error performed
  · cases closes : tildeCloses .block tokens with
    | false =>
        simp only [closes, Bool.false_eq_true, ↓reduceIte] at performed
        exact ⟨_, (follow_of_ok performed).trans (if_neg (by simp)).symm, rfl⟩
    | true =>
        have on : draft.mode ≠ .off := fun off => fails ⟨closes, off⟩
        simp only [closes, on, ↓reduceIte] at performed
        exact ⟨_, (follow_of_ok performed).trans (if_neg (by simp [on])).symm, rfl⟩

variable (ancestors compose) in
/-- A function block closed by `~%>` ends functions, as does one in functions that are to end. -/
theorem follow_function {draft : Draft} {s : Section} {tokens : List Token}
    (directive : s.directive = .body .function tokens)
    (ending : ((draft.atTag writer s.literal).atClose .function s.written tokens).cursor.endedWith
      "~%>" = tildeCloses .function tokens) :
    ∃ next, draft.follow writer ancestors compose s = (pure next : ExceptT ParseError m Draft) ∧
      next.mode = if tildeCloses .function tokens = true ∨ draft.mode = .ending then .off
        else .ending := by
  have performed : draft.perform writer ancestors s = .ok
      (((draft.atTag writer s.literal).atClose .function s.written tokens).completeFunction,
        .none) := by
    simp only [perform, directive]
    rfl
  refine ⟨_, follow_of_ok performed, ?_⟩
  have entered : ((draft.atTag writer s.literal).atClose .function s.written tokens).mode =
      if draft.mode = .off then .on else draft.mode :=
    openFunction_mode (draft.atTag writer s.literal)
  rw [completeFunction_eq, ending, entered]
  cases draft.mode <;> simp

end Draft

namespace Compiler

variable {m : Type → Type} [Monad m] [LawfulMonad m] [MonadAttach m] [LawfulMonadAttach m]

/-- **The code of a template.** The code fragments of a parsed template are those of the code
blocks of its text, in order, and a block stands in the text as its tokens are written. All of
its body is collected, behind a line break where functions begin with it, unless a tilde that no
backslash escapes stands before a percent sign in the body. -/
theorem code_of_parseWithin (compiler : Compiler m) (depth created : Nat)
    (ancestors : List Identity) (settings : Settings) (source : String) (tree : IncludeTree)
    (returned : CanReturn (compiler.parseWithin depth created ancestors settings source)
      (.ok tree)) :
    let blocks := codeBlocks source.toList
    let sections := (sections source.toList).1
    tree.template.body.filter (·.kind == .code) =
        (blocks.filter (!·.inFunctions)).filterMap CodeBlock.fragment? ∧
      tree.template.functions.filter (·.kind == .code) =
        (blocks.filter (·.inFunctions)).filterMap CodeBlock.fragment? ∧
      blocks.map CodeBlock.directive =
        (sections.map Section.directive).filter Directive.isCode ∧
      (∀ s ∈ sections, ∀ region tokens, s.directive = .body region tokens →
        region.isCode = true → ∃ markup, (markup, .body region) ∈ openings ∧
          s.written = markup ++ tokens.flatMap Token.written ++ ['%', '>']) ∧
      ∀ block ∈ blocks,
        let text := (if block.begins then ['\n'] else []) ++ bodyText block.tokens
        block.content.Sublist text ∧
          (block.content = text ↔ ¬ [Token.plain '~', .plain '%'] <:+: block.tokens) := by
  intro blocks sections
  rw [parseWithin_eq] at returned
  obtain ⟨_, _, body, functions⟩ := fragments_of_parseWith returned
  -- The literal at the end of the text is no code.
  have literal (text : List Char) : ((Piece.literal text).fragments
      compiler.emitter.writer).filter (·.kind == .code) = [] :=
    filter_fragments compiler.emitter.writer ⟨false, .literal text⟩
  refine ⟨?_, ?_, codeBlocks_sections _, ?_, ?_⟩
  · rw [body, List.filter_append, filter_stream, literal, List.append_nil]
    simp only [beq_false]
    rfl
  · rw [functions, filter_stream]
    simp only [beq_true]
    rfl
  · intro s member region tokens directive code
    exact written_of_mem_sections member directive code
  · intro block _ text
    refine ⟨(List.Sublist.refl _).append (codeText_sublist _), ?_⟩
    rw [CodeBlock.content, List.append_cancel_left_eq, codeText_eq_iff]

/-- A tilde that is lost, a close tag with a tilde of its own, and a block without text. -/
theorem code_of_parseWithin_page :
    let compiler := Compiler.ofTexts .cSharp []
    let settings : Settings := ⟨"page.blade", "/site", true, false⟩
    let source := "<% a ~% b %><%~\\%>~~%><%%>"
    ∃ tree, CanReturn (compiler.parseWithin 2 0 [] settings source) (.ok tree) ∧
      (tree.template.body.filter (·.kind == .code)).map Fragment.source = [" a % b "] ∧
      (tree.template.functions.filter (·.kind == .code)).map Fragment.source = ["\n%>~"] := by
  intro compiler settings source
  obtain ⟨tree, parsed⟩ := Option.isSome_iff_exists.mp (show (Except.toOption
    (compiler.parseWithin 2 0 [] settings source)).isSome = true by decide +kernel)
  obtain ⟨body, functions, _⟩ := code_of_parseWithin compiler 2 0 [] settings source tree
    (canReturn_of_toOption parsed)
  refine ⟨tree, canReturn_of_toOption parsed, ?_, ?_⟩
  · rw [body]
    decide +kernel
  · rw [functions]
    decide +kernel

variable (compiler : Compiler m) (depth created : Nat) (ancestors : List Identity)
  (settings : Settings)

/-- The drafts behind sections at the start of a template. -/
def passes (sections : List Section) : ExceptT ParseError m Draft :=
  sections.foldlM
    (Draft.follow compiler.emitter.writer ancestors
      (compiler.compose (compiler.below depth) created ancestors))
    (compiler.startDraft created settings)

variable {compiler depth created ancestors settings} in
/-- Behind sections, a draft stands behind their text and follows their history. -/
theorem follows_of_passes {sections : List Section} {draft : Draft}
    (returned : CanReturn (compiler.passes depth created ancestors settings sections) draft) :
    draft.IsBetween (History.behind sections).before ∧
      draft.Follows compiler.emitter.writer (.behind sections) :=
  Draft.follows_of_sections keepsFragments follows_startDraft isBetween_startDraft returned

/-- **Which code blocks end functions.** A parse reads up to a code block, follows it, and reads
on. A raw block ends functions where the character before its close tag is a tilde, and is an
error where none are open; a function block ends them there or where it is not the first one.
That tilde is the last character of the body, which is not collected, or the last one of the
escape `\~`, which is, or that of the markup `<%~` before an empty body. -/
theorem tilde_ends_functions (compiler : Compiler m) (depth created : Nat)
    (ancestors : List Identity) (settings : Settings) (source : String)
    (front back : List Section) (s : Section) (region : Region) (tokens : List Token)
    (split : (sections source.toList).1 = front ++ s :: back)
    (directive : s.directive = .body region tokens) (code : region.isCode = true) :
    let writer := compiler.emitter.writer
    let compose := compiler.compose (compiler.below depth) created ancestors
    let follow := Draft.follow writer ancestors compose
    let passes := compiler.passes depth created ancestors settings front
    let opened := locationBehind (front.flatMap Section.text ++ s.literal ++ ['<'])
    let closes := tildeCloses region tokens
    compiler.parseWithin depth created ancestors settings source =
        (passes >>= fun draft => follow draft s >>= fun next =>
          back.foldlM follow next >>= fun last =>
            Draft.reads writer ancestors compose last (sections source.toList).2 >>= fun read =>
              ofExcept (read.finish writer) : ExceptT ParseError m IncludeTree).run ∧
      (∀ draft, CanReturn passes draft →
        draft.mode = (History.behind front).mode ∧
        ∃ next,
          (region = .block →
            follow draft s = (if closes = true ∧ draft.mode = .off then
              throw (.functionCloseWithoutOpen opened) else pure next) ∧
            next.mode = if closes = true then .off else draft.mode) ∧
          (region = .function → follow draft s = pure next ∧
            next.mode = if closes = true ∨ draft.mode = .ending then .off else .ending)) ∧
      (closes = true ↔ tokens.getLast? = some (.plain '~') ∨
        tokens.getLast? = some (.escaped '~') ∨ (tokens = [] ∧ region = .function)) ∧
      (tokens.getLast? = some (.plain '~') →
        (codeText tokens).Sublist (tokens.dropLast.flatMap Token.text)) ∧
      (tokens.getLast? = some (.escaped '~') → ['\\', '~'] <:+ codeText tokens) := by
  intro writer compose follow passes opened closes
  refine ⟨?_, ?_, tildeCloses_iff region tokens, ?_, suffix_codeText_of_escaped⟩
  · rw [parseWithin_eq, parseWith_eq_reads, Compiler.reads,
      Draft.reads_sections isBetween_startDraft, split, List.foldlM_append]
    simp only [List.foldlM_cons, bind_assoc]
    rfl
  · intro draft passed
    obtain ⟨between, follows⟩ := follows_of_passes passed
    obtain ⟨_, located⟩ := follows.atTag between s.literal
    have place : (draft.atTag writer s.literal).tagStart = opened := by
      rw [located, History.tag, History.before_behind]
    obtain ⟨markup, listed, written⟩ := written_of_mem_sections
      (split ▸ List.mem_append_right front List.mem_cons_self) directive code
    have ending := Draft.endedWith_atClose writer draft s.literal tokens listed code
    rw [← written] at ending
    refine ⟨follows.mode, ?_⟩
    cases region with
    | block =>
        obtain ⟨next, followed, mode⟩ := Draft.follow_block ancestors compose directive ending
        rw [place] at followed
        exact ⟨next, fun _ => ⟨followed, mode⟩, by simp⟩
    | function =>
        obtain ⟨next, followed, mode⟩ := Draft.follow_function ancestors compose directive ending
        exact ⟨next, by simp, fun _ => ⟨followed, mode⟩⟩
    | _ => cases code
  · intro last
    have collected := codeText_sublist tokens
    rwa [bodyText, if_pos last] at collected

/-- A raw block that ends in an escaped tilde fails outside functions, and the tilde of a function
block without text ends functions. -/
theorem tilde_ends_functions_page :
    let compiler := Compiler.ofTexts .cSharp []
    let settings : Settings := ⟨"page.blade", "/site", true, false⟩
    let start := compiler.startDraft 0 settings
    let escape : List Token := [.plain ' ', .plain 'a', .escaped '~']
    let raw : Section := ⟨[], [' ', 'a', '\\', '~', '%', '>'], .body .block escape⟩
    let empty : Section := ⟨['b'], ['~', '%', '>'], .body .function []⟩
    (sections "<% a\\~%>".toList).1 = [raw] ∧
      compiler.parseWithin 2 0 [] settings "<% a\\~%>" =
        .error (.functionCloseWithoutOpen ⟨1, 2⟩) ∧
      codeText escape = [' ', 'a', '\\', '~'] ∧
      (sections "b<%~%>".toList).1 = [empty] ∧
      ∃ next, Draft.follow compiler.emitter.writer [] (compiler.compose (compiler.below 2) 0 [])
          start empty = Except.ok next ∧ next.mode = .off := by
  intro compiler settings start escape raw empty
  have rawSections : (sections "<% a\\~%>".toList).1 = [] ++ raw :: [] := by decide +kernel
  have emptySections : (sections "b<%~%>".toList).1 = [] ++ empty :: [] := by decide +kernel
  have started : CanReturn (compiler.passes 2 0 [] settings []) start :=
    show compiler.passes 2 0 [] settings [] = Except.ok start from rfl
  have off : start.mode = .off := rfl
  obtain ⟨parsed, blocks, closes, _⟩ := tilde_ends_functions compiler 2 0 [] settings
    "<% a\\~%>" [] [] raw .block escape rawSections rfl rfl
  obtain ⟨_, functions, emptyCloses, _⟩ := tilde_ends_functions compiler 2 0 [] settings
    "b<%~%>" [] [] empty .function [] emptySections rfl rfl
  refine ⟨rawSections, ?_, by decide, emptySections, ?_⟩
  · obtain ⟨_, next, block, _⟩ := blocks start started
    have failed := (block rfl).1
    rw [if_pos ⟨closes.mpr (.inr (.inl rfl)), off⟩] at failed
    rw [show compiler.passes 2 0 [] settings [] = pure start from rfl, pure_bind, failed] at parsed
    exact parsed
  · obtain ⟨_, next, _, function⟩ := functions start started
    obtain ⟨followed, mode⟩ := function rfl
    rw [if_pos (.inl (emptyCloses.mpr (.inr (.inr ⟨rfl, rfl⟩))))] at mode
    exact ⟨next, followed, mode⟩

end Compiler

end TemplateCompiler
