import TemplateCompiler.Proofs.Markup.Reading

/-! # Units of a directive body

The body of a directive is a list of `Token`s up to the first mark that no backslash escapes
(`body?`): an escaped close tag, any other escape, or a single character. What the search for
the mark writes for a body is the text of its tokens (`searchBody_eq`). In code, a tilde
before a percent sign or at the end is not collected (`collected`).
-/

namespace TemplateCompiler.Markup

/-- A unit of a directive body. -/
inductive Token where
  | plain (c : Char)
  /-- A backslash with the character behind it. -/
  | escaped (c : Char)
  /-- The close tag with a backslash before it. -/
  | escapedClose
deriving DecidableEq, Repr

namespace Token

/-- The token as it stands in a template. -/
def written : Token → List Char
  | plain c => [c]
  | escaped c => ['\\', c]
  | escapedClose => ['\\', '%', '>']

/-- What the token stands for: an escaped close tag loses its backslash. -/
def text : Token → List Char
  | plain c => [c]
  | escaped c => ['\\', c]
  | escapedClose => ['%', '>']

end Token

/-- A body with a token before it. -/
def withToken (token : Token) (found : List Token × List Char) : List Token × List Char :=
  (token :: found.1, found.2)

/-- The tokens before the first mark that is not escaped, and the text behind the mark. -/
def body? (mark : List Char) : List Char → Option (List Token × List Char)
  | [] => none
  | '\\' :: '%' :: '>' :: rest => (body? mark rest).map (withToken .escapedClose)
  | '\\' :: c :: rest => (body? mark rest).map (withToken (.escaped c))
  | c :: rest =>
    if mark.isPrefixOf (c :: rest) then some ([], (c :: rest).drop mark.length)
    else (body? mark rest).map (withToken (.plain c))

/-- A body stands before its mark as its tokens are written. -/
theorem body?_eq_some {mark text rest : List Char} {tokens : List Token}
    (found : body? mark text = some (tokens, rest)) :
    text = tokens.flatMap Token.written ++ mark ++ rest := by
  fun_induction body? mark text generalizing tokens with
  | case1 => cases found
  | case2 more ih =>
      obtain ⟨⟨inner, _⟩, within, same⟩ := Option.map_eq_some_iff.mp found
      cases same
      rw [ih within]
      rfl
  | case3 c more _ ih =>
      obtain ⟨⟨inner, _⟩, within, same⟩ := Option.map_eq_some_iff.mp found
      cases same
      rw [ih within]
      rfl
  | case4 c more _ _ start =>
      obtain ⟨behind, whole⟩ := List.isPrefixOf_iff_prefix.mp start
      rw [← whole, List.drop_left] at found
      cases found
      exact whole.symm
  | case5 c more _ _ _ ih =>
      obtain ⟨⟨inner, _⟩, within, same⟩ := Option.map_eq_some_iff.mp found
      cases same
      rw [ih within]
      rfl

section Equations

variable (mark : List Char) {c : Char}

theorem body?_escapedClose (rest : List Char) :
    body? mark ('\\' :: '%' :: '>' :: rest) =
      (body? mark rest).map (withToken .escapedClose) := by
  rw [body?]

theorem body?_escaped (rest : List Char) (other : ¬ (c = '%' ∧ rest.head? = some '>')) :
    body? mark ('\\' :: c :: rest) = (body? mark rest).map (withToken (.escaped c)) := by
  rw [body?]
  rintro more rfl rfl
  exact other ⟨rfl, rfl⟩

theorem body?_plain (rest : List Char) (plain : c ≠ '\\')
    (other : mark.isPrefixOf (c :: rest) = false) :
    body? mark (c :: rest) = (body? mark rest).map (withToken (.plain c)) := by
  rw [body?, if_neg (by simp [other])]
  · exact fun _ same => absurd same plain
  · exact fun _ _ same => absurd same plain

end Equations

/-- The search for a mark ends where the tokens do, and writes their text. -/
theorem searchBody_eq (mark text : List Char) :
    (searchBody mark text).2 = (body? mark text).map Prod.snd ∧
      ∀ found ∈ body? mark text, (searchBody mark text).1 = found.1.flatMap Token.text := by
  fun_induction body? mark text with
  | case1 => simp [searchBody]
  | case2 more ih =>
      rw [searchBody]
      cases within : body? mark more <;> simp_all [put, withToken, Token.text]
  | case3 c more other ih =>
      have found : searchBody mark ('\\' :: c :: more) = put ['\\', c] (searchBody mark more) := by
        by_cases percent : c = '%'
        · subst percent
          rw [searchBody]
          exact fun _ same => other _ rfl same
        · exact searchBody_escape mark percent more
      rw [found]
      cases within : body? mark more <;> simp_all [put, withToken, Token.text]
  | case4 c more noClose noEscape start =>
      rw [searchBody, if_pos start]
      · simp
      · exact noClose
      · exact fun rest => noEscape '%' rest
      · exact noEscape
  | case5 c more noClose noEscape other ih =>
      have found : searchBody mark (c :: more) = put [c] (searchBody mark more) := by
        rw [searchBody, if_neg other]
        · exact noClose
        · exact fun rest => noEscape '%' rest
        · exact noEscape
      rw [found]
      cases within : body? mark more <;> simp_all [put, withToken, Token.text]

/-- A directive with a body that ends is its markup, its tokens and the mark. -/
theorem written_eq {tag written inner rest : List Char} {region : Region} {tokens : List Token}
    (opens : opening? tag = some (.body region, inner))
    (closed : body? (bodyMark region) inner = some (tokens, rest)) (whole : tag = written ++ rest) :
    ∃ markup, (markup, .body region) ∈ openings ∧
      written = markup ++ tokens.flatMap Token.written ++ bodyMark region := by
  obtain ⟨markup, listed, split⟩ := opening?_eq_some opens
  refine ⟨markup, listed, (List.append_left_inj rest).mp ?_⟩
  rw [← whole, split, body?_eq_some closed, List.append_assoc, List.append_assoc,
    List.append_assoc]

/-! ## What is collected of a body -/

/-- A tilde of code that is not collected: it stands at the end of the body, where it belongs to
the close tag, or before a percent sign. -/
def isSkipped (token : Token) (rest : List Token) : Bool :=
  token == .plain '~' && (rest.isEmpty || rest.head? == some (.plain '%'))

/-- The text that is collected of a code body. -/
def codeText : List Token → List Char
  | [] => []
  | token :: rest => (if isSkipped token rest then [] else token.text) ++ codeText rest

/-- The text that is collected of a body. -/
def collected (region : Region) (tokens : List Token) : List Char :=
  if region.isCode then codeText tokens else tokens.flatMap Token.text

/-! ## Close tags with a tilde -/

/-- A tilde, or the escape of one. -/
def Token.endsInTilde : Token → Bool
  | plain c | escaped c => c == '~'
  | escapedClose => false

/-- Whether a tilde stands before the close tag of a code block: the last one of its body, or
that of its markup where the body is empty. -/
def tildeCloses (region : Region) (tokens : List Token) : Bool :=
  match tokens.getLast? with
  | some token => token.endsInTilde
  | none => region == .function

theorem bodyMark_of_isCode {region : Region} (code : region.isCode = true) :
    bodyMark region = ['%', '>'] := by
  refine if_neg ?_
  rintro rfl
  cases code

/-- Function blocks open with a tilde, raw blocks without one. -/
theorem markup_of_code {markup : List Char} {region : Region}
    (listed : (markup, .body region) ∈ openings) (code : region.isCode = true) :
    if region = .function then markup = ['~'] else '~' ∉ markup := by
  have functions : ∀ entry ∈ openings, entry.2 = .body .function → entry.1 = ['~'] := by decide
  cases region with
  | function => exact functions _ listed rfl
  | block => exact tilde_not_mem_of_block listed
  | _ => cases code

/-- The character before the close tag of a code block is a tilde or not. -/
theorem head?_eq_tilde {markup : List Char} {region : Region} {tokens : List Token}
    (listed : (markup, .body region) ∈ openings) (code : region.isCode = true)
    {before : List Char} (percent : before.head? = some '%') :
    (((markup ++ tokens.flatMap Token.written).reverse ++ before).head? == some '~') =
      tildeCloses region tokens := by
  cases tokens using List.reverseRecOn with
  | nil =>
      have opened := markup_of_code listed code
      by_cases function : region = .function
      · rw [if_pos function] at opened
        simp [opened, function, tildeCloses]
      · rw [if_neg function] at opened
        have other : tildeCloses region [] = false := by simp [tildeCloses, function]
        rw [List.flatMap_nil, List.append_nil, List.head?_append, percent, other]
        cases last : markup.reverse.head? with
        | none => rfl
        | some c =>
            have member : c ∈ markup := List.mem_reverse.mp (List.mem_of_mem_head? last)
            have notTilde : c ≠ '~' := by
              rintro rfl
              exact opened member
            simpa using notTilde
  | append_singleton front last =>
      cases last <;> simp [tildeCloses, Token.endsInTilde, Token.written]

/-- A code block is closed by `~%>` where a tilde stands before its close tag. -/
theorem endedWith_eq_tildeCloses {cursor : Cursor} {markup : List Char} {region : Region}
    {tokens : List Token} (listed : (markup, .body region) ∈ openings)
    (code : region.isCode = true) (percent : cursor.behind.head? = some '%') :
    (cursor.advanceBy (markup ++ tokens.flatMap Token.written ++ bodyMark region)).endedWith
      "~%>" = tildeCloses region tokens := by
  have ending : "~%>".toList.reverse = ['>', '%', '~'] := rfl
  rw [← head?_eq_tilde listed code percent, Cursor.endedWith, Cursor.advanceBy_behind,
    bodyMark_of_isCode code, ending]
  have read : (markup ++ tokens.flatMap Token.written ++ ['%', '>']).reverse ++ cursor.behind =
      '>' :: '%' :: ((markup ++ tokens.flatMap Token.written).reverse ++ cursor.behind) := by
    simp
  rw [read]
  cases (markup ++ tokens.flatMap Token.written).reverse ++ cursor.behind with
  | nil => rfl
  | cons c rest => simp [List.isPrefixOf, Bool.beq_comm]

theorem Token.tilde_mem_text {token : Token} (ends : token.endsInTilde = true) :
    '~' ∈ token.text := by
  cases token <;> simp_all [endsInTilde, text]

theorem tildeCloses_of_not_mem {tokens : List Token}
    (absent : '~' ∉ tokens.flatMap Token.text) : tildeCloses .block tokens = false := by
  cases tokens using List.reverseRecOn with
  | nil => rfl
  | append_singleton front last =>
      rw [tildeCloses, List.getLast?_concat, Bool.eq_false_iff]
      intro ends
      exact absent (by simp [Token.tilde_mem_text ends])

theorem codeText_of_not_mem {tokens : List Token} (absent : '~' ∉ tokens.flatMap Token.text) :
    codeText tokens = tokens.flatMap Token.text := by
  induction tokens with
  | nil => rfl
  | cons token rest ih =>
      rw [List.flatMap_cons, List.mem_append, not_or] at absent
      have kept : isSkipped token rest = false := by
        refine Bool.eq_false_iff.mpr fun skipped => absent.1 ?_
        rw [isSkipped, Bool.and_eq_true, beq_iff_eq] at skipped
        rw [skipped.1]
        exact List.mem_singleton_self _
      rw [codeText, kept, ih absent.2, List.flatMap_cons]
      rfl

end TemplateCompiler.Markup
