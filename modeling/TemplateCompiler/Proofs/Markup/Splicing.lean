import Mathlib.Data.List.Find
import Mathlib.Data.List.TakeWhile
import TemplateCompiler.Proofs.Markup.Sections

/-! # Texts that are put together

What a text begins with does not depend on what stands behind it: a section that is closed is the
first section of every longer text (`section?_append`). So the sections of texts that are put
together are those of the parts, where each part but the last ends in literal text
(`sections_append`). Two directives next to each other trade places in a text by trading places
among its sections (`Exchanges.sections_eq`).
-/

namespace TemplateCompiler.Markup

section Append

variable {text rest : List Char} (more : List Char)

/-- A mark that does not begin a text does not begin a longer one, where the text has a mark
further on. -/
theorem isPrefixOf_append_of_later {mark front : List Char} {c : Char}
    (start : ¬mark.isPrefixOf (c :: text) = true) (later : text = front ++ mark ++ rest) :
    ¬mark.isPrefixOf (c :: (text ++ more)) = true := by
  intro begins
  refine start (List.isPrefixOf_iff_prefix.mpr ?_)
  refine List.prefix_of_prefix_length_le (List.isPrefixOf_iff_prefix.mp begins)
    (List.prefix_append (c :: text) more) ?_
  rw [later]
  simp only [List.length_append, List.length_cons]
  omega

theorem splitAt?_append {mark before behind : List Char}
    (found : splitAt? mark text = some (before, behind)) :
    splitAt? mark (text ++ more) = some (before, behind ++ more) := by
  induction text generalizing before with
  | nil => cases found
  | cons c rest ih =>
      unfold splitAt? at found
      rw [List.cons_append, splitAt?]
      split_ifs at found with start
      · obtain ⟨after, same⟩ := List.isPrefixOf_iff_prefix.mp start
        cases found
        rw [← List.cons_append, ← same, List.drop_left, List.append_assoc, List.drop_left, if_pos]
        simp
      · obtain ⟨inner, within, same⟩ := Option.map_eq_some_iff.mp found
        cases same
        have later := splitAt?_eq_some within
        rw [if_neg (isPrefixOf_append_of_later more start later), ih within]
        rfl

/-- Markup that is complete begins every longer text in the same way. -/
theorem isPrefixOf_append {markup : List Char} (complete : isIncomplete text = false)
    {opening : Opening} (listed : (markup, opening) ∈ openings) :
    markup.isPrefixOf (text ++ more) = markup.isPrefixOf text := by
  rw [Bool.eq_iff_iff, List.isPrefixOf_iff_prefix, List.isPrefixOf_iff_prefix]
  refine ⟨fun begins => ?_, fun begins => begins.trans (List.prefix_append _ _)⟩
  by_cases short : markup.length ≤ text.length
  · exact List.prefix_of_prefix_length_le begins (List.prefix_append _ _) short
  · have cut : text <+: markup :=
      List.prefix_of_prefix_length_le (List.prefix_append _ _) begins (by omega)
    have incomplete : isIncomplete text = true := by
      refine List.any_eq_true.mpr ⟨_, listed, ?_⟩
      simp only [Bool.and_eq_true, decide_eq_true_eq]
      exact ⟨List.isPrefixOf_iff_prefix.mpr cut, by omega⟩
    rw [incomplete] at complete
    cases complete

theorem isIncomplete_append (complete : isIncomplete text = false) :
    isIncomplete (text ++ more) = false := by
  rw [Bool.eq_false_iff]
  intro incomplete
  obtain ⟨entry, listed, begins⟩ := List.any_eq_true.mp incomplete
  rw [Bool.and_eq_true, decide_eq_true_eq, List.length_append] at begins
  refine Bool.eq_false_iff.mp complete (List.any_eq_true.mpr ⟨entry, listed, ?_⟩)
  rw [Bool.and_eq_true, decide_eq_true_eq]
  refine ⟨List.isPrefixOf_iff_prefix.mpr ?_, by omega⟩
  exact (List.prefix_append _ _).trans (List.isPrefixOf_iff_prefix.mp begins.1)

theorem opening?_append {opening : Opening} (found : opening? text = some (opening, rest)) :
    opening? (text ++ more) = some (opening, rest ++ more) := by
  unfold opening? at found ⊢
  split_ifs at found with incomplete
  have complete := Bool.eq_false_iff.mpr incomplete
  obtain ⟨entry, first, same⟩ := Option.map_eq_some_iff.mp found
  have begins := List.find?_some first
  have short : entry.1.length ≤ text.length :=
    (List.isPrefixOf_iff_prefix.mp begins).length_le
  have later : (openings.find? fun entry => entry.1.isPrefixOf (text ++ more)) = some entry := by
    rw [← first]
    exact List.find?_congr fun other listed => isPrefixOf_append more complete listed
  have undecided : ¬isIncomplete (text ++ more) = true := by
    rw [isIncomplete_append more complete]
    exact Bool.false_ne_true
  cases same
  rw [if_neg undecided, later, Option.map_some, List.drop_append_of_le_length short]

/-- A body that is closed ends at the same mark, whatever more stands behind the text. -/
theorem body?_append {region : Region} {tokens : List Token}
    (found : body? (bodyMark region) text = some (tokens, rest)) :
    body? (bodyMark region) (text ++ more) = some (tokens, rest ++ more) := by
  have marks : ∀ c ∈ (bodyMark region).head?, c ≠ '\\' := by
    unfold bodyMark
    split_ifs <;> simp
  have filled : bodyMark region ≠ [] := by
    unfold bodyMark
    split_ifs <;> simp
  generalize bodyMark region = mark at found marks filled ⊢
  fun_induction body? mark text generalizing tokens with
  | case1 => cases found
  | case2 text ih =>
      obtain ⟨⟨inner, behind⟩, within, same⟩ := Option.map_eq_some_iff.mp found
      cases same
      rw [List.cons_append, List.cons_append, List.cons_append, body?_escapedClose, ih within]
      rfl
  | case3 c text other ih =>
      obtain ⟨⟨inner, behind⟩, within, same⟩ := Option.map_eq_some_iff.mp found
      cases same
      rw [List.cons_append, List.cons_append, body?_escaped, ih within]
      · rfl
      · rintro ⟨percent, head⟩
        cases text with
        | nil => cases within
        | cons d text =>
            cases Option.some.inj head
            exact other text percent rfl
  | case4 c text _ _ start =>
      obtain ⟨behind, whole⟩ := List.isPrefixOf_iff_prefix.mp start
      obtain ⟨first, others, rfl⟩ := List.exists_cons_of_ne_nil filled
      obtain ⟨rfl, rfl⟩ := List.cons.inj whole
      have plain : first ≠ '\\' := marks first rfl
      cases found
      rw [List.cons_append, body?, if_pos]
      · simp [List.append_assoc]
      · simp [List.append_assoc]
      · exact fun _ same => absurd same plain
      · exact fun _ _ same => absurd same plain
  | case5 c text _ unescaped start ih =>
      obtain ⟨⟨inner, behind⟩, within, same⟩ := Option.map_eq_some_iff.mp found
      cases same
      have plain : c ≠ '\\' := by
        rintro rfl
        cases text with
        | nil => cases within
        | cons d text => exact unescaped d text rfl rfl
      rw [List.cons_append, body?_plain _ _ plain, ih within]
      · rfl
      · exact Bool.eq_false_iff.mpr
          (isPrefixOf_append_of_later more start (body?_eq_some within))

theorem dropWhile_append_of_cons {p : Char → Bool} {c : Char}
    (dropped : text.dropWhile p = c :: rest) :
    (text ++ more).dropWhile p = c :: (rest ++ more) ∧
      (text ++ more).takeWhile p = text.takeWhile p := by
  have kept : (text.dropWhile p).isEmpty = false := by rw [dropped]; rfl
  have stops : ¬(text.takeWhile p).length = text.length := by
    intro all
    have whole := congrArg List.length (List.takeWhile_append_dropWhile (p := p) (l := text))
    rw [List.length_append, all, dropped] at whole
    simp at whole
  constructor
  · rw [List.dropWhile_append, kept, dropped]
    rfl
  · rw [List.takeWhile_append, if_neg stops]

theorem name?_append {kind : NameKind} {name : List Char}
    (found : name? kind text = some (name, rest)) :
    name? kind (text ++ more) = some (name, rest ++ more) := by
  unfold name? at found ⊢
  split at found
  · rename_i behind dropped
    cases found
    obtain ⟨drops, takes⟩ := dropWhile_append_of_cons more dropped
    rw [drops, takes]
    rfl
  · cases found

theorem quotedPath?_append {mark : Char} {path : List Char}
    (found : quotedPath? mark text = some (path, rest)) :
    quotedPath? mark (text ++ more) = some (path, rest ++ more) := by
  unfold quotedPath? at found ⊢
  split at found
  · rename_i c behind dropped
    obtain ⟨drops, takes⟩ := dropWhile_append_of_cons more dropped
    split_ifs at found with same
    split at found
    · rename_i after closes
      cases found
      rw [drops, takes]
      dsimp only
      rw [if_pos same, (dropWhile_append_of_cons more closes).1]
      rfl
    · cases found
  · cases found

theorem path?_append {path : List Char} (found : path? text = some (path, rest)) :
    path? (text ++ more) = some (path, rest ++ more) := by
  unfold path? at found ⊢
  split at found
  · rename_i mark inner dropped
    split_ifs at found with quoted
    rw [(dropWhile_append_of_cons more dropped).1]
    exact (if_pos quoted).trans (quotedPath?_append more found)
  · cases found

theorem directive?_append {directive : Directive}
    (found : directive? text = some (directive, rest)) :
    directive? (text ++ more) = some (directive, rest ++ more) := by
  obtain ⟨inner, opens, starts⟩ := directive?_eq_some found
  unfold directive?
  rw [opening?_append more opens]
  cases directive with
  | body region tokens =>
      exact congrArg (Option.map _) (body?_append more starts)
  | name kind chars => exact congrArg (Option.map _) (name?_append more starts)
  | inclusion path => exact congrArg (Option.map _) (path?_append more starts)

/-- **A section that is closed** is the first section of every longer text. -/
theorem section?_append {s : Section}
    (first : section? text = some (s, rest)) : section? (text ++ more) =
      some (s, rest ++ more) := by
  obtain ⟨tag, tagged, found, whole⟩ := section?_eq_some first
  unfold section?
  rw [splitAt?_append more tagged]
  dsimp only
  rw [directive?_append more found, whole]
  simp

/-- **Sections of texts that are put together**: those of the first text stand before those of its
tail with the second text behind it. -/
theorem sections_append (text more : List Char) :
    sections (text ++ more) = ((sections text).1 ++ (sections ((sections text).2 ++ more)).1,
      (sections ((sections text).2 ++ more)).2) := by
  induction text using sections_induction with
  | tail text none => rw [sections_of_none none, List.nil_append]
  | behind text s rest first ih =>
      rw [sections_of_some (section?_append more first), sections_of_some first, ih]
      rfl

end Append

/-! ## Directives that trade places -/

theorem splitAt?_tag {literal : List Char} (untagged : splitAt? ['<', '%'] literal = none)
    (tag : List Char) :
    splitAt? ['<', '%'] (literal ++ ['<', '%'] ++ tag) = some (literal, tag) := by
  induction literal with
  | nil => rfl
  | cons c literal ih =>
      unfold splitAt? at untagged
      split_ifs at untagged with start
      have later := ih (Option.map_eq_none_iff.mp untagged)
      rw [List.cons_append, List.cons_append, splitAt?, if_neg, later, Option.map_some]
      cases literal with
      | nil => simp [List.isPrefixOf]
      | cons d literal => simpa [List.isPrefixOf] using start

/-- A text is one directive, from its `<%` to its close tag. -/
def Directive.Spells (directive : Directive) (text : List Char) : Prop :=
  ∃ tag, text = ['<', '%'] ++ tag ∧ directive? tag = some (directive, [])

/-- Literal text and a directive behind it are the first section of a text. -/
theorem section?_of_spells {directive : Directive} {literal tag : List Char}
    (untagged : splitAt? ['<', '%'] literal = none) (closed : directive? tag = some (directive, []))
    (more : List Char) : section? (literal ++ (['<', '%'] ++ tag) ++ more) =
      some (⟨literal, tag, directive⟩, more) := by
  have first : section? (literal ++ (['<', '%'] ++ tag)) =
      some (⟨literal, tag, directive⟩, []) := by
    unfold section?
    rw [← List.append_assoc, splitAt?_tag untagged]
    dsimp only
    rw [closed]
    simp
  exact section?_append more first

/-- Two directives next to each other, with nothing but literal text between them, trade places in
a text. -/
inductive Exchanges (first second : Directive) : List Char → List Char → Prop where
  | intro (front firstText between secondText back : List Char) (literal : EndsInLiteral front)
      (untagged : splitAt? ['<', '%'] between = none) (firstSpelled : first.Spells firstText)
      (secondSpelled : second.Spells secondText) :
      Exchanges first second (front ++ firstText ++ between ++ secondText ++ back)
        (front ++ secondText ++ between ++ firstText ++ back)

namespace Exchanges

variable {first second : Directive} {text other : List Char}

theorem symm (exchanges : Exchanges first second text other) :
    Exchanges second first other text := by
  cases exchanges with
  | intro _ _ _ _ _ literal untagged firstSpelled secondSpelled =>
      exact .intro _ _ _ _ _ literal untagged secondSpelled firstSpelled

/-- **Directives that trade places** in a text trade places among its sections. -/
theorem sections_eq (exchanges : Exchanges first second text other) :
    ∃ before literal between firstWritten secondWritten after tail,
      sections text = (before ++ ⟨literal, firstWritten, first⟩ ::
        ⟨between, secondWritten, second⟩ :: after, tail) ∧
      sections other = (before ++ ⟨literal, secondWritten, second⟩ ::
        ⟨between, firstWritten, first⟩ :: after, tail) := by
  cases exchanges with
  | intro front _ between _ back literal untagged firstSpelled secondSpelled =>
      obtain ⟨firstTag, rfl, firstClosed⟩ := firstSpelled
      obtain ⟨secondTag, rfl, secondClosed⟩ := secondSpelled
      have spliced {d e : Directive} {dTag eTag : List Char}
          (dClosed : directive? dTag = some (d, [])) (eClosed : directive? eTag = some (e, [])) :
          sections (front ++ (['<', '%'] ++ dTag) ++ between ++ (['<', '%'] ++ eTag) ++ back) =
            ((sections front).1 ++ ⟨(sections front).2, dTag, d⟩ :: ⟨between, eTag, e⟩ ::
              (sections back).1, (sections back).2) := by
        have behind := section?_of_spells untagged eClosed back
        have before := section?_of_spells literal dClosed
          (between ++ (['<', '%'] ++ eTag) ++ back)
        have whole : front ++ (['<', '%'] ++ dTag) ++ between ++ (['<', '%'] ++ eTag) ++ back =
            front ++ ((['<', '%'] ++ dTag) ++ (between ++ (['<', '%'] ++ eTag) ++ back)) := by
          simp only [List.append_assoc]
        rw [whole, sections_append, ← List.append_assoc (sections front).2,
          sections_of_some before, sections_of_some behind]
      exact ⟨_, _, _, _, _, _, _, spliced firstClosed secondClosed,
        spliced secondClosed firstClosed⟩

end Exchanges

end TemplateCompiler.Markup
