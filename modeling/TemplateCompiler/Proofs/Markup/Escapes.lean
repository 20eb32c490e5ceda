import Mathlib.Algebra.Group.Nat.Even
import Mathlib.Data.List.TakeWhile
import TemplateCompiler.Proofs.Markup.Tokens
import TemplateCompiler.Proofs.Text.Cutting

/-! # Escaped close tags

A directive body can hold a close tag where a backslash stands before it. What a body can hold in
this way is decided by the backslashes before each close tag: there is an even number of them
(`IsWritable`), because backslashes are read in pairs and an odd one escapes the tag. A text of that
kind is read back after its close tags have been escaped (`body?_escape`), and every body is of that
kind (`isWritable_of_body?`).
-/

namespace TemplateCompiler.Markup

/-- The text with a backslash before each close tag. -/
def escape : List Char → List Char
  | [] => []
  | '%' :: '>' :: rest => '\\' :: '%' :: '>' :: escape rest
  | c :: rest => c :: escape rest

/-- The number of backslashes at the end of a text. -/
def backslashes (text : List Char) : Nat := (text.reverse.takeWhile (· == '\\')).length

/-- No close tag in the text has an odd number of backslashes directly before it. -/
def IsWritable (text : List Char) : Prop :=
  ∀ before behind, text = before ++ '%' :: '>' :: behind → Even (backslashes before)

/-! ## Backslashes at the end -/

section Backslashes

variable {c : Char} {front before : List Char}

/-- Backslashes go on into a text that has nothing else before. -/
theorem backslashes_append (front before : List Char) :
    backslashes (front ++ before) =
      if backslashes before = before.length then before.length + backslashes front
      else backslashes before := by
  unfold backslashes
  rw [List.reverse_append, List.takeWhile_append, List.length_reverse]
  split_ifs <;> simp

/-- Only backslashes count. -/
theorem backslashes_append_of_not_mem (plain : '\\' ∉ front) :
    backslashes (front ++ before) = backslashes before := by
  have none : backslashes front = 0 := by
    have first (text : List Char) (absent : '\\' ∉ text) :
        text.takeWhile (· == '\\') = [] := by
      cases text with
      | nil => rfl
      | cons c text =>
          have other : c ≠ '\\' := fun same => absent (same ▸ List.mem_cons_self ..)
          simp [other]
    rw [backslashes, first _ (by simpa using plain), List.length_nil]
  rw [backslashes_append, none]
  split_ifs with all
  · rw [all, Nat.add_zero]
  · rfl

/-- A backslash and the character behind it leave the parity as it is. -/
theorem even_backslashes_escaped :
    Even (backslashes ('\\' :: c :: before)) ↔ Even (backslashes before) := by
  rw [show '\\' :: c :: before = ['\\', c] ++ before from rfl, backslashes_append]
  by_cases other : c = '\\'
  · subst other
    have two : backslashes ['\\', '\\'] = 2 := rfl
    split_ifs with all
    · rw [two, all, Nat.even_add]
      exact iff_true_right ⟨1, rfl⟩
    · rfl
  · have none : backslashes ['\\', c] = 0 := by simp [backslashes, other]
    split_ifs with all
    · rw [none, all, Nat.add_zero]
    · rfl

end Backslashes

/-! ## Writable texts -/

section Writable

variable {c : Char} {front back rest : List Char}

variable (front) in
/-- Where no close tag begins in the front of a text, and the front leaves the parity of backslashes
as it is, the rest decides. -/
theorem isWritable_append_iff
    (parity : ∀ before, Even (backslashes (front ++ before)) ↔ Even (backslashes before))
    (inside : ∀ before behind, front ++ rest = before ++ '%' :: '>' :: behind →
      before.length < front.length → Even (backslashes before)) :
    IsWritable (front ++ rest) ↔ IsWritable rest := by
  constructor
  · intro writable before behind whole
    exact (parity before).mp (writable (front ++ before) behind (by simp [whole]))
  · intro writable before behind whole
    rcases lt_or_ge before.length front.length with short | long
    · exact inside before behind whole short
    · obtain ⟨later, rfl⟩ := List.prefix_of_prefix_length_le ⟨rest, whole⟩
        (List.prefix_append before ('%' :: '>' :: behind)) long
      rw [List.append_assoc, List.append_cancel_left_eq] at whole
      exact (parity later).mpr (writable later behind whole)

theorem isWritable_nil : IsWritable [] := by
  intro before behind whole
  simp at whole

theorem isWritable_closeTag_iff : IsWritable ('%' :: '>' :: rest) ↔ IsWritable rest := by
  refine isWritable_append_iff ['%', '>']
    (fun before => by rw [backslashes_append_of_not_mem (by decide)]) ?_
  intro before behind whole short
  match before, short with
  | [], _ => exact Even.zero
  | [c], _ => simp at whole

/-- A character that is no backslash and begins no close tag can stand before any text. -/
theorem isWritable_cons_iff (plain : c ≠ '\\') (tag : c = '%' → rest.head? ≠ some '>') :
    IsWritable (c :: rest) ↔ IsWritable rest := by
  refine isWritable_append_iff [c]
    (fun before => by rw [backslashes_append_of_not_mem (by simpa using plain.symm)]) ?_
  intro before behind whole short
  match before, short with
  | [], _ =>
    obtain ⟨rfl, rfl⟩ := List.cons.inj whole
    exact absurd rfl (tag rfl)

/-- A backslash with the character behind it can stand before any text, unless a close tag begins
with that character. -/
theorem isWritable_escaped_iff (tag : c = '%' → rest.head? ≠ some '>') :
    IsWritable ('\\' :: c :: rest) ↔ IsWritable rest := by
  refine isWritable_append_iff ['\\', c] (fun before => even_backslashes_escaped) ?_
  intro before behind whole short
  match before, short with
  | [], _ => simp at whole
  | [d], _ =>
    simp only [List.cons_append, List.nil_append, List.cons.injEq] at whole
    obtain ⟨_, rfl, rfl⟩ := whole
    exact absurd rfl (tag rfl)

/-- A single backslash before a close tag cannot be written. -/
theorem not_isWritable_escapedClose : ¬ IsWritable ('\\' :: '%' :: '>' :: rest) := by
  intro writable
  have odd : Even (backslashes ['\\']) := writable ['\\'] rest rfl
  exact absurd odd (by decide)

/-- A writable text has no odd close tag in any part of it that no backslash stands before. -/
theorem IsWritable.of_append (plain : '\\' ∉ front)
    (writable : IsWritable (front ++ rest ++ back)) : IsWritable rest := by
  intro before behind whole
  have even := writable (front ++ before) (behind ++ back) (by simp [whole])
  rwa [backslashes_append_of_not_mem plain] at even

end Writable

/-- A character that ends no close tag can stand behind a writable text. -/
theorem IsWritable.append_singleton {text : List Char} {c : Char} (writable : IsWritable text)
    (other : c ≠ '>') : IsWritable (text ++ [c]) := by
  intro before behind whole
  rcases List.eq_nil_or_concat behind with rfl | ⟨inner, d, rfl⟩
  · rw [show before ++ ['%', '>'] = before ++ ['%'] ++ ['>'] by simp] at whole
    exact absurd (List.append_singleton_inj.mp whole).2 other
  · rw [List.concat_eq_append, show before ++ '%' :: '>' :: (inner ++ [d]) =
      before ++ '%' :: '>' :: inner ++ [d] by simp] at whole
    exact writable before inner (List.append_singleton_inj.mp whole).1

/-! ## Reading escaped text -/

/-- The units in which a text is written: a close tag is escaped. -/
def units : List Char → List Token
  | [] => []
  | '%' :: '>' :: rest => .escapedClose :: units rest
  | '\\' :: c :: rest => .escaped c :: units rest
  | c :: rest => .plain c :: units rest

theorem text_units (text : List Char) : (units text).flatMap Token.text = text := by
  fun_induction units text <;> simp_all [Token.text]

theorem escape_cons {c : Char} {rest : List Char} (tag : c = '%' → rest.head? ≠ some '>') :
    escape (c :: rest) = c :: escape rest := by
  rw [escape]
  rintro more rfl rfl
  exact absurd rfl (tag rfl)

theorem escape_append_singleton (text : List Char) {c : Char} (other : c ≠ '>') :
    escape (text ++ [c]) = escape text ++ [c] := by
  fun_induction escape text with
  | case1 => simp [escape]
  | case2 rest ih => simp [escape, ih]
  | case3 d rest notTag ih =>
      rw [List.cons_append, List.cons_append, ← ih]
      refine escape_cons fun percent bracket => ?_
      cases rest with
      | nil => exact other (by simpa using bracket)
      | cons next rest =>
          have same : next = '>' := by simpa using bracket
          exact notTag rest percent (by rw [same])

/-- Escaping brings no bracket to the front. -/
theorem head?_escape {text : List Char} (bracket : (escape text).head? = some '>') :
    text.head? = some '>' := by
  unfold escape at bracket
  split at bracket <;> simp_all

/-- **Escaped text is read back**, with the mark behind it, where the last backslash does not escape
the mark. -/
theorem body?_escape {text : List Char} (writable : IsWritable text)
    (ended : ∀ front, text ≠ front ++ ['\\']) (rest : List Char) :
    body? ['%', '>'] (escape text ++ '%' :: '>' :: rest) = some (units text, rest) := by
  -- No bracket stands where a percent sign would make it a close tag.
  have apart {c : Char} {text : List Char} (tag : c = '%' → text.head? ≠ some '>') :
      c = '%' → (escape text ++ '%' :: '>' :: rest).head? ≠ some '>' := by
    intro percent bracket
    cases text with
    | nil => simp [escape] at bracket
    | cons d more =>
        refine tag percent (head?_escape ?_)
        have nonempty : escape (d :: more) ≠ [] := by
          unfold escape
          split <;> simp_all
        rwa [List.head?_append_of_ne_nil _ nonempty] at bracket
  fun_induction units text with
  | case1 => simp [escape, body?, List.isPrefixOf]
  | case2 text ih =>
      have later := ih (isWritable_closeTag_iff.mp writable) fun front same =>
        ended ('%' :: '>' :: front) (by simp [same])
      rw [escape]
      simp only [List.cons_append]
      rw [body?_escapedClose, later]
      rfl
  | case3 c text ih =>
      have tag : c = '%' → text.head? ≠ some '>' := by
        rintro rfl bracket
        obtain ⟨more, rfl⟩ := List.head?_eq_some_iff.mp bracket
        exact not_isWritable_escapedClose writable
      have later := ih ((isWritable_escaped_iff tag).mp writable) fun front same =>
        ended ('\\' :: c :: front) (by simp [same])
      rw [escape_cons (by simp), escape_cons tag]
      simp only [List.cons_append]
      rw [body?_escaped _ _ fun both => apart tag both.1 both.2, later]
      rfl
  | case4 c text notTag notEscaped ih =>
      have tag : c = '%' → text.head? ≠ some '>' := by
        rintro rfl bracket
        obtain ⟨more, rfl⟩ := List.head?_eq_some_iff.mp bracket
        exact notTag more rfl rfl
      have plain : c ≠ '\\' := by
        rintro rfl
        cases text with
        | nil => exact ended [] rfl
        | cons d more => exact notEscaped d more rfl rfl
      have later := ih ((isWritable_cons_iff plain tag).mp writable) fun front same =>
        ended (c :: front) (by simp [same])
      have open_ : (['%', '>'] : List Char).isPrefixOf
          (c :: (escape text ++ '%' :: '>' :: rest)) = false := by
        rw [Bool.eq_false_iff]
        intro starts
        obtain ⟨more, whole⟩ := List.isPrefixOf_iff_prefix.mp starts
        obtain ⟨rfl, behind⟩ := List.cons.inj whole
        exact apart tag rfl (by rw [← behind]; rfl)
      rw [escape_cons tag, List.cons_append, body?_plain _ _ plain open_, later]
      rfl

/-! ## What bodies hold -/

/-- What is written for a body begins with a bracket only where the body does. -/
theorem head?_searchBody {text : List Char}
    (bracket : (searchBody ['%', '>'] text).1.head? = some '>') : text.head? = some '>' := by
  unfold searchBody at bracket
  split at bracket <;> try simp_all [put]
  split at bracket <;> simp_all

/-- **What is written for a body is writable**, whether the body ends or not. -/
theorem isWritable_searchBody (text : List Char) :
    IsWritable (searchBody ['%', '>'] text).1 := by
  fun_induction searchBody ['%', '>'] text with
  | case1 => exact isWritable_nil
  | case2 rest ih => exact isWritable_closeTag_iff.mpr ih
  | case3 rest other ih =>
      refine (isWritable_escaped_iff fun _ bracket => ?_).mpr ih
      obtain ⟨more, rfl⟩ := List.head?_eq_some_iff.mp (head?_searchBody bracket)
      exact other more rfl
  | case4 c rest _ other ih =>
      refine (isWritable_escaped_iff fun percent _ => ?_).mpr ih
      exact other percent
  | case5 => exact isWritable_nil
  | case6 c rest notClose notPercent notEscaped open_ ih =>
      by_cases backslash : c = '\\'
      -- A backslash that escapes nothing is the last character.
      · cases rest with
        | nil =>
            intro before behind whole
            have length := congrArg List.length whole
            simp [put, searchBody] at length
            omega
        | cons d more => exact (notEscaped d more backslash rfl).elim
      · refine (isWritable_cons_iff backslash fun percent bracket => open_ ?_).mpr ih
        obtain ⟨more, rfl⟩ := List.head?_eq_some_iff.mp (head?_searchBody bracket)
        simp [percent, List.isPrefixOf]

/-- The text of a body that ends is writable. -/
theorem isWritable_of_body? {text rest : List Char} {tokens : List Token}
    (closed : body? ['%', '>'] text = some (tokens, rest)) :
    IsWritable (tokens.flatMap Token.text) := by
  rw [← (searchBody_eq ['%', '>'] text).2 _ closed]
  exact isWritable_searchBody text

/-- Blanks at the ends of a text do not decide whether it is writable. -/
theorem IsWritable.trim {text : List Char} (writable : IsWritable text) :
    IsWritable (Text.dropEnds Text.isBlank text) := by
  have front : '\\' ∉ text.takeWhile Text.isBlank := by
    intro inside
    exact absurd (List.mem_takeWhile_imp inside) (by decide)
  obtain ⟨back, whole⟩ : ∃ back, text.dropWhile Text.isBlank =
      Text.dropEnds Text.isBlank text ++ back := by
    refine ⟨((text.dropWhile Text.isBlank).reverse.takeWhile Text.isBlank).reverse, ?_⟩
    rw [Text.dropEnds, Text.dropEnd, ← List.reverse_append, List.takeWhile_append_dropWhile,
      List.reverse_reverse]
  have split : text.takeWhile Text.isBlank ++ Text.dropEnds Text.isBlank text ++ back = text := by
    rw [List.append_assoc, ← whole, List.takeWhile_append_dropWhile]
  exact IsWritable.of_append front (split.symm ▸ writable)

end TemplateCompiler.Markup
