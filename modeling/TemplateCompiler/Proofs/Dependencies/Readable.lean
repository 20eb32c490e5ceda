import TemplateCompiler.Proofs.Dependencies.Names

/-! # Dependencies that can be read

A block can be read where no declaration in it is the keyword alone
(`DependencyRule.isReadable_iff`). Names that fit into a declaration do not decide that: the import
of an included template can be read with one such name where it can be with another
(`JavaScript.isReadable_rename`).
-/

namespace TemplateCompiler

/-- The last word of a text is what solid text at its end becomes a part of. What stands before it
depends on the front only. -/
theorem Text.exists_words_append (p : Char → Bool) (front : List Char) :
    ∃ before lead, ∀ tail, tail ≠ [] → (∀ c ∈ tail, p c = false ∧ isBlank c = false) →
      wordsOf p (front ++ tail) = before ++ [lead ++ tail] := by
  have nothing : ∀ c ∈ ([] : List Char), p c = false := nofun
  obtain ⟨pieces, last, split, _⟩ := splitOnP_append_of_not front nothing
  refine ⟨(pieces.map (dropEnds isBlank)).filter (· ≠ []), last.dropWhile isBlank, ?_⟩
  intro tail nonempty solid
  obtain ⟨others, other, again, extended⟩ :=
    splitOnP_append_of_not front fun c inside => (solid c inside).1
  obtain ⟨rfl, rfl⟩ := List.append_singleton_inj.mp (split.symm.trans again)
  have tailTrimmed : IsTrimmed isBlank tail :=
    ⟨fun c head => (solid c (List.mem_of_head? head)).2,
      fun c end_ => (solid c (List.mem_of_getLast? end_)).2⟩
  have trimmed : IsTrimmed isBlank (last.dropWhile isBlank ++ tail) := by
    constructor
    · intro c head
      rw [List.head?_append, Option.mem_def, Option.or_eq_some_iff] at head
      rcases head with inLead | ⟨_, inTail⟩
      · simpa only [Option.mem_def.mp inLead] using List.head?_dropWhile_not isBlank last
      · exact tailTrimmed.head c inTail
    · intro c end_
      rw [List.getLast?_append_of_ne_nil _ nonempty] at end_
      exact tailTrimmed.last c end_
  have word : dropEnds isBlank (last ++ tail) = last.dropWhile isBlank ++ tail := by
    conv_lhs => rw [← List.takeWhile_append_dropWhile (p := isBlank) (l := last), List.append_assoc]
    rw [dropEnds_append_left fun c => List.mem_takeWhile_imp, dropEnds_of_isTrimmed trimmed]
  rw [wordsOf, extended, List.map_append, List.filter_append, List.map_singleton, word]
  simp [nonempty]

namespace DependencyRule

variable {rule : DependencyRule} {block first second : String}

/-- All declarations of a block name something. -/
def IsReadable (rule : DependencyRule) (block : String) : Prop :=
  ∃ met, rule.occurrences block = .ok met

/-- **A block can be read** where no word of it is the keyword alone. -/
theorem isReadable_iff (plain : rule.IsPlain) :
    rule.IsReadable block ↔
      ∀ word ∈ Text.wordsOf (fun c => c == '\n' || rule.ends c) block.toList,
        rule.afterKeyword? word ≠ some [] := by
  have visits (piece : String) :
      (∃ d, rule.spell piece = .ok d) ↔ rule.afterKeyword? piece.toList ≠ some [] := by
    unfold spell strip
    split
    · rename_i none
      simp [none, Except.map]
    · rename_i alone
      simp [alone, Except.map]
    · rename_i after
      split_ifs <;> simp [after, Except.map]
  have all (pieces : List String) : (∃ met, pieces.mapM rule.spell = .ok met) ↔
      ∀ piece ∈ pieces, ∃ d, rule.spell piece = .ok d := by
    induction pieces with
    | nil => exact ⟨fun _ => nofun, fun _ => ⟨[], rfl⟩⟩
    | cons piece pieces ih =>
        rw [List.forall_mem_cons, ← ih, List.mapM_cons]
        cases rule.spell piece with
        | error cause =>
            exact ⟨fun ⟨_, read⟩ => (nomatch read), fun both => (nomatch both.1.choose_spec)⟩
        | ok d =>
            cases pieces.mapM rule.spell with
            | error cause =>
                exact ⟨fun ⟨_, read⟩ => (nomatch read), fun both => (nomatch both.2.choose_spec)⟩
            | ok met => exact ⟨fun _ => ⟨⟨d, rfl⟩, met, rfl⟩, fun _ => ⟨_, rfl⟩⟩
  rw [IsReadable, occurrences, all, ← toList_pieces plain, List.forall_mem_map]
  simp only [visits]

theorem isReadable_append_iff (plain : rule.IsPlain) :
    rule.IsReadable (first ++ "\n" ++ second) ↔ rule.IsReadable first ∧ rule.IsReadable second := by
  constructor
  · rintro ⟨_, meets⟩
    obtain ⟨before, later, reads, readsLater, rfl⟩ := (occurrences_append_eq_ok_iff plain).mp meets
    exact ⟨⟨before, reads⟩, later, readsLater⟩
  · rintro ⟨⟨before, reads⟩, later, readsLater⟩
    exact ⟨_, (occurrences_append_eq_ok_iff plain).mpr ⟨_, _, reads, readsLater, rfl⟩⟩

theorem isReadable_addLine_iff (plain : rule.IsPlain) :
    rule.IsReadable (Text.addLine first second) ↔
      rule.IsReadable first ∧ rule.IsReadable second := by
  constructor
  · rintro ⟨_, meets⟩
    obtain ⟨before, later, reads, readsLater, rfl⟩ := (occurrences_addLine_eq_ok_iff plain).mp meets
    exact ⟨⟨before, reads⟩, later, readsLater⟩
  · rintro ⟨⟨before, reads⟩, later, readsLater⟩
    exact ⟨_, (occurrences_addLine_eq_ok_iff plain).mpr ⟨_, _, reads, readsLater, rfl⟩⟩

theorem isReadable_render (plain : rule.IsPlain) {declared : List String}
    (canonical : ∀ d ∈ declared, rule.IsCanonical d) : rule.IsReadable (rule.render declared) :=
  ⟨declared, occurrences_render plain canonical⟩

theorem isReadable_of_merge (plain : rule.IsPlain) {merged : String}
    (result : rule.merge first second = .ok merged) : rule.IsReadable merged := by
  obtain ⟨_, _, declared, _, _, rfl, _, _, canonical⟩ := exists_of_merge plain result
  exact isReadable_render plain canonical

end DependencyRule

/-! ## Imports with another name -/

/-- Whether an import can be read does not depend on the name at its end. -/
theorem JavaScript.isReadable_rename {front name other : String} (fits : FitsDeclaration name)
    (otherFits : FitsDeclaration other) (readable : rule.IsReadable (front ++ name ++ "';")) :
    rule.IsReadable (front ++ other ++ "';") := by
  have plain : rule.IsPlain := by decide
  obtain ⟨before, lead, whole⟩ :=
    Text.exists_words_append (fun c => c == '\n' || rule.ends c) front.toList
  have words {name : String} (fits : FitsDeclaration name) :
      Text.wordsOf (fun c => c == '\n' || rule.ends c) (front ++ name ++ "';").toList =
        before ++ [lead ++ (name.toList ++ ['\''])] := by
    have solid : ∀ c ∈ name.toList ++ ['\''],
        (c == '\n' || rule.ends c) = false ∧ Text.isBlank c = false := by
      have mark : FitsDeclaration "'" := by decide
      intro c inside
      obtain ⟨solid, semicolon, _⟩ := fits.append mark c (by rwa [String.toList_append])
      refine ⟨?_, solid⟩
      have feed : c ≠ '\n' := by
        rintro rfl
        cases solid
      simp [DependencyRule.ends, rule, feed, semicolon]
    have split : (front ++ name ++ "';").toList =
        (front.toList ++ (name.toList ++ ['\''])) ++ ';' :: [] := by simp
    rw [split, Text.wordsOf_append_cons (by decide), whole _ (by simp) solid, Text.wordsOf_nil,
      List.append_nil]
  rw [DependencyRule.isReadable_iff plain, words fits, List.forall_mem_append] at readable
  rw [DependencyRule.isReadable_iff plain, words otherFits, List.forall_mem_append]
  refine ⟨readable.1, List.forall_mem_singleton.mpr fun alone => ?_⟩
  -- The keyword has no quotation mark in it.
  obtain ⟨keyword, nothing⟩ : (lead ++ (other.toList ++ ['\''])).take 6 = "import".toList ∧
      (lead ++ (other.toList ++ ['\''])).drop 6 = [] := by
    simpa [DependencyRule.afterKeyword?, rule] using alone
  have same : lead ++ (other.toList ++ ['\'']) = "import".toList := by
    rw [← keyword, List.take_of_length_le (List.drop_eq_nil_iff.mp nothing)]
  have mark : '\'' ∈ "import".toList := by
    rw [← same]
    simp
  exact absurd mark (by decide)

end TemplateCompiler
