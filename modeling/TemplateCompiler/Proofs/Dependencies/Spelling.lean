import Mathlib.Data.List.Nodup
import TemplateCompiler.Emitter
import TemplateCompiler.Proofs.Parsing.Edits
import TemplateCompiler.Proofs.Text.Cutting

/-! # Spelling dependencies

Reading a block of declarations undoes writing it (`DependencyRule.occurrences_render`): a
declaration that a block holds has a canonical spelling, which its rendered line gives back. So a
block that is merged and read again, with lines added to it in between, keeps what it declares.

`DependencyRule.occurrences` lists the declarations of a block as often as they are met there;
`DependencyRule.declarations` has each of them once.
-/

namespace TemplateCompiler

section Traversal

variable {ε α β γ : Type} {visit : α → Except ε β}

/-- A traversal succeeds where each visit does, and returns what the visits return. -/
theorem mapM_eq_ok_iff {items : List α} {results : List β} :
    items.mapM visit = .ok results ↔ items.map visit = results.map .ok := by
  induction items generalizing results with
  | nil => cases results <;> simp [pure, Except.pure]
  | cons item items ih =>
      rw [List.mapM_cons, List.map_cons]
      cases first : visit item with
      | error cause => cases results <;> simp [bind, Except.bind]
      | ok value =>
          cases results with
          | nil => cases items.mapM visit <;> simp [bind, Except.bind, pure, Except.pure]
          | cons result results =>
              rw [List.map_cons, List.cons.injEq, ← ih]
              cases items.mapM visit <;> simp [bind, Except.bind, pure, Except.pure]

theorem mapM_append_eq_ok_iff {front back : List α} {results : List β} :
    (front ++ back).mapM visit = .ok results ↔
      ∃ first second, front.mapM visit = .ok first ∧ back.mapM visit = .ok second ∧
        results = first ++ second := by
  simp only [mapM_eq_ok_iff, List.map_append]
  constructor
  · intro same
    obtain ⟨first, second, rfl, front, back⟩ := List.map_eq_append_iff.mp same.symm
    exact ⟨first, second, front.symm, back.symm, rfl⟩
  · rintro ⟨first, second, front, back, rfl⟩
    rw [front, back, List.map_append]

theorem mem_of_mapM_eq_ok {items : List α} {results : List β}
    (visited : items.mapM visit = .ok results) {result : β} :
    result ∈ results ↔ ∃ item ∈ items, visit item = .ok result := by
  have listed := mapM_eq_ok_iff.mp visited
  have member : result ∈ results ↔ (Except.ok result : Except ε β) ∈ items.map visit := by
    rw [listed, List.mem_map]
    simp
  rw [member, List.mem_map]

theorem mapM_map_eq (visit : α → Except ε β) (convert : β → γ) (items : List α) :
    items.mapM (fun item => (visit item).map convert) =
      (items.mapM visit).map (List.map convert) := by
  induction items with
  | nil => rfl
  | cons item items ih =>
      rw [List.mapM_cons, List.mapM_cons, ih]
      cases visit item with
      | error cause => rfl
      | ok value => cases items.mapM visit <;> rfl

end Traversal

/-! ## Aliases -/

/-- Dropping the blanks around the first `=` leaves a text without `=` as it is, and two trimmed
parts of any other. -/
theorem normalizeAlias_cases (declaration : String) :
    normalizeAlias declaration = declaration ∨
      ∃ left right, normalizeAlias declaration = String.ofList (left ++ '=' :: right) ∧
        '=' ∉ left ∧ Text.IsTrimmed Text.isBlank left ∧ Text.IsTrimmed Text.isBlank right ∧
        left ++ '=' :: right ⊆ declaration.toList := by
  unfold normalizeAlias
  simp only
  cases found : declaration.toList.dropWhile (· != '=') with
  | nil => exact .inl rfl
  | cons mark target =>
      have equals : mark = '=' := by
        have first := List.head?_dropWhile_not (· != '=') declaration.toList
        simpa [found] using first
      subst equals
      have whole := List.takeWhile_append_dropWhile (p := (· != '=')) (l := declaration.toList)
      rw [found] at whole
      refine .inr ⟨Text.dropEnds Text.isBlank (declaration.toList.takeWhile (· != '=')),
        Text.dropEnds Text.isBlank target, ?_, ?_, Text.isTrimmed_dropEnds ..,
        Text.isTrimmed_dropEnds .., ?_⟩
      · simp [← String.toList_inj]
      · intro inside
        have kept := List.mem_takeWhile_imp ((Text.infix_dropEnds ..).subset inside)
        simp at kept
      · have inside : declaration.toList.takeWhile (· != '=') ++ '=' :: target ⊆
            declaration.toList := by
          rw [whole]
          exact List.Subset.refl _
        refine List.Subset.trans ?_ inside
        exact List.append_subset.mpr
          ⟨List.Subset.trans (Text.infix_dropEnds ..).subset (List.subset_append_left ..),
            List.cons_subset.mpr ⟨by simp, List.Subset.trans (Text.infix_dropEnds ..).subset
              (List.Subset.trans (List.subset_cons_self ..) (List.subset_append_right ..))⟩⟩

theorem normalizeAlias_of_not_mem {declaration : String} (plain : '=' ∉ declaration.toList) :
    normalizeAlias declaration = declaration := by
  have all : ∀ c ∈ declaration.toList, (c != '=') = true := by
    intro c member
    have other : c ≠ '=' := fun same => plain (same ▸ member)
    simpa using other
  simp only [normalizeAlias, List.dropWhile_eq_nil_iff.mpr all]

/-- An alias without blanks around its `=` is left as it is. -/
theorem normalizeAlias_of_trimmed {left right : List Char} (plain : '=' ∉ left)
    (leftTrimmed : Text.IsTrimmed Text.isBlank left)
    (rightTrimmed : Text.IsTrimmed Text.isBlank right) :
    normalizeAlias (String.ofList (left ++ '=' :: right)) =
      String.ofList (left ++ '=' :: right) := by
  have before : ∀ c ∈ left, (c != '=') = true := by
    intro c member
    have other : c ≠ '=' := fun same => plain (same ▸ member)
    simpa using other
  have found : (left ++ '=' :: right).dropWhile (· != '=') = '=' :: right := by
    rw [List.dropWhile_append_of_pos before]
    rfl
  have kept : (left ++ '=' :: right).takeWhile (· != '=') = left := by
    rw [List.takeWhile_append_of_pos before]
    simp
  simp only [normalizeAlias, String.toList_ofList, found, kept]
  simp [← String.toList_inj, Text.dropEnds_of_isTrimmed leftTrimmed,
    Text.dropEnds_of_isTrimmed rightTrimmed]

namespace DependencyRule

variable {rule : DependencyRule} {block declaration : String}

/-- The characters of the separator. -/
def ends (rule : DependencyRule) (c : Char) : Bool := rule.separator.toList.contains c

/-- The keyword is one word, and the separator a semicolon if there is one. -/
structure IsPlain (rule : DependencyRule) : Prop where
  nonempty : rule.keyword ≠ ""
  unbroken : ∀ c ∈ rule.keyword.toList, Text.isBlank c = false ∧ rule.ends c = false
  separator : rule.separator = "" ∨ rule.separator = ";"

instance (rule : DependencyRule) : Decidable rule.IsPlain :=
  decidable_of_iff (rule.keyword ≠ "" ∧
    (rule.keyword.toList.all fun c => !Text.isBlank c && !rule.ends c) = true ∧
      (rule.separator = "" ∨ rule.separator = ";")) <| by
    simp only [List.all_eq_true, Bool.and_eq_true, Bool.not_eq_true']
    exact ⟨fun all => ⟨all.1, all.2.1, all.2.2⟩,
      fun plain => ⟨plain.nonempty, plain.unbroken, plain.separator⟩⟩

/-- The declaration that a written one stands for. -/
def spell (rule : DependencyRule) (piece : String) : Except DependencyError String :=
  (rule.strip piece).map rule.canonical

/-- The declarations of a block as often as they are met, in order of appearance. -/
def occurrences (rule : DependencyRule) (block : String) : Except DependencyError (List String) :=
  (rule.pieces block).mapM rule.spell

/-- The declarations of a block are those that are met in it, each once. -/
theorem declarations_eq (rule : DependencyRule) (block : String) :
    rule.declarations block = (rule.occurrences block).map (insertAll []) := by
  have visits := mapM_map_eq rule.strip rule.canonical (rule.pieces block)
  rw [occurrences, show rule.spell = fun piece => (rule.strip piece).map rule.canonical from rfl,
    visits, declarations]
  cases (rule.pieces block).mapM rule.strip <;> rfl

theorem declarations_eq_ok_iff {declared : List String} :
    rule.declarations block = .ok declared ↔
      ∃ met, rule.occurrences block = .ok met ∧ declared = insertAll [] met := by
  rw [declarations_eq]
  cases rule.occurrences block with
  | error cause => simp [Except.map]
  | ok met => simp [Except.map, eq_comm]

/-! ## Lists without repetitions -/

theorem insertAll_cons (declared : List String) (d : String) (new : List String) :
    insertAll declared (d :: new) =
      insertAll (if declared.contains d then declared else declared ++ [d]) new := rfl

theorem mem_insertAll {declared new : List String} {d : String} :
    d ∈ insertAll declared new ↔ d ∈ declared ∨ d ∈ new := by
  induction new generalizing declared with
  | nil => simp [insertAll]
  | cons first new ih =>
      rw [insertAll_cons, ih]
      split_ifs with known
      · rw [List.contains_iff_mem] at known
        rw [List.mem_cons]
        constructor
        · rintro (old | later)
          · exact .inl old
          · exact .inr (.inr later)
        · rintro (old | rfl | later)
          · exact .inl old
          · exact .inl known
          · exact .inr later
      · simp [or_assoc]

theorem nodup_insertAll {declared : List String} (distinct : declared.Nodup) (new : List String) :
    (insertAll declared new).Nodup := by
  induction new generalizing declared with
  | nil => exact distinct
  | cons d new ih =>
      rw [insertAll_cons]
      split_ifs with known
      · exact ih distinct
      · refine ih (List.nodup_append.mpr ⟨distinct, List.nodup_singleton d, ?_⟩)
        rintro old member other single rfl
        rw [List.mem_singleton.mp single] at member
        exact known (List.contains_iff_mem.mpr member)

/-! ## What blocks hold -/

/-- The spelling in which a block holds a declaration. -/
structure IsCanonical (rule : DependencyRule) (declaration : String) : Prop where
  nonempty : declaration ≠ ""
  trimmed : Text.IsTrimmed Text.isBlank declaration.toList
  unbroken : ∀ c ∈ declaration.toList, c ≠ '\n' ∧ rule.ends c = false
  canonical : rule.canonical declaration = declaration

/-- The written declarations of a block are its words between line feeds and separators. -/
theorem toList_pieces (plain : rule.IsPlain) (block : String) :
    (rule.pieces block).map String.toList =
      Text.wordsOf (fun c => c == '\n' || rule.ends c) block.toList := by
  have trimmed (pieces : List String) :
      ((pieces.map Text.trim).filter fun piece => !piece.isEmpty).map String.toList =
        ((pieces.map String.toList).map (Text.dropEnds Text.isBlank)).filter (· ≠ []) := by
    have nonempty : (fun piece : String => !piece.isEmpty) =
        (fun cs : List Char => decide (cs ≠ [])) ∘ String.toList := by
      funext piece
      rw [Bool.eq_iff_iff]
      simp
    have trims : Text.dropEnds Text.isBlank ∘ String.toList = String.toList ∘ Text.trim :=
      funext fun piece => (Text.toList_trim piece).symm
    rw [List.map_map, trims, ← List.map_map, nonempty, ← List.filter_map]
  have pieces (line : String) : (Text.splitOn rule.separator line).map String.toList =
      line.toList.splitOnP rule.ends := by
    rcases plain.separator with none | semicolon
    · have never : ∀ c ∈ line.toList, rule.ends c = false := by simp [ends, none]
      simp [none, Text.splitOn, List.splitOnP_eq_singleton never]
    · have ends : rule.ends = (· == ';') := by
        funext c
        rw [Bool.eq_iff_iff]
        simp [DependencyRule.ends, semicolon]
      simp [semicolon, Text.splitOn, ends, Text.splitAtText_singleton, Function.comp_def]
  rw [DependencyRule.pieces, trimmed, List.map_flatMap, ← Text.wordsOf_lines]
  simp only [pieces, Text.wordsOf, List.map_flatMap, List.filter_flatMap]

theorem pieces_eq (plain : rule.IsPlain) {words : List String}
    (same : Text.wordsOf (fun c => c == '\n' || rule.ends c) block.toList =
      words.map String.toList) : rule.pieces block = words :=
  List.map_injective_iff.mpr (fun _ _ => String.toList_injective)
    ((toList_pieces plain block).trans same)

/-- A declaration without its keyword is the declaration, or what stands behind a blank in it. -/
theorem strip_cases {stripped : String} (strips : rule.strip declaration = .ok stripped) :
    stripped = declaration ∨ ∃ front c rest, declaration.toList = front ++ c :: rest ∧
      Text.isBlank c = true ∧ stripped = Text.trim (String.ofList (c :: rest)) := by
  unfold strip at strips
  split at strips
  · cases strips
    exact .inl rfl
  · cases strips
  · rename_i c rest after
    have whole : declaration.toList =
        declaration.toList.take rule.keyword.toList.length ++ c :: rest := by
      simp only [afterKeyword?, Option.ite_none_right_eq_some, Option.some.injEq] at after
      rw [← after.2, List.take_append_drop]
    split_ifs at strips with blank
    · exact .inr ⟨_, c, rest, whole, blank, (Except.ok.inj strips).symm⟩
    · exact .inl (Except.ok.inj strips).symm

/-- What is written in a block, without its keyword, is trimmed and unbroken. -/
theorem of_strip {word : List Char} {stripped : String}
    (member : word ∈ Text.wordsOf (fun c => c == '\n' || rule.ends c) block.toList)
    (strips : rule.strip (String.ofList word) = .ok stripped) :
    stripped ≠ "" ∧ Text.IsTrimmed Text.isBlank stripped.toList ∧
      ∀ c ∈ stripped.toList, c ≠ '\n' ∧ rule.ends c = false := by
  obtain ⟨nonempty, trimmed, unbroken⟩ := Text.of_mem_wordsOf member
  have apart : ∀ c ∈ word, c ≠ '\n' ∧ rule.ends c = false := by
    intro c inside
    simpa using unbroken c inside
  rcases strip_cases strips with rfl | ⟨front, c, rest, whole, blank, rfl⟩
  · rw [String.toList_ofList]
    exact ⟨fun empty => nonempty (by simpa using congrArg String.toList empty), trimmed, apart⟩
  · rw [String.toList_ofList] at whole
    refine ⟨?_, ?_, ?_⟩
    · intro empty
      have nothing : Text.dropEnds Text.isBlank (c :: rest) = [] := by
        simpa using congrArg String.toList empty
      -- The last character of a trimmed text is no blank.
      obtain ⟨last, ends⟩ : ∃ last, (c :: rest).getLast? = some last :=
        ⟨_, List.getLast?_eq_getLast_of_ne_nil (by simp)⟩
      have final : last ∈ word.getLast? := by
        rw [whole, List.getLast?_append, ends]
        rfl
      have blanks := Text.dropEnds_eq_nil_iff.mp nothing last (List.mem_of_getLast? ends)
      rw [trimmed.last last final] at blanks
      cases blanks
    · rw [Text.toList_trim, String.toList_ofList]
      exact Text.isTrimmed_dropEnds ..
    · intro d inside
      rw [Text.toList_trim, String.toList_ofList] at inside
      refine apart d ?_
      rw [whole]
      exact List.mem_append_right _ ((Text.infix_dropEnds ..).subset inside)

/-- The canonical spelling of a trimmed text without line feeds and separators. -/
theorem isCanonical_canonical (nonempty : declaration ≠ "")
    (trimmed : Text.IsTrimmed Text.isBlank declaration.toList)
    (unbroken : ∀ c ∈ declaration.toList, c ≠ '\n' ∧ rule.ends c = false) :
    rule.IsCanonical (rule.canonical declaration) := by
  have same (kept : rule.canonical declaration = declaration) :
      rule.IsCanonical (rule.canonical declaration) := by
    rw [kept]
    exact ⟨nonempty, trimmed, unbroken, kept⟩
  by_cases aliases : rule.normalizesAliases = true
  · have normalizes (d : String) : rule.canonical d = normalizeAlias d := if_pos aliases
    rcases normalizeAlias_cases declaration with kept | ⟨left, right, normal, plain, lt, rt, within⟩
    · exact same ((normalizes _).trans kept)
    · have mark : Text.IsTrimmed Text.isBlank ['='] := by decide
      rw [normalizes, normal]
      refine ⟨?_, ?_, ?_, ?_⟩
      · intro empty
        simpa using congrArg String.toList empty
      · rw [String.toList_ofList]
        exact lt.append (mark.append rt)
      · rw [String.toList_ofList]
        exact fun c inside => unbroken c (within inside)
      · rw [normalizes]
        exact normalizeAlias_of_trimmed plain lt rt
  · exact same (if_neg aliases)

/-- **Blocks hold canonical spellings.** -/
theorem isCanonical_of_mem (plain : rule.IsPlain) {met : List String}
    (meets : rule.occurrences block = .ok met) {d : String} (member : d ∈ met) :
    rule.IsCanonical d := by
  obtain ⟨piece, written, spelled⟩ := (mem_of_mapM_eq_ok meets).mp member
  have word := List.mem_map_of_mem (f := String.toList) written
  rw [toList_pieces plain] at word
  unfold spell at spelled
  cases strips : rule.strip piece with
  | error cause =>
      rw [strips] at spelled
      cases spelled
  | ok stripped =>
      rw [strips] at spelled
      cases spelled
      obtain ⟨nonempty, trimmed, unbroken⟩ := of_strip word (by rwa [String.ofList_toList])
      exact isCanonical_canonical nonempty trimmed unbroken

/-! ## Rendered declarations -/

/-- The keyword and a blank before a trimmed declaration are what `strip` takes away. -/
theorem strip_keyword (trimmed : Text.IsTrimmed Text.isBlank declaration.toList) :
    rule.strip (rule.keyword ++ " " ++ declaration) = .ok declaration := by
  have after : rule.afterKeyword? (rule.keyword ++ " " ++ declaration).toList =
      some (' ' :: declaration.toList) := by
    have whole : (rule.keyword ++ " " ++ declaration).toList =
        rule.keyword.toList ++ ' ' :: declaration.toList := by simp
    simp [afterKeyword?, whole]
  have blank : ∀ c ∈ [' '], Text.isBlank c = true := List.forall_mem_singleton.mpr (by decide)
  have left : Text.dropEnds Text.isBlank (' ' :: declaration.toList) = declaration.toList :=
    (Text.dropEnds_append_left blank).trans (Text.dropEnds_of_isTrimmed trimmed)
  simp only [strip, after]
  rw [if_pos (by decide)]
  simp [← String.toList_inj, left]

/-- The pieces of two blocks, one below the other. -/
theorem pieces_append (plain : rule.IsPlain) (front back : String) :
    rule.pieces (front ++ "\n" ++ back) = rule.pieces front ++ rule.pieces back := by
  refine pieces_eq plain ?_
  simp only [List.map_append, toList_pieces plain, String.toList_append, List.append_assoc]
  exact Text.wordsOf_append_cons (c := '\n') rfl _ _

/-- A block of two blocks meets the declarations of the first, then those of the second. -/
theorem occurrences_append_eq_ok_iff (plain : rule.IsPlain) {front back : String}
    {met : List String} :
    rule.occurrences (front ++ "\n" ++ back) = .ok met ↔
      ∃ first second, rule.occurrences front = .ok first ∧ rule.occurrences back = .ok second ∧
        met = first ++ second := by
  rw [occurrences, pieces_append plain]
  exact mapM_append_eq_ok_iff

theorem occurrences_empty (plain : rule.IsPlain) : rule.occurrences "" = .ok [] := by
  have pieces : rule.pieces "" = [] := pieces_eq plain rfl
  rw [occurrences, pieces]
  rfl

/-- A block with a line added meets the declarations of the line last. -/
theorem occurrences_addLine_eq_ok_iff (plain : rule.IsPlain) {line : String} {met : List String} :
    rule.occurrences (Text.addLine block line) = .ok met ↔
      ∃ first second, rule.occurrences block = .ok first ∧ rule.occurrences line = .ok second ∧
        met = first ++ second := by
  unfold Text.addLine
  split_ifs with nothing empty
  · rw [String.isEmpty_iff.mp nothing, occurrences_empty plain]
    simp
  · rw [String.isEmpty_iff.mp empty, occurrences_empty plain]
    simp
  · exact occurrences_append_eq_ok_iff plain

/-- A block with lines added meets the declarations of the lines last, one line after the
other. -/
theorem occurrences_foldl_eq_ok_iff (plain : rule.IsPlain) {lines : List String}
    {met : List String} :
    rule.occurrences (lines.foldl Text.addLine block) = .ok met ↔
      ∃ first later, rule.occurrences block = .ok first ∧
        lines.mapM rule.occurrences = .ok later ∧ met = first ++ later.flatten := by
  induction lines generalizing block met with
  | nil =>
      simp only [List.foldl_nil, List.mapM_nil]
      constructor
      · intro meets
        exact ⟨met, [], meets, rfl, by simp⟩
      · rintro ⟨first, later, meets, none, rfl⟩
        cases none
        simpa using meets
  | cons line lines ih =>
      rw [List.foldl_cons, ih]
      simp only [occurrences_addLine_eq_ok_iff plain, mapM_eq_ok_iff, List.map_cons]
      constructor
      · rintro ⟨_, later, ⟨first, second, meets, own, rfl⟩, rest, rfl⟩
        exact ⟨first, second :: later, meets, by rw [own, rest, List.map_cons], by simp⟩
      · rintro ⟨first, later, meets, rest, rfl⟩
        obtain ⟨second, later, rfl, own, rest⟩ := List.map_eq_cons_iff.mp rest.symm
        exact ⟨_, later, ⟨first, second, meets, own.symm, rfl⟩, rest.symm, by simp⟩

section Rendering

variable (plain : rule.IsPlain) (canonical : rule.IsCanonical declaration)

include plain canonical

/-- A keyword and a canonical declaration make a word of a block. -/
theorem isTrimmed_word :
    Text.IsTrimmed Text.isBlank (rule.keyword ++ " " ++ declaration).toList := by
  have keyword : Text.IsTrimmed Text.isBlank rule.keyword.toList :=
    ⟨fun c head => (plain.unbroken c (List.mem_of_head? head)).1,
      fun c last => (plain.unbroken c (List.mem_of_getLast? last)).1⟩
  rw [String.toList_append, String.toList_append]
  exact Text.isTrimmed_of_ends keyword canonical.trimmed
    (by simpa using plain.nonempty) (by simpa using canonical.nonempty) _

theorem unbroken_word :
    ∀ c ∈ (rule.keyword ++ " " ++ declaration).toList, c ≠ '\n' ∧ rule.ends c = false := by
  have keyword : ∀ c ∈ rule.keyword.toList, c ≠ '\n' ∧ rule.ends c = false := by
    intro c inside
    obtain ⟨solid, unended⟩ := plain.unbroken c inside
    refine ⟨?_, unended⟩
    rintro rfl
    cases solid
  have space : rule.ends ' ' = false := by
    rcases plain.separator with none | semicolon
    · simp [ends, none]
    · simp [ends, semicolon]
  intro c inside
  rw [String.toList_append, String.toList_append, List.mem_append, List.mem_append] at inside
  rcases inside with (inKeyword | blank) | inDeclaration
  · exact keyword c inKeyword
  · have same : c = ' ' := List.mem_singleton.mp blank
    rw [same]
    exact ⟨by decide, space⟩
  · exact canonical.unbroken c inDeclaration

/-- What stands before the separator of a rendered declaration is its only word. -/
theorem wordsOf_renderOne {p : Char → Bool} (separates : ∀ c, rule.ends c = true → p c = true)
    (unbroken : ∀ c ∈ (rule.keyword ++ " " ++ declaration).toList, p c = false) :
    Text.wordsOf p (rule.renderOne declaration).toList =
      [(rule.keyword ++ " " ++ declaration).toList] := by
  have word := Text.wordsOf_of_isTrimmed (isTrimmed_word plain canonical) (by simp) unbroken
  rw [renderOne, String.toList_append]
  rcases plain.separator with none | semicolon
  · rw [none, String.toList_empty, List.append_nil, word]
  · rw [semicolon, show ";".toList = ';' :: [] from rfl,
      Text.wordsOf_append_cons (separates ';' (by simp [ends, semicolon])), word]
    rfl

omit plain in
theorem spell_word :
    rule.spell (rule.keyword ++ " " ++ declaration) = .ok declaration := by
  rw [spell, strip_keyword canonical.trimmed, Except.map, canonical.canonical]

/-- **A rendered declaration gives itself back.** -/
theorem occurrences_renderOne :
    rule.occurrences (rule.renderOne declaration) = .ok [declaration] := by
  have words := wordsOf_renderOne plain canonical (p := fun c => c == '\n' || rule.ends c)
    (fun c ended => by simp [ended])
    (fun c inside => by simpa using unbroken_word plain canonical c inside)
  have pieces : rule.pieces (rule.renderOne declaration) = [rule.keyword ++ " " ++ declaration] :=
    pieces_eq plain words
  rw [occurrences, pieces, mapM_eq_ok_iff, List.map_singleton, spell_word canonical]
  rfl

theorem isTrimmed_renderOne :
    Text.IsTrimmed Text.isBlank (rule.renderOne declaration).toList := by
  have word := isTrimmed_word plain canonical
  rw [renderOne, String.toList_append]
  refine word.append ?_
  rcases plain.separator with none | semicolon
  · rw [none]
    decide
  · rw [semicolon]
    decide

theorem unbroken_renderOne : ∀ c ∈ (rule.renderOne declaration).toList, c ≠ '\n' := by
  intro c inside
  rw [renderOne, String.toList_append, List.mem_append] at inside
  rcases inside with inWord | inSeparator
  · exact (unbroken_word plain canonical c inWord).1
  · rcases plain.separator with none | semicolon
    · simp [none] at inSeparator
    · rw [semicolon] at inSeparator
      rw [List.mem_singleton.mp inSeparator]
      decide

end Rendering

theorem renderOne_ne_empty (rule : DependencyRule) (declaration : String) :
    rule.renderOne declaration ≠ "" := by
  simp [renderOne]

/-- **A rendered block gives its declarations back**, in order. -/
theorem occurrences_render (plain : rule.IsPlain) {declared : List String}
    (canonical : ∀ d ∈ declared, rule.IsCanonical d) :
    rule.occurrences (rule.render declared) = .ok declared := by
  induction declared with
  | nil => exact occurrences_empty plain
  | cons first rest ih =>
      have own := occurrences_renderOne plain (canonical first (List.mem_cons_self ..))
      have later := ih fun d member => canonical d (List.mem_cons_of_mem _ member)
      cases rest with
      | nil => exact own
      | cons next rest =>
          rw [render, List.map_cons, List.map_cons, Text.join, String.intercalate_cons_cons]
          exact (occurrences_append_eq_ok_iff plain).mpr ⟨_, _, own, later, rfl⟩

/-- A rendered block has a line for each declaration. -/
theorem hasLine_render (plain : rule.IsPlain) {declared : List String}
    (canonical : ∀ d ∈ declared, rule.IsCanonical d) {d : String} (member : d ∈ declared) :
    Text.HasLine (rule.render declared) (rule.renderOne d) := by
  refine Text.hasLine_join (List.mem_map_of_mem member) ?_
  intro line written
  obtain ⟨other, inside, rfl⟩ := List.mem_map.mp written
  exact unbroken_renderOne plain (canonical other inside)

/-- A block with the line of a declaration declares it. -/
theorem mem_of_hasLine (plain : rule.IsPlain) {d : String} (canonical : rule.IsCanonical d)
    (has : Text.HasLine block (rule.renderOne d)) {met : List String}
    (meets : rule.occurrences block = .ok met) : d ∈ met := by
  have words := wordsOf_renderOne plain canonical (p := rule.ends) (fun _ ended => ended)
    (fun c inside => (unbroken_word plain canonical c inside).2)
  have word := has.mem_wordsOf (words ▸ List.mem_singleton_self _)
  rw [← toList_pieces plain] at word
  obtain ⟨piece, written, same⟩ := List.mem_map.mp word
  rw [String.toList_injective same] at written
  exact (mem_of_mapM_eq_ok meets).mpr ⟨_, written, spell_word canonical⟩

/-! ## Merged blocks -/

/-- A block that is merged of two has a line for each declaration of either. -/
theorem merge_eq_ok {current new merged : String}
    (result : rule.merge current new = .ok merged) :
    ∃ first second, rule.declarations current = .ok first ∧ rule.declarations new = .ok second ∧
      merged = rule.render (insertAll first second) := by
  obtain ⟨first, currentDeclares, result⟩ := exists_ok_of_bind result
  obtain ⟨second, newDeclares, result⟩ := exists_ok_of_bind result
  cases result
  exact ⟨first, second, currentDeclares, newDeclares, rfl⟩

/-- A merged block spells the declarations met in two blocks, each once. -/
theorem exists_of_merge (plain : rule.IsPlain) {current new merged : String}
    (result : rule.merge current new = .ok merged) :
    ∃ older newer declared, rule.occurrences current = .ok older ∧
      rule.occurrences new = .ok newer ∧ merged = rule.render declared ∧ declared.Nodup ∧
      (∀ d, d ∈ declared ↔ d ∈ older ∨ d ∈ newer) ∧ ∀ d ∈ declared, rule.IsCanonical d := by
  obtain ⟨_, _, first, second, rfl⟩ := merge_eq_ok result
  obtain ⟨older, meetsOld, rfl⟩ := declarations_eq_ok_iff.mp first
  obtain ⟨newer, meetsNew, rfl⟩ := declarations_eq_ok_iff.mp second
  have members (d : String) :
      d ∈ insertAll (insertAll [] older) (insertAll [] newer) ↔ d ∈ older ∨ d ∈ newer := by
    simp [mem_insertAll]
  refine ⟨older, newer, _, meetsOld, meetsNew, rfl, nodup_insertAll (nodup_insertAll
    List.nodup_nil _) _, members, fun d member => ?_⟩
  rcases (members d).mp member with old | new
  · exact isCanonical_of_mem plain meetsOld old
  · exact isCanonical_of_mem plain meetsNew new

/-- Two blocks can be merged where the declarations of both can be read. -/
theorem exists_merge_iff {current new : String} :
    (∃ merged, rule.merge current new = .ok merged) ↔
      (∃ older, rule.occurrences current = .ok older) ∧
        ∃ newer, rule.occurrences new = .ok newer := by
  simp only [merge, declarations_eq]
  cases rule.occurrences current with
  | error cause =>
      exact ⟨fun ⟨_, result⟩ => (nomatch result), fun both => (nomatch both.1.choose_spec)⟩
  | ok older =>
      cases rule.occurrences new with
      | error cause =>
          exact ⟨fun ⟨_, result⟩ => (nomatch result), fun both => (nomatch both.2.choose_spec)⟩
      | ok newer => exact ⟨fun _ => ⟨⟨older, rfl⟩, newer, rfl⟩, fun _ => ⟨_, rfl⟩⟩

end DependencyRule

/-- The rules of all targets are plain. -/
theorem Emitter.isPlain_rule (emitter : Emitter) : emitter.rule.IsPlain := by
  cases target : emitter.target <;> simp only [rule, target] <;> decide

end TemplateCompiler
