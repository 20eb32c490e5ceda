import TemplateCompiler.Proofs.Dependencies.Spelling
import TemplateCompiler.Template

/-! # The order of dependencies

Blocks with the same lines and the same declarations, in another order perhaps, stay so where the
same line is added to both and where the same block is merged into both
(`DependencyRule.SameLines`). Merging two blocks into one, in either order, leads to such blocks
(`DependencyRule.exists_merge_swapped`).
-/

namespace TemplateCompiler

/-- The dependency lines of a template are the words of its dependencies between line feeds. -/
theorem Template.toList_dependencyLines (template : Template) :
    template.dependencyLines.map String.toList =
      Text.wordsOf (· == '\n') template.dependencies.toList := by
  have whole := Text.wordsOf_lines (fun _ => false) template.dependencies
  have single (cs : List Char) : Text.wordsOf (fun _ => false) cs =
      [Text.dropEnds Text.isBlank cs].filter (· ≠ []) := by
    rw [Text.wordsOf, List.splitOnP_eq_singleton fun _ _ => rfl]
    rfl
  have nonempty : (fun line : String => !line.isEmpty) =
      (fun cs : List Char => decide (cs ≠ [])) ∘ String.toList := by
    funext line
    rw [Bool.eq_iff_iff]
    simp
  simp only [Bool.or_false, single] at whole
  rw [← whole, ← List.filter_flatMap, ← List.map_eq_flatMap, dependencyLines, nonempty,
    ← List.filter_map, List.map_map]
  exact congrArg _ (List.map_congr_left fun line _ => Text.toList_trim line)

namespace DependencyRule

variable {rule : DependencyRule} {first second current merged : String}

/-- Blocks with the same lines, the second of which declares what the first one declares. -/
structure SameLines (rule : DependencyRule) (first second : String) : Prop where
  lines : ∀ line, line ∈ Text.wordsOf (· == '\n') second.toList ↔
    line ∈ Text.wordsOf (· == '\n') first.toList
  declared : ∀ met, rule.occurrences first = .ok met →
    ∃ other, rule.occurrences second = .ok other ∧ ∀ d, d ∈ other ↔ d ∈ met

theorem SameLines.refl (block : String) : rule.SameLines block block :=
  ⟨fun _ => .rfl, fun met meets => ⟨met, meets, fun _ => .rfl⟩⟩

/-- A line that is added brings its words. -/
theorem mem_words_addLine {block added : String} {line : List Char} :
    line ∈ Text.wordsOf (· == '\n') (Text.addLine block added).toList ↔
      line ∈ Text.wordsOf (· == '\n') block.toList ∨
        line ∈ Text.wordsOf (· == '\n') added.toList := by
  unfold Text.addLine
  split_ifs with nothing empty
  · simp [String.isEmpty_iff.mp nothing]
  · simp [String.isEmpty_iff.mp empty]
  · rw [String.toList_append, String.toList_append, List.append_assoc,
      show "\n".toList ++ added.toList = '\n' :: added.toList from rfl,
      Text.wordsOf_append_cons rfl, List.mem_append]

theorem SameLines.addLine (plain : rule.IsPlain) (same : rule.SameLines first second)
    (line : String) : rule.SameLines (Text.addLine first line) (Text.addLine second line) where
  lines word := by rw [mem_words_addLine, mem_words_addLine, same.lines]
  declared := by
    intro met meets
    obtain ⟨front, own, before, reads, rfl⟩ := (occurrences_addLine_eq_ok_iff plain).mp meets
    obtain ⟨other, again, members⟩ := same.declared front before
    refine ⟨other ++ own, (occurrences_addLine_eq_ok_iff plain).mpr ⟨_, _, again, reads, rfl⟩, ?_⟩
    intro d
    rw [List.mem_append, List.mem_append, members]

/-- Rendered declarations are the lines of a block. -/
theorem words_render (plain : rule.IsPlain) {declared : List String}
    (canonical : ∀ d ∈ declared, rule.IsCanonical d) :
    Text.wordsOf (· == '\n') (rule.render declared).toList =
      declared.map fun d => (rule.renderOne d).toList := by
  have own (d : String) (isCanonical : rule.IsCanonical d) :
      Text.wordsOf (· == '\n') (rule.renderOne d).toList = [(rule.renderOne d).toList] := by
    refine Text.wordsOf_of_isTrimmed (isTrimmed_renderOne plain isCanonical) ?_ fun c inside => ?_
    · simpa using rule.renderOne_ne_empty d
    · simpa using unbroken_renderOne plain isCanonical c inside
  induction declared with
  | nil => rfl
  | cons first rest ih =>
      have before := own first (canonical first (List.mem_cons_self ..))
      have later := ih fun d member => canonical d (List.mem_cons_of_mem _ member)
      cases rest with
      | nil => exact before
      | cons next rest =>
          rw [render, List.map_cons, List.map_cons, Text.join, String.intercalate_cons_cons,
            String.toList_append, String.toList_append, List.append_assoc,
            show "\n".toList ++ _ = '\n' :: _ from rfl, Text.wordsOf_append_cons rfl, before,
            List.map_cons]
          exact congrArg _ later

/-- Rendered blocks of the same declarations have the same lines. -/
theorem sameLines_render (plain : rule.IsPlain) {declared others : List String}
    (canonical : ∀ d ∈ declared, rule.IsCanonical d) (same : ∀ d, d ∈ others ↔ d ∈ declared) :
    rule.SameLines (rule.render declared) (rule.render others) := by
  have otherCanonical : ∀ d ∈ others, rule.IsCanonical d :=
    fun d member => canonical d ((same d).mp member)
  constructor
  · intro line
    rw [words_render plain canonical, words_render plain otherCanonical]
    simp only [List.mem_map, same]
  · intro met meets
    rw [occurrences_render plain canonical] at meets
    cases meets
    exact ⟨others, occurrences_render plain otherCanonical, same⟩

/-- A block can be merged into one whose declarations can be read, and declares those of both. -/
theorem exists_merge (plain : rule.IsPlain) {new : String} {older newer : List String}
    (meets : rule.occurrences current = .ok older) (reads : rule.occurrences new = .ok newer) :
    ∃ declared, rule.merge current new = .ok (rule.render declared) ∧
      (∀ d, d ∈ declared ↔ d ∈ older ∨ d ∈ newer) ∧ ∀ d ∈ declared, rule.IsCanonical d := by
  obtain ⟨_, merges⟩ := exists_merge_iff.mpr ⟨⟨older, meets⟩, newer, reads⟩
  obtain ⟨_, _, declared, again, readsAgain, rfl, _, members, canonical⟩ :=
    exists_of_merge plain merges
  rw [meets] at again
  rw [reads] at readsAgain
  cases again
  cases readsAgain
  exact ⟨declared, merges, members, canonical⟩

/-- **The same block is merged** into both of two blocks, and they have the same lines again. -/
theorem SameLines.exists_merge (plain : rule.IsPlain) (same : rule.SameLines first second)
    {new : String} (result : rule.merge first new = .ok merged) :
    ∃ other, rule.merge second new = .ok other ∧ rule.SameLines merged other := by
  obtain ⟨older, newer, declared, meets, reads, rfl, _, members, canonical⟩ :=
    exists_of_merge plain result
  obtain ⟨found, again, sameMembers⟩ := same.declared older meets
  obtain ⟨others, merges, otherMembers, _⟩ := exists_merge plain again reads
  refine ⟨_, merges, sameLines_render plain canonical fun d => ?_⟩
  rw [otherMembers, members, sameMembers]

/-- **Two blocks can be merged into one in either order**, and lead to the same lines. -/
theorem exists_merge_swapped (plain : rule.IsPlain) {new later middle : String}
    (result : rule.merge current new = .ok middle)
    (results : rule.merge middle later = .ok merged) :
    ∃ swapped other, rule.merge current later = .ok swapped ∧
      rule.merge swapped new = .ok other ∧ rule.SameLines merged other := by
  obtain ⟨older, newer, declared, meets, reads, rfl, _, members, canonical⟩ :=
    exists_of_merge plain result
  obtain ⟨_, last, all, meetsMiddle, readsLater, rfl, _, allMembers, allCanonical⟩ :=
    exists_of_merge plain results
  rw [occurrences_render plain canonical] at meetsMiddle
  cases meetsMiddle
  obtain ⟨between, merges, betweenMembers, betweenCanonical⟩ :=
    exists_merge plain meets readsLater
  obtain ⟨others, swaps, otherMembers, _⟩ :=
    exists_merge plain (occurrences_render plain betweenCanonical) reads
  refine ⟨_, _, merges, swaps, sameLines_render plain allCanonical fun d => ?_⟩
  rw [otherMembers, betweenMembers, allMembers, members, or_right_comm]

end DependencyRule

end TemplateCompiler
