import TemplateCompiler.Proofs.Dependencies.Names

/-! # Refused blocks

A block of declarations is refused for its first declaration that names nothing
(`DependencyRule.check`). A block in two parts is refused for what its parts are refused for, the
first part before the second, and so is the merge of two blocks (`DependencyRule.check_merge`).
Lines that are read leave that as it is, whether they stand there or not.
-/

namespace TemplateCompiler

namespace DependencyRule

variable {rule : DependencyRule} {first second merged : String}

/-- Why a block is refused, if it is. -/
def check (rule : DependencyRule) (block : String) : Except DependencyError Unit :=
  (rule.occurrences block).map fun _ => ()

theorem check_append (plain : rule.IsPlain) (front back : String) :
    rule.check (front ++ "\n" ++ back) = rule.check front >>= fun _ => rule.check back := by
  rw [check, check, check, occurrences, pieces_append plain, List.mapM_append, ← occurrences,
    ← occurrences]
  cases rule.occurrences front <;> cases rule.occurrences back <;> rfl

theorem check_addLine (plain : rule.IsPlain) (block line : String) :
    rule.check (Text.addLine block line) = rule.check block >>= fun _ => rule.check line := by
  have empty : rule.check "" = .ok () := by
    rw [check, occurrences_empty plain]
    rfl
  unfold Text.addLine
  split_ifs with noLine noBlock
  · rw [String.isEmpty_iff.mp noLine, empty]
    cases rule.check block <;> rfl
  · rw [String.isEmpty_iff.mp noBlock, empty]
    rfl
  · exact check_append plain block line

/-- **Two blocks cannot be merged** for the reason that the first or the second is refused for. -/
theorem check_merge (rule : DependencyRule) (first second : String) :
    ((rule.merge first second).map fun _ => ()) =
      rule.check first >>= fun _ => rule.check second := by
  rw [merge, declarations_eq, declarations_eq, check, check]
  cases rule.occurrences first <;> cases rule.occurrences second <;> rfl

theorem check_of_merge (plain : rule.IsPlain) (result : rule.merge first second = .ok merged) :
    rule.check merged = .ok () := by
  obtain ⟨_, _, declared, _, _, rfl, _, _, canonical⟩ := exists_of_merge plain result
  rw [check, occurrences_render plain canonical]
  rfl

/-- The line of a declaration is read. -/
theorem check_renderOne (plain : rule.IsPlain) {declaration : String}
    (canonical : rule.IsCanonical declaration) :
    rule.check (rule.renderOne declaration) = .ok () := by
  rw [check, occurrences_renderOne plain canonical]
  rfl

/-- Blocks that are refused for the same reasons are merged with the same result, or not at all for
the same reason. -/
theorem merge_cases {other counterpart : String} (same : rule.check other = rule.check first)
    (brought : rule.check counterpart = rule.check second) :
    (∃ cause, rule.merge first second = .error cause ∧
      rule.merge other counterpart = .error cause) ∨
    ∃ merged block, rule.merge first second = .ok merged ∧
      rule.merge other counterpart = .ok block := by
  have checks : ((rule.merge other counterpart).map fun _ => ()) =
      (rule.merge first second).map fun _ => () := by
    rw [check_merge, check_merge, same, brought]
  cases result : rule.merge first second with
  | error cause =>
      rw [result] at checks
      cases again : rule.merge other counterpart with
      | error reason =>
          rw [again] at checks
          cases checks
          exact .inl ⟨_, rfl, rfl⟩
      | ok block =>
          rw [again] at checks
          cases checks
  | ok merged =>
      rw [result] at checks
      cases again : rule.merge other counterpart with
      | error reason =>
          rw [again] at checks
          cases checks
      | ok block => exact .inr ⟨merged, block, rfl, rfl⟩

end DependencyRule

/-- The import of a module whose name fits into a declaration is read. -/
theorem VisualBasic.check_importOf {child : Template} (fits : FitsDeclaration child.moduleName)
    (nonempty : child.moduleName ≠ "") : rule.check (importOf child) = .ok () := by
  have plain : rule.IsPlain := by decide
  rw [importOf_eq]
  exact DependencyRule.check_renderOne plain (fits.isCanonical plain nonempty)

end TemplateCompiler
