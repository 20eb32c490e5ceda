import TemplateCompiler.Proofs.Dependencies.Spelling
import TemplateCompiler.Proofs.Parsing.Runs

/-! # Merging as a union

Merging two blocks of declarations joins what they declare: the declarations of the first block in
their order, then those that only the second one has (`DependencyRule.merge_bind_declarations`).
A rendered list of declarations is read back as it is (`DependencyRule.declarations_render`), so the
laws of this union are laws of lists without repetitions, where `insertAll` joins
(`DependencyRule.insertAll_eq`). Merging is idempotent and associative, and the empty block is
neutral on both sides (`Emitter.merge_union`).
-/

namespace TemplateCompiler

namespace DependencyRule

variable {rule : DependencyRule}

/-! ## Joining lists without repetitions -/

/-- Lists without repetitions are joined by leaving out of the second what the first one has. -/
theorem insertAll_eq (declared : List String) {new : List String} (distinct : new.Nodup) :
    insertAll declared new = declared ++ new.filter (· ∉ declared) := by
  induction new generalizing declared with
  | nil => simp [insertAll]
  | cons d new ih =>
      obtain ⟨fresh, later⟩ := List.nodup_cons.mp distinct
      rw [insertAll_cons, ih _ later, List.filter_cons]
      by_cases known : d ∈ declared
      · simp [known]
      -- The new declaration does not stand further on, so keeping it changes nothing there.
      · have same : new.filter (· ∉ declared ++ [d]) = new.filter (· ∉ declared) := by
          refine List.filter_congr fun other member => ?_
          have apart : other ≠ d := fun equal => fresh (equal ▸ member)
          simp [apart]
        rw [if_neg (by simpa using known), if_pos (by simpa using known), same,
          List.append_assoc, List.singleton_append]

theorem insertAll_nil {declared : List String} (distinct : declared.Nodup) :
    insertAll [] declared = declared := by
  simp [insertAll_eq [] distinct]

/-- What is known already is not added. -/
theorem insertAll_of_subset {declared new : List String} (known : new ⊆ declared) :
    insertAll declared new = declared := by
  induction new with
  | nil => rfl
  | cons d new ih =>
      obtain ⟨first, later⟩ := List.cons_subset.mp known
      rw [insertAll_cons, if_pos (List.contains_iff_mem.mpr first), ih later]

/-- Three lists are joined from either side. -/
theorem insertAll_assoc (first : List String) {second third : List String}
    (secondDistinct : second.Nodup) (thirdDistinct : third.Nodup) :
    insertAll (insertAll first second) third = insertAll first (insertAll second third) := by
  have joined := nodup_insertAll secondDistinct third
  rw [insertAll_eq _ thirdDistinct, insertAll_eq _ joined, insertAll_eq _ secondDistinct,
    insertAll_eq _ thirdDistinct, List.filter_append, List.append_assoc]
  congr 2
  rw [List.filter_filter]
  refine List.filter_congr fun d _ => ?_
  by_cases inFirst : d ∈ first <;> simp [inFirst]

/-! ## Reading what has been written -/

theorem nodup_of_declarations {block : String} {declared : List String}
    (declares : rule.declarations block = .ok declared) : declared.Nodup := by
  obtain ⟨met, _, rfl⟩ := declarations_eq_ok_iff.mp declares
  exact nodup_insertAll List.nodup_nil met

theorem isCanonical_of_declarations (plain : rule.IsPlain) {block : String}
    {declared : List String} (declares : rule.declarations block = .ok declared) :
    ∀ d ∈ declared, rule.IsCanonical d := by
  obtain ⟨met, meets, rfl⟩ := declarations_eq_ok_iff.mp declares
  intro d member
  exact isCanonical_of_mem plain meets ((mem_insertAll.mp member).resolve_left List.not_mem_nil)

/-- **A rendered list of declarations is read back** where it has no repetitions. -/
theorem declarations_render (plain : rule.IsPlain) {declared : List String}
    (canonical : ∀ d ∈ declared, rule.IsCanonical d) (distinct : declared.Nodup) :
    rule.declarations (rule.render declared) = .ok declared :=
  declarations_eq_ok_iff.mpr
    ⟨declared, occurrences_render plain canonical, (insertAll_nil distinct).symm⟩

theorem declarations_empty (plain : rule.IsPlain) : rule.declarations "" = .ok [] :=
  declarations_eq_ok_iff.mpr ⟨[], occurrences_empty plain, rfl⟩

/-- A merged block declares what the two blocks declare. -/
theorem declarations_of_merge (plain : rule.IsPlain) {a b : String} {first second : List String}
    (declaresFirst : rule.declarations a = .ok first)
    (declaresSecond : rule.declarations b = .ok second) :
    rule.declarations (rule.render (insertAll first second)) = .ok (insertAll first second) := by
  refine declarations_render plain (fun d member => ?_)
    (nodup_insertAll (nodup_of_declarations declaresFirst) second)
  exact (mem_insertAll.mp member).elim (isCanonical_of_declarations plain declaresFirst d)
    (isCanonical_of_declarations plain declaresSecond d)

theorem merge_of_declarations {a b : String} {first second : List String}
    (declaresFirst : rule.declarations a = .ok first)
    (declaresSecond : rule.declarations b = .ok second) :
    rule.merge a b = .ok (rule.render (insertAll first second)) := by
  rw [merge, declaresFirst, declaresSecond]
  rfl

/-- Merging fails where the declarations of one of the two blocks cannot be read. -/
theorem merge_eq_error_iff {a b : String} :
    (∃ cause, rule.merge a b = .error cause) ↔
      (∃ cause, rule.declarations a = .error cause) ∨
        ∃ cause, rule.declarations b = .error cause := by
  cases first : rule.declarations a with
  | error cause => simp [merge, first, bind, Except.bind]
  | ok declared =>
      cases second : rule.declarations b with
      | error cause => simp [merge, first, second, bind, Except.bind]
      | ok other => simp [merge_of_declarations first second]

/-- **What a merged block declares**: the declarations of the first block, then those that only the
second one has. -/
theorem merge_bind_declarations (plain : rule.IsPlain) (a b : String) :
    (rule.merge a b >>= rule.declarations) = do
      let first ← rule.declarations a
      let second ← rule.declarations b
      return first ++ second.filter (· ∉ first) := by
  cases first : rule.declarations a with
  | error cause => simp [merge, first, bind, Except.bind]
  | ok declared =>
      cases second : rule.declarations b with
      | error cause => simp [merge, first, second, bind, Except.bind]
      | ok other =>
          have joined := declarations_of_merge plain first second
          rw [merge_of_declarations first second]
          refine (pure_bind (m := Except _) _ _).trans (joined.trans ?_)
          rw [insertAll_eq _ (nodup_of_declarations second)]
          rfl

/-! ## Laws of merging -/

/-- A merged block takes a block in by joining its declarations. -/
theorem merge_bind_merge (plain : rule.IsPlain) {a b c : String} {first second third : List String}
    (declaresFirst : rule.declarations a = .ok first)
    (declaresSecond : rule.declarations b = .ok second)
    (declaresThird : rule.declarations c = .ok third) :
    (rule.merge a b >>= fun merged => rule.merge merged c) =
      .ok (rule.render (insertAll (insertAll first second) third)) := by
  rw [merge_of_declarations declaresFirst declaresSecond]
  exact (pure_bind (m := Except _) _ _).trans
    (merge_of_declarations (declarations_of_merge plain declaresFirst declaresSecond) declaresThird)

/-- **Merging is idempotent**: a merged block stays as it is where it is merged with itself. -/
theorem merge_self (plain : rule.IsPlain) (a b : String) :
    (rule.merge a b >>= fun merged => rule.merge merged merged) = rule.merge a b := by
  cases result : rule.merge a b with
  | error cause => rfl
  | ok merged =>
      obtain ⟨first, second, declaresFirst, declaresSecond, rfl⟩ := merge_eq_ok result
      have declares := declarations_of_merge plain declaresFirst declaresSecond
      refine (pure_bind (m := Except _) _ _).trans ?_
      rw [merge_of_declarations declares declares, insertAll_of_subset (List.Subset.refl _)]

/-- What has been merged in is merged in no second time. -/
theorem merge_again (plain : rule.IsPlain) (a b : String) :
    (rule.merge a b >>= fun merged => rule.merge merged a) = rule.merge a b := by
  cases result : rule.merge a b with
  | error cause => rfl
  | ok merged =>
      obtain ⟨first, second, declaresFirst, declaresSecond, rfl⟩ := merge_eq_ok result
      have known : first ⊆ insertAll first second := fun d member => mem_insertAll.mpr (.inl member)
      rw [← result, merge_bind_merge plain declaresFirst declaresSecond declaresFirst,
        insertAll_of_subset known, result]

/-- **The empty block is neutral** on both sides alike. -/
theorem merge_empty (plain : rule.IsPlain) (a : String) :
    rule.merge a "" = rule.merge "" a := by
  have empty := declarations_empty plain
  cases first : rule.declarations a with
  | error cause => simp [merge, first, empty, bind, Except.bind]
  | ok declared =>
      rw [merge_of_declarations first empty, merge_of_declarations empty first,
        insertAll_nil (nodup_of_declarations first)]
      rfl

/-- **Merging is associative**, where the declarations of all three blocks can be read. -/
theorem merge_assoc (plain : rule.IsPlain) (a b c merged : String) :
    (rule.merge a b >>= fun front => rule.merge front c) = .ok merged ↔
      (rule.merge b c >>= fun back => rule.merge a back) = .ok merged := by
  have same {first second third : List String} (declaresFirst : rule.declarations a = .ok first)
      (declaresSecond : rule.declarations b = .ok second)
      (declaresThird : rule.declarations c = .ok third) :
      (rule.merge a b >>= fun front => rule.merge front c) =
        rule.merge b c >>= fun back => rule.merge a back := by
    rw [merge_bind_merge plain declaresFirst declaresSecond declaresThird,
      merge_of_declarations declaresSecond declaresThird, insertAll_assoc first
        (nodup_of_declarations declaresSecond) (nodup_of_declarations declaresThird)]
    exact (merge_of_declarations declaresFirst
      (declarations_of_merge plain declaresSecond declaresThird)).symm.trans
        (pure_bind (m := Except _) _ _).symm
  -- A success on either side has read all three blocks.
  constructor
  · intro result
    obtain ⟨front, joins, later⟩ := exists_ok_of_bind result
    obtain ⟨_, _, declaresFirst, declaresSecond, _⟩ := merge_eq_ok joins
    obtain ⟨_, _, _, declaresThird, _⟩ := merge_eq_ok later
    rw [← same declaresFirst declaresSecond declaresThird, result]
  · intro result
    obtain ⟨back, joins, later⟩ := exists_ok_of_bind result
    obtain ⟨_, _, declaresSecond, declaresThird, _⟩ := merge_eq_ok joins
    obtain ⟨_, _, declaresFirst, _, _⟩ := merge_eq_ok later
    rw [same declaresFirst declaresSecond declaresThird, result]

end DependencyRule

/-- **Merging is a union that keeps the order.** For the rule of every target, merging fails just
where the declarations of one of two blocks cannot be read. A merged block declares what the first
block declares, then what only the second one does, each once; it takes in neither itself nor the
first block again. The empty block may stand on either side, and three blocks can be merged from
either side. -/
theorem Emitter.merge_union (emitter : Emitter) (a b c : String) :
    let rule := emitter.rule
    ((∃ cause, rule.merge a b = .error cause) ↔
      (∃ cause, rule.declarations a = .error cause) ∨
        ∃ cause, rule.declarations b = .error cause) ∧
    ((rule.merge a b >>= rule.declarations) = do
      let first ← rule.declarations a
      let second ← rule.declarations b
      return first ++ second.filter (· ∉ first)) ∧
    (∀ declared, (rule.merge a b >>= rule.declarations) = .ok declared → declared.Nodup) ∧
    (rule.merge a b >>= fun merged => rule.merge merged merged) = rule.merge a b ∧
    rule.merge a "" = rule.merge "" a ∧
    (∀ merged, (rule.merge a b >>= fun front => rule.merge front c) = .ok merged ↔
      (rule.merge b c >>= fun back => rule.merge a back) = .ok merged) ∧
    (rule.merge a b >>= fun merged => rule.merge merged a) = rule.merge a b := by
  intro rule
  have plain := emitter.isPlain_rule
  refine ⟨DependencyRule.merge_eq_error_iff, DependencyRule.merge_bind_declarations plain a b, ?_,
    DependencyRule.merge_self plain a b, DependencyRule.merge_empty plain a,
    DependencyRule.merge_assoc plain a b c, DependencyRule.merge_again plain a b⟩
  intro declared declares
  obtain ⟨merged, _, own⟩ := exists_ok_of_bind declares
  exact DependencyRule.nodup_of_declarations own

/-- Declarations that begin with the keyword, have an alias or a carriage return in them, or stand
in both blocks. -/
theorem Emitter.merge_union_aliases :
    let rule := (Emitter.default .cSharp).rule
    let a := "using using A;usingB;\r\nusing J = K"
    let b := "J=K; using\u00a0A;C"
    ∃ declared, (rule.merge a b >>= rule.declarations) = .ok declared ∧
      declared = ["using A", "usingB", "J=K", "A", "C"] ∧ declared.Nodup := by
  intro rule a b
  have declares : (rule.merge a b >>= rule.declarations) =
      .ok ["using A", "usingB", "J=K", "A", "C"] := eq_ok_of_toOption (by decide +kernel)
  exact ⟨_, declares, rfl, ((Emitter.default .cSharp).merge_union a b "").2.2.1 _ declares⟩

end TemplateCompiler
