import TemplateCompiler.Proofs.Path.Composition

/-! # Walking out of the start

Where walking out is allowed, every path has a normal form, and a `..` that walks out stays the
first segment whatever comes behind it (`Path.HasLeft.of_walk?`). Where it is not allowed, the walk
is the same one up to the first `..` that walks out, and fails there. So the normal form that allows
it tells all about the one that does not (`Path.refine_strict_eq`).
-/

namespace TemplateCompiler.Path

/-- A stack that has walked out: its first segment is `..`. -/
def HasLeft (stack : List (List Char)) : Prop := stack.getLast? = some ['.', '.']

instance (stack : List (List Char)) : Decidable (HasLeft stack) :=
  inferInstanceAs (Decidable (_ = _))

variable {stack next final segments : List (List Char)} {path result : String}

/-! ## Where walking out is allowed -/

theorem exists_stepBack? (stack : List (List Char)) : ∃ next, stepBack? true stack = some next := by
  cases stack with
  | nil => exact ⟨_, rfl⟩
  | cons top below =>
      simp only [stepBack?, ↓reduceIte]
      split_ifs <;> exact ⟨_, rfl⟩

theorem exists_walk? (stack segments : List (List Char)) :
    ∃ final, walk? true stack segments = some final := by
  induction segments generalizing stack with
  | nil => exact ⟨stack, rfl⟩
  | cons segment rest ih =>
      rw [walk?]
      split_ifs
      · obtain ⟨next, stepped⟩ := exists_stepBack? stack
        rw [stepped]
        exact ih next
      · exact ih stack
      · exact ih (segment :: stack)

namespace HasLeft

theorem cons (left : HasLeft stack) (segment : List Char) : HasLeft (segment :: stack) := by
  unfold HasLeft at left ⊢
  rw [List.getLast?_cons, left]
  rfl

/-- A `..` that has walked out is not dropped. -/
theorem of_stepBack? (left : HasLeft stack) (stepped : stepBack? true stack = some next) :
    HasLeft next := by
  cases stack with
  | nil => cases left
  | cons top below =>
      simp only [stepBack?, ↓reduceIte] at stepped
      split_ifs at stepped with parent root
      · cases stepped
        exact left.cons _
      · cases stepped
        rw [root] at left
        cases below with
        | nil => cases left
        | cons next below => exact (show HasLeft (next :: below) from left).cons _
      · cases stepped
        cases next with
        | nil => exact absurd (Option.some.inj left) parent
        | cons segment next => exact left

/-- **What has walked out stays outside.** -/
theorem of_walk? (left : HasLeft stack) (walked : walk? true stack segments = some final) :
    HasLeft final := by
  induction segments generalizing stack with
  | nil =>
      cases walked
      exact left
  | cons segment rest ih =>
      rw [walk?] at walked
      split_ifs at walked
      · obtain ⟨next, stepped, continued⟩ := Option.bind_eq_some_iff.mp walked
        exact ih (left.of_stepBack? stepped) continued
      · exact ih left walked
      · exact ih (left.cons segment) walked

end HasLeft

/-! ## Where walking out is not allowed -/

/-- A step back either stays inside and is the same one, or walks out. -/
theorem stepBack?_cases (inside : IsStack false stack) :
    (∃ next, IsStack false next ∧ stepBack? false stack = some next ∧
      stepBack? true stack = some next) ∨
    (∃ next, HasLeft next ∧ stepBack? false stack = none ∧ stepBack? true stack = some next) := by
  obtain ⟨inner, start, rfl, leadsDown, isStart⟩ := inside
  cases inner with
  | cons top inner =>
      have down := leadsDown top (List.mem_cons_self ..)
      refine .inl ⟨inner ++ start, ⟨inner, start, rfl, ?_, isStart⟩, ?_, ?_⟩
      · exact fun segment member => leadsDown segment (List.mem_cons_of_mem _ member)
      · simp [stepBack?, down.notParent, down.filled]
      · simp [stepBack?, down.notParent, down.filled]
  | nil =>
      cases isStart with
      | root => exact .inr ⟨[['.', '.']], rfl, rfl, rfl⟩
      | parents count allowed =>
          rw [allowed rfl]
          exact .inr ⟨[['.', '.']], rfl, rfl, rfl⟩

theorem not_hasLeft (inside : IsStack false stack) : ¬ HasLeft stack := by
  obtain ⟨inner, start, rfl, leadsDown, isStart⟩ := inside
  intro left
  cases isStart with
  | root =>
      rw [HasLeft, List.getLast?_concat] at left
      cases left
  | parents count allowed =>
      rw [allowed rfl, List.replicate_zero, List.append_nil] at left
      exact (leadsDown _ (List.mem_of_getLast? left)).notParent rfl

/-- **The strict walk is the free one, or fails where that one walks out.** -/
theorem walk?_strict_eq (inside : IsStack false stack)
    (unbroken : ∀ segment ∈ segments, ∀ c ∈ segment, isSeparator c = false)
    (walked : walk? true stack segments = some final) :
    walk? false stack segments = if HasLeft final then none else some final := by
  induction segments generalizing stack with
  | nil =>
      cases walked
      rw [if_neg (not_hasLeft inside)]
      rfl
  | cons segment rest ih =>
      have behind := fun other later => unbroken other (List.mem_cons_of_mem segment later)
      rw [walk?] at walked ⊢
      by_cases parent : segment = ['.', '.']
      · rw [if_pos parent] at walked ⊢
        rcases stepBack?_cases inside with ⟨next, stays, strict, free⟩ | ⟨next, left, strict, free⟩
        · rw [free] at walked
          rw [strict]
          exact ih stays behind walked
        · rw [free] at walked
          rw [strict, if_pos (left.of_walk? walked)]
          rfl
      rw [if_neg parent] at walked ⊢
      by_cases idle : segment = [] ∨ isDot segment = true
      · rw [if_pos idle] at walked ⊢
        exact ih inside behind walked
      · rw [if_neg idle] at walked ⊢
        rw [not_or, Bool.not_eq_true] at idle
        have down : IsInner segment :=
          ⟨idle.1, idle.2, parent, unbroken segment (List.mem_cons_self ..)⟩
        exact ih (inside.cons down) behind walked

/-- The same, from the start of a path on. -/
theorem exists_stack? (path : String) :
    ∃ final, stack? true path = some final ∧
      stack? false path = if HasLeft final then none else some final := by
  have unbroken : ∀ segment ∈ pieces path, ∀ c ∈ segment, isSeparator c = false :=
    fun segment member c char => (Text.mem_of_mem_split member c char).2
  have split : pieces path = Text.split isSeparator path.toList := rfl
  unfold stack?
  rw [← split]
  cases segments : pieces path with
  | nil => exact absurd segments (Text.split_ne_nil _ _)
  | cons segment rest =>
      rw [segments] at unbroken
      cases segment with
      | nil =>
          obtain ⟨final, walked⟩ := exists_walk? [[]] rest
          exact ⟨final, walked, walk?_strict_eq ⟨[], [[]], rfl, by simp, .root⟩
            (fun other later => unbroken other (List.mem_cons_of_mem _ later)) walked⟩
      | cons c segment =>
          obtain ⟨final, walked⟩ := exists_walk? [] ((c :: segment) :: rest)
          exact ⟨final, walked, walk?_strict_eq ⟨[], [], rfl, by simp, .parents 0 fun _ => rfl⟩
            unbroken walked⟩

/-- A normal form shows by its first segment whether its stack has walked out. -/
theorem head?_segments_iff (isStack : IsStack true stack) :
    (Path.segments (textOfSegments stack.reverse)).head? = some ['.', '.'] ↔ HasLeft stack := by
  have written := isStack.writtenSegments_eq
  obtain ⟨start, inner, isStart, leadsDown, order⟩ := isStack.exists_reverse
  have canonical := isCanonical_textOfSegments isStart leadsDown
  rw [← order] at canonical
  rw [HasLeft, ← List.head?_reverse]
  generalize textOfSegments stack.reverse = text at written canonical ⊢
  rw [← written, writtenSegments]
  split_ifs with empty root
  · rw [empty]
    exact iff_of_false (by decide) (by decide)
  · rw [root]
    exact iff_of_false (by decide) (by decide)
  · rw [canonical.split_eq_segments]

/-- **The strict normal form is the free one**, where the path does not walk out. It does where the
free normal form starts with `..`, and then the error tells the path. -/
theorem refine_strict_eq (path : String) :
    ∃ result, refine path true = .ok result ∧
      refine path false =
        if (Path.segments result).head? = some ['.', '.'] then .error (.underflow path)
        else .ok result := by
  obtain ⟨final, free, strict⟩ := exists_stack? path
  have leaves := head?_segments_iff (isStack_of_stack? free)
  refine ⟨textOfSegments final.reverse, by rw [refine, normalSegments?_eq, free]; rfl, ?_⟩
  rw [refine, normalSegments?_eq, strict]
  by_cases left : HasLeft final
  · rw [if_pos left, if_pos (leaves.mpr left)]
    rfl
  · rw [if_neg left, if_neg (mt leaves.mp left)]
    rfl

-- The first path leads out and in again, the second one stays inside.
example :
    refine "a\\../../b/ . /c" true = .ok "../b/c" ∧
      refine "a\\../../b/ . /c" false = .error (.underflow "a\\../../b/ . /c") ∧
      refine "a/b/..//../c\\" true = .ok "c" ∧ refine "a/b/..//../c\\" false = .ok "c" := by
  decide +kernel

end TemplateCompiler.Path
