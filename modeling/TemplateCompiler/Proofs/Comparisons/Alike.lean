import TemplateCompiler.Proofs.Parsing.Passages

/-! # Results that are alike

Two actions go alike where their results are related, whatever else they do: what goes on in the
same way with related results goes on in the same way behind both (`GoesAlike`). Two results of
parsing are parallel where they are related values, or the same error up to its place
(`Parallel`).
-/

namespace TemplateCompiler

/-! ## Actions that go alike -/

section Actions

variable {m : Type → Type} [Monad m] {α β γ δ : Type} {related : α → β → Prop}
  {first : m α} {second : m β}

/-- Whatever goes on in the same way with related results goes on in the same way with the results
of both actions. -/
structure GoesAlike (related : α → β → Prop) (first : m α) (second : m β) : Prop where
  bind_eq : ∀ {γ : Type} (next : α → m γ) (other : β → m γ),
    (∀ result counterpart, related result counterpart → next result = other counterpart) →
      first >>= next = second >>= other

namespace GoesAlike

theorem refl {reflexive : α → α → Prop} (holds : ∀ result, reflexive result result)
    (action : m α) : GoesAlike reflexive action action where
  bind_eq next other same := by rw [funext fun result => same result result (holds result)]

variable [LawfulMonad m]

theorem pure {result : α} {counterpart : β} (holds : related result counterpart) :
    GoesAlike related (pure result : m α) (Pure.pure counterpart) where
  bind_eq next other same := by rw [pure_bind, pure_bind, same _ _ holds]

theorem bind {later : γ → δ → Prop} {next : α → m γ} {other : β → m δ}
    (alike : GoesAlike related first second)
    (goesOn : ∀ result counterpart, related result counterpart →
      GoesAlike later (next result) (other counterpart)) :
    GoesAlike later (first >>= next) (second >>= other) where
  bind_eq last final same := by
    rw [bind_assoc, bind_assoc]
    exact alike.bind_eq _ _ fun result counterpart holds =>
      (goesOn _ _ holds).bind_eq _ _ same

/-- Actions that go alike have the same results, as far as these are the same where they are
related. -/
theorem map_eq (alike : GoesAlike related first second) {view : α → γ} {other : β → γ}
    (same : ∀ result counterpart, related result counterpart → view result = other counterpart) :
    view <$> first = other <$> second := by
  rw [map_eq_pure_bind, map_eq_pure_bind]
  exact alike.bind_eq _ _ fun result counterpart holds => by rw [same _ _ holds]

end GoesAlike

end Actions

/-! ## Errors without their places -/

/-- The error without its place in the text. An error in an included template keeps its place
there. -/
def ParseError.unplaced : ParseError → ParseError
  | invalidCharacter expected seen _ _ state => invalidCharacter expected seen 0 ⟨0, 0⟩ state
  | unterminatedTag family _ => unterminatedTag family ⟨0, 0⟩
  | unterminatedFunction _ => unterminatedFunction ⟨0, 0⟩
  | functionCloseWithoutOpen _ => functionCloseWithoutOpen ⟨0, 0⟩
  | missingName kind _ => missingName kind ⟨0, 0⟩
  | naming cause _ => naming cause ⟨0, 0⟩
  | includePathEmpty _ => includePathEmpty ⟨0, 0⟩
  | rootedInclude path _ => rootedInclude path ⟨0, 0⟩
  | includePathUnderflow path _ => includePathUnderflow path ⟨0, 0⟩
  | libraryRootMissing path _ => libraryRootMissing path ⟨0, 0⟩
  | includeNotFound path _ => includeNotFound path ⟨0, 0⟩
  | includeUnreadable path reason _ => includeUnreadable path reason ⟨0, 0⟩
  | includeParse path cause _ => includeParse path cause ⟨0, 0⟩
  | classAlreadyIncluded identity _ => classAlreadyIncluded identity ⟨0, 0⟩
  | mergeDependencies path cause _ => mergeDependencies path cause ⟨0, 0⟩
  | includeDepthExceeded path limit _ => includeDepthExceeded path limit ⟨0, 0⟩
  | templateUnreadable path reason => templateUnreadable path reason

/-- Two results with related values, or with errors that differ at most in their places, and not at
all where places are the same. -/
inductive Parallel {α β : Type} (located : Prop) (related : α → β → Prop) :
    Except ParseError α → Except ParseError β → Prop where
  | ok {value : α} {counterpart : β} (holds : related value counterpart) :
      Parallel located related (.ok value) (.ok counterpart)
  | error {cause other : ParseError} (unplaced : other.unplaced = cause.unplaced)
      (same : located → other = cause) : Parallel located related (.error cause) (.error other)

namespace Parallel

variable {α β γ δ : Type} {located : Prop} {related : α → β → Prop}
  {first : Except ParseError α} {second : Except ParseError β}

theorem refl {reflexive : α → α → Prop} (holds : ∀ value, reflexive value value)
    (result : Except ParseError α) : Parallel located reflexive result result := by
  cases result with
  | ok value => exact .ok (holds value)
  | error cause => exact .error rfl fun _ => rfl

/-- Results are parallel where they go on in a parallel way. -/
theorem bind {later : γ → δ → Prop} {next : α → Except ParseError γ}
    {other : β → Except ParseError δ} (parallel : Parallel located related first second)
    (goesOn : ∀ value counterpart, related value counterpart →
      Parallel located later (next value) (other counterpart)) :
    Parallel located later (first >>= next) (second >>= other) := by
  cases parallel with
  | ok holds => exact goesOn _ _ holds
  | error unplaced same => exact .error unplaced same

theorem cases_eq (parallel : Parallel located related first second) :
    (∃ value counterpart, first = .ok value ∧ second = .ok counterpart ∧
      related value counterpart) ∨
    ∃ cause other, first = .error cause ∧ second = .error other ∧
      other.unplaced = cause.unplaced ∧ (located → other = cause) := by
  cases parallel with
  | ok holds => exact .inl ⟨_, _, rfl, rfl, holds⟩
  | error unplaced same => exact .inr ⟨_, _, rfl, rfl, unplaced, same⟩

theorem ite {p q : Prop} [Decidable p] [Decidable q] (same : q ↔ p)
    {third : Except ParseError α} {fourth : Except ParseError β}
    (yes : p → Parallel located related first second)
    (no : Parallel located related third fourth) :
    Parallel located related (if p then first else third) (if q then second else fourth) := by
  by_cases holds : p
  · rw [if_pos holds, if_pos (same.mpr holds)]
    exact yes holds
  · rw [if_neg holds, if_neg fun other => holds (same.mp other)]
    exact no

end Parallel

end TemplateCompiler
