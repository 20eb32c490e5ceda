import Mathlib.Data.List.Induction
import TemplateCompiler.Proofs.Parsing.Runs

/-! # The drafts that a parse passes through

`Draft.reads` leads from a draft to the draft behind a text, and composes the includes that
are completed on the way: a run is such a reading and then the end of the text
(`Draft.run_eq_reads`). `Compiler.reads` starts from a new template. A draft that it can return
is a state that a parse passes through, whichever template of a tree of includes is parsed.
-/

namespace TemplateCompiler

variable {m : Type → Type} [Monad m]

@[simp] theorem ofExcept_ok {α : Type} (value : α) :
    (ofExcept (Except.ok value) : ExceptT ParseError m α) = pure value := rfl

@[simp] theorem ofExcept_error {α : Type} (cause : ParseError) :
    (ofExcept (Except.error cause) : ExceptT ParseError m α) = throw cause := rfl

namespace Draft

section Definitions

variable (writer : Writer) (ancestors : List Identity)
  (compose : IncludeTree → String → Location → m (Except ParseError IncludeTree))

/-- The draft of a step after its event has been seen to: an include is composed. -/
def settle (done : Draft × Event) : ExceptT ParseError m Draft :=
  match done.2 with
  | .inclusion path => do
    let tree ← ExceptT.mk (compose done.1.tree path done.1.tagStart)
    return { done.1 with tree := tree }
  | _ => pure done.1

/-- The draft after one more character, with the include that it completes. -/
def advance (draft : Draft) (c : Char) : ExceptT ParseError m Draft :=
  ofExcept (draft.step writer ancestors c) >>= settle compose

/-- The draft after a text has been read. -/
def reads (draft : Draft) (text : List Char) : ExceptT ParseError m Draft :=
  text.foldlM (advance writer ancestors compose) draft

end Definitions

variable {writer : Writer} {ancestors : List Identity}
  {compose : IncludeTree → String → Location → m (Except ParseError IncludeTree)}
  {draft next : Draft} {c : Char}

@[simp] theorem settle_none (draft : Draft) : settle compose (draft, .none) = pure draft := rfl

@[simp] theorem settle_engine (draft : Draft) (name : String) :
    settle compose (draft, .engine name) = pure draft := rfl

/-- Only an include is left to be settled. -/
theorem settle_of_other {event : Event} (other : ∀ path, event ≠ .inclusion path)
    (draft : Draft) : settle compose (draft, event) = pure draft := by
  cases event with
  | none => rfl
  | engine name => rfl
  | inclusion path => exact absurd rfl (other path)

theorem reads_nil (draft : Draft) : reads writer ancestors compose draft [] = pure draft := rfl

theorem reads_cons (draft : Draft) (c : Char) (text : List Char) :
    reads writer ancestors compose draft (c :: text) =
      draft.advance writer ancestors compose c >>= fun next =>
        reads writer ancestors compose next text :=
  List.foldlM_cons

/-- Drafts that read the next character in the same way read the rest in the same way. -/
theorem reads_congr_step {other : Draft} (text : List Char)
    (steps : draft.step writer ancestors c = other.step writer ancestors c) :
    reads writer ancestors compose draft (c :: text) =
      reads writer ancestors compose other (c :: text) := by
  rw [reads_cons, reads_cons, advance, advance, steps]

variable [LawfulMonad m]

theorem advance_of_step (stepped : draft.step writer ancestors c = .ok (next, .none)) :
    draft.advance writer ancestors compose c = pure next := by
  rw [advance, stepped, ofExcept_ok, pure_bind, settle_none]

theorem reads_cons_of_step (text : List Char)
    (stepped : draft.step writer ancestors c = .ok (next, .none)) :
    reads writer ancestors compose draft (c :: text) =
      reads writer ancestors compose next text := by
  rw [reads_cons, advance_of_step stepped, pure_bind]

theorem run_cons_eq (draft : Draft) (c : Char) (text : List Char) :
    run writer ancestors compose draft (c :: text) =
      (draft.advance writer ancestors compose c >>= fun next =>
        ExceptT.mk (run writer ancestors compose next text)).run := by
  rw [run, advance]
  cases draft.step writer ancestors c with
  | error cause => simp
  | ok result =>
      obtain ⟨next, event⟩ := result
      cases event with
      | none => simp
      | engine name => simp
      | inclusion path =>
          simp only [settle, ofExcept_ok, pure_bind, bind_assoc, ExceptT.run_bind, ExceptT.run_mk]
          refine bind_congr fun composition => ?_
          cases composition <;> rfl

/-- **A run reads the text and ends it.** -/
theorem run_eq_reads (draft : Draft) (text : List Char) :
    run writer ancestors compose draft text =
      (reads writer ancestors compose draft text >>= fun last =>
        ofExcept (last.finish writer) : ExceptT ParseError m IncludeTree).run := by
  induction text generalizing draft with
  | nil =>
      rw [run, reads_nil, pure_bind]
      cases draft.finish writer <;> rfl
  | cons c text ih =>
      rw [run_cons_eq, reads_cons, bind_assoc]
      refine congrArg ExceptT.run (bind_congr fun next => ?_)
      exact congrArg ExceptT.mk (ih next)

omit [LawfulMonad m]

/-- Reading a text from a draft goes on as reading another text from another draft: by steps
that leave nothing to be done, and where both drafts read the next character in the same
way. -/
inductive LeadsTo (writer : Writer) (ancestors : List Identity) :
    Draft → List Char → Draft → List Char → Prop where
  | refl (draft : Draft) (text : List Char) : LeadsTo writer ancestors draft text draft text
  | step {draft next last : Draft} {c : Char} {text rest : List Char}
      (stepped : draft.step writer ancestors c = .ok (next, .none))
      (later : LeadsTo writer ancestors next text last rest) :
      LeadsTo writer ancestors draft (c :: text) last rest
  | same {draft other last : Draft} {c : Char} {text rest : List Char}
      (steps : draft.step writer ancestors c = other.step writer ancestors c)
      (later : LeadsTo writer ancestors other (c :: text) last rest) :
      LeadsTo writer ancestors draft (c :: text) last rest

namespace LeadsTo

variable {mid last : Draft} {text middle rest : List Char}

theorem trans (first : LeadsTo writer ancestors draft text mid middle)
    (second : LeadsTo writer ancestors mid middle last rest) :
    LeadsTo writer ancestors draft text last rest := by
  induction first with
  | refl => exact second
  | step stepped _ ih => exact .step stepped (ih second)
  | same steps _ ih => exact .same steps (ih second)

theorem of_step (stepped : draft.step writer ancestors c = .ok (next, .none)) :
    LeadsTo writer ancestors draft (c :: text) next text :=
  .step stepped (.refl ..)

theorem of_same {other : Draft}
    (steps : draft.step writer ancestors c = other.step writer ancestors c) :
    LeadsTo writer ancestors draft (c :: text) other (c :: text) :=
  .same steps (.refl ..)

theorem run_eq (leads : LeadsTo writer ancestors draft text last rest) :
    run writer ancestors compose draft text = run writer ancestors compose last rest := by
  induction leads with
  | refl => rfl
  | step stepped _ ih => rw [run, stepped, ← ih]
  | same steps _ ih => rw [← ih, run, run, steps]

theorem reads_eq [LawfulMonad m] (leads : LeadsTo writer ancestors draft text last rest) :
    reads writer ancestors compose draft text = reads writer ancestors compose last rest := by
  induction leads with
  | refl => rfl
  | step stepped _ ih => rw [reads_cons_of_step _ stepped, ih]
  | same steps _ ih => rw [reads_congr_step _ steps, ih]

end LeadsTo

/-- A draft that differs from another only in where it is and in what is collected. -/
def Continues (draft next : Draft) : Prop :=
  next = { draft with cursor := next.cursor, state := next.state, pending := next.pending }

theorem Continues.trans {draft mid next : Draft} (first : draft.Continues mid)
    (second : mid.Continues next) : draft.Continues next := by
  unfold Continues at first second ⊢
  rw [second, first]

theorem Continues.tagStart {draft next : Draft} (continues : draft.Continues next) :
    next.tagStart = draft.tagStart := by
  rw [continues]

end Draft

section Returns

open MonadAttach (CanReturn)

variable [LawfulMonad m] [MonadAttach m] [LawfulMonadAttach m]

/-- A result that is returned is the one that there is. -/
theorem eq_ok_of_canReturn_ofExcept {α : Type} {result : Except ParseError α} {value : α}
    (returned : CanReturn (ofExcept result : ExceptT ParseError m α) value) :
    result = .ok value := by
  cases result with
  | ok found => rw [eq_of_canReturn_pure returned]
  | error cause =>
      have failed : CanReturn (pure (.error cause) : m (Except ParseError α)) (.ok value) :=
        returned
      cases eq_of_canReturn_pure failed

/-- **What each step of a fold keeps** holds of what the fold returns, together with the items
that it has been given. -/
theorem foldlM_induction {α β : Type} {step : α → β → ExceptT ParseError m α} {start last : α}
    {items : List β} (holds : List β → α → Prop) (valid : holds [] start)
    (kept : ∀ front item state next, front ++ [item] <+: items →
      CanReturn (front.foldlM step start) state → holds front state →
      CanReturn (step state item) next → holds (front ++ [item]) next)
    (returned : CanReturn (items.foldlM step start) last) : holds items last := by
  induction items using List.reverseRecOn generalizing last with
  | nil => rwa [← eq_of_canReturn_pure returned]
  | append_singleton front item ih =>
      rw [List.foldlM_append] at returned
      obtain ⟨mid, folded, returned⟩ := exists_canReturn_of_bind returned
      rw [List.foldlM_cons] at returned
      obtain ⟨next, stepped, returned⟩ := exists_canReturn_of_bind returned
      cases eq_of_canReturn_pure returned
      refine kept front item mid _ (List.prefix_refl _) folded ?_ stepped
      exact ih (fun shorter other state next inside =>
        kept shorter other state next (inside.trans (List.prefix_append _ _))) folded

end Returns

namespace Compiler

/-- How the templates that a template includes are parsed, with so many levels left. -/
def below (compiler : Compiler m) : (depth : Nat) → Option (ParseText m)
  | 0 => none
  | depth + 1 => some (compiler.parseWithin depth)

theorem parseWithin_eq (compiler : Compiler m) (depth : Nat) :
    compiler.parseWithin depth = compiler.parseWith (compiler.below depth) := by
  cases depth <;> rfl

variable (compiler : Compiler m) (parse? : Option (ParseText m)) (created : Nat)
  (ancestors : List Identity) (settings : Settings)

/-- The draft before the text of a template. -/
def startDraft : Draft :=
  Draft.start (compiler.emitter.prepare (compiler.boundTemplate settings (compiler.ids created)))

/-- The drafts behind a text at the start of a template. -/
def reads (text : List Char) : ExceptT ParseError m Draft :=
  Draft.reads compiler.emitter.writer ancestors (compiler.compose parse? created ancestors)
    (compiler.startDraft created settings) text

/-- **A parse reads the text from a new template and ends it.** -/
theorem parseWith_eq_reads [LawfulMonad m] (source : String) :
    compiler.parseWith parse? created ancestors settings source =
      (compiler.reads parse? created ancestors settings source.toList >>= fun last =>
        ofExcept (last.finish compiler.emitter.writer) : ExceptT ParseError m IncludeTree).run := by
  rw [parseWith, newTemplate_eq]
  exact Draft.run_eq_reads _ _

end Compiler

end TemplateCompiler
