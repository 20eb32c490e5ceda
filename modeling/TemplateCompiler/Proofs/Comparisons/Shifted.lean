import TemplateCompiler.Proofs.Comparisons.Includes

/-! # Templates that are created later

A template is given the id that comes after so many others. Where the ids from there on are the
same, a text is parsed to the same tree, however many templates have been created before
(`Compiler.parseCall_of_agrees`).
-/

namespace TemplateCompiler

open Markup
open MonadAttach (CanReturn)

/-- The same tree twice goes along with itself. -/
theorem Comparison.same (ancestors : List Identity) :
    Comparison (fun tree other => other = tree) (fun _ => True) ancestors ancestors where
  addFragments := by
    rintro tree _ rfl body functions
    rfl
  perform := by
    rintro tree _ directive template rfl _ _ performed free
    exact ⟨template, performed, free, rfl⟩

namespace Compiler

variable {compiler : Compiler Id} {others : Nat → String}

/-- From two numbers on, so many ids are the same as others. -/
def Agrees (ids others : Nat → String) (number start otherStart : Nat) : Prop :=
  ∀ index < number, others (otherStart + index) = ids (start + index)

theorem Agrees.mono {ids : Nat → String} {number smaller start otherStart : Nat}
    (agrees : Agrees ids others number start otherStart) (fewer : smaller ≤ number) :
    Agrees ids others smaller start otherStart :=
  fun index bounded => agrees index (bounded.trans_le fewer)

theorem Agrees.drop {ids : Nat → String} {number start otherStart : Nat} (front : Nat)
    {back : Nat} (agrees : Agrees ids others number start otherStart)
    (enough : front + back ≤ number) :
    Agrees ids others back (start + front) (otherStart + front) := by
  intro index bounded
  have same := agrees (front + index) (by omega)
  rwa [← Nat.add_assoc, ← Nat.add_assoc] at same

/-- A new template is the same where its id is. -/
theorem startDraft_of_agrees {start otherStart : Nat}
    (same : others otherStart = compiler.ids start) (settings : Settings) :
    (compiler.withIds others).startDraft otherStart settings =
      compiler.startDraft start settings := by
  have id : (compiler.withIds others).ids otherStart = compiler.ids start := same
  rw [startDraft, startDraft, id]
  rfl

/-- **What a call of the parser returns** it returns with ids that agree, for each template of the
tree. -/
theorem parseCall_of_agrees {call : Call} {tree : IncludeTree} {created : Nat}
    (agrees : Agrees compiler.ids others tree.size call.created created)
    (returned : CanReturn (compiler.parseCall call) (.ok tree)) :
    (compiler.withIds others).parseCall { call with created := created } = pure (.ok tree) := by
  induction levels : compiler.emitter.config.maxIncludeDepth - call.ancestors.length
    using Nat.strongRecOn generalizing call tree created with
  | ind left ih =>
      have meets : Meets (fun _ => False) (fun tree other => other = tree) tree
          (ExceptT.mk ((compiler.withIds others).parseCall { call with created := created })) := by
        refine meets_of_parseCall compiler (compiler.withIds others) call
          { call with created := created } rfl (.same call.ancestors) rfl
          (fun last size followed => ?_) returned
        have positive : 0 < last.tree.size := by
          rw [IncludeTree.size, IncludeTree.templates_eq, List.length_cons]
          omega
        have first : others created = compiler.ids call.created := agrees 0 (size ▸ positive)
        have start : (compiler.startDraft call.created call.settings).Alongside
            (fun tree other => other = tree)
            ((compiler.withIds others).startDraft created call.settings) := by
          rw [startDraft_of_agrees first]
          exact ⟨⟨_, isBetween_startDraft⟩, ⟨_, isBetween_startDraft⟩, rfl, rfl⟩
        refine meets_of_sections compiler (compiler.withIds others) call
          { call with created := created } rfl (.same call.ancestors) start
          (fun s => isNamed_of_mem_sections) (fun _ _ => trivial) ?_ followed
        rintro _ parent path location elsewhere grown rfl bounded composed
        obtain ⟨room, target, text, child, resolved, loaded, parsed, adopted, grows⟩ :=
          exists_call_of_compose composed
        have again := ih _ (by simp only [List.length_append, List.length_singleton]; omega)
          (agrees.drop parent.size (by omega)) parsed rfl
        have parses : Meets (fun _ => False) (fun tree other => other = tree) child
            (ExceptT.mk ((compiler.withIds others).parseCall ⟨created + parent.size,
              call.ancestors ++ [parent.template.identity], target.settings, text⟩)) := by
          rw [show (compiler.withIds others).parseCall ⟨created + parent.size, _, _, text⟩ =
            pure (.ok child) from again]
          exact .pure rfl
        refine meets_of_compose (compiler.withIds others) { call with created := created } room
          (IncludeTarget.resolve_elsewhere ⟨rfl, rfl⟩ resolved elsewhere) loaded parses
          (fun _ impossible => impossible.elim) ?_
        rintro _ rfl
        exact ⟨grown, IncludeTree.adopt_elsewhere adopted elsewhere, rfl⟩
      obtain ⟨_, again, rfl⟩ := meets.exists_eq
      exact again

/-- An included tree is found by any template with the same settings and identity, where the ids
agree. -/
theorem Finds.elsewhere {call : Call} {parent other child : IncludeTree} {raw : String}
    (finds : compiler.Finds call parent raw child)
    (settings : other.template.settings = parent.template.settings)
    (identity : other.template.identity = parent.template.identity)
    (agrees : Agrees compiler.ids others child.size (call.created + parent.size)
      (call.created + other.size)) : (compiler.withIds others).Finds call other raw child := by
  obtain ⟨room, location, target, text, resolved, loaded, parsed⟩ := finds
  refine ⟨room, location, target, text, settings ▸ resolved, loaded, ?_⟩
  rw [identity]
  exact parseCall_of_agrees agrees parsed

end Compiler

end TemplateCompiler
