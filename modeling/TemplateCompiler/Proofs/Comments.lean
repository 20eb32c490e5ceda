import TemplateCompiler.Proofs.Comparisons.Lockstep
import TemplateCompiler.Proofs.Markup.Splicing

/-! # Comments

A comment in literal text leaves no trace (`Compiler.comment_inert`). In front of a tag, or at the
end of a text, it only moves what comes later: the literal before it has been collected all the same,
and functions stay as open as they were. What a comment holds is of no concern, as long as nothing in
it ends it (`Markup.body?_comment`).
-/

namespace TemplateCompiler

open MonadAttach (CanReturn)

namespace Markup

variable {text : List Char}

/-- A comment goes on to the first `*%>`, which does not overlap with what stands before. -/
theorem body?_comment (plain : '\\' ∉ text) (goesOn : ¬ ['*', '%', '>'] <:+: text)
    (rest : List Char) :
    body? ['*', '%', '>'] (text ++ '*' :: '%' :: '>' :: rest) = some (text.map .plain, rest) := by
  induction text with
  | nil => simp [body?, List.isPrefixOf]
  | cons c text ih =>
      have later := ih (fun inside => plain (List.mem_cons_of_mem _ inside))
        fun inside => goesOn (inside.trans (List.suffix_cons c text).isInfix)
      have other : c ≠ '\\' := fun same => plain (same ▸ List.mem_cons_self ..)
      have inside : ['*', '%', '>'].isPrefixOf (c :: (text ++ '*' :: '%' :: '>' :: rest)) =
          false := by
        rw [Bool.eq_false_iff]
        intro starts
        obtain ⟨behind, whole⟩ := List.isPrefixOf_iff_prefix.mp starts
        rcases text with _ | ⟨d, _ | ⟨e, more⟩⟩
        · simp at whole
        · simp at whole
        · simp only [List.cons_append, List.nil_append, List.cons.injEq] at whole
          obtain ⟨rfl, rfl, rfl, _⟩ := whole
          exact goesOn ⟨[], more, rfl⟩
      rw [List.cons_append, body?_plain _ _ other inside, later]
      rfl

/-- A comment is the first section of the text that begins with it. -/
theorem section?_comment (plain : '\\' ∉ text) (goesOn : ¬ ['*', '%', '>'] <:+: text)
    (rest : List Char) :
    ∃ written, section? (['<', '%'] ++ '*' :: (text ++ '*' :: '%' :: '>' :: rest)) =
      some (⟨[], written, .body .comment (text.map .plain)⟩, rest) := by
  have closed := body?_comment plain goesOn rest
  have found : directive? ('*' :: (text ++ '*' :: '%' :: '>' :: rest)) =
      some (.body .comment (text.map .plain), rest) := by
    rw [directive?, opening?_star]
    change (body? ['*', '%', '>'] _).map _ = _
    rw [closed]
    rfl
  have tagged : splitAt? ['<', '%'] (['<', '%'] ++ '*' :: (text ++ '*' :: '%' :: '>' :: rest)) =
      some ([], '*' :: (text ++ '*' :: '%' :: '>' :: rest)) :=
    splitAt?_tag (show splitAt? ['<', '%'] [] = none from rfl) _
  rw [section?, tagged]
  dsimp only
  rw [found]
  exact ⟨_, rfl⟩

end Markup

open Markup

namespace Draft

variable {writer : Writer} {ancestors : List Identity} {draft : Draft} {text : List Char}

/-- The draft behind a comment in literal text. -/
def behindComment (writer : Writer) (draft : Draft) (written : List Char) (tokens : List Token) :
    Draft :=
  ((draft.atTag writer []).atClose .comment written tokens).clear

theorem tree_behindComment (written : List Char) (tokens : List Token) :
    (draft.behindComment writer written tokens).tree =
      (draft.addPiece writer (.literal draft.pending.toList)).tree := by
  have same : (draft.behindComment writer written tokens).tree =
      (draft.addPiece writer (.literal (draft.pending.toList ++ []))).tree := rfl
  rw [same, List.append_nil]

variable (writer ancestors) in
/-- **A comment leads** from literal text to literal text, which has been taken up. -/
theorem leadsTo_behindComment (state : draft.state = .literal) (plain : '\\' ∉ text)
    (goesOn : ¬ ['*', '%', '>'] <:+: text) (rest : List Char) :
    ∃ written tokens, LeadsTo writer ancestors draft
      (['<', '%'] ++ '*' :: (text ++ '*' :: '%' :: '>' :: rest))
      (draft.behindComment writer written tokens) rest := by
  obtain ⟨written, found⟩ := section?_comment plain goesOn rest
  obtain ⟨last, leads, performed⟩ := leadsTo_of_section writer ancestors state found
  exact ⟨written, _, leads.trans (.of_step performed)⟩

/-- There is nothing to take up behind a comment. -/
theorem addPiece_behindComment (written : List Char) (tokens : List Token) :
    (draft.behindComment writer written tokens).addPiece writer (.literal []) =
      draft.behindComment writer written tokens := by
  refine addPiece_of_none _ ?_ rfl rfl
  simp [Piece.fragments]

/-- At the end of a text, a comment leaves no trace. -/
theorem finish_behindComment (state : draft.state = .literal) (written : List Char)
    (tokens : List Token) :
    (draft.behindComment writer written tokens).finish writer = draft.finish writer := by
  have ended : (draft.behindComment writer written tokens).state = .literal := rfl
  have nothing : (draft.behindComment writer written tokens).pending.toList = [] := rfl
  have mode : (draft.behindComment writer written tokens).mode = draft.mode := rfl
  have start : (draft.behindComment writer written tokens).functionStart =
    draft.functionStart := rfl
  rw [finish_literal ended, finish_literal state, nothing, addPiece_behindComment,
    mode, start, tree_behindComment]

/-- In front of a tag, a comment only moves what comes later. -/
theorem inStep_behindComment (written : List Char) (tokens : List Token) :
    ((draft.behindComment writer written tokens).atTag writer []).InStep False Eq 2
      (draft.atTag writer []) where
  state := rfl
  pending := rfl
  mode := rfl
  ending := rfl
  places := False.elim
  trees := by
    have moved : ((draft.behindComment writer written tokens).atTag writer []).tree =
        ((draft.behindComment writer written tokens).addPiece writer (.literal [])).tree := rfl
    have tagged : (draft.atTag writer []).tree =
        (draft.addPiece writer (.literal (draft.pending.toList ++ []))).tree := rfl
    rw [moved, addPiece_behindComment, tagged, List.append_nil, tree_behindComment]

section Run

variable {m : Type → Type} [Monad m] [LawfulMonad m]
  {compose : IncludeTree → String → Location → m (Except ParseError IncludeTree)}
  (composes : ∀ tree path location elsewhere, GoesAlike (Parallel False Eq)
    (compose tree path location) (compose tree path elsewhere))
include composes

/-- **A comment in literal text** is read as if it was not there. -/
theorem run_comment (state : draft.state = .literal ∨ draft.state = .lessThan)
    (plain : '\\' ∉ text) (goesOn : ¬ ['*', '%', '>'] <:+: text) {rest : List Char}
    (behind : rest = [] ∨ ['<', '%'] <+: rest) :
    GoesAlike (Parallel False Eq)
      (run writer ancestors compose draft
        (['<', '%'] ++ '*' :: (text ++ '*' :: '%' :: '>' :: rest)))
      (run writer ancestors compose draft rest) := by
  have inLiteral (draft : Draft) (state : draft.state = .literal) :
      GoesAlike (Parallel False Eq)
        (run writer ancestors compose draft
          (['<', '%'] ++ '*' :: (text ++ '*' :: '%' :: '>' :: rest)))
        (run writer ancestors compose draft rest) := by
    obtain ⟨written, tokens, leads⟩ :=
      leadsTo_behindComment writer ancestors state plain goesOn rest
    rw [leads.run_eq]
    rcases behind with rfl | ⟨more, rfl⟩
    · rw [run, run, finish_behindComment state]
      exact .refl (.refl fun _ => rfl) _
    · have tagged : splitAt? ['<', '%'] (['<', '%'] ++ more) = some ([], more) :=
        splitAt?_tag (show splitAt? ['<', '%'] [] = none from rfl) _
      rw [(leadsTo_atTag writer ancestors state tagged).run_eq,
        (leadsTo_atTag writer ancestors rfl tagged).run_eq]
      refine (inStep_behindComment written tokens).run (.same writer) ?_ rfl more
      rintro tree _ path location elsewhere rfl _
      exact composes tree path location elsewhere
  rcases state with literal | lessThan
  · exact inLiteral draft literal
  · -- The `<` before a comment is literal text, as it is before a tag and at the end.
    have same : draft = draft.goTo .lessThan := by
      rw [← lessThan]
      rfl
    have steps : (draft.goTo .lessThan).step writer ancestors '<' =
        ((draft.push '<').goTo .literal).step writer ancestors '<' := step_lessThan (by decide)
    have commented : run writer ancestors compose (draft.goTo .lessThan)
        (['<', '%'] ++ '*' :: (text ++ '*' :: '%' :: '>' :: rest)) =
        run writer ancestors compose ((draft.push '<').goTo .literal)
          (['<', '%'] ++ '*' :: (text ++ '*' :: '%' :: '>' :: rest)) :=
      (LeadsTo.of_same steps).run_eq
    have uncommented : run writer ancestors compose (draft.goTo .lessThan) rest =
        run writer ancestors compose ((draft.push '<').goTo .literal) rest := by
      rcases behind with rfl | ⟨more, rfl⟩
      · rw [run, run, finish_lessThan]
      · exact (LeadsTo.of_same steps).run_eq
    rw [same, commented, uncommented]
    exact inLiteral _ rfl

end Run

end Draft

/-- An included tree is taken in alike wherever its directive stands. -/
theorem IncludeTree.adopt_alike {located : Prop} (emitter : Emitter) (ancestors : List Identity)
    (parent child : IncludeTree) {location elsewhere : Location}
    (places : located → elsewhere = location) :
    Parallel located Eq (parent.adopt emitter ancestors child location)
      (parent.adopt emitter ancestors child elsewhere) := by
  simp only [adopt]
  split
  · exact .error rfl fun same => by rw [places same]
  · split
    · exact .error rfl fun same => by rw [places same]
    · exact .ok rfl

namespace Compiler

variable {m : Type → Type} [Monad m] [LawfulMonad m]

/-- **An include goes alike** wherever its directive stands. -/
theorem compose_elsewhere (compiler : Compiler m) (parse? : Option (ParseText m)) (created : Nat)
    (ancestors : List Identity) (parent : IncludeTree) (raw : String)
    (location elsewhere : Location) :
    GoesAlike (Parallel False Eq)
      (compiler.compose parse? created ancestors parent raw location)
      (compiler.compose parse? created ancestors parent raw elsewhere) := by
  refine compose_alike created False.elim rfl rfl
    (IncludeTarget.resolve_alike compiler.loader compiler.emitter.config _ raw False.elim)
    ?_ rfl rfl fun child grown (same : child = grown) => ?_
  · cases parse? with
    | none => exact .none
    | some parse => exact .some fun _ _ _ _ => .refl (.refl fun _ => rfl) _
  · subst same
    exact IncludeTree.adopt_alike compiler.emitter ancestors parent child False.elim

/-- A text is parsed from the drafts behind the front of it. -/
theorem parse_append (compiler : Compiler m) (settings : Settings) (front back : String) :
    compiler.parse (front ++ back) settings =
      (compiler.reads (compiler.below compiler.emitter.config.maxIncludeDepth) 0 [] settings
          front.toList >>= fun draft =>
        ExceptT.mk (Draft.run compiler.emitter.writer []
          (compiler.compose (compiler.below compiler.emitter.config.maxIncludeDepth) 0 []) draft
            back.toList)).run := by
  rw [parse, parseWithin_eq, parseWith_eq_reads, reads, reads, String.toList_append, Draft.reads,
    List.foldlM_append, bind_assoc]
  refine congrArg ExceptT.run (bind_congr fun draft => ?_)
  rw [Draft.run_eq_reads]
  rfl

variable [MonadAttach m] [LawfulMonadAttach m]

/-- **Comments are inert.** Where a text can only lead to literal text, or to a `<` of it, a comment
behind the text leaves no trace in what parsing returns: the tree is the same, and an error is the
same up to its place. Behind the comment the source ends, or it goes on with a tag. -/
theorem comment_inert (compiler : Compiler m) (settings : Settings) (u c v : String)
    (literal : ∀ draft, CanReturn (compiler.reads
        (compiler.below compiler.emitter.config.maxIncludeDepth) 0 [] settings u.toList) draft →
      draft.state = .literal ∨ draft.state = .lessThan)
    (behind : v = "" ∨ ∃ rest, v = "<%" ++ rest) (plain : '\\' ∉ c.toList)
    (goesOn : ¬ "*%>".toList <:+: c.toList) :
    Except.mapError ParseError.unplaced <$>
        compiler.parse (u ++ ("<%*" ++ c ++ "*%>" ++ v)) settings =
      Except.mapError ParseError.unplaced <$> compiler.parse (u ++ v) settings := by
  have written : ("<%*" ++ c ++ "*%>" ++ v).toList =
      ['<', '%'] ++ '*' :: (c.toList ++ '*' :: '%' :: '>' :: v.toList) := by
    simp
  have rest : v.toList = [] ∨ ['<', '%'] <+: v.toList := by
    rcases behind with rfl | ⟨rest, rfl⟩
    · exact .inl rfl
    · exact .inr ⟨rest.toList, by simp⟩
  rw [parse_append, parse_append, written, ExceptT.run_bind, ExceptT.run_bind, map_bind, map_bind]
  refine bind_congr_of_canReturn fun result returned => ?_
  cases result with
  | error cause => rfl
  | ok draft =>
      refine (Draft.run_comment (compiler.compose_elsewhere _ 0 []) (literal draft returned) plain
        goesOn rest).map_eq fun result counterpart parallel => ?_
      cases parallel with
      | ok holds => rw [holds]
      | error unplaced _ => simp only [Except.mapError, unplaced]

/-- A comment behind a `<`, among functions, with tags and runs of stars in it: what is returned is
what the page without it returns. -/
theorem comment_inert_page :
    let compiler := Compiler.ofTexts .visualBasic []
    let settings : Settings := ⟨"page.blade", "/", true, false⟩
    Except.mapError ParseError.unplaced
        (compiler.parse "a<%~ f %>b<<%***%x <%= y %> ~%>\"***%><%~ g %>c" settings) =
      Except.mapError ParseError.unplaced (compiler.parse "a<%~ f %>b<<%~ g %>c" settings) ∧
    (compiler.parse "a<%~ f %>b<<%***%x <%= y %> ~%>\"***%><%~ g %>c" settings).toOption.map
        (fun tree => (tree.template.body.map Fragment.source,
          tree.template.functions.map Fragment.source)) =
      some (["a", "c"], ["\n f ", "b<", " g "]) := by
  intro compiler settings
  have literal : ∀ draft, CanReturn (compiler.reads
        (compiler.below compiler.emitter.config.maxIncludeDepth) 0 [] settings
          "a<%~ f %>b<".toList) draft →
      draft.state = .literal ∨ draft.state = .lessThan := by
    intro draft returned
    have read : (compiler.reads (compiler.below compiler.emitter.config.maxIncludeDepth) 0 []
        settings "a<%~ f %>b<".toList).run = .ok draft := eq_pure_of_canReturn returned
    have ends : (compiler.reads (compiler.below compiler.emitter.config.maxIncludeDepth) 0 []
        settings "a<%~ f %>b<".toList).run.toOption.map Draft.state = some .lessThan := by
      decide +kernel
    rw [read] at ends
    exact .inr (Option.some.inj ends)
  refine ⟨?_, by decide +kernel⟩
  exact compiler.comment_inert settings "a<%~ f %>b<" "**%x <%= y %> ~%>\"**" "<%~ g %>c" literal
    (.inr ⟨"~ g %>c", rfl⟩) (by decide +kernel) (by decide +kernel)

end Compiler

end TemplateCompiler
