import TemplateCompiler.Proofs.Markup.History

/-! # Functions of a template

While functions are open, fragments go to the functions of a template, and to its body otherwise.
Whether functions are open is told by the history of the text read: they begin at a function
block, and end at a code block closed by `~%>` or at the second function block closed since. Two
flags that follow simple rules of their own tell the same (`FunctionFlags.ofText_eq`), and every
state that parsing passes through agrees with both (`Compiler.functions_routed`).
-/

namespace TemplateCompiler

open Markup
open MonadAttach (CanReturn)

/-- What is remembered about functions: that they have started, and that the next function block
is to close them. -/
structure FunctionFlags where
  started : Bool
  shouldClose : Bool
deriving DecidableEq, Repr

/-- The flags that a mode stands for. -/
def FunctionMode.flags : FunctionMode → FunctionFlags
  | off => ⟨false, false⟩
  | on => ⟨true, false⟩
  | ending => ⟨true, true⟩

namespace FunctionFlags

/-- The flags in a directive that has been opened. -/
def enter (flags : FunctionFlags) (opening : Opening) : FunctionFlags :=
  if opening = .body .function then { flags with started := true } else flags

/-- The flags behind the close tag of a section. -/
def close (flags : FunctionFlags) (s : Section) : FunctionFlags :=
  if s.endsInTilde || (s.isFunctionBlock && flags.shouldClose) then ⟨false, false⟩
  else if s.isFunctionBlock then { flags with shouldClose := true }
  else flags

/-- The flags behind one more section. -/
def next (flags : FunctionFlags) (s : Section) : FunctionFlags :=
  (flags.enter s.directive.opening).close s

/-- The flags at the end of a text: those behind its sections, in the directive that its tail
opens. -/
def ofText (text : List Char) : FunctionFlags :=
  let behind := (sections text).1.foldl next ⟨false, false⟩
  match (splitAt? ['<', '%'] (sections text).2).bind fun found => opening? found.2 with
  | none => behind
  | some (opening, _) => behind.enter opening

/-- A history tells both flags. -/
theorem flags_mode (history : History) :
    history.mode.flags =
      ⟨history.functions?.isSome, history.functions?.any OpenFunctions.hasBlock⟩ := by
  cases open_ : history.functions? with
  | none => simp [History.mode, open_, FunctionMode.flags]
  | some functions =>
      by_cases block : functions.hasBlock = true <;>
        simp [History.mode, OpenFunctions.mode, open_, block, FunctionMode.flags]

theorem flags_enter (history : History) (opening : Opening) :
    (history.enter opening).mode.flags = history.mode.flags.enter opening := by
  rw [flags_mode, flags_mode]
  by_cases function : opening = .body .function
  · cases open_ : history.functions? with
    | none => simp [History.enter, History.begins, open_, function, enter, OpenFunctions.hasBlock]
    | some functions => simp [History.enter, History.begins, open_, function, enter]
  · simp [History.enter, History.begins, function, enter]

/-- The flags behind a section, where functions are open in a function block. -/
theorem flags_close (history : History) (s : Section) (begins : Bool)
    (started : s.isFunctionBlock = true → history.functions?.isSome = true) :
    (history.close s begins).mode.flags = history.mode.flags.close s := by
  rw [flags_mode, flags_mode]
  cases open_ : history.functions? with
  | none =>
      have other : s.isFunctionBlock = false := by
        by_contra function
        simpa [open_] using started (by simpa using function)
      simp [History.close, open_, close, other]
  | some functions =>
      unfold close
      by_cases ended : functions.isEndedBy s = true
      · have closes : (s.endsInTilde || (s.isFunctionBlock && functions.hasBlock)) = true := ended
        simp [History.close, open_, ended, closes]
      · have goesOn : (s.endsInTilde || (s.isFunctionBlock && functions.hasBlock)) = false :=
          Bool.eq_false_iff.mpr ended
        by_cases function : s.isFunctionBlock = true <;>
          simp_all [History.close, OpenFunctions.hasBlock_extend]

theorem flags_next (history : History) (s : Section) :
    (history.next s).mode.flags = history.mode.flags.next s := by
  have tagged : (history.tag s.literal).mode = history.mode := rfl
  rw [History.next, flags_close, flags_enter, tagged]
  · rfl
  · intro function
    have opening : s.directive.opening = .body .function := by
      cases directive : s.directive <;>
        simp_all [Section.isFunctionBlock, Directive.region?, Directive.opening]
    obtain ⟨functions, open_⟩ := (history.tag s.literal).exists_of_enter_function
    rw [opening, open_]
    rfl

/-- **The flags tell what the history tells.** -/
theorem ofText_eq (text : List Char) : ofText text = (History.ofText text).mode.flags := by
  have behind (sections : List Section) (history : History) :
      sections.foldl next history.mode.flags =
        (sections.foldl History.next history).mode.flags := by
    induction sections generalizing history with
    | nil => rfl
    | cons s sections ih => rw [List.foldl_cons, ← flags_next, ih, List.foldl_cons]
  have closed : (sections text).1.foldl next ⟨false, false⟩ =
      (History.behind (sections text).1).mode.flags := behind _ .start
  unfold ofText History.ofText History.atTail
  cases tagged : splitAt? ['<', '%'] (sections text).2 with
  | none => exact closed
  | some found =>
      obtain ⟨literal, tag⟩ := found
      have tagMode : ((History.behind (sections text).1).tag literal).mode =
          (History.behind (sections text).1).mode := rfl
      cases opens : opening? tag with
      | none => simp only [opens, Option.bind_some, closed, tagMode]
      | some found => simp only [opens, Option.bind_some, flags_enter, closed, tagMode]

end FunctionFlags

namespace Compiler

variable {m : Type → Type} [Monad m] [LawfulMonad m] [MonadAttach m] [LawfulMonadAttach m]
  {compiler : Compiler m} {parse? : Option (ParseText m)} {created : Nat}
  {ancestors : List Identity} {settings : Settings}

/-- **Functions that are left open** at the end of a text are an error at the block with which
they began, unless reading the text has failed before. -/
theorem parseWith_eq_unterminated {source : String} {functions : OpenFunctions}
    (open_ : (History.ofText source.toList).functions? = some functions)
    (ends : EndsInLiteral source.toList ∨ EndsInFunctionBlock source.toList) :
    compiler.parseWith parse? created ancestors settings source =
      (compiler.reads parse? created ancestors settings source.toList >>= fun _ =>
        throw (.unterminatedFunction functions.start) : ExceptT ParseError m IncludeTree).run := by
  rw [parseWith_eq_reads]
  refine congrArg ExceptT.run (bind_congr_of_canReturn fun last read => ?_)
  rw [← ofExcept_error]
  refine congrArg ofExcept ?_
  rcases ends with literal | ⟨literal, tag, inner, tagged, opens⟩
  · have ended := Draft.finish_of_literal keepsFragments follows_startDraft
      isBetween_startDraft literal read
    simpa only [open_] using ended
  · have ended := Draft.finish_of_directive keepsFragments follows_startDraft
      isBetween_startDraft tagged read
    rw [if_pos (openedFamily_eq_function_iff.mpr ⟨inner, opens⟩)] at ended
    obtain ⟨same, whole, ended⟩ := ended
    cases open_.symm.trans whole
    exact ended

/-- **Routing of fragments.** In every state that parsing passes through, the flags for functions
tell whether functions are open by the history of the text read, and body and functions have the
fragments of that history, in order. A parse that succeeds ends outside functions; a text that
ends in literal text with functions open, or in a function block, fails at the block with which
the functions began. -/
theorem functions_routed (compiler : Compiler m) (depth created : Nat)
    (ancestors : List Identity) (settings : Settings) (source : String) :
    let writer := compiler.emitter.writer
    let reads := compiler.reads (compiler.below depth) created ancestors settings
    let parsed := compiler.parseWithin depth created ancestors settings source
    (∀ text, text <+: source.toList → ∀ draft, CanReturn (reads text) draft →
      let history := History.ofText text
      let flags := draft.mode.flags
      flags = FunctionFlags.ofText text ∧ (flags.shouldClose = true → flags.started = true) ∧
        flags.started = history.functions?.isSome ∧
        flags.shouldClose = history.functions?.any OpenFunctions.hasBlock ∧
        draft.tree.template.body = history.stream writer false ∧
        draft.tree.template.functions = history.stream writer true) ∧
    (∀ tree, CanReturn parsed (.ok tree) →
      let history := History.ofText source.toList
      history.functions? = none ∧
        (∀ last, CanReturn (reads source.toList) last → last.mode = .off) ∧
        tree.template.body = history.stream writer false ++
          (Piece.literal (sections source.toList).2).fragments writer ∧
        tree.template.functions = history.stream writer true) ∧
    ∀ functions ∈ (History.ofText source.toList).functions?,
      EndsInLiteral source.toList ∨ EndsInFunctionBlock source.toList →
      parsed = (reads source.toList >>= fun _ =>
        throw (.unterminatedFunction functions.start) : ExceptT ParseError m IncludeTree).run := by
  intro writer reads parsed
  have same : parsed =
      compiler.parseWith (compiler.below depth) created ancestors settings source := by
    rw [← parseWithin_eq]
  refine ⟨fun text _ draft returned => ?_, fun tree returned => ?_, fun functions open_ ends => ?_⟩
  · have follows := follows_of_reads returned
    have told := FunctionFlags.flags_mode (History.ofText text)
    rw [← follows.mode] at told
    refine ⟨?_, ?_, congrArg FunctionFlags.started told, congrArg FunctionFlags.shouldClose told,
      follows.body, follows.functions⟩
    · rw [FunctionFlags.ofText_eq, follows.mode]
    · cases draft.mode <;> decide
  · rw [same] at returned
    obtain ⟨_, closed, body, functions⟩ := fragments_of_parseWith returned
    refine ⟨closed, fun last read => ?_, body, functions⟩
    rw [(follows_of_reads read).mode, History.mode_eq_off_iff, closed]
  · rw [same]
    exact parseWith_eq_unterminated open_ ends

/-- Functions that a second block ends, functions that a raw block ends, and functions that are
left open. -/
theorem functions_routed_page :
    let compiler := Compiler.ofTexts .cSharp []
    let settings : Settings := ⟨"page.blade", "/site", true, false⟩
    let reads := compiler.reads (compiler.below 2) 0 [] settings
    let source := "a<%~f%>b<%~g%>c<%~h%><%= v%><%i~%>d"
    (∃ draft, CanReturn (reads "a<%~f%>b<%".toList) draft ∧ draft.mode.flags = ⟨true, true⟩ ∧
      draft.tree.template.functions.map Fragment.source = ["\nf", "b"]) ∧
    (∃ tree, CanReturn (compiler.parseWithin 2 0 [] settings source) (.ok tree) ∧
      tree.template.body.map Fragment.source = ["a", "c", "d"] ∧
      tree.template.functions.map Fragment.source = ["\nf", "b", "g", "\nh", "v", "i"]) ∧
    compiler.parseWithin 2 0 [] settings "a\n<%~f%>b" = .error (.unterminatedFunction ⟨2, 2⟩) := by
  intro compiler settings reads source
  refine ⟨?_, ?_, ?_⟩
  · have routed := (functions_routed compiler 2 0 [] settings "a<%~f%>b<%").1 _
      (List.prefix_refl _)
    obtain ⟨draft, read⟩ := Option.isSome_iff_exists.mp
      (show (Except.toOption (reads "a<%~f%>b<%".toList)).isSome = true by decide +kernel)
    obtain ⟨flags, _, _, _, _, functions⟩ := routed draft (canReturn_of_toOption read)
    refine ⟨draft, canReturn_of_toOption read, ?_, ?_⟩
    · rw [flags]
      decide +kernel
    · rw [functions]
      decide +kernel
  · have routed := (functions_routed compiler 2 0 [] settings source).2.1
    obtain ⟨tree, parsed⟩ := Option.isSome_iff_exists.mp (show (Except.toOption
      (compiler.parseWithin 2 0 [] settings source)).isSome = true by decide +kernel)
    obtain ⟨_, _, body, functions⟩ := routed tree (canReturn_of_toOption parsed)
    refine ⟨tree, canReturn_of_toOption parsed, ?_, ?_⟩
    · rw [body]
      decide +kernel
    · rw [functions]
      decide +kernel
  · have routed := (functions_routed compiler 2 0 [] settings "a\n<%~f%>b").2.2
    obtain ⟨functions, open_, start⟩ := Option.map_eq_some_iff.mp
      (show (History.ofText "a\n<%~f%>b".toList).functions?.map OpenFunctions.start =
        some ⟨2, 2⟩ by decide +kernel)
    have literal : splitAt? ['<', '%'] (sections "a\n<%~f%>b".toList).2 = none := by
      decide +kernel
    obtain ⟨draft, read⟩ := Option.isSome_iff_exists.mp
      (show (Except.toOption (reads "a\n<%~f%>b".toList)).isSome = true by decide +kernel)
    have passed : reads "a\n<%~f%>b".toList = Except.ok draft := canReturn_of_toOption read
    refine (routed functions open_ (.inl literal)).trans ?_
    rw [start]
    exact congrArg (fun read => (read >>= fun _ => throw (.unterminatedFunction ⟨2, 2⟩) :
      ExceptT ParseError Id IncludeTree).run) passed

end Compiler

end TemplateCompiler
