import TemplateCompiler.Proofs.EngineDetection
import TemplateCompiler.Proofs.Reproduction

/-! # Two parses side by side

Two parses of one text go along with each other where what the first has read is related to what
the second has read: both are between the same sections, in the same mode (`Draft.Alongside`). A
relation of trees is kept where it does not break when both take up the same fragments or perform
the same directive (`Comparison`). Then one section leads on from drafts alongside each other to
drafts alongside each other (`Draft.Alongside.follow`), and so do all sections of a text
(`Compiler.meets_of_sections`), as far as the includes of the first parse have counterparts in the
second one. An include may fail there with an error that is excused (`Meets`).
-/

namespace TemplateCompiler

open Markup
open MonadAttach (CanReturn)

/-! ## Results that meet a value -/

section Meets

variable {α β γ δ : Type}

/-- A second result beside a value of the first one: a related value, or an excused error. -/
inductive Meets (excused : ParseError → Prop) (related : α → β → Prop) (value : α) :
    ExceptT ParseError Id β → Prop where
  | pure {counterpart : β} (holds : related value counterpart) :
      Meets excused related value (pure counterpart)
  | throw {cause : ParseError} (holds : excused cause) :
      Meets excused related value (throw cause)

namespace Meets

variable {excused : ParseError → Prop} {related : α → β → Prop} {value : α}
  {result : ExceptT ParseError Id β}

theorem bind {other : γ → δ → Prop} {next : γ} {later : β → ExceptT ParseError Id δ}
    (meets : Meets excused related value result)
    (goesOn : ∀ counterpart, related value counterpart →
      Meets excused other next (later counterpart)) :
    Meets excused other next (result >>= later) := by
  cases meets with
  | pure holds =>
      rw [pure_bind]
      exact goesOn _ holds
  | throw holds => exact .throw holds

theorem mono {other : α → β → Prop} (meets : Meets excused related value result)
    (implies : ∀ counterpart, related value counterpart → other value counterpart) :
    Meets excused other value result := by
  cases meets with
  | pure holds => exact .pure (implies _ holds)
  | throw holds => exact .throw holds

theorem cases_eq (meets : Meets excused related value result) :
    (∃ counterpart, result = Pure.pure counterpart ∧ related value counterpart) ∨
      ∃ cause, result = MonadExcept.throw cause ∧ excused cause := by
  cases meets with
  | pure holds => exact .inl ⟨_, rfl, holds⟩
  | throw holds => exact .inr ⟨_, rfl, holds⟩

/-- Where no error is excused, there is a second value. -/
theorem exists_eq (meets : Meets (fun _ => False) related value result) :
    ∃ counterpart, result = Pure.pure counterpart ∧ related value counterpart := by
  cases meets with
  | pure holds => exact ⟨_, rfl, holds⟩
  | throw holds => cases holds

/-- A traversal meets a value where it does so up to two elements next to each other, past these,
and to its end. -/
theorem foldlM_pair {ι : Type} {step : β → ι → ExceptT ParseError Id β} {front back : List ι}
    {one two : ι} {start : β} {atPair behind : α} {outset turn : α → β → Prop}
    (reads : Meets excused outset atPair (front.foldlM step start))
    (turns : ∀ state, outset atPair state →
      Meets excused turn behind (step state one >>= (step · two)))
    (goesOn : ∀ state, turn behind state →
      Meets excused related value (back.foldlM step state)) :
    Meets excused related value ((front ++ one :: two :: back).foldlM step start) := by
  simp only [List.foldlM_append, List.foldlM_cons]
  refine reads.bind fun state holds => ?_
  rw [← bind_assoc]
  exact (turns state holds).bind goesOn

end Meets

/-- A traversal goes up to two elements next to each other, past the one and the other, and to its
end. -/
theorem exists_of_foldlM_pair {ι : Type} {step : β → ι → ExceptT ParseError Id β}
    {front back : List ι} {one two : ι} {start last : β}
    (returned : CanReturn ((front ++ one :: two :: back).foldlM step start) last) :
    ∃ atPair mid behind, CanReturn (front.foldlM step start) atPair ∧
      CanReturn (step atPair one) mid ∧ CanReturn (step mid two) behind ∧
      CanReturn (back.foldlM step behind) last := by
  simp only [List.foldlM_append, List.foldlM_cons] at returned
  obtain ⟨atPair, readFront, returned⟩ := exists_canReturn_of_bind returned
  obtain ⟨mid, readOne, returned⟩ := exists_canReturn_of_bind returned
  obtain ⟨behind, readTwo, readBack⟩ := exists_canReturn_of_bind returned
  exact ⟨atPair, mid, behind, readFront, readOne, readTwo, readBack⟩

end Meets

/-! ## Relations that are kept -/

/-- The template with more fragments at the end of its body and of its functions. -/
def Template.addFragments (template : Template) (body functions : FragmentStream) : Template :=
  template.withFragments (template.body ++ body) (template.functions ++ functions)

/-- The tree with literal text behind what has been read, among the functions where these are being
collected. -/
def IncludeTree.withLiteral (tree : IncludeTree) (writer : Writer) (mode : FunctionMode)
    (literal : List Char) : IncludeTree :=
  let fragments := (Piece.literal literal).fragments writer
  tree.withTemplate (tree.template.addFragments
    (if mode = .off then fragments else []) (if mode = .off then [] else fragments))

@[simp] theorem IncludeTree.withLiteral_nil (tree : IncludeTree) (writer : Writer)
    (mode : FunctionMode) : tree.withLiteral writer mode [] = tree := by
  have nothing : (Piece.literal []).fragments writer = [] := rfl
  cases tree
  simp only [withLiteral, nothing, ite_self, Template.addFragments, List.append_nil]
  rfl

/-- No template around has an identity, and none included below the top of a tree. -/
def IncludeTree.IsFree (ancestors : List Identity) (tree : IncludeTree) (identity : Identity) :
    Prop :=
  identity ∉ ancestors ∧ tree.containsIdentity identity = false

/-- A relation of trees with templates around them that is kept where both take up the same
fragments, and where both perform the same directive, one of those at hand. What the first
performs, the second does. -/
structure Comparison (related : IncludeTree → IncludeTree → Prop) (atHand : Directive → Prop)
    (ancestors others : List Identity) : Prop where
  addFragments : ∀ {tree other}, related tree other → ∀ body functions,
    related (tree.withTemplate (tree.template.addFragments body functions))
      (other.withTemplate (other.template.addFragments body functions))
  perform : ∀ {tree other} (directive : Directive) {template}, related tree other →
    directive.IsNamed → atHand directive → tree.template.perform directive = .ok template →
    ((∃ kind chars, directive = .name kind chars) → tree.IsFree ancestors template.identity) →
    ∃ counterpart, other.template.perform directive = .ok counterpart ∧
      ((∃ kind chars, directive = .name kind chars) →
        other.IsFree others counterpart.identity) ∧
      related (tree.withTemplate template) (other.withTemplate counterpart)

namespace Draft

/-- Drafts with the same text collected, in the same mode, and with related trees. -/
structure Pairs (related : IncludeTree → IncludeTree → Prop) (first second : Draft) : Prop where
  pending : second.pending = first.pending
  mode : second.mode = first.mode
  trees : related first.tree second.tree

/-- Drafts between sections, in the same mode and with related trees. -/
structure Alongside (related : IncludeTree → IncludeTree → Prop) (first second : Draft) :
    Prop where
  between : ∃ before, first.IsBetween before
  otherBetween : ∃ before, second.IsBetween before
  mode : second.mode = first.mode
  trees : related first.tree second.tree

variable {related : IncludeTree → IncludeTree → Prop} {atHand : Directive → Prop}
  {ancestors others : List Identity} {writer : Writer} {first second : Draft}

theorem Alongside.pairs (alongside : first.Alongside related second) :
    first.Pairs related second := by
  obtain ⟨_, between⟩ := alongside.between
  obtain ⟨_, otherBetween⟩ := alongside.otherBetween
  exact ⟨otherBetween.pending.trans between.pending.symm, alongside.mode, alongside.trees⟩

variable (writer) in
/-- A piece that declares nothing adds its fragments to the functions, or to the body. -/
theorem tree_addPiece (draft : Draft) (piece : Piece) (dependency : piece.dependency? = none)
    (externalCode : piece.externalCode? = none) :
    (draft.addPiece writer piece).tree = draft.tree.withTemplate
      (draft.tree.template.addFragments
        (if draft.mode = .off then piece.fragments writer else [])
        (if draft.mode = .off then [] else piece.fragments writer)) := by
  by_cases off : draft.mode = .off
  · simp [addPiece, off, extend_single, dependency, externalCode, Template.addFragments,
      Template.withFragments]
  · simp [addPiece, off, extend_single, dependency, externalCode, Template.addFragments,
      Template.withFragments]

theorem tree_append (draft : Draft) (fragment : Fragment) :
    (draft.append fragment).tree = draft.tree.withTemplate
      (draft.tree.template.addFragments
        (if draft.mode = .off then [fragment] else [])
        (if draft.mode = .off then [] else [fragment])) := by
  by_cases off : draft.mode = .off
  · simp [append, off, Template.addToBody, Template.addFragments, Template.withFragments]
  · simp [append, off, Template.addToFunctions, Template.addFragments, Template.withFragments]

variable (writer) in
theorem tree_atEnd {draft : Draft} {before : List Char} (between : draft.IsBetween before)
    (s : Section) :
    (draft.atEnd writer s).tree = draft.tree.withLiteral writer draft.mode s.literal := by
  have collected : draft.pending.toList ++ s.literal = s.literal := by
    rw [between.pending]
    rfl
  have whole : (draft.atEnd writer s).tree =
      (draft.addPiece writer (.literal (draft.pending.toList ++ s.literal))).tree := rfl
  rw [whole, collected, tree_addPiece writer draft _ rfl rfl]
  rfl

namespace Pairs

variable (comparison : Comparison related atHand ancestors others)
  (pairs : first.Pairs related second)
include comparison pairs

variable (writer) in
theorem addPiece (piece : Piece) (dependency : piece.dependency? = none)
    (externalCode : piece.externalCode? = none) :
    (first.addPiece writer piece).Pairs related (second.addPiece writer piece) where
  pending := pairs.pending
  mode := pairs.mode
  trees := by
    rw [tree_addPiece writer first piece dependency externalCode,
      tree_addPiece writer second piece dependency externalCode, pairs.mode]
    exact comparison.addFragments pairs.trees _ _

theorem append (fragment : Fragment) :
    (first.append fragment).Pairs related (second.append fragment) where
  pending := pairs.pending
  mode := pairs.mode
  trees := by
    rw [tree_append, tree_append, pairs.mode]
    exact comparison.addFragments pairs.trees _ _

variable (writer) in
theorem atTag (literal : List Char) :
    (first.atTag writer literal).Pairs related (second.atTag writer literal) := by
  have piece := pairs.addPiece writer comparison
    (.literal (first.pending.toList ++ literal)) rfl rfl
  refine ⟨rfl, piece.mode, ?_⟩
  simp only [Draft.atTag, pairs.pending]
  exact piece.trees

end Pairs

namespace Pairs

theorem clear (pairs : first.Pairs related second) : first.clear.Pairs related second.clear :=
  ⟨rfl, pairs.mode, pairs.trees⟩

theorem atClose (pairs : first.Pairs related second) (region : Region) (written : List Char)
    (tokens : List Token) :
    (first.atClose region written tokens).Pairs related
      (second.atClose region written tokens) := by
  have entered (draft : Draft) : (draft.enter (.body region)).tree = draft.tree := by
    simp only [enter]
    split_ifs <;> simp
  have collected (draft : Draft) : (draft.enter (.body region)).pending =
      if region = .function ∧ draft.mode = .off then draft.pending.push '\n'
      else draft.pending := by
    by_cases function : region = .function
    · by_cases off : draft.mode = .off <;> simp [enter, openFunction, function, off]
    · simp [enter, function]
  refine ⟨?_, ?_, ?_⟩
  · simp only [Draft.atClose, collected, pairs.mode, pairs.pending]
  · simp only [Draft.atClose, mode_enter, pairs.mode]
  · simp only [Draft.atClose, entered]
    exact pairs.trees

variable (comparison : Comparison related atHand ancestors others)
include comparison

/-- A name that the first of two drafts declares, the second one declares. -/
theorem declareName {kind : NameKind} {name : String} {next : Draft}
    (pairs : first.Pairs related second)
    (declared : first.declareName ancestors kind name = .ok next) (directive : Directive)
    (named : directive.IsNamed) (valid : atHand directive)
    (performs : ∀ template : Template, template.perform directive = template.declare kind name)
    (isName : kind ≠ .engineName ↔ ∃ kind chars, directive = .name kind chars) :
    ∃ counterpart, second.declareName others kind name = .ok counterpart ∧
      next.Pairs related counterpart := by
  obtain ⟨nonempty, template, accepted, free, rfl⟩ := declareName_eq_ok_iff.mp declared
  obtain ⟨counterpart, accepts, otherFree, kept⟩ := comparison.perform directive pairs.trees named
    valid ((performs _).trans accepted) fun names => free (isName.mpr names)
  refine ⟨second.withTemplate counterpart, declareName_eq_ok_iff.mpr ⟨nonempty, counterpart,
    (performs _).symm.trans accepts, fun names => otherFree (isName.mp names), rfl⟩, ?_⟩
  exact ⟨pairs.pending, pairs.mode, kept⟩

/-- **A closed directive**: what the first of two drafts completes, the second one does. -/
theorem complete {region : Region} {tokens : List Token} {done : Draft × Event}
    (pairs : first.Pairs related second) (valid : atHand (.body region tokens))
    (pending : region ≠ .function → first.pending = String.ofList (collected region tokens))
    (ended : second.cursor.endedWith "~%>" = first.cursor.endedWith "~%>")
    (completed : first.complete writer ancestors region = .ok done) :
    ∃ counterpart, second.complete writer others region = .ok counterpart ∧
      counterpart.2 = done.2 ∧ done.1.Pairs related counterpart.1 := by
  have cleared := pairs.clear
  have added {template : Template}
      (performs : first.tree.template.perform (.body region tokens) = .ok template) :=
    comparison.perform (.body region tokens) pairs.trees trivial valid performs nofun
  cases region with
  | comment =>
      cases completed
      exact ⟨_, rfl, rfl, cleared⟩
  | dependency =>
      cases completed
      have text : Text.trim first.pending = dependencyText tokens := by
        rw [pending (by decide)]
        rfl
      obtain ⟨_, performs, _, kept⟩ := added rfl
      cases performs
      refine ⟨_, rfl, rfl, rfl, pairs.mode, ?_⟩
      simp only [pairs.pending, text]
      exact kept
  | externalCode =>
      cases completed
      have text : Text.trimBy (fun c => c == '\r' || c == '\n') first.pending =
          externalText tokens := by
        rw [pending (by decide)]
        rfl
      obtain ⟨_, performs, _, kept⟩ := added rfl
      cases performs
      refine ⟨_, rfl, rfl, rfl, pairs.mode, ?_⟩
      simp only [pairs.pending, text]
      exact kept
  | engineName =>
      have text : first.pending = String.ofList (tokens.flatMap Token.text) := pending (by decide)
      simp only [Draft.complete, completeEngine, pairs.pending] at completed ⊢
      cases named : engineText? first.pending with
      | none =>
          simp only [named] at completed
          cases completed
      | some name =>
          simp only [named] at completed ⊢
          obtain ⟨after, declared, rest⟩ := exists_ok_of_bind completed
          cases rest
          have inTokens : Markup.engineText? tokens = some name := by
            rw [text] at named
            exact named
          obtain ⟨counterpart, declares, kept⟩ := cleared.declareName comparison declared
            (.body .engineName tokens) trivial valid
            (fun template => by simp only [Template.perform, inTokens])
            (by simp)
          exact ⟨(counterpart, .engine name), by rw [declares]; rfl, rfl, kept⟩
  | write =>
      cases completed
      refine ⟨_, rfl, rfl, ?_⟩
      simp only [pairs.pending]
      exact cleared.append comparison _
  | transform transform =>
      cases completed
      refine ⟨_, rfl, rfl, ?_⟩
      simp only [pairs.pending]
      exact cleared.append comparison _
  | block =>
      obtain ⟨after, closed, rest⟩ := exists_ok_of_bind completed
      cases rest
      have piece := cleared.addPiece writer comparison
        (.directive .block first.pending.toList) rfl rfl
      rw [completeBlock_eq writer] at closed
      simp only [Draft.complete, completeBlock_eq writer, ended, pairs.mode, pairs.pending]
      dsimp only at closed
      split_ifs at closed ⊢
      · cases closed
        exact ⟨_, rfl, rfl, piece.pending, rfl, piece.trees⟩
      · cases closed
        exact ⟨_, rfl, rfl, piece⟩
  | function =>
      cases completed
      have appended := cleared.append comparison ⟨.code, first.pending, first.pending⟩
      refine ⟨_, rfl, rfl, ?_⟩
      simp only [completeFunction_eq, ended, pairs.mode, pairs.pending]
      exact ⟨appended.pending, rfl, appended.trees⟩

end Pairs

/-- **A section**: what the first of two drafts performs, the second one does, and leaves the same
to be done. -/
theorem Alongside.perform (comparison : Comparison related atHand ancestors others)
    (alongside : first.Alongside related second) {s : Section} {done : Draft × Event}
    (named : s.directive.IsNamed) (valid : atHand s.directive)
    (performed : first.perform writer ancestors s = .ok done) :
    ∃ counterpart, second.perform writer others s = .ok counterpart ∧
      counterpart.2 = done.2 ∧ done.1.Alongside related counterpart.1 := by
  obtain ⟨before, between⟩ := alongside.between
  obtain ⟨otherBefore, otherBetween⟩ := alongside.otherBetween
  have tagged := alongside.pairs.atTag writer comparison s.literal
  suffices paired : ∃ counterpart, second.perform writer others s = .ok counterpart ∧
      counterpart.2 = done.2 ∧ done.1.Pairs related counterpart.1 by
    obtain ⟨counterpart, performs, events, kept⟩ := paired
    exact ⟨counterpart, performs, events, ⟨_, isBetween_of_perform between performed⟩,
      ⟨_, isBetween_of_perform otherBetween performs⟩, kept.mode, kept.trees⟩
  have closed : ((((first.atTag writer s.literal).skip s.written).goTo .literal).clear).Pairs
      related (((second.atTag writer s.literal).skip s.written).goTo .literal).clear :=
    ⟨rfl, tagged.mode, tagged.trees⟩
  unfold Draft.perform at performed ⊢
  cases directive : s.directive with
  | inclusion path =>
      simp only [directive] at performed ⊢
      cases performed
      exact ⟨_, rfl, rfl, closed⟩
  | name kind chars =>
      rw [directive] at named valid
      simp only [directive] at performed ⊢
      obtain ⟨after, declared, rest⟩ := exists_ok_of_bind performed
      cases rest
      obtain ⟨counterpart, declares, kept⟩ := closed.declareName comparison declared
        (.name kind chars) named valid (fun _ => rfl) (by simpa using named.1)
      exact ⟨(counterpart, .none), by rw [declares]; rfl, rfl, kept⟩
  | body region tokens =>
      simp only [directive] at performed ⊢
      rw [directive] at valid
      refine (tagged.atClose region s.written tokens).complete comparison valid
        (pending_atClose writer first s.literal s.written · tokens) ?_ performed
      have ends (draft : Draft) {before : List Char} (between : draft.IsBetween before) :
          ((draft.atTag writer s.literal).atClose region s.written tokens).cursor.endedWith
            "~%>" = ['~', '%', '>'].isSuffixOf s.text := by
        rw [← endedWith_section before s]
        simp only [Draft.atClose, Draft.atTag, between.cursor, ← Cursor.advanceBy_append,
          Section.text, List.append_assoc]
      rw [ends first between, ends second otherBetween]

/-- Drafts stay alongside each other with other trees that are related. -/
theorem Alongside.withTree (alongside : first.Alongside related second) {tree other : IncludeTree}
    (trees : related tree other) :
    { first with tree := tree }.Alongside related { second with tree := other } := by
  obtain ⟨before, between⟩ := alongside.between
  obtain ⟨otherBefore, otherBetween⟩ := alongside.otherBetween
  exact ⟨⟨before, between.state, between.pending, between.cursor⟩,
    ⟨otherBefore, otherBetween.state, otherBetween.pending, otherBetween.cursor⟩,
    alongside.mode, trees⟩

section Follow

variable {compose otherCompose :
    IncludeTree → String → Location → Id (Except ParseError IncludeTree)}
  {excused : ParseError → Prop} {s : Section} {next : Draft}

/-- **One section** leads on alongside, where the include that it composes has a counterpart. -/
theorem Alongside.follow (comparison : Comparison related atHand ancestors others)
    (alongside : first.Alongside related second) (named : s.directive.IsNamed)
    (valid : atHand s.directive)
    (composes : ∀ tree other path location elsewhere, related tree other →
      CanReturn (compose tree path location) (.ok next.tree) →
      Meets excused related next.tree (ExceptT.mk (otherCompose other path elsewhere)))
    (followed : CanReturn (first.follow writer ancestors compose s) next) :
    Meets excused (fun draft counterpart : Draft => draft.Alongside related counterpart) next
      (second.follow writer others otherCompose s) := by
  obtain ⟨⟨done, event⟩, performed, settled⟩ := exists_of_canReturn_follow followed
  obtain ⟨⟨counterpart, same⟩, performs, rfl, kept⟩ := alongside.perform comparison named valid
    performed
  rw [Draft.follow, performs, ofExcept_ok, pure_bind]
  cases same with
  | none =>
      cases eq_of_canReturn_pure settled
      exact .pure kept
  | engine name =>
      cases eq_of_canReturn_pure settled
      exact .pure kept
  | inclusion path =>
      obtain ⟨tree, composed, rfl⟩ := exists_of_settle_inclusion settled
      exact (composes _ _ path _ _ kept.trees composed).bind fun other trees =>
        .pure (kept.withTree trees)

end Follow

end Draft

/-! ## Whole texts -/

namespace Compiler

variable (compiler counterpart : Compiler Id) (call other : Call)
  {related : IncludeTree → IncludeTree → Prop} {atHand : Directive → Prop}
  {excused : ParseError → Prop} {first second last : Draft} {rest : List Section}

/-- **Section by section**, a second parse goes along with the first one, where the includes of the
first one have counterparts. -/
theorem meets_of_sections (emitter : counterpart.emitter = compiler.emitter)
    (comparison : Comparison related atHand call.ancestors other.ancestors)
    (alongside : first.Alongside related second)
    (named : ∀ s ∈ rest, s.directive.IsNamed) (valid : ∀ s ∈ rest, atHand s.directive)
    (composes : ∀ tree tree' path location elsewhere grown, related tree tree' →
      grown.size ≤ last.tree.size →
      CanReturn (compiler.compose (compiler.levelsBelow call) call.created call.ancestors tree path
        location) (.ok grown) →
      Meets excused related grown (ExceptT.mk (counterpart.compose (counterpart.levelsBelow other)
        other.created other.ancestors tree' path elsewhere)))
    (returned : CanReturn (rest.foldlM (compiler.follow call) first) last) :
    Meets excused (fun draft counterpart : Draft => draft.Alongside related counterpart) last
      (rest.foldlM (counterpart.follow other) second) := by
  induction rest generalizing first second with
  | nil =>
      cases eq_of_canReturn_pure returned
      exact .pure alongside
  | cons s rest ih =>
      rw [List.foldlM_cons] at returned ⊢
      obtain ⟨next, followed, returned⟩ := exists_canReturn_of_bind returned
      have size := (grows_of_sections returned).size_le
      have goesOn : Meets excused
          (fun draft counterpart : Draft => draft.Alongside related counterpart) next
          (counterpart.follow other second s) := by
        rw [follow, emitter]
        exact alongside.follow comparison (named s (List.mem_cons_self ..))
          (valid s (List.mem_cons_self ..))
          (fun tree tree' path location elsewhere trees composed =>
            composes tree tree' path location elsewhere _ trees size composed) followed
      exact goesOn.bind fun mid beside =>
        ih beside (fun later member => named later (List.mem_cons_of_mem _ member))
          (fun later member => valid later (List.mem_cons_of_mem _ member)) returned

/-- **A second parse goes along with the first one** where it does so along the sections of both
texts, which have the same tail. -/
theorem meets_of_parseCall {tree : IncludeTree} (emitter : counterpart.emitter = compiler.emitter)
    (comparison : Comparison related atHand call.ancestors other.ancestors)
    (tails : (sections other.source.toList).2 = (sections call.source.toList).2)
    (followed : ∀ last, last.tree.size = tree.size →
      CanReturn (compiler.followAll call (sections call.source.toList).1) last →
      Meets excused (fun draft counterpart : Draft => draft.Alongside related counterpart) last
        (counterpart.followAll other (sections other.source.toList).1))
    (returned : CanReturn (compiler.parseCall call) (.ok tree)) :
    Meets excused related tree (ExceptT.mk (counterpart.parseCall other)) := by
  rw [parseCall_eq] at returned ⊢
  obtain ⟨literal, last, reaches, off, _, rfl⟩ := exists_sections_of_parseWith returned
  have ended (draft : Draft) := Draft.tree_addPiece compiler.emitter.writer draft
    (.literal (draft.pending.toList ++ (sections call.source.toList).2)) rfl rfl
  have reading := followed last (by rw [ended, IncludeTree.size_withTemplate]) reaches
  have whole : ExceptT.mk (counterpart.parseWith (counterpart.levelsBelow other) other.created
      other.ancestors other.settings other.source) =
      counterpart.followAll other (sections other.source.toList).1 >>= fun draft =>
        Draft.reads counterpart.emitter.writer other.ancestors
            (counterpart.compose (counterpart.levelsBelow other) other.created other.ancestors)
            draft (sections other.source.toList).2 >>= fun last =>
          ofExcept (last.finish counterpart.emitter.writer) := by
    rw [parseWith_eq_reads, reads, Draft.reads_sections isBetween_startDraft, bind_assoc]
    rfl
  rw [whole]
  refine reading.bind fun draft beside => ?_
  obtain ⟨_, between⟩ := beside.otherBetween
  obtain ⟨ending, leads, _, _, outcome⟩ := Draft.leadsTo_of_untagged counterpart.emitter.writer
    other.ancestors between.state literal
  have related := comparison.addFragments beside.trees
    ((Piece.literal (last.pending.toList ++ (sections call.source.toList).2)).fragments
      compiler.emitter.writer) []
  rw [tails, leads.reads_eq, Draft.reads_nil, pure_bind, outcome, if_pos (beside.mode.trans off),
    ofExcept_ok, emitter, ended, ended]
  simp only [off, beside.mode, beside.pairs.pending, if_true]
  exact .pure related

end Compiler

end TemplateCompiler
