import TemplateCompiler.Proofs.Comparisons.Alike
import TemplateCompiler.Proofs.Comparisons.Drafts

/-! # Two parses step by step

Two parses of the same characters are in step where they are in the same state, with the same text
collected: they may differ in the places of what they have read, and in the trees, as far as these
correspond (`Correspondence`). One more character keeps them in step, or both fail with the same
error, which may differ in its place (`Draft.InStep.step`). So do all characters of a text, where
the includes on the way go alike (`Draft.InStep.run`, `Compiler.compose_alike`).
-/

namespace TemplateCompiler

open Markup

/-! ## Trees that correspond -/

/-- Characters of a name that a directive declares. -/
def NameKind.CanSpell (kind : NameKind) (name : String) : Prop :=
  kind ≠ .engineName → ∀ c ∈ name.toList, Draft.isNameChar kind c = true

/-- A relation of trees that is kept where both take up what one text says. The writers may differ
in which literals they drop. -/
structure Correspondence (related : IncludeTree → IncludeTree → Prop) (writer other : Writer) :
    Prop where
  value : other.value = writer.value
  transform : other.transform = writer.transform
  contains : ∀ {tree counterpart}, related tree counterpart → ∀ identity,
    counterpart.containsIdentity identity = tree.containsIdentity identity
  withLiteral : ∀ {tree counterpart}, related tree counterpart → ∀ mode literal,
    related (tree.withLiteral writer mode literal) (counterpart.withLiteral other mode literal)
  addFragments : ∀ {tree counterpart}, related tree counterpart → ∀ body functions,
    (∀ fragment ∈ body ++ functions, fragment.kind ≠ .literal) →
    related (tree.withTemplate (tree.template.addFragments body functions))
      (counterpart.withTemplate (counterpart.template.addFragments body functions))
  addDependency : ∀ {tree counterpart}, related tree counterpart → ∀ declaration,
    related (tree.withTemplate (tree.template.addDependency declaration))
      (counterpart.withTemplate (counterpart.template.addDependency declaration))
  addExternalCode : ∀ {tree counterpart}, related tree counterpart → ∀ code,
    related (tree.withTemplate (tree.template.addExternalCode code))
      (counterpart.withTemplate (counterpart.template.addExternalCode code))
  declare : ∀ {tree counterpart}, related tree counterpart → ∀ kind name, name ≠ "" →
    kind.CanSpell name →
    (∃ cause, tree.template.declare kind name = .error cause ∧
      counterpart.template.declare kind name = .error cause) ∨
    ∃ template declared, tree.template.declare kind name = .ok template ∧
      counterpart.template.declare kind name = .ok declared ∧
      declared.identity = template.identity ∧
      related (tree.withTemplate template) (counterpart.withTemplate declared)

/-- The same tree on both sides. -/
theorem Correspondence.same (writer : Writer) : Correspondence Eq writer writer where
  value := rfl
  transform := rfl
  contains := by
    rintro tree _ rfl identity
    rfl
  withLiteral := by
    rintro tree _ rfl mode literal
    rfl
  addFragments := by
    rintro tree _ rfl body functions plain
    rfl
  addDependency := by
    rintro tree _ rfl declaration
    rfl
  addExternalCode := by
    rintro tree _ rfl code
    rfl
  declare := by
    rintro tree _ rfl kind name _ _
    cases declared : tree.template.declare kind name with
    | error cause => exact .inl ⟨cause, rfl, rfl⟩
    | ok template => exact .inr ⟨template, template, rfl, rfl, rfl, rfl⟩

namespace Draft

/-! ## Names that are being read -/

/-- What is collected for a name can be spelled in one. -/
def CollectsName (draft : Draft) : Prop :=
  match draft.state with
  | .tagOpen | .sigil _ => draft.pending = ""
  | .name kind | .nameTick kind | .nameClose kind =>
      ∀ c ∈ draft.pending.toList, isNameChar kind c = true
  | _ => True

section Names

variable {writer : Writer} {ancestors : List Identity} {draft next : Draft} {event : Event}

theorem collectsName_literal (state : draft.state = .literal) : draft.CollectsName := by
  rw [CollectsName, state]
  trivial

theorem collectsName_readLiteral (draft : Draft) (c : Char) :
    (draft.readLiteral c).CollectsName := by
  unfold readLiteral
  split_ifs <;> trivial

theorem collectsName_readBody (draft : Draft) (region : Region) (c : Char) :
    (draft.readBody region c).CollectsName := by
  unfold readBody
  split_ifs <;> trivial

theorem collectsName_readOpening (draft : Draft) (empty : draft.pending = "") (c : Char) :
    (draft.readOpening c).CollectsName := by
  unfold readOpening
  split <;> first | exact empty | trivial | exact collectsName_readBody ..

theorem collectsName_readIncludeLead {c : Char} (read : draft.readIncludeLead c = .ok next) :
    next.CollectsName := by
  simp only [readIncludeLead] at read
  split_ifs at read <;> cases read <;> trivial

theorem collectsName_enter (empty : draft.pending = "") (opening : Opening) :
    (draft.enter opening).CollectsName := by
  cases opening with
  | name kind =>
      intro c inside
      have nothing : (draft.enter (.name kind)).pending = "" := empty
      rw [nothing] at inside
      cases inside
  | body region => trivial
  | inclusion => trivial

theorem collectsName_readSigil (draft : Draft) {sigil : Sigil} {c : Char}
    (empty : draft.pending = "")
    (read : draft.readSigil sigil c = .ok next) : next.CollectsName := by
  cases pair : sigil.pairOpening? c with
  | some opening =>
      rw [readSigil_pair pair] at read
      cases read
      exact collectsName_enter empty opening
  | none =>
      rw [readSigil_lone pair] at read
      split at read
      · cases read
        exact collectsName_readBody ..
      · cases read
        exact collectsName_readBody ..
      · exact collectsName_readIncludeLead read

/-- **One more character** of a name can be spelled in it. -/
theorem CollectsName.step {c : Char} (collects : draft.CollectsName)
    (stepped : draft.step writer ancestors c = .ok (next, event)) : next.CollectsName := by
  unfold Draft.step at stepped
  simp only at stepped
  unfold CollectsName at collects
  cases state : draft.state with
  | literal =>
      rw [state] at stepped
      cases stepped
      exact collectsName_readLiteral ..
  | lessThan =>
      simp only [state] at stepped
      split_ifs at stepped <;> cases stepped
      · simp only [flushLiteral]
        split_ifs <;> rfl
      · exact collectsName_readLiteral ..
  | tagOpen =>
      rw [state] at stepped collects
      cases stepped
      refine collectsName_readOpening _ ?_ c
      exact collects
  | sigil sigil =>
      rw [state] at stepped collects
      obtain ⟨read, reads, done⟩ := exists_ok_of_bind stepped
      cases done
      refine collectsName_readSigil _ ?_ reads
      exact collects
  | scan region =>
      rw [state] at stepped
      cases stepped
      exact collectsName_readBody ..
  | closing region =>
      simp only [state] at stepped
      split_ifs at stepped
      · have literal := (completes_of_complete stepped).1
        rw [show next = _ from literal]
        exact collectsName_literal rfl
      · cases stepped
        exact collectsName_readBody ..
  | tilde region =>
      simp only [state] at stepped
      split_ifs at stepped <;> cases stepped
      · trivial
      · exact collectsName_readBody ..
  | star =>
      simp only [state] at stepped
      split_ifs at stepped <;> cases stepped
      · trivial
      · exact collectsName_readBody ..
  | escape region =>
      simp only [state] at stepped
      split_ifs at stepped <;> cases stepped <;> trivial
  | escapePercent region =>
      simp only [state] at stepped
      split_ifs at stepped <;> cases stepped
      · trivial
      · exact collectsName_readBody ..
  | name kind =>
      simp only [state] at stepped collects
      split_ifs at stepped with tick more <;> cases stepped
      · exact collects
      · intro d inside
        simp only [push_pending, String.toList_push, List.mem_append, List.mem_singleton] at inside
        rcases inside with before | rfl
        · exact collects d before
        · exact more
  | nameTick kind =>
      simp only [state] at stepped collects
      split_ifs at stepped
      cases stepped
      exact collects
  | nameClose kind =>
      simp only [state] at stepped
      split_ifs at stepped
      · obtain ⟨read, declared, done⟩ := exists_ok_of_bind stepped
        obtain ⟨template, same, _⟩ := declareName_eq_ok declared
        cases done
        rw [same]
        exact collectsName_literal rfl
  | includeLead =>
      rw [state] at stepped
      obtain ⟨read, reads, done⟩ := exists_ok_of_bind stepped
      cases done
      exact collectsName_readIncludeLead reads
  | includePath mark =>
      simp only [state] at stepped
      split_ifs at stepped <;> cases stepped
      · trivial
      · rw [CollectsName]
        simp
  | includeAfterPath =>
      simp only [state] at stepped
      split_ifs at stepped <;> cases stepped
      · trivial
      · rw [CollectsName]
        simp
  | includeClose =>
      simp only [state] at stepped
      split_ifs at stepped
      cases stepped
      exact collectsName_literal rfl

end Names

/-! ## Drafts in step -/

/-- Drafts in the same state, with the same text collected and with trees that correspond. So many
characters behind them are the same, and where `located` holds all places are. -/
structure InStep (located : Prop) (related : IncludeTree → IncludeTree → Prop) (shared : Nat)
    (first second : Draft) : Prop where
  state : second.state = first.state
  pending : second.pending = first.pending
  mode : second.mode = first.mode
  ending : second.cursor.behind.take shared = first.cursor.behind.take shared
  places : located → second.cursor = first.cursor ∧ second.tagStart = first.tagStart ∧
    second.functionStart = first.functionStart
  trees : related first.tree second.tree

namespace InStep

variable {located : Prop} {related : IncludeTree → IncludeTree → Prop} {shared : Nat}
  {writer other : Writer} {ancestors : List Identity} {first second : Draft}

theorem goTo (inStep : first.InStep located related shared second) (state : State) :
    (first.goTo state).InStep located related shared (second.goTo state) :=
  { inStep with state := rfl }

theorem push (inStep : first.InStep located related shared second) (c : Char) :
    (first.push c).InStep located related shared (second.push c) :=
  { inStep with pending := congrArg (String.push · c) inStep.pending }

theorem pushText (inStep : first.InStep located related shared second) (text : String) :
    (first.pushText text).InStep located related shared (second.pushText text) :=
  { inStep with pending := congrArg (· ++ text) inStep.pending }

theorem clear (inStep : first.InStep located related shared second) :
    first.clear.InStep located related shared second.clear :=
  { inStep with pending := rfl }

theorem withTree (inStep : first.InStep located related shared second)
    {tree counterpart : IncludeTree} (trees : related tree counterpart) :
    { first with tree := tree }.InStep located related shared
      { second with tree := counterpart } :=
  { inStep with trees := trees }

/-- One more character is the same. -/
theorem advance (inStep : first.InStep located related shared second) (c : Char) :
    { first with cursor := first.cursor.advance c }.InStep located related (shared + 1)
      { second with cursor := second.cursor.advance c } :=
  { inStep with
    ending := by
      simp only [Cursor.advance_behind, List.take_succ_cons, inStep.ending]
    places := fun same => ⟨by rw [(inStep.places same).1], (inStep.places same).2⟩ }

theorem fewer (inStep : first.InStep located related (shared + 1) second) :
    first.InStep located related shared second :=
  { inStep with
    ending := by
      have longer := congrArg (List.take shared) inStep.ending
      simpa only [List.take_take, Nat.min_eq_left (Nat.le_succ shared)] using longer }

theorem quietly (inStep : first.InStep located related shared second) :
    Parallel located (fun done counterpart : Draft × Event => counterpart.2 = done.2 ∧
        done.1.InStep located related shared counterpart.1)
      (Draft.quietly first) (Draft.quietly second) :=
  .ok ⟨rfl, inStep⟩

theorem unexpected {α β : Type} {trees : α → β → Prop}
    (inStep : first.InStep located related shared second) (expected : Expected) (c : Char) :
    Parallel located trees (.error (first.unexpected expected c))
      (.error (second.unexpected expected c)) := by
  refine .error ?_ fun same => ?_
  · simp only [Draft.unexpected, ParseError.unplaced, inStep.state]
  · rw [Draft.unexpected, Draft.unexpected, (inStep.places same).1, inStep.state]

theorem blamed {α β : Type} {trees : α → β → Prop}
    (inStep : first.InStep located related shared second) (blames : Location → ParseError)
    (unplaced : ∀ location elsewhere,
      (blames location).unplaced = (blames elsewhere).unplaced) :
    Parallel located trees (.error (blames first.tagStart)) (.error (blames second.tagStart)) :=
  .error (unplaced _ _) fun same => by rw [(inStep.places same).2.1]

/-! ### Literal text and directive bodies -/

theorem readLiteral (inStep : first.InStep located related shared second) (c : Char) :
    (first.readLiteral c).InStep located related shared (second.readLiteral c) := by
  unfold Draft.readLiteral
  split_ifs
  · exact inStep.goTo _
  · exact (inStep.push _).goTo _

theorem readBody (inStep : first.InStep located related shared second) (region : Region)
    (c : Char) :
    (first.readBody region c).InStep located related shared (second.readBody region c) := by
  unfold Draft.readBody
  split_ifs
  · exact inStep.goTo _
  · exact inStep.goTo _
  · exact inStep.goTo _
  · exact inStep.goTo _
  · exact (inStep.push _).goTo _

theorem openFunction (inStep : first.InStep located related shared second) :
    first.openFunction.InStep located related shared second.openFunction := by
  unfold Draft.openFunction
  rw [inStep.mode]
  split_ifs
  · exact { inStep.push '\n' with
      mode := rfl
      places := fun same => ⟨(inStep.places same).1, (inStep.places same).2.1,
        (inStep.places same).2.1⟩ }
  · exact inStep

theorem enter (inStep : first.InStep located related shared second) (opening : Opening) :
    (first.enter opening).InStep located related shared (second.enter opening) := by
  unfold Draft.enter
  split_ifs
  · exact inStep.openFunction.goTo _
  · exact inStep.goTo _

/-! ### Opening markup -/

theorem readOpening (inStep : first.InStep located related shared second) (c : Char) :
    (first.readOpening c).InStep located related shared (second.readOpening c) := by
  by_cases listed : ∃ sigil, (c, sigil) ∈ sigils
  · obtain ⟨sigil, leads⟩ := listed
    rw [readOpening_of_sigil leads, readOpening_of_sigil leads]
    exact inStep.goTo _
  · by_cases star : c = '*'
    · subst star
      exact inStep.goTo _
    · by_cases equals : c = '='
      · subst equals
        exact inStep.goTo _
      · have none : c ∉ sigils.map Prod.fst := by
          intro first
          obtain ⟨⟨_, sigil⟩, member, rfl⟩ := List.mem_map.mp first
          exact listed ⟨sigil, member⟩
        rw [readOpening_other none star equals, readOpening_other none star equals]
        exact inStep.readBody _ _

theorem readIncludeLead (inStep : first.InStep located related shared second) (c : Char) :
    Parallel located (InStep located related shared) (first.readIncludeLead c)
      (second.readIncludeLead c) := by
  unfold Draft.readIncludeLead
  exact .ite Iff.rfl (fun _ => .ok ((inStep.goTo _).goTo _))
    (.ite Iff.rfl (fun _ => .ok (inStep.goTo _)) ((inStep.goTo _).unexpected _ _))

theorem readSigil (inStep : first.InStep located related shared second) (sigil : Sigil)
    (c : Char) :
    Parallel located (InStep located related shared) (first.readSigil sigil c)
      (second.readSigil sigil c) := by
  cases pair : sigil.pairOpening? c with
  | some opening =>
      rw [readSigil_pair pair, readSigil_pair pair]
      exact .ok (inStep.enter opening)
  | none =>
      rw [readSigil_lone pair, readSigil_lone pair]
      cases sigil.loneOpening with
      | body region =>
          cases region with
          | function => exact .ok (inStep.openFunction.readBody _ _)
          | _ => exact .ok (inStep.readBody _ _)
      | name kind => exact inStep.readIncludeLead c
      | inclusion => exact inStep.readIncludeLead c

/-! ### Complete directives -/

theorem endedWith (inStep : first.InStep located related 3 second) :
    second.cursor.endedWith "~%>" = first.cursor.endedWith "~%>" := by
  have front (behind : List Char) :
      ['>', '%', '~'].isPrefixOf behind = ['>', '%', '~'].isPrefixOf (behind.take 3) := by
    match behind with
    | [] | [_] | [_, _] => rfl
    | _ :: _ :: _ :: _ => simp [List.isPrefixOf]
  change ['>', '%', '~'].isPrefixOf second.cursor.behind =
    ['>', '%', '~'].isPrefixOf first.cursor.behind
  rw [front, inStep.ending, ← front]

section Correspondence

variable (corresponds : Correspondence related writer other)
include corresponds

theorem append (inStep : first.InStep located related shared second) (fragment : Fragment)
    (plain : fragment.kind ≠ .literal) :
    (first.append fragment).InStep located related shared (second.append fragment) :=
  { inStep with
    trees := by
      rw [tree_append, tree_append, inStep.mode]
      refine corresponds.addFragments inStep.trees _ _ fun added inside => ?_
      split_ifs at inside <;> simp_all }

theorem flushLiteral (inStep : first.InStep located related shared second) :
    (first.flushLiteral writer).InStep located related shared (second.flushLiteral other) := by
  rw [flushLiteral_eq, flushLiteral_eq]
  exact { inStep.clear with
    trees := by
      rw [tree_addPiece _ _ _ rfl rfl, tree_addPiece _ _ _ rfl rfl, inStep.pending]
      change related _ (second.tree.withLiteral other second.mode first.pending.toList)
      rw [inStep.mode]
      exact corresponds.withLiteral inStep.trees first.mode first.pending.toList }

theorem completeBlock (inStep : first.InStep located related 3 second) :
    Parallel located (InStep located related 3) first.completeBlock second.completeBlock := by
  have closed : (if first.pending.isEmpty then first.clear
        else first.clear.append ⟨.code, first.pending, first.pending⟩).InStep located related 3
      (if first.pending.isEmpty then second.clear
        else second.clear.append ⟨.code, first.pending, first.pending⟩) := by
    split_ifs
    · exact inStep.clear
    · exact inStep.clear.append corresponds _ (by simp)
  simp only [Draft.completeBlock, inStep.pending]
  refine .ite (by rw [closed.endedWith]) (fun _ => ?_) (.ok closed)
  refine .ite (by rw [closed.mode]) (fun _ => ?_) (.ok { closed with mode := rfl })
  exact closed.blamed .functionCloseWithoutOpen fun _ _ => rfl

theorem completeFunction (inStep : first.InStep located related 3 second) :
    first.completeFunction.InStep located related 3 second.completeFunction := by
  have closed := inStep.clear.append corresponds ⟨.code, first.pending, first.pending⟩ (by simp)
  simp only [Draft.completeFunction, inStep.pending, closed.endedWith, closed.mode]
  split_ifs
  · exact { closed with mode := rfl }
  · exact { closed with mode := rfl }

theorem declareName (inStep : first.InStep located related shared second) {kind : NameKind}
    {name : String} (spelled : kind.CanSpell name) :
    Parallel located (InStep located related shared) (first.declareName ancestors kind name)
      (second.declareName ancestors kind name) := by
  simp only [Draft.declareName, template_tree]
  by_cases empty : name = ""
  · rw [if_pos (String.isEmpty_iff.mpr empty), if_pos (String.isEmpty_iff.mpr empty)]
    exact inStep.blamed (.missingName kind) fun _ _ => rfl
  · rw [if_neg (by simpa using empty), if_neg (by simpa using empty)]
    rcases corresponds.declare inStep.trees kind name empty spelled with
      ⟨cause, fails, failed⟩ | ⟨template, declared, accepts, accepted, identity, trees⟩
    · rw [fails, failed]
      exact inStep.blamed (.naming cause) fun _ _ => rfl
    · rw [accepts, accepted]
      have renamed : (first.withTemplate template).InStep located related shared
          (second.withTemplate declared) := { inStep with trees := trees }
      refine .ite ?_ (fun _ => ?_) (.ok renamed)
      · rw [identity, corresponds.contains renamed.trees]
      · rw [identity]
        exact renamed.blamed (.classAlreadyIncluded _) fun _ _ => rfl

theorem completeEngine (inStep : first.InStep located related shared second) :
    Parallel located (fun done counterpart : Draft × Event => counterpart.2 = done.2 ∧
        done.1.InStep located related shared counterpart.1)
      (first.completeEngine ancestors) (second.completeEngine ancestors) := by
  simp only [Draft.completeEngine, inStep.pending]
  cases engineText? first.pending with
  | none => exact inStep.unexpected _ _
  | some name =>
      have spelled : NameKind.engineName.CanSpell name := fun other => absurd rfl other
      exact (inStep.clear.declareName corresponds spelled).bind fun _ _ declared =>
        .ok ⟨rfl, declared⟩

/-- A directive that the one draft completes, the other one completes. -/
theorem complete (inStep : first.InStep located related 3 second) (region : Region) :
    Parallel located (fun done counterpart : Draft × Event => counterpart.2 = done.2 ∧
        done.1.InStep located related 3 counterpart.1)
      (first.complete writer ancestors region) (second.complete other ancestors region) := by
  have cleared := inStep.clear
  cases region with
  | comment => exact .ok ⟨rfl, cleared⟩
  | dependency =>
      simp only [Draft.complete, inStep.pending]
      exact .ok ⟨rfl, { cleared with trees := corresponds.addDependency inStep.trees _ }⟩
  | externalCode =>
      simp only [Draft.complete, inStep.pending]
      exact .ok ⟨rfl, { cleared with trees := corresponds.addExternalCode inStep.trees _ }⟩
  | engineName =>
      simp only [Draft.complete]
      exact inStep.completeEngine corresponds
  | write =>
      simp only [Draft.complete, inStep.pending, corresponds.value]
      exact .ok ⟨rfl, cleared.append corresponds ⟨.value, _, _⟩ (by simp)⟩
  | transform t =>
      simp only [Draft.complete, inStep.pending, corresponds.transform]
      exact .ok ⟨rfl, cleared.append corresponds ⟨.transform t, _, _⟩ (by simp)⟩
  | block =>
      simp only [Draft.complete]
      exact (inStep.completeBlock corresponds).bind fun _ _ closed => .ok ⟨rfl, closed⟩
  | function =>
      simp only [Draft.complete]
      exact .ok ⟨rfl, inStep.completeFunction corresponds⟩

variable (ancestors) in
/-- **One more character** keeps drafts in step, or fails in the same way. -/
theorem step (inStep : first.InStep located related 2 second) (collects : first.CollectsName)
    (c : Char) :
    Parallel located (fun done counterpart : Draft × Event => counterpart.2 = done.2 ∧
        done.1.InStep located related 3 counterpart.1)
      (first.step writer ancestors c) (second.step other ancestors c) := by
  have moved := inStep.advance c
  have spelled (kind : NameKind) (closing : first.state = .nameClose kind) :
      kind.CanSpell first.pending := by
    intro _
    rwa [CollectsName, closing] at collects
  have location (same : located) :
      (second.cursor.advance c).location = (first.cursor.advance c).location := by
    rw [(inStep.places same).1]
  unfold Draft.step
  simp only
  generalize { first with cursor := first.cursor.advance c } = here at moved
  generalize { second with cursor := second.cursor.advance c } = there at moved
  rw [inStep.state]
  cases state : first.state with
  | literal => exact (moved.readLiteral c).quietly
  | lessThan =>
      refine .ite Iff.rfl (fun _ => ?_) ((moved.push '<').readLiteral c).quietly
      have flushed := (moved.flushLiteral corresponds).goTo .tagOpen
      refine quietly { flushed with places := fun same => ?_ }
      exact ⟨(flushed.places same).1, location same, (flushed.places same).2.2⟩
  | tagOpen => exact (moved.readOpening c).quietly
  | sigil sigil =>
      exact (moved.readSigil sigil c).bind fun _ _ read => read.quietly
  | scan region => exact (moved.readBody region c).quietly
  | closing region =>
      exact .ite Iff.rfl (fun _ => (moved.goTo .literal).complete corresponds region)
        ((moved.push '%').readBody region c).quietly
  | tilde region =>
      exact .ite Iff.rfl (fun _ => (moved.goTo _).quietly)
        ((moved.push '~').readBody region c).quietly
  | star =>
      exact .ite Iff.rfl (fun _ => (moved.goTo _).quietly) (moved.readBody .comment c).quietly
  | escape region =>
      exact .ite Iff.rfl (fun _ => (moved.goTo _).quietly)
        (((moved.push _).push c).goTo _).quietly
  | escapePercent region =>
      exact .ite Iff.rfl (fun _ => ((moved.pushText _).goTo _).quietly)
        ((moved.pushText _).readBody region c).quietly
  | name kind =>
      exact .ite Iff.rfl (fun _ => (moved.goTo _).quietly)
        (.ite Iff.rfl (fun _ => (moved.push c).quietly) (moved.unexpected _ c))
  | nameTick kind =>
      exact .ite Iff.rfl (fun _ => (moved.goTo _).quietly) (moved.unexpected _ c)
  | nameClose kind =>
      refine .ite Iff.rfl (fun _ => ?_) (moved.unexpected _ c)
      rw [inStep.pending]
      exact ((moved.goTo .literal).clear.declareName corresponds (spelled kind state)).bind
        fun _ _ declared => declared.quietly
  | includeLead => exact (moved.readIncludeLead c).bind fun _ _ read => read.quietly
  | includePath mark =>
      exact .ite Iff.rfl (fun _ => (moved.goTo _).quietly)
        (.ite Iff.rfl (fun _ => moved.unexpected _ c) (moved.push c).quietly)
  | includeAfterPath =>
      exact .ite Iff.rfl (fun _ => (moved.goTo _).quietly)
        (.ite Iff.rfl (fun _ => moved.quietly) (moved.unexpected _ c))
  | includeClose =>
      refine .ite Iff.rfl (fun _ => ?_) (moved.unexpected _ c)
      rw [inStep.pending]
      exact .ok ⟨rfl, (moved.goTo .literal).clear⟩

/-- Texts that end in step end in the same way. -/
theorem finish (inStep : first.InStep located related shared second) :
    Parallel located related (first.finish writer) (second.finish other) := by
  have ended : (if first.state = .lessThan then (first.push '<').goTo .literal
      else first).InStep located related shared
      (if first.state = .lessThan then (second.push '<').goTo .literal else second) := by
    split_ifs
    · exact (inStep.push _).goTo _
    · exact inStep
  have unterminated : Parallel located related
      (.error (.unterminatedFunction (if first.state = .lessThan then
        (first.push '<').goTo .literal else first).functionStart))
      (.error (.unterminatedFunction (if first.state = .lessThan then
        (second.push '<').goTo .literal else second).functionStart)) :=
    .error rfl fun same => by rw [(ended.places same).2.2]
  simp only [Draft.finish, inStep.state, ended.state]
  split
  · exact unterminated
  · exact ended.blamed (.unterminatedTag _) fun _ _ => rfl
  · exact .ite (by rw [ended.mode]) (fun _ => .ok (ended.flushLiteral corresponds).trees)
      unterminated

/-- **A whole text** keeps drafts in step, where the includes on the way go alike. -/
theorem run {m : Type → Type} [Monad m] [LawfulMonad m]
    {compose otherCompose : IncludeTree → String → Location → m (Except ParseError IncludeTree)}
    (composes : ∀ tree counterpart path location elsewhere, related tree counterpart →
      (located → elsewhere = location) →
      GoesAlike (Parallel located related) (compose tree path location)
        (otherCompose counterpart path elsewhere))
    (inStep : first.InStep located related 2 second) (collects : first.CollectsName)
    (text : List Char) :
    GoesAlike (Parallel located related) (Draft.run writer ancestors compose first text)
      (Draft.run other ancestors otherCompose second text) := by
  induction text generalizing first second with
  | nil => exact .pure (inStep.finish corresponds)
  | cons c text ih =>
      unfold Draft.run
      rcases (inStep.step ancestors corresponds collects c).cases_eq with
        ⟨⟨next, _⟩, ⟨counterpart, event⟩, stepped, steps, rfl, kept⟩ |
        ⟨cause, other, fails, failed, unplaced, same⟩
      · have goesOn := collects.step stepped
        rw [stepped, steps]
        cases event with
        | none => exact ih kept.fewer goesOn
        | engine name => exact ih kept.fewer goesOn
        | inclusion path =>
            refine (composes _ _ path _ _ kept.trees fun same => (kept.places same).2.1).bind
              fun result resulting parallel => ?_
            cases parallel with
            | error unplaced same => exact .pure (.error unplaced same)
            | ok trees => exact ih (kept.fewer.withTree trees) goesOn
      · rw [fails, failed]
        exact .pure (.error unplaced same)

end Correspondence

end InStep

end Draft

/-! ## Includes in step -/

section Includes

variable {m : Type → Type} [Monad m] [LawfulMonad m] {located : Prop}

/-- An include path is resolved alike wherever its directive stands. -/
theorem IncludeTarget.resolve_alike (loader : Loader m) (config : Config) (including : Settings)
    (raw : String) {location elsewhere : Location} (places : located → elsewhere = location) :
    GoesAlike (Parallel located Eq) (resolve loader config including raw location)
      (resolve loader config including raw elsewhere) := by
  have blamed {α : Type} (blames : Location → ParseError)
      (unplaced : ∀ location elsewhere, (blames location).unplaced = (blames elsewhere).unplaced) :
      Parallel located (Eq : α → α → Prop) (.error (blames location)) (.error (blames elsewhere)) :=
    .error (unplaced _ _) fun same => by rw [places same]
  have based (raw : String) : Parallel located Eq (base config including raw location)
      (base config including raw elsewhere) := by
    unfold base
    split
    · split
      · exact blamed (.libraryRootMissing raw) fun _ _ => rfl
      · exact .ok rfl
    · exact .ite Iff.rfl (fun _ => blamed (.rootedInclude raw) fun _ _ => rfl) (.ok rfl)
  have normal : Parallel located Eq (normalized config including raw location)
      (normalized config including raw elsewhere) := by
    unfold normalized
    refine .ite Iff.rfl (fun _ => blamed .includePathEmpty fun _ _ => rfl) ?_
    refine (based _).bind ?_
    rintro start _ rfl
    cases Path.normalize start.relative with
    | error cause => exact blamed (.includePathUnderflow _) fun _ _ => rfl
    | ok relative =>
        exact .ite Iff.rfl (fun _ => blamed .includePathEmpty fun _ _ => rfl) (.ok rfl)
  unfold resolve
  rcases normal.cases_eq with ⟨start, _, leads, led, rfl⟩ | ⟨_, _, fails, failed, unplaced, same⟩
  · rw [leads, led]
    refine (GoesAlike.refl (fun _ => rfl) _).bind ?_
    rintro found _ rfl
    cases found with
    | none => exact .pure (blamed (.includeNotFound _) fun _ _ => rfl)
    | some path => exact .pure (.ok rfl)
  · rw [fails, failed]
    exact .pure (.error unplaced same)

/-- **An include goes alike** in trees with the same identity at the top and the same size, where
the included texts are parsed alike and taken in alike. -/
theorem Compiler.compose_alike {compiler other : Compiler m} {parse? other? : Option (ParseText m)}
    {related trees : IncludeTree → IncludeTree → Prop} (created : Nat)
    {ancestors : List Identity} {parent counterpart : IncludeTree} {raw : String}
    {location elsewhere : Location} (places : located → elsewhere = location)
    (loader : other.loader = compiler.loader)
    (limit : other.emitter.config.maxIncludeDepth = compiler.emitter.config.maxIncludeDepth)
    (resolves : GoesAlike (Parallel located Eq)
      (IncludeTarget.resolve compiler.loader compiler.emitter.config parent.template.settings raw
        location)
      (IncludeTarget.resolve other.loader other.emitter.config counterpart.template.settings raw
        elsewhere))
    (parses : Option.Rel (fun parse other => ∀ created ancestors settings text,
      GoesAlike (Parallel True trees) (parse created ancestors settings text)
        (other created ancestors settings text)) parse? other?)
    (size : counterpart.size = parent.size)
    (identity : counterpart.template.identity = parent.template.identity)
    (adopts : ∀ child grown, trees child grown →
      Parallel located related (parent.adopt compiler.emitter ancestors child location)
        (counterpart.adopt other.emitter ancestors grown elsewhere)) :
    GoesAlike (Parallel located related)
      (compiler.compose parse? created ancestors parent raw location)
      (other.compose other? created ancestors counterpart raw elsewhere) := by
  have blamed (blames : Location → ParseError)
      (unplaced : ∀ location elsewhere, (blames location).unplaced = (blames elsewhere).unplaced) :
      GoesAlike (m := m) (Parallel located related) (Pure.pure (.error (blames location)))
        (Pure.pure (.error (blames elsewhere))) :=
    .pure (.error (unplaced _ _) fun same => by rw [places same])
  refine resolves.bind fun target counterpartTarget parallel => ?_
  cases parallel with
  | error unplaced same => exact .pure (.error unplaced same)
  | ok holds =>
      subst holds
      cases parses with
      | none =>
          simp only [incorporate, limit]
          exact blamed (.includeDepthExceeded _ _) fun _ _ => rfl
      | some alike =>
          simp only [incorporate, loader, size, identity]
          refine (GoesAlike.refl (fun _ => rfl) _).bind ?_
          rintro loaded _ rfl
          cases loaded with
          | error reason => exact blamed (.includeUnreadable _ reason) fun _ _ => rfl
          | ok text =>
              refine (alike _ _ _ _).bind fun result resulting parallel => ?_
              cases parallel with
              | error unplaced same =>
                  rw [same trivial]
                  exact blamed (.includeParse _ _) fun _ _ => rfl
              | ok holds => exact .pure (adopts _ _ holds)

end Includes

end TemplateCompiler
