import TemplateCompiler.Proofs.Markup.Closings
import TemplateCompiler.Proofs.Markup.NamesAndPaths

/-! # Reading a text section by section

Reading a text follows its sections one after the other (`Draft.reads_sections`): each is read
from the literal text before it to its close tag, where its directive is performed. In the tail
no directive is performed any more: reading goes on to the end of the text or to a character that
cannot be read (`Draft.leadsTo_of_open_directive`).
-/

namespace TemplateCompiler

open Markup
open MonadAttach (CanReturn)

namespace Draft

/-- What a section does from the draft before its literal text. -/
def perform (writer : Writer) (ancestors : List Identity) (draft : Draft) (s : Section) :
    Except ParseError (Draft × Event) :=
  let tagged := draft.atTag writer s.literal
  let closed := ((tagged.skip s.written).goTo .literal).clear
  match s.directive with
  | .body region tokens =>
    (tagged.atClose region s.written tokens).complete writer ancestors region
  | .name kind name => closed.declareName ancestors kind (String.ofList name) >>= quietly
  | .inclusion path => .ok (closed, .inclusion (String.ofList path))

variable {writer : Writer} {ancestors : List Identity} {draft : Draft}

variable (writer ancestors) in
/-- **A section** leads to its close tag, which performs it. -/
theorem leadsTo_of_section (state : draft.state = .literal) {text rest : List Char} {s : Section}
    (first : section? text = some (s, rest)) :
    ∃ last, LeadsTo writer ancestors draft text last ('>' :: rest) ∧
      last.step writer ancestors '>' = draft.perform writer ancestors s := by
  obtain ⟨tag, tagged, found, whole⟩ := section?_eq_some first
  have atTag := leadsTo_atTag writer ancestors state tagged
  obtain ⟨inner, opens, starts⟩ := directive?_eq_some found
  unfold perform
  generalize tagSame : draft.atTag writer s.literal = atTagDraft at atTag ⊢
  have tagState : atTagDraft.state = .tagOpen := by rw [← tagSame]; rfl
  have empty : atTagDraft.pending = "" := by rw [← tagSame]; rfl
  obtain ⟨markup, _, split, entered⟩ := leadsTo_of_opening writer ancestors tagState opens
  have nothing (name : List Char) :
      (atTagDraft.skip markup).pending ++ String.ofList name = String.ofList name := by
    rw [← String.toList_inj]
    simp [skip, empty]
  cases directive : s.directive with
  | body region tokens =>
      rw [directive] at opens starts
      obtain ⟨last, leads, performed⟩ := leadsTo_of_closed
        writer ancestors tagState opens starts whole
      exact ⟨last, atTag.trans leads, performed⟩
  | name kind name =>
      rw [directive] at entered starts
      obtain ⟨raw, behind⟩ := suffix_of_name? starts
      obtain ⟨last, leads, performed⟩ := leadsTo_of_name writer ancestors
        (atTagDraft.skip markup) starts behind.symm
      have written : s.written = markup ++ raw :=
        (List.append_left_inj rest).mp (by rw [← whole, split, ← behind, List.append_assoc])
      refine ⟨last, (atTag.trans entered).trans leads, ?_⟩
      rw [performed, written, skip_skip, nothing]
  | inclusion path =>
      rw [directive] at entered starts
      obtain ⟨raw, behind⟩ := suffix_of_path? starts
      obtain ⟨last, leads, performed⟩ := leadsTo_of_path writer ancestors
        (atTagDraft.skip markup) starts behind.symm
      have written : s.written = markup ++ raw :=
        (List.append_left_inj rest).mp (by rw [← whole, split, ← behind, List.append_assoc])
      refine ⟨last, (atTag.trans entered).trans leads, ?_⟩
      rw [performed, written, skip_skip, nothing]

/-- A draft between directives: nothing is collected, and it stands behind the text before. -/
structure IsBetween (draft : Draft) (before : List Char) : Prop where
  state : draft.state = .literal
  pending : draft.pending = ""
  cursor : draft.cursor = Cursor.start.advanceBy before

variable (writer) in
/-- A tag behind a place is opened at its `%`. -/
theorem tagStart_atTag {before : List Char} (between : draft.IsBetween before)
    (literal : List Char) :
    (draft.atTag writer literal).tagStart = locationBehind (before ++ literal ++ ['<']) := by
  rw [Draft.atTag, between.cursor, ← Cursor.advanceBy_append, ← location_advanceBy _ '%']
  simp

/-- A declared name leaves the place and the fragments as they are. -/
theorem declareName_eq_ok {kind : NameKind} {name : String} {next : Draft}
    (declared : draft.declareName ancestors kind name = .ok next) :
    ∃ template, next = draft.withTemplate template ∧ template.body = draft.template.body ∧
      template.functions = draft.template.functions := by
  simp only [declareName] at declared
  split_ifs at declared
  split at declared
  · cases declared
  · rename_i template accepted
    split_ifs at declared
    cases declared
    have written := Template.declare_eq_ok accepted
    refine ⟨template, rfl, ?_, ?_⟩ <;> cases kind <;> rw [written.2]

/-- What is left of completing a directive besides its tree and the mode. -/
def Completes (draft : Draft) (done : Draft × Event) : Prop :=
  done.1 = { draft with pending := "", tree := done.1.tree, mode := done.1.mode } ∧
    ∀ path, done.2 ≠ .inclusion path

/-- A closed directive is no include, and nothing is left collected. -/
theorem completes_of_complete {region : Region} {done : Draft × Event}
    (completed : draft.complete writer ancestors region = .ok done) : draft.Completes done := by
  cases region with
  | comment => cases completed; exact ⟨rfl, by simp⟩
  | dependency => cases completed; exact ⟨rfl, by simp⟩
  | externalCode => cases completed; exact ⟨rfl, by simp⟩
  | write => cases completed; exact ⟨rfl, by simp⟩
  | transform t => cases completed; exact ⟨rfl, by simp⟩
  | engineName =>
      simp only [complete, completeEngine] at completed
      split at completed
      · cases completed
      · obtain ⟨after, declared, rest⟩ := exists_ok_of_bind completed
        obtain ⟨template, same, _⟩ := declareName_eq_ok declared
        cases rest
        subst same
        exact ⟨rfl, by simp⟩
  | block =>
      obtain ⟨after, closed, rest⟩ := exists_ok_of_bind completed
      cases rest
      rw [completeBlock_eq writer] at closed
      split_ifs at closed <;> cases closed <;> exact ⟨rfl, by simp⟩
  | function =>
      cases completed
      refine ⟨?_, by simp⟩
      simp only [completeFunction]
      split_ifs <;> rfl

/-- **A performed section** leads to the place behind it. -/
theorem isBetween_of_perform {s : Section} {before : List Char} {done : Draft × Event}
    (between : draft.IsBetween before)
    (performed : draft.perform writer ancestors s = .ok done) :
    done.1.IsBetween (before ++ s.text) := by
  have cursor : ((draft.atTag writer s.literal).cursor.advanceBy s.written) =
      Cursor.start.advanceBy (before ++ s.text) := by
    simp only [atTag, between.cursor, ← Cursor.advanceBy_append, Section.text, List.append_assoc]
  unfold perform at performed
  cases directive : s.directive with
  | body region tokens =>
      simp only [directive] at performed
      obtain ⟨same, _⟩ := completes_of_complete performed
      rw [same]
      exact ⟨rfl, rfl, cursor⟩
  | name kind name =>
      simp only [directive] at performed
      obtain ⟨after, declared, rest⟩ := exists_ok_of_bind performed
      obtain ⟨template, same, _⟩ := declareName_eq_ok declared
      cases rest
      rw [same]
      exact ⟨rfl, rfl, cursor⟩
  | inclusion path =>
      simp only [directive] at performed
      cases performed
      exact ⟨rfl, rfl, cursor⟩

/-- The draft in the directive that a text behind a `<%` opens, or at the `<%`. -/
def atOpening (draft : Draft) (tag : List Char) : Draft :=
  match opening? tag with
  | none => draft
  | some (opening, _) => draft.enter opening

theorem tagStart_atOpening (draft : Draft) (tag : List Char) :
    (draft.atOpening tag).tagStart = draft.tagStart := by
  unfold atOpening
  split
  · rfl
  · exact tagStart_enter _ _

variable (writer ancestors) in
/-- **A directive that is not closed** is where reading ends: at the end of the text, or before
a character that cannot be read. A function block can be read to the end of the text. -/
theorem leadsTo_of_open_directive {draft : Draft} (state : draft.state = .tagOpen)
    {tag : List Char} (unclosed : directive? tag = none) :
    ∃ last rest, LeadsTo writer ancestors draft tag last rest ∧
      last.IsStuck writer ancestors rest ∧ last.state.IsInside ∧
      (draft.atOpening tag).Continues last ∧
      (∀ inner, opening? tag = some (.body .function, inner) →
        rest = [] ∧ last.state.IsIn .function) ∧
      last.state.family? = some (openedFamily tag) := by
  unfold atOpening openedFamily
  cases opens : opening? tag with
  | none =>
      obtain ⟨last, leads, inTag, continues⟩ := leadsTo_of_incomplete writer ancestors state opens
      refine ⟨last, [], leads, nofun, ?_, continues, nofun, ?_⟩
      all_goals rcases inTag with tagOpen | ⟨sigil, tagOpen⟩ <;> rw [tagOpen] <;> trivial
  | some found =>
      obtain ⟨opening, inner⟩ := found
      obtain ⟨markup, _, _, entered⟩ := leadsTo_of_opening writer ancestors state opens
      cases opening with
      | body region =>
          have bodiless : body? (bodyMark region) inner = none := by
            simpa [directive?, opens] using unclosed
          obtain ⟨last, leads, inside, continues⟩ := leadsTo_of_unclosed
            writer ancestors state opens bodiless
          refine ⟨last, [], leads, nofun, State.isInside_of_isIn inside, continues, ?_,
            family?_of_isIn inside⟩
          rintro _ same
          cases same
          exact ⟨rfl, inside⟩
      | name kind =>
          have nameless : name? kind inner = none := by
            simpa [directive?, opens] using unclosed
          obtain ⟨last, rest, leads, stuck, inside, family, continues⟩ := getsStuck_of_name
            writer ancestors (draft.skip markup) nameless
          exact ⟨last, rest, entered.trans leads, stuck, inside,
            Continues.trans (show draft.Continues ((draft.skip markup).goTo (.name kind)) from rfl)
              continues, nofun, family⟩
      | inclusion =>
          have pathless : path? inner = none := by
            simpa [directive?, opens] using unclosed
          obtain ⟨last, rest, leads, stuck, inside, family, continues⟩ := getsStuck_of_path
            writer ancestors (draft.skip markup) pathless
          exact ⟨last, rest, entered.trans leads, stuck, inside,
            Continues.trans (show draft.Continues ((draft.skip markup).goTo .includeLead) from rfl)
              continues, nofun, family⟩

theorem directive?_of_tail {text literal tag : List Char} (tail : section? text = none)
    (tagged : splitAt? ['<', '%'] text = some (literal, tag)) : directive? tag = none := by
  simpa [section?, tagged] using tail

section Sections

variable {m : Type → Type} [Monad m]
  {compose : IncludeTree → String → Location → m (Except ParseError IncludeTree)}

variable (writer ancestors compose) in
/-- The draft after a section. -/
def follow (draft : Draft) (s : Section) : ExceptT ParseError m Draft :=
  ofExcept (draft.perform writer ancestors s) >>= settle compose

variable [LawfulMonad m]

theorem follow_of_ok {s : Section} {next : Draft}
    (performed : draft.perform writer ancestors s = .ok (next, .none)) :
    draft.follow writer ancestors compose s = pure next := by
  rw [follow, performed, ofExcept_ok, pure_bind, settle_none]

theorem follow_of_error {s : Section} {cause : ParseError}
    (failed : draft.perform writer ancestors s = .error cause) :
    draft.follow writer ancestors compose s = throw cause := by
  rw [follow, failed, ofExcept_error]
  exact ExceptT.ext (by simp)

/-- **Reading starts with the first section.** -/
theorem reads_section (state : draft.state = .literal) {text rest : List Char} {s : Section}
    (first : section? text = some (s, rest)) :
    reads writer ancestors compose draft text =
      draft.follow writer ancestors compose s >>= fun next =>
        reads writer ancestors compose next rest := by
  obtain ⟨last, leads, performed⟩ := leadsTo_of_section writer ancestors state first
  rw [leads.reads_eq, reads_cons, advance, performed]
  rfl

/-- An include is settled with the tree that composing it returns. -/
theorem settle_inclusion {path : String} {tree : IncludeTree}
    (composed : compose draft.tree path draft.tagStart = pure (.ok tree)) :
    settle compose (draft, .inclusion path) = pure { draft with tree := tree } := by
  refine ExceptT.ext ?_
  simp [settle, composed]

variable [MonadAttach m] [LawfulMonadAttach m]

/-- An include that is settled has been composed. -/
theorem exists_of_settle_inclusion {path : String} {next : Draft}
    (returned : CanReturn (settle compose (draft, .inclusion path)) next) :
    ∃ tree, CanReturn (compose draft.tree path draft.tagStart) (.ok tree) ∧
      next = { draft with tree := tree } := by
  have composing : settle compose (draft, .inclusion path) =
      ExceptT.mk (compose draft.tree path draft.tagStart) >>= fun tree =>
        pure { draft with tree := tree } := rfl
  rw [composing] at returned
  obtain ⟨tree, composed, returned⟩ := exists_canReturn_of_bind returned
  exact ⟨tree, composed, (eq_of_canReturn_pure returned).symm⟩

theorem eq_of_canReturn_settle {done : Draft × Event} {next : Draft}
    (returned : CanReturn (settle compose done) next) :
    next = { done.1 with tree := next.tree } := by
  obtain ⟨last, event⟩ := done
  cases event with
  | none => rw [← eq_of_canReturn_pure returned]
  | engine name => rw [← eq_of_canReturn_pure returned]
  | inclusion path =>
      obtain ⟨tree, _, same⟩ := exists_of_settle_inclusion returned
      rw [same]

theorem exists_of_canReturn_follow {s : Section} {next : Draft}
    (returned : CanReturn (draft.follow writer ancestors compose s) next) :
    ∃ done, draft.perform writer ancestors s = .ok done ∧ CanReturn (settle compose done) next := by
  obtain ⟨done, performed, settled⟩ := exists_canReturn_of_bind returned
  exact ⟨done, eq_ok_of_canReturn_ofExcept performed, settled⟩

theorem isBetween_of_follow {s : Section} {before : List Char} {next : Draft}
    (between : draft.IsBetween before)
    (returned : CanReturn (draft.follow writer ancestors compose s) next) :
    next.IsBetween (before ++ s.text) := by
  obtain ⟨done, performed, settled⟩ := exists_of_canReturn_follow returned
  obtain ⟨state, pending, cursor⟩ := isBetween_of_perform between performed
  rw [eq_of_canReturn_settle settled]
  exact ⟨state, pending, cursor⟩

/-- **Reading follows the sections** of a text and goes on with its tail. -/
theorem reads_sections {before : List Char} (between : draft.IsBetween before)
    (text : List Char) :
    reads writer ancestors compose draft text =
      (sections text).1.foldlM (follow writer ancestors compose) draft >>= fun last =>
        reads writer ancestors compose last (sections text).2 := by
  induction text using sections_induction generalizing draft before with
  | tail text none => rw [sections_of_none none, List.foldlM_nil, pure_bind]
  | behind text s rest first ih =>
      rw [reads_section between.state first, sections_of_some first, List.foldlM_cons, bind_assoc]
      exact bind_congr_of_canReturn fun next followed =>
        ih (isBetween_of_follow between followed)

/-- Where reading gets stuck, the draft there is the only one that can be returned. -/
theorem eq_of_canReturn_reads {last read : Draft} {text rest : List Char}
    (leads : LeadsTo writer ancestors draft text last rest)
    (stuck : last.IsStuck writer ancestors rest)
    (returned : CanReturn (reads writer ancestors compose draft text) read) :
    read = last := by
  rw [leads.reads_eq] at returned
  cases rest with
  | nil => exact (eq_of_canReturn_pure returned).symm
  | cons c rest =>
      obtain ⟨expected, failed⟩ := stuck c rfl
      rw [reads_cons, advance, failed, bind_assoc] at returned
      obtain ⟨done, stepped, _⟩ := exists_canReturn_of_bind returned
      cases eq_ok_of_canReturn_ofExcept stepped

end Sections

end Draft

end TemplateCompiler
