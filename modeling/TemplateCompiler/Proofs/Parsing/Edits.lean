import Mathlib.Tactic.SplitIfs
import TemplateCompiler.Compiler

/-! # What one step does to the templates read so far

A step of a draft changes at most the template being read, and that in one of six ways:
`IncludeTree.Edit` lists them. The templates included so far stay as they are, and the
cursor moves by the character read. Taking an included tree in changes the dependencies
and the external code of the including template and puts the included tree at the end.
-/

namespace TemplateCompiler

/-- A sequence that succeeds goes on from a value of its first part. -/
theorem exists_ok_of_bind {ε α β : Type} {first : Except ε α} {next : α → Except ε β} {result : β}
    (succeeded : (first >>= next) = .ok result) :
    ∃ value, first = .ok value ∧ next value = .ok result := by
  cases first with
  | error cause => cases succeeded
  | ok value => exact ⟨value, rfl, succeeded⟩

/-- A declaration that succeeds writes the name into the slot of its kind. -/
theorem Template.declare_eq_ok {template declared : Template} {kind : NameKind} {name : String}
    (result : template.declare kind name = .ok declared) :
    match kind with
    | .className =>
      Grammar.plain.accepts name = true ∧ declared = { template with classSlot := .explicit name }
    | .moduleName =>
      template.moduleGrammar.accepts name = true ∧
        declared = { template with moduleSlot := .explicit name }
    | .engineName =>
      Grammar.plain.accepts name = true ∧ declared = { template with engineSlot := .explicit name }
    := by
  cases kind <;> simp only [declare, declareClass, declareModule, declareEngine] at result
  all_goals
    split_ifs at result with accepted
    obtain ⟨slot, written, rest⟩ := exists_ok_of_bind result
    cases rest
    exact ⟨accepted, by rw [NameSlot.eq_explicit_of_declare written]⟩

/-- What a step can make of the template at the top of a tree. -/
inductive IncludeTree.Edit (ancestors : List Identity) (tree : IncludeTree) : Template → Prop where
  | keep : IncludeTree.Edit ancestors tree tree.template
  | toBody (fragment : Fragment) :
      IncludeTree.Edit ancestors tree (tree.template.addToBody fragment)
  | toFunctions (fragment : Fragment) :
      IncludeTree.Edit ancestors tree (tree.template.addToFunctions fragment)
  | dependency (declaration : String) :
      IncludeTree.Edit ancestors tree (tree.template.addDependency declaration)
  | externalCode (code : String) :
      IncludeTree.Edit ancestors tree (tree.template.addExternalCode code)
  /-- A module or class name leads to an identity that is not in use around or below. -/
  | name {template : Template} (kind : NameKind) (name : String)
      (declared : tree.template.declare kind name = .ok template)
      (unused : kind ≠ .engineName →
        template.identity ∉ ancestors ∧ tree.containsIdentity template.identity = false) :
      IncludeTree.Edit ancestors tree template

/-- Edits keep the settings. -/
theorem IncludeTree.Edit.settings_eq {ancestors : List Identity} {tree : IncludeTree}
    {template : Template} (edit : tree.Edit ancestors template) :
    template.settings = tree.template.settings := by
  cases edit with
  | name kind name declared _ =>
      have written := Template.declare_eq_ok declared
      cases kind <;> exact written.2 ▸ rfl
  | _ => rfl

/-- The tree with another template at its top. -/
def IncludeTree.withTemplate (tree : IncludeTree) (template : Template) : IncludeTree :=
  { tree with template := template }

@[simp] theorem IncludeTree.withTemplate_self (tree : IncludeTree) :
    tree.withTemplate tree.template = tree := by
  cases tree
  rfl

@[simp] theorem IncludeTree.withTemplate_template (tree : IncludeTree) (template : Template) :
    (tree.withTemplate template).template = template := rfl

@[simp] theorem IncludeTree.withTemplate_includedTemplates (tree : IncludeTree)
    (template : Template) :
    (tree.withTemplate template).includedTemplates = tree.includedTemplates := rfl

theorem IncludeTree.mem_includedTemplates_addIncluded {tree child : IncludeTree}
    {template : Template} :
    template ∈ (tree.addIncluded child).includedTemplates ↔
      template ∈ tree.includedTemplates ∨ template = child.template ∨
        template ∈ child.includedTemplates := by
  rw [includedTemplates, addIncluded, forestTemplates_append, List.mem_append, forestTemplates,
    forestTemplates, List.append_nil, templates_eq, List.mem_cons]
  rfl

namespace Draft

section Fields

variable (draft : Draft) (c : Char) (text : String) (state : State) (template : Template)
  (fragment : Fragment)

@[simp] theorem template_tree : draft.template = draft.tree.template := rfl

@[simp] theorem goTo_tree : (draft.goTo state).tree = draft.tree := rfl
@[simp] theorem goTo_cursor : (draft.goTo state).cursor = draft.cursor := rfl
@[simp] theorem goTo_state : (draft.goTo state).state = state := rfl
@[simp] theorem goTo_pending : (draft.goTo state).pending = draft.pending := rfl
@[simp] theorem goTo_mode : (draft.goTo state).mode = draft.mode := rfl
@[simp] theorem goTo_tagStart : (draft.goTo state).tagStart = draft.tagStart := rfl

@[simp] theorem push_tree : (draft.push c).tree = draft.tree := rfl
@[simp] theorem push_cursor : (draft.push c).cursor = draft.cursor := rfl
@[simp] theorem push_state : (draft.push c).state = draft.state := rfl
@[simp] theorem push_pending : (draft.push c).pending = draft.pending.push c := rfl
@[simp] theorem push_mode : (draft.push c).mode = draft.mode := rfl
@[simp] theorem push_tagStart : (draft.push c).tagStart = draft.tagStart := rfl

@[simp] theorem pushText_tree : (draft.pushText text).tree = draft.tree := rfl
@[simp] theorem pushText_cursor : (draft.pushText text).cursor = draft.cursor := rfl

@[simp] theorem clear_tree : draft.clear.tree = draft.tree := rfl
@[simp] theorem clear_cursor : draft.clear.cursor = draft.cursor := rfl

@[simp] theorem withTemplate_tree :
    (draft.withTemplate template).tree = draft.tree.withTemplate template := rfl
@[simp] theorem withTemplate_cursor : (draft.withTemplate template).cursor = draft.cursor := rfl

@[simp] theorem append_cursor : (draft.append fragment).cursor = draft.cursor := rfl

end Fields

theorem withTemplate_self (draft : Draft) : draft.withTemplate draft.tree.template = draft :=
  congrArg (fun tree => { draft with tree := tree }) draft.tree.withTemplate_self

/-- What is left of a step apart from where it leads: one edit of the tree, and the
cursor where it was. -/
def EditedFrom (ancestors : List Identity) (draft next : Draft) : Prop :=
  (∃ template, draft.tree.Edit ancestors template ∧ next.tree = draft.tree.withTemplate template) ∧
    next.cursor = draft.cursor

variable {ancestors : List Identity} {writer : Writer} {draft next : Draft}

/-- A draft with the same tree and cursor is edited trivially. -/
theorem EditedFrom.of_same (tree : next.tree = draft.tree) (cursor : next.cursor = draft.cursor) :
    EditedFrom ancestors draft next :=
  ⟨⟨_, .keep, by rw [tree, IncludeTree.withTemplate_self]⟩, cursor⟩

/-- An appended fragment goes to the body or to the functions. -/
theorem append_edited (ancestors : List Identity) (draft : Draft) (fragment : Fragment) :
    EditedFrom ancestors draft (draft.append fragment) := by
  by_cases off : draft.mode = .off
  · exact ⟨⟨_, .toBody fragment, by simp [append, off]⟩, rfl⟩
  · exact ⟨⟨_, .toFunctions fragment, by simp [append, off]⟩, rfl⟩

theorem flushLiteral_edited (ancestors : List Identity) (writer : Writer) (draft : Draft) :
    EditedFrom ancestors draft (draft.flushLiteral writer) := by
  unfold flushLiteral
  simp only
  split
  · exact .of_same rfl rfl
  · exact append_edited ancestors draft.clear _

@[simp] theorem readLiteral_tree (draft : Draft) (c : Char) :
    (draft.readLiteral c).tree = draft.tree := by
  unfold readLiteral
  split <;> rfl

@[simp] theorem readLiteral_cursor (draft : Draft) (c : Char) :
    (draft.readLiteral c).cursor = draft.cursor := by
  unfold readLiteral
  split <;> rfl

@[simp] theorem readBody_tree (draft : Draft) (region : Region) (c : Char) :
    (draft.readBody region c).tree = draft.tree := by
  unfold readBody
  split_ifs <;> rfl

@[simp] theorem readBody_cursor (draft : Draft) (region : Region) (c : Char) :
    (draft.readBody region c).cursor = draft.cursor := by
  unfold readBody
  split_ifs <;> rfl

@[simp] theorem readOpening_tree (draft : Draft) (c : Char) :
    (draft.readOpening c).tree = draft.tree := by
  unfold readOpening
  split <;> simp

@[simp] theorem readOpening_cursor (draft : Draft) (c : Char) :
    (draft.readOpening c).cursor = draft.cursor := by
  unfold readOpening
  split <;> simp

@[simp] theorem openFunction_tree (draft : Draft) : draft.openFunction.tree = draft.tree := by
  unfold openFunction
  split <;> rfl

@[simp] theorem openFunction_cursor (draft : Draft) : draft.openFunction.cursor = draft.cursor := by
  unfold openFunction
  split <;> rfl

theorem readIncludeLead_edited {c : Char} (read : draft.readIncludeLead c = .ok next) :
    EditedFrom ancestors draft next := by
  simp only [readIncludeLead] at read
  split_ifs at read
  · cases read
    exact .of_same rfl rfl
  · cases read
    exact .of_same rfl rfl

theorem readSigil_edited {sigil : Sigil} {c : Char} (read : draft.readSigil sigil c = .ok next) :
    EditedFrom ancestors draft next := by
  unfold readSigil at read
  split at read
  case h_5 =>
    split at read
    · cases read
      exact .of_same rfl rfl
    · split at read
      case h_2 => exact readIncludeLead_edited read
      all_goals
        cases read
        exact .of_same (by simp) (by simp)
  all_goals
    cases read
    exact .of_same (by simp) (by simp)

/-- Edits do not depend on the text collected, the state or the mode. -/
theorem EditedFrom.congr {other after : Draft} (edited : EditedFrom ancestors draft next)
    (tree : other.tree = draft.tree) (cursor : other.cursor = draft.cursor)
    (treeAfter : after.tree = next.tree) (cursorAfter : after.cursor = next.cursor) :
    EditedFrom ancestors other after := by
  obtain ⟨⟨template, edit, result⟩, moved⟩ := edited
  exact ⟨⟨template, tree ▸ edit, by rw [treeAfter, result, tree]⟩,
    by rw [cursorAfter, moved, cursor]⟩

theorem completeBlock_edited (completed : draft.completeBlock = .ok next) :
    EditedFrom ancestors draft next := by
  have block : EditedFrom ancestors draft
      (if draft.pending.isEmpty then draft.clear
        else draft.clear.append ⟨.code, draft.pending, draft.pending⟩) := by
    split_ifs
    · exact .of_same rfl rfl
    · exact append_edited ancestors draft.clear _
  simp only [completeBlock] at completed
  generalize (if draft.pending.isEmpty then draft.clear
    else draft.clear.append ⟨.code, draft.pending, draft.pending⟩) = closed at block completed
  split_ifs at completed <;> cases completed
  · exact block.congr rfl rfl rfl rfl
  · exact block

theorem completeFunction_edited : EditedFrom ancestors draft draft.completeFunction := by
  have block : EditedFrom ancestors draft
      (draft.clear.append ⟨.code, draft.pending, draft.pending⟩) :=
    append_edited ancestors draft.clear _
  unfold completeFunction
  simp only
  split_ifs
  · exact block.congr rfl rfl rfl rfl
  · exact block.congr rfl rfl rfl rfl

/-- A declared name leads to an identity that is not in use. -/
theorem declareName_edited {kind : NameKind} {name : String}
    (declared : draft.declareName ancestors kind name = .ok next) :
    EditedFrom ancestors draft next := by
  simp only [declareName] at declared
  split_ifs at declared
  split at declared
  · cases declared
  · rename_i template accepted
    split_ifs at declared with inUse
    cases declared
    refine ⟨⟨template, .name kind name accepted ?_, rfl⟩, rfl⟩
    intro named
    simp only [named, ne_eq, not_false_eq_true, true_and, not_or] at inUse
    exact ⟨inUse.1, Bool.eq_false_iff.mpr inUse.2⟩

theorem completeEngine_edited {event : Event}
    (completed : draft.completeEngine ancestors = .ok (next, event)) :
    EditedFrom ancestors draft next := by
  unfold completeEngine at completed
  split at completed
  · cases completed
  · obtain ⟨after, declared, rest⟩ := exists_ok_of_bind completed
    cases rest
    exact (declareName_edited declared).congr rfl rfl rfl rfl

theorem complete_edited {region : Region} {event : Event}
    (completed : draft.complete writer ancestors region = .ok (next, event)) :
    EditedFrom ancestors draft next := by
  cases region with
  | comment =>
      cases completed
      exact .of_same rfl rfl
  | dependency =>
      cases completed
      exact ⟨⟨_, .dependency _, rfl⟩, rfl⟩
  | externalCode =>
      cases completed
      exact ⟨⟨_, .externalCode _, rfl⟩, rfl⟩
  | engineName => exact completeEngine_edited completed
  | write =>
      cases completed
      exact append_edited ancestors draft.clear _
  | transform helper =>
      cases completed
      exact append_edited ancestors draft.clear _
  | block =>
      obtain ⟨after, closed, rest⟩ := exists_ok_of_bind completed
      cases rest
      exact completeBlock_edited closed
  | function =>
      cases completed
      exact completeFunction_edited

/-- A result that a step reaches quietly, through a reading that can fail. -/
theorem quietly_bind_eq {reading : Except ParseError Draft} {event : Event}
    (result : (reading >>= quietly) = .ok (next, event)) : reading = .ok next := by
  obtain ⟨after, read, rest⟩ := exists_ok_of_bind result
  cases rest
  exact read

/-- **What one step does.** A step reads one character and edits the tree at most once. -/
theorem step_edited {c : Char} {event : Event}
    (stepped : draft.step writer ancestors c = .ok (next, event)) :
    EditedFrom ancestors { draft with cursor := draft.cursor.advance c } next := by
  unfold step at stepped
  simp only at stepped
  generalize { draft with cursor := draft.cursor.advance c } = moved at stepped ⊢
  generalize draft.state = state at stepped
  cases state <;> simp only at stepped
  case sigil => exact readSigil_edited (quietly_bind_eq stepped)
  case includeLead => exact readIncludeLead_edited (quietly_bind_eq stepped)
  case lessThan =>
    split_ifs at stepped <;> cases stepped
    · exact (flushLiteral_edited ancestors writer moved).congr rfl rfl rfl rfl
    · exact .of_same (by simp) (by simp)
  case closing =>
    split_ifs at stepped
    · exact (complete_edited stepped).congr rfl rfl rfl rfl
    · cases stepped
      exact .of_same (by simp) (by simp)
  case nameClose =>
    split_ifs at stepped
    exact (declareName_edited (quietly_bind_eq stepped)).congr rfl rfl rfl rfl
  all_goals
    try split_ifs at stepped
    all_goals
      cases stepped
      exact .of_same (by simp) (by simp)

/-- A text that ends in literal text ends with its last literal. -/
theorem finish_edited (ancestors : List Identity) {tree : IncludeTree}
    (finished : draft.finish writer = .ok tree) :
    ∃ template, draft.tree.Edit ancestors template ∧ tree = draft.tree.withTemplate template := by
  simp only [finish] at finished
  split at finished
  · cases finished
  · cases finished
  · split_ifs at finished <;> cases finished
    · exact (flushLiteral_edited ancestors writer ((draft.push '<').goTo .literal)).1
    · exact (flushLiteral_edited ancestors writer draft).1

end Draft

/-- A tree takes in an included one whose identities are not in use around or in it. What
the target makes of the included template goes to the dependencies and the external
code. -/
theorem IncludeTree.adopt_eq_ok {emitter : Emitter} {ancestors : List Identity}
    {parent child tree : IncludeTree} {location : Location}
    (adopted : parent.adopt emitter ancestors child location = .ok tree) :
    (∀ identity ∈ child.identities, identity ∉ parent.identities ∧ identity ∉ ancestors) ∧
      ∃ dependencies externalCode, tree = (parent.withTemplate { parent.template with
        dependencies := dependencies, externalCode := externalCode }).addIncluded child := by
  simp only [adopt] at adopted
  split at adopted
  · cases adopted
  · rename_i free
    have apart : ∀ identity ∈ child.identities, identity ∉ parent.identities ∧
        identity ∉ ancestors := by
      intro identity member
      have notTaken := List.find?_eq_none.mp free identity member
      simpa only [decide_eq_true_eq, List.mem_append, not_or] using notTaken
    refine ⟨apart, ?_⟩
    split at adopted
    · cases adopted
    · rename_i template absorbed
      cases adopted
      obtain ⟨dependencies, _, rest⟩ := exists_ok_of_bind absorbed
      cases rest
      exact ⟨dependencies, _, rfl⟩

end TemplateCompiler
