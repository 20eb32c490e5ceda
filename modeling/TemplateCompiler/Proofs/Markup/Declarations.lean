import TemplateCompiler.Proofs.Markup.Effects

/-! # Names that a template declares

A slot keeps the name that has been declared in it (`NameSlot.declared?`), and a template takes a
name that fits the rule where no other one has been declared (`Template.exists_declare_iff`). What
has been declared stays declared (`Template.declared_of_perform`). Directives that declare no
module or class name do not look at these names (`Draft.perform_withNames`).
-/

namespace TemplateCompiler

open Markup
open MonadAttach (CanReturn)

/-! ## Slots -/

/-- The name that has been declared. -/
def NameSlot.declared? : NameSlot → Option String
  | .explicit name => some name
  | _ => none

/-- A name can be declared where no other one has been. -/
theorem NameSlot.declare_eq_ok_iff {slot after : NameSlot} {kind : NameKind} {name : String} :
    slot.declare kind name = .ok after ↔
      (∀ existing ∈ slot.declared?, existing = name) ∧ after = .explicit name := by
  cases slot with
  | unset => simp [declare, declared?, eq_comm]
  | generated _ => simp [declare, declared?, eq_comm]
  | explicit existing =>
      by_cases same : existing = name
      · simp [declare, declared?, same, eq_comm]
      · simp [declare, declared?, same]

namespace Template

/-- The slot of a name. -/
def slot (template : Template) : NameKind → NameSlot
  | .className => template.classSlot
  | .moduleName => template.moduleSlot
  | .engineName => template.engineSlot

/-- The rule for a name. -/
def grammar (template : Template) : NameKind → Grammar
  | .moduleName => template.moduleGrammar
  | _ => .plain

variable {template : Template} {kind : NameKind} {name : String}

/-- A template takes a name that fits the rule where no other one has been declared. -/
theorem exists_declare_iff :
    (∃ declared, template.declare kind name = .ok declared) ↔
      (template.grammar kind).accepts name = true ∧
        ∀ existing ∈ (template.slot kind).declared?, existing = name := by
  have writes (slot : NameSlot) (write : NameSlot → Template) :
      (∃ declared, write <$> slot.declare kind name = .ok declared) ↔
        ∀ existing ∈ slot.declared?, existing = name := by
    constructor
    · rintro ⟨declared, result⟩
      cases written : slot.declare kind name with
      | error cause =>
          rw [written] at result
          cases result
      | ok after => exact (NameSlot.declare_eq_ok_iff.mp written).1
    · intro free
      rw [NameSlot.declare_eq_ok_iff.mpr ⟨free, rfl⟩]
      exact ⟨_, rfl⟩
  cases kind with
  | className =>
      by_cases fits : Grammar.plain.accepts name = true
      · simpa [declare, declareClass, grammar, slot, fits] using writes template.classSlot _
      · simp [declare, declareClass, grammar, fits]
  | moduleName =>
      by_cases fits : template.moduleGrammar.accepts name = true
      · simpa [declare, declareModule, grammar, slot, fits] using writes template.moduleSlot _
      · simp [declare, declareModule, grammar, fits]
  | engineName =>
      by_cases fits : Grammar.plain.accepts name = true
      · simpa [declare, declareEngine, grammar, slot, fits] using writes template.engineSlot _
      · simp [declare, declareEngine, grammar, fits]

variable {performed : Template} {directive : Directive} {given existing : String}

/-- A declared name goes to its slot, and the other slots stay as they are. -/
theorem slot_of_declare {other : NameKind} (result : template.declare kind name = .ok performed) :
    performed.slot other = if other = kind then .explicit name else template.slot other := by
  have written := declare_eq_ok result
  cases kind <;> cases other <;> rw [written.2] <;> rfl

theorem declared_of_declare {other : NameKind}
    (result : template.declare other given = .ok performed)
    (declared : existing ∈ (template.slot kind).declared?) :
    existing ∈ (performed.slot kind).declared? := by
  rw [slot_of_declare result]
  split_ifs with same
  · subst same
    obtain ⟨_, free⟩ := exists_declare_iff.mp ⟨performed, result⟩
    rw [free existing declared]
    rfl
  · exact declared

/-- **What has been declared stays declared.** -/
theorem declared_of_perform (result : template.perform directive = .ok performed)
    (other : kind ≠ .engineName) (declared : existing ∈ (template.slot kind).declared?) :
    existing ∈ (performed.slot kind).declared? := by
  cases directive with
  | name kind chars => exact declared_of_declare result declared
  | inclusion path =>
      cases result
      exact declared
  | body region tokens =>
      rw [eq_of_perform_body result]
      cases kind with
      | engineName => exact absurd rfl other
      | _ => exact declared

/-- The template with other slots for its module and its class. -/
def withNames (template : Template) (moduleSlot classSlot : NameSlot) : Template :=
  { template with moduleSlot := moduleSlot, classSlot := classSlot }

theorem declareEngine_withNames (template : Template) (moduleSlot classSlot : NameSlot)
    (name : String) :
    (template.withNames moduleSlot classSlot).declareEngine name =
      (template.declareEngine name).map (·.withNames moduleSlot classSlot) := by
  simp only [declareEngine, withNames]
  split_ifs
  · cases template.engineSlot.declare .engineName name <;> rfl
  · rfl

end Template

/-! ## Directives that declare no name -/

namespace Draft

variable {writer : Writer}

/-- The draft of a template with other slots for its module and its class. -/
def withNames (draft : Draft) (moduleSlot classSlot : NameSlot) : Draft :=
  draft.withTemplate (draft.template.withNames moduleSlot classSlot)

section WithNames

variable (draft : Draft) (moduleSlot classSlot : NameSlot)

theorem append_withNames (fragment : Fragment) :
    (draft.withNames moduleSlot classSlot).append fragment =
      (draft.append fragment).withNames moduleSlot classSlot := by
  have mode : (draft.withNames moduleSlot classSlot).mode = draft.mode := rfl
  by_cases off : draft.mode = .off
  · rw [append, append, if_pos off, if_pos (mode.trans off)]
    rfl
  · rw [append, append, if_neg off, if_neg (mode ▸ off)]
    rfl

variable (writer) in
theorem addPiece_withNames (piece : Piece) :
    (draft.withNames moduleSlot classSlot).addPiece writer piece =
      (draft.addPiece writer piece).withNames moduleSlot classSlot := by
  have mode : (draft.withNames moduleSlot classSlot).mode = draft.mode := rfl
  by_cases off : draft.mode = .off
  · rw [addPiece, addPiece, if_pos off, if_pos (mode.trans off)]
    rfl
  · rw [addPiece, addPiece, if_neg off, if_neg (mode ▸ off)]
    rfl

variable (writer) in
theorem atTag_withNames (literal : List Char) :
    (draft.withNames moduleSlot classSlot).atTag writer literal =
      (draft.atTag writer literal).withNames moduleSlot classSlot := by
  simp only [atTag, addPiece_withNames]
  rfl

theorem openFunction_withNames :
    (draft.withNames moduleSlot classSlot).openFunction =
      draft.openFunction.withNames moduleSlot classSlot := by
  have mode : (draft.withNames moduleSlot classSlot).mode = draft.mode := rfl
  by_cases off : draft.mode = .off
  · rw [openFunction, openFunction, if_pos off, if_pos (mode.trans off)]
    rfl
  · rw [openFunction, openFunction, if_neg off, if_neg (mode ▸ off)]

theorem atClose_withNames (region : Region) (written : List Char) (tokens : List Token) :
    (draft.withNames moduleSlot classSlot).atClose region written tokens =
      (draft.atClose region written tokens).withNames moduleSlot classSlot := by
  simp only [atClose, enter, openFunction_withNames]
  split_ifs <;> rfl

variable (ancestors others : List Identity)

/-- An engine is bound whatever the names of the template are. -/
theorem declareName_withNames (name : String) :
    (draft.withNames moduleSlot classSlot).declareName others .engineName name =
      (draft.declareName ancestors .engineName name).map
        (·.withNames moduleSlot classSlot) := by
  have declares : (draft.withNames moduleSlot classSlot).template.declare .engineName name =
      (draft.template.declare .engineName name).map (·.withNames moduleSlot classSlot) :=
    draft.template.declareEngine_withNames moduleSlot classSlot name
  simp only [declareName, declares]
  split_ifs
  · rfl
  · cases draft.template.declare .engineName name <;> rfl

/-- **A closed directive does not look at names.** -/
theorem complete_withNames (region : Region) :
    (draft.withNames moduleSlot classSlot).complete writer others region =
      (draft.complete writer ancestors region).map
        fun done => (done.1.withNames moduleSlot classSlot, done.2) := by
  have cleared : (draft.withNames moduleSlot classSlot).clear =
      draft.clear.withNames moduleSlot classSlot := rfl
  have pending : (draft.withNames moduleSlot classSlot).pending = draft.pending := rfl
  cases region with
  | comment => rfl
  | dependency =>
      simp only [complete, pending]
      generalize Text.trim draft.pending = declaration
      rfl
  | externalCode =>
      simp only [complete, pending]
      generalize Text.trimBy (fun c => c == '\r' || c == '\n') draft.pending = code
      rfl
  | write =>
      simp only [complete, cleared, append_withNames]
      rfl
  | transform transform =>
      simp only [complete, cleared, append_withNames]
      rfl
  | engineName =>
      simp only [complete, completeEngine, pending]
      split
      · rfl
      · rw [cleared, declareName_withNames _ _ _ ancestors]
        cases draft.clear.declareName ancestors .engineName _ <;> rfl
  | block =>
      have cursor : (draft.withNames moduleSlot classSlot).cursor = draft.cursor := rfl
      have mode : (draft.withNames moduleSlot classSlot).mode = draft.mode := rfl
      simp only [complete, completeBlock_eq writer, cleared, cursor]
      rw [pending, addPiece_withNames]
      by_cases ends : draft.cursor.endedWith "~%>" = true
      · by_cases off : draft.mode = .off
        · rw [if_pos ends, if_pos ends, if_pos off, if_pos (mode.trans off)]
          rfl
        · rw [if_pos ends, if_pos ends, if_neg off, if_neg (mode ▸ off)]
          rfl
      · rw [if_neg ends, if_neg ends]
        rfl
  | function =>
      simp only [complete, completeFunction_eq, cleared]
      rw [pending, append_withNames]
      rfl

/-- **A section that declares no module or class name does not look at names.** -/
theorem perform_withNames {s : Section} (other : ∀ kind chars, s.directive ≠ .name kind chars) :
    (draft.withNames moduleSlot classSlot).perform writer others s =
      (draft.perform writer ancestors s).map
        fun done => (done.1.withNames moduleSlot classSlot, done.2) := by
  unfold perform
  rw [atTag_withNames]
  cases directive : s.directive with
  | name kind chars => exact absurd directive (other kind chars)
  | inclusion path => rfl
  | body region tokens =>
      dsimp only
      rw [atClose_withNames]
      exact complete_withNames _ moduleSlot classSlot ancestors others region

variable (writer) in
theorem atEnd_withNames (s : Section) :
    (draft.withNames moduleSlot classSlot).atEnd writer s =
      (draft.atEnd writer s).withNames moduleSlot classSlot := by
  simp only [atEnd, atTag_withNames]
  rfl

end WithNames

end Draft

end TemplateCompiler
