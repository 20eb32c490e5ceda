import TemplateCompiler.Proofs.Markup.Declarations

/-! # Names that stand in

Until a template declares its names, generated ones stand in for them, or the configured module. A
supply of ids is fresh for a source where its ids differ and no text declares a name that is
generated from one (`Compiler.IsFresh`). Then a generated name tells the template that it stands in
for: of the identities in a parse, only that of the template with the same index can have it
(`Identity.IsOf`, `Template.IsDrawn.isOf`).
-/

namespace TemplateCompiler

open Markup
open MonadAttach (CanReturn)

/-- The name of a kind that is generated from an id. -/
def Template.generatedName : NameKind → String → String
  | .moduleName => generatedModule
  | _ => generatedClass

theorem Template.generatedName_injective (kind : NameKind) :
    Function.Injective (generatedName kind) := by
  intro first second same
  cases kind <;> exact (String.append_right_inj _).mp same

/-- The name of a kind in an identity. -/
def Identity.name (identity : Identity) : NameKind → String
  | .moduleName => identity.moduleName
  | _ => identity.className

theorem Template.name_identity (template : Template) {kind : NameKind}
    (named : kind ≠ .engineName) : template.identity.name kind = (template.slot kind).value := by
  cases kind with
  | engineName => exact absurd rfl named
  | _ => rfl

/-- Identities with the same names are the same. -/
theorem Identity.eq_of_names {first second : Identity}
    (same : ∀ kind ≠ .engineName, first.name kind = second.name kind) : first = second := by
  obtain ⟨moduleName, className⟩ := first
  obtain ⟨otherModule, otherClass⟩ := second
  have modules : moduleName = otherModule := same .moduleName (by decide)
  have classes : className = otherClass := same .className (by decide)
  rw [modules, classes]

/-- A name that is generated from none of the ids. -/
def Undrawn (ids : Nat → String) (kind : NameKind) (name : String) : Prop :=
  ∀ index, name ≠ Template.generatedName kind (ids index)

/-- Generated names begin in the same way. -/
theorem Undrawn.of_isPrefixOf {ids : Nat → String} {kind : NameKind} {name : String}
    (other : "Blade".toList.isPrefixOf name.toList = false) : Undrawn ids kind name := by
  rintro index rfl
  refine Bool.eq_false_iff.mp other (List.isPrefixOf_iff_prefix.mpr ?_)
  cases kind with
  | moduleName => exact ⟨"Module".toList ++ (ids index).toList, by
      simp [Template.generatedName, Template.generatedModule]⟩
  | _ => exact ⟨"Template".toList ++ (ids index).toList, by
      simp [Template.generatedName, Template.generatedClass]⟩

/-- Whether a directive declares no name that begins as generated names do. -/
def Markup.Directive.isPlain : Directive → Bool
  | .name _ chars => !"Blade".toList.isPrefixOf chars
  | _ => true

/-- A directive that declares no name that is generated from an id. -/
def Markup.Directive.IsUndrawn (ids : Nat → String) (directive : Directive) : Prop :=
  ∀ kind chars, directive = .name kind chars → Undrawn ids kind (String.ofList chars)

/-- An identity whose names are generated from no id but the one with an index. -/
def Identity.IsOf (ids : Nat → String) (index : Nat) (identity : Identity) : Prop :=
  ∀ kind ≠ .engineName, ∀ other,
    identity.name kind = Template.generatedName kind (ids other) → other = index

namespace Compiler

/-- The text of a source, or one that the loader of a compiler can read. -/
def HasText (compiler : Compiler Id) (source text : String) : Prop :=
  text = source ∨ ∃ path, CanReturn (compiler.loader.read path) (.ok text)

/-- Ids that differ, from which no configured module is generated and no name that a text
declares. -/
structure IsFresh (compiler : Compiler Id) (source : String) (ids : Nat → String) : Prop where
  distinct : Function.Injective ids
  configured : ∀ name ∈ compiler.emitter.config.defaultModule?, Undrawn ids .moduleName name
  undeclared : ∀ text, compiler.HasText source text →
    ∀ s ∈ (sections text.toList).1, s.directive.IsUndrawn ids

/-- Ids in strokes are fresh for texts in memory that declare no name that begins as generated
names do. -/
theorem isFresh_of_texts {compiler : Compiler Id} {source : String}
    (texts : List (String × String))
    (loader : compiler.loader = MemoryStore.loader { entries := texts })
    (configured : ∀ name ∈ compiler.emitter.config.defaultModule?,
      "Blade".toList.isPrefixOf name.toList = false)
    (plain : ∀ text ∈ source :: texts.map Prod.snd, ∀ s ∈ (sections text.toList).1,
      s.directive.isPlain = true) (stroke : Char) :
    compiler.IsFresh source fun created => String.ofList (List.replicate created stroke) where
  distinct := by
    intro first second same
    have lengths := congrArg (fun id : String => id.toList.length) same
    simpa using lengths
  configured name isConfigured := .of_isPrefixOf (configured name isConfigured)
  undeclared := by
    intro text hasText s member kind chars declares
    have listed : text ∈ source :: texts.map Prod.snd := by
      rcases hasText with rfl | ⟨path, read⟩
      · exact List.mem_cons_self ..
      · have reads : MemoryStore.read { entries := texts } path = .ok text := by
          rw [loader] at read
          exact read
        simp only [MemoryStore.read, List.any_nil, Bool.false_eq_true, if_false] at reads
        cases found : MemoryStore.find? { entries := texts } path with
        | none =>
            rw [found] at reads
            cases reads
        | some entry =>
            rw [found] at reads
            cases reads
            exact List.mem_cons_of_mem _ (List.mem_map_of_mem (List.mem_of_find?_eq_some found))
    have isPlain := plain text listed s member
    rw [declares] at isPlain
    exact .of_isPrefixOf (by simpa [Directive.isPlain] using isPlain)

/-- The name that stands in for the one of a template with an index. -/
def standIn {m : Type → Type} (compiler : Compiler m) (index : Nat) : NameKind → String
  | .moduleName => compiler.emitter.config.defaultModule?.getD
      (Template.generatedModule (compiler.ids index))
  | kind => Template.generatedName kind (compiler.ids index)

/-- The configured module stands in, or a generated name. -/
theorem standIn_cases {m : Type → Type} (compiler : Compiler m) (index : Nat) {kind : NameKind}
    (named : kind ≠ .engineName) :
    compiler.standIn index kind = Template.generatedName kind (compiler.ids index) ∨
      kind = .moduleName ∧ ∃ moduleName ∈ compiler.emitter.config.defaultModule?,
        compiler.standIn index kind = moduleName := by
  cases kind with
  | engineName => exact absurd rfl named
  | className => exact .inl rfl
  | moduleName =>
      cases default : compiler.emitter.config.defaultModule? with
      | none => exact .inl (by simp only [standIn, default, Option.getD_none]; rfl)
      | some name => exact .inr ⟨rfl, name, rfl, by simp only [standIn, default, Option.getD_some]⟩

end Compiler

/-- A template with an index whose names are declared ones, not generated from any id, or those
that stand in. -/
def Template.IsDrawn {m : Type → Type} (compiler : Compiler m) (index : Nat)
    (template : Template) : Prop :=
  ∀ kind ≠ .engineName, template.slot kind = .generated (compiler.standIn index kind) ∨
    ∃ name, template.slot kind = .explicit name ∧ Undrawn compiler.ids kind name

namespace Template.IsDrawn

variable {m : Type → Type} {compiler : Compiler m} {index : Nat} {template : Template}

/-- A new template has the names that stand in. -/
theorem start (compiler : Compiler m) (index : Nat) (settings : Settings) :
    (compiler.startDraft index settings).tree.template.IsDrawn compiler index := by
  obtain ⟨_, _, prepared⟩ :=
    compiler.emitter.prepare_eq (compiler.boundTemplate settings (compiler.ids index))
  intro kind named
  rw [show (compiler.startDraft index settings).tree.template = _ from prepared]
  cases kind with
  | engineName => exact absurd rfl named
  | _ => exact .inl rfl

/-- A directive that declares no generated name leaves names as they have been, or declares one
that is not generated. -/
theorem perform (drawn : template.IsDrawn compiler index) {directive : Directive}
    {performed : Template} (undrawn : directive.IsUndrawn compiler.ids)
    (performs : template.perform directive = .ok performed) :
    performed.IsDrawn compiler index := by
  intro kind named
  cases directive with
  | inclusion path =>
      cases performs
      exact drawn kind named
  | body region tokens =>
      rw [eq_of_perform_body performs]
      cases kind with
      | engineName => exact absurd rfl named
      | _ => exact drawn _ named
  | name declared chars =>
      rw [slot_of_declare performs]
      split_ifs with same
      · exact .inr ⟨_, rfl, same ▸ undrawn declared chars rfl⟩
      · exact drawn kind named

/-- Only the id of the template itself can be in its names. -/
theorem isOf (drawn : template.IsDrawn compiler index)
    (distinct : Function.Injective compiler.ids)
    (configured : ∀ name ∈ compiler.emitter.config.defaultModule?,
      Undrawn compiler.ids .moduleName name) : template.identity.IsOf compiler.ids index := by
  intro kind named other same
  rw [name_identity _ named] at same
  rcases drawn kind named with standsIn | ⟨name, declared, undrawn⟩
  · rw [standsIn, NameSlot.value_generated] at same
    rcases compiler.standIn_cases index named with generated | ⟨rfl, name, default, stands⟩
    · rw [generated] at same
      exact (distinct (generatedName_injective kind same)).symm
    · rw [stands] at same
      exact absurd same (configured name default other)
  · rw [declared, NameSlot.value_explicit] at same
    exact absurd same (undrawn other)

end Template.IsDrawn

end TemplateCompiler
