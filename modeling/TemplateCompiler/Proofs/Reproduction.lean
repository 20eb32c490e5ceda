import TemplateCompiler.CompiledUnit
import TemplateCompiler.Proofs.Identities
import TemplateCompiler.Proofs.Markup.Declarations
import TemplateCompiler.Proofs.Places

/-! # Compiling again with other ids

Until a template declares its names, names that are generated from an id stand in for them, and
these are compared with the names of other templates. Parsing again with other ids goes along with
a parse that succeeds, draft by draft: the drafts differ in the names that stand in
(`SpareIds.Twins`). Identities that meet in the second parse have met in the first
(`SpareIds.eq_of_twins`). So where all templates declare their names, both parses return the same
tree, and the compiled units are the same (`Compiler.unit_reproducible`).
-/

namespace TemplateCompiler

open Markup
open MonadAttach (CanReturn)

/-! ## Trees in the making -/

namespace IncludeTree

theorem size_addIncluded (tree child : IncludeTree) :
    (tree.addIncluded child).size = tree.size + child.size := by
  rw [size, templates_addIncluded, List.length_append]
  rfl

theorem size_withTemplate (tree : IncludeTree) (template : Template) :
    (tree.withTemplate template).size = tree.size := by
  simp [size, templates_eq]

/-- A tree that is read on from another one: it includes at least the same trees, and what has been
declared stays declared. -/
structure Grows (tree later : IncludeTree) : Prop where
  included : tree.included <+: later.included
  declared : ∀ kind ≠ .engineName, ∀ name ∈ (tree.template.slot kind).declared?,
    name ∈ (later.template.slot kind).declared?

namespace Grows

variable {tree mid later : IncludeTree}

theorem refl (tree : IncludeTree) : tree.Grows tree := ⟨List.prefix_refl _, fun _ _ _ => id⟩

theorem trans (first : tree.Grows mid) (second : mid.Grows later) : tree.Grows later :=
  ⟨first.included.trans second.included, fun kind other name declared =>
    second.declared kind other name (first.declared kind other name declared)⟩

theorem exists_includedTemplates (grows : tree.Grows later) :
    ∃ more, later.includedTemplates = tree.includedTemplates ++ more := by
  obtain ⟨more, whole⟩ := grows.included
  refine ⟨forestTemplates more, ?_⟩
  rw [includedTemplates, ← whole, forestTemplates_append]
  rfl

theorem size_le (grows : tree.Grows later) : tree.size ≤ later.size := by
  obtain ⟨more, whole⟩ := grows.exists_includedTemplates
  rw [size, size, templates_eq, templates_eq, whole, ← List.cons_append, List.length_append]
  exact Nat.le_add_right _ _

end Grows

end IncludeTree

namespace Compiler

variable {m : Type → Type} [Monad m] [LawfulMonad m] [MonadAttach m] [LawfulMonadAttach m]
  {compiler : Compiler m} {call : Call} {draft next last : Draft} {s : Section}

theorem grows_of_follow (followed : CanReturn (compiler.follow call draft s) next) :
    draft.tree.Grows next.tree := by
  obtain ⟨template, body, functions, performs, outcome⟩ := Draft.follow_cases followed
  have kept : draft.tree.Grows
      (draft.tree.withTemplate (template.withFragments body functions)) := by
    refine ⟨List.prefix_refl _, fun kind other name declared => ?_⟩
    have stays := Template.declared_of_perform performs other declared
    cases kind <;> exact stays
  rcases outcome with ⟨_, after⟩ | ⟨_, _, composed⟩
  · rwa [after]
  · obtain ⟨_, _, _, child, _, _, _, _, adopted⟩ := exists_of_compose composed
    obtain ⟨_, _, _, whole⟩ := IncludeTree.adopt_eq_ok adopted
    refine kept.trans ?_
    rw [whole]
    refine ⟨⟨[child], rfl⟩, fun kind _ name declared => ?_⟩
    cases kind <;> exact declared

/-- **Reading on makes a tree grow.** -/
theorem grows_of_sections {rest : List Section}
    (returned : CanReturn (rest.foldlM (compiler.follow call) draft) last) :
    draft.tree.Grows last.tree :=
  foldlM_induction (fun _ mid => draft.tree.Grows mid.tree) (.refl _)
    (fun _ _ _ _ _ _ grows followed => grows.trans (grows_of_follow followed)) returned

end Compiler

/-! ## Names in two parses -/

/-- A name in two parses: a known name in both, or one that stands in, the spare one in the second
parse. -/
def IsTwin (known : List String) (spare? : Option String) (first second : String) : Prop :=
  (first = second ∧ first ∈ known) ∨ second ∈ spare?

/-- A slot in two parses. -/
inductive NameSlot.Twin (known : List String) (spare? : Option String) :
    NameSlot → NameSlot → Prop where
  | same {slot : NameSlot} (inKnown : slot.value ∈ known) : Twin known spare? slot slot
  | spare {first second : String} (isSpare : second ∈ spare?) :
      Twin known spare? (.generated first) (.generated second)

section Twins

variable {known : List String} {spare? : Option String}

namespace NameSlot

variable {first second after : NameSlot}

theorem Twin.value (twin : Twin known spare? first second) :
    IsTwin known spare? first.value second.value := by
  cases twin with
  | same inKnown => exact .inl ⟨rfl, inKnown⟩
  | spare isSpare => exact .inr isSpare

/-- What one slot takes, its twin takes. -/
theorem Twin.declare {kind : NameKind} {name : String} (twin : Twin known spare? first second)
    (declared : first.declare kind name = .ok after) : second.declare kind name = .ok after := by
  cases twin with
  | same inKnown => exact declared
  | spare isSpare => exact declared

/-- A declared name is the same in both parses. -/
theorem Twin.eq_of_isExplicit (twin : Twin known spare? first second)
    (declared : first.isExplicit = true) : second = first := by
  cases twin with
  | same inKnown => rfl
  | spare isSpare => cases declared

theorem Twin.eq_of_none (twin : Twin known none first second) : second = first := by
  cases twin with
  | same inKnown => rfl
  | spare isSpare => cases isSpare

end NameSlot

end Twins

/-- The ids of a second parse. Up to a number, the names generated from them differ from each other
and from the names that are known in both parses: those that are declared, and the configured
module. -/
structure SpareIds where
  ids : Nat → String
  number : Nat
  configured? : Option String
  modules : List String
  classes : List String
  distinct : ∀ first < number, ∀ second < number, ids first = ids second → first = second
  configured_known : ∀ name ∈ configured?, name ∈ modules
  modules_unknown : ∀ index < number, Template.generatedModule (ids index) ∉ modules
  classes_unknown : ∀ index < number, Template.generatedClass (ids index) ∉ classes

namespace SpareIds

section Definitions

variable (spares : SpareIds)

/-- The module name that stands in for a template; none where one is configured. -/
def module? (index : Nat) : Option String :=
  if spares.configured?.isSome then none else some (Template.generatedModule (spares.ids index))

/-- An identity in two parses. Names stand in for it in the second one only where it is that of a
template that is still being read, which has an index. -/
structure TwinIdentity (index? : Option Nat) (first second : Identity) : Prop where
  modules : IsTwin spares.modules
    (index?.map fun index => Template.generatedModule (spares.ids index))
    first.moduleName second.moduleName
  classes : IsTwin spares.classes
    (index?.map fun index => Template.generatedClass (spares.ids index))
    first.className second.className

/-- Slots that a template has in a second parse. -/
structure Twins (index : Nat) (template : Template) (moduleSlot classSlot : NameSlot) : Prop where
  modules : NameSlot.Twin spares.modules (spares.module? index) template.moduleSlot moduleSlot
  classes : NameSlot.Twin spares.classes (some (Template.generatedClass (spares.ids index)))
    template.classSlot classSlot

/-- The identities around a template in a second parse, each that of a template created before. -/
structure TwinAncestors (created : Nat) (ancestors others : List Identity) : Prop where
  length : others.length = ancestors.length
  twin : ∀ second ∈ others, ∃ first ∈ ancestors, ∃ index < created,
    spares.TwinIdentity (some index) first second

/-- A template that has its names in both parses. -/
structure IsSettled (template : Template) : Prop where
  class_declared : template.classSlot.isExplicit = true
  module_declared : template.moduleSlot.isExplicit = true ∨ spares.configured?.isSome = true
  class_known : template.className ∈ spares.classes
  module_known : template.moduleName ∈ spares.modules

/-- A tree in the making whose declared names are known. -/
structure IsKnown (tree : IncludeTree) : Prop where
  classes : ∀ name ∈ tree.template.classSlot.declared?, name ∈ spares.classes
  modules : ∀ name ∈ tree.template.moduleSlot.declared?, name ∈ spares.modules
  included : ∀ template ∈ tree.includedTemplates, spares.IsSettled template

end Definitions

variable {spares : SpareIds} {index other : Nat} {template performed : Template}
  {moduleSlot classSlot : NameSlot}

/-- Names generated from the ids of different templates differ, and none is known. So a name that is
the same in the second parse has been the same in the first. -/
theorem eq_of_isTwin {index? other? : Option Nat} {known : List String}
    {generated : String → String} {first second meeting : String}
    (injective : Function.Injective generated)
    (unknown : ∀ index < spares.number, generated (spares.ids index) ∉ known)
    (bounded : ∀ index ∈ index?, index < spares.number)
    (otherBounded : ∀ index ∈ other?, index < spares.number)
    (different : ∀ index ∈ index?, index ∉ other?)
    (twin : IsTwin known (index?.map fun index => generated (spares.ids index)) first meeting)
    (otherTwin :
      IsTwin known (other?.map fun index => generated (spares.ids index)) second meeting) :
    first = second := by
  rcases twin with ⟨rfl, isKnown⟩ | spare
  · rcases otherTwin with ⟨rfl, _⟩ | otherSpare
    · rfl
    · obtain ⟨index, isIndex, rfl⟩ := Option.map_eq_some_iff.mp otherSpare
      exact absurd isKnown (unknown index (otherBounded index isIndex))
  · obtain ⟨index, isIndex, rfl⟩ := Option.map_eq_some_iff.mp spare
    rcases otherTwin with ⟨rfl, isKnown⟩ | otherSpare
    · exact absurd isKnown (unknown index (bounded index isIndex))
    · obtain ⟨other, isOther, same⟩ := Option.map_eq_some_iff.mp otherSpare
      have equal := spares.distinct other (otherBounded other isOther) index
        (bounded index isIndex) (injective same)
      exact absurd (equal ▸ isOther) (different index isIndex)

/-- **Identities that meet in the second parse have met in the first.** -/
theorem eq_of_twins {index? other? : Option Nat} {first second meeting : Identity}
    (twin : spares.TwinIdentity index? first meeting)
    (otherTwin : spares.TwinIdentity other? second meeting)
    (bounded : ∀ index ∈ index?, index < spares.number)
    (otherBounded : ∀ index ∈ other?, index < spares.number)
    (different : ∀ index ∈ index?, index ∉ other?) : first = second := by
  have modules : first.moduleName = second.moduleName :=
    eq_of_isTwin (fun _ _ => (String.append_right_inj _).mp) spares.modules_unknown bounded
      otherBounded different twin.modules otherTwin.modules
  have classes : first.className = second.className :=
    eq_of_isTwin (fun _ _ => (String.append_right_inj _).mp) spares.classes_unknown bounded
      otherBounded different twin.classes otherTwin.classes
  obtain ⟨moduleName, className⟩ := first
  cases modules
  cases classes
  rfl

theorem IsSettled.twinIdentity (settled : spares.IsSettled template) :
    spares.TwinIdentity none template.identity template.identity :=
  ⟨.inl ⟨rfl, settled.module_known⟩, .inl ⟨rfl, settled.class_known⟩⟩

theorem Twins.identity (twins : spares.Twins index template moduleSlot classSlot) :
    spares.TwinIdentity (some index) template.identity
      (template.withNames moduleSlot classSlot).identity := by
  refine ⟨?_, twins.classes.value⟩
  rcases twins.modules.value with known | spare
  · exact .inl known
  · unfold module? at spare
    split_ifs at spare
    · cases spare
    · exact .inr spare

/-- Where the names are settled, a template is the same in both parses. -/
theorem Twins.withNames_eq (twins : spares.Twins index template moduleSlot classSlot)
    (settled : spares.IsSettled template) : template.withNames moduleSlot classSlot = template := by
  have classes : classSlot = template.classSlot :=
    twins.classes.eq_of_isExplicit settled.class_declared
  have modules : moduleSlot = template.moduleSlot := by
    rcases settled.module_declared with declared | configured
    · exact twins.modules.eq_of_isExplicit declared
    · have twin := twins.modules
      rw [module?, if_pos configured] at twin
      exact twin.eq_of_none
  rw [classes, modules]
  rfl

/-- A module or class name that a template takes, it takes in the second parse. -/
theorem Twins.declare {kind : NameKind} {name : String}
    (twins : spares.Twins index template moduleSlot classSlot) (named : kind ≠ .engineName)
    (declared : template.declare kind name = .ok performed)
    (classes : ∀ name ∈ performed.classSlot.declared?, name ∈ spares.classes)
    (modules : ∀ name ∈ performed.moduleSlot.declared?, name ∈ spares.modules) :
    ∃ moduleAfter classAfter, (template.withNames moduleSlot classSlot).declare kind name =
        .ok (performed.withNames moduleAfter classAfter) ∧
      spares.Twins index performed moduleAfter classAfter := by
  cases kind with
  | engineName => exact absurd rfl named
  | className =>
      simp only [Template.declare, Template.declareClass] at declared
      split_ifs at declared with fits
      obtain ⟨slot, written, rest⟩ := exists_ok_of_bind declared
      cases rest
      cases NameSlot.eq_explicit_of_declare written
      refine ⟨moduleSlot, .explicit name, ?_, twins.modules, .same (classes name rfl)⟩
      have again : (template.withNames moduleSlot classSlot).classSlot.declare .className name =
          .ok (.explicit name) := twins.classes.declare written
      simp only [Template.declare, Template.declareClass, fits, again]
      rfl
  | moduleName =>
      simp only [Template.declare, Template.declareModule] at declared
      split_ifs at declared with fits
      obtain ⟨slot, written, rest⟩ := exists_ok_of_bind declared
      cases rest
      cases NameSlot.eq_explicit_of_declare written
      refine ⟨.explicit name, classSlot, ?_, .same (modules name rfl), twins.classes⟩
      have grammar : (template.withNames moduleSlot classSlot).moduleGrammar =
        template.moduleGrammar := rfl
      have again : (template.withNames moduleSlot classSlot).moduleSlot.declare .moduleName name =
          .ok (.explicit name) := twins.modules.declare written
      simp only [Template.declare, Template.declareModule, grammar, fits, again]
      rfl

/-- An identity that no template around has in the first parse, none has in the second. -/
theorem TwinAncestors.not_mem {index? : Option Nat} {created : Nat}
    {ancestors others : List Identity} {first second : Identity}
    (around : spares.TwinAncestors created ancestors others)
    (twin : spares.TwinIdentity index? first second)
    (bounded : ∀ index ∈ index?, created ≤ index ∧ index < spares.number)
    (earlier : created ≤ spares.number) (outside : first ∉ ancestors) : second ∉ others := by
  intro member
  obtain ⟨other, inside, index, before, otherTwin⟩ := around.twin second member
  refine outside (eq_of_twins twin otherTwin (fun index isIndex => (bounded index isIndex).2) ?_ ?_
    ▸ inside)
  · rintro _ ⟨⟩
    omega
  · rintro other isIndex ⟨⟩
    have later := (bounded _ isIndex).1
    omega

/-- A template that is being read is around those that it includes. -/
theorem TwinAncestors.append {created later : Nat} {ancestors others : List Identity}
    {first second : Identity} (around : spares.TwinAncestors created ancestors others)
    (twin : spares.TwinIdentity (some created) first second) (after : created < later) :
    spares.TwinAncestors later (ancestors ++ [first]) (others ++ [second]) where
  length := by simp [around.length]
  twin identity member := by
    rcases List.mem_append.mp member with before | last
    · obtain ⟨other, inside, index, earlier, otherTwin⟩ := around.twin identity before
      exact ⟨other, List.mem_append_left _ inside, index, earlier.trans after, otherTwin⟩
    · rw [List.mem_singleton.mp last]
      exact ⟨first, by simp, created, after, twin⟩

/-- An identity that no settled template has in the first parse, none has in the second. -/
theorem TwinIdentity.not_mem {index? : Option Nat} {first second : Identity}
    {templates : List Template} (twin : spares.TwinIdentity index? first second)
    (bounded : ∀ index ∈ index?, index < spares.number)
    (settled : ∀ template ∈ templates, spares.IsSettled template)
    (apart : first ∉ templates.map Template.identity) :
    second ∉ templates.map Template.identity := by
  intro member
  obtain ⟨template, inside, rfl⟩ := List.mem_map.mp member
  have same := eq_of_twins twin (settled template inside).twinIdentity bounded nofun (by simp)
  exact apart (same ▸ member)

/-- The names of a template do not change on the way to the end of a section. -/
theorem Twins.atEnd {draft : Draft}
    (twins : spares.Twins index draft.tree.template moduleSlot classSlot) (writer : Writer)
    (s : Section) :
    spares.Twins index (draft.atEnd writer s).tree.template moduleSlot classSlot := by
  obtain ⟨_, _, before⟩ := draft.changesFragments_atEnd writer s
  rw [before]
  exact ⟨twins.modules, twins.classes⟩

end SpareIds

/-- All that a settled tree has declared is known. -/
theorem SpareIds.isKnown_of_settled {spares : SpareIds} {tree : IncludeTree}
    (settled : ∀ template ∈ tree.templates, spares.IsSettled template) : spares.IsKnown tree := by
  obtain ⟨top, below⟩ := IncludeTree.forall_templates_iff.mp settled
  have value (slot : NameSlot) (name : String) (declared : name ∈ slot.declared?) :
      slot.value = name := by
    cases slot with
    | explicit given => exact Option.some.inj declared
    | _ => cases declared
  exact ⟨fun name declared => value _ _ declared ▸ top.class_known,
    fun name declared => value _ _ declared ▸ top.module_known, below⟩

/-! ## One section -/

/-- The compiler with other ids. -/
def Compiler.withIds {m : Type → Type} (compiler : Compiler m) (ids : Nat → String) : Compiler m :=
  { compiler with ids := ids }

/-- What is known of a grown tree is known of the tree before. -/
theorem SpareIds.IsKnown.before {spares : SpareIds} {tree later : IncludeTree}
    (known : spares.IsKnown later) (grows : tree.Grows later) : spares.IsKnown tree where
  classes name declared := known.classes name (grows.declared .className (by decide) name declared)
  modules name declared := known.modules name (grows.declared .moduleName (by decide) name declared)
  included template inside := by
    obtain ⟨more, whole⟩ := grows.exists_includedTemplates
    exact known.included template (whole ▸ List.mem_append_left more inside)

namespace Compiler

variable {compiler : Compiler Id} {spares : SpareIds} {call : Call} {others : List Identity}
  {draft next last : Draft} {s : Section} {moduleSlot classSlot : NameSlot}

/-- A tree that parsing returns is returned again, whatever stands in for the names of the
templates around it. -/
def Repeats (compiler : Compiler Id) (spares : SpareIds) (call : Call) (tree : IncludeTree) :
    Prop :=
  ∀ others, spares.TwinAncestors call.created call.ancestors others →
    (compiler.withIds spares.ids).parseCall { call with ancestors := others } = pure (.ok tree)

/-- What a template declares, its twin declares. -/
theorem exists_follow_of_name {kind : NameKind} {chars : List Char}
    (around : spares.TwinAncestors call.created call.ancestors others)
    (bounded : call.created < spares.number)
    (twins : spares.Twins call.created draft.tree.template moduleSlot classSlot)
    (named : s.directive.IsNamed) (name : s.directive = .name kind chars)
    (known : spares.IsKnown next.tree) (followed : CanReturn (compiler.follow call draft s) next) :
    ∃ moduleAfter classAfter,
      (compiler.withIds spares.ids).follow { call with ancestors := others }
          (draft.withNames moduleSlot classSlot) s =
        pure (next.withNames moduleAfter classAfter) ∧
      spares.Twins call.created next.tree.template moduleAfter classAfter := by
  rw [name] at named
  rw [follow, Draft.follow_of_name name] at followed
  obtain ⟨nonempty, template, declared, unused, rfl⟩ :=
    Draft.declareName_eq_ok_iff.mp (eq_ok_of_canReturn_ofExcept followed)
  obtain ⟨outside, below⟩ := unused named.1
  obtain ⟨moduleAfter, classAfter, again, after⟩ :=
    (twins.atEnd compiler.emitter.writer s).declare named.1 declared known.classes known.modules
  refine ⟨moduleAfter, classAfter, ?_, after⟩
  have apart := after.identity.not_mem (by simpa using bounded) known.included
    (IncludeTree.not_mem_of_containsIdentity below)
  have declaresAgain : ((draft.atEnd compiler.emitter.writer s).withNames moduleSlot
      classSlot).declareName others kind (String.ofList chars) =
        .ok (((draft.atEnd compiler.emitter.writer s).withTemplate template).withNames
          moduleAfter classAfter) :=
    Draft.declareName_eq_ok_iff.mpr ⟨nonempty, _, again, fun _ =>
      ⟨around.not_mem after.identity (by simpa using bounded) bounded.le outside,
        Bool.eq_false_iff.mpr fun present => apart (IncludeTree.containsIdentity_iff.mp present)⟩,
      rfl⟩
  rw [follow, Draft.follow_of_name name, Draft.atEnd_withNames]
  exact congrArg ofExcept declaresAgain

/-- An included tree that is taken in is taken in by a twin. -/
theorem adopt_withNames {parent child tree : IncludeTree} {location : Location}
    (around : spares.TwinAncestors call.created call.ancestors others)
    (bounded : call.created < spares.number)
    (twins : spares.Twins call.created parent.template moduleSlot classSlot)
    (settled : ∀ template ∈ child.templates, spares.IsSettled template)
    (adopted : parent.adopt compiler.emitter call.ancestors child location = .ok tree) :
    (parent.withTemplate (parent.template.withNames moduleSlot classSlot)).adopt compiler.emitter
        others child location =
      .ok (tree.withTemplate (tree.template.withNames moduleSlot classSlot)) := by
  obtain ⟨apart, _⟩ := IncludeTree.adopt_eq_ok adopted
  obtain ⟨dependencies, merged, rfl⟩ := IncludeTree.exists_of_adopt adopted
  have alone : parent.template.identity ∉ child.templates.map Template.identity := fun member =>
    (apart _ member).1 (by rw [IncludeTree.identities_eq]; exact List.mem_cons_self ..)
  refine IncludeTree.adopt_eq (fun identity member => ?_) merged
  obtain ⟨outside, elsewhere⟩ := apart identity member
  obtain ⟨template, inside, rfl⟩ := List.mem_map.mp member
  refine ⟨?_, around.not_mem (settled template inside).twinIdentity nofun bounded.le elsewhere⟩
  rw [IncludeTree.identities_eq, List.mem_cons, not_or] at outside ⊢
  refine ⟨fun same => ?_, outside.2⟩
  exact twins.identity.not_mem (by simpa using bounded) settled alone (same ▸ member)

/-- Trees that are returned below a template are returned again. -/
def RepeatsBelow (compiler : Compiler Id) (spares : SpareIds) (call : Call) : Prop :=
  ∀ inner child, inner.ancestors.length = call.ancestors.length + 1 →
    call.ancestors.length < compiler.emitter.config.maxIncludeDepth →
    CanReturn (compiler.parseCall inner) (.ok child) →
    (∀ template ∈ child.templates, spares.IsSettled template) →
    inner.created + child.size ≤ spares.number → compiler.Repeats spares inner child

/-- What a template includes, its twin includes. -/
theorem compose_withNames {parent tree : IncludeTree} {raw : String} {location : Location}
    (around : spares.TwinAncestors call.created call.ancestors others)
    (twins : spares.Twins call.created parent.template moduleSlot classSlot)
    (known : spares.IsKnown tree) (enough : call.created + tree.size ≤ spares.number)
    (below : compiler.RepeatsBelow spares call)
    (composed : CanReturn (compiler.compose (compiler.levelsBelow call) call.created
      call.ancestors parent raw location) (.ok tree)) :
    (compiler.withIds spares.ids).compose
        ((compiler.withIds spares.ids).levelsBelow { call with ancestors := others }) call.created
        others (parent.withTemplate (parent.template.withNames moduleSlot classSlot)) raw location =
      pure (.ok (tree.withTemplate (tree.template.withNames moduleSlot classSlot))) ∧
    spares.Twins call.created tree.template moduleSlot classSlot := by
  obtain ⟨parse, target, text, child, levels, resolved, loaded, parsed, adopted⟩ :=
    exists_of_compose composed
  have room := exists_levelsBelow_iff.mp ⟨parse, levels⟩
  rw [eq_parseCall_of_levelsBelow levels] at parsed
  obtain ⟨_, _, _, whole⟩ := IncludeTree.adopt_eq_ok adopted
  have number : call.created + parent.size + child.size ≤ spares.number := by
    have size : tree.size = parent.size + child.size := by
      rw [whole, IncludeTree.size_addIncluded, IncludeTree.size_withTemplate]
    rwa [Nat.add_assoc, ← size]
  have later : call.created < call.created + parent.size := by
    rw [IncludeTree.size, IncludeTree.templates_eq, List.length_cons]
    omega
  have settled : ∀ template ∈ child.templates, spares.IsSettled template := by
    intro template inside
    rw [IncludeTree.templates_eq, List.mem_cons] at inside
    refine known.included template ?_
    rw [whole]
    exact IncludeTree.mem_includedTemplates_addIncluded.mpr (.inr inside)
  -- The included text is parsed again, with the twin of the including template around it.
  have again := below _ child (by simp) room parsed settled number _
    (around.append twins.identity later)
  have roomAgain : ({ call with ancestors := others } : Call).ancestors.length <
      (compiler.withIds spares.ids).emitter.config.maxIncludeDepth := around.length ▸ room
  obtain ⟨parseAgain, levelsAgain⟩ := exists_levelsBelow_iff.mpr roomAgain
  have parsesAgain : parseAgain (call.created + parent.size)
      (others ++ [(parent.template.withNames moduleSlot classSlot).identity]) target.settings text =
        pure (.ok child) := by
    rw [eq_parseCall_of_levelsBelow levelsAgain]
    exact again
  have resolvesAgain : IncludeTarget.resolve (compiler.withIds spares.ids).loader
      (compiler.withIds spares.ids).emitter.config
      (parent.withTemplate (parent.template.withNames moduleSlot classSlot)).template.settings raw
      location = pure (.ok target) := eq_pure_of_canReturn resolved
  have readsAgain : (compiler.withIds spares.ids).loader.read target.file = pure (.ok text) :=
    eq_pure_of_canReturn loaded
  refine ⟨?_, ?_⟩
  · rw [levelsAgain, compose_eq resolvesAgain readsAgain (by
      rw [IncludeTree.size_withTemplate]
      exact parsesAgain)]
    exact congrArg pure (adopt_withNames around (by omega) twins settled adopted)
  · rw [whole]
    exact ⟨twins.modules, twins.classes⟩

/-- A directive that declares no module or class name and includes nothing leaves twins. -/
theorem follow_of_other (other : ∀ kind chars, s.directive ≠ .name kind chars)
    (plain : ∀ path, s.directive ≠ .inclusion path)
    (twins : spares.Twins call.created draft.tree.template moduleSlot classSlot)
    (followed : CanReturn (compiler.follow call draft s) next) :
    (compiler.withIds spares.ids).follow { call with ancestors := others }
        (draft.withNames moduleSlot classSlot) s = pure (next.withNames moduleSlot classSlot) ∧
      spares.Twins call.created next.tree.template moduleSlot classSlot := by
  obtain ⟨⟨done, event⟩, performed, settled⟩ := Draft.exists_of_canReturn_follow followed
  obtain ⟨⟨template, body, functions, performs, after⟩, left⟩ := Draft.obeys_of_perform performed
  have quiet : ∀ path, event ≠ .inclusion path := fun path same =>
    s.directive.event_ne_inclusion plain path (left.symm.trans same)
  rw [Draft.settle_of_other quiet] at settled
  cases eq_of_canReturn_pure settled
  refine ⟨?_, ?_⟩
  · rw [follow, Draft.follow, Draft.perform_withNames _ _ _ call.ancestors _ other,
      show draft.perform (compiler.withIds spares.ids).emitter.writer call.ancestors s = _ from
        performed]
    exact Draft.settle_of_other quiet _
  · rw [after]
    cases directive : s.directive with
    | name kind chars => exact absurd directive (other kind chars)
    | inclusion path => exact absurd directive (plain path)
    | body region tokens =>
        rw [directive] at performs
        rw [Template.eq_of_perform_body performs]
        exact ⟨twins.modules, twins.classes⟩

/-- **One section**: where a template goes, its twin goes. -/
theorem exists_follow_withNames
    (around : spares.TwinAncestors call.created call.ancestors others)
    (twins : spares.Twins call.created draft.tree.template moduleSlot classSlot)
    (named : s.directive.IsNamed) (known : spares.IsKnown next.tree)
    (enough : call.created + next.tree.size ≤ spares.number)
    (below : compiler.RepeatsBelow spares call)
    (followed : CanReturn (compiler.follow call draft s) next) :
    ∃ moduleAfter classAfter,
      (compiler.withIds spares.ids).follow { call with ancestors := others }
          (draft.withNames moduleSlot classSlot) s =
        pure (next.withNames moduleAfter classAfter) ∧
      spares.Twins call.created next.tree.template moduleAfter classAfter := by
  cases directive : s.directive with
  | name kind chars =>
      have bounded : call.created < spares.number := by
        rw [IncludeTree.size, IncludeTree.templates_eq, List.length_cons] at enough
        omega
      exact exists_follow_of_name around bounded twins named directive known followed
  | inclusion path =>
      rw [follow, Draft.follow_of_inclusion directive] at followed
      obtain ⟨tree, composed, rfl⟩ := Draft.exists_of_settle_inclusion followed
      obtain ⟨again, after⟩ := compose_withNames around (twins.atEnd compiler.emitter.writer s)
        known enough below composed
      refine ⟨moduleSlot, classSlot, ?_, after⟩
      rw [follow, Draft.follow_of_inclusion directive, Draft.atEnd_withNames]
      exact Draft.settle_inclusion again
  | body region tokens =>
      exact ⟨_, _, follow_of_other (by simp [directive]) (by simp [directive]) twins followed⟩

/-! ## Whole texts -/

/-- **Section by section**, a twin goes along with a template. -/
theorem exists_followAll_withNames {rest : List Section}
    (around : spares.TwinAncestors call.created call.ancestors others)
    (twins : spares.Twins call.created draft.tree.template moduleSlot classSlot)
    (named : ∀ s ∈ rest, s.directive.IsNamed) (known : spares.IsKnown last.tree)
    (enough : call.created + last.tree.size ≤ spares.number)
    (below : compiler.RepeatsBelow spares call)
    (returned : CanReturn (rest.foldlM (compiler.follow call) draft) last) :
    ∃ moduleAfter classAfter,
      rest.foldlM ((compiler.withIds spares.ids).follow { call with ancestors := others })
          (draft.withNames moduleSlot classSlot) = pure (last.withNames moduleAfter classAfter) ∧
      spares.Twins call.created last.tree.template moduleAfter classAfter := by
  induction rest generalizing draft moduleSlot classSlot with
  | nil =>
      cases eq_of_canReturn_pure returned
      exact ⟨moduleSlot, classSlot, rfl, twins⟩
  | cons s rest ih =>
      rw [List.foldlM_cons] at returned
      obtain ⟨next, followed, returned⟩ := exists_canReturn_of_bind returned
      have grows := grows_of_sections returned
      have size := grows.size_le
      obtain ⟨moduleNext, classNext, again, nextTwins⟩ := exists_follow_withNames around twins
        (named s (List.mem_cons_self ..)) (known.before grows) (by omega) below followed
      obtain ⟨moduleAfter, classAfter, behind, after⟩ := ih nextTwins
        (fun later member => named later (List.mem_cons_of_mem _ member)) returned
      refine ⟨moduleAfter, classAfter, ?_, after⟩
      rw [List.foldlM_cons, again, pure_bind]
      exact behind

/-- A new template is prepared whatever stands in for its names. -/
theorem prepare_withNames (emitter : Emitter) (template : Template)
    (moduleSlot classSlot : NameSlot) :
    emitter.prepare (template.withNames moduleSlot classSlot) =
      (emitter.prepare template).withNames moduleSlot classSlot := by
  have dependency (declaration : String) :
      (template.withNames moduleSlot classSlot).addDependency declaration =
        (template.addDependency declaration).withNames moduleSlot classSlot := rfl
  have external (template : Template) (code : String) :
      (template.withNames moduleSlot classSlot).addExternalCode code =
        (template.addExternalCode code).withNames moduleSlot classSlot := rfl
  have settings : (template.withNames moduleSlot classSlot).settings = template.settings := rfl
  unfold Emitter.prepare
  cases emitter.target with
  | cSharp => rfl
  | javaScript => exact dependency _
  | java => exact dependency _
  | visualBasic =>
      simp only [dependency, external, settings]
      split_ifs <;> rfl

/-- Before its text, a template has the names that stand in. -/
theorem exists_startDraft_withNames
    (configured : spares.configured? = compiler.emitter.config.defaultModule?) :
    ∃ moduleSlot classSlot, (compiler.withIds spares.ids).startDraft call.created call.settings =
        (compiler.startDraft call.created call.settings).withNames moduleSlot classSlot ∧
      spares.Twins call.created
        (compiler.startDraft call.created call.settings).tree.template moduleSlot classSlot := by
  have bound : (compiler.withIds spares.ids).boundTemplate call.settings (spares.ids call.created) =
      (compiler.boundTemplate call.settings (compiler.ids call.created)).withNames
        (.generated (compiler.emitter.config.defaultModule?.getD
          (Template.generatedModule (spares.ids call.created))))
        (.generated (Template.generatedClass (spares.ids call.created))) := rfl
  have starts : (compiler.withIds spares.ids).startDraft call.created call.settings =
      Draft.start (compiler.emitter.prepare ((compiler.withIds spares.ids).boundTemplate
        call.settings (spares.ids call.created))) := rfl
  rw [bound, prepare_withNames] at starts
  refine ⟨_, _, starts, ?_⟩
  obtain ⟨_, _, prepared⟩ := compiler.emitter.prepare_eq
    (compiler.boundTemplate call.settings (compiler.ids call.created))
  rw [show (compiler.startDraft call.created call.settings).tree.template = _ from prepared]
  refine ⟨?_, .spare rfl⟩
  simp only [boundTemplate, Template.empty, SpareIds.module?, configured]
  cases default : compiler.emitter.config.defaultModule? with
  | none => exact .spare rfl
  | some name => exact .same (spares.configured_known name (configured.trans default))

/-- **A tree whose templates declare their names is returned again.** -/
theorem repeats_of_parseCall {tree : IncludeTree}
    (configured : spares.configured? = compiler.emitter.config.defaultModule?)
    (settled : ∀ template ∈ tree.templates, spares.IsSettled template)
    (enough : call.created + tree.size ≤ spares.number)
    (returned : CanReturn (compiler.parseCall call) (.ok tree)) :
    compiler.Repeats spares call tree := by
  induction levels : compiler.emitter.config.maxIncludeDepth - call.ancestors.length
    using Nat.strongRecOn generalizing call tree with
  | ind left ih =>
      intro others around
      rw [parseCall_eq] at returned ⊢
      obtain ⟨literal, last, followed, off, state, rfl⟩ := exists_sections_of_parseWith returned
      obtain ⟨body, functions, ended⟩ := Draft.changesFragments_addPiece compiler.emitter.writer
        last (.literal (last.pending.toList ++ (sections call.source.toList).2)) rfl rfl
      rw [ended, IncludeTree.size_withTemplate] at enough
      rw [ended] at settled
      obtain ⟨top, included⟩ := IncludeTree.forall_templates_iff.mp settled
      have lastSettled : spares.IsSettled last.tree.template :=
        ⟨top.class_declared, top.module_declared, top.class_known, top.module_known⟩
      have known := SpareIds.isKnown_of_settled
        (IncludeTree.forall_templates_iff.mpr ⟨lastSettled, included⟩)
      have below : compiler.RepeatsBelow spares call := fun inner child deeper room parsed declared
        number => ih _ (by omega) declared number parsed rfl
      obtain ⟨moduleSlot, classSlot, start, twins⟩ := exists_startDraft_withNames configured
      obtain ⟨moduleAfter, classAfter, again, after⟩ := exists_followAll_withNames around twins
        (fun s => isNamed_of_mem_sections) known enough below followed
      -- All names are declared by now, so the twin has become the template itself.
      have same : last.withNames moduleAfter classAfter = last := by
        rw [Draft.withNames, Draft.template_tree, after.withNames_eq lastSettled,
          Draft.withTemplate_self]
      rw [same, ← start] at again
      exact parseWith_of_sections literal again off state

end Compiler

/-- A template has declared its class, and its module where none is configured. -/
def Template.DeclaresNames (template : Template) (config : Config) : Prop :=
  template.classSlot.isExplicit = true ∧
    (template.moduleSlot.isExplicit = true ∨ config.defaultModule?.isSome = true)

instance (template : Template) (config : Config) : Decidable (template.DeclaresNames config) :=
  inferInstanceAs (Decidable (_ ∧ _))

/-- The names that are generated from ids for the templates of a tree differ from each other, from
the names of its templates and from the configured module. -/
structure IncludeTree.Spares (tree : IncludeTree) (ids : Nat → String) (config : Config) :
    Prop where
  classes_distinct : ∀ first < tree.size, ∀ second < tree.size,
    Template.generatedClass (ids first) = Template.generatedClass (ids second) → first = second
  modules_distinct : ∀ first < tree.size, ∀ second < tree.size,
    Template.generatedModule (ids first) = Template.generatedModule (ids second) → first = second
  classes_apart : ∀ index < tree.size, ∀ template ∈ tree.templates,
    Template.generatedClass (ids index) ≠ template.className
  modules_apart : ∀ index < tree.size, ∀ template ∈ tree.templates,
    Template.generatedModule (ids index) ≠ template.moduleName
  configured_apart : ∀ index < tree.size, ∀ name ∈ config.defaultModule?,
    Template.generatedModule (ids index) ≠ name

instance (tree : IncludeTree) (ids : Nat → String) (config : Config) :
    Decidable (tree.Spares ids config) :=
  decidable_of_iff (_ ∧ _ ∧ _ ∧ _ ∧ _)
    ⟨fun ⟨classes, modules, apart, modulesApart, configured⟩ =>
      ⟨classes, modules, apart, modulesApart, configured⟩,
    fun spares => ⟨spares.classes_distinct, spares.modules_distinct, spares.classes_apart,
      spares.modules_apart, spares.configured_apart⟩⟩

namespace Compiler

/-- **Compiled units do not depend on ids** where all templates declare their names: compiling
again with other ids, whose generated names are spare, returns the same unit up to its stamp. It is
made from the same tree, so its source, fingerprint, module, class and includes are the same. -/
theorem unit_reproducible (compiler : Compiler Id) (ids : Nat → String) (stamp other : Stamp)
    (source : String) (settings : Settings) (unit : CompiledUnit) (tree : IncludeTree)
    (compiled : CanReturn (compiler.compile stamp source settings) (.ok unit))
    (parsed : CanReturn (compiler.parse source settings) (.ok tree))
    (declared : ∀ template ∈ tree.templates, template.DeclaresNames compiler.emitter.config)
    (spare : tree.Spares ids compiler.emitter.config) :
    CanReturn ((compiler.withIds ids).parse source settings) (.ok tree) ∧
      ∃ again, CanReturn ((compiler.withIds ids).compile other source settings) (.ok again) ∧
        again = { unit with id := other.id, createdAt := other.createdAt } := by
  let spares : SpareIds := {
    ids := ids
    number := tree.size
    configured? := compiler.emitter.config.defaultModule?
    modules := compiler.emitter.config.defaultModule?.toList ++
      tree.templates.map Template.moduleName
    classes := tree.templates.map Template.className
    distinct := fun first small second bounded same =>
      spare.classes_distinct first small second bounded (congrArg _ same)
    configured_known := fun name configured =>
      List.mem_append_left _ (Option.mem_toList.mpr configured)
    modules_unknown := by
      intro index bounded member
      rcases List.mem_append.mp member with configured | named
      · exact spare.configured_apart index bounded _ (Option.mem_toList.mp configured) rfl
      · obtain ⟨template, inside, same⟩ := List.mem_map.mp named
        exact spare.modules_apart index bounded template inside same.symm
    classes_unknown := by
      intro index bounded member
      obtain ⟨template, inside, same⟩ := List.mem_map.mp member
      exact spare.classes_apart index bounded template inside same.symm }
  have settled : ∀ template ∈ tree.templates, spares.IsSettled template := fun template inside =>
    ⟨(declared template inside).1, (declared template inside).2, List.mem_map_of_mem inside,
      List.mem_append_right _ (List.mem_map_of_mem inside)⟩
  have around : spares.TwinAncestors 0 [] [] := ⟨rfl, nofun⟩
  have call : CanReturn (compiler.parseCall ⟨0, [], settings, source⟩) (.ok tree) := parsed
  have again : CanReturn ((compiler.withIds ids).parse source settings) (.ok tree) :=
    repeats_of_parseCall rfl settled (Nat.zero_add _).le call [] around
  obtain ⟨result, returned, rest⟩ := exists_canReturn_of_bind compiled
  cases (eq_pure_of_canReturn parsed).symm.trans (eq_pure_of_canReturn returned)
  cases eq_of_canReturn_pure rest
  refine ⟨again, compiler.unitOf other tree, ?_, rfl⟩
  have compiles : (compiler.withIds ids).compile other source settings =
      pure (.ok (compiler.unitOf other tree)) := by
    rw [compile, eq_pure_of_canReturn again]
    rfl
  exact compiles

/-- A page that names its class and its module behind an include, which names its own before it
includes a third template. -/
theorem unit_reproducible_page :
    let compiler := Compiler.ofTexts .cSharp
      [("/nav.blade", "<%@\x60Nav\x60%><%# 'link' %><%$\x60Site\x60%>"),
        ("/link.blade", "<%$\x60Site.Parts\x60%><%@\x60Link\x60%>")]
    let source := "<%# 'nav' %><%@\x60Home\x60%><%$\x60Site\x60%>"
    let settings : Settings := ⟨"home.blade", "/", true, false⟩
    let ids := fun created => String.ofList (List.replicate created 'j')
    ∃ unit again, CanReturn (compiler.compile ⟨"one", ⟨0, 0⟩⟩ source settings) (.ok unit) ∧
      CanReturn ((compiler.withIds ids).compile ⟨"two", ⟨1, 0⟩⟩ source settings) (.ok again) ∧
      again.fingerprint = unit.fingerprint ∧ again.includes = ["nav.blade", "link.blade"] := by
  intro compiler source settings ids
  have parses : (Except.toOption (compiler.parse source settings)).map (fun tree =>
      decide ((∀ template ∈ tree.templates, template.DeclaresNames compiler.emitter.config) ∧
        tree.Spares ids compiler.emitter.config ∧
        tree.includedPaths = ["nav.blade", "link.blade"])) = some true := by decide +kernel
  obtain ⟨tree, result, holds⟩ := Option.map_eq_some_iff.mp parses
  obtain ⟨declared, spare, includes⟩ := of_decide_eq_true holds
  have parsed := canReturn_of_toOption result
  have compiled : CanReturn (compiler.compile ⟨"one", ⟨0, 0⟩⟩ source settings)
      (.ok (compiler.unitOf ⟨"one", ⟨0, 0⟩⟩ tree)) :=
    congrArg (Except.map (compiler.unitOf ⟨"one", ⟨0, 0⟩⟩)) (eq_ok_of_toOption result)
  obtain ⟨_, again, returned, same⟩ := unit_reproducible compiler ids _ ⟨"two", ⟨1, 0⟩⟩ source
    settings _ tree compiled parsed declared spare
  exact ⟨_, again, compiled, returned, same ▸ rfl, same ▸ includes⟩

end Compiler

end TemplateCompiler
