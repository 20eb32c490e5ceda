import TemplateCompiler.Proofs.Comparisons.FreshNames
import TemplateCompiler.Proofs.Comparisons.Includes
import TemplateCompiler.Proofs.Markup.Splicing

/-! # The order of name directives

A template takes a class and a module name in either order (`Template.declare_comm`), but the names
are checked one by one: in between, the template has one declared name and one that stands in. An
identity with a generated name is free, since only that of the template itself can have the name
(`IncludeTree.IsDrawn.isFree`). One with the configured module can be taken, where the class comes
first. So a class and a module directive next to each other can trade places, in the source and in
the texts that it includes, unless a class that has come in front of its module clashes there
(`Compiler.nameOrder_of_parse`).
-/

namespace TemplateCompiler

open Markup
open MonadAttach (CanReturn)

namespace Template

variable {template first last : Template} {kind other : NameKind} {name otherName : String}

@[simp] theorem slot_addFragments (template : Template) (body functions : FragmentStream)
    (kind : NameKind) : (template.addFragments body functions).slot kind = template.slot kind := by
  cases kind <;> rfl

/-- Fragments are not looked at where a name is declared. -/
theorem declare_addFragments (template : Template) (body functions : FragmentStream)
    (kind : NameKind) (name : String) :
    (template.addFragments body functions).declare kind name =
      (template.declare kind name).map fun declared => declared.addFragments body functions := by
  rw [addFragments, declare_withFragments]
  cases result : template.declare kind name with
  | error cause => rfl
  | ok declared =>
      have written := declare_eq_ok result
      cases kind <;> rw [written.2] <;> rfl

/-- **Names of different kinds can be declared in either order.** -/
theorem declare_comm (different : other ≠ kind) (declared : template.declare kind name = .ok first)
    (declares : first.declare other otherName = .ok last) :
    ∃ mid, template.declare other otherName = .ok mid ∧ mid.declare kind name = .ok last := by
  obtain ⟨fits, free⟩ := exists_declare_iff.mp ⟨first, declared⟩
  obtain ⟨otherFits, otherFree⟩ := exists_declare_iff.mp ⟨last, declares⟩
  rw [slot_of_declare declared, if_neg different] at otherFree
  have grammar {template after : Template} {kind other : NameKind} {name : String}
      (declared : template.declare kind name = .ok after) :
      after.grammar other = template.grammar other := by
    have written := declare_eq_ok declared
    cases kind <;> rw [written.2] <;> cases other <;> rfl
  rw [grammar declared] at otherFits
  obtain ⟨mid, accepted⟩ := exists_declare_iff.mpr ⟨otherFits, otherFree⟩
  have midFree : ∀ existing ∈ (mid.slot kind).declared?, existing = name := by
    rw [slot_of_declare accepted, if_neg different.symm]
    exact free
  obtain ⟨after, accepts⟩ := exists_declare_iff.mpr ⟨grammar accepted ▸ fits, midFree⟩
  refine ⟨mid, accepted, accepts.trans (congrArg Except.ok ?_)⟩
  have writtenFirst := (declare_eq_ok declared)
  have writtenLast := (declare_eq_ok declares)
  have writtenMid := (declare_eq_ok accepted)
  have writtenAfter := (declare_eq_ok accepts)
  cases kind <;> cases other <;> first
    | exact absurd rfl different
    | rw [writtenAfter.2, writtenMid.2, writtenLast.2, writtenFirst.2]

end Template

/-- A directive that declares a module or class name. -/
structure NameDirective where
  kind : NameKind
  chars : List Char
  named : kind ≠ .engineName

/-- The directive as a text has it. -/
def NameDirective.directive (name : NameDirective) : Directive := .name name.kind name.chars

namespace Draft

variable {writer : Writer} {ancestors : List Identity} {draft next : Draft}
  {compose : IncludeTree → String → Location → Id (Except ParseError IncludeTree)} {s : Section}
  {kind : NameKind} {chars before : List Char} {template : Template}

variable (writer) in
/-- The tree behind literal text and a name that leads to a template. -/
def treeBehind (draft : Draft) (literal : List Char) (template : Template) : IncludeTree :=
  (draft.tree.withTemplate template).withLiteral writer draft.mode literal

/-- Literal text is not looked at where a name is declared. -/
theorem declare_withLiteral (draft : Draft) (literal : List Char) (kind : NameKind)
    (name : String) :
    (draft.tree.withLiteral writer draft.mode literal).template.declare kind name =
      (draft.tree.template.declare kind name).map fun declared =>
        (draft.treeBehind writer literal declared).template :=
  Template.declare_addFragments ..

/-- A name is declared behind another one as it is without the literal text before that. -/
theorem declare_treeBehind (draft : Draft) (literal : List Char) (template : Template)
    (kind : NameKind) (name : String) :
    (draft.treeBehind writer literal template).template.declare kind name =
      (template.declare kind name).map fun declared =>
        (draft.treeBehind writer literal declared).template :=
  Template.declare_addFragments ..

/-- **A name that is declared** fits the template and leads to an identity that is free. -/
theorem exists_of_follow_name (between : draft.IsBetween before)
    (name : s.directive = .name kind chars) (named : kind ≠ .engineName)
    (followed : CanReturn (draft.follow writer ancestors compose s) next) :
    String.ofList chars ≠ "" ∧ ∃ template,
      draft.tree.template.declare kind (String.ofList chars) = .ok template ∧
      draft.tree.IsFree ancestors template.identity ∧
      next.tree = draft.treeBehind writer s.literal template ∧ next.mode = draft.mode := by
  rw [follow_of_name name] at followed
  obtain ⟨nonempty, declared, accepted, free, rfl⟩ :=
    declareName_eq_ok_iff.mp (eq_ok_of_canReturn_ofExcept followed)
  obtain ⟨outside, below⟩ := free named
  rw [tree_atEnd writer between] at accepted below
  rw [declare_withLiteral] at accepted
  cases result : draft.tree.template.declare kind (String.ofList chars) with
  | error cause =>
      rw [result] at accepted
      cases accepted
  | ok template =>
      rw [result] at accepted
      cases accepted
      refine ⟨nonempty, template, rfl, ⟨outside, below⟩, ?_, rfl⟩
      change (draft.atEnd writer s).tree.withTemplate _ = _
      rw [tree_atEnd writer between]
      rfl

variable (writer ancestors compose s) in
/-- A name that fits the template is declared where it leads to a free identity, and refused
otherwise. -/
theorem follow_name (between : draft.IsBetween before) (name : s.directive = .name kind chars)
    (named : kind ≠ .engineName) (nonempty : String.ofList chars ≠ "")
    (accepted : draft.tree.template.declare kind (String.ofList chars) = .ok template) :
    (draft.tree.IsFree ancestors template.identity →
      ∃ next, draft.follow writer ancestors compose s = pure next ∧
        next.tree = draft.treeBehind writer s.literal template ∧ next.mode = draft.mode) ∧
    (¬draft.tree.IsFree ancestors template.identity →
      ∃ location, draft.follow writer ancestors compose s =
        throw (.classAlreadyIncluded template.identity location)) := by
  have atEnd := tree_atEnd writer between s
  have accepts : (draft.atEnd writer s).tree.template.declare kind (String.ofList chars) =
      .ok ((draft.treeBehind writer s.literal template).template) := by
    rw [atEnd, declare_withLiteral, accepted]
    rfl
  rw [follow_of_name name]
  constructor
  · rintro ⟨outside, below⟩
    have declares := declareName_eq_ok_iff.mpr ⟨nonempty, _, accepts, fun _ =>
      ⟨outside, by rw [atEnd]; exact below⟩, rfl⟩
    refine ⟨(draft.atEnd writer s).withTemplate (draft.treeBehind writer s.literal
      template).template, by rw [declares]; rfl, ?_, rfl⟩
    change (draft.atEnd writer s).tree.withTemplate _ = _
    rw [atEnd]
    rfl
  · intro taken
    refine ⟨(draft.atEnd writer s).tagStart, ?_⟩
    have inUse : template.identity ∈ ancestors ∨
        draft.tree.containsIdentity template.identity = true := by
      by_contra neither
      rw [not_or, Bool.not_eq_true] at neither
      exact taken neither
    have refused : (draft.atEnd writer s).declareName ancestors kind (String.ofList chars) =
        .error (.classAlreadyIncluded template.identity (draft.atEnd writer s).tagStart) := by
      simp only [declareName, String.isEmpty_iff, if_neg nonempty, template_tree]
      rw [accepts]
      have kept : ((draft.atEnd writer s).withTemplate
          (draft.treeBehind writer s.literal template).template).tree.containsIdentity
            template.identity = draft.tree.containsIdentity template.identity := by
        change ((draft.atEnd writer s).tree.withTemplate _).containsIdentity _ = _
        rw [atEnd]
        rfl
      have same : (draft.treeBehind writer s.literal template).template.identity =
        template.identity := rfl
      simp only [same, kept, if_pos (show kind ≠ .engineName ∧ _ from ⟨named, inUse⟩)]
      rfl
    rw [refused]
    rfl

/-- A draft between sections, behind two names that lead to a template and the literal texts before
them. -/
structure FollowsNames (writer : Writer) (first : Draft) (literal between : List Char)
    (both : Template) (last : Draft) : Prop where
  placed : ∃ before, last.IsBetween before
  mode : last.mode = first.mode
  tree : last.tree = (first.treeBehind writer literal both).withLiteral writer first.mode between

variable {name later : NameDirective} {first mid last : Draft}
  {literal between written laterWritten : List Char} {declared both : Template}

/-- **Two names that are declared** fit the template one after the other, and the identity that they
lead to is free. -/
theorem exists_of_follow_names (placed : first.IsBetween before)
    (followed : CanReturn
      (first.follow writer ancestors compose ⟨literal, written, name.directive⟩) mid)
    (follows : CanReturn
      (mid.follow writer ancestors compose ⟨between, laterWritten, later.directive⟩) last) :
    String.ofList name.chars ≠ "" ∧ String.ofList later.chars ≠ "" ∧ ∃ declared both,
      first.tree.template.declare name.kind (String.ofList name.chars) = .ok declared ∧
      declared.declare later.kind (String.ofList later.chars) = .ok both ∧
      first.tree.IsFree ancestors both.identity ∧
      FollowsNames writer first literal between both last := by
  obtain ⟨nonempty, declared, accepted, _, midTree, midMode⟩ :=
    exists_of_follow_name placed rfl name.named followed
  have midPlaced := isBetween_of_follow placed followed
  obtain ⟨laterNonempty, final, accepts, free, lastTree, lastMode⟩ :=
    exists_of_follow_name midPlaced rfl later.named follows
  rw [midTree, declare_treeBehind] at accepts
  rw [midTree] at free
  cases result : declared.declare later.kind (String.ofList later.chars) with
  | error cause =>
      rw [result] at accepts
      cases accepts
  | ok both =>
      rw [result] at accepts
      cases accepts
      refine ⟨nonempty, laterNonempty, declared, both, accepted, result, free,
        ⟨_, isBetween_of_follow midPlaced follows⟩, lastMode.trans midMode, ?_⟩
      rw [lastTree, treeBehind, midTree, midMode]
      rfl

variable (writer ancestors compose literal between written laterWritten) in
/-- Two names that fit the template one after the other are declared where both lead to free
identities. -/
theorem exists_follow_names (placed : first.IsBetween before)
    (nonempty : String.ofList name.chars ≠ "") (laterNonempty : String.ofList later.chars ≠ "")
    (accepted :
      first.tree.template.declare name.kind (String.ofList name.chars) = .ok declared)
    (accepts : declared.declare later.kind (String.ofList later.chars) = .ok both)
    (free : first.tree.IsFree ancestors declared.identity)
    (freeBoth : first.tree.IsFree ancestors both.identity) :
    ∃ mid last,
      first.follow writer ancestors compose ⟨literal, written, name.directive⟩ = pure mid ∧
      mid.follow writer ancestors compose ⟨between, laterWritten, later.directive⟩ = pure last ∧
      FollowsNames writer first literal between both last := by
  obtain ⟨mid, followed, midTree, midMode⟩ :=
    (follow_name writer ancestors compose ⟨literal, written, name.directive⟩ placed rfl name.named
      nonempty accepted).1 free
  have midPlaced := isBetween_of_follow placed
    (show CanReturn (first.follow writer ancestors compose _) mid from followed)
  have behind : mid.tree.template.declare later.kind (String.ofList later.chars) =
      .ok (first.treeBehind writer literal both).template := by
    rw [midTree, declare_treeBehind, accepts]
    rfl
  obtain ⟨last, follows, lastTree, lastMode⟩ :=
    (follow_name writer ancestors compose ⟨between, laterWritten, later.directive⟩ midPlaced rfl
      later.named laterNonempty behind).1 (by rw [midTree]; exact freeBoth)
  refine ⟨mid, last, followed, follows, ⟨_, isBetween_of_follow midPlaced
    (show CanReturn (mid.follow writer ancestors compose _) last from follows)⟩,
    lastMode.trans midMode, ?_⟩
  rw [lastTree, treeBehind, midTree, midMode]
  rfl

end Draft

/-! ## Trees in the making -/

theorem Template.IsDrawn.addFragments {compiler : Compiler Id} {index : Nat} {template : Template}
    (drawn : template.IsDrawn compiler index) (body functions : FragmentStream) :
    (template.addFragments body functions).IsDrawn compiler index := by
  intro kind named
  rw [slot_addFragments]
  exact drawn kind named

/-- A tree in the making with an index, whose names are drawn, and which includes templates with
later indices. -/
structure IncludeTree.IsDrawn (compiler : Compiler Id) (index : Nat) (tree : IncludeTree) :
    Prop where
  template : tree.template.IsDrawn compiler index
  included : ∀ inner ∈ tree.includedTemplates,
    ∃ later > index, inner.identity.IsOf compiler.ids later

/-- The identities around a template with an index are those of templates created before. -/
def Compiler.DrewBefore (compiler : Compiler Id) (index : Nat) (ancestors : List Identity) : Prop :=
  ∀ identity ∈ ancestors, ∃ earlier < index, identity.IsOf compiler.ids earlier

namespace IncludeTree.IsDrawn

variable {compiler : Compiler Id} {index : Nat} {ancestors : List Identity} {tree : IncludeTree}

/-- A tree that includes nothing yet, with the names that stand in. -/
theorem start (compiler : Compiler Id) (index : Nat) (settings : Settings) :
    (compiler.startDraft index settings).tree.IsDrawn compiler index :=
  ⟨.start compiler index settings, fun _ inside => (List.not_mem_nil inside).elim⟩

/-- **An identity with the generated name of its template is free.** -/
theorem isFree (drawn : tree.IsDrawn compiler index) (around : compiler.DrewBefore index ancestors)
    {identity : Identity} {kind : NameKind} (named : kind ≠ .engineName)
    (generated : identity.name kind = Template.generatedName kind (compiler.ids index)) :
    tree.IsFree ancestors identity := by
  constructor
  · intro member
    obtain ⟨earlier, before, isOf⟩ := around identity member
    exact absurd (isOf kind named index generated) (by omega)
  · rw [Bool.eq_false_iff, Ne, containsIdentity_iff]
    intro member
    obtain ⟨inner, inside, rfl⟩ := List.mem_map.mp member
    obtain ⟨later, after, isOf⟩ := drawn.included inner inside
    exact absurd (isOf kind named index generated) (by omega)

theorem withTemplate (drawn : tree.IsDrawn compiler index) {template : Template}
    (kept : template.IsDrawn compiler index) :
    (tree.withTemplate template).IsDrawn compiler index :=
  ⟨kept, drawn.included⟩

theorem addFragments (drawn : tree.IsDrawn compiler index) (body functions : FragmentStream) :
    (tree.withTemplate (tree.template.addFragments body functions)).IsDrawn compiler index :=
  drawn.withTemplate (drawn.template.addFragments body functions)

end IncludeTree.IsDrawn

/-- The same tree twice, with drawn names, goes along with itself. -/
theorem Comparison.drawn (compiler : Compiler Id) (index : Nat) (ancestors : List Identity) :
    Comparison (fun tree other => other = tree ∧ tree.IsDrawn compiler index)
      (Directive.IsUndrawn compiler.ids) ancestors ancestors where
  addFragments := by
    rintro tree _ ⟨rfl, drawn⟩ body functions
    exact ⟨rfl, drawn.addFragments body functions⟩
  perform := by
    rintro tree _ directive template ⟨rfl, drawn⟩ _ undrawn performed free
    exact ⟨template, performed, free, rfl,
      drawn.withTemplate (drawn.template.perform undrawn performed)⟩

/-! ## Exchanged name directives -/

/-- A class that has been moved in front of the module clashes with one of the configured module:
the identity is taken that both make before the module is declared. -/
def Clashes (config : Config) (sooner : String → Prop) (cause : ParseError) : Prop :=
  ∃ moduleName className location, moduleName ∈ config.defaultModule? ∧ sooner className ∧
    cause.rootCause = .classAlreadyIncluded ⟨moduleName, className⟩ location

/-- Drafts alongside each other that have read the same tree, with drawn names. -/
abbrev Draft.Draws (compiler : Compiler Id) (index : Nat) (first second : Draft) : Prop :=
  first.Alongside (fun tree other => other = tree ∧ tree.IsDrawn compiler index) second

namespace Compiler

variable {compiler : Compiler Id} {index : Nat} {ancestors : List Identity}
  {sooner : String → Prop} {name later : NameDirective}

/-- A name in the identity of a template that has declared a name. -/
theorem name_of_declare {template declared : Template} {kind other : NameKind} {name : String}
    (accepted : template.declare kind name = .ok declared) (named : other ≠ .engineName) :
    declared.identity.name other = if other = kind then name else (template.slot other).value := by
  rw [Template.name_identity _ named, Template.slot_of_declare accepted]
  split_ifs <;> rfl

/-- A name that has been declared before does not change the identity. -/
theorem identity_of_redeclare {template declared both exchanged : Template}
    {kind other : NameKind} {known name otherName : String}
    (isKnown : template.slot kind = .explicit known)
    (accepted : template.declare kind name = .ok declared)
    (accepts : declared.declare other otherName = .ok both)
    (soon : template.declare other otherName = .ok exchanged) :
    exchanged.identity = both.identity := by
  have same : known = name :=
    (Template.exists_declare_iff.mp ⟨declared, accepted⟩).2 known (by rw [isKnown]; rfl)
  refine Identity.eq_of_names fun kind named => ?_
  rw [name_of_declare soon named, name_of_declare accepts named]
  split_ifs with isLater
  · rfl
  · rw [Template.slot_of_declare accepted]
    split_ifs with isName
    · rw [isName, isKnown, same]
    · rfl

/-- An identity that is made in between is free, or that of a class of the configured module. -/
theorem free_or_configured {tree : IncludeTree} {declared both exchanged : Template}
    (around : compiler.DrewBefore index ancestors)
    (drawn : tree.IsDrawn compiler index) (different : later.kind ≠ name.kind)
    (accepted : tree.template.declare name.kind (String.ofList name.chars) = .ok declared)
    (accepts : declared.declare later.kind (String.ofList later.chars) = .ok both)
    (soon : tree.template.declare later.kind (String.ofList later.chars) = .ok exchanged)
    (free : tree.IsFree ancestors both.identity) :
    tree.IsFree ancestors exchanged.identity ∨ later.kind = .className ∧
      ∃ moduleName ∈ compiler.emitter.config.defaultModule?,
        exchanged.identity = ⟨moduleName, String.ofList later.chars⟩ := by
  have between := name_of_declare soon name.named
  rw [if_neg different.symm] at between
  rcases drawn.template name.kind name.named with standsIn | ⟨known, isKnown, _⟩
  · rw [standsIn, NameSlot.value_generated] at between
    rcases compiler.standIn_cases index name.named with
      generated | ⟨isModule, moduleName, default, stands⟩
    · exact .inl (drawn.isFree around name.named (between.trans generated))
    · rw [stands, isModule] at between
      have isClass : later.kind = .className := by
        cases kind : later.kind with
        | className => rfl
        | moduleName => exact absurd (kind.trans isModule.symm) different
        | engineName => exact absurd kind later.named
      refine .inr ⟨isClass, moduleName, default, Identity.eq_of_names fun kind named => ?_⟩
      cases kind with
      | engineName => exact absurd rfl named
      | moduleName => exact between
      | className => exact (name_of_declare soon named).trans (if_pos isClass.symm)
  · exact .inl (identity_of_redeclare isKnown accepted accepts soon ▸ free)

/-- **Two names next to each other** can be declared in either order, unless a class that comes
sooner clashes. -/
theorem meets_of_exchanged {writer : Writer} {first second mid last : Draft}
    {compose otherCompose : IncludeTree → String → Location → Id (Except ParseError IncludeTree)}
    {literal between written laterWritten : List Char}
    (around : compiler.DrewBefore index ancestors) (different : later.kind ≠ name.kind)
    (isSooner : later.kind = .className → sooner (String.ofList later.chars))
    (undrawn : name.directive.IsUndrawn compiler.ids)
    (laterUndrawn : later.directive.IsUndrawn compiler.ids)
    (alongside : first.Draws compiler index second)
    (followed : CanReturn
      (first.follow writer ancestors compose ⟨literal, written, name.directive⟩) mid)
    (follows : CanReturn
      (mid.follow writer ancestors compose ⟨between, laterWritten, later.directive⟩) last) :
    Meets (Clashes compiler.emitter.config sooner) (Draft.Draws compiler index) last
      (second.follow writer ancestors otherCompose ⟨literal, laterWritten, later.directive⟩ >>=
        fun draft => draft.follow writer ancestors otherCompose
          ⟨between, written, name.directive⟩) := by
  obtain ⟨_, placed⟩ := alongside.between
  obtain ⟨_, otherPlaced⟩ := alongside.otherBetween
  obtain ⟨same, drawn⟩ := alongside.trees
  obtain ⟨nonempty, laterNonempty, declared, both, accepted, accepts, free, behind⟩ :=
    Draft.exists_of_follow_names placed followed follows
  obtain ⟨exchanged, soon, late⟩ := Template.declare_comm different accepted accepts
  have kept : both.IsDrawn compiler index :=
    (drawn.template.perform undrawn accepted).perform laterUndrawn accepts
  by_cases isFree : first.tree.IsFree ancestors exchanged.identity
  · obtain ⟨otherMid, otherLast, otherFollowed, otherFollows, otherBehind⟩ :=
      Draft.exists_follow_names writer ancestors otherCompose literal between laterWritten written
        otherPlaced laterNonempty nonempty (same ▸ soon) late (same ▸ isFree) (same ▸ free)
    rw [otherFollowed, pure_bind, otherFollows]
    refine .pure ⟨behind.placed, otherBehind.placed, ?_, ?_, ?_⟩
    · rw [otherBehind.mode, behind.mode, alongside.mode]
    · rw [otherBehind.tree, behind.tree, Draft.treeBehind, Draft.treeBehind, alongside.mode, same]
    · rw [behind.tree]
      exact ⟨(kept.addFragments _ _).addFragments _ _, drawn.included⟩
  · obtain ⟨location, failed⟩ := (Draft.follow_name writer ancestors otherCompose
      ⟨literal, laterWritten, later.directive⟩ otherPlaced rfl later.named laterNonempty
      (same ▸ soon)).2 (same ▸ isFree)
    obtain ⟨isClass, moduleName, configured, identity⟩ :=
      (free_or_configured around drawn different accepted accepts soon free).resolve_left isFree
    rw [failed]
    exact .throw ⟨moduleName, _, location, configured, isSooner isClass, by rw [identity]; rfl⟩

end Compiler

/-! ## Rearranged texts -/

/-- A text in which a class and a module name next to each other may have traded places. A class
that has come in front of the module is one of those that come sooner. -/
inductive Rearranged (sooner : String → Prop) (text : String) : String → Prop where
  | same : Rearranged sooner text text
  | exchanged {other : String} (name later : NameDirective) (different : later.kind ≠ name.kind)
      (isSooner : later.kind = .className → sooner (String.ofList later.chars))
      (exchanges : Exchanges name.directive later.directive text.toList other.toList) :
      Rearranged sooner text other

/-- A loader of the same files whose texts may be rearranged. -/
structure Loader.Rearranges (sooner : String → Prop) (loader other : Loader Id) : Prop
    extends loader.SameFiles other where
  texts : ∀ path text, CanReturn (loader.read path) (.ok text) →
    ∃ rearranged, other.read path = pure (.ok rearranged) ∧ Rearranged sooner text rearranged

/-- The compiler with another loader. -/
def Compiler.withLoader (compiler : Compiler Id) (loader : Loader Id) : Compiler Id :=
  { compiler with loader := loader }

namespace Compiler

variable {compiler : Compiler Id} {sooner : String → Prop} {other : Loader Id} {source : String}

/-- Where a call of the parser leads, it leads in a rearranged text with a loader of rearranged
texts, unless a class clashes. -/
def KeepsOrder (compiler : Compiler Id) (sooner : String → Prop) (other : Loader Id) (call : Call) :
    Prop :=
  ∀ rearranged tree, Rearranged sooner call.source rearranged →
    compiler.DrewBefore call.created call.ancestors →
    CanReturn (compiler.parseCall call) (.ok tree) →
    Meets (Clashes compiler.emitter.config sooner)
      (fun tree other => other = tree ∧ ∀ template ∈ tree.templates,
        ∃ later ≥ call.created, template.identity.IsOf compiler.ids later) tree
      (ExceptT.mk ((compiler.withLoader other).parseCall { call with source := rearranged }))

/-- The calls that a call of the parser leads to keep their order. -/
def KeepsOrderBelow (compiler : Compiler Id) (sooner : String → Prop) (other : Loader Id)
    (source : String) (call : Call) : Prop :=
  ∀ inner : Call, inner.ancestors.length = call.ancestors.length + 1 →
    call.ancestors.length < compiler.emitter.config.maxIncludeDepth →
    compiler.HasText source inner.source → compiler.KeepsOrder sooner other inner

/-- **An include** leads to the same tree with a loader of rearranged texts, unless a class
clashes. -/
theorem meets_of_rearranged_compose {call : Call} (rearranged : String)
    {tree grown : IncludeTree} {path : String} {location : Location}
    (fresh : compiler.IsFresh source compiler.ids)
    (rearranges : compiler.loader.Rearranges sooner other)
    (below : compiler.KeepsOrderBelow sooner other source call)
    (around : compiler.DrewBefore call.created call.ancestors)
    (drawn : tree.IsDrawn compiler call.created) (elsewhere : Location)
    (composed : CanReturn (compiler.compose (compiler.levelsBelow call) call.created
      call.ancestors tree path location) (.ok grown)) :
    Meets (Clashes compiler.emitter.config sooner)
      (fun tree other => other = tree ∧ tree.IsDrawn compiler call.created) grown
      (ExceptT.mk ((compiler.withLoader other).compose
        ((compiler.withLoader other).levelsBelow { call with source := rearranged })
        call.created call.ancestors tree path elsewhere)) := by
  obtain ⟨room, target, text, child, resolved, loaded, parsed, adopted, _⟩ :=
    exists_call_of_compose composed
  obtain ⟨text', loads, texts⟩ := rearranges.texts _ _ loaded
  have size : call.created < call.created + tree.size := by
    rw [IncludeTree.size, IncludeTree.templates_eq, List.length_cons]
    omega
  have deeper : compiler.DrewBefore (call.created + tree.size)
      (call.ancestors ++ [tree.template.identity]) := by
    intro identity member
    rcases List.mem_append.mp member with outer | own
    · obtain ⟨earlier, before, isOf⟩ := around identity outer
      exact ⟨earlier, by omega, isOf⟩
    · rw [List.mem_singleton.mp own]
      exact ⟨call.created, size, drawn.template.isOf fresh.distinct fresh.configured⟩
  have again := below ⟨call.created + tree.size, call.ancestors ++ [tree.template.identity],
    target.settings, text⟩ (by simp) room (.inr ⟨_, loaded⟩) text' child texts deeper parsed
  refine meets_of_compose (compiler.withLoader other) { call with source := rearranged } room
    (IncludeTarget.resolve_elsewhere rearranges.toSameFiles resolved elsewhere) loads again ?_ ?_
  · rintro cause ⟨moduleName, className, place, configured, isSooner, root⟩
    exact ⟨moduleName, className, place, configured, isSooner, root⟩
  · rintro _ ⟨rfl, later⟩
    refine ⟨grown, IncludeTree.adopt_elsewhere adopted elsewhere, rfl, ?_⟩
    obtain ⟨_, _, _, rfl⟩ := IncludeTree.adopt_eq_ok adopted
    refine ⟨fun kind named => ?_, fun template inside => ?_⟩
    · have kept := drawn.template kind named
      cases kind <;> exact kept
    · rcases IncludeTree.mem_includedTemplates_addIncluded.mp inside with before | inChild
      · exact drawn.included template before
      · obtain ⟨index, after, isOf⟩ := later template (by
          rw [IncludeTree.templates_eq]
          exact List.mem_cons.mpr inChild)
        exact ⟨index, Nat.lt_of_lt_of_le size after, isOf⟩

/-- **Sections** that stay as they are lead on alongside, unless a class clashes below. -/
theorem meets_of_rearranged_sections {call : Call} (rearranged : String) {rest : List Section}
    {first second last : Draft} (fresh : compiler.IsFresh source compiler.ids)
    (rearranges : compiler.loader.Rearranges sooner other)
    (below : compiler.KeepsOrderBelow sooner other source call)
    (around : compiler.DrewBefore call.created call.ancestors)
    (named : ∀ s ∈ rest, s.directive.IsNamed)
    (undrawn : ∀ s ∈ rest, s.directive.IsUndrawn compiler.ids)
    (alongside : first.Draws compiler call.created second)
    (followed : CanReturn (rest.foldlM (compiler.follow call) first) last) :
    Meets (Clashes compiler.emitter.config sooner) (Draft.Draws compiler call.created) last
      (rest.foldlM ((compiler.withLoader other).follow { call with source := rearranged })
        second) := by
  refine meets_of_sections compiler (compiler.withLoader other) call
    { call with source := rearranged } rfl
    (Comparison.drawn compiler call.created call.ancestors) alongside named undrawn ?_ followed
  rintro tree _ path location elsewhere grown ⟨rfl, drawn⟩ _ composed
  exact meets_of_rearranged_compose rearranged fresh rearranges below around drawn
    elsewhere composed

/-- **Sections among which two names trade places** lead on alongside, unless a class clashes. -/
theorem meets_of_exchanged_sections {call : Call} {rearranged : String} {front back : List Section}
    {name later : NameDirective} {literal between written laterWritten : List Char}
    {first second last : Draft} (fresh : compiler.IsFresh source compiler.ids)
    (rearranges : compiler.loader.Rearranges sooner other)
    (below : compiler.KeepsOrderBelow sooner other source call)
    (around : compiler.DrewBefore call.created call.ancestors)
    (different : later.kind ≠ name.kind)
    (isSooner : later.kind = .className → sooner (String.ofList later.chars))
    (sections : List Section)
    (split : sections = front ++ ⟨literal, written, name.directive⟩ ::
      ⟨between, laterWritten, later.directive⟩ :: back)
    (named : ∀ s ∈ sections, s.directive.IsNamed)
    (undrawn : ∀ s ∈ sections, s.directive.IsUndrawn compiler.ids)
    (alongside : first.Draws compiler call.created second)
    (followed : CanReturn (sections.foldlM (compiler.follow call) first) last) :
    Meets (Clashes compiler.emitter.config sooner) (Draft.Draws compiler call.created) last
      ((front ++ ⟨literal, laterWritten, later.directive⟩ ::
        ⟨between, written, name.directive⟩ :: back).foldlM
          ((compiler.withLoader other).follow { call with source := rearranged }) second) := by
  subst split
  simp only [List.forall_mem_append, List.forall_mem_cons] at named undrawn
  obtain ⟨frontNamed, _, _, backNamed⟩ := named
  obtain ⟨frontUndrawn, nameUndrawn, laterUndrawn, backUndrawn⟩ := undrawn
  obtain ⟨_, _, _, readFront, readName, readLater, readBack⟩ := exists_of_foldlM_pair followed
  have reads := meets_of_rearranged_sections rearranged fresh rearranges below around frontNamed
    frontUndrawn alongside readFront
  exact reads.foldlM_pair
    (fun _ beside => meets_of_exchanged around different isSooner nameUndrawn laterUndrawn beside
      readName readLater)
    fun _ beside => meets_of_rearranged_sections rearranged fresh rearranges below around backNamed
      backUndrawn beside readBack

/-- **Where a call of the parser leads, it leads in a rearranged text**, unless a class clashes. -/
theorem keepsOrder (fresh : compiler.IsFresh source compiler.ids)
    (rearranges : compiler.loader.Rearranges sooner other) (call : Call)
    (hasText : compiler.HasText source call.source) : compiler.KeepsOrder sooner other call := by
  induction levels : compiler.emitter.config.maxIncludeDepth - call.ancestors.length
    using Nat.strongRecOn generalizing call with
  | ind left ih =>
      intro rearranged tree texts around returned
      have undrawn := fresh.undeclared _ hasText
      have comparison := Comparison.drawn compiler call.created call.ancestors
      have below : compiler.KeepsOrderBelow sooner other source call :=
        fun inner deeper room has => ih _ (by omega) inner has rfl
      have start : (compiler.startDraft call.created call.settings).Draws compiler call.created
          (compiler.startDraft call.created call.settings) :=
        ⟨⟨_, isBetween_startDraft⟩, ⟨_, isBetween_startDraft⟩, rfl, rfl, .start ..⟩
      have meets : Meets (Clashes compiler.emitter.config sooner)
          (fun tree other => other = tree ∧ tree.IsDrawn compiler call.created) tree
          (ExceptT.mk
            ((compiler.withLoader other).parseCall { call with source := rearranged })) := by
        cases texts with
        | same =>
            refine meets_of_parseCall compiler (compiler.withLoader other) call call rfl comparison
              rfl (fun last _ followed => ?_) returned
            exact meets_of_rearranged_sections call.source fresh rearranges below
              around (fun s => isNamed_of_mem_sections) undrawn start followed
        | exchanged name later different isSooner exchanges =>
            obtain ⟨front, literal, between, written, laterWritten, back, tail, sections, others⟩ :=
              exchanges.sections_eq
            refine meets_of_parseCall compiler (compiler.withLoader other) call
              { call with source := rearranged } rfl comparison
              (by rw [sections, others]) (fun last _ followed => ?_) returned
            rw [others]
            exact meets_of_exchanged_sections fresh rearranges below around different isSooner _
              (congrArg Prod.fst sections) (fun s => isNamed_of_mem_sections) undrawn start followed
      refine meets.mono ?_
      rintro _ ⟨rfl, drawn⟩
      refine ⟨rfl, IncludeTree.forall_templates_iff.mpr ⟨?_, fun template inside => ?_⟩⟩
      · exact ⟨call.created, le_rfl, drawn.template.isOf fresh.distinct fresh.configured⟩
      · obtain ⟨later, after, isOf⟩ := drawn.included template inside
        exact ⟨later, after.le, isOf⟩

/-- **A class and a module name that stand next to each other can trade places**, in the source and
in every text that is included: where the one parse succeeds, the other succeeds with the same tree,
unless a class that has come in front of its module makes the identity of another template together
with the configured module. -/
theorem nameOrder_of_parse (compiler : Compiler Id) (other : Loader Id) (sooner : String → Prop)
    (source rearranged : String) (settings : Settings) (tree : IncludeTree)
    (fresh : compiler.IsFresh source compiler.ids)
    (rearranges : compiler.loader.Rearranges sooner other)
    (texts : Rearranged sooner source rearranged)
    (parsed : CanReturn (compiler.parse source settings) (.ok tree)) :
    CanReturn ((compiler.withLoader other).parse rearranged settings) (.ok tree) ∨
      ∃ cause, CanReturn ((compiler.withLoader other).parse rearranged settings) (.error cause) ∧
        Clashes compiler.emitter.config sooner cause := by
  have call : CanReturn (compiler.parseCall ⟨0, [], settings, source⟩) (.ok tree) := parsed
  have meets := keepsOrder fresh rearranges ⟨0, [], settings, source⟩ (.inl rfl) rearranged tree
    texts nofun call
  have same : (compiler.withLoader other).parseCall ⟨0, [], settings, rearranged⟩ =
    (compiler.withLoader other).parse rearranged settings := rfl
  rw [same] at meets
  rcases meets.cases_eq with ⟨_, again, rfl, _⟩ | ⟨cause, failed, clashes⟩
  · exact .inl again
  · exact .inr ⟨cause, failed, clashes⟩

/-- A page of the configured module `Site` includes a template that names its class only, and names
its own class the same, in another module. It can be parsed where the module comes first. -/
theorem nameOrder_of_page :
    let compiler : Compiler Id :=
      { Compiler.ofTexts .cSharp [("/site/nav.blade", "<%@\x60Nav\x60%>")] with
        emitter := ⟨.cSharp, { defaultModule? := some "Site" }, .dotted⟩ }
    let settings : Settings := ⟨"home.blade", "/site", true, false⟩
    ∃ tree cause location,
      CanReturn (compiler.parse "<%# 'nav' %><%$\x60M\x60%><%@\x60Nav\x60%>" settings) (.ok tree) ∧
      tree.identities = [⟨"M", "Nav"⟩, ⟨"Site", "Nav"⟩] ∧
      CanReturn (compiler.parse "<%# 'nav' %><%@\x60Nav\x60%><%$\x60M\x60%>" settings)
        (.error cause) ∧
      cause.rootCause = .classAlreadyIncluded ⟨"Site", "Nav"⟩ location := by
  intro compiler settings
  have parsed : (compiler.parse "<%# 'nav' %><%$\x60M\x60%><%@\x60Nav\x60%>" settings).toOption.map
      IncludeTree.identities = some [⟨"M", "Nav"⟩, ⟨"Site", "Nav"⟩] := by decide +kernel
  have fails : (compiler.parse "<%# 'nav' %><%@\x60Nav\x60%><%$\x60M\x60%>"
      settings).toOption.isNone = true := by decide +kernel
  obtain ⟨tree, result, identities⟩ := Option.map_eq_some_iff.mp parsed
  have fresh : compiler.IsFresh "<%# 'nav' %><%$\x60M\x60%><%@\x60Nav\x60%>" compiler.ids :=
    isFresh_of_texts [("/site/nav.blade", "<%@\x60Nav\x60%>")] rfl
      (by rintro name ⟨⟩; rfl) (by decide +kernel) 'i'
  have literal : splitAt? ['<', '%'] (sections "<%# 'nav' %>".toList).2 = none := by
    decide +kernel
  have exchanges : Exchanges (.name .moduleName ['M']) (.name .className ['N', 'a', 'v'])
      "<%# 'nav' %><%$\x60M\x60%><%@\x60Nav\x60%>".toList
      "<%# 'nav' %><%@\x60Nav\x60%><%$\x60M\x60%>".toList :=
    .intro "<%# 'nav' %>".toList "<%$\x60M\x60%>".toList [] "<%@\x60Nav\x60%>".toList []
      literal rfl ⟨_, rfl, by decide +kernel⟩ ⟨_, rfl, by decide +kernel⟩
  have moved := compiler.nameOrder_of_parse compiler.loader (· = "Nav") _ _ settings tree fresh
    ⟨⟨rfl, rfl⟩, fun path text read => ⟨text, read, .same⟩⟩
    (.exchanged ⟨.moduleName, ['M'], by decide⟩ ⟨.className, ['N', 'a', 'v'], by decide⟩ (by decide)
      (fun _ => rfl) exchanges) (canReturn_of_toOption result)
  rcases moved with again | ⟨cause, failed, moduleName, className, location, isSite, rfl, root⟩
  · rw [show compiler.parse "<%# 'nav' %><%@\x60Nav\x60%><%$\x60M\x60%>" settings = .ok tree from
      again] at fails
    cases fails
  · cases isSite
    exact ⟨tree, cause, location, canReturn_of_toOption result, identities, failed, root⟩

end Compiler

end TemplateCompiler
