import Mathlib.Logic.Function.Iterate
import TemplateCompiler.Proofs.Parsing.Failures

/-! # The depth of includes

A template is parsed with the identities of the templates around it, so their number is its
depth. Parsing looks at that number only (`Compiler.parseLevel`), and stops at the bound: one more
level than the bound is never entered (`Compiler.iterate_parseLevel`). Trees are not higher than
the bound, and an error names the includes on the way to the template that it arises in
(`Compiler.include_depth_bounded`).
-/

namespace TemplateCompiler

open MonadAttach (CanReturn)

namespace IncludeTree

mutual

/-- The number of includes on the longest way into a tree. -/
def height : IncludeTree → Nat
  | ⟨_, included⟩ => forestHeight included

/-- The height of a tree that includes the trees of a forest. -/
def forestHeight : List IncludeTree → Nat
  | [] => 0
  | tree :: rest => max (tree.height + 1) (forestHeight rest)

end

theorem forestHeight_append (left right : List IncludeTree) :
    forestHeight (left ++ right) = max (forestHeight left) (forestHeight right) := by
  induction left with
  | nil => simp [forestHeight]
  | cons tree rest ih => simp [forestHeight, ih, Nat.max_assoc]

theorem height_eq (tree : IncludeTree) : tree.height = forestHeight tree.included := by
  cases tree
  rfl

theorem height_withTemplate (tree : IncludeTree) (template : Template) :
    (tree.withTemplate template).height = tree.height := by
  simp [height_eq, withTemplate]

theorem height_addIncluded (tree child : IncludeTree) :
    (tree.addIncluded child).height = max tree.height (child.height + 1) := by
  simp [height_eq, addIncluded, forestHeight_append, forestHeight]

end IncludeTree

/-- What a template is parsed with. -/
structure Call where
  created : Nat
  /-- The identities of the templates around it, the outermost first. -/
  ancestors : List Identity
  settings : Settings
  source : String

namespace Compiler

variable {m : Type → Type} [Monad m]

section Definitions

variable (compiler : Compiler m)

/-- Parsing a template, where those that it includes are parsed in a given way. There is a bound
on the number of templates around one that includes others. -/
def parseLevel (parse : ParseText m) : ParseText m := fun created ancestors =>
  compiler.parseWith
    (if ancestors.length < compiler.emitter.config.maxIncludeDepth then some parse else none)
    created ancestors

/-- Parsing a template at the depth that its ancestors tell. -/
def parseAt : ParseText m := fun created ancestors =>
  compiler.parseWithin (compiler.emitter.config.maxIncludeDepth - ancestors.length)
    created ancestors

/-- Parsing a template. -/
def parseCall (call : Call) : m (Except ParseError IncludeTree) :=
  compiler.parseAt call.created call.ancestors call.settings call.source

variable [MonadAttach m]

/-- A template includes another: a character of its text completes an include directive, the
path of the directive leads to a file, and the text of that file is parsed with the including
template as the innermost ancestor. The bound on depth leaves room for it. -/
inductive Includes (outer : Call) : String → Call → Prop where
  | intro {front back : List Char} {c : Char} {draft next : Draft} {raw text : String}
      {target : IncludeTarget}
      (whole : outer.source.toList = front ++ c :: back)
      (read : CanReturn (compiler.reads (some compiler.parseAt) outer.created outer.ancestors
        outer.settings front) draft)
      (completed : draft.step compiler.emitter.writer outer.ancestors c =
        .ok (next, .inclusion raw))
      (resolved : CanReturn (IncludeTarget.resolve compiler.loader compiler.emitter.config
        next.tree.template.settings raw next.tagStart) (.ok target))
      (bounded : outer.ancestors.length < compiler.emitter.config.maxIncludeDepth)
      (loaded : CanReturn (compiler.loader.read target.file) (.ok text)) :
      Includes outer target.settings.path
        ⟨outer.created + next.tree.size, outer.ancestors ++ [next.tree.template.identity],
          target.settings, text⟩

/-- A way from a template to one that it includes, directly or not, along paths of includes. -/
inductive Nests : Call → List String → Call → Prop where
  | refl (call : Call) : Nests call [] call
  | step {outer mid inner : Call} {path : String} {paths : List String}
      (includes : compiler.Includes outer path mid) (deeper : Nests mid paths inner) :
      Nests outer (path :: paths) inner

end Definitions

/-! ## Levels of parsing -/

section Levels

variable {compiler : Compiler m}

/-- Parsing does not depend on how included templates are parsed at another depth than one below
it. -/
theorem parseWith_congr {parse other : ParseText m} {ancestors : List Identity}
    (same : ∀ created lineage settings source, lineage.length = ancestors.length + 1 →
      parse created lineage settings source = other created lineage settings source)
    (created : Nat) :
    compiler.parseWith (some parse) created ancestors =
      compiler.parseWith (some other) created ancestors := by
  have composes : compiler.compose (some parse) created ancestors =
      compiler.compose (some other) created ancestors := by
    funext parent raw location
    refine bind_congr fun resolved => ?_
    unfold incorporate
    cases resolved with
    | error cause => rfl
    | ok target =>
        refine bind_congr fun reading => ?_
        cases reading with
        | error reason => rfl
        | ok text =>
            dsimp only
            rw [same _ (ancestors ++ [parent.template.identity]) _ _ (by simp)]
  unfold parseWith
  rw [composes]

/-- One level is parsed as it should be where the level below is. -/
theorem parseLevel_eq {parse : ParseText m} {ancestors : List Identity}
    (same : ∀ created lineage settings source, lineage.length = ancestors.length + 1 →
      lineage.length ≤ compiler.emitter.config.maxIncludeDepth →
      parse created lineage settings source = compiler.parseAt created lineage settings source)
    (created : Nat) :
    compiler.parseLevel parse created ancestors = compiler.parseAt created ancestors := by
  unfold parseLevel
  by_cases bounded : ancestors.length < compiler.emitter.config.maxIncludeDepth
  · obtain ⟨levels, left⟩ := Nat.exists_eq_add_of_lt bounded
    have depth : compiler.emitter.config.maxIncludeDepth - ancestors.length = levels + 1 := by
      omega
    rw [if_pos bounded, parseAt, depth, parseWithin]
    refine parseWith_congr (fun created lineage settings source length => ?_) created
    rw [same created lineage settings source length (by omega), parseAt, length, left,
      Nat.add_right_comm, Nat.add_sub_cancel_left]
  · rw [if_neg bounded, parseAt, Nat.sub_eq_zero_of_le (Nat.le_of_not_lt bounded), parseWithin]

/-- **Parsing is the same at every depth**: it looks at the number of ancestors only. -/
theorem parseLevel_parseAt : compiler.parseLevel compiler.parseAt = compiler.parseAt := by
  funext created ancestors
  exact parseLevel_eq (fun _ _ _ _ _ _ => rfl) created

/-- **No level beyond the bound is entered**: however it would be parsed, the result is the
same. -/
theorem iterate_parseLevel (beyond : ParseText m) {levels : Nat} {ancestors : List Identity}
    (bounded : ancestors.length ≤ compiler.emitter.config.maxIncludeDepth)
    (enough : compiler.emitter.config.maxIncludeDepth < ancestors.length + levels)
    (created : Nat) :
    compiler.parseLevel^[levels] beyond created ancestors =
      compiler.parseAt created ancestors := by
  -- With no level left to unfold, there would already be more ancestors than the bound.
  induction levels generalizing ancestors created with
  | zero => omega
  | succ levels ih =>
      rw [Function.iterate_succ_apply']
      refine parseLevel_eq (fun created lineage settings source length below => ?_) created
      rw [ih below (by omega)]

end Levels

section Returns

variable [MonadAttach m] {compiler : Compiler m}

/-! ## Nested templates -/

theorem length_of_includes {outer inner : Call} {path : String}
    (includes : compiler.Includes outer path inner) :
    inner.ancestors.length = outer.ancestors.length + 1 ∧
      inner.ancestors.length ≤ compiler.emitter.config.maxIncludeDepth := by
  cases includes with
  | intro _ _ _ _ bounded _ => exact ⟨List.length_append, by simpa using Nat.succ_le_of_lt bounded⟩

theorem length_of_nests {outer inner : Call} {paths : List String}
    (nests : compiler.Nests outer paths inner) :
    inner.ancestors.length = outer.ancestors.length + paths.length := by
  induction nests with
  | refl => rfl
  | step includes _ ih =>
      rw [ih, (length_of_includes includes).1, List.length_cons]
      omega

theorem bounded_of_nests {outer inner : Call} {paths : List String}
    (nests : compiler.Nests outer paths inner)
    (bounded : outer.ancestors.length ≤ compiler.emitter.config.maxIncludeDepth) :
    inner.ancestors.length ≤ compiler.emitter.config.maxIncludeDepth := by
  induction nests with
  | refl => exact bounded
  | step includes _ ih => exact ih (length_of_includes includes).2

variable [LawfulMonad m] [LawfulMonadAttach m]

/-! ## Trees -/

/-- A tree is not higher than what is above the trees that it includes. -/
theorem height_of_parseWith {bound : Nat} {parse? : Option (ParseText m)}
    (inner : ∀ parse ∈ parse?, ∀ created ancestors settings source tree,
      CanReturn (parse created ancestors settings source) (.ok tree) → tree.height + 1 ≤ bound)
    {created : Nat} {ancestors : List Identity} {settings : Settings} {source : String}
    {tree : IncludeTree}
    (returned : CanReturn (compiler.parseWith parse? created ancestors settings source)
      (.ok tree)) : tree.height ≤ bound := by
  obtain ⟨template, _, returned⟩ := exists_of_parseWith returned
  refine Draft.run_induction (fun tree => tree.height ≤ bound) ?_ ?_ _ _ _ (Nat.zero_le _) returned
  · intro tree template low _
    rwa [IncludeTree.height_withTemplate]
  · intro parent path location tree low composed
    obtain ⟨parse, _, _, child, given, _, _, parsed, adopted⟩ := exists_of_compose composed
    obtain ⟨_, _, _, rfl⟩ := IncludeTree.adopt_eq_ok adopted
    rw [IncludeTree.height_addIncluded, IncludeTree.height_withTemplate]
    exact Nat.max_le_of_le_of_le low (inner parse given _ _ _ _ _ parsed)

theorem height_of_parseWithin {depth created : Nat} {ancestors : List Identity}
    {settings : Settings} {source : String} {tree : IncludeTree}
    (returned : CanReturn (compiler.parseWithin depth created ancestors settings source)
      (.ok tree)) : tree.height ≤ depth := by
  induction depth generalizing created ancestors settings source tree with
  | zero => exact height_of_parseWith (by simp) returned
  | succ depth ih =>
      refine height_of_parseWith ?_ returned
      rintro _ ⟨⟩ created ancestors settings source tree parsed
      exact Nat.succ_le_succ (ih parsed)

/-! ## Errors -/

/-- An error of parsing is direct, that of the bound on depth, or that of an included template. -/
theorem error_of_parseCall {call : Call} {cause : ParseError}
    (returned : CanReturn (compiler.parseCall call) (.error cause)) :
    cause.isDirect = true ∨
      (compiler.emitter.config.maxIncludeDepth ≤ call.ancestors.length ∧
        ∃ path location, cause =
          .includeDepthExceeded path compiler.emitter.config.maxIncludeDepth location) ∨
      ∃ path inner below location, compiler.Includes call path inner ∧
        CanReturn (compiler.parseCall inner) (.error below) ∧
        cause = .includeParse path below location := by
  rw [parseCall, ← parseLevel_parseAt, parseLevel] at returned
  by_cases bounded : call.ancestors.length < compiler.emitter.config.maxIncludeDepth
  · rw [if_pos bounded] at returned
    rcases error_of_parseWith returned with direct |
      ⟨front, c, back, draft, next, raw, whole, read, completed, composed⟩
    · exact .inl direct
    · rcases error_of_compose composed with direct |
        ⟨target, resolved, text, below, loaded, failed, rfl⟩
      · exact .inl direct.direct
      · exact .inr (.inr ⟨_, _, below, _,
          .intro whole read completed resolved bounded loaded, failed, rfl⟩)
  · rw [if_neg bounded] at returned
    rcases error_of_parseWith returned with direct | ⟨_, _, _, _, _, _, _, _, _, composed⟩
    · exact .inl direct
    · rcases error_of_compose composed with direct | ⟨_, _, exceeded⟩
      · exact .inl direct.direct
      · exact .inr (.inl ⟨Nat.le_of_not_lt bounded, _, _, exceeded⟩)

/-- **An error comes from the template that its chain of includes leads to.** -/
theorem exists_nests_of_error {call : Call} {cause : ParseError}
    (returned : CanReturn (compiler.parseCall call) (.error cause)) :
    ∃ inner, compiler.Nests call cause.includeChain inner ∧
      CanReturn (compiler.parseCall inner) (.error cause.rootCause) := by
  -- Only the error of an included template leads on; every other one is its own root.
  induction cause generalizing call with
  | includeParse path below location ih =>
      rcases error_of_parseCall returned with direct | ⟨_, _, _, same⟩ |
        ⟨_, mid, _, _, includes, failed, same⟩
      · cases direct
      · cases same
      · cases same
        obtain ⟨inner, nests, failing⟩ := ih failed
        exact ⟨inner, .step includes nests, failing⟩
  | _ => exact ⟨call, .refl call, returned⟩

/-- **The depth of includes is bounded.** Parsing is the same however templates below the bound
would be parsed, so none is; those that are parsed are as deep as the way of includes to them, and
not deeper than the bound. A tree that is returned is not higher than the bound. An error comes
from the template that its chain of includes leads to; where it is that of the bound, that
template stands at the bound. -/
theorem include_depth_bounded (compiler : Compiler m) (source : String) (settings : Settings) :
    let bound := compiler.emitter.config.maxIncludeDepth
    let top : Call := ⟨0, [], settings, source⟩
    let parsed := compiler.parse source settings
    (∀ beyond, compiler.parseLevel^[bound + 1] beyond 0 [] settings source = parsed) ∧
    (∀ paths inner, compiler.Nests top paths inner →
      inner.ancestors.length = paths.length ∧ paths.length ≤ bound) ∧
    (∀ tree, CanReturn parsed (.ok tree) → tree.height ≤ bound) ∧
    ∀ cause, CanReturn parsed (.error cause) →
      cause.includeChain.length ≤ bound ∧
      (∃ inner, compiler.Nests top cause.includeChain inner ∧
        CanReturn (compiler.parseCall inner) (.error cause.rootCause)) ∧
      ∀ path limit location, cause.rootCause = .includeDepthExceeded path limit location →
        limit = bound ∧ cause.includeChain.length = bound := by
  intro bound top parsed
  have nested : ∀ paths inner, compiler.Nests top paths inner →
      inner.ancestors.length = paths.length ∧ paths.length ≤ bound := by
    intro paths inner nests
    have length : inner.ancestors.length = paths.length := by
      simpa [top] using length_of_nests nests
    exact ⟨length, length ▸ bounded_of_nests nests (Nat.zero_le _)⟩
  refine ⟨fun beyond => ?_, nested, fun tree returned => height_of_parseWithin returned,
    fun cause returned => ?_⟩
  · rw [iterate_parseLevel beyond (Nat.zero_le _) (by simp [bound])]
    rfl
  · have failing : CanReturn (compiler.parseCall top) (.error cause) := returned
    obtain ⟨inner, nests, failed⟩ := exists_nests_of_error failing
    obtain ⟨length, low⟩ := nested _ _ nests
    refine ⟨low, ⟨inner, nests, failed⟩, fun path limit location exceeded => ?_⟩
    rw [exceeded] at failed
    rcases error_of_parseCall failed with direct | ⟨high, _, _, same⟩ | ⟨_, _, _, _, _, _, same⟩
    · cases direct
    · cases same
      exact ⟨rfl, Nat.le_antisymm low (length ▸ high)⟩
    · cases same

/-- A template that includes itself fails at the bound, and one that includes another returns. -/
theorem include_depth_bounded_page :
    let emitter := { Emitter.default .cSharp with config := { maxIncludeDepth := 2 } }
    let compiler := { Compiler.ofTexts .cSharp
      [("/loop.blade", "<%# 'loop' %>"), ("/leaf.blade", "x")] with emitter := emitter }
    let settings : Settings := ⟨"page.blade", "/", true, false⟩
    (∃ cause, CanReturn (compiler.parse "<%# 'loop' %>" settings) (.error cause) ∧
      cause.rootCause = .includeDepthExceeded "loop.blade" 2 ⟨1, 2⟩ ∧
      cause.includeChain.length = 2) ∧
    ∃ tree, CanReturn (compiler.parse "<%# 'leaf' %>" settings) (.ok tree) ∧ tree.height ≤ 2 := by
  intro emitter compiler settings
  obtain ⟨_, _, _, errors⟩ := include_depth_bounded compiler "<%# 'loop' %>" settings
  obtain ⟨_, _, trees, _⟩ := include_depth_bounded compiler "<%# 'leaf' %>" settings
  refine ⟨?_, ?_⟩
  · obtain ⟨cause, failed, exceeded⟩ := exists_canReturn_of_fails
      (compiler.parse "<%# 'loop' %>" settings)
      (fun cause => cause.rootCause == .includeDepthExceeded "loop.blade" 2 ⟨1, 2⟩)
      (by decide +kernel)
    have root := beq_iff_eq.mp exceeded
    exact ⟨cause, failed, root, ((errors cause failed).2.2 _ _ _ root).2⟩
  · obtain ⟨tree, parsed⟩ := Option.isSome_iff_exists.mp (show (Except.toOption
      (compiler.parse "<%# 'leaf' %>" settings)).isSome = true by decide +kernel)
    exact ⟨tree, canReturn_of_toOption parsed, trees tree (canReturn_of_toOption parsed)⟩

end Returns

end Compiler

end TemplateCompiler
