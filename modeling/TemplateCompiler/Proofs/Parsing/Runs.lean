import TemplateCompiler.Proofs.Parsing.Edits

/-! # What holds of every tree that is parsed

`MonadAttach.CanReturn action value` says that an action may return a value; the loader
of a compiler decides which values its actions return. A property of trees that new
templates have, that edits keep and that taking included trees in keeps is a
`Compiler.Invariant`: it holds of every tree that a parse can return
(`Compiler.Invariant.of_parse`), whatever the loader answers, whatever the texts say and
however deep includes go.
-/

namespace TemplateCompiler

open MonadAttach (CanReturn)

/-- A compiler of texts in memory. Its ids count the templates in strokes. -/
def Compiler.ofTexts (target : Target) (texts : List (String × String)) : Compiler Id where
  emitter := Emitter.default target
  loader := MemoryStore.loader { entries := texts }
  ids := fun created => String.ofList (List.replicate created 'i')

theorem eq_ok_of_toOption {ε α : Type} {result : Except ε α} {value : α}
    (some : result.toOption = some value) : result = .ok value := by
  cases result with
  | error cause => cases some
  | ok found => rw [Option.some.inj some]

/-- An action without effects returns the result that there is. -/
theorem canReturn_of_toOption {ε α : Type} {action : Id (Except ε α)} {value : α}
    (some : Except.toOption action = some value) : CanReturn action (.ok value) :=
  eq_ok_of_toOption some

/-- An action without effects returns the error that there is. -/
theorem exists_canReturn_of_fails {ε α : Type} (action : Id (Except ε α)) (expected : ε → Bool)
    (fails : (match action.run with
      | .error cause => expected cause
      | .ok _ => false) = true) :
    ∃ cause, CanReturn action (.error cause) ∧ expected cause = true := by
  change Except ε α at action
  cases action with
  | error cause => exact ⟨cause, rfl, fails⟩
  | ok value => cases fails

/-- An action without effects is the value that it returns. -/
theorem eq_pure_of_canReturn {α : Type} {action : Id α} {value : α}
    (returned : CanReturn action value) : action = pure value :=
  returned

variable {m : Type → Type} [Monad m] [LawfulMonad m] [MonadAttach m] [LawfulMonadAttach m]

/-- What a sequence returns comes from something that its first action returns. -/
theorem exists_canReturn_of_bind {α β : Type} {action : m α} {next : α → m β} {result : β}
    (returned : CanReturn (action >>= next) result) :
    ∃ value, CanReturn action value ∧ CanReturn (next value) result :=
  LawfulMonadAttach.canReturn_bind_imp' returned

/-- A pure action returns its value only. -/
theorem eq_of_canReturn_pure {α : Type} {value result : α}
    (returned : CanReturn (pure value : m α) result) : value = result :=
  LawfulMonadAttach.eq_of_canReturn_pure returned

/-- Sequences are equal where they continue equally with all that may be returned. -/
theorem bind_congr_of_canReturn {α β : Type} {action : m α} {first second : α → m β}
    (same : ∀ value, CanReturn action value → first value = second value) :
    action >>= first = action >>= second := by
  rw [← WeaklyLawfulMonadAttach.map_attach (x := action), bind_map_left, bind_map_left]
  exact bind_congr fun value => same value.1 value.2

namespace Draft

variable {writer : Writer} {ancestors : List Identity}
  {compose : IncludeTree → String → Location → m (Except ParseError IncludeTree)}

/-- A run returns what holds of its draft, where edits and the way to include keep it. -/
theorem run_induction (holds : IncludeTree → Prop)
    (edit : ∀ tree template, holds tree → tree.Edit ancestors template →
      holds (tree.withTemplate template))
    (composed : ∀ parent path location tree, holds parent →
      CanReturn (compose parent path location) (.ok tree) → holds tree)
    (draft : Draft) (text : List Char) (tree : IncludeTree) (valid : holds draft.tree)
    (returned : CanReturn (run writer ancestors compose draft text) (.ok tree)) :
    holds tree := by
  induction text generalizing draft with
  | nil =>
      obtain ⟨template, edited, rfl⟩ :=
        finish_edited ancestors (eq_of_canReturn_pure returned)
      exact edit _ _ valid edited
  | cons c rest ih =>
      unfold run at returned
      cases stepped : draft.step writer ancestors c with
      | error cause =>
          rw [stepped] at returned
          cases eq_of_canReturn_pure returned
      | ok result =>
          obtain ⟨next, event⟩ := result
          obtain ⟨⟨template, edited, after⟩, _⟩ := step_edited stepped
          have kept : holds next.tree := after ▸ edit _ _ valid edited
          rw [stepped] at returned
          cases event with
          | none => exact ih next kept returned
          | engine name => exact ih next kept returned
          | inclusion path =>
              obtain ⟨composition, reached, continued⟩ := exists_canReturn_of_bind returned
              cases composition with
              | error cause => cases eq_of_canReturn_pure continued
              | ok included => exact ih _ (composed _ _ _ _ kept reached) continued

/-- Runs are equal where includes are, in all trees with a property that edits and includes
keep. -/
theorem run_congr {other : IncludeTree → String → Location → m (Except ParseError IncludeTree)}
    (holds : IncludeTree → Prop)
    (edit : ∀ tree template, holds tree → tree.Edit ancestors template →
      holds (tree.withTemplate template))
    (composed : ∀ parent path location tree, holds parent →
      CanReturn (compose parent path location) (.ok tree) → holds tree)
    (same : ∀ parent path location, holds parent →
      compose parent path location = other parent path location)
    (draft : Draft) (text : List Char) (valid : holds draft.tree) :
    run writer ancestors compose draft text = run writer ancestors other draft text := by
  induction text generalizing draft with
  | nil => rfl
  | cons c rest ih =>
      unfold run
      cases stepped : draft.step writer ancestors c with
      | error cause => rfl
      | ok result =>
          obtain ⟨next, event⟩ := result
          obtain ⟨⟨template, edited, after⟩, _⟩ := step_edited stepped
          have kept : holds next.tree := after ▸ edit _ _ valid edited
          cases event with
          | none => exact ih next kept
          | engine name => exact ih next kept
          | inclusion path =>
              dsimp only
              rw [← same next.tree path next.tagStart kept]
              refine bind_congr_of_canReturn fun composition reached => ?_
              cases composition with
              | error cause => rfl
              | ok included => exact ih _ (composed _ _ _ _ kept reached)

end Draft

/-- Preparing a template writes dependencies and external code only. -/
theorem Emitter.prepare_eq (emitter : Emitter) (template : Template) :
    ∃ dependencies externalCode, emitter.prepare template =
      { template with dependencies := dependencies, externalCode := externalCode } := by
  unfold prepare
  split
  · exact ⟨_, _, rfl⟩
  · exact ⟨_, template.externalCode, by simp only [Template.addDependency]; rfl⟩
  · split
    · exact ⟨template.dependencies, template.externalCode, rfl⟩
    · exact ⟨_, _, by simp only [Template.addDependency, Template.addExternalCode]; rfl⟩
  · exact ⟨_, template.externalCode, by simp only [Template.addDependency]; rfl⟩

/-- The engine name of every target is an identifier. -/
theorem Emitter.accepts_name (emitter : Emitter) : Grammar.plain.accepts emitter.name = true := by
  cases target : emitter.target <;> simp only [name, target] <;> decide

namespace Compiler

variable {compiler : Compiler m}

/-- An empty template bound to the engine, before the target prepares it. -/
def boundTemplate {m : Type → Type} (compiler : Compiler m) (settings : Settings) (id : String) :
    Template :=
  { Template.empty settings compiler.emitter.moduleGrammar
      compiler.emitter.config.defaultModule? id with
    engineSlot := .explicit compiler.emitter.name }

omit [Monad m] [LawfulMonad m] [MonadAttach m] [LawfulMonadAttach m] in
/-- There is a new template for all settings: the bound one, prepared by the target. -/
theorem newTemplate_eq (settings : Settings) (id : String) :
    compiler.newTemplate settings id =
      .ok (compiler.emitter.prepare (compiler.boundTemplate settings id)) := by
  simp only [newTemplate, Template.declareEngine, compiler.emitter.accepts_name]
  rfl

omit [Monad m] [LawfulMonad m] [MonadAttach m] [LawfulMonadAttach m] in
/-- A new template has the settings it is created with. -/
theorem newTemplate_settings {settings : Settings} {id : String} {template : Template}
    (new : compiler.newTemplate settings id = .ok template) : template.settings = settings := by
  rw [newTemplate_eq] at new
  cases new
  obtain ⟨_, _, prepared⟩ :=
    compiler.emitter.prepare_eq (compiler.boundTemplate settings id)
  rw [prepared]
  rfl

/-- An include that succeeds has resolved its path, read and parsed the text there, and
taken the result in. -/
theorem exists_of_compose {parse? : Option (ParseText m)} {created : Nat}
    {ancestors : List Identity} {parent tree : IncludeTree} {raw : String} {location : Location}
    (returned : CanReturn (compiler.compose parse? created ancestors parent raw location)
      (.ok tree)) :
    ∃ parse target text child, parse? = some parse ∧
      CanReturn (IncludeTarget.resolve compiler.loader compiler.emitter.config
        parent.template.settings raw location) (.ok target) ∧
      CanReturn (compiler.loader.read target.file) (.ok text) ∧
      CanReturn (parse (created + parent.size) (ancestors ++ [parent.template.identity])
        target.settings text) (.ok child) ∧
      parent.adopt compiler.emitter ancestors child location = .ok tree := by
  obtain ⟨resolved, resolution, returned⟩ := exists_canReturn_of_bind returned
  unfold incorporate at returned
  cases resolved with
  | error cause => cases eq_of_canReturn_pure returned
  | ok target =>
      cases parse? with
      | none => cases eq_of_canReturn_pure returned
      | some parse =>
          obtain ⟨reading, read, returned⟩ := exists_canReturn_of_bind returned
          cases reading with
          | error reason => cases eq_of_canReturn_pure returned
          | ok text =>
              obtain ⟨parsing, parsed, returned⟩ := exists_canReturn_of_bind returned
              cases parsing with
              | error cause => cases eq_of_canReturn_pure returned
              | ok child =>
                  exact ⟨parse, target, text, child, rfl, resolution, read, parsed,
                    eq_of_canReturn_pure returned⟩

omit [MonadAttach m] [LawfulMonadAttach m] in
/-- An include takes in the tree that parsing the text at its target returns. -/
theorem compose_eq {parse : ParseText m} {created : Nat} {ancestors : List Identity}
    {parent child : IncludeTree} {raw text : String} {location : Location} {target : IncludeTarget}
    (resolved : IncludeTarget.resolve compiler.loader compiler.emitter.config
      parent.template.settings raw location = pure (.ok target))
    (loaded : compiler.loader.read target.file = pure (.ok text))
    (parsed : parse (created + parent.size) (ancestors ++ [parent.template.identity])
      target.settings text = pure (.ok child)) :
    compiler.compose (some parse) created ancestors parent raw location =
      pure (parent.adopt compiler.emitter ancestors child location) := by
  simp [compose, incorporate, resolved, loaded, parsed]

/-- Parsing starts from a new template. -/
theorem exists_of_parseWith {parse? : Option (ParseText m)} {created : Nat}
    {ancestors : List Identity} {settings : Settings} {source : String} {tree : IncludeTree}
    (returned : CanReturn (compiler.parseWith parse? created ancestors settings source)
      (.ok tree)) :
    ∃ template, compiler.newTemplate settings (compiler.ids created) = .ok template ∧
      CanReturn (Draft.run compiler.emitter.writer ancestors
        (compiler.compose parse? created ancestors) (Draft.start template) source.toList)
        (.ok tree) := by
  unfold parseWith at returned
  cases result : compiler.newTemplate settings (compiler.ids created) with
  | error cause =>
      rw [result] at returned
      cases eq_of_canReturn_pure returned
  | ok template =>
      rw [result] at returned
      exact ⟨template, rfl, returned⟩

/-- The parsed template has the settings it is parsed with. -/
theorem settings_of_parseWith {parse? : Option (ParseText m)} {created : Nat}
    {ancestors : List Identity} {settings : Settings} {source : String} {tree : IncludeTree}
    (returned : CanReturn (compiler.parseWith parse? created ancestors settings source)
      (.ok tree)) : tree.template.settings = settings := by
  obtain ⟨template, new, returned⟩ := exists_of_parseWith returned
  have start : (Draft.start template).tree.template.settings = settings :=
    newTemplate_settings new
  refine Draft.run_induction (fun tree => tree.template.settings = settings)
    ?_ ?_ _ _ _ start returned
  · intro tree template same edit
    exact edit.settings_eq.trans same
  · intro parent path location tree same composed
    obtain ⟨_, _, _, _, _, _, _, _, adopted⟩ := exists_of_compose composed
    obtain ⟨_, _, _, rfl⟩ := IncludeTree.adopt_eq_ok adopted
    exact same

theorem settings_of_parseWithin {depth created : Nat} {ancestors : List Identity}
    {settings : Settings} {source : String} {tree : IncludeTree}
    (returned : CanReturn (compiler.parseWithin depth created ancestors settings source)
      (.ok tree)) : tree.template.settings = settings := by
  cases depth <;> exact settings_of_parseWith returned

/-- A property that new templates have, that edits keep, and that taking in an included
tree keeps. -/
structure Invariant (compiler : Compiler m) (holds : IncludeTree → Prop) : Prop where
  fresh : ∀ settings created template,
    compiler.newTemplate settings (compiler.ids created) = .ok template → holds ⟨template, []⟩
  edit : ∀ ancestors tree template, holds tree → tree.Edit ancestors template →
    holds (tree.withTemplate template)
  adopt : ∀ ancestors parent child tree raw location target, holds parent → holds child →
    CanReturn (IncludeTarget.resolve compiler.loader compiler.emitter.config
      parent.template.settings raw location) (.ok target) →
    child.template.settings = target.settings →
    parent.adopt compiler.emitter ancestors child location = .ok tree → holds tree

namespace Invariant

variable {holds : IncludeTree → Prop}

theorem of_parseWith (invariant : compiler.Invariant holds) {parse? : Option (ParseText m)}
    (inner : ∀ parse ∈ parse?, ∀ created ancestors settings source tree,
      CanReturn (parse created ancestors settings source) (.ok tree) →
        holds tree ∧ tree.template.settings = settings)
    {created : Nat} {ancestors : List Identity} {settings : Settings} {source : String}
    {tree : IncludeTree}
    (returned : CanReturn (compiler.parseWith parse? created ancestors settings source)
      (.ok tree)) : holds tree := by
  obtain ⟨template, new, returned⟩ := exists_of_parseWith returned
  refine Draft.run_induction holds (invariant.edit ancestors) ?_ _ _ _
    (invariant.fresh _ _ _ new) returned
  intro parent path location tree valid composed
  obtain ⟨parse, target, text, child, given, resolved, _, parsed, adopted⟩ :=
    exists_of_compose composed
  obtain ⟨childValid, settings⟩ := inner parse given _ _ _ _ _ parsed
  exact invariant.adopt _ _ _ _ _ _ _ valid childValid resolved settings adopted

/-- At every depth, an invariant holds of what parsing returns. -/
theorem of_parseWithin (invariant : compiler.Invariant holds) (depth : Nat) {created : Nat}
    {ancestors : List Identity} {settings : Settings} {source : String} {tree : IncludeTree}
    (returned : CanReturn (compiler.parseWithin depth created ancestors settings source)
      (.ok tree)) : holds tree := by
  induction depth generalizing created ancestors settings source tree with
  | zero => exact invariant.of_parseWith (by simp) returned
  | succ depth ih =>
      refine invariant.of_parseWith ?_ returned
      rintro parse given created ancestors settings source tree parsed
      cases given
      exact ⟨ih parsed, settings_of_parseWithin parsed⟩

/-- **Invariants hold of parsed trees**, whatever is parsed and wherever includes lead. -/
theorem of_parse (invariant : compiler.Invariant holds) {source : String} {settings : Settings}
    {tree : IncludeTree} (returned : CanReturn (compiler.parse source settings) (.ok tree)) :
    holds tree :=
  invariant.of_parseWithin _ returned

omit [LawfulMonad m] [LawfulMonadAttach m] in
/-- A property of single templates that new ones have, that edits keep, and that does not
look at dependencies and external code, is an invariant of all templates of a tree. -/
theorem of_templates {valid : Template → Prop}
    (fresh : ∀ settings created template,
      compiler.newTemplate settings (compiler.ids created) = .ok template → valid template)
    (edit : ∀ ancestors (tree : IncludeTree) template, valid tree.template →
      tree.Edit ancestors template → valid template)
    (enriched : ∀ template dependencies externalCode, valid template →
      valid { template with dependencies := dependencies, externalCode := externalCode }) :
    compiler.Invariant fun tree => ∀ template ∈ tree.templates, valid template where
  fresh := by
    intro settings created template new member inside
    rw [List.mem_singleton.mp inside]
    exact fresh settings created template new
  edit := by
    intro ancestors tree template all edited member inside
    rw [IncludeTree.templates_eq, List.mem_cons] at inside
    rcases inside with rfl | included
    · exact edit ancestors tree _ (all _ (by simp [IncludeTree.templates_eq])) edited
    · exact all _ (by rw [IncludeTree.templates_eq]; exact List.mem_cons_of_mem _ included)
  adopt := by
    intro ancestors parent child tree raw location target all inner _ _ adopted member inside
    obtain ⟨_, _, _, rfl⟩ := IncludeTree.adopt_eq_ok adopted
    rw [IncludeTree.templates_addIncluded, List.mem_append, IncludeTree.templates_eq,
      List.mem_cons] at inside
    rcases inside with (rfl | included) | below
    · exact enriched _ _ _ (all _ (by simp [IncludeTree.templates_eq]))
    · exact all _ (by rw [IncludeTree.templates_eq]; exact List.mem_cons_of_mem _ included)
    · exact inner _ below

end Invariant

end Compiler

end TemplateCompiler
