import TemplateCompiler.Proofs.Resolution

/-! # Parsing with a record of what is read

`Compiler.recording` is a compiler whose loader also writes down which paths it is asked to read.
Nothing else changes: without the record, its parses are those of the compiler
(`Compiler.mirrors_parse`). A parse that returns a tree has read one file for each included
template, in the order of the templates of the tree (`Compiler.record_of_parse`).
-/

namespace TemplateCompiler

open MonadAttach (CanReturn)

/-- The file that a template with the settings is read from. -/
def Settings.file (settings : Settings) : String := Path.join settings.root settings.path

namespace IncludeTree

/-- The files of the included templates, a template before those it includes. -/
def files (tree : IncludeTree) : List String :=
  tree.includedTemplates.map fun template => template.settings.file

@[simp] theorem files_withTemplate (tree : IncludeTree) (template : Template) :
    (tree.withTemplate template).files = tree.files := rfl

theorem files_addIncluded (tree child : IncludeTree) :
    (tree.addIncluded child).files =
      tree.files ++ child.template.settings.file :: child.files := by
  rw [files, includedTemplates, addIncluded, forestTemplates_append, forestTemplates,
    forestTemplates, List.append_nil, templates_eq, List.map_append, List.map_cons]
  rfl

end IncludeTree

variable {m : Type → Type} [Monad m]

/-- The loader with a record of the paths that it is asked to read, the latest at the end. -/
def Loader.recording (loader : Loader m) : Loader (StateT (List String) m) where
  isFile path := liftM (loader.isFile path)
  isDirectory path := liftM (loader.isDirectory path)
  read path := do
    modify (· ++ [path])
    loader.read path

/-- The compiler with a record of the paths that are read. -/
def Compiler.recording (compiler : Compiler m) : Compiler (StateT (List String) m) where
  emitter := compiler.emitter
  loader := compiler.loader.recording
  ids := compiler.ids

/-- A recorded action is another action where its record is left out. -/
def Mirrors {α : Type} (recorded : StateT (List String) m α) (action : m α) : Prop :=
  ∀ record, Prod.fst <$> recorded.run record = action

section Recorded

variable [LawfulMonad m] {α β : Type}

theorem run_read (loader : Loader m) (path : String) (record : List String) :
    (loader.recording.read path).run record =
      (fun reading => (reading, record ++ [path])) <$> loader.read path := by
  simp [Loader.recording]

/-! ## Records left out -/

theorem Mirrors.pure (value : α) : Mirrors (m := m) (pure value) (pure value) :=
  fun record => map_pure Prod.fst (value, record)

theorem Mirrors.bind {recorded : StateT (List String) m α} {action : m α}
    {recordedNext : α → StateT (List String) m β} {next : α → m β} (first : Mirrors recorded action)
    (second : ∀ value, Mirrors (recordedNext value) (next value)) :
    Mirrors (recorded >>= recordedNext) (action >>= next) := by
  intro record
  rw [StateT.run_bind, map_bind, ← first record, bind_map_left]
  exact bind_congr fun result => second result.1 result.2

theorem Mirrors.lift (action : m α) : Mirrors (liftM action) action := fun record => by
  simp

theorem mirrors_read (loader : Loader m) (path : String) :
    Mirrors (loader.recording.read path) (loader.read path) := fun record => by
  simp [run_read]

namespace IncludeTarget

theorem findFile_recording (loader : Loader m) (config : Config) (root relative : String) :
    findFile loader.recording config root relative =
      liftM (findFile loader config root relative) := by
  simp only [findFile, Loader.recording, liftM_bind, liftM_pure, apply_ite liftM]

/-- Nothing is read to find out what an include points to. -/
theorem resolve_recording (loader : Loader m) (config : Config) (including : Settings)
    (raw : String) (location : Location) :
    resolve loader.recording config including raw location =
      liftM (resolve loader config including raw location) := by
  unfold resolve
  cases normalized config including raw location with
  | error cause => simp
  | ok base =>
      simp only [findFile_recording, liftM_bind]
      refine bind_congr fun found => ?_
      cases found <;> simp

end IncludeTarget

theorem Draft.mirrors_run {writer : Writer} {ancestors : List Identity}
    {recorded : IncludeTree → String → Location →
      StateT (List String) m (Except ParseError IncludeTree)}
    {compose : IncludeTree → String → Location → m (Except ParseError IncludeTree)}
    (composes : ∀ parent raw location,
      Mirrors (recorded parent raw location) (compose parent raw location))
    (draft : Draft) (text : List Char) :
    Mirrors (run writer ancestors recorded draft text)
      (run writer ancestors compose draft text) := by
  induction text generalizing draft with
  | nil => exact .pure _
  | cons c rest ih =>
      unfold run
      cases draft.step writer ancestors c with
      | error cause => exact .pure _
      | ok result =>
          obtain ⟨next, event⟩ := result
          cases event with
          | none => exact ih next
          | engine name => exact ih next
          | inclusion path =>
              refine (composes _ _ _).bind fun composition => ?_
              cases composition with
              | error cause => exact .pure _
              | ok tree => exact ih _

namespace Compiler

variable {compiler : Compiler m}

/-- Ways to parse a text, one of which records what the other reads. -/
def MirrorsText (recorded : ParseText (StateT (List String) m)) (parse : ParseText m) : Prop :=
  ∀ created ancestors settings source,
    Mirrors (recorded created ancestors settings source) (parse created ancestors settings source)

/-- An include is resolved before anything is read. -/
theorem compose_recording (parse? : Option (ParseText (StateT (List String) m))) (created : Nat)
    (ancestors : List Identity) (parent : IncludeTree) (raw : String) (location : Location) :
    compiler.recording.compose parse? created ancestors parent raw location =
      liftM (IncludeTarget.resolve compiler.loader compiler.emitter.config
          parent.template.settings raw location) >>=
        compiler.recording.incorporate parse? created ancestors parent location := by
  rw [← IncludeTarget.resolve_recording]
  rfl

theorem mirrors_compose {recorded? : Option (ParseText (StateT (List String) m))}
    {parse? : Option (ParseText m)} (mirrors : Option.Rel MirrorsText recorded? parse?)
    (created : Nat) (ancestors : List Identity) (parent : IncludeTree) (raw : String)
    (location : Location) :
    Mirrors (compiler.recording.compose recorded? created ancestors parent raw location)
      (compiler.compose parse? created ancestors parent raw location) := by
  rw [compose_recording]
  refine (Mirrors.lift _).bind fun resolved => ?_
  unfold incorporate
  cases resolved with
  | error cause => exact .pure _
  | ok target =>
      cases mirrors with
      | none => exact .pure _
      | some mirrors =>
          refine (mirrors_read compiler.loader target.file).bind fun reading => ?_
          cases reading with
          | error reason => exact .pure _
          | ok text =>
              refine (mirrors _ _ _ _).bind fun parsing => ?_
              cases parsing with
              | error cause => exact .pure _
              | ok child => exact .pure _

theorem mirrors_parseWith {recorded? : Option (ParseText (StateT (List String) m))}
    {parse? : Option (ParseText m)} (mirrors : Option.Rel MirrorsText recorded? parse?) :
    MirrorsText (compiler.recording.parseWith recorded?) (compiler.parseWith parse?) := by
  intro created ancestors settings source
  rw [parseWith, parseWith, newTemplate_eq, newTemplate_eq]
  exact Draft.mirrors_run (mirrors_compose mirrors created ancestors) _ _

theorem mirrors_parseWithin (depth : Nat) :
    MirrorsText (compiler.recording.parseWithin depth) (compiler.parseWithin depth) := by
  induction depth with
  | zero => exact mirrors_parseWith .none
  | succ depth ih => exact mirrors_parseWith (.some ih)

/-- **Recording changes nothing else.** -/
theorem mirrors_parse (compiler : Compiler m) (source : String) (settings : Settings) :
    Mirrors (compiler.recording.parse source settings) (compiler.parse source settings) :=
  mirrors_parseWithin _ _ _ _ _

end Compiler

/-! ## What is recorded -/

section Returns

variable [MonadAttach m] [LawfulMonadAttach m] {record after : List String}

theorem exists_run_of_bind {action : StateT (List String) m α}
    {next : α → StateT (List String) m β} {result : β}
    (returned : CanReturn ((action >>= next).run record) (result, after)) :
    ∃ value mid, CanReturn (action.run record) (value, mid) ∧
      CanReturn ((next value).run mid) (result, after) := by
  rw [StateT.run_bind] at returned
  obtain ⟨⟨value, mid⟩, acted, returned⟩ := exists_canReturn_of_bind returned
  exact ⟨value, mid, acted, returned⟩

theorem eq_of_run_pure {value result : α}
    (returned : CanReturn ((pure value : StateT (List String) m α).run record) (result, after)) :
    value = result ∧ record = after :=
  Prod.mk.inj (eq_of_canReturn_pure returned)

theorem of_run_lift {action : m α} {result : α}
    (returned : CanReturn ((liftM action : StateT (List String) m α).run record)
      (result, after)) : CanReturn action result ∧ record = after := by
  have mapped : CanReturn ((fun value => (value, record)) <$> action) (result, after) := by
    simpa using returned
  obtain ⟨value, acted, same⟩ := LawfulMonadAttach.canReturn_map_imp' mapped
  obtain ⟨rfl, rfl⟩ := Prod.mk.inj same
  exact ⟨acted, rfl⟩

theorem of_run_read {loader : Loader m} {path : String} {reading : Except String String}
    (returned : CanReturn ((loader.recording.read path).run record) (reading, after)) :
    after = record ++ [path] := by
  rw [run_read] at returned
  obtain ⟨_, _, same⟩ := LawfulMonadAttach.canReturn_map_imp' returned
  exact (Prod.mk.inj same).2.symm

/-- A recorded action that returns a tree reads the files that the tree has behind those of
another one. -/
def ReadsBehind (before : IncludeTree)
    (action : StateT (List String) m (Except ParseError IncludeTree)) : Prop :=
  ∀ record tree after, CanReturn (action.run record) (.ok tree, after) →
    ∃ more, tree.files = before.files ++ more ∧ after = record ++ more

/-- **A run reads the files of the tree that it returns** behind those of the draft it starts
from, where composing an include does so. -/
theorem Draft.readsBehind_run {writer : Writer} {ancestors : List Identity}
    {compose : IncludeTree → String → Location →
      StateT (List String) m (Except ParseError IncludeTree)}
    (composes : ∀ parent raw location, ReadsBehind parent (compose parent raw location))
    (draft : Draft) (text : List Char) :
    ReadsBehind draft.tree (run writer ancestors compose draft text) := by
  intro record tree after returned
  induction text generalizing draft record with
  | nil =>
      obtain ⟨finished, rfl⟩ := eq_of_run_pure returned
      obtain ⟨template, _, rfl⟩ := finish_edited ancestors finished
      exact ⟨[], by simp, by simp⟩
  | cons c rest ih =>
      unfold run at returned
      cases stepped : draft.step writer ancestors c with
      | error cause =>
          rw [stepped] at returned
          cases (eq_of_run_pure returned).1
      | ok result =>
          obtain ⟨next, event⟩ := result
          obtain ⟨⟨template, _, edited⟩, _⟩ := step_edited stepped
          have kept : next.tree.files = draft.tree.files := by
            rw [edited, IncludeTree.files_withTemplate]
          rw [stepped] at returned
          rw [← kept]
          cases event with
          | none => exact ih next record returned
          | engine name => exact ih next record returned
          | inclusion path =>
              obtain ⟨composition, mid, composed, returned⟩ := exists_run_of_bind returned
              cases composition with
              | error cause => cases (eq_of_run_pure returned).1
              | ok included =>
                  obtain ⟨first, files, rfl⟩ := composes _ _ _ _ _ _ composed
                  obtain ⟨second, behind, rfl⟩ := ih { next with tree := included } _ returned
                  have whole : tree.files = next.tree.files ++ (first ++ second) := by
                    rw [behind, ← List.append_assoc, ← files]
                  exact ⟨first ++ second, whole, List.append_assoc _ _ _⟩

namespace Compiler

variable {compiler : Compiler m} {parse? : Option (ParseText (StateT (List String) m))}

/-- A way to parse a text that reads the files of the trees that it returns, and gives them their
settings. -/
def ReadsFiles (parse : ParseText (StateT (List String) m)) : Prop :=
  ∀ created ancestors settings source record tree after,
    CanReturn ((parse created ancestors settings source).run record) (.ok tree, after) →
      tree.template.settings = settings ∧ after = record ++ tree.files

/-- An include reads its own file and then those of the templates below it. -/
theorem readsBehind_compose (reads : ∀ parse ∈ parse?, ReadsFiles parse) (created : Nat)
    (ancestors : List Identity) (parent : IncludeTree) (raw : String) (location : Location) :
    ReadsBehind parent
      (compiler.recording.compose parse? created ancestors parent raw location) := by
  intro record tree after returned
  rw [compose_recording] at returned
  obtain ⟨resolved, mid, resolution, returned⟩ := exists_run_of_bind returned
  obtain ⟨resolves, rfl⟩ := of_run_lift resolution
  unfold incorporate at returned
  cases resolved with
  | error cause => cases (eq_of_run_pure returned).1
  | ok target =>
      have file := IncludeTarget.file_of_resolve resolves
      cases parse? with
      | none => cases (eq_of_run_pure returned).1
      | some parse =>
          obtain ⟨reading, mid, read, returned⟩ := exists_run_of_bind returned
          cases of_run_read read
          cases reading with
          | error reason => cases (eq_of_run_pure returned).1
          | ok text =>
              obtain ⟨parsing, mid, parsed, returned⟩ := exists_run_of_bind returned
              cases parsing with
              | error cause => cases (eq_of_run_pure returned).1
              | ok child =>
                  obtain ⟨adopted, rfl⟩ := eq_of_run_pure returned
                  obtain ⟨_, _, _, rfl⟩ := IncludeTree.adopt_eq_ok adopted
                  obtain ⟨settings, rfl⟩ := reads parse rfl _ _ _ _ _ _ _ parsed
                  have same : child.template.settings.file = target.file := by
                    rw [settings, file]
                    rfl
                  refine ⟨child.template.settings.file :: child.files, ?_, ?_⟩
                  · rw [IncludeTree.files_addIncluded, IncludeTree.files_withTemplate]
                  · rw [same]
                    simp

theorem readsFiles_parseWith (reads : ∀ parse ∈ parse?, ReadsFiles parse) :
    ReadsFiles (compiler.recording.parseWith parse?) := by
  intro created ancestors settings source record tree after returned
  have possible : CanReturn (compiler.recording.parseWith parse? created ancestors settings source)
      (.ok tree) := ⟨record, after, returned⟩
  refine ⟨settings_of_parseWith possible, ?_⟩
  rw [parseWith, newTemplate_eq] at returned
  obtain ⟨more, files, rfl⟩ := Draft.readsBehind_run
    (readsBehind_compose reads created ancestors) _ _ _ _ _ returned
  rw [files]
  rfl

theorem readsFiles_parseWithin (depth : Nat) :
    ReadsFiles (compiler.recording.parseWithin depth) := by
  induction depth with
  | zero => exact readsFiles_parseWith (by simp)
  | succ depth ih => exact readsFiles_parseWith (by simpa using ih)

/-- **A parse that returns a tree has read the files of the included templates.** -/
theorem record_of_parse {source : String} {settings : Settings} {tree : IncludeTree}
    (returned : CanReturn ((compiler.recording.parse source settings).run record)
      (.ok tree, after)) : after = record ++ tree.files :=
  (readsFiles_parseWithin _ _ _ _ _ _ _ _ returned).2

end Compiler

end Returns

end Recorded

end TemplateCompiler
