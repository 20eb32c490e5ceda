import TemplateCompiler.Proofs.Parsing.Passages

/-! # Where errors come from

Most errors are direct: a template has them by its own text, by the path of an include, or by
what it takes in. The others come from include directives that have been resolved: an include
fails at the bound on the depth of includes, or with an error of the included template
(`Compiler.error_of_compose`). Such a directive is completed by a character of the text, and the
text before it has been read (`Compiler.error_of_parseWith`). An error of a step is about the
character read, or about the directive that the character closes (`Draft.fails_step`).
-/

namespace TemplateCompiler

open MonadAttach (CanReturn)

namespace ParseError

/-- Neither an error of an included template nor that of the bound on the depth of includes. -/
def isDirect : ParseError → Bool
  | includeParse .. | includeDepthExceeded .. => false
  | _ => true

/-- The location of the closed directive that an error is about. -/
def directive? : ParseError → Option Location
  | invalidCharacter .. | unterminatedTag .. | unterminatedFunction _ => none
  | error => error.location?

/-- An error that a closed directive, opened at a location, has of itself. -/
structure IsDirectAt (cause : ParseError) (opened : Location) : Prop where
  direct : cause.isDirect = true
  directive : cause.directive? = some opened

end ParseError

/-- A result whose error, where it is one, is of a kind. -/
def FailsAs {α : Type} (kind : ParseError → Prop) (result : Except ParseError α) : Prop :=
  ∀ cause, result = .error cause → kind cause

variable {kind : ParseError → Prop}

theorem failsAs_ok {α : Type} (value : α) : FailsAs kind (.ok value : Except ParseError α) := nofun

theorem failsAs_error {α : Type} {cause : ParseError} (blamed : kind cause) :
    FailsAs kind (.error cause : Except ParseError α) := by
  intro other same
  cases same
  exact blamed

theorem FailsAs.bind {α β : Type} {first : Except ParseError α}
    {next : α → Except ParseError β} (fails : FailsAs kind first)
    (later : ∀ value, FailsAs kind (next value)) : FailsAs kind (first >>= next) := by
  cases first with
  | error cause => exact failsAs_error (fails cause rfl)
  | ok value => exact later value

theorem FailsAs.ite {α : Type} {p : Prop} [Decidable p] {first second : Except ParseError α}
    (yes : p → FailsAs kind first) (no : FailsAs kind second) :
    FailsAs kind (if p then first else second) := by
  split_ifs with holds
  · exact yes holds
  · exact no

/-- The errors of a step that leads to a place: of the character before it, which is not the one
needed, or of the directive that the character closes. -/
inductive Blames (cursor : Cursor) (opened : Location) (c : Char) : ParseError → Prop where
  | character (expected : Expected) (state : State) :
      Blames cursor opened c
        (.invalidCharacter expected c cursor.position cursor.location state)
  | directive {cause : ParseError} (direct : cause.IsDirectAt opened) : Blames cursor opened c cause

theorem Blames.isDirect {cursor : Cursor} {opened : Location} {c : Char} {cause : ParseError}
    (blames : Blames cursor opened c cause) : cause.isDirect = true := by
  cases blames with
  | character expected state => rfl
  | directive direct => exact direct.direct

namespace Draft

variable {writer : Writer} {ancestors : List Identity} (draft : Draft) {c : Char}

theorem fails_unexpected {α : Type} (expected : Expected) :
    FailsAs (Blames draft.cursor draft.tagStart c)
      (.error (draft.unexpected expected c) : Except ParseError α) :=
  failsAs_error (.character expected draft.state)

theorem fails_quietly : FailsAs kind (quietly draft) := failsAs_ok _

theorem fails_readIncludeLead (c : Char) :
    FailsAs (Blames draft.cursor draft.tagStart c) (draft.readIncludeLead c) := by
  simp only [readIncludeLead]
  exact .ite (fun _ => failsAs_ok _) (.ite (fun _ => failsAs_ok _)
    (fails_unexpected (draft.goTo .includeLead) _))

theorem fails_readSigil (sigil : Sigil) (c : Char) :
    FailsAs (Blames draft.cursor draft.tagStart c) (draft.readSigil sigil c) := by
  unfold readSigil
  split
  case h_5 =>
    split
    · exact failsAs_ok _
    · split
      case h_2 => exact fails_readIncludeLead _ _
      all_goals exact failsAs_ok _
  all_goals exact failsAs_ok _

theorem fails_declareName (kind : NameKind) (name : String) :
    FailsAs (·.IsDirectAt draft.tagStart) (draft.declareName ancestors kind name) := by
  simp only [declareName]
  refine .ite (fun _ => failsAs_error ⟨rfl, rfl⟩) ?_
  split
  · exact failsAs_error ⟨rfl, rfl⟩
  · exact .ite (fun _ => failsAs_error ⟨rfl, rfl⟩) (failsAs_ok _)

theorem fails_completeBlock : FailsAs (·.IsDirectAt draft.tagStart) draft.completeBlock := by
  have kept : (if draft.pending.isEmpty then draft.clear
      else draft.clear.append ⟨.code, draft.pending, draft.pending⟩).tagStart =
      draft.tagStart := by
    split_ifs <;> rfl
  simp only [completeBlock]
  exact .ite (fun _ => .ite (fun _ => failsAs_error ⟨rfl, congrArg some kept⟩) (failsAs_ok _))
    (failsAs_ok _)

/-- The close tag of a directive is blamed where the directive is not complete. -/
theorem fails_complete (region : Region) :
    FailsAs (Blames draft.cursor draft.tagStart '>') (draft.complete writer ancestors region) := by
  cases region <;> simp only [complete]
  case engineName =>
    unfold completeEngine
    split
    · exact draft.fails_unexpected _
    · refine .bind (fun cause failed => ?_) fun _ => failsAs_ok _
      exact .directive (fails_declareName draft.clear _ _ cause failed)
  case block =>
    refine .bind (fun cause failed => ?_) fun _ => failsAs_ok _
    exact .directive (draft.fails_completeBlock cause failed)
  all_goals exact failsAs_ok _

/-- **An error of a step** is about the character read or about the directive that it closes. -/
theorem fails_step (c : Char) :
    FailsAs (Blames (draft.cursor.advance c) draft.tagStart c)
      (draft.step writer ancestors c) := by
  unfold step
  simp only
  change FailsAs (Blames { draft with cursor := draft.cursor.advance c }.cursor
    { draft with cursor := draft.cursor.advance c }.tagStart c) _
  generalize { draft with cursor := draft.cursor.advance c } = moved
  have quiet (next : Draft) : FailsAs (Blames moved.cursor moved.tagStart c) (quietly next) :=
    fails_quietly next
  have fails (expected : Expected) : FailsAs (Blames moved.cursor moved.tagStart c)
      (.error (moved.unexpected expected c) : Except ParseError (Draft × Event)) :=
    moved.fails_unexpected expected
  cases draft.state with
  | literal => exact quiet _
  | lessThan => exact .ite (fun _ => quiet _) (quiet _)
  | tagOpen => exact quiet _
  | sigil => exact (moved.fails_readSigil _ _).bind quiet
  | scan => exact quiet _
  | closing =>
      refine .ite (fun same => ?_) (quiet _)
      subst same
      exact (moved.goTo .literal).fails_complete _
  | tilde => exact .ite (fun _ => quiet _) (quiet _)
  | star => exact .ite (fun _ => quiet _) (quiet _)
  | escape => exact .ite (fun _ => quiet _) (quiet _)
  | escapePercent => exact .ite (fun _ => quiet _) (quiet _)
  | name => exact .ite (fun _ => quiet _) (.ite (fun _ => quiet _) (fails _))
  | nameTick => exact .ite (fun _ => quiet _) (fails _)
  | nameClose =>
      refine .ite (fun _ => .bind (fun cause failed => ?_) quiet) (fails _)
      exact .directive ((moved.goTo .literal).clear.fails_declareName _ _ cause failed)
  | includeLead => exact (moved.fails_readIncludeLead _).bind quiet
  | includePath => exact .ite (fun _ => quiet _) (.ite (fun _ => fails _) (quiet _))
  | includeAfterPath => exact .ite (fun _ => quiet _) (.ite (fun _ => quiet _) (fails _))
  | includeClose => exact .ite (fun _ => failsAs_ok _) (fails _)

/-- An error at the end of a text is about what is left open. -/
theorem fails_finish : FailsAs (fun cause => cause.isDirect = true ∧
    ((∃ location, cause = .unterminatedFunction location) ∨
      ∃ family location, cause = .unterminatedTag family location)) (draft.finish writer) := by
  simp only [finish]
  generalize (if draft.state = .lessThan then (draft.push '<').goTo .literal else draft) = ended
  split
  · exact failsAs_error ⟨rfl, .inl ⟨_, rfl⟩⟩
  · exact failsAs_error ⟨rfl, .inr ⟨_, _, rfl⟩⟩
  · exact .ite (fun _ => failsAs_ok _) (failsAs_error ⟨rfl, .inl ⟨_, rfl⟩⟩)

end Draft

theorem IncludeTree.fails_adopt (emitter : Emitter) (ancestors : List Identity)
    (parent child : IncludeTree) (location : Location) :
    FailsAs (·.IsDirectAt location) (parent.adopt emitter ancestors child location) := by
  simp only [adopt]
  split
  · exact failsAs_error ⟨rfl, rfl⟩
  · split
    · exact failsAs_error ⟨rfl, rfl⟩
    · exact failsAs_ok _

namespace IncludeTarget

theorem fails_base (config : Config) (including : Settings) (raw : String)
    (location : Location) :
    FailsAs (·.IsDirectAt location) (base config including raw location) := by
  unfold base
  split
  · split
    · exact failsAs_error ⟨rfl, rfl⟩
    · exact failsAs_ok _
  · exact .ite (fun _ => failsAs_error ⟨rfl, rfl⟩) (failsAs_ok _)

theorem fails_normalized (config : Config) (including : Settings) (raw : String)
    (location : Location) :
    FailsAs (·.IsDirectAt location) (normalized config including raw location) := by
  simp only [normalized]
  refine .ite (fun _ => failsAs_error ⟨rfl, rfl⟩) ((fails_base _ _ _ _).bind fun found => ?_)
  split
  · exact failsAs_error ⟨rfl, rfl⟩
  · exact .ite (fun _ => failsAs_error ⟨rfl, rfl⟩) (failsAs_ok _)

end IncludeTarget

section Returns

variable {m : Type → Type} [Monad m] [LawfulMonad m] [MonadAttach m] [LawfulMonadAttach m]

theorem IncludeTarget.isDirectAt_of_resolve {loader : Loader m} {config : Config}
    {including : Settings} {raw : String} {location : Location} {cause : ParseError}
    (returned : CanReturn (resolve loader config including raw location) (.error cause)) :
    cause.IsDirectAt location := by
  unfold resolve at returned
  cases found : normalized config including raw location with
  | error reason =>
      rw [found] at returned
      cases eq_of_canReturn_pure returned
      exact fails_normalized _ _ _ _ _ found
  | ok base =>
      rw [found] at returned
      obtain ⟨file, _, returned⟩ := exists_canReturn_of_bind returned
      cases file with
      | none =>
          cases eq_of_canReturn_pure returned
          exact ⟨rfl, rfl⟩
      | some path => cases eq_of_canReturn_pure returned

/-- An error of a sequence is one of its first action, or one of what follows. -/
theorem canReturn_error_of_bind {α β : Type} {action : ExceptT ParseError m α}
    {next : α → ExceptT ParseError m β} {cause : ParseError}
    (returned : CanReturn (action >>= next).run (.error cause)) :
    CanReturn action.run (.error cause) ∨
      ∃ value, CanReturn action value ∧ CanReturn (next value).run (.error cause) := by
  rw [ExceptT.run_bind] at returned
  obtain ⟨result, acted, returned⟩ := exists_canReturn_of_bind returned
  cases result with
  | error reason =>
      cases eq_of_canReturn_pure returned
      exact .inl acted
  | ok value => exact .inr ⟨value, acted, returned⟩

theorem ne_error_of_canReturn_pure {α : Type} {value : α} {cause : ParseError}
    (returned : CanReturn (pure value : ExceptT ParseError m α).run (.error cause)) : False := by
  have same : CanReturn (pure (.ok value) : m (Except ParseError α)) (.error cause) := returned
  cases eq_of_canReturn_pure same

/-- An error that is returned is the one that there is. -/
theorem eq_error_of_canReturn_ofExcept {α : Type} {result : Except ParseError α}
    {cause : ParseError}
    (returned : CanReturn (ofExcept result : ExceptT ParseError m α).run (.error cause)) :
    result = .error cause := by
  cases result with
  | error reason => exact congrArg Except.error (Except.error.inj (eq_of_canReturn_pure returned))
  | ok value => cases ne_error_of_canReturn_pure returned

/-- **An error of a fold** is that of one of its steps. -/
theorem exists_of_foldlM_error {α β : Type} {step : α → β → ExceptT ParseError m α} {start : α}
    {items : List β} {cause : ParseError}
    (returned : CanReturn (items.foldlM step start).run (.error cause)) :
    ∃ front item back mid, items = front ++ item :: back ∧
      CanReturn (front.foldlM step start) mid ∧ CanReturn (step mid item).run (.error cause) := by
  -- From the end of the list: what may be returned by a longer fold comes from the shorter.
  induction items using List.reverseRecOn with
  | nil => cases ne_error_of_canReturn_pure returned
  | append_singleton front item ih =>
      rw [List.foldlM_append] at returned
      rcases canReturn_error_of_bind returned with failed | ⟨mid, folded, failed⟩
      · obtain ⟨before, other, back, mid, rfl, folded, failed⟩ := ih failed
        exact ⟨before, other, back ++ [item], mid, by simp, folded, failed⟩
      · refine ⟨front, item, [], mid, rfl, folded, ?_⟩
        rw [List.foldlM_cons] at failed
        rcases canReturn_error_of_bind failed with stepped | ⟨next, _, failed⟩
        · exact stepped
        · cases ne_error_of_canReturn_pure failed

namespace Draft

variable {writer : Writer} {ancestors : List Identity}
  {compose : IncludeTree → String → Location → m (Except ParseError IncludeTree)}

/-- An error of an advance is direct, or that of an include that the character completes. -/
theorem error_of_advance {draft : Draft} {c : Char} {cause : ParseError}
    (returned : CanReturn (draft.advance writer ancestors compose c).run (.error cause)) :
    cause.isDirect = true ∨
      ∃ next raw, draft.step writer ancestors c = .ok (next, .inclusion raw) ∧
        CanReturn (compose next.tree raw next.tagStart) (.error cause) := by
  rcases canReturn_error_of_bind returned with failed | ⟨⟨next, event⟩, stepped, failed⟩
  · exact .inl (fails_step draft c cause (eq_error_of_canReturn_ofExcept failed)).isDirect
  · have stepped := eq_ok_of_canReturn_ofExcept stepped
    cases event with
    | none => cases ne_error_of_canReturn_pure failed
    | engine name => cases ne_error_of_canReturn_pure failed
    | inclusion raw =>
        rcases canReturn_error_of_bind failed with composed | ⟨tree, _, failed⟩
        · exact .inr ⟨next, raw, stepped, composed⟩
        · cases ne_error_of_canReturn_pure failed

/-- **An error of reading** is that of an advance somewhere in the text. -/
theorem exists_of_reads_error {draft : Draft} {text : List Char} {cause : ParseError}
    (returned : CanReturn (reads writer ancestors compose draft text).run (.error cause)) :
    ∃ front c back mid, text = front ++ c :: back ∧
      CanReturn (reads writer ancestors compose draft front) mid ∧
      CanReturn (mid.advance writer ancestors compose c).run (.error cause) :=
  exists_of_foldlM_error returned

end Draft

namespace Compiler

variable {compiler : Compiler m} {parse? : Option (ParseText m)} {created : Nat}
  {ancestors : List Identity} {cause : ParseError}

/-- An error of an include is direct, that of the bound on the depth of includes, or that of the
included template. -/
theorem error_of_compose {parent : IncludeTree} {raw : String} {location : Location}
    (returned : CanReturn (compiler.compose parse? created ancestors parent raw location)
      (.error cause)) :
    cause.IsDirectAt location ∨ ∃ target,
      CanReturn (IncludeTarget.resolve compiler.loader compiler.emitter.config
        parent.template.settings raw location) (.ok target) ∧
      match parse? with
      | none => cause = .includeDepthExceeded target.settings.path
          compiler.emitter.config.maxIncludeDepth location
      | some parse => ∃ text inner, CanReturn (compiler.loader.read target.file) (.ok text) ∧
          CanReturn (parse (created + parent.size) (ancestors ++ [parent.template.identity])
            target.settings text) (.error inner) ∧
          cause = .includeParse target.settings.path inner location := by
  obtain ⟨resolved, resolution, returned⟩ := exists_canReturn_of_bind returned
  unfold incorporate at returned
  cases resolved with
  | error reason =>
      cases eq_of_canReturn_pure returned
      exact .inl (IncludeTarget.isDirectAt_of_resolve resolution)
  | ok target =>
      cases parse? with
      | none =>
          cases eq_of_canReturn_pure returned
          exact .inr ⟨target, resolution, rfl⟩
      | some parse =>
          obtain ⟨reading, read, returned⟩ := exists_canReturn_of_bind returned
          cases reading with
          | error reason =>
              cases eq_of_canReturn_pure returned
              exact .inl ⟨rfl, rfl⟩
          | ok text =>
              obtain ⟨parsing, parsed, returned⟩ := exists_canReturn_of_bind returned
              cases parsing with
              | error inner =>
                  cases eq_of_canReturn_pure returned
                  exact .inr ⟨target, resolution, text, inner, read, parsed, rfl⟩
              | ok child =>
                  exact .inl (IncludeTree.fails_adopt _ _ _ _ _ cause
                    (eq_of_canReturn_pure returned))

/-- An error of an included template is one of parsing the text at the file of the include. -/
theorem exists_of_compose_includeParse {parent : IncludeTree} {raw path : String}
    {location opened : Location} {below : ParseError}
    (returned : CanReturn (compiler.compose parse? created ancestors parent raw location)
      (.error (.includeParse path below opened))) :
    ∃ parse target text, parse? = some parse ∧
      CanReturn (IncludeTarget.resolve compiler.loader compiler.emitter.config
        parent.template.settings raw location) (.ok target) ∧
      CanReturn (compiler.loader.read target.file) (.ok text) ∧
      CanReturn (parse (created + parent.size) (ancestors ++ [parent.template.identity])
        target.settings text) (.error below) ∧
      path = target.settings.path ∧ opened = location := by
  rcases error_of_compose returned with direct | ⟨target, resolved, failed⟩
  · cases direct.direct
  · cases parse? with
    | none => cases failed
    | some parse =>
        obtain ⟨text, inner, loaded, parsed, same⟩ := failed
        cases same
        exact ⟨parse, target, text, rfl, resolved, loaded, parsed, rfl, rfl⟩

/-- **An error of parsing** is direct, or that of an include directive somewhere in the text,
which is reached by reading the text before. -/
theorem error_of_parseWith {settings : Settings} {source : String}
    (returned : CanReturn (compiler.parseWith parse? created ancestors settings source)
      (.error cause)) :
    cause.isDirect = true ∨ ∃ front c back draft next raw,
      source.toList = front ++ c :: back ∧
      CanReturn (compiler.reads parse? created ancestors settings front) draft ∧
      draft.step compiler.emitter.writer ancestors c = .ok (next, .inclusion raw) ∧
      CanReturn (compiler.compose parse? created ancestors next.tree raw next.tagStart)
        (.error cause) := by
  rw [parseWith_eq_reads] at returned
  rcases canReturn_error_of_bind returned with failed | ⟨last, _, failed⟩
  · obtain ⟨front, c, back, draft, whole, read, advanced⟩ := Draft.exists_of_reads_error failed
    rcases Draft.error_of_advance advanced with direct | ⟨next, raw, stepped, composed⟩
    · exact .inl direct
    · exact .inr ⟨front, c, back, draft, next, raw, whole, read, stepped, composed⟩
  · exact .inl (Draft.fails_finish last cause (eq_error_of_canReturn_ofExcept failed)).1

end Compiler

end Returns

end TemplateCompiler
