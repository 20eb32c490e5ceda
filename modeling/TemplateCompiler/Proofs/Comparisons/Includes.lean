import TemplateCompiler.Proofs.Comparisons.Drafts
import TemplateCompiler.Proofs.Resolution

/-! # Includes in two parses

An include path is resolved alike wherever its directive stands and whatever the texts of files say
(`IncludeTarget.resolve_elsewhere`). So an include in a second parse leads to the same file, and it
meets the include of the first one where the texts there have parses that meet, and the tree read
so far takes in both (`Compiler.meets_of_compose`).
-/

namespace TemplateCompiler

open MonadAttach (CanReturn)

/-- Loaders that have the same files and directories, whose texts may differ. -/
structure Loader.SameFiles (loader other : Loader Id) : Prop where
  files : other.isFile = loader.isFile
  directories : other.isDirectory = loader.isDirectory

namespace IncludeTarget

variable {config : Config} {including : Settings} {raw : String} {location : Location}

theorem base_elsewhere {start : Base} (based : base config including raw location = .ok start)
    (elsewhere : Location) : base config including raw elsewhere = .ok start := by
  unfold base at based ⊢
  split at based
  · split at based
    · cases based
    · exact based
  · split_ifs at based with rooted
    rw [if_neg rooted]
    exact based

theorem normalized_elsewhere {start : Base}
    (normal : normalized config including raw location = .ok start) (elsewhere : Location) :
    normalized config including raw elsewhere = .ok start := by
  unfold normalized at normal ⊢
  dsimp only at normal ⊢
  split_ifs at normal with empty
  obtain ⟨first, based, rest⟩ := exists_ok_of_bind normal
  rw [if_neg empty, base_elsewhere based elsewhere]
  cases path : Path.normalize first.relative with
  | error cause =>
      rw [path] at rest
      cases rest
  | ok relative =>
      rw [path] at rest
      dsimp only at rest
      split_ifs at rest with blank
      simp only [bind, Except.bind, path, if_neg blank]
      exact rest

/-- **A path that is resolved is resolved alike** at another location, and with other texts. -/
theorem resolve_elsewhere {loader other : Loader Id} (same : loader.SameFiles other)
    {target : IncludeTarget}
    (resolved : CanReturn (resolve loader config including raw location) (.ok target))
    (elsewhere : Location) : resolve other config including raw elsewhere = pure (.ok target) := by
  obtain ⟨start, path, normal, found, rfl⟩ := exists_of_resolve resolved
  have finds : findFile other config start.root start.relative = pure (some path) := by
    rw [← eq_pure_of_canReturn found]
    simp only [findFile, same.files, same.directories]
  rw [resolve, normalized_elsewhere normal elsewhere]
  dsimp only
  rw [finds]
  rfl

end IncludeTarget

/-- **An included tree that is taken in is taken in alike** at another location. -/
theorem IncludeTree.adopt_elsewhere {emitter : Emitter} {ancestors : List Identity}
    {parent child tree : IncludeTree} {location : Location}
    (adopted : parent.adopt emitter ancestors child location = .ok tree) (elsewhere : Location) :
    parent.adopt emitter ancestors child elsewhere = .ok tree := by
  obtain ⟨apart, _⟩ := adopt_eq_ok adopted
  obtain ⟨dependencies, merged, rfl⟩ := exists_of_adopt adopted
  exact adopt_eq apart merged

namespace Compiler

variable {related trees : IncludeTree → IncludeTree → Prop} {excused below : ParseError → Prop}
  {parent child grown : IncludeTree} {target : IncludeTarget} {raw text : String}
  {location : Location}

/-- An include that succeeds has room one level deeper, where it has parsed the text at the file
that its path resolves to. -/
theorem exists_call_of_compose {compiler : Compiler Id} {call : Call}
    (composed : CanReturn (compiler.compose (compiler.levelsBelow call) call.created
      call.ancestors parent raw location) (.ok grown)) :
    call.ancestors.length < compiler.emitter.config.maxIncludeDepth ∧
      ∃ target text child, CanReturn (IncludeTarget.resolve compiler.loader
          compiler.emitter.config parent.template.settings raw location) (.ok target) ∧
        CanReturn (compiler.loader.read target.file) (.ok text) ∧
        CanReturn (compiler.parseCall ⟨call.created + parent.size,
          call.ancestors ++ [parent.template.identity], target.settings, text⟩) (.ok child) ∧
        parent.adopt compiler.emitter call.ancestors child location = .ok grown ∧
        grown.size = parent.size + child.size := by
  obtain ⟨parse, target, text, child, levels, resolved, loaded, parsed, adopted⟩ :=
    exists_of_compose composed
  rw [eq_parseCall_of_levelsBelow levels] at parsed
  refine ⟨exists_levelsBelow_iff.mp ⟨parse, levels⟩, target, text, child, resolved, loaded, parsed,
    adopted, ?_⟩
  obtain ⟨_, _, _, whole⟩ := IncludeTree.adopt_eq_ok adopted
  rw [whole, IncludeTree.size_addIncluded, IncludeTree.size_withTemplate]

/-- The path of an include directive leads a template to an included tree, wherever the directive
stands. -/
structure Finds (compiler : Compiler Id) (call : Call) (parent : IncludeTree) (raw : String)
    (child : IncludeTree) : Prop where
  room : call.ancestors.length < compiler.emitter.config.maxIncludeDepth
  leads : ∃ location target text, CanReturn (IncludeTarget.resolve compiler.loader
      compiler.emitter.config parent.template.settings raw location) (.ok target) ∧
    CanReturn (compiler.loader.read target.file) (.ok text) ∧
    CanReturn (compiler.parseCall ⟨call.created + parent.size,
      call.ancestors ++ [parent.template.identity], target.settings, text⟩) (.ok child)

theorem exists_finds_of_compose {compiler : Compiler Id} {call : Call}
    (composed : CanReturn (compiler.compose (compiler.levelsBelow call) call.created
      call.ancestors parent raw location) (.ok grown)) :
    ∃ child, compiler.Finds call parent raw child ∧
      parent.adopt compiler.emitter call.ancestors child location = .ok grown := by
  obtain ⟨room, target, text, child, resolved, loaded, parsed, adopted, _⟩ :=
    exists_call_of_compose composed
  exact ⟨child, ⟨room, location, target, text, resolved, loaded, parsed⟩, adopted⟩

/-- **An included tree that is found** is the one that is composed, where it is taken in. -/
theorem Finds.compose {compiler : Compiler Id} {call : Call}
    (finds : compiler.Finds call parent raw child)
    (adopted : parent.adopt compiler.emitter call.ancestors child location = .ok grown) :
    compiler.compose (compiler.levelsBelow call) call.created call.ancestors parent raw location =
      pure (.ok grown) := by
  obtain ⟨room, _, target, text, resolved, loaded, parsed⟩ := finds
  obtain ⟨parse, levels⟩ := exists_levelsBelow_iff.mpr room
  rw [← eq_parseCall_of_levelsBelow levels] at parsed
  rw [levels, compose_eq (IncludeTarget.resolve_elsewhere ⟨rfl, rfl⟩ resolved location) loaded
    parsed, adopted]

/-- **An include meets** the one of another parse where the template that it leads to does, and the
tree read so far takes in the trees that meet. -/
theorem meets_of_compose (counterpart : Compiler Id) (other : Call)
    (room : other.ancestors.length < counterpart.emitter.config.maxIncludeDepth)
    (resolved : IncludeTarget.resolve counterpart.loader counterpart.emitter.config
      parent.template.settings raw location = pure (.ok target))
    (loaded : counterpart.loader.read target.file = pure (.ok text))
    (parses : Meets below trees child (ExceptT.mk (counterpart.parseCall
      ⟨other.created + parent.size, other.ancestors ++ [parent.template.identity],
        target.settings, text⟩)))
    (excuses : ∀ cause, below cause → excused (.includeParse target.settings.path cause location))
    (adopts : ∀ included, trees child included → ∃ tree,
      parent.adopt counterpart.emitter other.ancestors included location = .ok tree ∧
        related grown tree) :
    Meets excused related grown (ExceptT.mk (counterpart.compose (counterpart.levelsBelow other)
      other.created other.ancestors parent raw location)) := by
  obtain ⟨parse, levels⟩ := exists_levelsBelow_iff.mpr room
  rw [← eq_parseCall_of_levelsBelow levels] at parses
  rw [levels]
  rcases parses.cases_eq with ⟨included, parsed, holds⟩ | ⟨cause, failed, holds⟩
  · obtain ⟨tree, adopted, trees⟩ := adopts included holds
    rw [compose_eq resolved loaded parsed, adopted]
    exact .pure trees
  · have unparsed : parse (other.created + parent.size)
        (other.ancestors ++ [parent.template.identity]) target.settings text =
          pure (.error cause) := failed
    have refused : counterpart.compose (some parse) other.created other.ancestors parent raw
        location = pure (.error (.includeParse target.settings.path cause location)) := by
      simp [compose, incorporate, resolved, loaded, unparsed]
    rw [refused]
    exact .throw (excuses cause holds)

end Compiler

end TemplateCompiler
