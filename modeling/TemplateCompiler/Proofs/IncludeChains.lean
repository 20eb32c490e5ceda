import TemplateCompiler.Proofs.Path.Composition
import TemplateCompiler.Proofs.Resolution

/-! # Chains of includes

An include path is seen from the directory of the file that includes it, and the path of that file
is a normal form already. A chain of includes ends where the one path ends that has all its parts in
a row and is brought to normal form at once (`IncludeTarget.normalize_in_parts`): each include leads
from directory to directory as its part of the row does (`IncludeTarget.place?_turn`), and normal
forms compose. That takes files whose directory is where their include path leads
(`IncludeTarget.KeepsPlace`).
-/

namespace TemplateCompiler.IncludeTarget

open MonadAttach (CanReturn)

/-- An include path that is seen from the directory of the including template: something is left of
it, it does not start at the library, and it names no place by itself. -/
structure IsRelative (raw : String) : Prop where
  nonempty : raw ≠ ""
  noTilde : raw.toList.head? ≠ some '~'
  notRooted : Path.isRooted raw = false

section Normalized

variable {raw : String}

theorem IsRelative.unrooted (relative : IsRelative raw) : Path.Unrooted raw := by
  have free := relative.notRooted
  rw [Path.isRooted, Bool.or_eq_false_iff] at free
  intro c head
  have first := free.1
  rw [Option.mem_def.mp head] at first
  simpa using first

/-- A relative path is looked for below the root of the including template, from the directory of
that template. -/
theorem normalized_eq (config : Config) (including : Settings) (location : Location)
    (relative : IsRelative (Text.trim raw)) :
    (normalized config including raw location).toOption =
      ((Path.normalize (Path.below (Path.directory including.path) (Text.trim raw))).toOption.filter
        (· ≠ "")).map fun path => ⟨including.root, path, including.isLocal⟩ := by
  have based : base config including (Text.trim raw) location =
      .ok ⟨including.root, Path.below (Path.directory including.path) (Text.trim raw),
        including.isLocal⟩ := by
    unfold base
    split
    · rename_i rest tilde
      exact absurd (by rw [tilde]; rfl) relative.noTilde
    · rw [if_neg (by simp [relative.notRooted])]
      rfl
  have some : ¬ (Text.trim raw).isEmpty = true := by simpa using relative.nonempty
  unfold normalized
  dsimp only
  rw [if_neg some, based]
  cases normal : Path.normalize (Path.below (Path.directory including.path) (Text.trim raw)) with
  | error cause => simp [bind, Except.bind, normal, Except.toOption]
  | ok path =>
      by_cases empty : path = "" <;>
        simp [bind, Except.bind, normal, Except.toOption, Option.filter, empty]

end Normalized

/-- What leads from the directory of a template to that of the template which its include path
`raw` is found at: to the index file and less its name where the path is found as a directory, and
a step back from the path where it is found as a file. -/
def turn (config : Config) (raw relative path : String) : String :=
  if path = relative ++ "/" ++ config.indexFile then
    Path.directory (raw ++ "/" ++ config.indexFile)
  else raw ++ "/" ++ ".."

/-- The parts of a route in a row, with a path at their end. -/
def via (route : List String) (raw : String) : String :=
  route.foldr (fun turn rest => turn ++ "/" ++ rest) raw

variable {m : Type → Type} [Monad m] [LawfulMonad m] [MonadAttach m] [LawfulMonadAttach m]

/-- A template whose directory is where its include path leads. An extension with a separator in it
makes a directory of its own, and a file right at the root marker of a rooted path has the empty
directory, which is no rooted one. -/
structure KeepsPlace (config : Config) (including : Settings) (relative path : String) : Prop where
  unbroken : path = relative ++ config.templateExtension →
    ∀ c ∈ config.templateExtension.toList, Path.isSeparator c = false
  rooted : Path.Unrooted (Path.directory including.path) ∨ Path.directory path ≠ ""

/-- Relative include paths that are resolved one from the file of the other, each to a file that
keeps its place, lead from one template to another. The route has for each of them what leads from
directory to directory. -/
inductive Chain (loader : Loader m) (config : Config) : Settings → List String → Settings → Prop
  | here (settings : Settings) : Chain loader config settings [] settings
  | next {including last : Settings} {route : List String} {raw : String} {location : Location}
      {start : Base} {target : IncludeTarget} (relative : IsRelative (Text.trim raw))
      (normal : normalized config including raw location = .ok start)
      (resolved : CanReturn (resolve loader config including raw location) (.ok target))
      (keeps : KeepsPlace config including start.relative target.settings.path)
      (rest : Chain loader config target.settings route last) :
      Chain loader config including
        (turn config (Text.trim raw) start.relative target.settings.path :: route) last

variable {loader : Loader m} {config : Config} {including last : Settings} {route : List String}
  {raw path relative : String} {location : Location} {start : Base} {target : IncludeTarget}

theorem exists_turn (config : Config) (raw relative path : String) :
    ∃ tail, turn config raw relative path = raw ++ tail := by
  unfold turn
  split_ifs
  · exact ⟨_, Path.directory_append_slash raw _⟩
  · exact ⟨"/" ++ "..", String.append_assoc ..⟩

/-- A relative path has a normal form with something left of it, which is what the stack after the
path is written to. -/
theorem exists_stack_of_normalized (relative : IsRelative (Text.trim raw))
    (normal : normalized config including raw location = .ok start) :
    ∃ before stack, Path.place? false (Path.directory including.path) = some before ∧
      Path.walk? false before (Path.pieces (Text.trim raw)) = some stack ∧
      Path.IsStack false stack ∧ start.relative = Path.textOfSegments stack.reverse ∧
      start.relative ≠ "" := by
  have found := normalized_eq config including location relative
  rw [normal] at found
  obtain ⟨path, kept, rfl⟩ := Option.map_eq_some_iff.mp found.symm
  obtain ⟨normal, some⟩ := Option.filter_eq_some_iff.mp kept
  obtain ⟨stack, walked, written⟩ := Path.exists_stack_of_refine (eq_ok_of_toOption normal)
  have isStack := Path.isStack_of_stack? walked
  rw [Path.stack?_below _ relative.unrooted relative.nonempty] at walked
  obtain ⟨before, placed, walked⟩ := Option.bind_eq_some_iff.mp walked
  exact ⟨before, stack, placed, walked, isStack, written, by simpa using some⟩

/-- **An include leads from directory to directory** as its part of the route does. -/
theorem place?_turn (relative : IsRelative (Text.trim raw))
    (normal : normalized config including raw location = .ok start)
    (found : path = start.relative ∨ path = start.relative ++ config.templateExtension ∨
      path = start.relative ++ "/" ++ config.indexFile)
    (keeps : KeepsPlace config including start.relative path) :
    (Path.place? false (Path.directory including.path)).bind
        (Path.walk? false · (Path.pieces (turn config (Text.trim raw) start.relative path))) =
      Path.place? false (Path.directory path) := by
  obtain ⟨before, stack, stood, walked, isStack, written, nonempty⟩ :=
    exists_stack_of_normalized relative normal
  obtain ⟨extension, placed⟩ := keeps
  have reached : Path.stack? false start.relative = some stack := by
    rw [written] at nonempty ⊢
    exact Path.stack?_textOfSegments isStack nonempty
  rw [stood, Option.bind_some, turn]
  split_ifs with index
  · rw [index, Path.directory_append_slash, Path.directory_append_slash]
    rcases Path.directory_slash_cases config.indexFile with top | ⟨inner, inside⟩
    · rw [top, String.append_empty, String.append_empty, walked, Path.place?, if_neg nonempty,
        reached]
    · rw [inside, ← String.append_assoc, ← String.append_assoc, Path.pieces_append_slash,
        Path.walk?_append, walked, Path.place?, if_neg (by simp), Path.stack?_append_slash, reached]
  · obtain ⟨suffix, unbroken, rfl⟩ : ∃ suffix : String,
        (∀ c ∈ suffix.toList, Path.isSeparator c = false) ∧ path = start.relative ++ suffix := by
      rcases found with rfl | rfl | rfl
      · exact ⟨"", by simp, by simp⟩
      · exact ⟨config.templateExtension, extension rfl, rfl⟩
      · exact absurd rfl index
    have back : Path.walk? false stack (Path.pieces "..") = Path.stepBack? false stack := by
      have parent : Path.pieces ".." = [['.', '.']] := rfl
      rw [parent, Path.walk?, if_pos rfl]
      cases Path.stepBack? false stack <;> rfl
    rw [Path.pieces_append_slash, Path.walk?_append, walked, Option.bind_some, back]
    rw [written] at placed nonempty ⊢
    refine (Path.place?_directory isStack ?_ unbroken ?_).symm
    · rintro rfl
      exact nonempty rfl
    · refine placed.imp_left fun unrooted marker => ?_
      rcases Path.mem_of_walk? walked [] marker with atStart | ⟨_, name⟩
      · exact Path.nil_not_mem_of_place? unrooted stood atStart
      · exact name.1 rfl

namespace Chain

/-- **A chain leads from directory to directory** as its route does. -/
theorem walk?_via (chain : Chain loader config including route last) (raw : String) :
    (Path.place? false (Path.directory including.path)).bind
        (Path.walk? false · (Path.pieces (via route raw))) =
      (Path.place? false (Path.directory last.path)).bind
        (Path.walk? false · (Path.pieces raw)) := by
  induction chain with
  | here settings => rfl
  | @next including last route part location start target relative normal resolved keeps rest
      ih =>
      obtain ⟨first, path, normal', found, same⟩ := exists_of_resolve resolved
      obtain rfl : start = first := Except.ok.inj (normal.symm.trans normal')
      have file : target.settings.path = path := by rw [same]
      have cases := findFile_cases found
      rw [← file] at cases
      have step := place?_turn relative normal (cases.imp_right (Or.imp_right And.left)) keeps
      have parts : ∀ stack, Path.walk? false stack (Path.pieces (via
          (turn config (Text.trim part) start.relative target.settings.path :: route) raw)) =
            (Path.walk? false stack (Path.pieces (turn config (Text.trim part) start.relative
              target.settings.path))).bind (Path.walk? false · (Path.pieces (via route raw))) := by
        intro stack
        rw [← Path.walk?_append, ← Path.pieces_append_slash]
        rfl
      simp only [parts]
      rw [← Option.bind_assoc, step, ih]

/-- A chain stays below the root of its first template. -/
theorem settings_eq (chain : Chain loader config including route last) :
    last.root = including.root ∧ last.isLocal = including.isLocal := by
  induction chain with
  | here settings => exact ⟨rfl, rfl⟩
  | @next including last route part location start target relative normal resolved _ _ ih =>
      obtain ⟨first, path, normal', _, rfl⟩ := exists_of_resolve resolved
      obtain rfl : start = first := Except.ok.inj (normal.symm.trans normal')
      have found := normalized_eq config including location relative
      rw [normal] at found
      obtain ⟨path, _, rfl⟩ := Option.map_eq_some_iff.mp found.symm
      exact ih

omit [LawfulMonad m] [LawfulMonadAttach m] in
/-- With a relative path at its end, the route of a chain is a relative path. -/
theorem via_unrooted (chain : Chain loader config including route last) {raw : String}
    (unrooted : Path.Unrooted raw) (nonempty : raw ≠ "") :
    Path.Unrooted (via route raw) ∧ via route raw ≠ "" := by
  cases chain with
  | here settings => exact ⟨unrooted, nonempty⟩
  | @next _ _ route part _ start target relative _ _ _ _ =>
      obtain ⟨tail, whole⟩ :=
        exists_turn config (Text.trim part) start.relative target.settings.path
      have parts : via (turn config (Text.trim part) start.relative target.settings.path :: route)
          raw = Text.trim part ++ (tail ++ ("/" ++ via route raw)) := by
        rw [via, List.foldr_cons, whole, String.append_assoc, String.append_assoc]
        rfl
      rw [parts]
      refine ⟨relative.unrooted.append relative.nonempty _, fun empty => ?_⟩
      exact relative.nonempty (String.append_eq_empty_iff.mp empty).1

end Chain

/-- **Normal forms compose.** A path may be brought to normal form before more is put behind it,
where anything is left of it. So at the end of a chain of includes, a relative path leads below the
root of the first template to the normal form of the whole route, seen from the directory of the
first template; there is no such place where that normal form is empty or would lead out. -/
theorem normalize_in_parts (loader : Loader m) (config : Config) :
    (∀ first rest result : String, Path.normalize first = .ok result → result ≠ "" →
      (Path.normalize (first ++ "/" ++ rest)).toOption =
        (Path.normalize (result ++ "/" ++ rest)).toOption) ∧
    ∀ (including last : Settings) (route : List String),
      Chain loader config including route last →
        ∀ (raw : String) (location : Location), IsRelative (Text.trim raw) →
          (normalized config last raw location).toOption =
            ((Path.normalize (Path.below (Path.directory including.path)
              (via route (Text.trim raw)))).toOption.filter (· ≠ "")).map
                fun path => ⟨including.root, path, including.isLocal⟩ := by
  refine ⟨fun first rest result normal nonempty =>
    Path.toOption_refine_append_slash normal nonempty rest, ?_⟩
  intro including last route chain raw location relative
  obtain ⟨unrooted, nonempty⟩ := chain.via_unrooted relative.unrooted relative.nonempty
  have whole : (Path.normalize (Path.below (Path.directory including.path)
      (via route (Text.trim raw)))).toOption =
        (Path.normalize (Path.below (Path.directory last.path) (Text.trim raw))).toOption := by
    rw [Path.normalize, Path.normalize, Path.toOption_refine, Path.toOption_refine,
      Path.stack?_below _ unrooted nonempty,
      Path.stack?_below _ relative.unrooted relative.nonempty, chain.walk?_via]
  rw [whole, normalized_eq config last location relative, chain.settings_eq.1, chain.settings_eq.2]

/-- A page, its navigation and an index file, each included by the one before. -/
theorem normalize_in_parts_page :
    let store : MemoryStore := { entries :=
      [("/site/pages/parts/nav.blade", ""), ("/site/pages/widgets/index.blade", "")] }
    let page : Settings := ⟨"pages/home.blade", "/site", true, false⟩
    let index : Settings := ⟨"pages/widgets/index.blade", "/site", true, true⟩
    let route := ["parts/nav/..", "../widgets"]
    let whole := "pages/parts/nav/../../widgets/./x/..\\icon"
    (Path.normalize "a\\.//b" = .ok "a/b" ∧
      (Path.normalize "a\\.//b/../c").toOption = (Path.normalize "a/b/../c").toOption) ∧
    Chain store.loader {} page route index ∧ IsRelative (Text.trim " ./x/..\\icon") ∧
      (normalized {} index " ./x/..\\icon" ⟨1, 1⟩).toOption =
        ((Path.normalize whole).toOption.filter (· ≠ "")).map (⟨"/site", ·, true⟩) ∧
      Path.normalize whole = .ok "pages/widgets/icon" := by
  intro store page index route whole
  let nav : Settings := ⟨"pages/parts/nav.blade", "/site", true, true⟩
  have relative : ∀ raw ∈ ["parts/nav", "../widgets", " ./x/..\\icon"],
      IsRelative (Text.trim raw) := by
    intro raw member
    refine ⟨?_, ?_, ?_⟩ <;> revert raw <;> decide +kernel
  have plain := Config.hasPlainSuffixes_default.extension.noSeparator
  have first : Path.normalize "a\\.//b" = .ok "a/b" := by decide +kernel
  have last : Chain store.loader {} nav ["../widgets"] index := by
    have step : turn {} (Text.trim "../widgets") "pages/widgets" index.path = "../widgets" := by
      decide +kernel
    rw [← step]
    have normal : normalized {} nav "../widgets" ⟨1, 1⟩ = .ok ⟨"/site", "pages/widgets", true⟩ := by
      decide +kernel
    have resolved : CanReturn (resolve store.loader {} nav "../widgets" ⟨1, 1⟩)
        (.ok ⟨index, "/site/pages/widgets/index.blade"⟩) :=
      canReturn_of_toOption (by decide +kernel)
    exact .next (relative _ (by decide)) normal resolved ⟨fun _ => plain, .inr (by decide +kernel)⟩
      (.here index)
  have chain : Chain store.loader {} page route index := by
    have step : turn {} (Text.trim "parts/nav") "pages/parts/nav" nav.path = "parts/nav/.." := by
      decide +kernel
    rw [show route = turn {} (Text.trim "parts/nav") "pages/parts/nav" nav.path :: ["../widgets"]
      from congrArg (· :: ["../widgets"]) step.symm]
    have normal : normalized {} page "parts/nav" ⟨1, 1⟩ =
        .ok ⟨"/site", "pages/parts/nav", true⟩ := by decide +kernel
    have resolved : CanReturn (resolve store.loader {} page "parts/nav" ⟨1, 1⟩)
        (.ok ⟨nav, "/site/pages/parts/nav.blade"⟩) := canReturn_of_toOption (by decide +kernel)
    exact .next (relative _ (by decide)) normal resolved ⟨fun _ => plain, .inr (by decide +kernel)⟩
      last
  obtain ⟨parts, follows⟩ := normalize_in_parts store.loader {}
  have final := relative " ./x/..\\icon" (by decide)
  have concatenated : Path.below (Path.directory page.path)
      (via route (Text.trim " ./x/..\\icon")) = whole := by decide +kernel
  refine ⟨⟨first, parts _ "../c" _ first (by decide)⟩, chain, final, ?_, by decide +kernel⟩
  have same := follows page index route chain _ ⟨1, 1⟩ final
  rwa [concatenated] at same

/-- Two chains of two includes end elsewhere than their whole routes: the first one loses the root
marker at a file of the root, the second one enters a directory of the extension. -/
theorem chains_losing_place :
    let store : MemoryStore := { entries := [("/c.blade", ""), ("/site/nav.d/x", "")] }
    let page : Settings := ⟨"/a/home.blade", "/site", true, false⟩
    let shared : Settings := ⟨"/c.blade", "/site", true, true⟩
    let extended : Config := { templateExtension := ".d/x" }
    let home : Settings := ⟨"home.blade", "/site", true, false⟩
    let nav : Settings := ⟨"nav.d/x", "/site", true, true⟩
    (∀ raw ∈ ["../c", "nav", "d"], IsRelative (Text.trim raw)) ∧
    ((resolve store.loader {} page "../c" ⟨1, 1⟩).toOption = some ⟨shared, "/c.blade"⟩ ∧
      (normalized {} shared "d" ⟨1, 1⟩).toOption = some ⟨"/site", "d", true⟩ ∧
      Path.normalize (Path.below (Path.directory page.path)
        (via [turn {} "../c" "/c" shared.path] "d")) = .ok "/d") ∧
    (resolve store.loader extended home "nav" ⟨1, 1⟩).toOption = some ⟨nav, "/site/nav.d/x"⟩ ∧
      (normalized extended nav "d" ⟨1, 1⟩).toOption = some ⟨"/site", "nav.d/d", true⟩ ∧
      Path.normalize (Path.below (Path.directory home.path)
        (via [turn extended "nav" "nav" nav.path] "d")) = .ok "d" := by
  intro store page shared extended home nav
  refine ⟨fun raw member => ?_, ⟨?_, ?_, ?_⟩, ?_, ?_, ?_⟩
  · refine ⟨?_, ?_, ?_⟩ <;> revert raw <;> decide +kernel
  all_goals decide +kernel

end TemplateCompiler.IncludeTarget
