import TemplateCompiler.Proofs.Resolution

/-! # Local includes stay below their root

Every local template that a parse reaches through includes keeps the root of the template
at the top, and its path leads down from there (`Compiler.local_confined_of_parse`). What a
step preserves is `Settings.StartsAt`: includes of a template with such settings resolve to
confined ones (`IncludeTarget.confinedTo_of_resolve`), which start at the top again. To
speak of parses that fail as well, `Compiler.parseOnly` refuses to read or to parse what is
not allowed; it makes no difference as long as confined targets are allowed.

All this holds for every loader. Only where the index file is empty or a dot does the loader
have a say in whether a path ends in a name, see `Loader.Skips`.
-/

namespace TemplateCompiler

open MonadAttach (CanReturn)

namespace Settings

/-- There is a colon in the path of the template at the top or in a suffix. -/
def BringsColon (top : Settings) (config : Config) : Prop :=
  ':' ∈ top.path.toList ∨ ':' ∈ config.templateExtension.toList ∨
    ':' ∈ config.indexFile.toList

/-- Settings that local includes start from: the root is that of the template at the top, and
the path starts with no separator. -/
structure StartsAt (settings top : Settings) (config : Config) : Prop where
  root : settings.root = top.root
  unrooted : Path.Unrooted settings.path
  colon : ':' ∈ settings.path.toList → top.BringsColon config

/-- Settings that local includes lead to. Their path counts as rooted only for a colon that
the path of the template at the top or a suffix brings along. -/
structure ConfinedTo {m : Type → Type} [Monad m] [MonadAttach m] (settings top : Settings)
    (config : Config) (loader : Loader m) : Prop where
  root : settings.root = top.root
  unrooted : Path.Unrooted settings.path
  leadsDown : Path.LeadsDown settings.path
  /-- An idle index file is the last segment only to a loader that tells `a/.` from `a`. -/
  confined : (config.HasIdleIndex → loader.Skips config.indexFile) → Path.Confined settings.path
  rooted : Path.isRooted settings.path = true → top.BringsColon config
  below : Path.LiesBelow (Path.join settings.root settings.path) top.root

/-- Settings of a library template, or settings that local includes start from. -/
def StaysIn (settings top : Settings) (config : Config) : Prop :=
  settings.isLocal = true → settings.StartsAt top config

variable {m : Type → Type} [Monad m] [MonadAttach m] {settings top : Settings} {config : Config}
  {loader : Loader m}

theorem StartsAt.self (unrooted : Path.Unrooted top.path) : StartsAt top top config :=
  ⟨rfl, unrooted, .inl⟩

theorem ConfinedTo.startsAt (confinement : settings.ConfinedTo top config loader) :
    settings.StartsAt top config := by
  refine ⟨confinement.root, confinement.unrooted, fun colon => confinement.rooted ?_⟩
  rw [Path.isRooted, List.contains_iff_mem.mpr colon, Bool.or_true]

theorem ConfinedTo.of_leadsDown (root : settings.root = top.root)
    (unrooted : Path.Unrooted settings.path) (down : Path.LeadsDown settings.path)
    (confined : (config.HasIdleIndex → loader.Skips config.indexFile) → Path.Confined settings.path)
    (colon : ':' ∈ settings.path.toList → top.BringsColon config) :
    settings.ConfinedTo top config loader := by
  refine ⟨root, unrooted, down, confined, fun rooted => colon ?_,
    root ▸ Path.liesBelow_join down _⟩
  rw [Path.isRooted, Bool.or_eq_true, List.contains_iff_mem] at rooted
  rcases rooted with separator | inside
  · cases head : settings.path.toList.head? with
    | none =>
        rw [head] at separator
        cases separator
    | some c =>
        have other := unrooted c head
        rw [head, Option.any_some, other] at separator
        cases separator
  · exact inside

end Settings

variable {m : Type → Type} [Monad m] [LawfulMonad m] [MonadAttach m] [LawfulMonadAttach m]

/-- A path that is found has the colons of the path it is found for and of the suffixes. -/
theorem IncludeTarget.colon_of_findFile {loader : Loader m} {config : Config}
    {root relative path : String}
    (found : CanReturn (findFile loader config root relative) (some path))
    (colon : ':' ∈ path.toList) :
    ':' ∈ relative.toList ∨ ':' ∈ config.templateExtension.toList ∨
      ':' ∈ config.indexFile.toList := by
  rcases findFile_cases found with rfl | rfl | ⟨rfl, _, _⟩
  · exact .inl colon
  · rw [String.toList_append, List.mem_append] at colon
    exact colon.imp_right .inl
  · have parts : ':' ∈ relative.toList ∨ ':' ∈ config.indexFile.toList := by simpa using colon
    exact parts.imp_right .inr

/-- **One include keeps local templates confined.** -/
theorem IncludeTarget.confinedTo_of_resolve {loader : Loader m} {config : Config}
    {including top : Settings} {raw : String} {location : Location} {target : IncludeTarget}
    (stays : including.StaysIn top config)
    (plain : config.HasPlainSuffixes)
    (resolved : CanReturn (resolve loader config including raw location) (.ok target))
    (isLocal : target.settings.isLocal = true) :
    target.settings.ConfinedTo top config loader := by
  obtain ⟨start, path, normal, found, rfl⟩ := exists_of_resolve resolved
  obtain ⟨first, based, written, normal, some, sameRoot, sameLocal⟩ :=
    exists_of_normalized normal
  have firstLocal : first.isLocal = true := sameLocal ▸ isLocal
  obtain ⟨includingLocal, root, _⟩ := base_of_isLocal based firstLocal
  have includingStarts := stays includingLocal
  obtain ⟨nonempty, unrooted, colons⟩ :=
    unrooted_of_base based written firstLocal includingStarts.unrooted
  have relative := Path.Confined.of_normalize unrooted nonempty normal some
  obtain ⟨free, down⟩ := leadsDown_of_findFile relative plain found
  have confined := fun skips => confined_of_findFile relative plain skips found
  refine .of_leadsDown ?_ free down confined fun colon => ?_
  · calc start.root = first.root := sameRoot
      _ = including.root := root
      _ = top.root := includingStarts.root
  · rcases colon_of_findFile found colon with inside | suffix
    · rcases Path.mem_of_normalize unrooted nonempty normal ':' inside with slash | before
      · exact absurd slash (by decide)
      · exact includingStarts.colon (colons before)
    · exact .inr suffix

namespace Compiler

/-- Includes the template at a quoted path where that is allowed, and refuses to read it
otherwise. -/
def composeOnly (compiler : Compiler m) (allowed : IncludeTarget → Prop) [DecidablePred allowed]
    (parse? : Option (ParseText m)) (created : Nat) (ancestors : List Identity)
    (parent : IncludeTree) (raw : String) (location : Location) :
    m (Except ParseError IncludeTree) := do
  match ← IncludeTarget.resolve compiler.loader compiler.emitter.config
      parent.template.settings raw location with
  | .error cause => return .error cause
  | .ok target =>
    if allowed target then
      compiler.incorporate parse? created ancestors parent location (.ok target)
    else return .error (.rootedInclude raw location)

/-- Parses a text with includes composed in a given way where they are allowed. -/
def parseOnlyWith (compiler : Compiler m) (allowed : IncludeTarget → Prop)
    [DecidablePred allowed] (parse? : Option (ParseText m)) : ParseText m :=
  fun created ancestors settings source =>
    match compiler.newTemplate settings (compiler.ids created) with
    | .error cause => pure (.error cause)
    | .ok template =>
      Draft.run compiler.emitter.writer ancestors
        (compiler.composeOnly allowed parse? created ancestors) (Draft.start template)
        source.toList

/-- Parses a text with so many levels of allowed includes. -/
def parseOnlyWithin (compiler : Compiler m) (allowed : IncludeTarget → Prop)
    [DecidablePred allowed] : (depth : Nat) → ParseText m
  | 0 => compiler.parseOnlyWith allowed none
  | depth + 1 => compiler.parseOnlyWith allowed (some (compiler.parseOnlyWithin allowed depth))

/-- Parses a template that is not included by another, with allowed includes only. -/
def parseOnly (compiler : Compiler m) (allowed : IncludeTarget → Prop) [DecidablePred allowed]
    (source : String) (settings : Settings) : m (Except ParseError IncludeTree) :=
  compiler.parseOnlyWithin allowed compiler.emitter.config.maxIncludeDepth 0 [] settings source

variable {compiler : Compiler m} {top : Settings}

/-- Confinement is an invariant of every tree whose own template starts at the top. -/
theorem confined_invariant (plain : compiler.emitter.config.HasPlainSuffixes) :
    compiler.Invariant fun tree =>
      tree.template.settings.StaysIn top compiler.emitter.config →
      ∀ template ∈ tree.includedTemplates, template.settings.isLocal = true →
        template.settings.ConfinedTo top compiler.emitter.config compiler.loader where
  fresh := by
    intro settings created template new starts included member
    cases member
  edit := by
    intro ancestors tree template valid edited starts
    rw [IncludeTree.withTemplate_template, edited.settings_eq] at starts
    rw [IncludeTree.withTemplate_includedTemplates]
    exact valid starts
  adopt := by
    intro ancestors parent child tree raw location target valid inner resolved settings adopted
      starts template member isLocal
    obtain ⟨_, _, _, rfl⟩ := IncludeTree.adopt_eq_ok adopted
    have confined := IncludeTarget.confinedTo_of_resolve starts plain resolved
    rw [← settings] at confined
    rcases IncludeTree.mem_includedTemplates_addIncluded.mp member with before | rfl | below
    · exact valid starts template before isLocal
    · exact confined isLocal
    · exact inner (fun childLocal => (confined childLocal).startsAt) template below isLocal

/-- What templates that stay in the root of the top include is allowed, and stays there. -/
def Permits (compiler : Compiler m) (top : Settings) (allowed : IncludeTarget → Prop) : Prop :=
  ∀ including raw location target, including.StaysIn top compiler.emitter.config →
    CanReturn (IncludeTarget.resolve compiler.loader compiler.emitter.config including raw
      location) (.ok target) →
    allowed target ∧ target.settings.StaysIn top compiler.emitter.config

/-- Two ways to parse, where there are any, agree on templates that stay in the root. -/
def Agree (compiler : Compiler m) (top : Settings) (parse? other? : Option (ParseText m)) : Prop :=
  ∀ created ancestors settings source, settings.StaysIn top compiler.emitter.config →
    parse?.map (· created ancestors settings source) =
      other?.map (· created ancestors settings source)

variable {allowed : IncludeTarget → Prop} [DecidablePred allowed]

/-- Includes may be held to what is allowed: what they resolve to is allowed. -/
theorem compose_eq_composeOnly (permits : compiler.Permits top allowed)
    {parse? other? : Option (ParseText m)} (same : compiler.Agree top parse? other?)
    {created : Nat} {ancestors : List Identity} {parent : IncludeTree} {raw : String}
    {location : Location}
    (stays : parent.template.settings.StaysIn top compiler.emitter.config) :
    compiler.compose parse? created ancestors parent raw location =
      compiler.composeOnly allowed other? created ancestors parent raw location := by
  refine bind_congr_of_canReturn fun result resolved => ?_
  cases result with
  | error cause => rfl
  | ok target =>
      obtain ⟨allow, next⟩ := permits _ _ _ _ stays resolved
      have agree := fun created ancestors source =>
        same created ancestors target.settings source next
      dsimp only
      rw [if_pos allow]
      -- Either both have a way to parse or neither has, whatever the text.
      cases parse? with
      | none =>
          cases other? with
          | none => rfl
          | some other => cases agree 0 [] ""
      | some parse =>
          cases other? with
          | none => cases agree 0 [] ""
          | some other =>
              refine bind_congr fun reading => ?_
              cases reading with
              | error reason => rfl
              | ok text =>
                  have equal := Option.some.inj (agree (created + parent.size)
                    (ancestors ++ [parent.template.identity]) text)
                  dsimp only at equal ⊢
                  rw [equal]

/-- Parsing what stays in the root includes only what is allowed, where that holds below. -/
theorem parseWith_eq_parseOnlyWith (permits : compiler.Permits top allowed)
    {parse? other? : Option (ParseText m)} (same : compiler.Agree top parse? other?)
    (created : Nat) (ancestors : List Identity) {settings : Settings} (source : String)
    (stays : settings.StaysIn top compiler.emitter.config) :
    compiler.parseWith parse? created ancestors settings source =
      compiler.parseOnlyWith allowed other? created ancestors settings source := by
  unfold parseWith parseOnlyWith
  cases new : compiler.newTemplate settings (compiler.ids created) with
  | error cause => rfl
  | ok template =>
      refine Draft.run_congr (fun tree => tree.template.settings = settings) ?_ ?_ ?_ _ _
        (newTemplate_settings new)
      · intro tree template kept edited
        exact edited.settings_eq.trans kept
      · intro parent path location tree kept composed
        obtain ⟨_, _, _, _, _, _, _, _, adopted⟩ := exists_of_compose composed
        obtain ⟨_, _, _, rfl⟩ := IncludeTree.adopt_eq_ok adopted
        exact kept
      · intro parent path location kept
        exact compose_eq_composeOnly permits same (kept ▸ stays)

/-- At every depth, parsing what stays in the root includes only what is allowed. -/
theorem parseWithin_eq_parseOnlyWithin (permits : compiler.Permits top allowed)
    (depth created : Nat) (ancestors : List Identity) (settings : Settings) (source : String)
    (stays : settings.StaysIn top compiler.emitter.config) :
    compiler.parseWithin depth created ancestors settings source =
      compiler.parseOnlyWithin allowed depth created ancestors settings source := by
  induction depth generalizing created ancestors settings source with
  | zero =>
      have same : compiler.Agree top none none := fun _ _ _ _ _ => rfl
      exact parseWith_eq_parseOnlyWith permits same created ancestors source stays
  | succ depth ih =>
      have same : compiler.Agree top (some (compiler.parseWithin depth))
          (some (compiler.parseOnlyWithin allowed depth)) := by
        intro created ancestors settings source stays
        exact congrArg some (ih created ancestors settings source stays)
      exact parseWith_eq_parseOnlyWith permits same created ancestors source stays

/-- **Local includes are confined to the root.** Every local template that a parse includes, at
any depth, has the root of the template at the top, and a path of names below it. Where parsing
fails as well, no other local target is read: to refuse all but those that are confined makes
no difference. -/
theorem local_confined_of_parse (compiler : Compiler m) (source : String) (top : Settings)
    (unrooted : Path.Unrooted top.path) (plain : compiler.emitter.config.HasPlainSuffixes) :
    (∀ tree, CanReturn (compiler.parse source top) (.ok tree) →
      ∀ template ∈ tree.includedTemplates, template.settings.isLocal = true →
        template.settings.ConfinedTo top compiler.emitter.config compiler.loader) ∧
    ∀ (allowed : IncludeTarget → Prop) [DecidablePred allowed],
      (∀ target, target.file = Path.join target.settings.root target.settings.path →
        (target.settings.isLocal = true →
          target.settings.ConfinedTo top compiler.emitter.config compiler.loader) →
            allowed target) →
      compiler.parse source top = compiler.parseOnly allowed source top := by
  have stays : top.StaysIn top compiler.emitter.config := fun _ => .self unrooted
  refine ⟨?_, ?_⟩
  · intro tree returned
    have settings : tree.template.settings = top := settings_of_parseWithin returned
    exact (confined_invariant plain).of_parse returned (settings ▸ stays)
  · intro allowed _ confinement
    have permits : compiler.Permits top allowed := by
      intro including raw location target start resolved
      have confined := IncludeTarget.confinedTo_of_resolve start plain resolved
      exact ⟨confinement target (IncludeTarget.file_of_resolve resolved) confined,
        fun isLocal => (confined isLocal).startsAt⟩
    exact parseWithin_eq_parseOnlyWithin permits _ 0 [] top source stays

/-- A page that includes a part of the site, which includes the index file of a directory. -/
theorem local_confined_of_parse_page :
    let compiler := Compiler.ofTexts .cSharp
      [("/site/parts/nav.blade", "<%# './x\\..\\menu//' %>"), ("/site/parts/menu/index.blade", "")]
    let top : Settings := ⟨"pages/home.blade", "/site", true, false⟩
    let included : List Settings :=
      [⟨"parts/nav.blade", "/site", true, true⟩, ⟨"parts/menu/index.blade", "/site", true, true⟩]
    let allowed := fun target : IncludeTarget =>
      target.settings.isLocal = true → target.settings.root = "/site"
    (compiler.parse "<%# '../parts/nav' %>" top).toOption.map
        (fun tree => tree.includedTemplates.map Template.settings) = some included ∧
      (∀ settings ∈ included,
        settings.ConfinedTo top compiler.emitter.config compiler.loader ∧
          Path.Confined settings.path) ∧
      compiler.parse "<%# '../parts/nav' %>" top =
        compiler.parseOnly allowed "<%# '../parts/nav' %>" top := by
  intro compiler top included allowed
  have parsed : (compiler.parse "<%# '../parts/nav' %>" top).toOption.map
      (fun tree => tree.includedTemplates.map Template.settings) = some included := by
    decide +kernel
  have unrooted : Path.Unrooted top.path := by decide +kernel
  have plain : compiler.emitter.config.HasPlainSuffixes :=
    ⟨Config.hasPlainSuffixes_default.extension, Config.hasPlainSuffixes_default.index⟩
  have skips (idle : compiler.emitter.config.HasIdleIndex) :
      compiler.loader.Skips compiler.emitter.config.indexFile := MemoryStore.loader_skips _ idle
  have confinement := compiler.local_confined_of_parse "<%# '../parts/nav' %>" top unrooted
    plain
  obtain ⟨tree, result, listed⟩ := Option.map_eq_some_iff.mp parsed
  refine ⟨parsed, ?_, ?_⟩
  · intro settings member
    rw [← listed] at member
    obtain ⟨template, inside, rfl⟩ := List.mem_map.mp member
    have locals : ∀ settings ∈ included, settings.isLocal = true := by decide
    have confined := confinement.1 tree (canReturn_of_toOption result) template inside
      (locals _ (listed ▸ member))
    exact ⟨confined, confined.confined skips⟩
  · exact confinement.2 allowed fun target _ confined isLocal => (confined isLocal).root

/-- Included paths may count as rooted, for a colon of the extension or of the template at the top,
and end in no name, where a loader tells the path with an idle index file from the one without. -/
theorem local_includes_rooted_or_idle :
    let extended := { Compiler.ofTexts .cSharp [("/site/nav:x", "")] with
      emitter := ⟨.cSharp, { templateExtension := ":x" }, .dotted⟩ }
    let nested := Compiler.ofTexts .cSharp [("/site/c:/nav.blade", "")]
    let indexed := fun index => { Compiler.ofTexts .cSharp [] with
      emitter := ⟨.cSharp, { indexFile := index }, .dotted⟩
      loader := { isFile := fun path => path == "/site/nav/" ++ index
                  isDirectory := fun path => path == "/site/nav"
                  read := fun _ => .ok "" } }
    let home : Settings := ⟨"home.blade", "/site", true, false⟩
    let below : Settings := ⟨"c:/home.blade", "/site", true, false⟩
    let included := fun (compiler : Compiler Id) (top : Settings) =>
      (compiler.parse "<%# 'nav' %>" top).toOption.map fun tree =>
        tree.includedTemplates.map Template.settings
    Path.Unrooted home.path ∧ Path.Unrooted below.path ∧
    (extended.emitter.config.HasPlainSuffixes ∧
      included extended home = some [⟨"nav:x", "/site", true, true⟩] ∧
      Path.isRooted "nav:x" = true) ∧
    (nested.emitter.config.HasPlainSuffixes ∧
      included nested below = some [⟨"c:/nav.blade", "/site", true, true⟩] ∧
      Path.isRooted "c:/nav.blade" = true) ∧
    ((indexed ".").emitter.config.HasPlainSuffixes ∧
      included (indexed ".") home = some [⟨"nav/.", "/site", true, true⟩] ∧
      ['.'] ∈ Path.segments "nav/.") ∧
    (indexed "").emitter.config.HasPlainSuffixes ∧
      included (indexed "") home = some [⟨"nav/", "/site", true, true⟩] ∧
      [] ∈ Path.segments "nav/" := by
  intro extended nested indexed home below included
  have extension := Config.hasPlainSuffixes_default.extension
  have index := Config.hasPlainSuffixes_default.index
  have colon : Path.IsPlain ":x" := .of_count (by decide +kernel) (by decide +kernel)
  have dot : Path.IsPlain "." := .of_count (by decide +kernel) (by decide +kernel)
  have empty : Path.IsPlain "" := .of_count (by decide +kernel) (by decide +kernel)
  refine ⟨by decide +kernel, by decide +kernel, ⟨⟨colon, index⟩, ?_, ?_⟩,
    ⟨⟨extension, index⟩, ?_, ?_⟩, ⟨⟨extension, dot⟩, ?_, ?_⟩, ⟨extension, empty⟩, ?_, ?_⟩ <;>
  decide +kernel

end Compiler

end TemplateCompiler
