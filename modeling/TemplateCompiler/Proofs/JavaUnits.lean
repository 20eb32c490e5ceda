import TemplateCompiler.Proofs.Dependencies.Repetitions
import TemplateCompiler.Proofs.Identities
import TemplateCompiler.Proofs.IncludeOrder
import TemplateCompiler.Proofs.Inlining
import TemplateCompiler.Proofs.NameOrder
import TemplateCompiler.Proofs.Resolution

/-! # The classes of a Java unit

A Java unit declares one class for each template of a tree of includes, all of them in the one
package of the unit: the classes of included templates stand before that of the including one
(`IncludeTree.classTexts`), and only the class at the root is public. A class is named without its
module, though identities are compared with it. So the unit declares two classes of one name just
where two templates name the same class in different modules (`Compiler.javaClasses_of_parse`).
-/

namespace TemplateCompiler

open Markup
open MonadAttach (CanReturn)

namespace Java

variable (config : Config) (template : Template)

/-- How the declaration of a class begins. -/
theorem classText_eq : ∃ members, classText config template =
    (if template.settings.isInclude then "" else "public ") ++ "class " ++
      template.className ++ " \x7b\n" ++ members := by
  unfold classText
  simp only [String.append_assoc, String.append_right_inj]
  exact ⟨_, rfl⟩

theorem classText_ne_empty : classText config template ≠ "" := by
  obtain ⟨members, whole⟩ := classText_eq config template
  rw [whole]
  simp

/-- The content of a template without line feeds around it: its external code and its class. -/
theorem trimLineFeeds_renderContent (trimmed : Text.IsLineTrimmed template.externalCode) :
    Text.trimLineFeeds (renderContent config template) =
      Text.addLine template.externalCode (classText config template) := by
  have whole := trimmed.addLine (of_classText config template).1
  have nonempty := classText_ne_empty config template
  rw [renderContent_eq]
  generalize classText config template = code at whole nonempty ⊢
  by_cases bare : template.externalCode = ""
  · have single : Text.addLine template.externalCode code = code := by
      rw [bare, Text.empty_addLine]
    rw [single] at whole ⊢
    rw [bare]
    exact Text.trimLineFeeds_append whole (by simp) (by simp)
  · have lines : Text.addLine template.externalCode code =
        template.externalCode ++ "\n" ++ code := by
      simp [Text.addLine, nonempty, bare]
    rw [lines] at whole ⊢
    have split : "\n" ++ template.externalCode ++ "\n" ++ code ++ "\n" =
        "\n" ++ (template.externalCode ++ "\n" ++ code) ++ "\n" := by
      simp only [String.append_assoc]
    rw [split]
    exact Text.trimLineFeeds_append whole (by simp) (by simp)

end Java

theorem Emitter.renderUnit_java (emitter : Emitter) (java : emitter.target = .java)
    (template : Template) : emitter.renderUnit template =
      "package " ++ Java.package emitter.config template ++ ";\n\n" ++
        (Text.trimEnd template.dependencies ++ "\n\n" ++
          Text.trimLineFeeds (Java.renderContent emitter.config template) ++ "\n") := by
  simp only [renderUnit, java, renderContent]

namespace IncludeTree

mutual

/-- The classes of a tree: those of its included trees, and then that of its own template. -/
def classTexts (config : Config) : IncludeTree → List String
  | ⟨template, included⟩ =>
    forestClassTexts config included ++ [Java.classText config template]

/-- The classes of several trees, one tree after the other. -/
def forestClassTexts (config : Config) : List IncludeTree → List String
  | [] => []
  | tree :: rest => tree.classTexts config ++ forestClassTexts config rest

end

theorem classTexts_eq (config : Config) (tree : IncludeTree) :
    tree.classTexts config =
      forestClassTexts config tree.included ++ [Java.classText config tree.template] := by
  cases tree
  rfl

theorem forestClassTexts_append (config : Config) (left right : List IncludeTree) :
    forestClassTexts config (left ++ right) =
      forestClassTexts config left ++ forestClassTexts config right := by
  induction left with
  | nil => rfl
  | cons tree rest ih => simp [forestClassTexts, ih]

mutual

/-- The classes of a tree are those of its templates. -/
theorem classTexts_perm (config : Config) : (tree : IncludeTree) →
    (tree.classTexts config).Perm (tree.templates.map (Java.classText config))
  | ⟨template, included⟩ => by
    rw [classTexts, templates, List.map_cons]
    exact List.perm_append_comm.trans ((forestClassTexts_perm config included).cons _)

theorem forestClassTexts_perm (config : Config) : (forest : List IncludeTree) →
    (forestClassTexts config forest).Perm ((forestTemplates forest).map (Java.classText config))
  | [] => .nil
  | tree :: rest => by
    rw [forestClassTexts, forestTemplates, List.map_append]
    exact (classTexts_perm config tree).append (forestClassTexts_perm config rest)

end

/-- The classes of the included trees stand in the external code at the top of a tree. -/
structure DeclaresClasses (config : Config) (tree : IncludeTree) : Prop where
  trimmed : Text.IsLineTrimmed tree.template.externalCode
  ordered : Text.InOrder (forestClassTexts config tree.included) tree.template.externalCode

/-- The classes of a tree stand in the content of its template. -/
theorem DeclaresClasses.inOrder {config : Config} {tree : IncludeTree}
    (declares : tree.DeclaresClasses config) :
    Text.InOrder (tree.classTexts config)
      (Text.trimLineFeeds (Java.renderContent config tree.template)) := by
  obtain ⟨middle, ends⟩ :=
    Text.exists_addLine tree.template.externalCode (Java.classText config tree.template)
  rw [Java.trimLineFeeds_renderContent config tree.template declares.trimmed, ends, classTexts_eq]
  exact (declares.ordered.append_right middle).append (.singleton (.refl _))

/-- Where identities are distinct, class names are distinct just where templates that name the same
class name it in the same module. -/
theorem classNames_nodup_iff {tree : IncludeTree} (distinct : tree.identities.Nodup) :
    (tree.templates.map Template.className).Nodup ↔
      tree.templates.Pairwise fun first second =>
        first.className = second.className → first.moduleName = second.moduleName := by
  have apart : tree.templates.Pairwise fun first second => first.identity ≠ second.identity :=
    List.pairwise_map.mp distinct
  constructor
  · intro classes
    have different := List.pairwise_map.mp classes
    exact different.imp fun other same => absurd same other
  · intro modules
    refine List.pairwise_map.mpr (apart.imp₂ ?_ modules)
    intro first second other together same
    exact other (congrArg₂ Identity.mk (together same) same)

end IncludeTree

namespace Compiler

variable {m : Type → Type} [Monad m]

omit [Monad m] in
/-- The classes of what is included are declared at the top. -/
theorem declaresClasses_invariant (compiler : Compiler m)
    (java : compiler.emitter.target = .java) :
    compiler.SectionInvariant fun _ tree => tree.DeclaresClasses compiler.emitter.config where
  fresh := fun settings created => ⟨compiler.emitter.isLineTrimmed_prepare rfl, trivial⟩
  fragments := fun _ _ _ _ declares => ⟨declares.trimmed, declares.ordered⟩
  perform := by
    intro read tree s template declares _ _ result
    obtain ⟨_, added⟩ := Template.added_of_perform result
    cases declared : s.directive.externalCode? with
    | none =>
        have same : template.externalCode = tree.template.externalCode := by
          simpa [declared] using added
        exact ⟨same ▸ declares.trimmed, same ▸ declares.ordered⟩
    | some code =>
        have grown : template.externalCode = Text.addLine tree.template.externalCode code := by
          simpa [declared] using added
        obtain ⟨middle, ends⟩ := Text.exists_addLine tree.template.externalCode code
        refine ⟨grown ▸ declares.trimmed.addLine (isLineTrimmed_of_externalCode? declared), ?_⟩
        rw [IncludeTree.withTemplate_template, grown, ends]
        exact (declares.ordered.append_right middle).append_right code
  adopt := by
    intro ancestors parent child location read childRead s path tree outer inner _ adopted
    obtain ⟨merged, _, rfl⟩ := IncludeTree.exists_of_adopt adopted
    have brought : compiler.emitter.broughtCode child.template =
        Text.trimLineFeeds (Java.renderContent compiler.emitter.config child.template) := by
      simp only [Emitter.broughtCode, Emitter.renderContent, java]
    obtain ⟨middle, ends⟩ := Text.exists_addLine parent.template.externalCode
      (compiler.emitter.broughtCode child.template)
    refine ⟨outer.trimmed.addLine (brought ▸ Text.isLineTrimmed_trimLineFeeds _), ?_⟩
    have whole : IncludeTree.forestClassTexts compiler.emitter.config (parent.included ++ [child]) =
        IncludeTree.forestClassTexts compiler.emitter.config parent.included ++
          child.classTexts compiler.emitter.config := by
      simp [IncludeTree.forestClassTexts_append, IncludeTree.forestClassTexts]
    have ordered := (outer.ordered.append_right middle).append inner.inOrder
    rw [← brought, ← ends] at ordered
    exact whole ▸ ordered

variable [LawfulMonad m] [MonadAttach m] [LawfulMonadAttach m]

/-- **The classes of a Java unit** are those of the templates of the tree, each of them declared
once, apart from the others and before the class of the template that includes it, behind the
package of the unit. Just the class at the root is public, unless it is parsed as an include
itself. Their names are distinct if and only if no two templates name one class in two modules. -/
theorem javaClasses_of_parse (compiler : Compiler m) (source : String) (settings : Settings)
    (tree : IncludeTree) (java : compiler.emitter.target = .java)
    (returned : CanReturn (compiler.parse source settings) (.ok tree)) :
    ((tree.classTexts compiler.emitter.config).Perm
        (tree.templates.map (Java.classText compiler.emitter.config)) ∧
      ∃ code, compiler.render tree =
          "package " ++ Java.package compiler.emitter.config tree.template ++ ";\n\n" ++ code ∧
        Text.InOrder (tree.classTexts compiler.emitter.config) code) ∧
    (∀ template, ∃ members, Java.classText compiler.emitter.config template =
      (if template.settings.isInclude then "" else "public ") ++ "class " ++
        template.className ++ " \x7b\n" ++ members) ∧
    tree.templates.filter (fun template => !template.settings.isInclude) =
      (if settings.isInclude then [] else [tree.template]) ∧
    ((tree.templates.map Template.className).Nodup ↔
      tree.templates.Pairwise fun first second =>
        first.className = second.className → first.moduleName = second.moduleName) := by
  have declares := (compiler.declaresClasses_invariant java).of_parse returned
  have includes := compiler.isInclude_invariant.of_parse returned
  have distinct := compiler.identities_invariant.of_parse returned
  have root : tree.template.settings = settings := settings_of_parseWithin returned
  refine ⟨⟨tree.classTexts_perm _, _, compiler.emitter.renderUnit_java java tree.template, ?_⟩,
    Java.classText_eq _, ?_, tree.classNames_nodup_iff distinct⟩
  · exact (declares.inOrder.append_left _).append_right _
  · have below : tree.includedTemplates.filter (fun template => !template.settings.isInclude) =
        [] := by
      refine List.filter_eq_nil_iff.mpr fun template inside => ?_
      simp [includes template inside]
    rw [IncludeTree.templates_eq, List.filter_cons, below, root]
    cases settings.isInclude <;> rfl

/-- The dependencies of a new template with a name can be merged with those of a parsed one that
declares none behind its last include. -/
theorem exists_merge_of_parseWithin {compiler : Compiler m} {created depth later : Nat}
    {settings inner : Settings} {ancestors : List Identity} {source : String} {kind : NameKind}
    {chars : List Char} {template : Template} {child : IncludeTree}
    (performed : (compiler.startDraft created settings).tree.template.perform (.name kind chars) =
      .ok template)
    (none : trailingDependencies (sections source.toList).1 = [])
    (parsed : CanReturn (compiler.parseWithin depth later ancestors inner source) (.ok child)) :
    ∃ merged, compiler.emitter.rule.merge template.dependencies child.template.dependencies =
      .ok merged := by
  obtain ⟨block, settles, seeded⟩ := compiler.settles_invariant.fresh settings created
  obtain ⟨seeds, occurs, _⟩ := settles.exists_occurrences
  obtain ⟨met, meets, _⟩ := exists_occurrences_of_parseWithin none parsed
  have same : template.dependencies = block :=
    (Template.added_of_perform performed).1.trans
      (seeded.trans (Text.joinFilled_singleton block))
  exact DependencyRule.exists_merge_iff.mpr ⟨⟨seeds, same ▸ occurs⟩, met, meets⟩

/-- A page that declares a name, includes a template and says nothing else is parsed to the tree
that takes the included one in. -/
theorem parse_of_named_include {compiler : Compiler Id} {settings : Settings} {source : String}
    {kind : NameKind} {chars path written pathWritten : List Char} {template : Template}
    {child tree : IncludeTree} {location : Location}
    (read : sections source.toList =
      ([⟨[], written, .name kind chars⟩, ⟨[], pathWritten, .inclusion path⟩], []))
    (named : kind ≠ .engineName) (nonempty : String.ofList chars ≠ "")
    (accepted : (compiler.startDraft 0 settings).tree.template.declare kind (String.ofList chars) =
      .ok template)
    (finds : compiler.Finds ⟨0, [], settings, source⟩ ⟨template, []⟩ (String.ofList path) child)
    (adopted : IncludeTree.adopt compiler.emitter [] ⟨template, []⟩ child location = .ok tree) :
    compiler.parse source settings = pure (.ok tree) := by
  let call : Call := ⟨0, [], settings, source⟩
  have literal : EndsInLiteral source.toList := by
    rw [EndsInLiteral, read]
    rfl
  obtain ⟨mid, followed, behind, off⟩ := (Draft.follow_name compiler.emitter.writer call.ancestors
    (compiler.compose (compiler.levelsBelow call) 0 []) ⟨[], written, .name kind chars⟩
    isBetween_startDraft rfl named nonempty accepted).1 ⟨List.not_mem_nil, rfl⟩
  have first : compiler.follow call (compiler.startDraft 0 settings)
      ⟨[], written, .name kind chars⟩ = pure mid := followed
  have placed := Draft.isBetween_of_follow isBetween_startDraft
    (show CanReturn (compiler.follow call _ _) mid from first)
  have same : compiler.atEnd mid [] = ⟨template, []⟩ := by
    rw [atEnd, behind, Draft.treeBehind, IncludeTree.withLiteral_nil, IncludeTree.withLiteral_nil]
    rfl
  rw [← same] at finds adopted
  obtain ⟨last, follows, whole, lastOff⟩ := compiler.exists_follow_of_finds
    ⟨[], pathWritten, .inclusion path⟩ placed rfl finds adopted
  have second : compiler.follow call mid ⟨[], pathWritten, .inclusion path⟩ = pure last := follows
  have ended := Draft.isBetween_of_follow placed follows
  have all : (sections source.toList).1.foldlM (compiler.follow call)
      (compiler.startDraft 0 settings) = pure last := by
    rw [read, List.foldlM_cons, first, pure_bind, List.foldlM_cons, second, pure_bind,
      List.foldlM_nil]
  have parsed := parseWith_of_sections literal all (lastOff.trans off) ended.state
  have silent : (last.addPiece compiler.emitter.writer
      (.literal (last.pending.toList ++ (sections source.toList).2))).tree = tree := by
    rw [read, ended.pending, ← whole]
    exact (Draft.tree_addPiece compiler.emitter.writer last _ rfl rfl).trans
      (IncludeTree.withLiteral_nil last.tree compiler.emitter.writer last.mode)
  rw [silent, ← parseCall_eq call] at parsed
  exact parsed

/-- A page that includes a template of another module with a class of the same name: the unit
declares this class twice. -/
theorem javaClasses_of_page :
    let compiler := Compiler.ofTexts .java
      [("/site/nav.blade", "<%$\x60Parts\x60%><%@\x60Home\x60%>")]
    let source := "<%@\x60Home\x60%><%# 'nav' %>"
    ∃ tree, CanReturn (compiler.parse source ⟨"home.blade", "/site", true, false⟩) (.ok tree) ∧
      tree.identities = [⟨"BladeModule", "Home"⟩, ⟨"Parts", "Home"⟩] ∧
      Text.InOrder (tree.classTexts compiler.emitter.config) (compiler.render tree) ∧
      tree.templates.filter (fun template => !template.settings.isInclude) = [tree.template] ∧
      ¬ (tree.templates.map Template.className).Nodup := by
  intro compiler source
  let settings : Settings := ⟨"home.blade", "/site", true, false⟩
  let nav : Call := ⟨1, [⟨"BladeModule", "Home"⟩], ⟨"nav.blade", "/site", true, true⟩,
    "<%$\x60Parts\x60%><%@\x60Home\x60%>"⟩
  have read : sections source.toList =
      ([⟨[], "@\x60Home\x60%>".toList, .name .className "Home".toList⟩,
        ⟨[], "# 'nav' %>".toList, .inclusion "nav".toList⟩], []) := by decide +kernel
  obtain ⟨page, named, identity⟩ := Option.map_eq_some_iff.mp
    (show ((compiler.startDraft 0 settings).tree.template.declare .className "Home").toOption.map
      Template.identity = some ⟨"BladeModule", "Home"⟩ by decide +kernel)
  obtain ⟨child, parsed, inner⟩ := Option.map_eq_some_iff.mp
    (show (Except.toOption (compiler.parseCall nav)).map IncludeTree.identities =
      some [⟨"Parts", "Home"⟩] by decide +kernel)
  have accepted := eq_ok_of_toOption named
  have settled : page.settings = settings := Template.settings_of_declare accepted
  -- The imports of every class are long: that they can be merged is not read off their text.
  have performed : (compiler.startDraft 0 settings).tree.template.perform
      (.name .className "Home".toList) = .ok page := accepted
  obtain ⟨merged, merges⟩ := exists_merge_of_parseWithin performed (by decide +kernel)
    (canReturn_of_toOption parsed)
  have adopted : IncludeTree.adopt compiler.emitter [] ⟨page, []⟩ child ⟨0, 0⟩ =
      .ok (IncludeTree.taking compiler.emitter ⟨page, []⟩ child merged) := by
    refine IncludeTree.adopt_eq_ok_iff.mpr ⟨?_, merged, merges, rfl⟩
    rw [inner, List.forall_mem_singleton]
    change _ ∉ [page.identity] ∧ _
    rw [identity]
    decide
  have finds : compiler.Finds ⟨0, [], settings, source⟩ ⟨page, []⟩ "nav" child := by
    refine ⟨by decide, ⟨1, 1⟩, ⟨nav.settings, "/site/nav.blade"⟩, nav.source, ?_, ?_, ?_⟩
    · change CanReturn (IncludeTarget.resolve _ _ page.settings _ _) _
      rw [settled]
      exact canReturn_of_toOption (by decide +kernel)
    · exact canReturn_of_toOption (by decide +kernel)
    · change CanReturn (compiler.parseCall ⟨1, [page.identity], _, _⟩) _
      rw [identity]
      exact canReturn_of_toOption parsed
  obtain ⟨tree, result, listed⟩ : ∃ tree, compiler.parse source settings = .ok tree ∧
      tree.identities = [⟨"BladeModule", "Home"⟩, ⟨"Parts", "Home"⟩] := by
    refine ⟨_, parse_of_named_include read nofun (by decide) accepted finds adopted, ?_⟩
    rw [IncludeTree.identities_taking, inner]
    exact congrArg (· :: [⟨"Parts", "Home"⟩]) identity
  have returned : CanReturn (compiler.parse source settings) (.ok tree) :=
    canReturn_of_toOption (by rw [result]; rfl)
  obtain ⟨⟨_, code, unit, ordered⟩, _, root, apart⟩ :=
    compiler.javaClasses_of_parse source _ tree rfl returned
  refine ⟨tree, returned, listed, ?_, root, fun distinct => ?_⟩
  · rw [unit]
    exact ordered.append_left _
  · have modules := apart.mp distinct
    have pairs : tree.identities.Pairwise fun first second =>
        first.className = second.className → first.moduleName = second.moduleName :=
      List.pairwise_map.mpr modules
    rw [listed] at pairs
    revert pairs
    decide

end Compiler

end TemplateCompiler
