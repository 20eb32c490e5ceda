import TemplateCompiler.Proofs.Markup.Effects
import TemplateCompiler.Proofs.Text.Parts

/-! # Included templates in the generated code

In C#, Java and Visual Basic, the generated code of each included template stands unbroken in the
generated unit, and the code of templates that one template includes stands there in the order of
the include directives (`Compiler.inlined_of_parse`). An included template is inlined into the
external code of the including one, which grows at its end only and is trimmed; from there it
reaches the content of the including template whole.
-/

namespace TemplateCompiler

open Markup
open MonadAttach (CanReturn)

namespace CSharp

/-- The namespace of a template with its class. -/
def classText (config : Config) (template : Template) : String :=
  "namespace " ++ (template.moduleName ++ "\n\x7b\n    public class " ++ template.className ++
    "\n    \x7b\n" ++ helpers ++ "\n        public string Render(" ++ modelParameter config ++
    ")\n        \x7b\n            " ++ template.body.code ++
    ("\n            var result = _buffer.ToString();\n\n" ++
      "            _buffer.Clear();\n\n            return result;\n        \x7d\n" ++ "        ") ++
    template.functions.code ++ "\n    \x7d\n") ++ "\x7d"

theorem renderContent_eq (config : Config) (template : Template) :
    renderContent config template =
      "\n" ++ template.externalCode ++ "\n" ++ classText config template ++ "\n" := by
  have start : "\nnamespace " = "\n" ++ "namespace " := by decide
  have ending : "\n    \x7d\n\x7d\n" = "\n    \x7d\n" ++ "\x7d" ++ "\n" := by decide
  unfold renderContent classText
  generalize helpers = members
  rw [start, ending]
  simp only [String.append_assoc]

theorem of_classText (config : Config) (template : Template) :
    Text.IsLineTrimmed (classText config template) ∧
      Text.Within template.body.code (classText config template) ∧
      Text.Within template.functions.code (classText config template) :=
  Text.of_frame (by decide) (by decide) (by decide) (by decide) ..

end CSharp

namespace Java

/-- The class of a template. -/
def classText (config : Config) (template : Template) : String :=
  (if template.settings.isInclude then "" else "public ") ++ "class " ++
    (template.className ++ " \x7b\n" ++ helpers ++ "\n    public String render(" ++
    modelParameter config ++ ") \x7b\n        " ++ template.body.code ++
    ("\n        String result = _buffer.toString();\n\n" ++
      "        _buffer.setLength(0);\n\n        return result;\n    \x7d\n    ") ++
    template.functions.code ++ "\n") ++ "\x7d"

theorem renderContent_eq (config : Config) (template : Template) :
    renderContent config template =
      "\n" ++ template.externalCode ++ "\n" ++ classText config template ++ "\n" := by
  have ending : "\n\x7d\n" = "\n" ++ "\x7d" ++ "\n" := by decide
  unfold renderContent classText
  generalize helpers = members
  rw [ending]
  simp only [String.append_assoc]

theorem of_classText (config : Config) (template : Template) :
    Text.IsLineTrimmed (classText config template) ∧
      Text.Within template.body.code (classText config template) ∧
      Text.Within template.functions.code (classText config template) := by
  refine Text.of_frame ?_ (by decide) ?_ (by decide) .. <;> split_ifs <;> decide

end Java

namespace VisualBasic

/-- The namespace of a template with its class. -/
def classText (config : Config) (template : Template) : String :=
  "Namespace " ++ (template.moduleName ++ "\n    Public Class " ++ template.className ++
    "\n        Inherits BladeTemplateVisualBasicBase\n\n" ++ "        Public Function Render(" ++
    modelParameter config ++ ") As String\n            " ++ template.body.code ++
    ("\n            Dim result As String = _buffer.ToString()\n\n" ++
      "            _buffer.Clear()\n\n            Return result\n" ++
      "        End Function\n        ") ++
    template.functions.code ++ "\n    End Class\n") ++ "End Namespace"

theorem renderContent_eq (config : Config) {template : Template}
    (content : template.hasContent = true) :
    renderContent config template =
      "\n" ++ template.externalCode ++ "\n" ++ classText config template ++ "\n" := by
  have start : "\nNamespace " = "\n" ++ "Namespace " := by decide
  have ending : "\n    End Class\nEnd Namespace\n" =
      "\n    End Class\n" ++ "End Namespace" ++ "\n" := by decide
  rw [renderContent, classText, start, ending, content]
  simp only [Bool.not_true, Bool.false_eq_true, ↓reduceIte, String.append_assoc]

theorem of_classText (config : Config) (template : Template) :
    Text.IsLineTrimmed (classText config template) ∧
      Text.Within template.body.code (classText config template) ∧
      Text.Within template.functions.code (classText config template) :=
  Text.of_frame (by decide) (by decide) (by decide) (by decide) ..

theorem isLineTrimmed_baseClass : Text.IsLineTrimmed baseClass := by
  obtain ⟨head, starts⟩ : ∃ head, baseClassHead = "Namespace Blade" ++ head := by
    unfold baseClassHead Text.join
    rw [String.intercalate_cons_cons, String.append_assoc]
    exact ⟨_, rfl⟩
  obtain ⟨last, ends⟩ : ∃ last, baseClassTail = last ++ "End Namespace" := by
    unfold baseClassTail Text.join
    simp only [String.intercalate_cons_cons, String.intercalate_singleton, ← String.append_assoc]
    exact ⟨_, rfl⟩
  have whole : baseClass = "Namespace Blade" ++
      (head ++ "\n" ++ String.join (writeTypes.map writeMethod) ++ last) ++ "End Namespace" := by
    unfold baseClass
    rw [starts, ends]
    simp only [String.append_assoc]
  rw [whole]
  exact Text.isLineTrimmed_of_ends (by decide) (by decide) (by decide)
    (by decide) _

/-- The code of an included template has its content in it, and comments at both ends. -/
theorem of_includedCode (child : Template) (content : String) :
    Text.IsLineTrimmed (includedCode child content) ∧
      Text.Within (Text.trimLineFeeds content) (includedCode child content) := by
  obtain ⟨origin, whole⟩ : ∃ origin, includedCode child content =
      "' ------ include: " ++ origin ++ " (start) -------\n" ++ Text.trimLineFeeds content ++
        "\n' ------ include: " ++ origin ++ " ( end ) -------" := ⟨_, rfl⟩
  have ends : includedCode child content = "' ------ include: " ++
      (origin ++ " (start) -------\n" ++ Text.trimLineFeeds content ++
        "\n' ------ include: " ++ origin) ++ " ( end ) -------" := by
    rw [whole]
    simp only [String.append_assoc]
  constructor
  · rw [ends]
    exact Text.isLineTrimmed_of_ends (by decide) (by decide) (by decide)
      (by decide) _
  · rw [whole]
    exact (((Text.within_append_right _ _).append _).append _).append _

end VisualBasic

namespace Emitter

variable {emitter : Emitter} {template child : Template}

/-- Whether the generated code of a template has its class in it. -/
def rendersClass (emitter : Emitter) (template : Template) : Bool :=
  emitter.target != .visualBasic || template.hasContent

/-- The code of a template as it stands in the template that includes it. -/
def inlined (emitter : Emitter) (template : Template) : String :=
  Text.trimLineFeeds (emitter.renderContent template)

/-- Where templates are inlined, the content of a template is its external code, and its class
where that is rendered. -/
theorem exists_classText (inlines : emitter.target ≠ .javaScript) (template : Template) :
    ∃ classText ending, emitter.renderContent template =
        "\n" ++ template.externalCode ++ "\n" ++ classText ++ ending ∧
      Text.IsLineTrimmed classText ∧
      (emitter.rendersClass template = true →
        Text.Within template.body.code classText ∧
          Text.Within template.functions.code classText) := by
  cases target : emitter.target with
  | javaScript => exact absurd target inlines
  | cSharp =>
      obtain ⟨trimmed, parts⟩ := CSharp.of_classText emitter.config template
      refine ⟨_, "\n", ?_, trimmed, fun _ => parts⟩
      simp only [renderContent, target, CSharp.renderContent_eq]
  | java =>
      obtain ⟨trimmed, parts⟩ := Java.of_classText emitter.config template
      refine ⟨_, "\n", ?_, trimmed, fun _ => parts⟩
      simp only [renderContent, target, Java.renderContent_eq]
  | visualBasic =>
      by_cases content : template.hasContent = true
      · obtain ⟨trimmed, parts⟩ := VisualBasic.of_classText emitter.config template
        refine ⟨_, "\n", ?_, trimmed, fun _ => parts⟩
        simp only [renderContent, target, VisualBasic.renderContent_eq emitter.config content]
      · refine ⟨"", "", ?_, by decide, ?_⟩
        · simp [renderContent, target, VisualBasic.renderContent, content]
        · simp [rendersClass, target, content]

/-- The parts of a template stand in its inlined code. -/
theorem of_inlined (inlines : emitter.target ≠ .javaScript)
    (trimmed : Text.IsLineTrimmed template.externalCode) :
    Text.Within template.externalCode (emitter.inlined template) ∧
      (emitter.rendersClass template = true →
        Text.Within template.body.code (emitter.inlined template) ∧
          Text.Within template.functions.code (emitter.inlined template)) := by
  obtain ⟨classText, ending, content, classTrimmed, parts⟩ := exists_classText inlines template
  have external : Text.Within template.externalCode (emitter.renderContent template) := by
    rw [content]
    exact (((Text.within_append_right _ _).append _).append _).append _
  have inClass : Text.Within classText (emitter.inlined template) := by
    refine Text.Within.trimLineFeeds ?_ classTrimmed
    rw [content]
    exact (Text.within_append_right _ _).append _
  refine ⟨external.trimLineFeeds trimmed, fun rendered => ?_⟩
  exact ⟨(parts rendered).1.trans inClass, (parts rendered).2.trans inClass⟩

/-- The code that an included template becomes has its inlined code in it. -/
theorem of_broughtCode (inlines : emitter.target ≠ .javaScript) (child : Template) :
    Text.IsLineTrimmed (emitter.broughtCode child) ∧
      Text.Within (emitter.inlined child) (emitter.broughtCode child) := by
  unfold broughtCode
  cases target : emitter.target with
  | javaScript => exact absurd target inlines
  | cSharp => exact ⟨Text.isLineTrimmed_trimLineFeeds _, Text.Within.refl _⟩
  | java => exact ⟨Text.isLineTrimmed_trimLineFeeds _, Text.Within.refl _⟩
  | visualBasic => exact VisualBasic.of_includedCode child _

/-- New templates have external code of the target, or none. -/
theorem isLineTrimmed_prepare (emitter : Emitter) {template : Template}
    (empty : template.externalCode = "") :
    Text.IsLineTrimmed (emitter.prepare template).externalCode := by
  have nothing : Text.IsLineTrimmed template.externalCode := empty ▸ by decide
  unfold prepare
  cases emitter.target with
  | cSharp => exact nothing
  | java => simpa only [Template.addDependency] using nothing
  | javaScript => simpa only [Template.addDependency] using nothing
  | visualBasic =>
      dsimp only
      split_ifs
      · exact nothing
      · simp only [Template.addExternalCode, Template.addDependency, empty, Text.empty_addLine]
        exact VisualBasic.isLineTrimmed_baseClass

theorem inlined_within_renderUnit (emitter : Emitter) (template : Template) :
    Text.Within (emitter.inlined template) (emitter.renderUnit template) := by
  have unit : Text.Within (emitter.inlined template)
      (Text.trimEnd template.dependencies ++ "\n\n" ++ emitter.inlined template ++ "\n") :=
    Text.within_append _ _ _
  unfold renderUnit
  cases emitter.target with
  | java => exact unit.trans (Text.within_append_right _ _)
  | _ => exact unit

end Emitter

theorem Markup.isLineTrimmed_of_externalCode? {directive : Directive} {code : String}
    (declared : directive.externalCode? = some code) : Text.IsLineTrimmed code := by
  obtain ⟨tokens, rfl⟩ : ∃ tokens, externalText tokens = code := by
    unfold Directive.externalCode? at declared
    split at declared
    · exact ⟨_, Option.some.inj declared⟩
    · cases declared
  have trimmed := Text.isTrimmed_dropEnds (fun c => c == '\r' || c == '\n')
    (String.ofList (tokens.flatMap Token.text)).toList
  rw [Text.IsLineTrimmed, externalText, Text.trimBy, String.toList_ofList]
  exact trimmed.imp fun c apart => (Bool.or_eq_false_iff.mp apart).2

namespace IncludeTree

/-- A tree in another one: the tree itself, or one in an included tree. -/
inductive IsSubtree : IncludeTree → IncludeTree → Prop where
  | refl (tree : IncludeTree) : IsSubtree tree tree
  | inner {node child tree : IncludeTree} (included : child ∈ tree.included)
      (inside : IsSubtree node child) : IsSubtree node tree

/-- The inlined code of the templates that a template includes. -/
def inlinedIncludes (emitter : Emitter) (tree : IncludeTree) : List String :=
  tree.included.map fun child => emitter.inlined child.template

theorem inlinedIncludes_addIncluded (emitter : Emitter) (tree child : IncludeTree) :
    (tree.addIncluded child).inlinedIncludes emitter =
      tree.inlinedIncludes emitter ++ [emitter.inlined child.template] :=
  List.map_append

/-- What is included in a tree is inlined into the external code at its top. -/
structure Inlines (emitter : Emitter) (tree : IncludeTree) : Prop where
  trimmed : Text.IsLineTrimmed tree.template.externalCode
  templates : ∀ template ∈ tree.includedTemplates, Text.IsLineTrimmed template.externalCode ∧
    Text.Within (emitter.inlined template) tree.template.externalCode
  ordered : Text.InOrder (tree.inlinedIncludes emitter) tree.template.externalCode
  below : ∀ child ∈ tree.included, ∀ node : IncludeTree, node.IsSubtree child →
    Text.InOrder (node.inlinedIncludes emitter) tree.template.externalCode

namespace Inlines

variable {emitter : Emitter} {parent child tree : IncludeTree}

/-- External code may grow around what it has. -/
theorem grow (inlines : tree.Inlines emitter) {template : Template}
    (trimmed : Text.IsLineTrimmed template.externalCode)
    (kept : Text.Within tree.template.externalCode template.externalCode) :
    (tree.withTemplate template).Inlines emitter where
  trimmed := trimmed
  templates included inside :=
    ⟨(inlines.templates included inside).1, (inlines.templates included inside).2.trans kept⟩
  ordered := inlines.ordered.within kept
  below child listed node inside := (inlines.below child listed node inside).within kept

/-- An included tree is inlined behind those that have been included before. -/
theorem addIncluded (target : emitter.target ≠ .javaScript) (outer : parent.Inlines emitter)
    (inner : child.Inlines emitter) (dependencies : String) :
    ((parent.withTemplate ({ parent.template with dependencies := dependencies }.addExternalCode
      (emitter.broughtCode child.template))).addIncluded child).Inlines emitter := by
  -- All that is inlined in the child stands in its external code, that in its inlined code, and
  -- this in the code that is added to the parent.
  obtain ⟨trimmed, brought⟩ := Emitter.of_broughtCode target child.template
  have external := (Emitter.of_inlined target inner.trimmed).1.trans brought
  obtain ⟨middle, same⟩ :=
    Text.exists_addLine parent.template.externalCode (emitter.broughtCode child.template)
  generalize emitter.broughtCode child.template = code at trimmed brought external same
  have before : Text.Within parent.template.externalCode
      (Text.addLine parent.template.externalCode code) := by
    rw [same]
    exact (Text.within_append_left _ _).append _
  have behind : Text.Within code (Text.addLine parent.template.externalCode code) := by
    rw [same]
    exact Text.within_append_right _ _
  refine ⟨outer.trimmed.addLine trimmed, fun template inside => ?_, ?_,
    fun subtree listed node inside => ?_⟩
  · rcases mem_includedTemplates_addIncluded.mp inside with earlier | rfl | deeper
    · obtain ⟨templateTrimmed, within⟩ := outer.templates template earlier
      exact ⟨templateTrimmed, within.trans before⟩
    · exact ⟨inner.trimmed, brought.trans behind⟩
    · obtain ⟨templateTrimmed, within⟩ := inner.templates template deeper
      exact ⟨templateTrimmed, within.trans (external.trans behind)⟩
  · -- The code of the child is added behind that of its elder siblings.
    have ordered := (outer.ordered.append_right middle).append (Text.InOrder.singleton brought)
    rw [← same] at ordered
    rw [inlinedIncludes_addIncluded]
    exact ordered
  · have listed : subtree ∈ parent.included ++ [child] := listed
    rcases List.mem_append.mp listed with earlier | last
    · exact (outer.below subtree earlier node inside).within before
    · cases List.mem_singleton.mp last
      cases inside with
      | refl => exact inner.ordered.within (external.trans behind)
      | inner listed inside =>
          exact (inner.below _ listed _ inside).within (external.trans behind)

end Inlines

end IncludeTree

namespace Compiler

variable {m : Type → Type} [Monad m] [MonadAttach m]

omit [Monad m] [MonadAttach m] in
/-- Where templates are inlined, all that is included is inlined at the top. -/
theorem inlines_invariant (compiler : Compiler m)
    (target : compiler.emitter.target ≠ .javaScript) :
    compiler.SectionInvariant fun _ tree => tree.Inlines compiler.emitter where
  fresh := by
    intro settings created
    exact ⟨compiler.emitter.isLineTrimmed_prepare rfl,
      fun _ inside => absurd inside List.not_mem_nil, trivial,
      fun _ listed => absurd listed List.not_mem_nil⟩
  fragments := fun _ _ _ _ inlines => inlines.grow inlines.trimmed (Text.Within.refl _)
  perform := by
    intro read tree s template inlines _ _ result
    obtain ⟨_, added⟩ := Template.added_of_perform result
    cases declared : s.directive.externalCode? with
    | none =>
        have same : template.externalCode = tree.template.externalCode := by
          simpa [declared] using added
        exact inlines.grow (same ▸ inlines.trimmed) (same ▸ Text.Within.refl _)
    | some code =>
        have grown : template.externalCode = Text.addLine tree.template.externalCode code := by
          simpa [declared] using added
        obtain ⟨middle, ends⟩ := Text.exists_addLine tree.template.externalCode code
        refine inlines.grow (grown ▸ inlines.trimmed.addLine ?_) ?_
        · exact isLineTrimmed_of_externalCode? declared
        · rw [grown, ends]
          exact (Text.within_append_left _ _).append _
  adopt := by
    intro ancestors parent child location read childRead s path tree outer inner _ adopted
    obtain ⟨merged, _, rfl⟩ := IncludeTree.exists_of_adopt adopted
    exact outer.addIncluded target inner merged

variable [LawfulMonad m] [LawfulMonadAttach m]

/-- **Included templates are inlined** in C#, Java and Visual Basic: the content of each template
of a parsed tree stands in the generated unit, with its external code, and where its class is
rendered with the code of its body and of its functions, fragment by fragment and unbroken. The
contents of the templates that one template includes stand there apart from each other, in the
order of the directives. -/
theorem inlined_of_parse (compiler : Compiler m) (source : String) (settings : Settings)
    (tree : IncludeTree) (target : compiler.emitter.target ≠ .javaScript)
    (returned : CanReturn (compiler.parse source settings) (.ok tree)) :
    (∀ template ∈ tree.templates,
      Text.Within (Text.trimLineFeeds (compiler.emitter.renderContent template))
        (compiler.render tree) ∧
      Text.Within template.externalCode (compiler.render tree) ∧
      (compiler.emitter.rendersClass template = true →
        ∀ fragments ∈ [template.body, template.functions],
          Text.Within (String.join (fragments.map Fragment.code)) (compiler.render tree) ∧
            Text.InOrder (fragments.map Fragment.code) (compiler.render tree))) ∧
    ∀ node : IncludeTree, node.IsSubtree tree →
      Text.InOrder (node.included.map fun child =>
        Text.trimLineFeeds (compiler.emitter.renderContent child.template))
        (compiler.render tree) := by
  have inlines := (compiler.inlines_invariant target).of_parse returned
  have unit : Text.Within (compiler.emitter.inlined tree.template) (compiler.render tree) :=
    Emitter.inlined_within_renderUnit _ _
  have external := (Emitter.of_inlined target inlines.trimmed).1.trans unit
  have inlined : ∀ template ∈ tree.templates, Text.IsLineTrimmed template.externalCode ∧
      Text.Within (compiler.emitter.inlined template) (compiler.render tree) := by
    refine IncludeTree.forall_templates_iff.mpr ⟨⟨inlines.trimmed, unit⟩, fun template inside => ?_⟩
    obtain ⟨trimmed, within⟩ := inlines.templates template inside
    exact ⟨trimmed, within.trans external⟩
  constructor
  · intro template inside
    obtain ⟨trimmed, content⟩ := inlined template inside
    obtain ⟨code, parts⟩ := Emitter.of_inlined target trimmed
    refine ⟨content, code.trans content, fun rendered fragments member => ?_⟩
    have unbroken : Text.Within (String.join (fragments.map Fragment.code))
        (compiler.render tree) := by
      rcases List.mem_pair.mp member with rfl | rfl
      · exact (parts rendered).1.trans content
      · exact (parts rendered).2.trans content
    exact ⟨unbroken, (Text.InOrder.join _).within unbroken⟩
  · intro node inside
    cases inside with
    | refl => exact inlines.ordered.within external
    | inner listed deeper => exact (inlines.below _ listed _ deeper).within external

/-- A page with two includes, the first of which has an include itself, with external code, a body
and a function. -/
theorem inlined_of_page :
    let compiler := Compiler.ofTexts .cSharp [("/nav.blade", "<%# 'item' %>"),
      ("/item.blade", "<%!int n;%><% x(); %>a<%~ int f() => n; ~%>"), ("/end.blade", "y")]
    ∃ tree, CanReturn (compiler.parse "<%# 'nav' %><%# 'end' %>" ⟨"home", "/", true, false⟩)
        (.ok tree) ∧
      tree.templates.map (fun template => template.settings.path) =
        ["home", "nav.blade", "item.blade", "end.blade"] ∧
      (∀ template ∈ tree.templates,
        Text.Within (Text.trimLineFeeds (compiler.emitter.renderContent template))
          (compiler.render tree)) ∧
      Text.InOrder (tree.included.map fun child =>
        Text.trimLineFeeds (compiler.emitter.renderContent child.template))
        (compiler.render tree) ∧
      Text.Within "int n;" (compiler.render tree) ∧
      Text.Within " x(); \n_buffer.Append(@\"a\");" (compiler.render tree) ∧
      Text.InOrder [" x(); ", "\n_buffer.Append(@\"a\");"] (compiler.render tree) ∧
      Text.Within "\n int f() => n; " (compiler.render tree) := by
  intro compiler
  have parsed : (compiler.parse "<%# 'nav' %><%# 'end' %>"
      ⟨"home", "/", true, false⟩).toOption.map
      (fun tree => (tree.templates.map fun template => template.settings.path,
        tree.templates[2]?.map fun item => (item.externalCode,
          item.body.map Fragment.code, item.functions.map Fragment.code))) =
        some (["home", "nav.blade", "item.blade", "end.blade"],
          some ("int n;", [" x(); ", "\n_buffer.Append(@\"a\");"], ["\n int f() => n; "])) := by
    decide +kernel
  obtain ⟨tree, result, same⟩ := Option.map_eq_some_iff.mp parsed
  obtain ⟨listed, third⟩ := Prod.mk.inj same
  obtain ⟨item, place, same⟩ := Option.map_eq_some_iff.mp third
  simp only [Prod.mk.injEq] at same
  obtain ⟨external, body, functions⟩ := same
  have returned := canReturn_of_toOption result
  obtain ⟨all, ordered⟩ := compiler.inlined_of_parse _ _ tree nofun returned
  obtain ⟨_, code, parts⟩ := all item (List.mem_of_getElem? place)
  have inBody := parts rfl item.body (by simp)
  have inFunctions := parts rfl item.functions (by simp)
  have bodyText : String.join [" x(); ", "\n_buffer.Append(@\"a\");"] =
      " x(); \n_buffer.Append(@\"a\");" := by decide +kernel
  have functionText : String.join ["\n int f() => n; "] = "\n int f() => n; " := by decide +kernel
  rw [external] at code
  rw [body, bodyText] at inBody
  rw [functions, functionText] at inFunctions
  exact ⟨tree, returned, listed, fun template inside => (all template inside).1,
    ordered tree (.refl tree), code, inBody.1, inBody.2, inFunctions.1⟩

end Compiler

end TemplateCompiler
