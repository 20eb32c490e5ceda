import TemplateCompiler.Proofs.Escaping
import TemplateCompiler.Proofs.Inlining

/-! # Helper calls and model parameters

What a unit calls and what it declares are written apart from each other: a template's fragments
call helpers in the spelling that the configuration asks for, and the methods stand in fixed text.
In C#, Java and Visual Basic, every call is of a method that the unit declares, unless C# helpers
are to be in camel case, and the parameter of the render method is written in the syntax of the
target, unless a model type is configured for Visual Basic, whose parameter is then written as in C#
(`Compiler.calls_declared_of_parse`).
-/

namespace TemplateCompiler

open Markup
open MonadAttach (CanReturn)

/-! ## Methods -/

namespace Target

/-- The words before the name of a method that a helper is declared as. The helpers of JavaScript
are declared in a module that is imported. -/
def methodModifiers? : Target → Option (List String)
  | cSharp => some ["protected", "virtual", "string"]
  | visualBasic => some ["Protected", "Overridable", "Function"]
  | java => some ["protected", "String"]
  | javaScript => none

/-- The name of the method that a line declares. -/
def methodName? (target : Target) (line : List Char) : Option String :=
  let words := (Text.wordsOf Text.isBlank (line.takeWhile (· != '('))).map String.ofList
  if target.methodModifiers? = some words.dropLast ∧ '(' ∈ line then words.getLast? else none

/-- The names of the methods that a text declares. -/
def methods (target : Target) (code : String) : List String :=
  (Text.innerLines code).filterMap target.methodName?

/-- What counts of a name: in Visual Basic, capitals do not. -/
def spelling (target : Target) (name : String) : String :=
  match target with
  | visualBasic => Text.lowerAscii name
  | _ => name

/-- A text declares a method of this name. -/
def Declares (target : Target) (code name : String) : Prop :=
  ∃ method ∈ target.methods code, target.spelling method = target.spelling name

/-- What a part declares, the whole declares. -/
theorem Declares.within {target : Target} {part code name : String}
    (declares : target.Declares part name) (within : Text.Within part code) :
    target.Declares code name := by
  obtain ⟨method, listed, same⟩ := declares
  obtain ⟨line, inside, named⟩ := List.mem_filterMap.mp listed
  exact ⟨method, List.mem_filterMap.mpr ⟨line, within.innerLines_subset inside, named⟩, same⟩

/-- The methods of a text that is given by the characters of its lines. -/
theorem methods_of_lines {target : Target} {code : String} {lines : List String}
    {pieces : List (List Char)} (whole : code = Text.join "\n" lines)
    (cut : lines.map String.toList = pieces) (unbroken : ∀ piece ∈ pieces, '\n' ∉ piece)
    {names : List String} (named : pieces.tail.dropLast.filterMap target.methodName? = names) :
    target.methods code = names := by
  cases cut
  rw [methods, whole, Text.innerLines_join unbroken, named]

theorem filterMap_lines_of_lines {target : Target} {code : String} {lines : List String}
    {pieces : List (List Char)} (whole : code = Text.join "\n" lines)
    (cut : lines.map String.toList = pieces) (nonempty : pieces ≠ [])
    (unbroken : ∀ piece ∈ pieces, '\n' ∉ piece) {names : List String}
    (named : pieces.filterMap target.methodName? = names) :
    (code.toList.splitOnP (· == '\n')).filterMap target.methodName? = names := by
  cases cut
  rw [whole, Text.splitOnP_join (by simpa using nonempty) unbroken, named]

/-- A text with lines before and behind it declares its methods between those of these lines. -/
theorem methods_between (target : Target) (front middle back : String) :
    target.methods (front ++ "\n" ++ middle ++ "\n" ++ back) =
      (front.toList.splitOnP (· == '\n')).tail.filterMap target.methodName? ++
        (middle.toList.splitOnP (· == '\n')).filterMap target.methodName? ++
        (back.toList.splitOnP (· == '\n')).dropLast.filterMap target.methodName? := by
  rw [methods, Text.innerLines_between, List.filterMap_append, List.filterMap_append]

end Target

/-- Every helper, in the order in which generated code declares them. -/
def Transform.declared : List Transform :=
  [htmlEncode, htmlDecode, urlEncode, fullUrlEncode, urlDecode, fullUrlDecode, md5, base64Encode,
    base64Decode]

theorem CSharp.methods_helpers :
    Target.cSharp.methods helpers = Transform.declared.map Transform.pascalName := by
  apply Target.methods_of_lines rfl
  -- The characters are taken out of the strings before anything is computed with them.
  · simp only [List.map_cons, List.map_nil]
    repeat rewrite [String.toList_ofList]
    rfl
  · decide +kernel
  · decide +kernel

/-- Among all lines of the members, those that declare a method are the inner ones that do. -/
theorem CSharp.filterMap_lines_helpers :
    (helpers.toList.splitOnP (· == '\n')).filterMap Target.cSharp.methodName? =
      Transform.declared.map Transform.pascalName := by
  apply Target.filterMap_lines_of_lines rfl
  · simp only [List.map_cons, List.map_nil]
    repeat rewrite [String.toList_ofList]
    rfl
  · exact List.cons_ne_nil _ _
  · decide +kernel
  · decide +kernel

theorem Java.methods_helpers :
    Target.java.methods helpers = Transform.declared.map Transform.camelName := by
  apply Target.methods_of_lines rfl
  · simp only [List.map_cons, List.map_nil]
    repeat rewrite [String.toList_ofList]
    rfl
  · decide +kernel
  · decide +kernel

/-- In Visual Basic, the helpers stand before the methods that write. -/
theorem VisualBasic.methods_baseClassHead :
    Target.visualBasic.methods baseClassHead = Transform.declared.map Transform.pascalName := by
  apply Target.methods_of_lines rfl
  · simp only [List.map_cons, List.map_nil]
    repeat rewrite [String.toList_ofList]
    rfl
  · decide +kernel
  · decide +kernel

namespace Transform

theorem mem_declared (transform : Transform) : transform ∈ declared := by
  cases transform <;> decide

theorem camelName_not_mem_pascalNames (transform : Transform) :
    transform.camelName ∉ declared.map pascalName := by
  cases transform <;> simp [declared, camelName, pascalName]

/-- The two spellings of a helper differ in capitals only. -/
theorem lowerAscii_camelName (transform : Transform) :
    Text.lowerAscii transform.camelName = Text.lowerAscii transform.pascalName := by
  rw [← String.toList_inj, Text.lowerAscii, Text.lowerAscii, String.toList_map, String.toList_map]
  cases transform <;> decide

theorem lowerAscii_helperName (transform : Transform) (camelCase : Bool) :
    Text.lowerAscii (transform.helperName camelCase) = Text.lowerAscii transform.pascalName := by
  cases camelCase with
  | false => rfl
  | true => exact transform.lowerAscii_camelName

end Transform

/-- Where capitals count, a method is declared if its name is among those of the methods. -/
theorem Target.declares_iff_mem (target : Target) (counts : target ≠ .visualBasic)
    {code name : String} : target.Declares code name ↔ name ∈ target.methods code := by
  have same (name : String) : target.spelling name = name := by
    cases target with
    | visualBasic => exact absurd rfl counts
    | _ => rfl
  simp [Declares, same]

theorem CSharp.declares_helpers_iff {transform : Transform} {camelCase : Bool} :
    Target.cSharp.Declares helpers (transform.helperName camelCase) ↔ camelCase = false := by
  rw [Target.declares_iff_mem .cSharp nofun, methods_helpers]
  cases camelCase with
  | false => exact iff_of_true (List.mem_map_of_mem transform.mem_declared) rfl
  | true => exact iff_of_false transform.camelName_not_mem_pascalNames nofun

theorem Java.declares_helpers (transform : Transform) :
    Target.java.Declares helpers transform.camelName := by
  rw [Target.declares_iff_mem .java nofun, methods_helpers]
  exact List.mem_map_of_mem transform.mem_declared

theorem VisualBasic.declares_baseClass (transform : Transform) (camelCase : Bool) :
    Target.visualBasic.Declares baseClass (transform.helperName camelCase) := by
  have head : Target.visualBasic.Declares baseClassHead (transform.helperName camelCase) := by
    refine ⟨transform.pascalName, ?_, (transform.lowerAscii_helperName camelCase).symm⟩
    rw [methods_baseClassHead]
    exact List.mem_map_of_mem transform.mem_declared
  apply head.within
  unfold baseClass
  exact ((Text.within_append_left _ _).append _).append _

namespace Emitter

/-- The code with the methods of the helpers that stands in a unit: the members of each class, or
the base class of all classes, which a template that is included does without. -/
def helperCode (emitter : Emitter) (settings : Settings) : String :=
  match emitter.target with
  | .cSharp => CSharp.helpers
  | .visualBasic => if settings.isInclude then "" else VisualBasic.baseClass
  | .java => Java.helpers
  | .javaScript => ""

theorem of_ofConfig {emitter : Emitter} {target : Target} {config : Config}
    (built : ofConfig target config = .ok emitter) :
    emitter.target = target ∧ emitter.config = target.adjust config := by
  obtain ⟨grammar, _, made⟩ := exists_ok_of_bind built
  cases made
  exact ⟨rfl, rfl⟩

/-- **The methods of helpers have the names of the calls** in Java always, in C# unless helpers are
to be in camel case, and in Visual Basic wherever there is a base class. -/
theorem declares_helperCode_iff {emitter : Emitter} {target : Target} {config : Config}
    (built : ofConfig target config = .ok emitter) (inlines : target ≠ .javaScript)
    (settings : Settings) (transform : Transform) :
    target.Declares (emitter.helperCode settings)
        (transform.helperName emitter.config.camelCase) ↔
      (target = .cSharp → config.camelCase = false) ∧
        (target = .visualBasic → settings.isInclude = false) := by
  obtain ⟨same, adjusted⟩ := of_ofConfig built
  rw [helperCode, same, adjusted]
  cases target with
  | javaScript => exact absurd rfl inlines
  | cSharp => simpa [Target.adjust] using CSharp.declares_helpers_iff
  | java => simpa [Target.adjust, Transform.helperName] using Java.declares_helpers transform
  | visualBasic =>
      cases included : settings.isInclude with
      | false =>
          simpa [included, Target.adjust] using
            VisualBasic.declares_baseClass transform config.camelCase
      | true => simp [Target.Declares, Target.methods, Text.innerLines]

end Emitter

/-! ## Parameters -/

namespace Target

/-- The type of a model that may be anything. -/
def untyped : Target → String
  | cSharp => "dynamic"
  | _ => "Object"

/-- A parameter for a model of a type, as the target writes one. It may have a default in C# and
Visual Basic, and modifiers in Visual Basic. -/
def IsParameter (target : Target) (type parameter : String) : Prop :=
  match target with
  | cSharp => parameter = type ++ " model" ∨ ∃ value, parameter = type ++ " model = " ++ value
  | visualBasic =>
    ∃ modifiers : List String, modifiers ⊆ ["ByVal", "ByRef", "Optional", "ParamArray"] ∧
      ∃ ending, (ending = "" ∨ ∃ value, ending = " = " ++ value) ∧
        parameter = String.join (modifiers.map (· ++ " ")) ++ "model As " ++ type ++ ending
  | java => parameter = type ++ " model"
  | javaScript => parameter = "model"

/-- The render method up to its body, or up to the line end in Visual Basic. -/
def signature (target : Target) (parameter : String) : String :=
  match target with
  | cSharp => "public string Render(" ++ parameter ++ ")"
  | visualBasic => "Public Function Render(" ++ parameter ++ ") As String"
  | java => "public String render(" ++ parameter ++ ")"
  | javaScript => "render(" ++ parameter ++ ")"

end Target

namespace Emitter

/-- The parameter of the render method. -/
def modelParameter (emitter : Emitter) : String :=
  match emitter.target with
  | .cSharp => CSharp.modelParameter emitter.config
  | .visualBasic => VisualBasic.modelParameter emitter.config
  | .java => Java.modelParameter emitter.config
  | .javaScript => "model"

end Emitter

theorem CSharp.isParameter_modelParameter (config : Config) :
    Target.cSharp.IsParameter (config.modelTypeName?.getD "dynamic") (modelParameter config) := by
  unfold modelParameter Config.defaultedModelParameter
  right
  cases config.modelTypeName? with
  | none => exact ⟨"(object)null", by decide⟩
  | some name => exact ⟨"default", by simp [String.append_assoc]⟩

theorem Java.isParameter_modelParameter (config : Config) :
    Target.java.IsParameter (config.modelTypeName?.getD "Object") (modelParameter config) := by
  unfold modelParameter
  cases config.modelTypeName? with
  | none => exact (by decide : "Object model" = "Object" ++ " model")
  | some name => rfl

/-- No modifiers of a parameter take up seven characters, and only none take up less than six. -/
theorem VisualBasic.length_join_modifiers {modifiers : List String}
    (known : modifiers ⊆ ["ByVal", "ByRef", "Optional", "ParamArray"]) :
    modifiers = [] ∨ 5 < (String.join (modifiers.map (· ++ " "))).length ∧
      (String.join (modifiers.map (· ++ " "))).length ≠ 7 := by
  have word : ∀ modifier ∈ ["ByVal", "ByRef", "Optional", "ParamArray"],
      5 < (modifier ++ " ").length ∧ (modifier ++ " ").length ≠ 7 := by
    decide
  cases modifiers with
  | nil => exact .inl rfl
  | cons first rest =>
      obtain ⟨own, later⟩ := List.cons_subset.mp known
      refine .inr ?_
      have size := word first own
      rw [List.map_cons, String.join_cons, String.length_append (first ++ " ")]
      cases rest with
      | nil => exact size
      | cons second rest =>
          have next := word second (later (List.mem_cons_self ..))
          rw [List.map_cons, String.join_cons, String.length_append (second ++ " ")]
          omega

/-- A type with a name and a default behind it is no parameter for a model of this type. -/
theorem VisualBasic.not_isParameter_defaulted (name : String) :
    ¬ Target.visualBasic.IsParameter name (name ++ " model = default") := by
  rintro ⟨modifiers, known, ending, tail, same⟩
  have same : name ++ " model = default" =
      String.join (modifiers.map (· ++ " ")) ++ "model As " ++ name ++ ending := same
  -- Seven characters are left for the modifiers and the ending.
  have size : (String.join (modifiers.map (· ++ " "))).length + ending.length = 7 := by
    have whole := congrArg String.length same
    have defaulted : " model = default".length = 16 := by decide
    have words : "model As ".length = 9 := by decide
    rw [String.length_append, String.length_append, String.length_append, String.length_append,
      defaulted, words] at whole
    omega
  obtain rfl | ⟨large, other⟩ := length_join_modifiers known
  · have last : "default".toList = ending.toList := by
      have written : (name ++ " model = ").toList ++ "default".toList =
          ("model As " ++ name).toList ++ ending.toList := by
        rw [← String.toList_append, ← String.toList_append, String.append_assoc]
        exact congrArg String.toList same
      have sizes : "default".toList.length = ending.toList.length := by
        rw [String.length_toList, String.length_toList]
        exact (Nat.zero_add _ ▸ size).symm
      exact (List.append_inj' written sizes).2
    rcases tail with rfl | ⟨value, rfl⟩
    · cases last
    · rw [String.toList_append] at last
      cases last
  · rcases tail with rfl | ⟨value, rfl⟩
    · exact other size
    · have equals : (" = " ++ value).length = 3 + value.length := String.length_append ..
      omega

/-- **A parameter of Visual Basic** is written as one just where no model type is configured. -/
theorem VisualBasic.isParameter_modelParameter_iff (config : Config) :
    Target.visualBasic.IsParameter (config.modelTypeName?.getD "Object") (modelParameter config) ↔
      config.modelTypeName? = none := by
  unfold modelParameter Config.defaultedModelParameter
  cases config.modelTypeName? with
  | none =>
      refine iff_of_true ⟨["Optional"], by decide, " = Nothing", .inr ⟨"Nothing", ?_⟩, ?_⟩ rfl
      · decide
      · decide
  | some name => exact iff_of_false (not_isParameter_defaulted name) nofun

theorem Emitter.isParameter_modelParameter_iff {emitter : Emitter} {target : Target}
    {config : Config} (built : ofConfig target config = .ok emitter)
    (inlines : target ≠ .javaScript) :
    target.IsParameter (config.modelTypeName?.getD target.untyped) emitter.modelParameter ↔
      (target = .visualBasic → config.modelTypeName? = none) := by
  obtain ⟨same, adjusted⟩ := of_ofConfig built
  rw [modelParameter, same, adjusted]
  cases target with
  | javaScript => exact absurd rfl inlines
  | cSharp => exact iff_of_true (CSharp.isParameter_modelParameter config) nofun
  | java => exact iff_of_true (Java.isParameter_modelParameter config) nofun
  | visualBasic =>
      exact (VisualBasic.isParameter_modelParameter_iff config).trans
        ⟨fun nothing _ => nothing, fun nothing => nothing rfl⟩

/-! ## Units -/

/-- The members of a class stand before its render method. -/
theorem CSharp.exists_classText_eq (config : Config) (template : Template) :
    ∃ front back, classText config template = front ++ helpers ++ "\n        " ++
      Target.cSharp.signature (modelParameter config) ++ back := by
  have opening : "\n        public string Render(" = "\n        " ++ "public string Render(" := by
    decide
  have closing : ")\n        \x7b\n            " = ")" ++ "\n        \x7b\n            " := by
    decide
  refine ⟨"namespace " ++ template.moduleName ++ "\n\x7b\n    public class " ++
    template.className ++ "\n    \x7b\n", ?_⟩
  unfold classText Target.signature
  generalize helpers = members
  rw [opening, closing]
  simp only [String.append_assoc, String.append_right_inj]
  exact ⟨_, rfl⟩

/-- The lines of a class before its members. -/
def CSharp.classHead (template : Template) : String :=
  "namespace " ++ template.moduleName ++ "\n\x7b\n    public class " ++ template.className ++
    "\n    \x7b"

/-- The lines of a class from its render method on. -/
def CSharp.classTail (config : Config) (template : Template) : String :=
  "        public string Render(" ++ modelParameter config ++ ")\n        \x7b\n            " ++
    template.body.code ++
    ("\n            var result = _buffer.ToString();\n\n" ++
      "            _buffer.Clear();\n\n            return result;\n        \x7d\n" ++ "        ") ++
    template.functions.code ++ "\n    \x7d\n\x7d"

theorem CSharp.classText_eq (config : Config) (template : Template) :
    classText config template =
      classHead template ++ "\n" ++ helpers ++ "\n" ++ classTail config template := by
  have opening : "\n    \x7b\n" = "\n    \x7b" ++ "\n" := by decide
  have render : "\n        public string Render(" = "\n" ++ "        public string Render(" := by
    decide
  have ending : "\n    \x7d\n\x7d" = "\n    \x7d\n" ++ "\x7d" := by decide
  unfold classText classHead classTail
  generalize helpers = members
  rw [opening, render, ending]
  simp only [String.append_assoc]

/-- The unit of a template without external code declares just the helpers, if no line before or
behind them is written like a method. -/
theorem CSharp.methods_renderUnit {emitter : Emitter} {template : Template}
    (target : emitter.target = .cSharp) (bare : template.externalCode = "")
    {before behind : List Char}
    (front : (Text.trimEnd template.dependencies ++ "\n\n" ++ classHead template).toList = before)
    (back : (classTail emitter.config template ++ "\n").toList = behind)
    (first : (before.splitOnP (· == '\n')).tail.filterMap Target.cSharp.methodName? = [])
    (last : (behind.splitOnP (· == '\n')).dropLast.filterMap Target.cSharp.methodName? = []) :
    Target.cSharp.methods (emitter.renderUnit template) =
      Transform.declared.map Transform.pascalName := by
  have content : Text.trimLineFeeds (emitter.renderContent template) =
      classText emitter.config template := by
    rw [Emitter.renderContent, target]
    dsimp only
    rw [renderContent_eq, bare]
    exact Text.trimLineFeeds_append (of_classText _ _).1 (by simp) (by simp)
  have unit : emitter.renderUnit template =
      (Text.trimEnd template.dependencies ++ "\n\n" ++ classHead template) ++ "\n" ++ helpers ++
        "\n" ++ (classTail emitter.config template ++ "\n") := by
    rw [Emitter.renderUnit, target, content, classText_eq]
    simp only [String.append_assoc]
  rw [unit, Target.methods_between, filterMap_lines_helpers, front, back, first, last,
    List.nil_append, List.append_nil]

theorem Java.exists_classText_eq (config : Config) (template : Template) :
    ∃ front back, classText config template = front ++ helpers ++ "\n    " ++
      Target.java.signature (modelParameter config) ++ back := by
  have opening : "\n    public String render(" = "\n    " ++ "public String render(" := by decide
  have closing : ") \x7b\n        " = ")" ++ " \x7b\n        " := by decide
  refine ⟨(if template.settings.isInclude then "" else "public ") ++ "class " ++
    template.className ++ " \x7b\n", ?_⟩
  unfold classText Target.signature
  generalize helpers = members
  rw [opening, closing]
  simp only [String.append_assoc, String.append_right_inj]
  exact ⟨_, rfl⟩

theorem VisualBasic.exists_classText_eq (config : Config) (template : Template) :
    ∃ front back, classText config template =
      front ++ Target.visualBasic.signature (modelParameter config) ++ back := by
  have opening : "        Public Function Render(" = "        " ++ "Public Function Render(" := by
    decide
  have closing : ") As String\n            " = ") As String" ++ "\n            " := by decide
  refine ⟨"Namespace " ++ template.moduleName ++ "\n    Public Class " ++ template.className ++
    "\n        Inherits BladeTemplateVisualBasicBase\n\n" ++ "        ", ?_⟩
  unfold classText Target.signature
  rw [opening, closing]
  simp only [String.append_assoc, String.append_right_inj]
  exact ⟨_, rfl⟩

namespace Emitter

variable {emitter : Emitter} {template : Template}

/-- Behind external code, a class stands in the content whole. -/
theorem within_content {classText : String} (trimmed : Text.IsLineTrimmed classText)
    (external : String) : Text.Within classText
      (Text.trimLineFeeds ("\n" ++ external ++ "\n" ++ classText ++ "\n")) :=
  Text.Within.trimLineFeeds (Text.within_append _ _ _) trimmed

/-- A class that is rendered has the signature of its render method in it, and the helpers where
they are members. -/
theorem signature_within_inlined (inlines : emitter.target ≠ .javaScript)
    (rendered : emitter.rendersClass template = true) (settings : Settings) :
    Text.Within (emitter.target.signature emitter.modelParameter) (emitter.inlined template) ∧
      (emitter.target ≠ .visualBasic →
        Text.Within (emitter.helperCode settings) (emitter.inlined template)) := by
  unfold inlined renderContent modelParameter helperCode
  cases target : emitter.target with
  | javaScript => exact absurd target inlines
  | cSharp =>
      obtain ⟨front, back, parts⟩ := CSharp.exists_classText_eq emitter.config template
      have inside := within_content (CSharp.of_classText emitter.config template).1
        template.externalCode
      rw [← CSharp.renderContent_eq, parts] at inside
      refine ⟨(Text.within_append _ _ _).trans inside, fun _ => ?_⟩
      exact ((((Text.within_append_right _ _).append _).append _).append _).trans inside
  | java =>
      obtain ⟨front, back, parts⟩ := Java.exists_classText_eq emitter.config template
      have inside := within_content (Java.of_classText emitter.config template).1
        template.externalCode
      rw [← Java.renderContent_eq, parts] at inside
      refine ⟨(Text.within_append _ _ _).trans inside, fun _ => ?_⟩
      exact ((((Text.within_append_right _ _).append _).append _).append _).trans inside
  | visualBasic =>
      have content : template.hasContent = true := by simpa [rendersClass, target] using rendered
      obtain ⟨front, back, parts⟩ := VisualBasic.exists_classText_eq emitter.config template
      have inside := within_content (VisualBasic.of_classText emitter.config template).1
        template.externalCode
      rw [← VisualBasic.renderContent_eq _ content, parts] at inside
      exact ⟨(Text.within_append _ _ _).trans inside, fun other => absurd rfl other⟩

end Emitter

/-! ## Fragments -/

theorem FragmentStream.within_code {stream : FragmentStream} {fragment : Fragment}
    (member : fragment ∈ stream) : Text.Within fragment.code stream.code := by
  obtain ⟨before, behind, rfl⟩ := List.append_of_mem member
  rw [code, List.map_append, List.map_cons, String.join_append, String.join_cons,
    ← String.append_assoc]
  exact Text.within_append _ _ _

/-- The fragment of a helper call has the code that the target writes for it. -/
theorem Markup.Part.code_of_transform {writer : Writer} {part : Part} {fragment : Fragment}
    (member : fragment ∈ part.fragments writer) {transform : Transform}
    (kind : fragment.kind = .transform transform) :
    fragment.code = writer.transform transform fragment.source := by
  cases part with
  | literal text =>
      simp only [Part.fragments, Piece.fragments] at member
      split_ifs at member
      · cases member
      · cases List.mem_singleton.mp member
        cases kind
  | directive directive begins =>
      cases directive with
      | name chars => cases member
      | inclusion path => cases member
      | body region tokens =>
          cases region with
          | transform t =>
              cases List.mem_singleton.mp member
              cases kind
              rfl
          | write | function =>
              cases List.mem_singleton.mp member
              cases kind
          | block =>
              simp only [Part.fragments, Piece.fragments] at member
              split_ifs at member
              · cases member
              · cases List.mem_singleton.mp member
                cases kind
          | dependency | engineName | externalCode | comment => cases member

theorem Emitter.helperCall_eq {emitter : Emitter} (inlines : emitter.target ≠ .javaScript)
    (transform : Transform) (expression : String) :
    emitter.helperCall transform expression =
      transform.helperName emitter.config.camelCase ++ "(" ++ expression ++ ")" := by
  unfold helperCall
  cases target : emitter.target with
  | javaScript => exact absurd target inlines
  | _ => rfl

/-- A value is more than blanks. -/
theorem VisualBasic.isBlankText_value (expression : String) :
    Text.isBlankText (value expression) = false := by
  have start : Text.isBlankText "\n_buffer.Append(" = false := by decide
  unfold value Text.isBlankText at *
  rw [String.toList_append, String.toList_append, List.all_append, List.all_append, start]
  rfl

/-- A template that calls a helper has a class. -/
theorem Emitter.rendersClass_of_value {emitter : Emitter} {template : Template}
    {fragment : Fragment} (inside : fragment ∈ template.body ++ template.functions)
    {expression : String}
    (written : fragment.code = emitter.value expression) :
    emitter.rendersClass template = true := by
  cases target : emitter.target with
  | visualBasic =>
      have full : Text.isBlankText fragment.code = false := by
        rw [written, value, target]
        exact VisualBasic.isBlankText_value expression
      have content : (template.body ++ template.functions).any
          (fun fragment => !Text.isBlankText fragment.code) = true :=
        List.any_eq_true.mpr ⟨fragment, inside, by rw [full]; rfl⟩
      rw [List.any_append] at content
      rw [rendersClass, target]
      exact content
  | _ => rw [rendersClass, target]; rfl

theorem IncludeTree.template_mem_templates (tree : IncludeTree) :
    tree.template ∈ tree.templates := by
  rw [templates_eq]
  exact List.mem_cons_self ..

/-- A new template of Visual Basic that is not included has the base class beside it. -/
theorem Emitter.externalCode_prepare {emitter : Emitter} (target : emitter.target = .visualBasic)
    {template : Template} (empty : template.externalCode = "")
    (page : template.settings.isInclude = false) :
    (emitter.prepare template).externalCode = VisualBasic.baseClass := by
  simp only [prepare, target, page, Bool.false_eq_true, ↓reduceIte, Template.addExternalCode,
    Template.addDependency, empty, Text.empty_addLine]

namespace Compiler

variable {m : Type → Type} [Monad m]

omit [Monad m] in
/-- A page of Visual Basic that is not included has the base class in its external code. -/
theorem baseClass_invariant (compiler : Compiler m)
    (target : compiler.emitter.target = .visualBasic) :
    compiler.SectionInvariant fun _ tree => tree.template.settings.isInclude = false →
      Text.Within VisualBasic.baseClass tree.template.externalCode where
  fresh := by
    intro settings created page
    obtain ⟨_, _, same⟩ :=
      compiler.emitter.prepare_eq (compiler.boundTemplate settings (compiler.ids created))
    have kept : (compiler.startDraft created settings).tree.template.settings = settings :=
      congrArg Template.settings same
    rw [kept] at page
    have based : (compiler.startDraft created settings).tree.template.externalCode =
        VisualBasic.baseClass := Emitter.externalCode_prepare target rfl page
    exact based ▸ Text.Within.refl _
  fragments := fun _ _ _ _ based => based
  perform := by
    intro read tree s template based _ _ result page
    rw [IncludeTree.withTemplate_template] at page ⊢
    rw [Template.settings_of_perform result] at page
    rw [(Template.added_of_perform result).2]
    cases s.directive.externalCode? with
    | none => exact based page
    | some code => exact (based page).addLine code
  adopt := by
    intro ancestors parent child location read childRead s path tree based _ _ adopted page
    obtain ⟨merged, _, rfl⟩ := IncludeTree.exists_of_adopt adopted
    exact (based page).addLine _

variable [LawfulMonad m] [MonadAttach m] [LawfulMonadAttach m]

/-- Every template of a parsed tree is inlined into the unit. -/
theorem inlined_within_render {compiler : Compiler m} {source : String} {settings : Settings}
    {tree : IncludeTree} (inlines : compiler.emitter.target ≠ .javaScript)
    (returned : CanReturn (compiler.parse source settings) (.ok tree)) :
    ∀ template ∈ tree.templates, Text.IsLineTrimmed template.externalCode ∧
      Text.Within (compiler.emitter.inlined template) (compiler.render tree) := by
  have top := (compiler.inlines_invariant inlines).of_parse returned
  have unit : Text.Within (compiler.emitter.inlined tree.template) (compiler.render tree) :=
    Emitter.inlined_within_renderUnit _ _
  have external := (Emitter.of_inlined inlines top.trimmed).1.trans unit
  refine IncludeTree.forall_templates_iff.mpr ⟨⟨top.trimmed, unit⟩, fun template inside => ?_⟩
  obtain ⟨trimmed, within⟩ := top.templates template inside
  exact ⟨trimmed, within.trans external⟩

/-- The helpers stand in the unit. -/
theorem helperCode_within_render {compiler : Compiler m} {source : String} {settings : Settings}
    {tree : IncludeTree} (inlines : compiler.emitter.target ≠ .javaScript)
    (returned : CanReturn (compiler.parse source settings) (.ok tree)) :
    Text.Within (compiler.emitter.helperCode settings) (compiler.render tree) := by
  obtain ⟨trimmed, unit⟩ :=
    inlined_within_render inlines returned tree.template tree.template_mem_templates
  by_cases target : compiler.emitter.target = .visualBasic
  · have kept : tree.template.settings = settings := settings_of_parseWithin returned
    have based := (compiler.baseClass_invariant target).of_parse returned
    rw [kept] at based
    rw [Emitter.helperCode, target]
    cases included : settings.isInclude with
    | true => exact List.nil_infix
    | false => exact (based included).trans ((Emitter.of_inlined inlines trimmed).1.trans unit)
  · have rendered : compiler.emitter.rendersClass tree.template = true := by
      simp [Emitter.rendersClass, target]
    exact ((Emitter.signature_within_inlined inlines rendered settings).2 target).trans unit

/-- A fragment of a parsed template stands for a part of its text. -/
theorem exists_part_of_mem_fragments {compiler : Compiler m} {source : String}
    {settings : Settings} {tree : IncludeTree}
    (returned : CanReturn (compiler.parse source settings) (.ok tree)) {template : Template}
    (member : template ∈ tree.templates) {fragment : Fragment}
    (inside : fragment ∈ template.body ++ template.functions) :
    ∃ part : Part, fragment ∈ part.fragments compiler.emitter.writer := by
  have manifests : compiler.Manifests tree ⟨0, [], settings, source⟩ :=
    manifests_of_parseCall returned
  obtain ⟨call, child, parsed, rfl⟩ := exists_parsed_of_manifests manifests returned template member
  rw [parseCall_eq] at parsed
  obtain ⟨_, _, body, functions⟩ := fragments_of_parseWith parsed
  rw [body, functions, List.mem_append, List.mem_append] at inside
  have inStream {inFunctions : Bool} (listed : fragment ∈
      (History.ofText call.source.toList).stream compiler.emitter.writer inFunctions) :
      ∃ part : Part, fragment ∈ part.fragments compiler.emitter.writer := by
    obtain ⟨entry, _, written⟩ := List.mem_flatMap.mp listed
    exact ⟨entry.part, written⟩
  rcases inside with (inBody | inTail) | inFunctions
  · exact inStream inBody
  · exact ⟨.literal _, inTail⟩
  · exact inStream inFunctions

/-- **Calls and declarations of a unit.** In C#, Java and Visual Basic, every helper that a fragment
of a parsed tree calls is declared by the unit under the name of the call, unless C# helpers are to
be in camel case, or the page is parsed as an include in Visual Basic, where it has no base class:
the methods that the target puts into the unit have other names then, or there are none. The model
of each render method is written in the syntax of the target, unless Visual Basic has a model type
configured. -/
theorem calls_declared_of_parse (compiler : Compiler m) (target : Target) (config : Config)
    (source : String) (settings : Settings) (tree : IncludeTree)
    (built : Emitter.ofConfig target config = .ok compiler.emitter)
    (inlines : target ≠ .javaScript)
    (returned : CanReturn (compiler.parse source settings) (.ok tree)) :
    let emitter := compiler.emitter
    let unit := compiler.render tree
    let sameNames := (target = .cSharp → config.camelCase = false) ∧
      (target = .visualBasic → settings.isInclude = false)
    Text.Within (emitter.helperCode settings) unit ∧
    (∀ template ∈ tree.templates, ∀ fragment ∈ template.body ++ template.functions,
      ∀ transform, fragment.kind = .transform transform →
        let method := transform.helperName emitter.config.camelCase
        fragment.code = emitter.value (method ++ "(" ++ fragment.source ++ ")") ∧
        Text.Within fragment.code unit ∧
        (target.Declares (emitter.helperCode settings) method ↔ sameNames) ∧
        (sameNames → target.Declares unit method)) ∧
    ∀ template ∈ tree.templates, emitter.rendersClass template = true →
      Text.Within (target.signature emitter.modelParameter) unit ∧
      (target.IsParameter (config.modelTypeName?.getD target.untyped) emitter.modelParameter ↔
        (target = .visualBasic → config.modelTypeName? = none)) := by
  obtain ⟨same, _⟩ := Emitter.of_ofConfig built
  have noScript : compiler.emitter.target ≠ .javaScript := same ▸ inlines
  have helpers := helperCode_within_render noScript returned
  refine ⟨helpers, ?_, ?_⟩
  · intro template member fragment inside transform kind
    obtain ⟨part, written⟩ := exists_part_of_mem_fragments returned member inside
    have code : fragment.code = compiler.emitter.value (transform.helperName
        compiler.emitter.config.camelCase ++ "(" ++ fragment.source ++ ")") := by
      rw [← Emitter.helperCall_eq noScript]
      exact Part.code_of_transform written kind
    have rendered := Emitter.rendersClass_of_value inside code
    obtain ⟨trimmed, unit⟩ := inlined_within_render noScript returned template member
    obtain ⟨body, functions⟩ := (Emitter.of_inlined noScript trimmed).2 rendered
    have declares := Emitter.declares_helperCode_iff built inlines settings transform
    refine ⟨code, ?_, declares, fun sameNames => (declares.mpr sameNames).within helpers⟩
    rcases List.mem_append.mp inside with inBody | inFunctions
    · exact (FragmentStream.within_code inBody).trans (body.trans unit)
    · exact (FragmentStream.within_code inFunctions).trans (functions.trans unit)
  · intro template member rendered
    obtain ⟨_, unit⟩ := inlined_within_render noScript returned template member
    have signature := (Emitter.signature_within_inlined noScript rendered settings).1
    rw [same] at signature
    exact ⟨signature.trans unit, Emitter.isParameter_modelParameter_iff built inlines⟩

/-- A page that encodes an expression. In C# with helpers in camel case, it calls a method that no
line of its unit declares. In Visual Basic, it calls a method of the base class, but the model type
that is configured is not written as one. -/
theorem calls_declared_of_pages :
    let settings : Settings := ⟨"home.blade", "/site", true, false⟩
    let camel : Config := { camelCase := true }
    let typed : Config := { modelType? := some " PageModel " }
    let cSharp := { Compiler.ofTexts .cSharp [] with emitter := ⟨.cSharp, camel, .dotted⟩ }
    let visualBasic :=
      { Compiler.ofTexts .visualBasic [] with emitter := ⟨.visualBasic, typed, .dotted⟩ }
    (∃ tree, CanReturn (cSharp.parse "<%#= x %>" settings) (.ok tree) ∧
      Text.Within "\n_buffer.Append(htmlEncode(x));" (cSharp.render tree) ∧
      ¬ Target.cSharp.Declares CSharp.helpers "htmlEncode" ∧
      ¬ Target.cSharp.Declares (cSharp.render tree) "htmlEncode") ∧
    ∃ tree, CanReturn (visualBasic.parse "<%#= x %>" settings) (.ok tree) ∧
      Text.Within "\n_buffer.Append(HtmlEncode(x))" (visualBasic.render tree) ∧
      Target.visualBasic.Declares (visualBasic.render tree) "HtmlEncode" ∧
      Text.Within (Target.visualBasic.signature "PageModel model = default")
        (visualBasic.render tree) ∧
      ¬ Target.visualBasic.IsParameter "PageModel" "PageModel model = default" := by
  intro settings camel typed cSharp visualBasic
  let fragment (code : String) : Fragment := ⟨.transform .htmlEncode, "x", code⟩
  constructor
  · have parsed : (cSharp.parse "<%#= x %>" settings).toOption.map (fun tree =>
          (tree.template.body, tree.template.functions, tree.template.dependencies,
            tree.template.externalCode, tree.template.identity)) =
        some ([fragment "\n_buffer.Append(htmlEncode(x));"], [], "", "",
          ⟨"BladeModule", "BladeTemplate"⟩) := by decide +kernel
    obtain ⟨tree, result, same⟩ := Option.map_eq_some_iff.mp parsed
    simp only [Prod.mk.injEq, Template.identity, Identity.mk.injEq] at same
    obtain ⟨body, functions, dependencies, bare, moduleName, className⟩ := same
    have returned := canReturn_of_toOption result
    obtain ⟨_, calls, _⟩ :=
      cSharp.calls_declared_of_parse .cSharp camel _ settings tree rfl nofun returned
    obtain ⟨_, inUnit, names, _⟩ := calls tree.template tree.template_mem_templates
      (fragment "\n_buffer.Append(htmlEncode(x));")
      (List.mem_append_left _ (body ▸ List.mem_cons_self ..)) .htmlEncode rfl
    have bodyCode : tree.template.body.code = "\n_buffer.Append(htmlEncode(x));" := by
      rw [body]
      decide
    have functionCode : tree.template.functions.code = "" := by
      rw [functions]
      decide
    have parameter : CSharp.modelParameter camel = "dynamic model = (object)null" := by
      decide +kernel
    have methods : Target.cSharp.methods (cSharp.render tree) =
        Transform.declared.map Transform.pascalName := by
      -- As for the helpers, the characters are taken out of the strings first.
      apply CSharp.methods_renderUnit rfl bare
      · unfold CSharp.classHead
        rewrite [dependencies, show Text.trimEnd "" = "" by decide, moduleName, className]
        simp only [String.toList_append]
        repeat rewrite [String.toList_ofList]
        rfl
      · unfold CSharp.classTail
        rewrite [parameter, bodyCode, functionCode]
        simp only [String.toList_append]
        repeat rewrite [String.toList_ofList]
        rfl
      · decide +kernel
      · decide +kernel
    refine ⟨tree, returned, inUnit, fun declares => ?_, ?_⟩
    · exact absurd ((names.mp declares).1 rfl) nofun
    · rw [Target.declares_iff_mem .cSharp nofun, methods]
      decide
  · have parsed : (visualBasic.parse "<%#= x %>" settings).toOption.map
        (fun tree => tree.template.body) = some [fragment "\n_buffer.Append(HtmlEncode(x))"] := by
      decide +kernel
    obtain ⟨tree, result, body⟩ := Option.map_eq_some_iff.mp parsed
    have returned := canReturn_of_toOption result
    obtain ⟨_, calls, parameters⟩ :=
      visualBasic.calls_declared_of_parse .visualBasic typed _ settings tree rfl nofun returned
    have inside : fragment "\n_buffer.Append(HtmlEncode(x))" ∈
        tree.template.body ++ tree.template.functions :=
      List.mem_append_left _ (body ▸ List.mem_cons_self ..)
    obtain ⟨_, inUnit, _, declared⟩ :=
      calls tree.template tree.template_mem_templates _ inside .htmlEncode rfl
    have written : (fragment "\n_buffer.Append(HtmlEncode(x))").code =
        visualBasic.emitter.value "HtmlEncode(x)" := by
      decide
    have rendered := Emitter.rendersClass_of_value inside written
    obtain ⟨signature, spelled⟩ :=
      parameters tree.template tree.template_mem_templates rendered
    have type : typed.modelTypeName? = some "PageModel" := by decide +kernel
    have parameter : visualBasic.emitter.modelParameter = "PageModel model = default" := by
      decide +kernel
    rw [parameter] at signature spelled
    rw [type] at spelled
    have sameNames := declared ⟨nofun, fun _ => rfl⟩
    refine ⟨tree, returned, inUnit, sameNames, signature, fun isParameter => ?_⟩
    exact absurd (spelled.mp isParameter rfl) nofun

end Compiler

end TemplateCompiler
