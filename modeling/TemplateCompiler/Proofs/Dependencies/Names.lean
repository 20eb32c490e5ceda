import TemplateCompiler.Proofs.Dependencies.Spelling
import TemplateCompiler.Proofs.Markup.Effects

/-! # Names in dependencies

Names of templates have no characters in them that divide a declaration
(`Compiler.namesFit_invariant`), so the imports that JavaScript and Visual Basic add for an included
template are lines of declarations. So are the dependencies that targets put into new templates
(`Emitter.exists_seeds`).
-/

namespace TemplateCompiler

open Markup

namespace Text

/-- The code points of a table. -/
def Ranges.codes (ranges : Ranges) : List Nat :=
  ranges.flatMap fun range => List.range' range.1 (range.2 + 1 - range.1)

theorem Ranges.mem_codes {ranges : Ranges} {c : Char} (inside : ranges.contains c = true) :
    c.toNat ∈ ranges.codes := by
  obtain ⟨range, listed, low, high⟩ := (contains_iff ranges c).mp inside
  refine List.mem_flatMap.mpr ⟨range, listed, ?_⟩
  rw [List.mem_range'_1]
  omega

end Text

/-- A character that does not divide a declaration. -/
def IsSolid (c : Char) : Prop := Text.isBlank c = false ∧ c ≠ ';' ∧ c ≠ '='

/-- A name that fits into one declaration. -/
def FitsDeclaration (name : String) : Prop := ∀ c ∈ name.toList, IsSolid c

instance (c : Char) : Decidable (IsSolid c) := inferInstanceAs (Decidable (_ ∧ _ ∧ _))

instance (name : String) : Decidable (FitsDeclaration name) :=
  List.decidableBAll IsSolid name.toList

/-- A text that fits into a declaration is one. -/
theorem FitsDeclaration.isCanonical {rule : DependencyRule} (plain : rule.IsPlain) {name : String}
    (fits : FitsDeclaration name) (nonempty : name ≠ "") : rule.IsCanonical name where
  nonempty := nonempty
  trimmed := ⟨fun c head => (fits c (List.mem_of_head? head)).1,
    fun c last => (fits c (List.mem_of_getLast? last)).1⟩
  unbroken c inside := by
    obtain ⟨solid, semicolon, _⟩ := fits c inside
    refine ⟨?_, ?_⟩
    · rintro rfl
      cases solid
    · rcases plain.separator with none | separator
      · simp [DependencyRule.ends, none]
      · simp [DependencyRule.ends, separator, semicolon]
  canonical := by
    unfold DependencyRule.canonical
    split_ifs
    · exact normalizeAlias_of_not_mem fun equals => (fits _ equals).2.2 rfl
    · rfl

theorem FitsDeclaration.append {front back : String} (first : FitsDeclaration front)
    (second : FitsDeclaration back) : FitsDeclaration (front ++ back) := by
  intro c inside
  rw [String.toList_append] at inside
  exact (List.mem_append.mp inside).elim (first c) (second c)

/-- A class of characters is solid where it has no code point in it that divides a declaration. -/
theorem isSolid_of_class {p : Char → Bool}
    (apart : ∀ n ∈ ';'.toNat :: '='.toNat :: Text.blankRanges.codes, p (Char.ofNat n) = false)
    {c : Char} (inside : p c = true) : IsSolid c := by
  have outside : c.toNat ∉ ';'.toNat :: '='.toNat :: Text.blankRanges.codes := by
    intro listed
    have absent := apart _ listed
    rw [Char.ofNat_toNat, inside] at absent
    cases absent
  refine ⟨?_, ?_, ?_⟩
  · by_contra blank
    have code := Text.Ranges.mem_codes ((Bool.not_eq_false _).mp blank)
    exact outside (List.mem_cons_of_mem _ (List.mem_cons_of_mem _ code))
  · rintro rfl
    exact outside (List.mem_cons_self ..)
  · rintro rfl
    exact outside (List.mem_cons_of_mem _ (List.mem_cons_self ..))

theorem isSolid_of_isNameChar {kind : NameKind} {c : Char}
    (named : Draft.isNameChar kind c = true) : IsSolid c := by
  have inModule : Draft.isNameChar .moduleName c = true := by
    simp only [Draft.isNameChar, Bool.or_eq_true, Bool.and_eq_true] at named ⊢
    exact named.imp_right fun dotted => ⟨rfl, dotted.2⟩
  exact isSolid_of_class (p := Draft.isNameChar .moduleName) (by decide +kernel) inModule

theorem isSolid_of_isWordChar {c : Char} (word : Text.isWordChar c = true) : IsSolid c :=
  isSolid_of_class (by decide +kernel) word

theorem isSolid_of_isStart {c : Char} (starts : Grammar.isStart c = true) : IsSolid c :=
  isSolid_of_class (by decide +kernel) starts

/-- Dotted identifiers fit into a declaration. -/
theorem Grammar.fitsDeclaration_of_dotted {name : String}
    (accepted : Grammar.dotted.accepts name = true) : FitsDeclaration name := by
  have word : ∀ cs, isWord cs = true → ∀ c ∈ cs, IsSolid c := by
    intro cs accepted c inside
    cases cs with
    | nil => cases inside
    | cons first rest =>
        simp only [isWord, Bool.and_eq_true, List.all_eq_true] at accepted
        rcases List.mem_cons.mp inside with rfl | later
        · exact isSolid_of_isStart accepted.1
        · exact isSolid_of_isWordChar (accepted.2 c later)
  have segment : ∀ cs, isSegment cs = true → ∀ c ∈ cs, IsSolid c := by
    intro cs accepted c inside
    unfold isSegment at accepted
    split at accepted
    · rcases List.mem_cons.mp inside with rfl | later
      · exact ⟨by decide, by decide, by decide⟩
      · exact word _ accepted c later
    · exact word _ accepted c inside
  intro c inside
  simp only [accepts, List.all_eq_true] at accepted
  rcases Text.exists_mem_split (· == '.') inside with dot | ⟨piece, listed, within⟩
  · rw [beq_iff_eq.mp dot]
    exact ⟨by decide, by decide, by decide⟩
  · exact segment piece (accepted piece listed) c within

/-- The names of a template fit into a declaration. -/
structure Template.NamesFit (template : Template) : Prop where
  moduleName : FitsDeclaration template.moduleName
  className : FitsDeclaration template.className

theorem Template.NamesFit.fullClassName {template : Template} (fit : template.NamesFit) :
    FitsDeclaration template.fullClassName := by
  have dot : FitsDeclaration "." := by
    intro c inside
    rw [List.mem_singleton.mp inside]
    exact ⟨by decide, by decide, by decide⟩
  unfold Template.fullClassName Identity.text
  split_ifs
  · exact fit.className
  · exact (fit.moduleName.append dot).append fit.className

/-- Directives name modules and classes by names that fit into a declaration. -/
theorem Template.NamesFit.perform {template performed : Template} (fit : template.NamesFit)
    {directive : Directive} (named : directive.IsNamed)
    (result : template.perform directive = .ok performed) : performed.NamesFit := by
  cases directive with
  | inclusion path =>
      cases result
      exact fit
  | name kind chars =>
      have fits : FitsDeclaration (String.ofList chars) := by
        intro c inside
        rw [String.toList_ofList] at inside
        exact isSolid_of_isNameChar (named.2 c inside)
      have written := Template.declare_eq_ok result
      cases kind with
      | className => exact written.2 ▸ ⟨fit.moduleName, fits⟩
      | moduleName => exact written.2 ▸ ⟨fits, fit.className⟩
      | engineName => exact written.2 ▸ ⟨fit.moduleName, fit.className⟩
  | body region tokens =>
      rw [Template.eq_of_perform_body result]
      exact ⟨fit.moduleName, fit.className⟩

/-! ## Imports of included templates -/

/-- What JavaScript adds for an included template is the line of a declaration. -/
theorem JavaScript.exists_importOf {child : Template} (fit : child.NamesFit) :
    ∃ d, FitsDeclaration d ∧ d ≠ "" ∧ importOf child = rule.renderOne d := by
  have opening : "import './" = "import" ++ " " ++ "'./" := by decide
  have closing : "';" = "'" ++ ";" := by decide
  have front : FitsDeclaration "'./" := by decide
  have back : FitsDeclaration "'" := by decide
  refine ⟨"'./" ++ child.fullClassName ++ "'", (front.append fit.fullClassName).append back,
    by simp, ?_⟩
  rw [importOf, DependencyRule.renderOne, rule, opening, closing]
  simp only [String.append_assoc]

/-- What Visual Basic adds for an included template is the line of its module. -/
theorem VisualBasic.importOf_eq (child : Template) :
    importOf child = rule.renderOne child.moduleName := by
  simp [importOf, DependencyRule.renderOne, rule]

/-- An import of nothing is refused. -/
theorem VisualBasic.occurrences_nothing (met : List String) :
    rule.occurrences "Imports " ≠ .ok met := by
  have refused : (rule.occurrences "Imports ").toOption = none := by decide +kernel
  intro meets
  rw [meets] at refused
  cases refused

/-! ## Dependencies of new templates -/

namespace JavaScript

/-- What every generated module imports. -/
def seeds : List String := ["'./BladeTemplateJavascriptBase'"]

theorem baseImport_eq : baseImport = rule.render seeds := by
  simp [baseImport, seeds, DependencyRule.render, DependencyRule.renderOne, rule, Text.join]

end JavaScript

namespace VisualBasic

/-- What every template that is not included imports. -/
def seeds : List String :=
  ["Blade", "System", "System.IO", "System.Text", "System.Linq", "System.Net",
    "System.Collections", "System.Collections.Generic"]

theorem defaultImports_eq : defaultImports = rule.render seeds := by
  simp [defaultImports, seeds, DependencyRule.render, DependencyRule.renderOne, rule]

end VisualBasic

namespace Java

/-- What every generated class imports. -/
def seeds : List String :=
  ["org.apache.commons.text.StringEscapeUtils", "java.net.URLEncoder", "java.net.URLDecoder",
    "java.util.Base64", "javax.xml.bind.DatatypeConverter", "java.nio.charset.StandardCharsets",
    "java.security.MessageDigest", "java.io.UnsupportedEncodingException",
    "java.security.NoSuchAlgorithmException"]

theorem defaultImports_eq : defaultImports = rule.render seeds := by
  simp [defaultImports, seeds, DependencyRule.render, DependencyRule.renderOne, rule]

end Java

/-- What a target puts into a template without dependencies is a block of declarations without
repetitions. -/
theorem Emitter.exists_seeds (emitter : Emitter) {template : Template}
    (empty : template.dependencies = "") :
    ∃ seeds : List String, (∀ d ∈ seeds, emitter.rule.IsCanonical d) ∧ seeds.Nodup ∧
      (emitter.prepare template).dependencies = emitter.rule.render seeds := by
  have fits (seeds : List String) (all : ∀ d ∈ seeds, FitsDeclaration d ∧ d ≠ "") :
      ∀ d ∈ seeds, emitter.rule.IsCanonical d :=
    fun d member => (all d member).1.isCanonical emitter.isPlain_rule (all d member).2
  cases target : emitter.target with
  | cSharp =>
      refine ⟨[], fits _ (by decide), List.nodup_nil, ?_⟩
      simp [prepare, target, empty, DependencyRule.render, Text.join]
  | javaScript =>
      refine ⟨JavaScript.seeds, fits _ (by decide +kernel), by decide, ?_⟩
      simp only [prepare, target, rule, Template.addDependency, empty, Text.empty_addLine,
        JavaScript.baseImport_eq]
  | visualBasic =>
      by_cases include_ : template.settings.isInclude = true
      · refine ⟨[], fits _ (by decide), List.nodup_nil, ?_⟩
        simp [prepare, target, include_, empty, DependencyRule.render, Text.join]
      · refine ⟨VisualBasic.seeds, fits _ (by decide +kernel), by decide, ?_⟩
        simp only [prepare, target, rule, include_, Template.addDependency,
          Template.addExternalCode, empty, Text.empty_addLine, VisualBasic.defaultImports_eq]
        rfl
  | java =>
      refine ⟨Java.seeds, fits _ (by decide +kernel), by decide, ?_⟩
      simp only [prepare, target, rule, Template.addDependency, empty, Text.empty_addLine,
        Java.defaultImports_eq]

namespace Compiler

variable {m : Type → Type}

/-- Where ids and the configured module fit into a declaration, all names do. -/
theorem namesFit_invariant {compiler : Compiler m}
    (ids : ∀ created, FitsDeclaration (compiler.ids created))
    (modules : ∀ name ∈ compiler.emitter.config.defaultModule?, FitsDeclaration name) :
    compiler.SectionInvariant fun _ tree => ∀ template ∈ tree.templates, template.NamesFit := by
  have generated (start : String) (fits : FitsDeclaration start) (created : Nat) :
      FitsDeclaration (start ++ compiler.ids created) := fits.append (ids created)
  refine .of_templates ?_ (fun _ _ _ fit named result => fit.perform named result)
    (fun _ _ _ _ _ fit => ⟨fit.moduleName, fit.className⟩)
  intro settings created
  constructor
  · change FitsDeclaration (compiler.emitter.config.defaultModule?.getD
      ("BladeModule" ++ compiler.ids created))
    cases configured : compiler.emitter.config.defaultModule? with
    | none => exact generated _ (by decide) created
    | some name => exact modules name configured
  · exact generated "BladeTemplate" (by decide) created

end Compiler

end TemplateCompiler
