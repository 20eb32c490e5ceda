import TemplateCompiler.CommandLine.Run
import TemplateCompiler.Proofs.EngineDetection

/-! # Requests that leave out the engine

A request that names no engine is answered with the engine that its template declares. The answer
is the one for that engine, unless looking for the declaration fails (`answer_without_engine`): it
knows the usual grammar only, whatever pattern is configured for module names.
-/

namespace TemplateCompiler

open Markup
open MonadAttach (CanReturn)

/-- A target is asked for by its own name. -/
theorem Target.ofName?_name (target : Target) : Target.ofName? target.name = some target := by
  cases target <;> decide +kernel

namespace Emitter

variable {name : String} {config : Config} {emitter : Emitter}

/-- An emitter that a name asks for is made for its target. -/
theorem ofConfig_of_ofName (made : ofName name config = .ok emitter) :
    ofConfig emitter.target config = .ok emitter := by
  simp only [ofName] at made
  cases target : Target.ofName? name with
  | none =>
      rw [target] at made
      cases made
  | some found =>
      rw [target] at made
      obtain ⟨grammar, _, rest⟩ := exists_ok_of_bind made
      cases rest
      exact made

/-- Asking for the engine name of an emitter makes it again. -/
theorem ofName_name (made : ofName name config = .ok emitter) :
    ofName emitter.name config = .ok emitter := by
  rw [ofName, Emitter.name, Target.ofName?_name]
  exact ofConfig_of_ofName made

theorem moduleGrammar_of_ofName (made : ofName name config = .ok emitter)
    (usual : config.moduleNamePattern? = none) : emitter.moduleGrammar = .dotted := by
  obtain ⟨grammar, found, rest⟩ := exists_ok_of_bind (ofConfig_of_ofName made)
  simp only [Config.moduleGrammar, usual] at found
  cases found
  exact (congrArg Emitter.moduleGrammar (Except.ok.inj rest)).symm

end Emitter

namespace CommandLine

variable {environment : Environment Id} {verb : Verb} {template : String} {config : Config}
  {engine? config? libraryRoot? : Option String}

/-- What is known of an action without effects is what the next one gets. -/
theorem bind_of_eq {α β : Type} {action : Id α} {value : α} (known : action = value)
    (next : α → Id β) : (action >>= next) = next value := by
  rw [known]
  rfl

/-- A request to print code is answered by its compiler. -/
theorem answer_eq (asked : verb ≠ .detect)
    (configured : readConfig environment config? libraryRoot? = .ok config) :
    answer environment (.run verb template engine? config? libraryRoot?) =
      match compilerFor environment template engine? config with
      | .error reason => .failure reason
      | .ok compiler =>
        if verb = .render then render compiler template
        else compile environment compiler template := by
  rw [answer, bind_of_eq configured]
  simp only [asked, if_false]
  cases compilerFor environment template engine? config <;> rfl

/-- A request to print code that succeeds has a configuration, a compiler and a template that the
compiler parses. -/
theorem exists_of_answer (asked : verb ≠ .detect)
    (succeeds :
      (answer environment (.run verb template engine? config? libraryRoot?)).exitCode = 0) :
    ∃ config compiler tree, readConfig environment config? libraryRoot? = .ok config ∧
      compilerFor environment template engine? config = .ok compiler ∧
      compiler.parseFile template = .ok tree := by
  cases configured : readConfig environment config? libraryRoot? with
  | error reason =>
      rw [answer, bind_of_eq configured] at succeeds
      cases succeeds
  | ok config =>
      rw [answer_eq asked configured] at succeeds
      cases made : compilerFor environment template engine? config with
      | error reason =>
          rw [made] at succeeds
          cases succeeds
      | ok compiler =>
          rw [made] at succeeds
          refine ⟨config, compiler, ?_⟩
          cases parsed : compiler.parseFile template with
          | ok tree => exact ⟨tree, rfl, made, rfl⟩
          | error cause =>
              have rendered : render compiler template = .parseFailure cause := by
                rw [render, bind_of_eq parsed]
                rfl
              have compiled : compile environment compiler template = .parseFailure cause := by
                rw [compile, Compiler.compileFile, bind_of_eq parsed]
                rfl
              simp only [rendered, compiled, ite_self] at succeeds
              cases succeeds

/-- The compiler for an engine. -/
theorem compilerFor_some {engine : String} :
    compilerFor environment template (some engine) config =
      ((Emitter.ofName engine config).mapError ConfigError.message).map fun emitter =>
        (⟨emitter, environment.loader, environment.ids⟩ : Compiler Id) := rfl

theorem exists_of_compilerFor {engine : String} {compiler : Compiler Id}
    (made : compilerFor environment template (some engine) config = .ok compiler) :
    Emitter.ofName engine config = .ok compiler.emitter ∧
      compiler.loader = environment.loader := by
  rw [compilerFor_some] at made
  cases emitted : Emitter.ofName engine config with
  | error cause =>
      rw [emitted] at made
      cases made
  | ok emitter =>
      rw [emitted] at made
      cases made
      exact ⟨rfl, rfl⟩

/-- Where no engine is asked for, the compiler is the one for the engine that is declared. -/
theorem compilerFor_none {source : String}
    (read : environment.loader.read template = .ok source) :
    compilerFor environment template none config =
      match declaredEngine source with
      | .error cause => .error cause.message
      | .ok none => .error "No engine given and the template declares none"
      | .ok (some name) => compilerFor environment template (some name) config := by
  have found : readTemplate environment template = .ok source := by
    rw [readTemplate, bind_of_eq read]
    rfl
  rw [compilerFor, engineName, bind_of_eq found]
  dsimp only
  rcases declaredEngine source with cause | (_ | name) <;> rfl

/-- **Leaving out the engine** of a request that succeeds leaves its answer as it is where the
template declares an engine, unless a module name before that is against the usual grammar: then
the request fails with that name. Only a configured grammar accepts such names. -/
theorem answer_without_engine (environment : Environment Id) (verb : Verb)
    (template engine source : String) (config? libraryRoot? : Option String)
    (asked : verb ≠ .detect) (read : environment.loader.read template = .ok source)
    (declares : ∃ s ∈ (sections source.toList).1, s.directive.engine?.isSome)
    (succeeds :
      (answer environment (.run verb template (some engine) config? libraryRoot?)).exitCode = 0) :
    answer environment (.run verb template none config? libraryRoot?) =
      (match refusal? [] (sections source.toList).1 with
        | some cause => .failure cause.message
        | none => answer environment (.run verb template (some engine) config? libraryRoot?)) ∧
    ∀ config, readConfig environment config? libraryRoot? = .ok config →
      config.moduleNamePattern? = none → refusal? [] (sections source.toList).1 = none := by
  obtain ⟨config, compiler, tree, configured, made, parsed⟩ := exists_of_answer asked succeeds
  obtain ⟨emitted, loader⟩ := exists_of_compilerFor made
  rw [Compiler.parseFile, loader, bind_of_eq read] at parsed
  have returned : CanReturn (compiler.parse source (Settings.forFile template)) (.ok tree) := parsed
  constructor
  · have named : (sections source.toList).1.any (·.directive.engine?.isSome) = true :=
      List.any_eq_true.mpr declares
    have same : compilerFor environment template (some compiler.emitter.name) config =
        compilerFor environment template (some engine) config := by
      rw [compilerFor_some, compilerFor_some, Emitter.ofName_name emitted, emitted]
    rw [answer_eq asked configured, answer_eq asked configured, compilerFor_none read,
      Compiler.declaredEngine_eq_of_parse returned, named, ← same]
    cases refusal? [] (sections source.toList).1 <;> rfl
  · intro other configured' usual
    cases configured.symm.trans configured'
    exact Compiler.refusal?_of_parse (Emitter.moduleGrammar_of_ofName emitted usual) returned

/-- Pages that declare a module before their engine. Where a pattern asks for a number, the number
is refused once the engine is left out; without a pattern the answer is the same. -/
theorem answer_without_engine_page :
    let page (name : String) := "<%$\x60" ++ name ++ "\x60%><%@\x60Home\x60%><%@@ CSharp @@%>hi"
    let texts := [("config.json", "\x7b\"moduleNamePattern\": \"^[0-9]+$\"\x7d"),
      ("numbered.blade", page "9"), ("named.blade", page "Site")]
    let environment : Environment Id :=
      ⟨MemoryStore.loader { entries := texts }, fun _ => "", ⟨"", ⟨0, 0⟩⟩⟩
    let rendered (template : String) (engine? config? : Option String) : Response :=
      answer environment (.run .render template engine? config? none)
    ((rendered "numbered.blade" (some "CSharp") (some "config.json")).exitCode = 0 ∧
      rendered "numbered.blade" none (some "config.json") =
        .failure "Line: (1, 2): module name '9' is invalid") ∧
    ((rendered "named.blade" (some "cs") none).exitCode = 0 ∧
      rendered "named.blade" none none = rendered "named.blade" (some "cs") none) := by
  intro page texts environment rendered
  have numbered :
      (rendered "numbered.blade" (some "CSharp") (some "config.json")).exitCode = 0 := by
    decide +kernel
  have named : (rendered "named.blade" (some "cs") none).exitCode = 0 := by decide +kernel
  have refused : refusal? [] (sections (page "9").toList).1 =
      some (.naming (.invalidIdentifier .moduleName "9") ⟨1, 2⟩) := by decide +kernel
  have accepted : refusal? [] (sections (page "Site").toList).1 = none := by decide +kernel
  obtain ⟨left, _⟩ := answer_without_engine environment .render "numbered.blade" "CSharp"
    (page "9") (some "config.json") none nofun (eq_ok_of_toOption (by decide +kernel))
    (List.any_eq_true.mp (by decide +kernel)) numbered
  obtain ⟨right, _⟩ := answer_without_engine environment .render "named.blade" "cs"
    (page "Site") none none nofun (eq_ok_of_toOption (by decide +kernel))
    (List.any_eq_true.mp (by decide +kernel)) named
  rw [refused] at left
  rw [accepted] at right
  exact ⟨⟨numbered, left⟩, named, right⟩

end CommandLine

end TemplateCompiler
