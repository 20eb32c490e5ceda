import TemplateCompiler.CompiledUnit
import TemplateCompiler.Proofs.Identities

/-! # What fingerprints are made of

A fingerprint is the hash of one text into which the engine, the full class name and the hash of
the source are joined by colons. A module name can have colons and dots of its own, and an empty one
takes its dot along. The text says all the same what it was joined from: an engine name has no
colon, a class name has no dot, and the hash of a source is always as long
(`Compiler.hashedText_eq_iff_of_compile`).
-/

namespace TemplateCompiler

open MonadAttach (CanReturn)

namespace Digest

theorem length_bytesOf (word : UInt32) : (bytesOf word).length = 4 := rfl

theorem length_hexByte (byte : UInt8) : (Text.hexByte byte).length = 2 := String.length_ofList

/-- A hash is written with sixty-four digits. -/
theorem length_sha256Hex (message : List UInt8) : (sha256Hex message).length = 64 := by
  have bytes : ((sha256 message).words.flatMap bytesOf).length = 32 := by
    simp only [List.length_flatMap, length_bytesOf]
    rfl
  simp [sha256Hex, String.length_join, Function.comp_def, length_hexByte, bytes]

theorem length_sha256HexOfText (text : String) : (sha256HexOfText text).toList.length = 64 := by
  rw [sha256HexOfText, String.length_toList, length_sha256Hex]

end Digest

/-- A part in front of a separator that it does not have can be told from what stands behind. -/
theorem Text.eq_of_append_separator {c : Char} {part other rest behind : List Char}
    (absent : c ∉ part) (missing : c ∉ other) (same : part ++ c :: rest = other ++ c :: behind) :
    part = other ∧ rest = behind := by
  induction part generalizing other with
  | nil =>
      cases other with
      | nil => exact ⟨rfl, (List.cons.inj same).2⟩
      | cons d other => exact absurd ((List.cons.inj same).1 ▸ List.mem_cons_self) missing
  | cons d part ih =>
      cases other with
      | nil => exact absurd ((List.cons.inj same).1 ▸ List.mem_cons_self) absent
      | cons e other =>
          obtain ⟨rfl, tails⟩ := List.cons.inj same
          obtain ⟨rfl, rests⟩ := ih (List.not_mem_of_not_mem_cons absent)
            (List.not_mem_of_not_mem_cons missing) tails
          exact ⟨rfl, rests⟩

/-- No target has a colon in its name. -/
theorem Target.colon_not_mem_name (target : Target) : ':' ∉ target.name.toList := by
  cases target <;> decide

namespace CompiledUnit

/-- Module and class of the template that the unit is made from. -/
def identity (unit : CompiledUnit) : Identity := ⟨unit.moduleName, unit.className⟩

/-- The text that the fingerprint of the unit is to be the hash of. -/
def hashedText (unit : CompiledUnit) : String :=
  fingerprintText unit.engine unit.identity.text unit.source

/-- A text that is hashed says which engine, class name and source it stands for, the last of them
by its hash. -/
theorem fingerprintText_eq_iff {engine otherEngine name otherName source otherSource : String}
    (plain : ':' ∉ engine.toList) (otherPlain : ':' ∉ otherEngine.toList) :
    fingerprintText engine name source = fingerprintText otherEngine otherName otherSource ↔
      engine = otherEngine ∧ name = otherName ∧
        Digest.sha256HexOfText source = Digest.sha256HexOfText otherSource := by
  constructor
  · intro same
    have chars := congrArg String.toList same
    simp only [fingerprintText, String.toList_append] at chars
    -- the hash is cut off first: the name in front of it may have any number of colons
    obtain ⟨front, hashes⟩ := List.append_inj' chars
      ((Digest.length_sha256HexOfText _).trans (Digest.length_sha256HexOfText _).symm)
    rw [List.append_left_inj, List.append_assoc, List.append_assoc] at front
    obtain ⟨engines, names⟩ := Text.eq_of_append_separator plain otherPlain front
    exact ⟨String.toList_injective engines, String.toList_injective names,
      String.toList_injective hashes⟩
  · rintro ⟨rfl, rfl, hashes⟩
    rw [fingerprintText, hashes, fingerprintText]

end CompiledUnit

namespace Compiler

variable {m n : Type → Type} [Monad m] [MonadAttach m] [LawfulMonad m] [LawfulMonadAttach m]
  [Monad n] [MonadAttach n] [LawfulMonad n] [LawfulMonadAttach n]

/-- A unit that compiling returns is made from a parsed tree. -/
theorem exists_tree_of_compile {compiler : Compiler m} {stamp : Stamp} {source : String}
    {settings : Settings} {unit : CompiledUnit}
    (compiled : CanReturn (compiler.compile stamp source settings) (.ok unit)) :
    ∃ tree, CanReturn (compiler.parse source settings) (.ok tree) ∧
      unit = compiler.unitOf stamp tree := by
  obtain ⟨result, parsed, made⟩ := exists_canReturn_of_bind compiled
  have same := eq_of_canReturn_pure made
  cases result with
  | error cause => cases same
  | ok tree => exact ⟨tree, parsed, (Except.ok.inj same).symm⟩

/-- The engine of a compiled unit is a target, its class name has no dots, and its fingerprint is
the hash of its hashed text. -/
theorem fields_of_compile {compiler : Compiler m} (ids : ∀ created, Undotted (compiler.ids created))
    {stamp : Stamp} {source : String} {settings : Settings} {unit : CompiledUnit}
    (compiled : CanReturn (compiler.compile stamp source settings) (.ok unit)) :
    unit.engine = compiler.emitter.target.name ∧ Undotted unit.className ∧
      unit.fingerprint = Digest.sha256HexOfText unit.hashedText := by
  obtain ⟨tree, parsed, rfl⟩ := exists_tree_of_compile compiled
  refine ⟨rfl, ?_, rfl⟩
  exact (undotted_invariant ids).of_parse parsed tree.template
    (tree.templates_eq ▸ List.mem_cons_self)

/-- **The text behind a fingerprint is not ambiguous.** The fingerprints of two compiled units are
the hashes of their hashed texts. Where the ids of generated names have no dots, these texts are the
same just where engine, module, class and the hash of the source are, one by one; whatever targets
the units are compiled for, and whatever their modules are called. -/
theorem hashedText_eq_iff_of_compile (compiler : Compiler m) (other : Compiler n)
    (stamp otherStamp : Stamp) (source otherSource : String) (settings otherSettings : Settings)
    (unit otherUnit : CompiledUnit) (ids : ∀ created, Undotted (compiler.ids created))
    (otherIds : ∀ created, Undotted (other.ids created))
    (compiled : CanReturn (compiler.compile stamp source settings) (.ok unit))
    (otherCompiled :
      CanReturn (other.compile otherStamp otherSource otherSettings) (.ok otherUnit)) :
    unit.fingerprint = Digest.sha256HexOfText unit.hashedText ∧
      otherUnit.fingerprint = Digest.sha256HexOfText otherUnit.hashedText ∧
      (unit.hashedText = otherUnit.hashedText ↔
        unit.engine = otherUnit.engine ∧ unit.moduleName = otherUnit.moduleName ∧
          unit.className = otherUnit.className ∧
          Digest.sha256HexOfText unit.source = Digest.sha256HexOfText otherUnit.source) := by
  obtain ⟨engine, undotted, fingerprint⟩ := fields_of_compile ids compiled
  obtain ⟨otherEngine, otherUndotted, otherFingerprint⟩ :=
    fields_of_compile otherIds otherCompiled
  refine ⟨fingerprint, otherFingerprint, ?_⟩
  have plain : ':' ∉ unit.engine.toList := engine ▸ Target.colon_not_mem_name _
  have otherPlain : ':' ∉ otherUnit.engine.toList := otherEngine ▸ Target.colon_not_mem_name _
  rw [CompiledUnit.hashedText, CompiledUnit.hashedText,
    CompiledUnit.fingerprintText_eq_iff plain otherPlain]
  constructor
  · rintro ⟨engines, names, sources⟩
    have identities : unit.identity = otherUnit.identity :=
      Identity.eq_of_text_eq undotted otherUndotted names
    exact ⟨engines, congrArg Identity.moduleName identities,
      congrArg Identity.className identities, sources⟩
  · rintro ⟨engines, modules, classes, sources⟩
    refine ⟨engines, ?_, sources⟩
    rw [CompiledUnit.identity, modules, classes, CompiledUnit.identity]

/-- The hashed texts of two pages, one in a configured namespace with a colon and one that declares
a module with a dot in its place. -/
theorem hashedText_ne_of_pages :
    let configured : Compiler Id := { Compiler.ofTexts .javaScript [] with
      emitter := ⟨.javaScript, { defaultModule? := some "Site:Pages" }, .dotted⟩ }
    let declaring := Compiler.ofTexts .cSharp []
    let settings : Settings := ⟨"home.blade", "/site", true, false⟩
    ∃ unit other,
      CanReturn (configured.compile ⟨"one", ⟨0, 0⟩⟩ "<%@\x60Home\x60%>hi" settings) (.ok unit) ∧
      CanReturn (declaring.compile ⟨"two", ⟨0, 0⟩⟩ "<%$\x60Site.Pages\x60%><%@\x60Home\x60%>hi"
        settings) (.ok other) ∧
      unit.identity.text = "Site:Pages.Home" ∧ other.identity.text = "Site.Pages.Home" ∧
      unit.hashedText ≠ other.hashedText := by
  intro configured declaring settings
  have first : (Except.toOption (configured.compile ⟨"one", ⟨0, 0⟩⟩ "<%@\x60Home\x60%>hi"
      settings)).map CompiledUnit.identity = some ⟨"Site:Pages", "Home"⟩ := by decide +kernel
  have second : (Except.toOption (declaring.compile ⟨"two", ⟨0, 0⟩⟩
      "<%$\x60Site.Pages\x60%><%@\x60Home\x60%>hi" settings)).map CompiledUnit.identity =
      some ⟨"Site.Pages", "Home"⟩ := by decide +kernel
  obtain ⟨unit, made, identity⟩ := Option.map_eq_some_iff.mp first
  obtain ⟨other, makes, otherIdentity⟩ := Option.map_eq_some_iff.mp second
  have ids : ∀ created, Undotted (declaring.ids created) := by
    intro created dotted
    simp [declaring, ofTexts] at dotted
  obtain ⟨_, _, same⟩ := hashedText_eq_iff_of_compile configured declaring _ _ _ _ _ _ unit other
    ids ids (canReturn_of_toOption made) (canReturn_of_toOption makes)
  refine ⟨unit, other, canReturn_of_toOption made, canReturn_of_toOption makes, identity ▸ rfl,
    otherIdentity ▸ rfl, fun texts => ?_⟩
  have modules : unit.identity.moduleName = other.identity.moduleName := (same.mp texts).2.1
  rw [identity, otherIdentity] at modules
  exact absurd modules (by decide)

end Compiler

end TemplateCompiler
