import TemplateCompiler.CompiledUnit
import TemplateCompiler.Json.Decoding

/-! # JSON forms

How names, settings, fragments, locations and units are written in JSON, and read back.
Every field of a record has to be given. Each type has its pair of functions, `toJson`
and `ofJson?`, in its namespace.
-/

namespace TemplateCompiler

namespace NameSlot

/-- The slot as its state and name. -/
def toJson : NameSlot → Json
  | unset => .object [("state", .string "unset")]
  | generated name => .object [("state", .string "generated"), ("name", .string name)]
  | explicit name => .object [("state", .string "explicit"), ("name", .string name)]

/-- The slot that a JSON value writes. -/
def ofJson? (value : Json) : Option NameSlot := do
  match ← value.tagged? "state" "name" with
  | ("unset", none) => some unset
  | ("unset", some .null) => some unset
  | ("generated", some (.string name)) => some (generated name)
  | ("explicit", some (.string name)) => some (explicit name)
  | _ => none

end NameSlot

namespace Settings

/-- The settings as a JSON value. -/
def toJson (settings : Settings) : Json :=
  .object [("path", .string settings.path), ("absoluteDir", .string settings.root),
    ("isLocal", .bool settings.isLocal), ("isInclude", .bool settings.isInclude)]

/-- The settings that a JSON value writes. -/
def ofJson? (value : Json) : Option Settings := do
  match ← value.fields? ["path", "absoluteDir", "isLocal", "isInclude"] with
  | [path, root, isLocal, isInclude] =>
    return {
      path := ← Json.required? Json.text? path
      root := ← Json.required? Json.text? root
      isLocal := ← Json.required? Json.bool? isLocal
      isInclude := ← Json.required? Json.bool? isInclude }
  | _ => none

end Settings

namespace Transform

/-- The helper as its name. -/
def toJson (transform : Transform) : Json := .string transform.camelName

/-- The helper that a JSON value names. -/
def ofJson? (value : Json) : Option Transform := value.case?.bind ofName?

end Transform

namespace DirectiveFamily

/-- The family as its label. -/
def toJson (family : DirectiveFamily) : Json := .string family.label

/-- The family that a JSON value names. -/
def ofJson? (value : Json) : Option DirectiveFamily := value.case?.bind ofLabel?

end DirectiveFamily

namespace NameKind

/-- The kind as its label. -/
def toJson (kind : NameKind) : Json := .string kind.label

/-- The kind that a JSON value names. -/
def ofJson? (value : Json) : Option NameKind := value.case?.bind ofLabel?

end NameKind

namespace FragmentKind

/-- The kind, with its helper where it has one. -/
def toJson : FragmentKind → Json
  | literal => .object [("kind", .string "literal")]
  | value => .object [("kind", .string "value")]
  | code => .object [("kind", .string "code")]
  | transform t => .object [("kind", .string "transform"), ("transform", t.toJson)]

/-- The kind that a JSON value writes. -/
def ofJson? (value : Json) : Option FragmentKind := do
  match ← value.tagged? "kind" "transform" with
  | ("transform", some content) => (Transform.ofJson? content).map transform
  | (name, content) =>
    if content.isSome && content != some .null then none
    else
      match name with
      | "literal" => some literal
      | "value" => some .value
      | "code" => some code
      | _ => none

end FragmentKind

namespace Fragment

/-- The fragment as a JSON value. -/
def toJson (fragment : Fragment) : Json :=
  .object [("kind", fragment.kind.toJson), ("source", .string fragment.source),
    ("code", .string fragment.code)]

/-- The fragment that a JSON value writes. -/
def ofJson? (value : Json) : Option Fragment := do
  match ← value.fields? ["kind", "source", "code"] with
  | [kind, source, code] =>
    return {
      kind := ← Json.required? FragmentKind.ofJson? kind
      source := ← Json.required? Json.text? source
      code := ← Json.required? Json.text? code }
  | _ => none

end Fragment

namespace FragmentStream

/-- The fragments as a JSON value. -/
def toJson (stream : FragmentStream) : Json :=
  .object [("fragments", .array (stream.map Fragment.toJson))]

/-- The fragments that a JSON value writes. -/
def ofJson? (value : Json) : Option FragmentStream := do
  match ← value.fields? ["fragments"] with
  | [fragments] => (← Json.required? Json.items? fragments).mapM Fragment.ofJson?
  | _ => none

end FragmentStream

namespace Identity

/-- The identity as a JSON value. -/
def toJson (identity : Identity) : Json :=
  .object [("module", .string identity.moduleName), ("class", .string identity.className)]

/-- The identity that a JSON value writes. -/
def ofJson? (value : Json) : Option Identity := do
  match ← value.fields? ["module", "class"] with
  | [moduleName, className] =>
    return ⟨← Json.required? Json.text? moduleName, ← Json.required? Json.text? className⟩
  | _ => none

end Identity

namespace Location

/-- The location as a JSON value. -/
def toJson (location : Location) : Json :=
  .object [("row", .nat location.row), ("col", .nat location.col)]

/-- The location that a JSON value writes. -/
def ofJson? (value : Json) : Option Location := do
  match ← value.fields? ["row", "col"] with
  | [row, col] => return ⟨← Json.required? Json.nat? row, ← Json.required? Json.nat? col⟩
  | _ => none

end Location

namespace CompiledUnit

/-- The unit as a JSON value. -/
def toJson (unit : CompiledUnit) : Json :=
  .object [("id", .string unit.id), ("engine", .string unit.engine),
    ("engine_version", .string unit.engineVersion), ("module", .string unit.moduleName),
    ("class", .string unit.className), ("template_path", .string unit.templatePath),
    ("created_at", .string unit.createdAt.text), ("fingerprint", .string unit.fingerprint),
    ("includes", .strings unit.includes), ("source", .string unit.source)]

/-- The keys of a unit, in the order of its fields. -/
def keys : List String :=
  ["id", "engine", "engine_version", "module", "class", "template_path", "created_at",
    "fingerprint", "includes", "source"]

/-- The unit that a JSON value writes. -/
def ofJson? (value : Json) : Option CompiledUnit := do
  let text := Json.required? Json.text?
  match ← value.fields? keys with
  | [id, engine, version, moduleName, className, path, createdAt, fingerprint, includes,
      source] =>
    return {
      id := ← text id
      engine := ← text engine
      engineVersion := ← text version
      moduleName := ← text moduleName
      className := ← text className
      templatePath := ← text path
      createdAt := ← Timestamp.ofText? (← text createdAt)
      fingerprint := ← text fingerprint
      includes := ← (← Json.required? Json.items? includes).mapM Json.text?
      source := ← text source }
  | _ => none

end CompiledUnit

end TemplateCompiler
