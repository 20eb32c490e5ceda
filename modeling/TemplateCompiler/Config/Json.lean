import TemplateCompiler.Config
import TemplateCompiler.Json.Decoding

/-! # Configurations in JSON

`Config.ofJsonText` reads a configuration and `Config.toJson` writes one. Every option has
a default, so the empty object is the default configuration.
-/

namespace TemplateCompiler.Config

/-- The keys of the options, in the order of declaration. -/
def keys : List String :=
  ["camelCase", "skipExcessiveNewLines", "templateExtension", "indexFile", "libraryRoot",
    "moduleNamePattern", "namespace", "maxIncludeDepth", "modelType"]

/-- The configuration that a JSON value writes. -/
def ofJson? (value : Json) : Option Config := do
  let default : Config := {}
  match ← value.fields? keys with
  | [camelCase, skipLineBreaks, extension, index, library, pattern, defaultModule?, depth, model] =>
    let optional := Json.withDefault? (Json.nullable? Json.text?) none
    return {
      camelCase := ← Json.withDefault? Json.bool? default.camelCase camelCase
      skipLineBreaks := ← Json.withDefault? Json.bool? default.skipLineBreaks skipLineBreaks
      templateExtension := ← Json.withDefault? Json.text? default.templateExtension extension
      indexFile := ← Json.withDefault? Json.text? default.indexFile index
      libraryRoot? := ← optional library
      moduleNamePattern? := ← optional pattern
      defaultModule? := ← optional defaultModule?
      maxIncludeDepth := ← Json.withDefault? Json.nat? default.maxIncludeDepth depth
      modelType? := ← optional model }
  | _ => none

/-- The configuration that a JSON text writes. -/
def ofJsonText (text : String) : Except ConfigError Config :=
  match (Json.ofText? text).bind ofJson? with
  | some config => .ok config
  | none => .error .malformed

/-- The configuration as a JSON value with all its keys. -/
def toJson (config : Config) : Json :=
  .object [
    ("camelCase", .bool config.camelCase),
    ("skipExcessiveNewLines", .bool config.skipLineBreaks),
    ("templateExtension", .string config.templateExtension),
    ("indexFile", .string config.indexFile),
    ("libraryRoot", .ofOption config.libraryRoot?),
    ("moduleNamePattern", .ofOption config.moduleNamePattern?),
    ("namespace", .ofOption config.defaultModule?),
    ("maxIncludeDepth", .nat config.maxIncludeDepth),
    ("modelType", .ofOption config.modelType?)]

end TemplateCompiler.Config
