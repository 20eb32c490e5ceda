/-! # Runtime helpers

A write directive can pass its expression through one of nine runtime helpers that
every target language supplies.
-/

namespace TemplateCompiler

/-- A runtime helper that a write directive passes its expression through. -/
inductive Transform where
  | htmlEncode
  | htmlDecode
  | urlEncode
  | urlDecode
  | fullUrlEncode
  | fullUrlDecode
  | md5
  | base64Encode
  | base64Decode
deriving DecidableEq, Repr, Inhabited

namespace Transform

/-- Every helper, in the order of declaration. -/
def all : List Transform :=
  [htmlEncode, htmlDecode, urlEncode, urlDecode, fullUrlEncode, fullUrlDecode, md5,
    base64Encode, base64Decode]

/-- The helper's name with a small first letter. -/
def camelName : Transform → String
  | htmlEncode => "htmlEncode"
  | htmlDecode => "htmlDecode"
  | urlEncode => "urlEncode"
  | urlDecode => "urlDecode"
  | fullUrlEncode => "fullUrlEncode"
  | fullUrlDecode => "fullUrlDecode"
  | md5 => "md5"
  | base64Encode => "base64Encode"
  | base64Decode => "base64Decode"

/-- The helper's name with a capital first letter. -/
def pascalName : Transform → String
  | htmlEncode => "HtmlEncode"
  | htmlDecode => "HtmlDecode"
  | urlEncode => "UrlEncode"
  | urlDecode => "UrlDecode"
  | fullUrlEncode => "FullUrlEncode"
  | fullUrlDecode => "FullUrlDecode"
  | md5 => "Md5"
  | base64Encode => "Base64Encode"
  | base64Decode => "Base64Decode"

/-- The helper's name in the spelling that a target asks for. -/
def helperName (transform : Transform) (camelCase : Bool) : String :=
  if camelCase then transform.camelName else transform.pascalName

/-- The helper with a given camel case name. -/
def ofName? (name : String) : Option Transform :=
  all.find? fun transform => transform.camelName == name

end Transform

end TemplateCompiler
