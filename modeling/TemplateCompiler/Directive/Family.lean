import TemplateCompiler.Transform

/-! # Families of directives

A directive is what stands between `<%` and `%>`. Its family is what it is for, and is
told by its opening markup.
-/

namespace TemplateCompiler

/-- What a directive is for. -/
inductive DirectiveFamily where
  /-- The opening markup is not complete yet. -/
  | tag
  | dependency
  | templateName
  | moduleName
  | engineName
  | externalCode
  | fullUrlEncode
  | comment
  | inclusion
  | htmlEncode
  | write
  | htmlDecode
  | urlEncode
  | urlDecode
  | fullUrlDecode
  | md5
  | base64Encode
  | base64Decode
  | block
  | function
deriving DecidableEq, Repr

namespace DirectiveFamily

/-- Every family, in the order of declaration. -/
def all : List DirectiveFamily :=
  [tag, dependency, templateName, moduleName, engineName, externalCode, fullUrlEncode, comment,
    inclusion, htmlEncode, write, htmlDecode, urlEncode, urlDecode, fullUrlDecode, md5,
    base64Encode, base64Decode, block, function]

/-- The family's name in messages. -/
def label : DirectiveFamily → String
  | tag => "tag"
  | dependency => "dependency"
  | templateName => "template-name"
  | moduleName => "module-name"
  | engineName => "engine-name"
  | externalCode => "external-code"
  | fullUrlEncode => "full-url-encode"
  | comment => "comment"
  | inclusion => "include"
  | htmlEncode => "html-encode"
  | write => "write"
  | htmlDecode => "html-decode"
  | urlEncode => "url-encode"
  | urlDecode => "url-decode"
  | fullUrlDecode => "full-url-decode"
  | md5 => "md5"
  | base64Encode => "base64-encode"
  | base64Decode => "base64-decode"
  | block => "block"
  | function => "function"

/-- The markup that opens a directive of the family. -/
def opener : DirectiveFamily → String
  | tag => "<%"
  | dependency => "<%@"
  | templateName => "<%@`"
  | moduleName => "<%$`"
  | engineName => "<%@@"
  | externalCode => "<%!"
  | fullUrlEncode => "<%!="
  | comment => "<%*"
  | inclusion => "<%#"
  | htmlEncode => "<%#="
  | write => "<%="
  | htmlDecode => "<%~="
  | urlEncode => "<%?="
  | urlDecode => "<%&="
  | fullUrlDecode => "<%^="
  | md5 => "<%$="
  | base64Encode => "<%:="
  | base64Decode => "<%.="
  | block => "<%"
  | function => "<%~"

/-- The family with a given label. -/
def ofLabel? (label : String) : Option DirectiveFamily :=
  all.find? fun family => family.label == label

end DirectiveFamily

/-- The family of the write directives that use a helper. -/
def Transform.family : Transform → DirectiveFamily
  | .htmlEncode => .htmlEncode
  | .htmlDecode => .htmlDecode
  | .urlEncode => .urlEncode
  | .urlDecode => .urlDecode
  | .fullUrlEncode => .fullUrlEncode
  | .fullUrlDecode => .fullUrlDecode
  | .md5 => .md5
  | .base64Encode => .base64Encode
  | .base64Decode => .base64Decode

/-- What a name declared in a template names. -/
inductive NameKind where
  | className
  | moduleName
  | engineName
deriving DecidableEq, Repr

namespace NameKind

/-- Every kind, in the order of declaration. -/
def all : List NameKind := [className, moduleName, engineName]

/-- The kind's name in messages. -/
def label : NameKind → String
  | className => "class"
  | moduleName => "module"
  | engineName => "engine"

/-- The kind with a given label. -/
def ofLabel? (label : String) : Option NameKind := all.find? fun kind => kind.label == label

/-- The family of the directives that declare a name of the kind. -/
def family : NameKind → DirectiveFamily
  | className => .templateName
  | moduleName => .moduleName
  | engineName => .engineName

end NameKind

end TemplateCompiler
