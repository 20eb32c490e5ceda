import TemplateCompiler.Json.Basic
import TemplateCompiler.Target.Basic

/-! # JavaScript

A template becomes a class of its own module, which extends a base class with the
helpers and writes into an array. Included templates stay modules of their own and are
imported. Literals are JSON strings.
-/

namespace TemplateCompiler.JavaScript

/-- How JavaScript spells dependencies. -/
def rule : DependencyRule where
  keyword := "import"
  separator := ";"

/-- The dependency of every generated module. -/
def baseImport : String := "import './BladeTemplateJavascriptBase';"

/-- The statement that writes a text. -/
def literal (text : String) : String :=
  if text.isEmpty then "" else "\nthis._buffer.push(" ++ Json.quote text ++ ");"

/-- The statement that writes the value of an expression. -/
def value (expression : String) : String := "\nthis._buffer.push(" ++ expression ++ ");"

/-- The declaration that imports an included template. -/
def importOf (child : Template) : String := "import './" ++ child.fullClassName ++ "';"

/-- The generated code of a template without its dependencies. -/
def renderContent (template : Template) : String :=
  "\n" ++ template.externalCode ++ "\nexport class " ++ template.className ++
    " extends BladeTemplateJavascriptBase \x7b\n    render(model) \x7b\n" ++
    "        this._buffer = [];\n        " ++ template.body.code ++
    "\n        const result = this._buffer.join('');\n\n" ++
    "        this._buffer = [];\n\n        return result;\n    \x7d\n    " ++
    template.functions.code ++ "\n\x7d\n"

end TemplateCompiler.JavaScript
