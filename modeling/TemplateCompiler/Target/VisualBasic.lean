import TemplateCompiler.Target.Basic

/-! # Visual Basic

A template with content becomes a class in a namespace. A template that is not included
brings a base class with the helpers along. A literal is one string for each of its
lines, since a Visual Basic string cannot hold a line end.
-/

namespace TemplateCompiler.VisualBasic

/-- How Visual Basic spells dependencies. -/
def rule : DependencyRule where
  keyword := "Imports"
  separator := ""
  ignoresCase := true
  normalizesAliases := true

/-- The dependencies of a template that is not included. -/
def defaultImports : String := Text.join "\n" [
  "Imports Blade",
  "Imports System",
  "Imports System.IO",
  "Imports System.Text",
  "Imports System.Linq",
  "Imports System.Net",
  "Imports System.Collections",
  "Imports System.Collections.Generic"]

/-- The types that the base class has a write method for. -/
def writeTypes : List String :=
  ["Boolean", "Char()", "Char", "Byte", "SByte", "Integer", "UInteger", "Short", "UShort",
    "Long", "ULong", "Single", "Double", "Decimal", "Object", "String",
    "System.Text.StringBuilder"]

/-- The base class up to its write methods. -/
def baseClassHead : String := Text.join "\n" [
  "Namespace Blade",
  "    Public MustInherit Class BladeTemplateVisualBasicBase",
  "        Protected _buffer As StringBuilder",
  "",
  "        Public Sub New()",
  "            _buffer = New StringBuilder()",
  "        End Sub",
  "        #Region \"Encode/Decode Helpers\"",
  "        Protected Overridable Function HtmlEncode(ByVal s As String) As String",
  "            Return Net.WebUtility.HtmlEncode(s)",
  "        End Function",
  "",
  "        Protected Overridable Function HtmlDecode(ByVal s As String) As String",
  "            Return Net.WebUtility.HtmlDecode(s)",
  "        End Function",
  "",
  "        Protected Overridable Function UrlEncode(ByVal s As String) As String",
  "            If String.IsNullOrEmpty(s) Then",
  "                Return \"\"",
  "            End If",
  "            Dim i = s.IndexOf(\"?\"c)",
  "            Dim encoded = New List(Of String)",
  "            For Each part In s.Substring(i + 1).Split(\"&\"c)",
  "                Dim kv = part.Split(\"=\"c)",
  "                encoded.Add(Net.WebUtility.UrlEncode(kv(0)) & If(kv.Length > 1, \"=\" & Net.WebUtility.UrlEncode(kv(1)), \"\"))",
  "            Next",
  "            Return s.Substring(0, i + 1) & String.Join(\"&\", encoded)",
  "        End Function",
  "",
  "        Protected Overridable Function FullUrlEncode(ByVal s As String) As String",
  "            Return Net.WebUtility.UrlEncode(s)",
  "        End Function",
  "",
  "        Protected Overridable Function UrlDecode(ByVal s As String) As String",
  "            Return Net.WebUtility.UrlDecode(s)",
  "        End Function",
  "",
  "        Protected Overridable Function FullUrlDecode(ByVal s As String) As String",
  "            Return Net.WebUtility.UrlDecode(s)",
  "        End Function",
  "",
  "        Protected Overridable Function Md5(ByVal s As String) As String",
  "            Using hasher = Security.Cryptography.MD5.Create()",
  "                Dim bytes = hasher.ComputeHash(Encoding.UTF8.GetBytes(s))",
  "                Return String.Concat(bytes.Select(Function(b) b.ToString(\"x2\")))",
  "            End Using",
  "        End Function",
  "",
  "        Protected Overridable Function Base64Encode(ByVal s As String) As String",
  "            Return Convert.ToBase64String(Encoding.UTF8.GetBytes(s))",
  "        End Function",
  "",
  "        Protected Overridable Function Base64Decode(ByVal s As String) As String",
  "            Return Encoding.UTF8.GetString(Convert.FromBase64String(s))",
  "        End Function"]

/-- The base class from the end of its write methods on. -/
def baseClassTail : String := Text.join "\n" [
  "",
  "        Protected Sub WriteLine(ByVal x As Object)",
  "            _buffer.AppendLine(x?.ToString())",
  "        End Sub",
  "        #End Region",
  "    End Class",
  "End Namespace"]

/-- The write method for a type. -/
def writeMethod (type : String) : String :=
  "\n        Protected Sub Write(x As " ++ type ++
    ")\n            _buffer.Append(x)\n        End Sub"

/-- The base class of the generated classes. -/
def baseClass : String :=
  baseClassHead ++ "\n" ++ String.join (writeTypes.map writeMethod) ++ baseClassTail

/-- One line of a literal as a string, without carriage returns at its end. -/
def lineLiteral (line : List Char) : String :=
  let text := String.ofList (Text.dropEnd (· == '\r') line)
  "\"" ++ Text.doubleQuotes text ++ "\""

/-- The statement that writes a text. -/
def literal (text : String) : String :=
  if text.isEmpty then ""
  else
    let lines := (Text.split (· == '\n') text.toList).map lineLiteral
    "\n_buffer.Append(" ++ Text.join " & vbLf & " lines ++ ")"

/-- The statement that writes the value of an expression. -/
def value (expression : String) : String := "\n_buffer.Append(" ++ expression ++ ")"

/-- The declaration that imports an included template. -/
def importOf (child : Template) : String := "Imports " ++ child.moduleName

/-- The parameter of the render method. -/
def modelParameter (config : Config) : String :=
  config.defaultedModelParameter "Optional model As Object = Nothing"

/-- The generated code of a template without its dependencies. A template without
content has no class. -/
def renderContent (config : Config) (template : Template) : String :=
  if !template.hasContent then "\n" ++ template.externalCode ++ "\n"
  else
    "\n" ++ template.externalCode ++ "\nNamespace " ++ template.moduleName ++
      "\n    Public Class " ++ template.className ++
      "\n        Inherits BladeTemplateVisualBasicBase\n\n" ++ "        Public Function Render(" ++
      modelParameter config ++ ") As String\n            " ++ template.body.code ++
      "\n            Dim result As String = _buffer.ToString()\n\n" ++
      "            _buffer.Clear()\n\n            Return result\n" ++
      "        End Function\n        " ++ template.functions.code ++
      "\n    End Class\nEnd Namespace\n"

/-- The code of an included template between two comments that tell where it came
from. -/
def includedCode (child : Template) (content : String) : String :=
  let origin := child.settings.path ++ " (" ++ child.settings.root ++ ")"
  "' ------ include: " ++ origin ++ " (start) -------\n" ++ Text.trimLineFeeds content ++
    "\n' ------ include: " ++ origin ++ " ( end ) -------"

end TemplateCompiler.VisualBasic
