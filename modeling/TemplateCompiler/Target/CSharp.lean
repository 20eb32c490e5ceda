import TemplateCompiler.Target.Basic

/-! # C#

A template becomes a class in a namespace, which writes into a string builder. Literals
are verbatim strings, in which only the quotation mark is doubled.
-/

namespace TemplateCompiler.CSharp

/-- How C# spells dependencies. -/
def rule : DependencyRule where
  keyword := "using"
  separator := ";"
  normalizesAliases := true

/-- The statement that writes a text. -/
def literal (text : String) : String :=
  if text.isEmpty then "" else "\n_buffer.Append(@\"" ++ Text.doubleQuotes text ++ "\");"

/-- The statement that writes the value of an expression. -/
def value (expression : String) : String := "\n_buffer.Append(" ++ expression ++ ");"

/-- The members that every generated class has. -/
def helpers : String := Text.join "\n" [
  "        System.Text.StringBuilder _buffer = new System.Text.StringBuilder();",
  "        #region Encode/Decode Helpers",
  "        protected virtual string HtmlEncode(object s) => System.Net.WebUtility.HtmlEncode(s?.ToString());",
  "        protected virtual string HtmlDecode(object s) => System.Net.WebUtility.HtmlDecode(s?.ToString());",
  "        protected virtual string UrlEncode(object value)",
  "        \x7b",
  "            var s = value?.ToString();",
  "            if (string.IsNullOrEmpty(s))",
  "            \x7b",
  "                return \"\";",
  "            \x7d",
  "            var i = s.IndexOf('?');",
  "            var encoded = new System.Collections.Generic.List<string>();",
  "            foreach (var part in s.Substring(i + 1).Split('&'))",
  "            \x7b",
  "                var kv = part.Split('=');",
  "                encoded.Add(System.Net.WebUtility.UrlEncode(kv[0]) + (kv.Length > 1 ? \"=\" + System.Net.WebUtility.UrlEncode(kv[1]) : \"\"));",
  "            \x7d",
  "            return s.Substring(0, i + 1) + string.Join(\"&\", encoded);",
  "        \x7d",
  "        protected virtual string FullUrlEncode(object s) => System.Net.WebUtility.UrlEncode(s?.ToString());",
  "        protected virtual string UrlDecode(object s) => System.Net.WebUtility.UrlDecode(s?.ToString());",
  "        protected virtual string FullUrlDecode(object s) => System.Net.WebUtility.UrlDecode(s?.ToString());",
  "        protected virtual string Md5(object s)",
  "        \x7b",
  "            using (var md5 = System.Security.Cryptography.MD5.Create())",
  "            \x7b",
  "                var bytes = md5.ComputeHash(System.Text.Encoding.UTF8.GetBytes(s?.ToString() ?? \"\"));",
  "                return string.Concat(System.Linq.Enumerable.Select(bytes, b => b.ToString(\"x2\")));",
  "            \x7d",
  "        \x7d",
  "        protected virtual string Base64Encode(object s) => System.Convert.ToBase64String(System.Text.Encoding.UTF8.GetBytes(s?.ToString() ?? \"\"));",
  "        protected virtual string Base64Decode(object s) => System.Text.Encoding.UTF8.GetString(System.Convert.FromBase64String(s?.ToString() ?? \"\"));",
  "        #endregion"]

/-- The parameter of the render method. -/
def modelParameter (config : Config) : String :=
  config.defaultedModelParameter "dynamic model = (object)null"

/-- The generated code of a template without its dependencies. -/
def renderContent (config : Config) (template : Template) : String :=
  "\n" ++ template.externalCode ++ "\nnamespace " ++ template.moduleName ++
    "\n\x7b\n    public class " ++ template.className ++ "\n    \x7b\n" ++ helpers ++
    "\n        public string Render(" ++ modelParameter config ++
    ")\n        \x7b\n            " ++ template.body.code ++
    "\n            var result = _buffer.ToString();\n\n" ++
    "            _buffer.Clear();\n\n            return result;\n        \x7d\n" ++ "        " ++
    template.functions.code ++ "\n    \x7d\n\x7d\n"

end TemplateCompiler.CSharp
