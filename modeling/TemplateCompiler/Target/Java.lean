import TemplateCompiler.Json.Basic
import TemplateCompiler.Target.Basic

/-! # Java

A template becomes a class of a package, which writes into a string builder. Included
templates are classes of the same file, which is public in none of them. Literals are
JSON strings.
-/

namespace TemplateCompiler.Java

/-- How Java spells dependencies. -/
def rule : DependencyRule where
  keyword := "import"
  separator := ";"

/-- The package of templates where neither the template nor the configuration names
one. -/
def defaultPackage : String := "Blade"

/-- The dependencies of every generated class. -/
def defaultImports : String := Text.join "\n" [
  "import org.apache.commons.text.StringEscapeUtils;",
  "import java.net.URLEncoder;",
  "import java.net.URLDecoder;",
  "import java.util.Base64;",
  "import javax.xml.bind.DatatypeConverter;",
  "import java.nio.charset.StandardCharsets;",
  "import java.security.MessageDigest;",
  "import java.io.UnsupportedEncodingException;",
  "import java.security.NoSuchAlgorithmException;"]

/-- The statement that writes a text. -/
def literal (text : String) : String :=
  if text.isEmpty then "" else "\n_buffer.append(" ++ Json.quote text ++ ");"

/-- The statement that writes the value of an expression. -/
def value (expression : String) : String := "\n_buffer.append(" ++ expression ++ ");"

/-- The members that every generated class has. -/
def helpers : String := Text.join "\n" [
  "    protected StringBuilder _buffer = new StringBuilder();",
  "    boolean isNullOrEmpty(String str) \x7b",
  "        return str == null || str.isEmpty();",
  "    \x7d",
  "    // Encode/Decode Helpers",
  "    protected String htmlEncode(Object s) \x7b",
  "        return StringEscapeUtils.escapeHtml4(String.valueOf(s));",
  "    \x7d",
  "    protected String htmlDecode(Object s) \x7b",
  "        return StringEscapeUtils.unescapeHtml4(String.valueOf(s));",
  "    \x7d",
  "    protected String urlEncode(Object value) \x7b",
  "        String s = value == null ? \"\" : value.toString();",
  "        try \x7b",
  "            if (!isNullOrEmpty(s)) \x7b",
  "                int i = s.indexOf('?');",
  "                String encodedParts = \"\";",
  "                for (String part : s.substring(i + 1).split(\"&\")) \x7b",
  "                    String[] arr = part.split(\"=\");",
  "                    encodedParts += (isNullOrEmpty(encodedParts) ? \"\" : \"&\") + URLEncoder.encode(arr[0], \"UTF-8\") + (arr.length > 1 ? \"=\" + URLEncoder.encode(arr[1], \"UTF-8\") : \"\");",
  "                \x7d",
  "                return s.substring(0, i + 1) + encodedParts;",
  "            \x7d",
  "        \x7d catch (UnsupportedEncodingException e) \x7b \x7d",
  "        return \"\";",
  "    \x7d",
  "    protected String fullUrlEncode(Object s) \x7b",
  "        try \x7b",
  "            return URLEncoder.encode(String.valueOf(s), \"UTF-8\");",
  "        \x7d catch (UnsupportedEncodingException e) \x7b",
  "            return \"\";",
  "        \x7d",
  "    \x7d",
  "    protected String urlDecode(Object s) \x7b",
  "        try \x7b",
  "            return URLDecoder.decode(String.valueOf(s), \"UTF-8\");",
  "        \x7d catch (UnsupportedEncodingException e) \x7b",
  "            return \"\";",
  "        \x7d",
  "    \x7d",
  "    protected String fullUrlDecode(Object s) \x7b",
  "        return urlDecode(s);",
  "    \x7d",
  "    protected String md5(Object s) \x7b",
  "        try \x7b",
  "            MessageDigest md = MessageDigest.getInstance(\"MD5\");",
  "            md.update(String.valueOf(s).getBytes(StandardCharsets.UTF_8));",
  "            return DatatypeConverter.printHexBinary(md.digest());",
  "        \x7d catch (NoSuchAlgorithmException e) \x7b",
  "            return \"\";",
  "        \x7d",
  "    \x7d",
  "    protected String base64Encode(Object s) \x7b",
  "        return Base64.getEncoder().encodeToString(String.valueOf(s).getBytes(StandardCharsets.UTF_8));",
  "    \x7d",
  "    protected String base64Decode(Object s) \x7b",
  "        return new String(Base64.getDecoder().decode(String.valueOf(s)), StandardCharsets.UTF_8);",
  "    \x7d"]

/-- The package of a template: its declared module, else the configured namespace, else
the default. -/
def package (config : Config) (template : Template) : String :=
  match template.moduleSlot with
  | .explicit name => name
  | _ => config.defaultModule?.getD defaultPackage

/-- The parameter of the render method. -/
def modelParameter (config : Config) : String :=
  match config.modelTypeName? with
  | some name => name ++ " model"
  | none => "Object model"

/-- The generated code of a template without its package and dependencies. Only the class
of a template that is not included is public. -/
def renderContent (config : Config) (template : Template) : String :=
  let visibility := if template.settings.isInclude then "" else "public "
  "\n" ++ template.externalCode ++ "\n" ++ visibility ++ "class " ++ template.className ++
    " \x7b\n" ++ helpers ++ "\n    public String render(" ++ modelParameter config ++
    ") \x7b\n        " ++ template.body.code ++
    "\n        String result = _buffer.toString();\n\n" ++
    "        _buffer.setLength(0);\n\n        return result;\n    \x7d\n    " ++
    template.functions.code ++ "\n\x7d\n"

end TemplateCompiler.Java
