import TemplateCompiler.Text.Class
import TemplateCompiler.Text.Hex

/-! # Characters in messages

A message shows a character between single quotes. Characters that do not print by
themselves are shown by an escape: a short one where there is one, their code point
in hexadecimal otherwise.
-/

namespace TemplateCompiler.Text

/-- A character as it stands between single quotes in a message. -/
def escapeChar (c : Char) : String :=
  if c = '\x00' then "\\0"
  else if c = '\t' then "\\t"
  else if c = '\n' then "\\n"
  else if c = '\r' then "\\r"
  else if c = '\'' then "\\'"
  else if c = '\\' then "\\\\"
  else if isPrintable c then c.toString
  else "\\u\x7b" ++ hex c.toNat ++ "\x7d"

/-- A character as a message shows it. -/
def quoteChar (c : Char) : String := "'" ++ escapeChar c ++ "'"

end TemplateCompiler.Text
