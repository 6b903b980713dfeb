import PacketRadio.Text.Glyph
import PacketRadio.Text.Numeral

/-!
# Shapes of diagnostic texts

Values are shown for diagnosis in three shapes: a bare name, a name applied to one text in
parentheses, and a name with named fields in braces. Strings inside them are quoted.
-/

namespace PacketRadio.Text

/-- `name(inner)`. -/
def applied (name inner : String) : String :=
  s!"{name}({inner})"

/-- `name { field: text, field: text }`. -/
def record (name : String) (fields : List (String × String)) : String :=
  name ++ " \x7b " ++ String.intercalate ", " (fields.map fun f => f.1 ++ ": " ++ f.2) ++ " \x7d"

/-- A character inside quotes: the quote, the backslash and every character without a glyph of its
own are escaped. -/
def escaped (c : Char) : String :=
  if c = '"' then "\\\""
  else if c = '\\' then "\\\\"
  else if c = '\t' then "\\t"
  else if c = '\n' then "\\n"
  else if c = '\r' then "\\r"
  else if c = '\x00' then "\\0"
  else if hasGlyph c then c.toString
  else "\\u\x7b" ++ hexDigits c.toNat ++ "\x7d"

/-- `s` between double quotes. -/
def quoted (s : String) : String :=
  "\"" ++ String.join (s.toList.map escaped) ++ "\""

end PacketRadio.Text
