import RecordBytes.Text.Glyphless

/-!
# Quoted text

Text is shown between quotes.  The backslash, the quote in use and five control characters have short
escapes, characters without a glyph of their own are spelled by number, and every other character stands
for itself.

Main definitions:

- `Quoted.escape`: one character inside a given kind of quote.
- `Quoted.text`, `Quoted.char`: a text between double quotes, a character between single ones.
- `Quoted.cut`: the longest lead of a text within a number of bytes.
-/

namespace RecordBytes.Text.Quoted

/-- A number in hexadecimal, lower case, without padding. -/
def hex (number : Nat) : String :=
  String.ofList (Nat.toDigits 16 number)

/-- A character as it stands between two `quote` characters. -/
def escape (quote char : Char) : String :=
  if char = '\x00' then "\\0"
  else if char = '\t' then "\\t"
  else if char = '\r' then "\\r"
  else if char = '\n' then "\\n"
  else if char = '\\' then "\\\\"
  else if char = quote then String.ofList ['\\', quote]
  else if isGlyphless char then "\\u\x7b" ++ hex char.toNat ++ "\x7d"
  else char.toString

/-- A text between double quotes. -/
def text (content : String) : String :=
  "\"" ++ String.join (content.toList.map (escape '\"')) ++ "\""

/-- A character between single quotes. -/
def char (content : Char) : String :=
  "'" ++ escape '\'' content ++ "'"

/-- The longest lead of some characters that takes at most `room` bytes of UTF-8. -/
def lead (room : Nat) : List Char → List Char
  | [] => []
  | char :: rest =>
    if char.utf8Size ≤ room then char :: lead (room - char.utf8Size) rest else []

/-- A text of at most `room` bytes is kept; a longer one is cut to its longest lead of that size, and
three dots mark the cut. -/
def cut (room : Nat) (content : String) : String :=
  if content.utf8ByteSize ≤ room then content
  else String.ofList (lead room content.toList) ++ "..."

end RecordBytes.Text.Quoted
