import ChatStream.Unicode.Property

/-! # Quoted text in messages

Error messages show a text the way a debugging printer quotes it: in double quotes, with the
double quote and the backslash escaped, tab, line feed, carriage return and NUL written `\t`,
`\n`, `\r` and `\0`, and every other character that is not printable, or that extends a grapheme
cluster (a combining mark shown alone would fuse with its neighbour), written as `\u` with its
code point in lower-case hex between braces. The single quote stays as it is.
-/

namespace ChatStream.Text

/-- A character as it appears inside quoted text. -/
def escapeChar (c : Char) : String :=
  if c = '"' then "\\\""
  else if c = '\\' then "\\\\"
  else if c = '\n' then "\\n"
  else if c = '\r' then "\\r"
  else if c = '\t' then "\\t"
  else if c.toNat = 0 then "\\0"
  else if Unicode.isGraphemeExtend c.toNat || !Unicode.isPrintable c.toNat then
    "\\u" ++ "\x7b" ++ String.ofList (Nat.toDigits 16 c.toNat) ++ "\x7d"
  else String.singleton c

/-- A text in double quotes with `escapeChar` applied to each character. -/
def quote (s : String) : String :=
  s.foldl (fun acc c => acc ++ escapeChar c) "\"" ++ "\""

end ChatStream.Text
