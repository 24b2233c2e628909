import MiddleEnd.Text.Attaching
import MiddleEnd.Text.Hexadecimal
import MiddleEnd.Text.Invisible

/-!
# Quoted text

Descriptions of values show a text between double quotes, so that it can be told apart from the
words around it and so that every character of it can be seen.

* `escape c` — how one character is shown: the quote, the backslash, line ends, tabs and the null
  character by a short name, every other character that is invisible or attaches to its neighbour
  by its code point, and the rest as they are. The apostrophe needs no escape between double
  quotes.
* `quoted s` — the whole text, between its quotes.
-/

namespace MiddleEnd.Text

/-- How one character is shown inside double quotes. -/
def escape (c : Char) : String :=
  if c = '"' then "\\\""
  else if c = '\\' then "\\\\"
  else if c = '\n' then "\\n"
  else if c = '\r' then "\\r"
  else if c = '\t' then "\\t"
  else if c.toNat = 0 then "\\0"
  else if isInvisible c || isAttaching c then "\\u\x7b" ++ hexadecimal c.toNat ++ "\x7d"
  else c.toString

/-- A text between double quotes, every character shown by `escape`. -/
def quoted (s : String) : String :=
  s.foldl (fun shown c => shown ++ escape c) "\"" ++ "\""

end MiddleEnd.Text
