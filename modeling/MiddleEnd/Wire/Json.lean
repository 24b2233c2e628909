import MiddleEnd.Text.Hexadecimal
import MiddleEnd.Wire.Value

/-!
# Value trees as JSON text

* `Json.write v` — the text of a tree, without blanks. Texts are written as they are, apart from
  the quote, the backslash and the controls below the space.
* `Json.read? s` — the tree of a text, or `none` when the text is no JSON. A number is an integer
  only when it is written as one: `1.0`, `1e3` and `-0` are decimals. Where a key is written more
  than once, the last value counts.

The reader takes characters from the front of a list and returns the rest. Its recursion is
bounded by an allowance that `read?` computes from the length of the text: every second call at
the least takes a character, so the allowance is never what makes it fail.
-/

namespace MiddleEnd.Wire.Json

/-! ## Writing -/

/-- A four-digit hexadecimal number. -/
def fourDigits (n : Nat) : String :=
  String.ofList [Nat.digitChar (n / 4096 % 16), Nat.digitChar (n / 256 % 16),
    Nat.digitChar (n / 16 % 16), Nat.digitChar (n % 16)]

/-- Appends one character of a text. -/
def charOnto (out : String) (c : Char) : String :=
  if c = '"' then out ++ "\\\""
  else if c = '\\' then out ++ "\\\\"
  else if 32 ≤ c.toNat then out.push c
  else if c = '\n' then out ++ "\\n"
  else if c = '\r' then out ++ "\\r"
  else if c = '\t' then out ++ "\\t"
  else if c.toNat = 8 then out ++ "\\b"
  else if c.toNat = 12 then out ++ "\\f"
  else out ++ "\\u" ++ fourDigits c.toNat

/-- Appends a text in quotes. -/
def textOnto (out : String) (s : String) : String :=
  (s.foldl charOnto (out.push '"')).push '"'

mutual

/-- Appends the text of a tree. -/
def valueOnto : Value → String → String
  | .null, out => out ++ "null"
  | .bool b, out => out ++ (if b then "true" else "false")
  | .int n, out => out ++ toString n
  | .decimal digits, out => out ++ digits
  | .text s, out => textOnto out s
  | .list [], out => out ++ "[]"
  | .list (v :: vs), out => itemsOnto vs (valueOnto v (out ++ "[")) ++ "]"
  | .record [], out => out ++ "\x7b\x7d"
  | .record ((key, v) :: fs), out =>
    fieldsOnto fs (valueOnto v (textOnto (out ++ "\x7b") key ++ ":")) ++ "\x7d"

/-- Appends the items after the first, each behind a comma. -/
def itemsOnto : List Value → String → String
  | [], out => out
  | v :: vs, out => itemsOnto vs (valueOnto v (out ++ ","))

/-- Appends the fields after the first, each behind a comma. -/
def fieldsOnto : List (String × Value) → String → String
  | [], out => out
  | (key, v) :: fs, out => fieldsOnto fs (valueOnto v (textOnto (out ++ ",") key ++ ":"))

end

/-- The text of a tree, without blanks. -/
def write (v : Value) : String :=
  valueOnto v ""

/-! ## Reading -/

/-- The blanks that may stand between the parts of a text. -/
def isBlank (c : Char) : Bool :=
  c = ' ' || c = '\t' || c = '\n' || c = '\r'

/-- Drops blanks from the front. -/
def skipBlanks (cs : List Char) : List Char :=
  cs.dropWhile isBlank

/-- Four hexadecimal digits from the front. -/
def readUnit : List Char → Option (Nat × List Char)
  | a :: b :: c :: d :: rest => (Text.hexValue? [a, b, c, d]).map fun n => (n, rest)
  | _ => none

/-- A character given by its number, as one unit or as a pair of surrogates. -/
def readCodePoint (cs : List Char) : Option (Char × List Char) := do
  let (high, rest) ← readUnit cs
  if high < 0xD800 || 0xDFFF < high then
    return (Char.ofNat high, rest)
  else if high < 0xDC00 then
    match rest with
    | '\\' :: 'u' :: rest =>
      let (low, rest) ← readUnit rest
      if 0xDC00 ≤ low && low ≤ 0xDFFF then
        return (Char.ofNat (0x10000 + (high - 0xD800) * 0x400 + (low - 0xDC00)), rest)
      else none
    | _ => none
  else none

/-- The character behind a backslash, with what follows. -/
def readEscape : List Char → Option (Char × List Char)
  | '"' :: rest => some ('"', rest)
  | '\\' :: rest => some ('\\', rest)
  | '/' :: rest => some ('/', rest)
  | 'b' :: rest => some ('\x08', rest)
  | 'f' :: rest => some ('\x0c', rest)
  | 'n' :: rest => some ('\n', rest)
  | 'r' :: rest => some ('\r', rest)
  | 't' :: rest => some ('\t', rest)
  | 'u' :: rest => readCodePoint rest
  | _ => none

/-- The rest of a text behind its opening quote; `out` is what was read of it. -/
def readText : Nat → String → List Char → Option (String × List Char)
  | 0, _, _ => none
  | _, _, [] => none
  | allowance + 1, out, c :: cs =>
    if c = '"' then some (out, cs)
    else if c = '\\' then
      match readEscape cs with
      | some (e, rest) => readText allowance (out.push e) rest
      | none => none
    else if c.toNat < 32 then none
    else readText allowance (out.push c) cs

/-- The number that a list of decimal digits writes. -/
def decimalValue (digits : List Char) : Nat :=
  digits.foldl (fun n c => 10 * n + (c.toNat - 48)) 0

/-- The fraction and exponent behind the integer part of a number, as written, with what follows. -/
def readTail (cs : List Char) : Option (List Char × List Char) := do
  let (fraction, cs) ←
    match cs with
    | '.' :: rest =>
      let digits := rest.takeWhile Char.isDigit
      if digits.isEmpty then none else some ('.' :: digits, rest.dropWhile Char.isDigit)
    | _ => some ([], cs)
  match cs with
  | e :: rest =>
    if e = 'e' || e = 'E' then
      let (sign, rest) :=
        match rest with
        | '+' :: rest => (['+'], rest)
        | '-' :: rest => (['-'], rest)
        | _ => ([], rest)
      let digits := rest.takeWhile Char.isDigit
      if digits.isEmpty then none
      else some (fraction ++ e :: sign ++ digits, rest.dropWhile Char.isDigit)
    else some (fraction, cs)
  | [] => some (fraction, [])

/-- A number from the front. -/
def readNumber (cs : List Char) : Option (Value × List Char) := do
  let (negative, body) :=
    match cs with
    | '-' :: rest => (true, rest)
    | _ => (false, cs)
  let digits := body.takeWhile Char.isDigit
  if digits.isEmpty || (1 < digits.length && digits.head? = some '0') then none
  else
    let (tail, rest) ← readTail (body.dropWhile Char.isDigit)
    let n := decimalValue digits
    if tail.isEmpty && !(negative && n = 0) then
      return (.int (if negative then -(n : Int) else n), rest)
    else
      let sign := if negative then ['-'] else []
      return (.decimal (String.ofList (sign ++ digits ++ tail)), rest)

mutual

/-- A tree from the front. -/
def readValue : Nat → List Char → Option (Value × List Char)
  | 0, _ => none
  | allowance + 1, cs =>
    match skipBlanks cs with
    | '"' :: rest => (readText allowance "" rest).map fun (s, rest) => (.text s, rest)
    | '[' :: rest =>
      match skipBlanks rest with
      | ']' :: rest => some (.list [], rest)
      | rest => readItems allowance [] rest
    | '\x7b' :: rest =>
      match skipBlanks rest with
      | '\x7d' :: rest => some (.record [], rest)
      | rest => readFields allowance [] rest
    | 'n' :: 'u' :: 'l' :: 'l' :: rest => some (.null, rest)
    | 't' :: 'r' :: 'u' :: 'e' :: rest => some (.bool true, rest)
    | 'f' :: 'a' :: 'l' :: 's' :: 'e' :: rest => some (.bool false, rest)
    | rest => readNumber rest

/-- The rest of a list; `before` holds the items read so far, the last one first. -/
def readItems : Nat → List Value → List Char → Option (Value × List Char)
  | 0, _, _ => none
  | allowance + 1, before, cs =>
    match readValue allowance cs with
    | none => none
    | some (v, rest) =>
      match skipBlanks rest with
      | ',' :: rest => readItems allowance (v :: before) rest
      | ']' :: rest => some (.list (v :: before).reverse, rest)
      | _ => none

/-- The rest of a record; `before` holds the fields read so far. -/
def readFields : Nat → Record → List Char → Option (Value × List Char)
  | 0, _, _ => none
  | allowance + 1, before, cs =>
    match skipBlanks cs with
    | '"' :: rest =>
      match readText allowance "" rest with
      | none => none
      | some (key, rest) =>
        match skipBlanks rest with
        | ':' :: rest =>
          match readValue allowance rest with
          | none => none
          | some (v, rest) =>
            match skipBlanks rest with
            | ',' :: rest => readFields allowance (before.set key v) rest
            | '\x7d' :: rest => some (.record (before.set key v), rest)
            | _ => none
        | _ => none
    | _ => none

end

/-- The tree that a text writes; nothing but blanks may follow it. -/
def read? (s : String) : Option Value := do
  let cs := s.toList
  let (v, rest) ← readValue (2 * cs.length + 2) cs
  if (skipBlanks rest).isEmpty then some v else none

end MiddleEnd.Wire.Json
