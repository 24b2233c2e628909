import MiddleEnd.Text.Hexadecimal

/-!
# Settings documents

The text of a settings file. A document consists of lines; a line is blank, or gives a truth value
to a key, and may end in a comment.

* A line ends in a line feed, or in a carriage return and a line feed. A carriage return is found
  nowhere else, nor is any other control character but the tab.
* A key is written bare, in single quotes as it is, or in double quotes with escapes.
* A byte order mark may open the document.

`Document.read?` gives the keys with their values, in order, and `none` for any other text. Keys
are not compared here: whether a key is known, or given twice, is a question of the settings.
-/

namespace MiddleEnd.Document

/-! ## Lines -/

/-- Lets a carriage return and a line feed count as one line feed. -/
def joinLineEnds : List Char → List Char
  | '\r' :: '\n' :: cs => '\n' :: joinLineEnds cs
  | c :: cs => c :: joinLineEnds cs
  | [] => []

/-- Puts a character in front of the first line, or opens a new one. -/
def consLine (c : Char) : List (List Char) → List (List Char)
  | line :: lines => if c = '\n' then [] :: line :: lines else (c :: line) :: lines
  | [] => [[c]]

/-- The lines of a text. -/
def lines (cs : List Char) : List (List Char) :=
  (joinLineEnds cs).foldr consLine [[]]

/-- The blanks between the parts of a line. -/
def isBlank (c : Char) : Bool :=
  c = ' ' || c = '\t'

/-- Drops blanks from the front. -/
def skipBlanks (cs : List Char) : List Char :=
  cs.dropWhile isBlank

/-- The characters of comments and quoted keys: no control but the tab. -/
def isPlain (c : Char) : Bool :=
  c = '\t' || (32 ≤ c.toNat && c.toNat ≠ 127)

/-- Whether nothing but blanks and a comment follows. -/
def isTail (cs : List Char) : Bool :=
  match skipBlanks cs with
  | [] => true
  | c :: comment => c = '#' && comment.all isPlain

/-! ## Keys -/

/-- The characters of bare keys. -/
def isBare (c : Char) : Bool :=
  c.isAlphanum || c = '_' || c = '-'

/-- The number of a character, as hexadecimal digits, read as the character. -/
def escapedChar? (digits : List Char) : Option Char :=
  (Text.hexValue? digits).bind Text.charOfNumber?

/-- The character that a letter behind a backslash stands for. -/
def namedEscape? (c : Char) : Option Char :=
  if c = 'b' then some '\x08'
  else if c = 't' then some '\t'
  else if c = 'n' then some '\n'
  else if c = 'f' then some '\x0c'
  else if c = 'r' then some '\r'
  else if c = '"' then some '"'
  else if c = '\\' then some '\\'
  else none

/-- The rest of a key behind its opening double quote, with what follows the closing one. -/
def readQuotedKey : List Char → Option (List Char × List Char)
  | [] => none
  | '"' :: cs => some ([], cs)
  | '\\' :: 'u' :: a :: b :: c :: d :: cs => do
    let char ← escapedChar? [a, b, c, d]
    let (key, rest) ← readQuotedKey cs
    return (char :: key, rest)
  | '\\' :: 'U' :: a :: b :: c :: d :: e :: f :: g :: h :: cs => do
    let char ← escapedChar? [a, b, c, d, e, f, g, h]
    let (key, rest) ← readQuotedKey cs
    return (char :: key, rest)
  | '\\' :: c :: cs => do
    let char ← namedEscape? c
    let (key, rest) ← readQuotedKey cs
    return (char :: key, rest)
  | c :: cs =>
    if isPlain c && c ≠ '\\' then (readQuotedKey cs).map fun (key, rest) => (c :: key, rest)
    else none

/-- A key from the front of a line, with what follows it. -/
def readKey : List Char → Option (List Char × List Char)
  | '"' :: cs => readQuotedKey cs
  | '\x27' :: cs =>
    let key := cs.takeWhile (· ≠ '\x27')
    match cs.dropWhile (· ≠ '\x27') with
    | _ :: rest => if key.all isPlain then some (key, rest) else none
    | [] => none
  | cs =>
    let key := cs.takeWhile isBare
    if key.isEmpty then none else some (key, cs.dropWhile isBare)

/-! ## Entries -/

/-- A truth value that ends a line. -/
def readBool (cs : List Char) : Option Bool :=
  match cs with
  | 't' :: 'r' :: 'u' :: 'e' :: rest => if isTail rest then some true else none
  | 'f' :: 'a' :: 'l' :: 's' :: 'e' :: rest => if isTail rest then some false else none
  | _ => none

/-- The entry of a line that is not blank. -/
def readEntry (cs : List Char) : Option (String × Bool) := do
  let (key, rest) ← readKey cs
  match skipBlanks rest with
  | '=' :: rest =>
    let value ← readBool (skipBlanks rest)
    return (String.ofList key, value)
  | _ => none

/-- The entries of lines. -/
def readLines : List (List Char) → Option (List (String × Bool))
  | [] => some []
  | line :: lines =>
    if isTail line then readLines lines
    else do
      let entry ← readEntry (skipBlanks line)
      let entries ← readLines lines
      return entry :: entries

/-- Drops a byte order mark from the front of a text. -/
def skipMark : List Char → List Char
  | '\uFEFF' :: cs => cs
  | cs => cs

/-- The entries of a document, in order. -/
def read? (text : String) : Option (List (String × Bool)) :=
  readLines (lines (skipMark text.toList))

end MiddleEnd.Document
