import MiddleEnd.Text.Quoted

/-!
# Outlines

An `Outline` is the description of a value for a reader: words, quoted texts, and named or unnamed
groups of further outlines. It is laid out in two ways.

* `Outline.line` — everything on one line, items divided by a comma and a space.
* `Outline.page` — every group that has an item is broken over lines, one item a line, indented
  by four spaces and followed by a comma; the closing bracket has a line of its own. Empty groups
  stay on one line.

The class `Outlined` gives a type its outline.
-/

namespace MiddleEnd

/-- The description of a value: a word, a text in quotes, or a group of descriptions. -/
inductive Outline where
  /-- A word or a number, shown as it stands. -/
  | word (s : String)
  /-- A text, shown in quotes. -/
  | text (s : String)
  /-- A name and its labelled parts. -/
  | record (name : String) (fields : List (String × Outline))
  /-- A name, possibly empty, and its parts in order. -/
  | tuple (name : String) (items : List Outline)
  /-- A sequence. -/
  | list (items : List Outline)
  /-- A sequence of labelled entries. -/
  | dict (entries : List (String × Outline))
deriving Inhabited

namespace Outline

/-! ## One line -/

mutual

/-- Appends the one-line layout of an outline to a text. -/
def lineOnto : Outline → String → String
  | .word s, out => out ++ s
  | .text s, out => out ++ Text.quoted s
  | .record name [], out => out ++ name
  | .record name ((label, part) :: parts), out =>
    fieldsOnto parts (part.lineOnto (out ++ name ++ " \x7b " ++ label ++ ": ")) ++ " \x7d"
  | .tuple name [], out => out ++ name
  | .tuple name (item :: items), out =>
    itemsOnto items (item.lineOnto (out ++ name ++ "(")) ++ ")"
  | .list [], out => out ++ "[]"
  | .list (item :: items), out => itemsOnto items (item.lineOnto (out ++ "[")) ++ "]"
  | .dict [], out => out ++ "\x7b\x7d"
  | .dict ((label, part) :: parts), out =>
    entriesOnto parts (part.lineOnto (out ++ "\x7b" ++ Text.quoted label ++ ": ")) ++ "\x7d"

/-- The items after the first, each behind a comma. -/
def itemsOnto : List Outline → String → String
  | [], out => out
  | item :: items, out => itemsOnto items (item.lineOnto (out ++ ", "))

/-- The labelled parts after the first, each behind a comma. -/
def fieldsOnto : List (String × Outline) → String → String
  | [], out => out
  | (label, part) :: parts, out => fieldsOnto parts (part.lineOnto (out ++ ", " ++ label ++ ": "))

/-- The entries after the first, each behind a comma, with their labels in quotes. -/
def entriesOnto : List (String × Outline) → String → String
  | [], out => out
  | (label, part) :: parts, out =>
    entriesOnto parts (part.lineOnto (out ++ ", " ++ Text.quoted label ++ ": "))

end

/-- The layout on one line. -/
def line (o : Outline) : String :=
  o.lineOnto ""

/-! ## Many lines -/

/-- A new line, indented to a depth. -/
def newline (depth : Nat) : String :=
  "\n" ++ String.ofList (List.replicate (4 * depth) ' ')

mutual

/-- Appends the broken layout of an outline, at a depth of indentation, to a text. -/
def pageOnto : Outline → Nat → String → String
  | .word s, _, out => out ++ s
  | .text s, _, out => out ++ Text.quoted s
  | .record name [], _, out => out ++ name
  | .record name (part :: parts), depth, out =>
    pageFields (part :: parts) (depth + 1) (out ++ name ++ " \x7b") ++ newline depth ++ "\x7d"
  | .tuple name [], _, out => out ++ name
  | .tuple name (item :: items), depth, out =>
    pageItems (item :: items) (depth + 1) (out ++ name ++ "(") ++ newline depth ++ ")"
  | .list [], _, out => out ++ "[]"
  | .list (item :: items), depth, out =>
    pageItems (item :: items) (depth + 1) (out ++ "[") ++ newline depth ++ "]"
  | .dict [], _, out => out ++ "\x7b\x7d"
  | .dict (part :: parts), depth, out =>
    pageEntries (part :: parts) (depth + 1) (out ++ "\x7b") ++ newline depth ++ "\x7d"

/-- Items, one a line. -/
def pageItems : List Outline → Nat → String → String
  | [], _, out => out
  | item :: items, depth, out =>
    pageItems items depth (item.pageOnto depth (out ++ newline depth) ++ ",")

/-- Labelled parts, one a line. -/
def pageFields : List (String × Outline) → Nat → String → String
  | [], _, out => out
  | (label, part) :: parts, depth, out =>
    pageFields parts depth (part.pageOnto depth (out ++ newline depth ++ label ++ ": ") ++ ",")

/-- Entries, one a line, with their labels in quotes. -/
def pageEntries : List (String × Outline) → Nat → String → String
  | [], _, out => out
  | (label, part) :: parts, depth, out =>
    pageEntries parts depth
      (part.pageOnto depth (out ++ newline depth ++ Text.quoted label ++ ": ") ++ ",")

end

/-- The layout over many lines. -/
def page (o : Outline) : String :=
  o.pageOnto 0 ""

/-! ## Building outlines -/

/-- An integer, in decimal. -/
def int (n : Int) : Outline :=
  .word (toString n)

/-- A truth value. -/
def bool (b : Bool) : Outline :=
  .word (if b then "true" else "false")

/-- A value that may be missing. -/
def option : Option Outline → Outline
  | none => .word "None"
  | some o => .tuple "Some" [o]

/-- Two values side by side. -/
def pair (a b : Outline) : Outline :=
  .tuple "" [a, b]

end Outline

/-- Types whose values can be described. -/
class Outlined (α : Type) where
  /-- The description of a value. -/
  outline : α → Outline

export Outlined (outline)

end MiddleEnd
