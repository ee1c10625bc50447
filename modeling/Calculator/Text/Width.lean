import Calculator.Text.CharWidth

/-!
# Columns

How many columns of a console a text takes.  Two characters act on their neighbours: a joiner hides
the character behind it, and a selector makes the character before it wide, if that can be done.
-/

namespace Calculator.Text

/-- The character that joins the pictures on its two sides to one picture. -/
def joiner : Char :=
  '\u200d'

/-- The character that asks for colour for the picture before it. -/
def selector : Char :=
  '\ufe0f'

/-- Whether a character takes a second column in front of a selector. -/
def isWidenable (c : Char) : Bool :=
  inRanges widenableRanges c

/-- The number of columns of characters behind `last`, which is the latest character that takes a
column, unless a selector was met since. -/
def columnsAfter (last : Option Char) : List Char → Nat
  | [] => 0
  | c :: cs =>
    if c = joiner then
      match cs with
      | [] => 0
      | _ :: cs => columnsAfter last cs
    else if c = selector then (if last.any isWidenable then 1 else 0) + columnsAfter none cs
    else
      let own := charWidth c
      own + columnsAfter (if own = 0 then last else some c) cs

/-- The number of columns of characters. -/
def columns (cs : List Char) : Nat :=
  columnsAfter none cs

/-- The number of columns of a text. -/
def width (text : String) : Nat :=
  columns text.toList

/-- Where a text stands in a wider field. -/
inductive Placement where
  | left
  | center
  | right
deriving Repr, DecidableEq

/-- The blanks in front of a text that leaves so many columns of its field free.  In the center the
odd column stays behind the text. -/
def Placement.lead (free : Nat) : Placement → Nat
  | left => 0
  | center => free / 2
  | right => free

/-- A number of blanks. -/
def blanks (count : Nat) : String :=
  String.ofList (List.replicate count ' ')

/-- A text in a field of so many columns. -/
def placed (placement : Placement) (columns : Nat) (text : String) : String :=
  let free := columns - width text
  let before := placement.lead free
  blanks before ++ text ++ blanks (free - before)

end Calculator.Text
