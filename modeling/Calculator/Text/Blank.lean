import Calculator.Text.CodeRange

/-!
# Blanks

Blanks separate tokens and surround names and answers.  `trim` takes a run of characters off both
ends of a text.
-/

namespace Calculator.Text

/-- The code points of white space, the four information separators included. -/
def blankRanges : List (Nat × Nat) :=
  [(0x9, 0xd), (0x1c, 0x20), (0x85, 0x85), (0xa0, 0xa0), (0x1680, 0x1680), (0x2000, 0x200a),
   (0x2028, 0x2029), (0x202f, 0x202f), (0x205f, 0x205f), (0x3000, 0x3000)]

/-- Whether `c` is white space. -/
def isBlank (c : Char) : Bool :=
  inRanges blankRanges c

/-- The text without the characters that satisfy `p` at its two ends. -/
def trim (p : Char → Bool) (text : String) : String :=
  String.ofList (((text.toList.dropWhile p).reverse.dropWhile p).reverse)

/-- The text without the blanks around it. -/
def strip (text : String) : String :=
  trim isBlank text

end Calculator.Text
