/-!
# Line ends

A line of a file may end with a line feed, a carriage return, or the two together.
-/

namespace Calculator.Text

/-- The characters with every line end turned into a line feed. -/
def unifyLines : List Char → List Char
  | [] => []
  | '\r' :: '\n' :: cs => '\n' :: unifyLines cs
  | '\r' :: cs => '\n' :: unifyLines cs
  | c :: cs => c :: unifyLines cs

/-- Without carriage returns there is nothing to turn. -/
theorem unifyLines_of_notMem {cs : List Char} (h : '\r' ∉ cs) : unifyLines cs = cs := by
  fun_induction unifyLines cs with
  | case1 => rfl
  | case2 => exact absurd (List.mem_cons_self ..) h
  | case3 => exact absurd (List.mem_cons_self ..) h
  | case4 c cs _ _ ih => rw [ih fun hmem => h (List.mem_cons_of_mem c hmem)]

/-- The text with every line end turned into a line feed. -/
def withLineFeeds (text : String) : String :=
  String.ofList (unifyLines text.toList)

/-- Whether a character belongs to a line, which every character but a line feed does. -/
def inLine (c : Char) : Bool :=
  c != '\n'

/-- The lines that the characters are made of, each without the line feed that ends it.  The last
line need not be ended, and there is no line behind the last line feed. -/
def lines : List Char → List String
  | [] => []
  | c :: cs =>
    String.ofList ((c :: cs).takeWhile inLine) :: lines (((c :: cs).dropWhile inLine).drop 1)
termination_by cs => cs.length
decreasing_by
  have := (List.dropWhile_sublist (l := c :: cs) inLine).length_le
  rw [List.length_drop]
  simp only [List.length_cons] at this ⊢
  omega

/-- The lines of a text, in which every kind of line end counts. -/
def linesOf (text : String) : List String :=
  lines (unifyLines text.toList)

end Calculator.Text
