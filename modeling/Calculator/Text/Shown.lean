import Calculator.Text.Emoji
import Calculator.Text.Width

/-!
# Text on a console

A console does not show every text as it is.  The text is cut where a bracket looks like a tag; in
each of the pieces a backslash in front of an opening bracket is left out, and emoji stand for their
codes.  Then some control characters are left out, and tabs are filled up with blanks.  The cutting
loses nothing (`flatten_pieces`).
-/

namespace Calculator.Text

/-! ### Brackets -/

/-- Whether a tag can start with a character. -/
def startsTag (c : Char) : Bool :=
  c.isLower || c == '#' || c == '/' || c == '@'

/-- Whether a character is no bracket. -/
def isUnbracketed (c : Char) : Bool :=
  c != '[' && c != ']'

/-- The length of the bracket at the front that looks like a tag, which is zero if there is none.
Behind the opening bracket comes a character that can start a tag, and the closing bracket comes
before another opening one. -/
def tagLength : List Char → Nat
  | '[' :: c :: cs =>
    if startsTag c ∧ (cs.dropWhile isUnbracketed).head? = some ']' then
      (cs.takeWhile isUnbracketed).length + 3
    else 0
  | _ => 0

/-- The pieces of a text: each bracket that looks like a tag, the backslashes in front of it, and
what stands between such brackets.  The characters passed since the last one come first, latest
first. -/
def pieces (passed : List Char) : List Char → List (List Char)
  | [] => [passed.reverse]
  | c :: cs =>
    let length := tagLength (c :: cs)
    if 0 < length then
      (passed.dropWhile (· == '\\')).reverse :: passed.takeWhile (· == '\\') ::
        (c :: cs).take length :: pieces [] ((c :: cs).drop length)
    else pieces (c :: passed) cs
termination_by cs => cs.length
decreasing_by
  · simp only [List.length_drop, List.length_cons]
    omega
  · simp only [List.length_cons]
    omega

/-- Nothing is lost between the pieces. -/
theorem flatten_pieces (passed cs : List Char) :
    (pieces passed cs).flatten = passed.reverse ++ cs := by
  fun_induction pieces passed cs with
  | case1 passed => simp
  | case2 passed c cs length _ ih =>
    have slashes : (passed.dropWhile (· == '\\')).reverse ++ passed.takeWhile (· == '\\') =
        passed.reverse := by
      have same : (passed.takeWhile (· == '\\')).reverse = passed.takeWhile (· == '\\') := by
        have all : ∀ d ∈ passed.takeWhile (· == '\\'), d = '\\' := fun d mem => by
          simpa using List.all_eq_true.1 List.all_takeWhile d mem
        rw [List.eq_replicate_of_mem all, List.reverse_replicate]
      rw [← same, ← List.reverse_append, List.takeWhile_append_dropWhile]
    simp only [List.flatten_cons, ih, List.reverse_nil, List.nil_append, List.take_append_drop]
    rw [← List.append_assoc, slashes]
  | case3 passed c cs _ _ ih => simp [ih]

/-- The characters without the backslashes directly in front of opening brackets. -/
def freeBrackets : List Char → List Char
  | [] => []
  | c :: cs =>
    if c = '\\' ∧ cs.head? = some '[' then freeBrackets cs else c :: freeBrackets cs

/-! ### Control characters -/

/-- Whether a console leaves out a character: the bell, the back space, the vertical tab, the form
feed and the carriage return. -/
def isSilent (c : Char) : Bool :=
  c.toNat ∈ [0x07, 0x08, 0x0b, 0x0c, 0x0d]

/-- The distance between tab stops. -/
def tabStop : Nat :=
  8

/-- The part of a line from a tab stop to a tab, which at least one blank fills up to a tab stop. -/
def toTabStop (part : List Char) : List Char :=
  let spaced := part ++ [' ']
  spaced ++ List.replicate ((tabStop - columns spaced % tabStop) % tabStop) ' '

/-- The characters with each tab filled up to the next tab stop.  The characters passed since the
last tab stop come first, latest first. -/
def expandTabs (passed : List Char) : List Char → List Char
  | [] => passed.reverse
  | c :: cs =>
    if c = '\t' then toTabStop passed.reverse ++ expandTabs [] cs
    else if c = '\n' then passed.reverse ++ '\n' :: expandTabs [] cs
    else expandTabs (c :: passed) cs

/-- A text as a console shows it. -/
def shown (text : String) : String :=
  let cs := (pieces [] text.toList).flatMap fun piece => withEmoji (freeBrackets piece)
  String.ofList (expandTabs [] (cs.filter (!isSilent ·)))

end Calculator.Text
