import Calculator.Text.Blank
import Calculator.Text.Casing
import Calculator.Text.Digit
import Calculator.Text.EmojiNames

/-!
# Emoji codes

The code of an emoji is its name between two colons.  The case of the letters does not matter, and
the name may be followed by the wish that the emoji is shown in colour or that it is shown like a
letter.  What stands between two colons and names no emoji is left as it is.
-/

namespace Calculator.Text

/-- The character whose code point is written in base sixteen. -/
def codeChar (digits : String) : Char :=
  Char.ofNat ((hexValue? digits.toList).getD 0)

/-- The names on a line of the list of names, each with the emoji of the line. -/
def namesOn (line : String) : List (String × List Char) :=
  match line.splitOn " " with
  | [] => []
  | codes :: names => names.map (·, (codes.splitOn "-").map codeChar)

/-- The names of all emoji, each with its emoji. -/
def emojiTable : List (String × List Char) :=
  (emojiNames.splitOn "\n").flatMap namesOn

/-- What may follow the name of an emoji, and the character that it puts behind the emoji: one asks
for colour and one for the shape of a letter. -/
def emojiStyles : List (String × Char) :=
  [("-emoji", '\ufe0f'), ("-text", '\ufe0e')]

/-- The emoji of a code without its colons. -/
def emoji? (code : List Char) : Option (List Char) :=
  let style := emojiStyles.find? fun (ending, _) => ending.toList.isSuffixOf code
  let name := style.elim code fun (ending, _) => code.take (code.length - ending.length)
  let mark := style.elim [] fun (_, selector) => [selector]
  (emojiTable.lookup (toLower (String.ofList name))).map (· ++ mark)

/-- Whether a character may stand in a code between its colons. -/
def inCode (c : Char) : Bool :=
  c != ':' && !isBlank c

/-- The characters with each code of an emoji replaced by the emoji.  A colon that closes a code
opens no other one. -/
def withEmoji : List Char → List Char
  | [] => []
  | c :: cs =>
    if c == ':' && (cs.dropWhile inCode).head? == some ':' then
      let code := cs.takeWhile inCode
      (emoji? code).getD (':' :: code ++ [':']) ++ withEmoji (cs.dropWhile inCode).tail
    else c :: withEmoji cs
termination_by cs => cs.length
decreasing_by
  · have := (List.dropWhile_sublist (l := cs) inCode).length_le
    simp only [List.length_tail, List.length_cons]
    omega
  · simp only [List.length_cons]
    omega

end Calculator.Text
