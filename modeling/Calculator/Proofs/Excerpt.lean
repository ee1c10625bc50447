import Calculator.Excerpt
import Mathlib.Data.List.Basic
import Mathlib.Data.List.TakeWhile

/-!
# The caret of an excerpt

The line around a position is what is left of a text between the line feeds on both sides
(`IsLineAround`); there is exactly one such line (`IsLineAround.unique`), also if the position
stands on a line feed or behind the end.  An excerpt shows it, and its caret stands under the
character at the position, just behind the line, or as far behind the line as the position is behind
the end (`format_aligned`).
-/

namespace Calculator.Excerpt

open Calculator.Text

/-! ### The line around a position -/

/-- Whether a text consists of the line around a position with what stands before and behind it.
A position behind the end counts as the end. -/
structure IsLineAround (cs : List Char) (pos : Nat) (before line behind : List Char) : Prop where
  split : cs = before ++ (line ++ behind)
  unbroken : '\n' ∉ line
  /-- The line starts with the text or behind a line feed. -/
  starts : ∀ c, before.getLast? = some c → c = '\n'
  /-- The line ends with the text or in front of a line feed. -/
  ends : ∀ c, behind.head? = some c → c = '\n'
  start_le : before.length ≤ min pos cs.length
  le_stop : min pos cs.length ≤ before.length + line.length

section Line

variable {cs before line behind before' line' behind' : List Char} {pos : Nat}

theorem IsLineAround.length_eq (h : IsLineAround cs pos before line behind) :
    cs.length = before.length + line.length + behind.length := by
  rw [h.split, List.length_append, List.length_append, Nat.add_assoc]

/-- The characters of the line, by their places in the text. -/
theorem IsLineAround.getElem?_line (h : IsLineAround cs pos before line behind) {i : Nat}
    (hi : i < line.length) : cs[before.length + i]? = (line)[i]? := by
  rw [h.split, List.getElem?_append_right (Nat.le_add_right _ _), Nat.add_sub_cancel_left,
    List.getElem?_append_left hi]

theorem IsLineAround.ne_lineFeed (h : IsLineAround cs pos before line behind) {i : Nat}
    (hle : before.length ≤ i) (hlt : i < before.length + line.length) : cs[i]? ≠ some '\n' := by
  obtain ⟨k, rfl⟩ := Nat.exists_eq_add_of_le hle
  rw [h.getElem?_line (by omega)]
  intro hk
  exact h.unbroken (List.mem_of_getElem? hk)

theorem IsLineAround.getElem?_stop (h : IsLineAround cs pos before line behind) {c : Char}
    (hc : cs[before.length + line.length]? = some c) : c = '\n' := by
  rw [h.split, List.getElem?_append_right (Nat.le_add_right _ _), Nat.add_sub_cancel_left,
    List.getElem?_append_right (Nat.le_refl _), Nat.sub_self, ← List.head?_eq_getElem?] at hc
  exact h.ends c hc

theorem IsLineAround.getElem?_start (h : IsLineAround cs pos before line behind) {i : Nat}
    (hi : i + 1 = before.length) : cs[i]? = some '\n' := by
  have hget : before[i]? = some before[i] := List.getElem?_eq_getElem (by omega)
  have hlast : before.getLast? = some before[i] := by
    rw [← hget, List.getLast?_eq_getElem?, ← hi, Nat.add_sub_cancel]
  rw [h.split, List.getElem?_append_left (by omega), hget, h.starts _ hlast]

/-- Of two lines around a position none starts before the other: the line feed in front of the
later one would stand inside the earlier one. -/
theorem IsLineAround.length_before_le (h : IsLineAround cs pos before line behind)
    (h' : IsLineAround cs pos before' line' behind') : before'.length ≤ before.length := by
  by_contra hlt
  have hstart := h'.start_le
  have hstop := h.le_stop
  have hfeed := h'.getElem?_start (i := before'.length - 1) (by omega)
  exact h.ne_lineFeed (by omega) (by omega) hfeed

/-- Nor does one of them end before the other. -/
theorem IsLineAround.stop_le_stop (h : IsLineAround cs pos before line behind)
    (h' : IsLineAround cs pos before' line' behind') :
    before.length + line.length ≤ before'.length + line'.length := by
  by_contra hlt
  have hstart := h.start_le
  have hstop := h'.le_stop
  have hlength := h.length_eq
  have hget : cs[before'.length + line'.length]? = some cs[before'.length + line'.length] :=
    List.getElem?_eq_getElem (by omega)
  refine h.ne_lineFeed (by omega) (by omega) (hget.trans ?_)
  rw [h'.getElem?_stop hget]

/-- **There is one line around a position.** -/
theorem IsLineAround.unique (h : IsLineAround cs pos before line behind)
    (h' : IsLineAround cs pos before' line' behind') :
    before' = before ∧ line' = line ∧ behind' = behind := by
  have hbefore := Nat.le_antisymm (h.length_before_le h') (h'.length_before_le h)
  have hstop := Nat.le_antisymm (h'.stop_le_stop h) (h.stop_le_stop h')
  have hsplit : before' ++ (line' ++ behind') = before ++ (line ++ behind) := by
    rw [← h.split, ← h'.split]
  obtain ⟨rfl, hrest⟩ := List.append_inj hsplit hbefore
  obtain ⟨rfl, rfl⟩ := List.append_inj hrest (by omega)
  exact ⟨rfl, rfl, rfl⟩

end Line

/-! ### The line of an excerpt -/

section Excerpt

variable (e : Excerpt)

/-- The text in front of the line. -/
def textBefore : List Char :=
  ((e.source.toList.take e.pos).reverse.dropWhile inLine).reverse

/-- The text behind the line. -/
def textBehind : List Char :=
  (e.source.toList.drop e.pos).dropWhile inLine

theorem take_eq_textBefore_append :
    e.source.toList.take e.pos = e.textBefore ++ e.lineBefore := by
  have hsplit := List.takeWhile_append_dropWhile (p := inLine)
    (l := (e.source.toList.take e.pos).reverse)
  unfold textBefore lineBefore
  rw [← List.reverse_append, hsplit, List.reverse_reverse]

theorem drop_eq_lineAfter_append :
    e.source.toList.drop e.pos = e.lineAfter ++ e.textBehind :=
  List.takeWhile_append_dropWhile.symm

/-- What ends a run of a line is a line feed. -/
theorem eq_lineFeed_of_head?_dropWhile {cs : List Char} {c : Char}
    (h : (cs.dropWhile inLine).head? = some c) : c = '\n' := by
  have hnot := List.head?_dropWhile_not inLine cs
  rw [h] at hnot
  simpa [inLine] using hnot

theorem ne_lineFeed_of_mem_takeWhile {cs : List Char} {c : Char}
    (h : c ∈ cs.takeWhile inLine) : c ≠ '\n' := by
  simpa [inLine] using List.mem_takeWhile_imp h

/-- **The line of an excerpt is the one around its position.** -/
theorem isLineAround : IsLineAround e.source.toList e.pos e.textBefore e.line e.textBehind := by
  have htake := e.take_eq_textBefore_append
  have hdrop := e.drop_eq_lineAfter_append
  have hplace : min e.pos e.source.toList.length = e.textBefore.length + e.lineBefore.length := by
    rw [← List.length_append, ← htake, List.length_take]
  constructor
  case split =>
    rw [line, List.append_assoc, ← List.append_assoc, ← htake, ← hdrop, List.take_append_drop]
  case unbroken =>
    intro hmem
    rcases List.mem_append.mp hmem with hbefore | hafter
    · exact ne_lineFeed_of_mem_takeWhile (List.mem_reverse.mp hbefore) rfl
    · exact ne_lineFeed_of_mem_takeWhile hafter rfl
  case starts =>
    intro c hc
    rw [textBefore, List.getLast?_reverse] at hc
    exact eq_lineFeed_of_head?_dropWhile hc
  case ends => exact fun c hc => eq_lineFeed_of_head?_dropWhile hc
  case start_le => omega
  case le_stop =>
    rw [line, List.length_append]
    omega

theorem column_eq : e.column = e.pos - e.textBefore.length := by
  unfold column
  rw [e.take_eq_textBefore_append, List.length_append, Nat.add_sub_cancel]

end Excerpt

/-! ### The two lines that are shown -/

/-- A line of an excerpt as it is shown, set in by two spaces. -/
def above (line : List Char) : List Char :=
  ' ' :: ' ' :: line

/-- The caret under a column of such a line. -/
def below (column : Nat) : List Char :=
  ' ' :: ' ' :: (List.replicate column ' ' ++ ['^'])

theorem idxOf_caret (column : Nat) : (below column).idxOf '^' = column + 2 := by
  have hnotMem : '^' ∉ ' ' :: ' ' :: List.replicate column ' ' := by
    simp [List.mem_replicate]
  have hbelow : below column = (' ' :: ' ' :: List.replicate column ' ') ++ ['^'] := rfl
  rw [hbelow, List.idxOf_append_of_notMem hnotMem]
  simp

/-- **The caret stands where the position is**: an excerpt shows two lines, the line around the
position, of which there is only one, and under it a caret behind as many spaces as the position is
behind the start of the line.  A character at the position stands right above the caret; if that is
a line feed, or if the position is the end of the text, the caret stands just behind the line, and
behind the end it stands that much further on. -/
theorem format_aligned (e : Excerpt) :
    ∃ before line behind, IsLineAround e.source.toList e.pos before line behind ∧
      (∀ before' line' behind', IsLineAround e.source.toList e.pos before' line' behind' →
        before' = before ∧ line' = line ∧ behind' = behind) ∧
      let column := e.pos - before.length
      let caret := (below column).idxOf '^'
      e.format.toList = above line ++ '\n' :: below column ∧
        '\n' ∉ above line ∧ '\n' ∉ below column ∧
        (∀ c, e.source.toList[e.pos]? = some c → c ≠ '\n' → (above line)[caret]? = some c) ∧
        (e.source.toList[e.pos]? = some '\n' → caret = (above line).length) ∧
        (e.source.length ≤ e.pos → caret = (above line).length + (e.pos - e.source.length)) := by
  have hline := e.isLineAround
  have hstart := hline.start_le
  have hstop := hline.le_stop
  have hlength := hline.length_eq
  have habove : (above e.line).length = e.line.length + 2 := rfl
  refine ⟨e.textBefore, e.line, e.textBehind, hline, fun _ _ _ h => hline.unique h, ?_, ?_, ?_, ?_,
    ?_, ?_⟩
  · rw [format, String.toList_ofList, e.column_eq]
    simp [above, below]
  · simpa [above] using hline.unbroken
  · simp [below, List.mem_replicate]
  · intro c hc hne
    have hpos : e.pos < e.source.toList.length := (List.getElem?_eq_some_iff.mp hc).1
    -- a position behind the characters of the line would be that of a line feed
    have hinside : e.pos < e.textBefore.length + e.line.length := by
      by_contra hle
      have heq : e.pos = e.textBefore.length + e.line.length := by omega
      exact hne (hline.getElem?_stop (heq ▸ hc))
    obtain ⟨k, hk⟩ := Nat.exists_eq_add_of_le (show e.textBefore.length ≤ e.pos by omega)
    rw [hk, hline.getElem?_line (by omega)] at hc
    rw [idxOf_caret, hk, Nat.add_sub_cancel_left]
    exact hc
  · intro hc
    have hpos : e.pos < e.source.toList.length := (List.getElem?_eq_some_iff.mp hc).1
    have houtside : ¬ e.pos < e.textBefore.length + e.line.length := fun hlt =>
      hline.ne_lineFeed (by omega) hlt hc
    rw [idxOf_caret, habove]
    omega
  · intro hend
    rw [← String.length_toList] at hend ⊢
    rw [idxOf_caret, habove]
    omega

/-- Two lines, of which the first one ends with a line feed at position 2. -/
def strayText : String :=
  "1+\n2 $ 3"

/-- In the second line the caret stands under the character at position 5, and behind the first one
if the position is that of the line feed. -/
theorem format_aligned_stray :
    (∃ before line behind, IsLineAround strayText.toList 5 before line behind ∧
      strayText.toList[5]? = some '$' ∧
      (above line)[(below (5 - before.length)).idxOf '^']? = some '$') ∧
      (∃ before line behind, IsLineAround strayText.toList 2 before line behind ∧
        strayText.toList[2]? = some '\n' ∧
        (below (2 - before.length)).idxOf '^' = (above line).length) ∧
      format ⟨strayText, 5⟩ = "  2 $ 3\n    ^" ∧ format ⟨strayText, 2⟩ = "  1+\n    ^" := by
  have hstray : strayText.toList[5]? = some '$' := by decide +kernel
  have hfeed : strayText.toList[2]? = some '\n' := by decide +kernel
  obtain ⟨before, line, behind, hline, -, -, -, -, habove, -⟩ := format_aligned ⟨strayText, 5⟩
  obtain ⟨before', line', behind', hline', -, -, -, -, -, hbehind, -⟩ :=
    format_aligned ⟨strayText, 2⟩
  exact ⟨⟨before, line, behind, hline, hstray, habove '$' hstray (by decide)⟩,
    ⟨before', line', behind', hline', hfeed, hbehind hfeed⟩, by decide +kernel, by decide +kernel⟩

end Calculator.Excerpt
