import Calculator.Proofs.Token.Tokenization

/-!
# Characters that belong to no token

A text has no tokens exactly if some character of it is neither a blank nor the start of a token,
and then the error is about the first such character (`ofText_eq_error_iff`).  No such character is
ever passed over, since a token is made of characters that start tokens (`isStray_of_lead_token`).
-/

namespace Calculator.Token

open Calculator.Text

/-- Whether a character is no blank and starts no token. -/
def isStray (c : Char) : Bool :=
  !isBlank c && !inNumber c && (markKind? c).isNone && !isLetter c

/-- What a text with tokens is made of. -/
def Readable (c : Char) : Prop :=
  isBlank c = true ∨ isDigit c = true ∨ isLetter c = true ∨ c ∈ ['.', '+', '-', '*', '/', '(', ')']

theorem markKind?_eq_none_iff {c : Char} :
    markKind? c = none ↔ c ∉ ['+', '-', '*', '/', '(', ')'] := by
  simp only [List.mem_cons, List.not_mem_nil, or_false, markKind?]
  grind

theorem isStray_eq_true_iff {c : Char} : isStray c = true ↔ ¬ Readable c := by
  have hmark : (markKind? c).isNone = true ↔ c ∉ ['+', '-', '*', '/', '(', ')'] := by
    rw [Option.isNone_iff_eq_none, markKind?_eq_none_iff]
  have hnumber : inNumber c = true ↔ isDigit c = true ∨ c = '.' := by
    rw [inNumber, Bool.or_eq_true, beq_iff_eq]
  simp only [isStray, Bool.and_eq_true, Bool.not_eq_true', ← Bool.not_eq_true, hmark, hnumber]
  rw [Readable, List.mem_cons]
  grind

theorem isStray_eq_false_iff {c : Char} : isStray c = false ↔ Readable c := by
  rw [Bool.eq_false_iff, Ne, isStray_eq_true_iff, not_not]

section Lead

variable {c : Char} {cs : List Char} {kind : Kind} {extra : Nat} {h : kind ≠ .eof}

theorem isStray_of_lead_stray (hl : lead c cs = .stray) : isStray c = true := by
  have hb : isBlank c = false := not_isBlank_of_lead fun hb => by cases hl.symm.trans hb
  have hn : inNumber c = false := by
    rw [Bool.eq_false_iff]
    intro hc
    rw [lead_of_inNumber hc] at hl
    cases hl
  have hm : markKind? c = none := by
    cases hk : markKind? c with
    | none => rfl
    | some kind =>
      rw [lead_of_markKind? hk] at hl
      cases hl
  have hw : isLetter c = false := by
    rw [Bool.eq_false_iff]
    intro hc
    rw [lead_of_isLetter hc] at hl
    cases hl
  simp [isStray, hb, hn, hm, hw]

theorem isStray_of_lead_blank (hl : lead c cs = .blank) : isStray c = false := by
  simp [isStray, isBlank_of_lead hl]

theorem isStray_of_inNumber (hc : inNumber c = true) : isStray c = false := by
  simp [isStray, hc]

theorem isStray_of_isLetter (hc : isLetter c = true) : isStray c = false := by
  simp [isStray, hc]

/-- No character of a token is stray. -/
theorem isStray_of_lead_token (hl : lead c cs = .token kind extra h) :
    ∀ d ∈ c :: cs.take extra, isStray d = false := by
  intro d hd
  rcases cases_of_lead_token hl with ⟨hc, -, rfl⟩ | ⟨hk, rfl⟩ | ⟨hc, -, rfl⟩
  · rw [take_length_takeWhile] at hd
    rcases List.mem_cons.mp hd with rfl | hd
    · exact isStray_of_inNumber hc
    · exact isStray_of_inNumber (List.mem_takeWhile_imp hd)
  · rw [List.take_zero, List.mem_singleton] at hd
    simp [hd, isStray, hk]
  · rw [take_length_takeWhile] at hd
    rcases List.mem_cons.mp hd with rfl | hd
    · exact isStray_of_isLetter hc
    · exact isStray_of_isLetter (List.mem_takeWhile_imp hd)

end Lead

/-- The error of a text whose first character without a token is the one at a position. -/
def strayError (c : Char) (pos : Nat) : Error :=
  { cause := .unexpectedCharacter c.toString, pos := some pos }

/-- What belongs to the tokens of a text is passed over. -/
theorem findIdx?_append_of_not_stray {cs rest : List Char} (h : ∀ c ∈ cs, isStray c = false) :
    (cs ++ rest).findIdx? isStray = (rest.findIdx? isStray).map (· + cs.length) := by
  have hnone : cs.findIdx? isStray = none := List.findIdx?_eq_none_iff.mpr h
  rw [List.findIdx?_append, hnone, Option.none_or]

/-- The first stray character stays where it is in the text, whether one looks for it from the
position `n` on or from behind characters that are not stray. -/
theorem exists_stray_append_iff {cs rest : List Char} {n : Nat} {e : Error}
    (h : ∀ c ∈ cs, isStray c = false) :
    (∃ k c, rest.findIdx? isStray = some k ∧ rest[k]? = some c ∧
        e = strayError c (n + cs.length + k)) ↔
      ∃ k c, (cs ++ rest).findIdx? isStray = some k ∧ (cs ++ rest)[k]? = some c ∧
        e = strayError c (n + k) := by
  rw [findIdx?_append_of_not_stray h]
  constructor
  · rintro ⟨k, c, hk, hc, rfl⟩
    have hplace : n + cs.length + k = n + (k + cs.length) := by omega
    refine ⟨k + cs.length, c, by rw [hk]; rfl, ?_, by rw [hplace]⟩
    rw [List.getElem?_append_right (by omega), Nat.add_sub_cancel, hc]
  · rintro ⟨k, c, hk, hc, rfl⟩
    obtain ⟨j, hj, rfl⟩ := Option.map_eq_some_iff.mp hk
    have hplace : n + (j + cs.length) = n + cs.length + j := by omega
    rw [List.getElem?_append_right (by omega), Nat.add_sub_cancel] at hc
    exact ⟨j, c, hj, hc, by rw [hplace]⟩

theorem scan_eq_error_iff {found : List Token} {n : Nat} {rest : List Char} {e : Error} :
    scan found n rest = .error e ↔
      ∃ k c, rest.findIdx? isStray = some k ∧ rest[k]? = some c ∧ e = strayError c (n + k) := by
  -- blanks and tokens are passed over, and the first character that is neither ends the scan
  fun_induction scan found n rest with
  | case1 => simp
  | case2 found n c rest hl ih =>
    have hblank : ∀ d ∈ [c], isStray d = false := by
      intro d hd
      rw [List.mem_singleton.mp hd]
      exact isStray_of_lead_blank hl
    exact ih.trans (exists_stray_append_iff hblank)
  | case3 found n c rest kind extra h hl ih =>
    have hlength : n + (c :: rest.take extra).length = n + 1 + extra := by
      have hextra := extra_le_of_lead hl
      rw [List.length_cons, List.length_take]
      omega
    have hskip := @exists_stray_append_iff _ (rest.drop extra) n e (isStray_of_lead_token hl)
    rw [hlength, List.cons_append, List.take_append_drop] at hskip
    exact ih.trans hskip
  | case4 found n c rest hl =>
    have hfirst : (c :: rest).findIdx? isStray = some 0 := by
      rw [List.findIdx?_cons, isStray_of_lead_stray hl]
      rfl
    rw [hfirst]
    constructor
    · intro h
      cases h
      exact ⟨0, c, rfl, rfl, rfl⟩
    · rintro ⟨k, d, hk, hd, rfl⟩
      cases hk
      cases hd
      rfl

/-- **Only a stray character spoils a text**, and the error shows the first one where it stands. -/
theorem ofText_eq_error_iff {source : String} {e : Error} :
    ofText source = .error e ↔
      ∃ pos c, source.toList.findIdx? isStray = some pos ∧ source.toList[pos]? = some c ∧
        e = strayError c pos := by
  rw [ofText, scan_eq_error_iff]
  simp only [Nat.zero_add]

/-- The error is about the stray character that has none before it. -/
theorem ofText_eq_error_iff_exists_append {source : String} {e : Error} :
    ofText source = .error e ↔
      ∃ before c after, source.toList = before ++ c :: after ∧
        (∀ d ∈ before, isStray d = false) ∧ isStray c = true ∧
        e = strayError c before.length := by
  rw [ofText_eq_error_iff]
  constructor
  · rintro ⟨pos, c, hpos, hc, rfl⟩
    obtain ⟨hlt, hstray, hbefore⟩ := List.findIdx?_eq_some_iff_getElem.mp hpos
    obtain ⟨-, rfl⟩ := List.getElem?_eq_some_iff.mp hc
    have hlength : (source.toList.take pos).length = pos := by
      rw [List.length_take]
      omega
    refine ⟨source.toList.take pos, _, source.toList.drop (pos + 1), ?_, fun d hd => ?_, hstray, ?_⟩
    · rw [← List.drop_eq_getElem_cons hlt, List.take_append_drop]
    · obtain ⟨i, hi, rfl⟩ := List.mem_take_iff_getElem.mp hd
      exact Bool.eq_false_iff.mpr (hbefore i (by omega))
    · rw [hlength]
  · rintro ⟨before, c, after, hsource, hbefore, hstray, rfl⟩
    refine ⟨before.length, c, ?_, ?_, rfl⟩
    · rw [hsource, findIdx?_append_of_not_stray hbefore, List.findIdx?_cons, hstray, if_pos rfl,
        Option.map_some, Nat.zero_add]
    · rw [hsource, List.getElem?_append_right (Nat.le_refl _), Nat.sub_self]
      rfl

/-- A text has an error exactly if it has a stray character. -/
theorem exists_ofText_eq_error_iff {source : String} :
    (∃ e, ofText source = .error e) ↔ ∃ c ∈ source.toList, isStray c = true := by
  constructor
  · rintro ⟨e, he⟩
    obtain ⟨before, c, after, hsource, -, hstray, -⟩ := ofText_eq_error_iff_exists_append.mp he
    exact ⟨c, hsource ▸ List.mem_append_right before (List.mem_cons_self ..), hstray⟩
  · rintro ⟨c, hc, hstray⟩
    cases hfirst : source.toList.findIdx? isStray with
    | none =>
      rw [List.findIdx?_eq_none_iff.mp hfirst c hc] at hstray
      cases hstray
    | some pos =>
      obtain ⟨hlt, -, -⟩ := List.findIdx?_eq_some_iff_getElem.mp hfirst
      exact ⟨_, ofText_eq_error_iff.mpr ⟨pos, _, hfirst, List.getElem?_eq_getElem hlt, rfl⟩⟩

/-- The characters of a text that has tokens are not stray. -/
theorem isStray_of_ofText_eq_ok {source : String} {ts : List Token} (h : ofText source = .ok ts) :
    ∀ c ∈ source.toList, isStray c = false := by
  intro c hc
  rw [Bool.eq_false_iff]
  intro hstray
  obtain ⟨e, he⟩ := exists_ofText_eq_error_iff.mpr ⟨c, hc, hstray⟩
  cases h.symm.trans he

end Calculator.Token
