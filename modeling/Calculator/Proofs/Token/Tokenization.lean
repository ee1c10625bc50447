import Calculator.Proofs.Text.Classes
import Calculator.Token.Fields
import Calculator.Trig
import Mathlib.Data.List.TakeWhile

/-!
# The tokens of a text

`Tokenizes` says what the tokens of a text are without saying how they are found: they are spelled
by pieces of the text in their order, nothing but blanks is left out, numbers and names are whole
runs, and the end stands behind them.  `ofText_eq_ok_iff` shows that these are the tokens that
`ofText` gives, so there is never more than one such list.

The characters from a position on are looked at apart from those before it (`Covers`).  What a
token at a position must be is decided by the first character there (`eq_ofChars_of_fits`), as long
as the position is not inside a run (`Seam`), which no position is at which a token was just found
(`seam_of_lead_token`).
-/

namespace Calculator.Token

open Calculator.Text

/-! ### What the tokens of a text are -/

/-- The position behind the last character of a token. -/
def stop (t : Token) : Nat :=
  t.pos + t.text.length

/-- A token that is spelled by characters that satisfy `p`, with none of them on either side. -/
structure IsRun (p : Char → Bool) (cs : List Char) (t : Token) : Prop where
  all : ∀ c ∈ t.text.toList, p c = true
  before : ∀ i c, i + 1 = t.pos → cs[i]? = some c → p c = false
  behind : ∀ c, cs[t.stop]? = some c → p c = false

/-- Whether a token is spelled in a text as its kind demands. -/
def IsShaped (cs : List Char) (t : Token) : Prop :=
  match t.kind with
  | .number => IsRun inNumber cs t
  | .variable => IsRun isLetter cs t ∧ t.text ∉ functionNames
  | .function => IsRun isLetter cs t ∧ t.text ∈ functionNames
  | .operator => t.text ∈ ["+", "-", "*", "/"]
  | .lparen => t.text = "("
  | .rparen => t.text = ")"
  | .eof => False

/-- A token, other than the end, that stands in a text at its position. -/
structure Fits (cs : List Char) (t : Token) : Prop where
  text_ne_empty : t.text ≠ ""
  spelled : (cs.drop t.pos).take t.text.length = t.text.toList
  shaped : IsShaped cs t

/-- The tokens of a text: those that stand in it, one behind the other, and the end, with nothing
but blanks between them. -/
structure Tokenizes (source : String) (ts : List Token) : Prop where
  ends : ∃ body, ts = body ++ [atEnd source.length] ∧ ∀ t ∈ body, Fits source.toList t
  made : ∀ t ∈ ts, make t.kind t.text t.pos = .ok t
  ordered : ts.Pairwise fun s t => s.stop ≤ t.pos
  blank : ∀ i c, source.toList[i]? = some c → (∀ t ∈ ts, ¬ (t.pos ≤ i ∧ i < t.stop)) →
    isBlank c = true

/-! ### What a text starts with -/

section Lead

variable {c : Char} {cs : List Char} {kind : Kind} {extra : Nat} {h : kind ≠ .eof}

theorem lead_of_isBlank (hc : isBlank c = true) : lead c cs = .blank := by
  rw [lead, if_pos hc]

theorem lead_of_inNumber (hc : inNumber c = true) :
    lead c cs = .token .number (cs.takeWhile inNumber).length (by decide) := by
  have hb : ¬ isBlank c = true := fun hb => by simp [not_inNumber_of_isBlank hb] at hc
  rw [lead, if_neg hb, if_pos hc]

theorem lead_of_markKind? (hc : markKind? c = some kind) :
    lead c cs = .token kind 0 (markKind?_ne_eof hc) := by
  obtain ⟨hb, hn, -⟩ := classes_of_markKind? hc
  rw [lead, if_neg (by simp [hb]), if_neg (by simp [hn])]
  split
  · next kind' hk =>
    rw [hc] at hk
    cases hk
    rfl
  · next hk =>
    rw [hc] at hk
    cases hk

theorem lead_of_isLetter (hc : isLetter c = true) :
    lead c cs = .token (wordKind (String.ofList (c :: cs.takeWhile isLetter)))
      (cs.takeWhile isLetter).length (wordKind_ne_eof _) := by
  have hb : ¬ isBlank c = true := fun hb => by simp [not_isLetter_of_isBlank hb] at hc
  have hn : ¬ inNumber c = true := by simp [not_inNumber_of_isLetter hc]
  rw [lead, if_neg hb, if_neg hn]
  split
  · next kind hk =>
    rw [markKind?_eq_none_of_isLetter hc] at hk
    cases hk
  · rw [if_pos hc]

/-- A text starts with a run of a number or of a name, with a mark, with a blank or with none of
these. -/
theorem lead_cases (c : Char) (cs : List Char) :
    isBlank c = true ∧ lead c cs = .blank ∨ inNumber c = true ∨
      (∃ kind, markKind? c = some kind) ∨ isLetter c = true ∨
      isBlank c = false ∧ lead c cs = .stray := by
  by_cases hb : isBlank c = true
  · exact .inl ⟨hb, lead_of_isBlank hb⟩
  · by_cases hn : inNumber c = true
    · exact .inr (.inl hn)
    · cases hk : markKind? c with
      | some kind => exact .inr (.inr (.inl ⟨kind, rfl⟩))
      | none =>
        by_cases hl : isLetter c = true
        · exact .inr (.inr (.inr (.inl hl)))
        · refine .inr (.inr (.inr (.inr ⟨by simpa using hb, ?_⟩)))
          rw [lead, if_neg hb, if_neg hn]
          split
          · next kind hk' =>
            rw [hk] at hk'
            cases hk'
          · rw [if_neg hl]

/-- A text that starts with a token starts with a run of a number, with a mark or with a run of a
name. -/
theorem cases_of_lead_token (hl : lead c cs = .token kind extra h) :
    inNumber c = true ∧ kind = .number ∧ extra = (cs.takeWhile inNumber).length ∨
      markKind? c = some kind ∧ extra = 0 ∨
      isLetter c = true ∧ kind = wordKind (String.ofList (c :: cs.takeWhile isLetter)) ∧
        extra = (cs.takeWhile isLetter).length := by
  rcases lead_cases c cs with ⟨-, hb⟩ | hc | ⟨kind', hk⟩ | hc | ⟨-, hb⟩
  · rw [hb] at hl
    cases hl
  · rw [lead_of_inNumber hc] at hl
    cases hl
    exact .inl ⟨hc, rfl, rfl⟩
  · rw [lead_of_markKind? hk] at hl
    cases hl
    exact .inr (.inl ⟨hk, rfl⟩)
  · rw [lead_of_isLetter hc] at hl
    cases hl
    exact .inr (.inr ⟨hc, rfl, rfl⟩)
  · rw [hb] at hl
    cases hl

theorem not_isBlank_of_lead (hl : lead c cs ≠ .blank) : isBlank c = false := by
  rw [Bool.eq_false_iff]
  exact fun hb => hl (lead_of_isBlank hb)

theorem isBlank_of_lead (hl : lead c cs = .blank) : isBlank c = true := by
  rcases lead_cases c cs with ⟨hb, -⟩ | hc | ⟨kind, hk⟩ | hc | ⟨-, hs⟩
  · exact hb
  · rw [lead_of_inNumber hc] at hl
    cases hl
  · rw [lead_of_markKind? hk] at hl
    cases hl
  · rw [lead_of_isLetter hc] at hl
    cases hl
  · rw [hs] at hl
    cases hl

theorem extra_le_of_lead (hl : lead c cs = .token kind extra h) : extra ≤ cs.length := by
  have htake : ∀ p : Char → Bool, (cs.takeWhile p).length ≤ cs.length :=
    fun p => (List.takeWhile_prefix p).length_le
  obtain ⟨-, -, rfl⟩ | ⟨-, rfl⟩ | ⟨-, -, rfl⟩ := cases_of_lead_token hl
  · exact htake inNumber
  · exact Nat.zero_le _
  · exact htake isLetter

end Lead

/-! ### Tokens at a position -/

/-- A longest run is found if it is known where it ends. -/
theorem takeWhile_eq_take_of_run {p : Char → Bool} {cs : List Char} {n : Nat}
    (hall : ∀ c ∈ cs.take n, p c = true) (hbehind : ∀ c, cs[n]? = some c → p c = false) :
    cs.takeWhile p = cs.take n := by
  have hstop : (cs.drop n).takeWhile p = [] := by
    cases hd : cs.drop n with
    | nil => rfl
    | cons c rest =>
      have hc : cs[n]? = some c := by
        rw [← List.head?_drop, hd]
        rfl
      rw [List.takeWhile_cons_of_neg (by simp [hbehind c hc])]
  calc cs.takeWhile p = (cs.take n ++ cs.drop n).takeWhile p := by rw [List.take_append_drop]
    _ = cs.take n ++ (cs.drop n).takeWhile p := List.takeWhile_append_of_pos hall
    _ = cs.take n := by rw [hstop, List.append_nil]

theorem take_length_takeWhile (p : Char → Bool) (cs : List Char) :
    cs.take (cs.takeWhile p).length = cs.takeWhile p :=
  (List.prefix_iff_eq_take.mp (List.takeWhile_prefix p)).symm

section Fits

variable {cs : List Char} {n : Nat} {c : Char} {rest : List Char} {t : Token}

/-- A character behind a position, in the text and in what is left of it from there on. -/
theorem getElem?_of_drop (hd : cs.drop n = c :: rest) (i : Nat) : cs[n + 1 + i]? = rest[i]? := by
  have h : cs.drop (n + 1) = rest := by rw [← List.drop_drop, hd, List.drop_one, List.tail_cons]
  rw [← h, List.getElem?_drop]

theorem getElem?_of_drop_zero (hd : cs.drop n = c :: rest) : cs[n]? = some c := by
  rw [← List.head?_drop, hd, List.head?_cons]

/-- A token that stands in a text starts with the character at its position. -/
theorem toList_of_fits (hf : Fits cs t) (hd : cs.drop t.pos = c :: rest) :
    t.text.toList = c :: rest.take (t.text.length - 1) := by
  have hlen : t.text.length ≠ 0 := by
    intro h
    exact hf.text_ne_empty (by simpa using h)
  obtain ⟨n, hn⟩ := Nat.exists_eq_succ_of_ne_zero hlen
  rw [← hf.spelled, hd, hn, Nat.succ_eq_add_one, List.take_succ_cons, Nat.add_sub_cancel]

/-- A token that is a whole run is spelled by the longest run at its position. -/
theorem toList_of_isRun {p : Char → Bool} (hr : IsRun p cs t) (hf : Fits cs t)
    (hd : cs.drop t.pos = c :: rest) : p c = true ∧ t.text.toList = c :: rest.takeWhile p := by
  have htext := toList_of_fits hf hd
  have hlen : t.text.length = t.text.length - 1 + 1 := by
    have : t.text.toList.length = t.text.length := String.length_toList
    rw [htext, List.length_cons] at this
    omega
  have hall := hr.all
  rw [htext] at hall
  refine ⟨hall c (List.mem_cons_self ..), ?_⟩
  rw [htext, takeWhile_eq_take_of_run fun d hm => hall d (List.mem_cons_of_mem _ hm)]
  intro d hget
  refine hr.behind d ?_
  rw [stop, hlen, ← hget, ← getElem?_of_drop hd, Nat.add_assoc, Nat.add_comm 1]

theorem eq_ofChars {kind : Kind} (h : kind ≠ .eof) (hkind : t.kind = kind)
    (ht : t.text.toList = c :: rest) : t = ofChars kind c rest t.pos h := by
  refine eq_of_fields hkind ?_ rfl
  show t.text = String.ofList (c :: rest)
  rw [← ht, String.ofList_toList]

/-- A token that stands at a position is the one with which the text starts there. -/
theorem eq_ofChars_of_fits (hf : Fits cs t) (hd : cs.drop t.pos = c :: rest) :
    ∃ kind extra h, lead c rest = .token kind extra h ∧
      t = ofChars kind c (rest.take extra) t.pos h := by
  -- a mark is spelled by one character, which decides its kind
  have hmark : ∀ d kind, markKind? d = some kind → t.kind = kind → t.text = String.singleton d →
      ∃ kind extra h, lead c rest = .token kind extra h ∧
        t = ofChars kind c (rest.take extra) t.pos h := by
    intro d kind hd' hkind htext
    have hlist : t.text.toList = [d] := by rw [htext, String.toList_singleton]
    have hc : c = d := by
      have := toList_of_fits hf hd
      rw [hlist] at this
      exact (List.cons.inj this).1.symm
    subst hc
    exact ⟨kind, 0, markKind?_ne_eof hd', lead_of_markKind? hd', eq_ofChars _ hkind hlist⟩
  -- a name is the longest run of letters, and its kind is decided by the whole of it
  have hword : IsRun isLetter cs t → t.kind = wordKind t.text →
      ∃ kind extra h, lead c rest = .token kind extra h ∧
        t = ofChars kind c (rest.take extra) t.pos h := by
    intro hr hkind
    obtain ⟨hc, ht⟩ := toList_of_isRun hr hf hd
    have htext : String.ofList (c :: rest.takeWhile isLetter) = t.text := by
      rw [← ht, String.ofList_toList]
    refine ⟨_, _, _, lead_of_isLetter hc, eq_ofChars _ (htext ▸ hkind) ?_⟩
    rw [take_length_takeWhile, ht]
  have hs := hf.shaped
  unfold IsShaped at hs
  split at hs
  · next hkind =>
    obtain ⟨hc, ht⟩ := toList_of_isRun hs hf hd
    refine ⟨_, _, _, lead_of_inNumber hc, eq_ofChars _ hkind ?_⟩
    rw [take_length_takeWhile, ht]
  · next hkind =>
    refine hword hs.1 ?_
    rw [wordKind, if_neg hs.2, hkind]
  · next hkind =>
    refine hword hs.1 ?_
    rw [wordKind, if_pos hs.2, hkind]
  · next hkind =>
    simp only [List.mem_cons, List.not_mem_nil, or_false] at hs
    rcases hs with h | h | h | h
    · exact hmark '+' _ rfl hkind h
    · exact hmark '-' _ rfl hkind h
    · exact hmark '*' _ rfl hkind h
    · exact hmark '/' _ rfl hkind h
  · next hkind => exact hmark '(' _ rfl hkind hs
  · next hkind => exact hmark ')' _ rfl hkind hs
  · exact hs.elim

end Fits

/-! ### Runs and the positions between them -/

/-- A position inside no run: the characters on its two sides are not both part of a number, nor
both letters. -/
def Seam (cs : List Char) (n : Nat) : Prop :=
  ∀ p, p = inNumber ∨ p = isLetter → ∀ i c d, i + 1 = n → cs[i]? = some c → cs[n]? = some d →
    p d = true → p c = false

theorem seam_zero (cs : List Char) : Seam cs 0 := by
  intro p hp i c d hi
  omega

section Seam

variable {cs : List Char} {n : Nat} {c : Char} {rest : List Char} {kind : Kind} {extra : Nat}
  {h : kind ≠ .eof}

/-- The character behind a longest run is not one of the run. -/
theorem eq_false_of_getElem?_takeWhile {p : Char → Bool} {d : Char}
    (hget : rest[(rest.takeWhile p).length]? = some d) : p d = false := by
  have hsplit : rest[(rest.takeWhile p).length]? = (rest.dropWhile p).head? := by
    have happend : rest.takeWhile p ++ rest.dropWhile p = rest := List.takeWhile_append_dropWhile
    rw [← List.head?_drop, ← @List.drop_left _ (rest.takeWhile p) (rest.dropWhile p), happend]
  have hnot := List.head?_dropWhile_not p rest
  rw [← hsplit, hget] at hnot
  exact hnot

theorem isRun_ofChars {p : Char → Bool} (hp : p = inNumber ∨ p = isLetter) (hseam : Seam cs n)
    (hd : cs.drop n = c :: rest) (hc : p c = true) :
    IsRun p cs (ofChars kind c (rest.takeWhile p) n h) where
  all d hm := by
    rw [ofChars, String.toList_ofList] at hm
    rcases List.mem_cons.mp hm with rfl | hm
    · exact hc
    · exact List.mem_takeWhile_imp hm
  before i d hi hget := hseam p hp i d c hi hget (getElem?_of_drop_zero hd) hc
  behind d hget := by
    have hstop : (ofChars kind c (rest.takeWhile p) n h).stop =
        n + 1 + (rest.takeWhile p).length := by
      simp only [stop, ofChars, String.length_ofList, List.length_cons]
      omega
    rw [hstop, getElem?_of_drop hd] at hget
    exact eq_false_of_getElem?_takeWhile hget

theorem isShaped_of_isRun {t : Token} (hr : IsRun isLetter cs t) (hk : t.kind = wordKind t.text) :
    IsShaped cs t := by
  by_cases hf : t.text ∈ functionNames
  · rw [wordKind, if_pos hf] at hk
    rw [IsShaped, hk]
    exact ⟨hr, hf⟩
  · rw [wordKind, if_neg hf] at hk
    rw [IsShaped, hk]
    exact ⟨hr, hf⟩

/-- What a text starts with at a seam stands there. -/
theorem fits_ofChars (hseam : Seam cs n) (hd : cs.drop n = c :: rest)
    (hl : lead c rest = .token kind extra h) : Fits cs (ofChars kind c (rest.take extra) n h) where
  text_ne_empty := by
    rw [Ne, (ofChars kind c (rest.take extra) n h).text_eq_empty_iff]
    exact h
  spelled := by
    have hlen : (ofChars kind c (rest.take extra) n h).text.length = (rest.take extra).length + 1 :=
      String.length_ofList
    have htake : rest.take (rest.take extra).length = rest.take extra :=
      (List.prefix_iff_eq_take.mp (List.take_prefix extra rest)).symm
    rw [hlen]
    show (cs.drop n).take _ = (String.ofList (c :: rest.take extra)).toList
    rw [hd, List.take_succ_cons, htake, String.toList_ofList]
  shaped := by
    obtain ⟨hc, rfl, rfl⟩ | ⟨hk, rfl⟩ | ⟨hc, rfl, rfl⟩ := cases_of_lead_token hl
    · rw [take_length_takeWhile]
      exact isRun_ofChars (.inl rfl) hseam hd hc
    · unfold markKind? at hk
      split at hk
      · next hc =>
        cases hk
        rcases hc with rfl | rfl | rfl | rfl <;> simp [IsShaped, ofChars]
      · split at hk
        · next hc =>
          cases hk
          simp [IsShaped, ofChars, hc]
        · split at hk
          · next hc =>
            cases hk
            simp [IsShaped, ofChars, hc]
          · cases hk
    · rw [take_length_takeWhile]
      exact isShaped_of_isRun (isRun_ofChars (.inr rfl) hseam hd hc) rfl

/-- The last character of what a text starts with. -/
theorem mem_of_getElem?_last {i : Nat} {d : Char} (hd : cs.drop n = c :: rest)
    (hi : i + 1 = n + 1 + extra) (hget : cs[i]? = some d) : d ∈ c :: rest.take extra := by
  cases extra with
  | zero =>
    have hin : i = n := by omega
    rw [hin, getElem?_of_drop_zero hd] at hget
    cases hget
    exact List.mem_cons_self ..
  | succ k =>
    have hik : i = n + 1 + k := by omega
    rw [hik, getElem?_of_drop hd] at hget
    refine List.mem_cons_of_mem _ (List.mem_of_getElem? (i := k) ?_)
    rw [List.getElem?_take_of_lt (Nat.lt_succ_self k), hget]

theorem seam_of_lead_blank (hd : cs.drop n = c :: rest) (hl : lead c rest = .blank) :
    Seam cs (n + 1) := by
  intro p hp i a d hi ha hget hpd
  have hac : a = c := by simpa using @mem_of_getElem?_last cs n c rest 0 i a hd hi ha
  rcases hp with rfl | rfl
  · exact hac ▸ not_inNumber_of_isBlank (isBlank_of_lead hl)
  · exact hac ▸ not_isLetter_of_isBlank (isBlank_of_lead hl)

/-- Behind a token that was found there is a seam. -/
theorem seam_of_lead_token (hd : cs.drop n = c :: rest) (hl : lead c rest = .token kind extra h) :
    Seam cs (n + 1 + extra) := by
  intro p hp i a d hi ha hget hpd
  -- the last character of a run is in the class of the run, and the one behind it is not
  have hlast := mem_of_getElem?_last hd hi ha
  rw [getElem?_of_drop hd] at hget
  have hrun : ∀ q : Char → Bool, q c = true → extra = (rest.takeWhile q).length → q a = true := by
    intro q hc hextra
    rw [hextra, take_length_takeWhile] at hlast
    rcases List.mem_cons.mp hlast with rfl | hm
    · exact hc
    · exact List.mem_takeWhile_imp hm
  obtain ⟨hc, rfl, rfl⟩ | ⟨hk, rfl⟩ | ⟨hc, rfl, rfl⟩ := cases_of_lead_token hl
  · have hin := hrun inNumber hc rfl
    rcases hp with rfl | rfl
    · rw [eq_false_of_getElem?_takeWhile hget] at hpd
      cases hpd
    · rw [Bool.eq_false_iff]
      intro hletter
      rw [not_inNumber_of_isLetter hletter] at hin
      cases hin
  · have hac : a = c := by simpa using hlast
    obtain ⟨-, hn, hletter⟩ := classes_of_markKind? hk
    rcases hp with rfl | rfl
    · exact hac ▸ hn
    · exact hac ▸ hletter
  · have hin := hrun isLetter hc rfl
    rcases hp with rfl | rfl
    · exact not_inNumber_of_isLetter hin
    · rw [eq_false_of_getElem?_takeWhile hget] at hpd
      cases hpd

end Seam

/-! ### The tokens from a position on -/

/-- The tokens of the characters of a text from the position `n` on, the end left out. -/
structure Covers (cs : List Char) (n : Nat) (ts : List Token) : Prop where
  fits : ∀ t ∈ ts, n ≤ t.pos ∧ Fits cs t
  ordered : ts.Pairwise fun s t => s.stop ≤ t.pos
  blank : ∀ i c, n ≤ i → cs[i]? = some c → (∀ t ∈ ts, ¬ (t.pos ≤ i ∧ i < t.stop)) →
    isBlank c = true

section Covers

variable {cs : List Char} {n : Nat} {c : Char} {rest : List Char} {ts : List Token}

theorem Fits.kind_ne_eof {t : Token} (hf : Fits cs t) : t.kind ≠ .eof :=
  fun hk => hf.text_ne_empty (t.text_eq_empty_iff.mpr hk)

theorem Fits.pos_lt_stop {t : Token} (hf : Fits cs t) : t.pos < t.stop := by
  have hlen : t.text.length ≠ 0 := fun h => hf.text_ne_empty (by simpa using h)
  unfold stop
  omega

theorem Fits.stop_le {t : Token} (hf : Fits cs t) : t.stop ≤ cs.length := by
  have hlen := congrArg List.length hf.spelled
  have hpos := hf.pos_lt_stop
  rw [List.length_take, List.length_drop, String.length_toList] at hlen
  unfold stop at hpos ⊢
  omega

/-- Nothing is left behind the last character. -/
theorem covers_length_iff : Covers cs cs.length ts ↔ ts = [] := by
  constructor
  · intro h
    refine List.eq_nil_iff_forall_not_mem.mpr fun t ht => ?_
    obtain ⟨hpos, hf⟩ := h.fits t ht
    have hstop := hf.stop_le
    have hlt := hf.pos_lt_stop
    omega
  · rintro rfl
    refine ⟨by simp, .nil, fun i c hi hget => ?_⟩
    have := (List.getElem?_eq_some_iff.mp hget).1
    omega

/-- Where no token starts, there is a blank, and it can be left out. -/
theorem covers_of_lead_blank (hd : cs.drop n = c :: rest) (hl : lead c rest = .blank) :
    Covers cs n ts ↔ Covers cs (n + 1) ts := by
  constructor
  · intro h
    refine ⟨fun t ht => ?_, h.ordered, fun i a hi => h.blank i a (by omega)⟩
    obtain ⟨hpos, hf⟩ := h.fits t ht
    refine ⟨?_, hf⟩
    have hne : t.pos ≠ n := by
      rintro rfl
      obtain ⟨_, _, _, hl', -⟩ := eq_ofChars_of_fits hf hd
      rw [hl] at hl'
      cases hl'
    omega
  · intro h
    refine ⟨fun t ht => ?_, h.ordered, fun i a hi hget hno => ?_⟩
    · obtain ⟨hpos, hf⟩ := h.fits t ht
      exact ⟨by omega, hf⟩
    · rcases Nat.eq_or_lt_of_le hi with rfl | hi
      · rw [getElem?_of_drop_zero hd] at hget
        cases hget
        exact isBlank_of_lead hl
      · exact h.blank i a hi hget hno

/-- Where there is no blank, the first token starts, and it is what the text starts with. -/
theorem exists_cons_of_covers (hd : cs.drop n = c :: rest) (hl : lead c rest ≠ .blank)
    (h : Covers cs n ts) :
    ∃ t us kind extra he, ts = t :: us ∧ t.pos = n ∧ lead c rest = .token kind extra he ∧
      t = ofChars kind c (rest.take extra) n he := by
  -- what is no blank is covered by a token, which cannot have started before `n`
  have hcovered : ∃ t ∈ ts, t.pos ≤ n ∧ n < t.stop := by
    by_contra hno
    have hblank := h.blank n c (Nat.le_refl n) (getElem?_of_drop_zero hd)
      fun t ht hin => hno ⟨t, ht, hin⟩
    rw [not_isBlank_of_lead hl] at hblank
    cases hblank
  obtain ⟨t, ht, hle, -⟩ := hcovered
  cases ts with
  | nil => cases ht
  | cons u us =>
    obtain ⟨hu, hfu⟩ := h.fits u (List.mem_cons_self ..)
    -- a token before the one at `n` would have to end there, but start no earlier
    have hpos : u.pos = n := by
      rcases List.mem_cons.mp ht with rfl | ht
      · omega
      · have hord := (List.pairwise_cons.mp h.ordered).1 t ht
        have hlt := hfu.pos_lt_stop
        omega
    obtain ⟨kind, extra, he, hlead, heq⟩ := eq_ofChars_of_fits hfu (hpos ▸ hd)
    exact ⟨u, us, kind, extra, he, rfl, hpos, hlead, hpos ▸ heq⟩

theorem stop_ofChars {kind : Kind} {extra : Nat} {h : kind ≠ .eof} (he : extra ≤ rest.length) :
    (ofChars kind c (rest.take extra) n h).stop = n + 1 + extra := by
  simp only [stop, ofChars, String.length_ofList, List.length_cons, List.length_take]
  omega

/-- What a text starts with is its first token, and the others are those behind it. -/
theorem covers_of_lead_token {kind : Kind} {extra : Nat} {h : kind ≠ .eof} (hseam : Seam cs n)
    (hd : cs.drop n = c :: rest) (hl : lead c rest = .token kind extra h) :
    Covers cs n ts ↔
      ∃ us, ts = ofChars kind c (rest.take extra) n h :: us ∧ Covers cs (n + 1 + extra) us := by
  have hf := fits_ofChars hseam hd hl
  have hstop := stop_ofChars (c := c) (n := n) (h := h) (extra_le_of_lead hl)
  constructor
  · intro hcov
    obtain ⟨t, us, kind', extra', he, rfl, -, hl', rfl⟩ :=
      exists_cons_of_covers hd (by simp [hl]) hcov
    rw [hl] at hl'
    cases hl'
    obtain ⟨hbehind, hordered⟩ := List.pairwise_cons.mp hcov.ordered
    refine ⟨us, rfl, fun t ht => ?_, hordered, fun i a hi hget hno => ?_⟩
    · have hle := hbehind t ht
      rw [hstop] at hle
      exact ⟨hle, (hcov.fits t (List.mem_cons_of_mem _ ht)).2⟩
    · refine hcov.blank i a (by omega) hget fun t ht => ?_
      rcases List.mem_cons.mp ht with rfl | ht
      · rw [hstop]
        omega
      · exact hno t ht
  · rintro ⟨us, rfl, hcov⟩
    refine ⟨fun t ht => ?_, List.pairwise_cons.mpr ⟨fun t ht => ?_, hcov.ordered⟩,
      fun i a hi hget hno => ?_⟩
    · rcases List.mem_cons.mp ht with rfl | ht
      · exact ⟨Nat.le_refl n, hf⟩
      · obtain ⟨hpos, hft⟩ := hcov.fits t ht
        exact ⟨by omega, hft⟩
    · rw [hstop]
      exact (hcov.fits t ht).1
    · have hi' : n + 1 + extra ≤ i := by
        have hfirst := hno _ (List.mem_cons_self ..)
        rw [hstop] at hfirst
        have hpos : (ofChars kind c (rest.take extra) n h).pos = n := rfl
        omega
      exact hcov.blank i a hi' hget fun t ht => hno t (List.mem_cons_of_mem _ ht)

theorem not_covers_of_lead_stray (hd : cs.drop n = c :: rest) (hl : lead c rest = .stray) :
    ¬ Covers cs n ts := by
  intro h
  obtain ⟨_, _, _, _, _, -, -, hl', -⟩ := exists_cons_of_covers hd (by simp [hl]) h
  rw [hl] at hl'
  cases hl'

end Covers

/-! ### The tokens that are found -/

/-- From a seam on, exactly the tokens that cover the rest of a text are found. -/
theorem scan_eq_ok_iff {cs : List Char} (found : List Token) (n : Nat) (rest : List Char)
    (ts : List Token) (hrest : cs.drop n = rest) (hle : n ≤ cs.length) (hseam : Seam cs n) :
    scan found n rest = .ok ts ↔
      ∃ body, Covers cs n body ∧ ts = found.reverse ++ (body ++ [atEnd cs.length]) := by
  -- the tokens found before are carried along; that `n` is a seam is kept by both ways to go on
  fun_induction scan found n rest with
  | case1 found n =>
    have hn : n = cs.length := by
      have := List.drop_eq_nil_iff.mp hrest
      omega
    subst hn
    simp only [covers_length_iff, Except.ok.injEq, exists_eq_left, List.nil_append,
      List.reverse_cons, eq_comm]
  | case2 found n c rest hl ih =>
    have hdrop : cs.drop (n + 1) = rest := by rw [← List.drop_drop, hrest]; rfl
    have hlt : n < cs.length := (List.getElem?_eq_some_iff.mp (getElem?_of_drop_zero hrest)).1
    rw [ih hdrop (by omega) (seam_of_lead_blank hrest hl)]
    simp only [covers_of_lead_blank hrest hl]
  | case3 found n c rest kind extra h hl ih =>
    have hdrop : cs.drop (n + 1 + extra) = rest.drop extra := by
      rw [← List.drop_drop, ← List.drop_drop, hrest]
      rfl
    have hle' : n + 1 + extra ≤ cs.length := by
      have hextra := extra_le_of_lead hl
      have hlen := congrArg List.length hrest
      rw [List.length_drop, List.length_cons] at hlen
      omega
    rw [ih hdrop hle' (seam_of_lead_token hrest hl)]
    simp only [covers_of_lead_token hseam hrest hl, List.reverse_cons, List.append_assoc]
    constructor
    · rintro ⟨us, hus, rfl⟩
      exact ⟨_, ⟨us, rfl, hus⟩, rfl⟩
    · rintro ⟨_, ⟨us, rfl, hus⟩, rfl⟩
      exact ⟨us, hus, rfl⟩
  | case4 found n c rest hl =>
    constructor
    · intro h
      cases h
    · rintro ⟨body, h, -⟩
      exact absurd h (not_covers_of_lead_stray hrest hl)

/-- The check that a spelling fits a kind is passed by every token. -/
theorem make_self (t : Token) : make t.kind t.text t.pos = .ok t := by
  rw [make, dif_pos t.text_eq_empty_iff]

theorem tokenizes_iff_covers {source : String} {ts : List Token} :
    Tokenizes source ts ↔
      ∃ body, Covers source.toList 0 body ∧ ts = body ++ [atEnd source.toList.length] := by
  constructor
  · rintro ⟨⟨body, rfl, hfits⟩, -, hordered, hblank⟩
    refine ⟨body, ⟨fun t ht => ⟨Nat.zero_le _, hfits t ht⟩,
      (List.pairwise_append.mp hordered).1, fun i c _ hget hno => ?_⟩, ?_⟩
    · refine hblank i c hget fun t ht => ?_
      rcases List.mem_append.mp ht with ht | ht
      · exact hno t ht
      · rw [List.mem_singleton.mp ht]
        simp only [stop, atEnd, String.length_empty]
        omega
    · rw [String.length_toList]
  · rintro ⟨body, h, rfl⟩
    refine ⟨⟨body, by rw [String.length_toList], fun t ht => (h.fits t ht).2⟩,
      fun t _ => make_self t, ?_, ?_⟩
    · refine List.pairwise_append.mpr ⟨h.ordered, List.pairwise_singleton .., fun s hs t ht => ?_⟩
      rw [List.mem_singleton.mp ht]
      exact (h.fits s hs).2.stop_le
    · intro i c hget hno
      exact h.blank i c (Nat.zero_le i) hget fun t ht => hno t (List.mem_append_left _ ht)

/-- The tokens of a text are those that cover it, with the end behind them. -/
theorem ofText_eq_ok_iff_covers {source : String} {ts : List Token} :
    ofText source = .ok ts ↔
      ∃ body, Covers source.toList 0 body ∧ ts = body ++ [atEnd source.toList.length] := by
  rw [ofText, scan_eq_ok_iff [] 0 source.toList ts rfl (Nat.zero_le _) (seam_zero _)]
  rfl

/-- **Tokens are found exactly**: `ofText` gives the tokens of a text, and no other list of tokens
is one of that text; where it gives none, the text has none. -/
theorem ofText_eq_ok_iff (source : String) (ts : List Token) :
    ofText source = .ok ts ↔ Tokenizes source ts := by
  rw [tokenizes_iff_covers, ofText_eq_ok_iff_covers]

/-- A text has no tokens only because of a character that starts none. -/
theorem exists_of_scan_eq_error {found : List Token} {n : Nat} {rest : List Char} {e : Error}
    (h : scan found n rest = .error e) : ∃ text, e.cause = .unexpectedCharacter text := by
  fun_induction scan found n rest with
  | case1 => cases h
  | case2 _ _ _ _ _ ih => exact ih h
  | case3 _ _ _ _ _ _ _ _ ih => exact ih h
  | case4 =>
    cases h
    exact ⟨_, rfl⟩

/-- The words that are functions are the names of the functions that can be applied. -/
theorem isSome_ofName?_iff {text : String} :
    (Trig.ofName? text).isSome = true ↔ text ∈ functionNames := by
  simp only [Trig.ofName?, Trig.all, List.find?_isSome, functionNames, List.mem_cons,
    List.not_mem_nil, or_false, exists_eq_or_imp, exists_eq_left, Trig.name]
  grind

/-- A function token is the name of a function. -/
theorem isSome_ofName?_of_mem {source : String} {ts : List Token} {t : Token}
    (h : ofText source = .ok ts) (ht : t ∈ ts) (hk : t.kind = .function) :
    (Trig.ofName? t.text).isSome = true := by
  obtain ⟨body, hcov, rfl⟩ := ofText_eq_ok_iff_covers.mp h
  rcases List.mem_append.mp ht with ht | ht
  · have hs := (hcov.fits t ht).2.shaped
    rw [IsShaped, hk] at hs
    exact isSome_ofName?_iff.mpr hs.2
  · rw [List.mem_singleton.mp ht] at hk
    cases hk

end Calculator.Token
