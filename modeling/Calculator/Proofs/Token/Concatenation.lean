import Calculator.Proofs.Token.Tokenization

/-!
# The tokens of texts put together

Two texts put together have the tokens of the first one and behind them those of the second one,
which have moved on by the length of the first (`Covers.append`), unless the texts meet inside a
number or a name: where they meet there must be a seam (`seam_append`), as there is beside every
blank and every mark.
-/

namespace Calculator.Token

open Calculator.Text

/-- The token, so many characters further on. -/
def shifted (n : Nat) (t : Token) : Token :=
  { t with pos := n + t.pos }

/-- The token, at another position. -/
def located (n : Nat) (t : Token) : Token :=
  { t with pos := n }

theorem stop_shifted (n : Nat) (t : Token) : (t.shifted n).stop = n + t.stop := by
  simp only [shifted, stop]
  omega

theorem shifted_zero (t : Token) : t.shifted 0 = t :=
  eq_of_fields rfl rfl (Nat.zero_add t.pos)

theorem shifted_shifted (m n : Nat) (t : Token) : (t.shifted n).shifted m = t.shifted (m + n) :=
  eq_of_fields rfl rfl (Nat.add_assoc m n t.pos).symm

theorem map_shifted_zero (ts : List Token) : ts.map (shifted 0) = ts :=
  (List.map_congr_left fun t _ => shifted_zero t).trans (List.map_id ts)

theorem map_shifted_shifted (m n : Nat) (ts : List Token) :
    (ts.map (shifted n)).map (shifted m) = ts.map (shifted (m + n)) := by
  rw [List.map_map]
  exact List.map_congr_left fun t _ => shifted_shifted m n t

/-! ### Seams -/

/-- A character that is part of no run. -/
def EndsRuns (c : Char) : Prop :=
  inNumber c = false ∧ isLetter c = false

theorem endsRuns_of_isBlank {c : Char} (h : isBlank c = true) : EndsRuns c :=
  ⟨not_inNumber_of_isBlank h, not_isLetter_of_isBlank h⟩

theorem endsRuns_of_markKind? {c : Char} {kind : Kind} (h : markKind? c = some kind) :
    EndsRuns c :=
  (classes_of_markKind? h).2

theorem EndsRuns.eq_false {c : Char} (h : EndsRuns c) {p : Char → Bool}
    (hp : p = inNumber ∨ p = isLetter) : p c = false := by
  rcases hp with rfl | rfl
  · exact h.1
  · exact h.2

section Seam

variable {as bs : List Char}

/-- Texts meet at a seam if no run goes on from the last character of the first one. -/
theorem seam_append (h : ∀ p, p = inNumber ∨ p = isLetter → ∀ c d, as.getLast? = some c →
    bs.head? = some d → p d = true → p c = false) : Seam (as ++ bs) as.length := by
  intro p hp i c d hi hc hd
  rw [List.getElem?_append_left (by omega)] at hc
  rw [List.getElem?_append_right (Nat.le_refl _), Nat.sub_self, ← List.head?_eq_getElem?] at hd
  have hlast : as.getLast? = some c := by
    rw [List.getLast?_eq_getElem?, ← hc, ← hi, Nat.add_sub_cancel]
  exact h p hp c d hlast hd

theorem seam_of_getLast? (h : ∀ c, as.getLast? = some c → EndsRuns c) :
    Seam (as ++ bs) as.length :=
  seam_append fun _ hp c _ hc _ _ => (h c hc).eq_false hp

theorem seam_of_head? (h : ∀ d, bs.head? = some d → EndsRuns d) : Seam (as ++ bs) as.length := by
  refine seam_append fun p hp c d _ hd hpd => ?_
  rw [(h d hd).eq_false hp] at hpd
  cases hpd

end Seam

/-! ### Tokens that keep standing in a text -/

/-- A token keeps its shape wherever its run is a run. -/
theorem IsShaped.imp {cs cs' : List Char} {t t' : Token} (h : IsShaped cs t) (hk : t'.kind = t.kind)
    (ht : t'.text = t.text)
    (hrun : ∀ p, p = inNumber ∨ p = isLetter → IsRun p cs t → IsRun p cs' t') :
    IsShaped cs' t' := by
  unfold IsShaped at h ⊢
  rw [hk, ht]
  split at h
  · exact hrun inNumber (.inl rfl) h
  · exact ⟨hrun isLetter (.inr rfl) h.1, h.2⟩
  · exact ⟨hrun isLetter (.inr rfl) h.1, h.2⟩
  · exact h
  · exact h
  · exact h
  · exact h

/-- At the places of a token stand the characters that spell it. -/
theorem Fits.exists_getElem? {cs : List Char} {t : Token} (hf : Fits cs t) {i : Nat}
    (hle : t.pos ≤ i) (hlt : i < t.stop) : ∃ c ∈ t.text.toList, cs[i]? = some c := by
  obtain ⟨k, rfl⟩ := Nat.exists_eq_add_of_le hle
  have hk : k < t.text.toList.length := by
    rw [String.length_toList]
    unfold stop at hlt
    omega
  refine ⟨t.text.toList[k], List.getElem_mem hk, ?_⟩
  rw [← List.getElem?_eq_getElem hk, ← hf.spelled,
    List.getElem?_take_of_lt (by rwa [← String.length_toList]), List.getElem?_drop]

section Append

variable {as bs : List Char} {t : Token}

theorem isRun_append_left {p : Char → Bool} (hp : p = inNumber ∨ p = isLetter)
    (hseam : Seam (as ++ bs) as.length) (hf : Fits as t) (hr : IsRun p as t) :
    IsRun p (as ++ bs) t where
  all := hr.all
  before i c hi hc := by
    have hlt := hf.pos_lt_stop
    have hle := hf.stop_le
    rw [List.getElem?_append_left (by omega)] at hc
    exact hr.before i c hi hc
  behind d hd := by
    rcases Nat.eq_or_lt_of_le hf.stop_le with hend | hlt
    · -- the last character of the run is the last one before the seam
      have hlt := hf.pos_lt_stop
      obtain ⟨c, hmem, hc⟩ := hf.exists_getElem? (i := t.stop - 1) (by omega) (by omega)
      have hc' : (as ++ bs)[t.stop - 1]? = some c := by
        rw [List.getElem?_append_left (by omega), hc]
      rw [hend] at hd
      have hpc := hr.all c hmem
      by_contra hpd
      rw [hseam p hp (t.stop - 1) c d (by omega) hc' hd (by simpa using hpd)] at hpc
      cases hpc
    · rw [List.getElem?_append_left hlt] at hd
      exact hr.behind d hd

theorem isRun_append_right {p : Char → Bool} (hp : p = inNumber ∨ p = isLetter)
    (hseam : Seam (as ++ bs) as.length) (hf : Fits bs t) (hr : IsRun p bs t) :
    IsRun p (as ++ bs) (t.shifted as.length) where
  all := hr.all
  before i c hi hc := by
    have hi : i + 1 = as.length + t.pos := hi
    rcases Nat.eq_zero_or_pos t.pos with hzero | hpos
    · -- the first character of the run is the first one behind the seam
      obtain ⟨d, hmem, hd⟩ := hf.exists_getElem? (Nat.le_refl _) hf.pos_lt_stop
      rw [hzero] at hd
      refine hseam p hp i c d (by omega) hc ?_ (hr.all d hmem)
      rw [List.getElem?_append_right (Nat.le_refl _), Nat.sub_self, hd]
    · obtain ⟨k, rfl⟩ : ∃ k, i = as.length + k := ⟨i - as.length, by omega⟩
      rw [List.getElem?_append_right (Nat.le_add_right _ _), Nat.add_sub_cancel_left] at hc
      exact hr.before k c (by omega) hc
  behind d hd := by
    rw [stop_shifted, List.getElem?_append_right (Nat.le_add_right _ _),
      Nat.add_sub_cancel_left] at hd
    exact hr.behind d hd

theorem fits_append_left (hseam : Seam (as ++ bs) as.length) (hf : Fits as t) :
    Fits (as ++ bs) t where
  text_ne_empty := hf.text_ne_empty
  spelled := by
    have hle := hf.stop_le
    unfold stop at hle
    rw [List.drop_append_of_le_length (by omega),
      List.take_append_of_le_length (by rw [List.length_drop]; omega), hf.spelled]
  shaped := hf.shaped.imp rfl rfl fun _ hp hr => isRun_append_left hp hseam hf hr

theorem fits_append_right (hseam : Seam (as ++ bs) as.length) (hf : Fits bs t) :
    Fits (as ++ bs) (t.shifted as.length) where
  text_ne_empty := hf.text_ne_empty
  spelled := by
    show ((as ++ bs).drop (as.length + t.pos)).take t.text.length = t.text.toList
    rw [List.drop_length_add_append, hf.spelled]
  shaped := hf.shaped.imp rfl rfl fun _ hp hr => isRun_append_right hp hseam hf hr

/-- **Texts that are put together at a seam have the tokens of both.** -/
theorem Covers.append {ts us : List Token} (has : Covers as 0 ts) (hbs : Covers bs 0 us)
    (hseam : Seam (as ++ bs) as.length) :
    Covers (as ++ bs) 0 (ts ++ us.map (shifted as.length)) where
  fits t ht := by
    refine ⟨Nat.zero_le _, ?_⟩
    rcases List.mem_append.mp ht with ht | ht
    · exact fits_append_left hseam (has.fits t ht).2
    · obtain ⟨u, hu, rfl⟩ := List.mem_map.mp ht
      exact fits_append_right hseam (hbs.fits u hu).2
  ordered := by
    refine List.pairwise_append.mpr ⟨has.ordered, ?_, fun t ht u hu => ?_⟩
    · rw [List.pairwise_map]
      refine hbs.ordered.imp fun h => ?_
      rw [stop_shifted]
      exact Nat.add_le_add_left h _
    · obtain ⟨u, -, rfl⟩ := List.mem_map.mp hu
      exact Nat.le_trans (has.fits t ht).2.stop_le (Nat.le_add_right _ _)
  blank i c _ hc hno := by
    by_cases hi : i < as.length
    · rw [List.getElem?_append_left hi] at hc
      exact has.blank i c (Nat.zero_le i) hc fun t ht => hno t (List.mem_append_left _ ht)
    · obtain ⟨k, rfl⟩ := Nat.exists_eq_add_of_le (Nat.le_of_not_lt hi)
      rw [List.getElem?_append_right (Nat.le_add_right _ _), Nat.add_sub_cancel_left] at hc
      refine hbs.blank k c (Nat.zero_le k) hc fun u hu hin => ?_
      refine hno (u.shifted as.length) (List.mem_append_right _ (List.mem_map_of_mem hu)) ?_
      rw [stop_shifted]
      exact ⟨Nat.add_le_add_left hin.1 _, Nat.add_lt_add_left hin.2 _⟩

end Append

/-! ### Texts of one token -/

/-- Nothing but blanks has no tokens. -/
theorem covers_nil {cs : List Char} (h : ∀ c ∈ cs, isBlank c = true) : Covers cs 0 [] where
  fits t ht := by cases ht
  ordered := .nil
  blank _ c _ hc _ := h c (List.mem_of_getElem? hc)

theorem stop_located (t : Token) : (t.located 0).stop = t.text.toList.length := by
  rw [String.length_toList]
  exact Nat.zero_add _

theorem covers_empty : Covers [] 0 [] :=
  covers_nil fun _ hc => nomatch hc

/-- The spelling of a token has that token. -/
theorem covers_toList {cs : List Char} {t : Token} (hf : Fits cs t) :
    Covers t.text.toList 0 [t.located 0] where
  fits u hu := by
    rw [List.mem_singleton.mp hu]
    refine ⟨Nat.zero_le _, hf.text_ne_empty, ?_, hf.shaped.imp rfl rfl fun p hp hr => ?_⟩
    · show t.text.toList.take t.text.length = t.text.toList
      rw [← String.length_toList, List.take_length]
    · refine ⟨hr.all, fun i c hi _ => (by cases hi), fun c hc => ?_⟩
      rw [stop_located, List.getElem?_eq_none (Nat.le_refl _)] at hc
      cases hc
  ordered := List.pairwise_singleton ..
  blank i c _ hc hno := by
    have hi := (List.getElem?_eq_some_iff.mp hc).1
    rw [← stop_located] at hi
    exact absurd ⟨Nat.zero_le i, hi⟩ (hno _ (List.mem_cons_self ..))

/-- A word has one token, which is a function or a variable. -/
theorem covers_word {c : Char} {cs : List Char} (h : ∀ d ∈ c :: cs, isLetter d = true) :
    Covers (c :: cs) 0
      [ofChars (wordKind (String.ofList (c :: cs))) c cs 0 (wordKind_ne_eof _)] := by
  have hall : cs.takeWhile isLetter = cs :=
    List.takeWhile_eq_self_iff.mpr fun d hd => h d (List.mem_cons_of_mem c hd)
  have hlead := @lead_of_isLetter c cs (h c (List.mem_cons_self ..))
  simp only [hall] at hlead
  have hend : Covers (c :: cs) (0 + 1 + cs.length) [] := by
    rw [show 0 + 1 + cs.length = (c :: cs).length by rw [List.length_cons]; omega]
    exact covers_length_iff.mpr rfl
  have hcov := (covers_of_lead_token (seam_zero (c :: cs)) rfl hlead).mpr ⟨[], rfl, hend⟩
  rwa [List.take_length] at hcov

theorem isLetter_of_mem_name (f : Trig) : ∀ c ∈ f.name.toList, isLetter c = true := by
  have hall : f.name.toList.all isLetter = true := by cases f <;> decide +kernel
  exact List.all_eq_true.mp hall

theorem covers_name (f : Trig) :
    ∃ t, Covers f.name.toList 0 [t] ∧ t.kind = .function ∧ t.text = f.name := by
  cases f with
  | cos => exact ⟨_, @covers_word 'c' ['o', 's'] (isLetter_of_mem_name .cos), rfl, rfl⟩
  | sin => exact ⟨_, @covers_word 's' ['i', 'n'] (isLetter_of_mem_name .sin), rfl, rfl⟩
  | tan => exact ⟨_, @covers_word 't' ['a', 'n'] (isLetter_of_mem_name .tan), rfl, rfl⟩

/-- The token of a mark. -/
def ofMark (kind : Kind) (c : Char) (pos : Nat) (h : markKind? c = some kind) : Token :=
  ofChars kind c [] pos (markKind?_ne_eof h)

theorem covers_ofMark {c : Char} {kind : Kind} (h : markKind? c = some kind) :
    Covers [c] 0 [ofMark kind c 0 h] :=
  (covers_of_lead_token (seam_zero _) rfl (lead_of_markKind? h)).mpr
    ⟨[], rfl, covers_length_iff.mpr rfl⟩

section Marks

variable {as bs : List Char} {ts us : List Token}

/-- A mark between two texts is a token of its own, whatever the texts are. -/
theorem Covers.mark {c : Char} {kind : Kind} (has : Covers as 0 ts) (hbs : Covers bs 0 us)
    (h : markKind? c = some kind) :
    Covers (as ++ c :: bs) 0
      (ts ++ ofMark kind c as.length h :: us.map (shifted (as.length + 1))) := by
  have hends : ∀ d, some c = some d → EndsRuns d := by
    rintro d ⟨⟩
    exact endsRuns_of_markKind? h
  have hmark : Covers (c :: bs) 0 (ofMark kind c 0 h :: us.map (shifted 1)) :=
    (covers_ofMark h).append hbs (seam_of_getLast? hends)
  have hall := has.append hmark (seam_of_head? hends)
  rwa [List.map_cons, map_shifted_shifted] at hall

/-- Parentheses around a text are tokens of their own, whatever stands before them. -/
theorem Covers.parenthesis (has : Covers as 0 ts) (hbs : Covers bs 0 us) :
    Covers (as ++ '(' :: (bs ++ [')'])) 0
      (ts ++ ofMark .lparen '(' as.length rfl :: (us.map (shifted (as.length + 1)) ++
        [ofMark .rparen ')' (as.length + 1 + bs.length) rfl])) := by
  have hclosed : Covers (bs ++ [')']) 0 (us ++ [ofMark .rparen ')' bs.length rfl]) :=
    hbs.mark covers_empty rfl
  have hall := has.mark hclosed (rfl : markKind? '(' = some .lparen)
  rwa [List.map_append] at hall

end Marks

end Calculator.Token
