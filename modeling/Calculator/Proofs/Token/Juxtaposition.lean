import Calculator.Proofs.Token.Concatenation
import Calculator.Proofs.Token.Stray

/-!
# Texts one behind the other

Reading a text is compatible with putting texts one behind the other, with blanks between them or
where no number and no name goes on from one to the other (`ofText_append`): the first text's error
is that of the whole, the second text's error moves on by what stands before it, and so do its
tokens, which follow those of the first text.
-/

namespace Calculator.Token

open Calculator.Text

section Append

variable {first gap second : String} {ts us : List Token} {e : Error}

theorem toList_append_append :
    (first ++ gap ++ second).toList = first.toList ++ (gap.toList ++ second.toList) := by
  rw [String.toList_append, String.toList_append, List.append_assoc]

/-- Nothing that stands behind an error changes it. -/
theorem ofText_append_of_error (he : ofText first = .error e) :
    ofText (first ++ gap ++ second) = .error e := by
  obtain ⟨before, c, after, hfirst, hbefore, hstray, rfl⟩ :=
    ofText_eq_error_iff_exists_append.mp he
  refine ofText_eq_error_iff_exists_append.mpr
    ⟨before, c, after ++ (gap.toList ++ second.toList), ?_, hbefore, hstray, rfl⟩
  rw [toList_append_append, hfirst, List.append_assoc, List.cons_append]

/-- An error is as far behind what stands before it as it was from the start. -/
theorem ofText_append_of_ok_of_error (hblank : ∀ c ∈ gap.toList, isBlank c = true)
    (hts : ofText first = .ok ts) (he : ofText second = .error e) :
    ofText (first ++ gap ++ second) =
      .error { e with pos := e.pos.map (first.length + gap.length + ·) } := by
  obtain ⟨before, c, after, hsecond, hbefore, hstray, rfl⟩ :=
    ofText_eq_error_iff_exists_append.mp he
  refine ofText_eq_error_iff_exists_append.mpr
    ⟨first.toList ++ (gap.toList ++ before), c, after, ?_, ?_, hstray, ?_⟩
  · rw [toList_append_append, hsecond]
    simp only [List.append_assoc]
  · intro d hd
    rcases List.mem_append.mp hd with hd | hd
    · exact isStray_of_ofText_eq_ok hts d hd
    · rcases List.mem_append.mp hd with hd | hd
      · simp [isStray, hblank d hd]
      · exact hbefore d hd
  · have hplace : (first.toList ++ (gap.toList ++ before)).length =
        first.length + gap.length + before.length := by
      simp only [List.length_append, String.length_toList, Nat.add_assoc]
    rw [hplace]
    rfl

/-- Tokens follow one another where no run goes on over the gap. -/
theorem ofText_append_of_ok (hblank : ∀ c ∈ gap.toList, isBlank c = true)
    (hseam : Seam (first.toList ++ (gap.toList ++ second.toList)) first.toList.length)
    (hts : ofText first = .ok ts) (hus : ofText second = .ok us) :
    ofText (first ++ gap ++ second) =
      .ok (ts.dropLast ++ us.map (shifted (first.length + gap.length))) := by
  obtain ⟨body, hbody, rfl⟩ := ofText_eq_ok_iff_covers.mp hts
  obtain ⟨rest, hrest, rfl⟩ := ofText_eq_ok_iff_covers.mp hus
  have hgap : Covers (gap.toList ++ second.toList) 0 (rest.map (shifted gap.toList.length)) :=
    (covers_nil hblank).append hrest
      (seam_of_getLast? fun c hc => endsRuns_of_isBlank (hblank c (List.mem_of_getLast? hc)))
  have hwhole := hbody.append hgap hseam
  rw [map_shifted_shifted, String.length_toList, String.length_toList] at hwhole
  refine ofText_eq_ok_iff_covers.mpr ⟨_, toList_append_append ▸ hwhole, ?_⟩
  have hend : (atEnd second.toList.length).shifted (first.length + gap.length) =
      atEnd (first ++ gap ++ second).toList.length := by
    refine eq_of_fields rfl rfl ?_
    rw [toList_append_append]
    simp only [shifted, atEnd, List.length_append, String.length_toList, Nat.add_assoc]
  rw [List.dropLast_concat, List.map_append, List.map_singleton, hend, List.append_assoc]

end Append

/-- **Texts are read one behind the other**, if there are blanks between them or no number and no
name goes on from the first to the second.  An error of the first text is one of the whole; if the
first text has tokens, an error of the second text moves on by what stands before it; and if both
have tokens, those of the whole are those of the first without its end and behind them those of the
second, all moved on. -/
theorem ofText_append (first gap second : String) (hblank : ∀ c ∈ gap.toList, isBlank c = true)
    (hgap : gap ≠ "" ∨ ∀ c d, first.toList.getLast? = some c → second.toList.head? = some d →
      ¬ (inNumber c = true ∧ inNumber d = true) ∧ ¬ (isLetter c = true ∧ isLetter d = true)) :
    let whole := first ++ gap ++ second
    let offset := first.length + gap.length
    (∀ e, ofText first = .error e → ofText whole = .error e) ∧
      (∀ ts e, ofText first = .ok ts → ofText second = .error e →
        ofText whole = .error { e with pos := e.pos.map (offset + ·) }) ∧
      (∀ ts us, ofText first = .ok ts → ofText second = .ok us →
        ofText whole = .ok (ts.dropLast ++ us.map (shifted offset))) := by
  intro whole offset
  refine ⟨fun e => ofText_append_of_error, fun ts e => ofText_append_of_ok_of_error hblank,
    fun ts us => ofText_append_of_ok hblank (seam_append ?_)⟩
  intro p hp c d hc hd hpd
  cases hfirst : gap.toList with
  | cons b bs =>
    -- the first blank of the gap ends all runs
    rw [hfirst, List.cons_append, List.head?_cons, Option.some_inj] at hd
    have hends := endsRuns_of_isBlank (hblank b (hfirst ▸ List.mem_cons_self ..))
    rw [hd] at hends
    rw [hends.eq_false hp] at hpd
    cases hpd
  | nil =>
    have hempty : gap = "" := String.toList_eq_nil_iff.mp hfirst
    rw [hfirst, List.nil_append] at hd
    have hmeet := (hgap.resolve_left (absurd hempty)) c d hc hd
    rw [Bool.eq_false_iff]
    intro hpc
    rcases hp with rfl | rfl
    · exact hmeet.1 ⟨hpc, hpd⟩
    · exact hmeet.2 ⟨hpc, hpd⟩

/-- A name goes on from no number, so that the tokens of `1.` and `x` are those of `1.x`. -/
theorem ofText_append_numberName :
    ofText "1." = .ok [ofChars .number '1' ['.'] 0 (by simp), atEnd 2] ∧
      ofText "x" = .ok [ofChars .variable 'x' [] 0 (by simp), atEnd 1] ∧
      ofText "1.x" = .ok [ofChars .number '1' ['.'] 0 (by simp),
        ofChars .variable 'x' [] 2 (by simp), atEnd 3] := by
  have hnumber : ofText "1." = .ok [ofChars .number '1' ['.'] 0 (by simp), atEnd 2] := by
    decide +kernel
  have hname : ofText "x" = .ok [ofChars .variable 'x' [] 0 (by simp), atEnd 1] := by
    decide +kernel
  have happend := ofText_append "1." "" "x" (fun _ hc => nomatch hc) (.inr ?_)
  · exact ⟨hnumber, hname, happend.2.2 _ _ hnumber hname⟩
  · rintro c d ⟨⟩ ⟨⟩
    decide +kernel

end Calculator.Token
