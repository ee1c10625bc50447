import Calculator.Evaluation.Cursor
import Calculator.Proofs.Decimal.Reading
import Calculator.Proofs.Decimal.Rounding
import Calculator.Proofs.Token.Tokenization

/-!
# The value of a number token

A number token is any run of digits and points, and only evaluation decides whether it is a written
number (`perform_read_number`): it is one if it has a digit and no second point, and then its value
is the correctly rounded one of its digits, whatever their scripts.
-/

namespace Calculator

open Text

/-! ### Written values -/

namespace Decimal

/-- The number that digits around one point stand for, where the digits of all scripts count. -/
def writtenValue (cs : List Char) : ℚ :=
  (Nat.ofDigits 10 (cs.filterMap digitValue?).reverse : Nat) /
    10 ^ (cs.dropWhile (· ≠ '.')).countP isDigit

theorem digitsValue_filter (cs : List Char) :
    digitsValue (cs.filter isDigit) = Nat.ofDigits 10 (cs.filterMap digitValue?).reverse := by
  -- the last digit is the first one of `Nat.ofDigits`
  induction cs using List.reverseRecOn with
  | nil => rfl
  | append_singleton cs c ih =>
    rw [List.filter_append, List.filterMap_append, List.reverse_append]
    cases hc : digitValue? c with
    | none =>
      have hdigit : isDigit c = false := by rw [isDigit, hc]; rfl
      simp [hdigit, hc, ih]
    | some n =>
      have hdigit : isDigit c = true := by rw [isDigit, hc]; rfl
      rw [digitsValue] at ih
      simp [digitsValue, hdigit, hc, ih, Nat.ofDigits_cons, Nat.add_comm]

theorem value_written (cs : List Char) : (written cs).value = writtenValue cs := by
  unfold Numeral.value written writtenValue
  dsimp only
  rw [digitsValue_filter, zpow_neg, zpow_natCast, div_eq_mul_inv]

end Decimal

namespace Evaluation

variable {σ : Type}

/-! ### Reading a number -/

theorem run_number (R : Resolver σ) (limit index : Nat) (log : Transcript σ) {t : Token}
    (ts : List Token) (hk : t.kind = .number) :
    run R limit .factor {} index log (t :: ts) = ⟨numberValue t, index + 1, log⟩ := by
  have hread : State.on {} limit .factor t =
      .ofExcept ((numberValue t).bind ({} : State).factor) := by
    simp only [State.on, State.onOperand, hk]
  rw [run, hread]
  cases numberValue t with
  | error e => rfl
  | ok x =>
    cases ts with
    | nil => rfl
    | cons u us => rfl

/-- The tokens of numbers are made of digits and points. -/
theorem inNumber_of_mem {source : String} {tokens : List Token} {t : Token}
    (hlex : Token.ofText source = .ok tokens) (ht : t ∈ tokens) (hk : t.kind = .number) :
    ∀ c ∈ t.text.toList, Token.inNumber c = true := by
  obtain ⟨body, hcov, rfl⟩ := Token.ofText_eq_ok_iff_covers.mp hlex
  rcases List.mem_append.mp ht with ht | ht
  · have hs := (hcov.fits t ht).2.shaped
    rw [Token.IsShaped, hk] at hs
    exact hs.all
  · rw [List.mem_singleton.mp ht] at hk
    cases hk

/-- **A number token is a written number exactly if it has a digit and no second point.**  If it has
no digit or at least two points, it is a malformed number; otherwise its value is the float that its
text is read as, the same as with the digits of all scripts written as ASCII ones: the number that
the digits stand for, correctly rounded, which is neither undefined nor negative.  Only this token
is read, and nothing is asked or reported. -/
theorem perform_read_number {source : String} {tokens : List Token} {i : Nat} {t : Token}
    (hlex : Token.ofText source = .ok tokens) (ht : tokens[i]? = some t) (hk : t.kind = .number)
    (R : Resolver σ) (limit : Nat) (log : Transcript σ) :
    let (answer, cursor, log') :=
      Cursor.perform R limit { tokens, index := i } log (.read .factor)
    let cs := t.text.toList
    let malformed := (∀ c ∈ cs, isDigit c = false) ∨ 2 ≤ cs.count '.'
    cursor = { tokens, index := i + 1 } ∧ log' = log ∧
      (malformed → answer =
        .error (.error { cause := .malformedNumber t.text, pos := some t.pos })) ∧
      (¬ malformed → ∃ x, answer = .ok (.number x) ∧ Decimal.float? t.text = some x ∧
        Decimal.float? (String.ofList (cs.map Decimal.asciiDigit)) = some x ∧
        Decimal.IsRounded (Decimal.writtenValue cs) x ∧ x.isNaN = false ∧ 0.0 ≤ x) := by
  have hchars := inNumber_of_mem hlex (List.mem_of_getElem? ht) hk
  have hfloat := Decimal.float?_of_inNumber hchars
  rw [Decimal.numeral?_of_inNumber hchars] at hfloat
  have hnone : t.text.toList.any isDigit = false ↔ ∀ c ∈ t.text.toList, isDigit c = false := by
    simp only [List.any_eq_false, Bool.not_eq_true]
  obtain ⟨hlt, rfl⟩ := List.getElem?_eq_some_iff.mp ht
  have hrun : run R limit .factor {} i log (tokens.drop i) =
      ⟨numberValue tokens[i], i + 1, log⟩ := by
    rw [List.drop_eq_getElem_cons hlt]
    exact run_number R limit i log _ hk
  dsimp only [Cursor.perform]
  rw [hrun]
  refine ⟨rfl, rfl, fun hmalformed => ?_, fun hmalformed => ?_⟩
  · rw [if_pos (hmalformed.imp_left hnone.mpr)] at hfloat
    rw [numberValue, hfloat]
    rfl
  · rw [if_neg (mt (Or.imp_left hnone.mp) hmalformed)] at hfloat
    have hrounded := Decimal.isRounded_toFloat (Decimal.written tokens[i].text.toList)
    rw [Decimal.value_written] at hrounded
    refine ⟨_, ?_, hfloat, ?_, hrounded, hrounded.nonneg ?_⟩
    · rw [numberValue, hfloat]
      rfl
    · rw [Decimal.float?_map_asciiDigit hchars, String.ofList_toList]
      exact hfloat
    · rw [← Decimal.value_written]
      exact Decimal.Numeral.value_nonneg _

/-- Digits of two scripts make one number, and a second point spoils it. -/
theorem perform_read_number_mixedScripts :
    let tokens := [Token.ofChars .number '1' ['٣', '.', '5'] 0 (by simp),
      Token.ofChars .operator '+' [] 4 (by simp), Token.ofChars .number '.' ['1', '.'] 5 (by simp),
      Token.atEnd 8]
    Token.ofText "1٣.5+.1." = .ok tokens ∧
      (Cursor.perform Resolver.table 1 { tokens } { state := {} } (.read .factor)).1 =
        .ok (.number 13.5) ∧
      Decimal.IsRounded (Decimal.writtenValue ['1', '٣', '.', '5']) 13.5 ∧
      (Cursor.perform Resolver.table 1 { tokens, index := 2 } { state := {} } (.read .factor)).1 =
        .error (.error { cause := .malformedNumber ".1.", pos := some 5 }) := by
  intro tokens
  have hlex : Token.ofText "1٣.5+.1." = .ok tokens := by decide +kernel
  have hvalue : Decimal.float? "1٣.5" = some 13.5 := by decide +kernel
  have hspelled : ¬ ((∀ c ∈ "1٣.5".toList, isDigit c = false) ∨ 2 ≤ "1٣.5".toList.count '.') := by
    rintro (hnone | hcount)
    · exact absurd (hnone '1' (by decide +kernel)) (by decide)
    · exact absurd hcount (by decide +kernel)
  obtain ⟨-, -, -, hwell⟩ :=
    perform_read_number (i := 0) hlex rfl rfl Resolver.table 1 { state := {} }
  obtain ⟨-, -, hmalformed, -⟩ :=
    perform_read_number (i := 2) hlex rfl rfl Resolver.table 1 { state := {} }
  obtain ⟨x, hanswer, hx, -, hrounded, -⟩ := hwell hspelled
  cases hvalue.symm.trans hx
  exact ⟨hlex, hanswer, hrounded, hmalformed (.inr (by decide +kernel))⟩

end Evaluation

end Calculator
