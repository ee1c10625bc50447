import Calculator.Proofs.Calculation.Queries
import Calculator.Proofs.Evaluation.Placement
import Calculator.Proofs.Token.Stray

/-!
# Where a calculation places its errors

An error of a calculation is shown with an excerpt of the text exactly if it has a position, and the
position is that of a character that belongs to no token, or of the token that the error is about;
the spelling that the message reports stands there (`calculateWithin_placed`).
-/

namespace Calculator

open Evaluation

/-! ### Errors with an excerpt -/

namespace Error

/-- The spelling of a token that the wording of a cause reports. -/
def Cause.spelling? : Cause → Option String
  | malformedNumber text => some text
  | malformedExpression (.unexpectedToken text) => some text
  | unresolvedVariable text (.failed _) => some text
  | _ => none

theorem Cause.message_of_spelling? {cause : Cause} {text : String}
    (h : cause.spelling? = some text) :
    cause.message = "Malformed number: " ++ Text.quoted text ∨
      cause.message = "unexpected token: " ++ text ∨
      ∃ reason, cause.message = "Cannot resolve variable " ++ text ++ ": " ++ reason := by
  unfold spelling? at h
  split at h
  · cases h
    exact .inl rfl
  · cases h
    exact .inr (.inl rfl)
  · cases h
    exact .inr (.inr ⟨_, rfl⟩)
  · cases h

theorem attachSource_of_pos_eq_none {e : Error} (h : e.pos = none) (source : String) :
    e.attachSource source = e := by
  unfold attachSource
  rw [h]

theorem text_of_excerpt_eq_none {e : Error} (h : e.excerpt = none) : e.text = e.message := by
  unfold text
  rw [h]

end Error

/-- The spelling that is reported of a token is its own. -/
theorem Evaluation.spelling?_of_causes {t : Token} {cause : Error.Cause} {text : String}
    (h : Causes t cause) (htext : cause.spelling? = some text) : text = t.text := by
  cases h with
  | malformedNumber | unexpectedToken | failed =>
    cases htext
    rfl
  | @unclosed opener => cases opener <;> cases htext
  | noArgument | unknownFunction => cases htext

/-! ### Tokens in their text -/

/-- A token is spelled in the text from its position on, and the end stands behind the text. -/
theorem Token.spelled_of_mem {source : String} {tokens : List Token} {t : Token}
    (h : Token.ofText source = .ok tokens) (ht : t ∈ tokens) :
    t.pos ≤ source.length ∧ t.text.toList <+: source.toList.drop t.pos ∧
      (t.text = "" ↔ t.pos = source.length) := by
  obtain ⟨body, hcov, rfl⟩ := Token.ofText_eq_ok_iff_covers.mp h
  rcases List.mem_append.mp ht with ht | ht
  · have hfits := (hcov.fits t ht).2
    have hlt : t.pos < source.length := by
      have := hfits.pos_lt_stop
      have := hfits.stop_le
      rw [← String.length_toList]
      omega
    refine ⟨hlt.le, ?_, ?_⟩
    · rw [← hfits.spelled]
      exact List.take_prefix _ _
    · exact iff_of_false hfits.text_ne_empty hlt.ne
  · rw [List.mem_singleton.mp ht]
    refine ⟨String.length_toList.le, ?_, ?_⟩
    · exact List.nil_prefix
    · exact iff_of_true rfl String.length_toList

/-- Where a position of an error may be: at the first character that belongs to no token, or at a
token that the error is about. -/
inductive PlacedIn (source : String) : Error.Cause → Nat → Prop
  | character {c : Char} {pos : Nat} (h : source.toList[pos]? = some c)
      (first : source.toList.findIdx? Token.isStray = some pos) :
      PlacedIn source (.unexpectedCharacter c.toString) pos
  | token {tokens : List Token} {t : Token} {cause : Error.Cause}
      (lexed : Token.ofText source = .ok tokens) (mem : t ∈ tokens) (h : Causes t cause) :
      PlacedIn source cause t.pos

/-- **Errors are placed where they belong**, provided that the resolver neither places its errors
nor shows excerpts.  An error with a position shows the text there, under its message, and the
position is that of the first character that belongs to no token, or of a token that the error is
about.  If the message reports the spelling of a token, then the text goes on with that spelling
from the position on, and it is empty exactly at the end.  An error without a position is shown by
its message alone; it is about a quotient, about the depth of the expression, or the resolver's
own. -/
theorem calculateWithin_placed {σ : Type} (R : Resolver σ)
    (hR : ∀ state name e, (R.resolve state name).answer = .error (.error e) →
      e.pos = none ∧ e.excerpt = none) (limit : Nat) (state : σ) (source : String) (e : Error)
    (he : (calculateWithin R limit state source).result = .error (.error e)) :
    (∀ pos, e.pos = some pos →
      pos ≤ source.length ∧ e.excerpt = some ⟨source, pos⟩ ∧
        e.text = e.message ++ "\n" ++ Excerpt.format ⟨source, pos⟩ ∧
        PlacedIn source e.cause pos ∧
        ∀ text, e.cause.spelling? = some text →
          text.toList <+: source.toList.drop pos ∧ (text = "" ↔ pos = source.length) ∧
            (e.message = "Malformed number: " ++ Text.quoted text ∨
              e.message = "unexpected token: " ++ text ∨
              ∃ reason, e.message = "Cannot resolve variable " ++ text ++ ": " ++ reason)) ∧
      (e.pos = none →
        e.excerpt = none ∧ e.text = e.message ∧
          (e.cause = .divisionByZero ∨ e.cause = .nestingTooDeep ∨
            R.AnswersWith state (calculateWithin R limit state source).log.queries.toList e)) := by
  cases hlex : Token.ofText source with
  | error e' =>
    -- the text has no tokens, and nothing has been queried
    obtain ⟨pos, c, hfirst, hc, rfl⟩ := Token.ofText_eq_error_iff.mp hlex
    rw [calculateWithin, hlex] at he
    cases he
    refine ⟨?_, fun h => by cases h⟩
    rintro _ ⟨⟩
    have hle : pos ≤ source.length := by
      rw [← String.length_toList]
      exact (List.getElem?_eq_some_iff.mp hc).1.le
    refine ⟨hle, rfl, rfl, .character hc hfirst, ?_⟩
    rintro text ⟨⟩
  | ok tokens =>
    rw [log_calculateWithin hlex]
    rw [result_calculateWithin hlex] at he
    obtain ⟨f, hf, hfe⟩ := mapError_eq_error.mp he
    -- the excerpt is attached to what the evaluation has failed with, if that has a position
    cases placed_of_evaluate hf with
    | @token t cause mem h =>
      cases hfe
      obtain ⟨hle, hspelled, hempty⟩ := Token.spelled_of_mem hlex mem
      refine ⟨?_, fun hpos => by cases hpos⟩
      rintro _ ⟨⟩
      refine ⟨hle, rfl, rfl, .token hlex mem h, fun text htext => ?_⟩
      rw [spelling?_of_causes h htext]
      exact ⟨hspelled, hempty, spelling?_of_causes h htext ▸ Error.Cause.message_of_spelling? htext⟩
    | divisionByZero =>
      cases hfe
      refine ⟨?_, fun _ => ⟨rfl, rfl, .inl rfl⟩⟩
      rintro _ ⟨⟩
    | nestingTooDeep =>
      cases hfe
      refine ⟨?_, fun _ => ⟨rfl, rfl, .inr (.inl rfl)⟩⟩
      rintro _ ⟨⟩
    | @own e' hown =>
      -- the resolver has not placed it, so nothing is added to it
      obtain ⟨x, hx, hanswer⟩ := id hown
      obtain ⟨hpos, hexcerpt⟩ := hR x.before x.name e' <| by
        rw [← R.reply_of_mem_exchanges hx, hanswer]
      have hsame : e = e' := by
        cases hfe
        exact Error.attachSource_of_pos_eq_none hpos source
      subst hsame
      refine ⟨fun pos h => ?_, fun _ => ?_⟩
      · rw [hpos] at h
        cases h
      · exact ⟨hexcerpt, Error.text_of_excerpt_eq_none hexcerpt, .inr (.inr hown)⟩
    | fault => cases hfe

/-- A table of values places no error. -/
theorem pos_of_table {bindings : Bindings Value} {name : String} {e : Error}
    (h : (Resolver.table.resolve bindings name).answer = .error (.error e)) :
    e.pos = none ∧ e.excerpt = none := by
  unfold Resolver.table at h
  dsimp only at h
  split at h
  · cases h
  · cases h
    exact ⟨rfl, rfl⟩

/-- In `2*(x+1.2.3)` the malformed number is shown where it stands, and in `2*(x+` the end of the
text. -/
theorem calculateWithin_placed_malformed :
    let bindings := Bindings.ofList [("x", Value.float 2.0)]
    let number : Error := ⟨.malformedNumber "1.2.3", some 5, some ⟨"2*(x+1.2.3)", 5⟩⟩
    let ending : Error := ⟨.malformedExpression (.unexpectedToken ""), some 5, some ⟨"2*(x+", 5⟩⟩
    (∀ state name e, (Resolver.table.resolve state name).answer = .error (.error e) →
      e.pos = none ∧ e.excerpt = none) ∧
      (calculateWithin Resolver.table 1 bindings "2*(x+1.2.3)").result = .error (.error number) ∧
      number.text = "Malformed number: '1.2.3'\n" ++ Excerpt.format ⟨"2*(x+1.2.3)", 5⟩ ∧
      "1.2.3".toList <+: "2*(x+1.2.3)".toList.drop 5 ∧
      (calculateWithin Resolver.table 1 bindings "2*(x+").result = .error (.error ending) ∧
      (5 = "2*(x+".length) := by
  intro bindings number ending
  have hR := fun state name e => @pos_of_table state name e
  have hnumber : (calculateWithin Resolver.table 1 bindings "2*(x+1.2.3)").result =
      .error (.error number) := by decide +kernel
  have hending : (calculateWithin Resolver.table 1 bindings "2*(x+").result =
      .error (.error ending) := by decide +kernel
  obtain ⟨-, -, htext, -, hspelled⟩ :=
    (calculateWithin_placed Resolver.table hR 1 bindings _ number hnumber).1 5 rfl
  obtain ⟨-, -, -, -, hempty⟩ :=
    (calculateWithin_placed Resolver.table hR 1 bindings _ ending hending).1 5 rfl
  have hquoted : number.message = "Malformed number: '1.2.3'" := by decide +kernel
  refine ⟨hR, hnumber, ?_, (hspelled "1.2.3" rfl).1, hending, (hempty "" rfl).2.1.mp rfl⟩
  rw [htext, hquoted]
  rfl

end Calculator
