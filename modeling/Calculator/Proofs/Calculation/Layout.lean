import Calculator.Proofs.Calculation.Queries
import Calculator.Proofs.Evaluation.Positions
import Calculator.Proofs.Grammar.Draft
import Calculator.Proofs.Token.Layout
import Calculator.Resolver.Script

/-!
# Layouts of a text

A text whose tokens are laid out in another way is calculated as before (`calculateWithin_laidOut`):
the same is queried and reported, and the value is the same; errors are the same, but that they
show the other text, and those that are placed at a token are placed at it where it stands there.
-/

namespace Calculator

open Evaluation

/-- Whether results of the calculations of two texts are the same, but for where their tokens stand.
Errors in `own` are the resolver's own. -/
inductive SameButPlace (source source' : String) (tokens tokens' : List Token)
    (own : Error → Prop) : Except Failure Float → Except Failure Float → Prop
  | value {x : Float} : SameButPlace source source' tokens tokens' own (.ok x) (.ok x)
  | fault {f : Fault} :
      SameButPlace source source' tokens tokens' own (.error (.fault f)) (.error (.fault f))
  /-- An error that has no place. -/
  | unplaced {cause : Error.Cause} :
      SameButPlace source source' tokens tokens' own (.error (.error { cause }))
        (.error (.error { cause }))
  /-- An error at one of the tokens. -/
  | placed {i : Nat} {t t' : Token} {cause : Error.Cause} (h : tokens[i]? = some t)
      (h' : tokens'[i]? = some t') :
      SameButPlace source source' tokens tokens' own
        (.error (.error { cause, pos := some t.pos, excerpt := some ⟨source, t.pos⟩ }))
        (.error (.error { cause, pos := some t'.pos, excerpt := some ⟨source', t'.pos⟩ }))
  /-- An error of the resolver's own, wherever it may be placed. -/
  | own {e : Error} (h : own e) :
      SameButPlace source source' tokens tokens' own
        (.error (.error (e.attachSource source))) (.error (.error (e.attachSource source')))

variable {source source' : String} {tokens tokens' : List Token} {own : Error → Prop}

/-- Whether tokens are those of two rows at the same index. -/
def Corresponds (tokens tokens' : List Token) (t t' : Token) : Prop :=
  t.Alike t' ∧ ∃ i : Nat, tokens[i]? = some t ∧ tokens'[i]? = some t'

/-- Rows of tokens that are alike correspond to each other. -/
theorem corresponds_of_alike (h : List.Forall₂ Token.Alike tokens tokens') :
    List.Forall₂ (Corresponds tokens tokens') tokens tokens' := by
  rw [List.forall₂_iff_get] at h ⊢
  refine ⟨h.1, fun i hi hi' => ⟨h.2 i hi hi', i, ?_, ?_⟩⟩
  · exact List.getElem?_eq_getElem hi
  · exact List.getElem?_eq_getElem hi'

/-- Results of evaluations that are alike are shown in the texts of their tokens. -/
theorem sameButPlace_of_alike {r r' : Except Failure Float}
    (h : ResultAlike (Corresponds tokens tokens') own r r') :
    SameButPlace source source' tokens tokens' own (r.mapError (Failure.attachSource source))
      (r'.mapError (Failure.attachSource source')) := by
  cases h with
  | value => exact .value
  | failure h =>
    cases h with
    | placed h =>
      obtain ⟨-, i, ht, ht'⟩ := h
      exact .placed ht ht'
    | unplaced => exact .unplaced
    | fault => exact .fault
    | own h => exact .own h

theorem arranged_alike (n : Nat) (row : List (Token × String)) :
    List.Forall₂ Token.Alike (row.map Prod.fst) (Token.arranged n row) := by
  induction row generalizing n with
  | nil => exact .nil
  | cons entry row ih => exact .cons ⟨rfl, rfl⟩ (ih _)

/-- **The layout of a text does not matter**: take the tokens of a text, write their spellings one
behind the other, and put gaps of blanks before, between and behind them, of which those between two
numbers or between two words may not be empty.  The new text has tokens of the same kinds and
spellings, each at the position where its spelling stands, and its end.  Its calculation leaves the
same behind, queries and state of the resolver included, and it has the same value or the same
error, placed at the same token; only an error that the resolver itself has placed stays there. -/
theorem calculateWithin_laidOut {σ : Type} (R : Resolver σ) (limit : Nat) (state : σ)
    (source first : String) (row : List (Token × String))
    (hlex : Token.ofText source = .ok (row.map Prod.fst ++ [Token.atEnd source.length]))
    (hblank : ∀ gap ∈ first :: row.map Prod.snd, ∀ c ∈ gap.toList, Text.isBlank c = true)
    (hgaps : row.IsChain fun entry next => Token.NeedsGap entry.1 next.1 → entry.2 ≠ "") :
    let source' := first ++ Token.laidOut row
    let tokens := row.map Prod.fst ++ [Token.atEnd source.length]
    let tokens' := Token.arranged first.length row ++ [Token.atEnd source'.length]
    let outcome := calculateWithin R limit state source
    let outcome' := calculateWithin R limit state source'
    Token.ofText source' = .ok tokens' ∧
      (∀ (i : Nat) (t : Token) (gap : String), row[i]? = some (t, gap) →
        tokens'[i]? = some (t.located (first ++ Token.laidOut (row.take i)).length)) ∧
      outcome'.log = outcome.log ∧ outcome'.cursor = outcome.cursor ∧
      SameButPlace source source' tokens tokens'
        (R.AnswersWith state outcome.log.queries.toList) outcome.result outcome'.result := by
  intro source' tokens tokens' outcome outcome'
  have hlex' : Token.ofText source' = .ok tokens' := by
    obtain ⟨body, hcov, htokens⟩ := Token.ofText_eq_ok_iff_covers.mp hlex
    have hbody : row.map Prod.fst = body := List.append_inj_left' htokens rfl
    have hfits : ∀ entry ∈ row, Token.Fits source.toList entry.1 := fun entry he =>
      (hcov.fits entry.1 (hbody ▸ List.mem_map_of_mem he)).2
    exact Token.ofText_laidOut hfits hblank hgaps
  have halike : List.Forall₂ Token.Alike tokens tokens' :=
    List.rel_append (arranged_alike first.length row) (.cons ⟨rfl, rfl⟩ .nil)
  have hsame := evaluate_alike (fun _ _ h => h.1) R limit state (corresponds_of_alike halike)
  have hlog : outcome.log = (evaluate R limit state tokens).log := log_calculateWithin hlex
  refine ⟨hlex', fun i t gap hi => ?_, ?_, ?_, ?_⟩
  · have hget := Token.getElem?_arranged (n := first.length) hi
    rw [List.getElem?_append_left (List.getElem?_eq_some_iff.mp hget).1, hget, String.length_append]
  · rw [hlog, show outcome'.log = _ from log_calculateWithin hlex', hsame.log]
  · rw [show outcome'.cursor = _ from cursor_calculateWithin hlex',
      show outcome.cursor = _ from cursor_calculateWithin hlex, hsame.cursor]
  · rw [hlog, show outcome.result = _ from result_calculateWithin hlex,
      show outcome'.result = _ from result_calculateWithin hlex']
    exact sameButPlace_of_alike hsame.result

/-- The tokens of `8/x y`, with gaps behind them. -/
def quotientRow : List (Token × String) :=
  [(Grammar.spelled .number '8' 0, ""), (Grammar.spelled .operator '/' 1, " "),
    (Grammar.spelled .variable 'x' 2, "\t "), (Grammar.spelled .variable 'y' 4, "")]

/-- ` 8/ x\t y` has the tokens of `8/x y`, and the same is queried before the `y`, which cannot
stand there. -/
theorem calculateWithin_laidOut_quotient :
    let answers : Script := { steps := [.ok (.float 2.0)] }
    let outcome := calculateWithin Script.resolver 1 answers "8/x y"
    let outcome' := calculateWithin Script.resolver 1 answers " 8/ x\t y"
    Token.ofText "8/x y" = .ok (quotientRow.map Prod.fst ++ [Token.atEnd 5]) ∧
      (∀ gap ∈ " " :: quotientRow.map Prod.snd, ∀ c ∈ gap.toList, Text.isBlank c = true) ∧
      (quotientRow.IsChain fun entry next => Token.NeedsGap entry.1 next.1 → entry.2 ≠ "") ∧
      Token.ofText " 8/ x\t y" = .ok (Token.arranged 1 quotientRow ++ [Token.atEnd 8]) ∧
      outcome.log.queries = #["x"] ∧ outcome'.log.queries = #["x"] := by
  intro answers outcome outcome'
  have hlex : Token.ofText "8/x y" = .ok (quotientRow.map Prod.fst ++ [Token.atEnd 5]) := by
    decide +kernel
  have hall :
      ((" " :: quotientRow.map Prod.snd).all fun gap => gap.toList.all Text.isBlank) = true := by
    decide +kernel
  have hblank : ∀ gap ∈ " " :: quotientRow.map Prod.snd, ∀ c ∈ gap.toList, Text.isBlank c = true :=
    fun gap hgap => List.all_eq_true.mp (List.all_eq_true.mp hall gap hgap)
  have hgaps : quotientRow.IsChain fun entry next =>
      Token.NeedsGap entry.1 next.1 → entry.2 ≠ "" := by
    decide
  have hqueries : outcome.log.queries = #["x"] := by decide +kernel
  obtain ⟨hlex', -, hlog, -, -⟩ :=
    calculateWithin_laidOut Script.resolver 1 answers "8/x y" " " quotientRow hlex hblank hgaps
  exact ⟨hlex, hblank, hgaps, hlex', hqueries, (congrArg Transcript.queries hlog).trans hqueries⟩

end Calculator
