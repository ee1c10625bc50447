import Calculator.Grammar
import Calculator.Proofs.Evaluation.Action

/-!
# Drafts of expressions

A draft is what has been read of an expression, kept as the trees of its finished parts.  Reading a
token (`Draft.Reads`) is deterministic and loses no token, so the tokens of a tree lead to that tree
and to no other: no list of tokens has two trees (`expression_eq_of_tokens_eq`).

A list of tokens is a *sentence* if it consists of the tokens of some expression.  What a draft has
read can always be completed to a sentence (`exists_sentence_of_readsAll`), and a token that it
cannot read ends no beginning of a sentence (`not_sentence_of_not_reads`).
-/

namespace Calculator.Grammar

open Calculator.Evaluation

/-- Whether a list of tokens is an expression. -/
def Sentence (ts : List Token) : Prop :=
  ∃ e : Expression, e.tokens = ts

/-- The token of a kind that is spelled by one character; the end is spelled by none. -/
def spelled (kind : Token.Kind) (c : Char) (pos : Nat) : Token :=
  if h : kind = .eof then .atEnd pos else .ofChars kind c [] pos h

/-- An operator between terms. -/
abbrev SumToken :=
  { op : Token // (sumOp? op).isSome }

/-- An operator between factors. -/
abbrev ProductToken :=
  { op : Token // (productOp? op).isSome }

/-- An open parenthesis. -/
inductive Bracket where
  | group (opening : Token) (ho : opening.kind = .lparen)
  | call (function opening : Token) (h : function.kind = .function) (ho : opening.kind = .lparen)

/-- What waits for its right operand: an expression with an operator between terms, and a term with
an operator between factors. -/
structure Held where
  sum : Option (Expression × SumToken) := none
  product : Option (Term × ProductToken) := none

/-- An open parenthesis and what is held outside of it. -/
structure Layer where
  bracket : Bracket
  held : Held

/-- What has been read of an expression. -/
inductive Draft where
  /-- A factor must come next. -/
  | operand (held : Held) (layers : List Layer)
  /-- The parenthesis behind a function name must come next. -/
  | argument (function : Token) (h : function.kind = .function) (held : Held)
      (layers : List Layer)
  /-- Something behind a term. -/
  | value (sum : Option (Expression × SumToken)) (term : Term) (layers : List Layer)

/-- The term that a factor extends. -/
def Held.term (held : Held) (f : Factor) : Term :=
  match held.product with
  | none => .single f
  | some (left, op) => .joined left op f op.2

/-- The expression that a term extends. -/
def Term.behind (t : Term) : Option (Expression × SumToken) → Expression
  | none => .single t
  | some (left, op) => .joined left op t op.2

/-- The factor that an open parenthesis becomes when it is closed. -/
def Bracket.closed (b : Bracket) (e : Expression) (closing : Token)
    (hc : closing.kind = .rparen) : Factor :=
  match b with
  | group opening ho => .group opening e closing ho hc
  | call function opening h ho => .call function opening e closing h ho hc

/-! ### The tokens of a draft -/

/-- The tokens of an open parenthesis. -/
def Bracket.tokens : Bracket → List Token
  | group opening _ => [opening]
  | call function opening _ _ => [function, opening]

/-- The tokens of what is held. -/
def Held.tokens (held : Held) : List Token :=
  held.sum.elim [] (fun (e, op) => e.tokens ++ [op.1]) ++
    held.product.elim [] (fun (t, op) => t.tokens ++ [op.1])

/-- The tokens outside of and at the open parentheses, which are given from the inside out. -/
def layerTokens : List Layer → List Token
  | [] => []
  | layer :: layers => layerTokens layers ++ layer.held.tokens ++ layer.bracket.tokens

/-- The tokens of a draft. -/
def Draft.tokens : Draft → List Token
  | operand held layers => layerTokens layers ++ held.tokens
  | argument function _ held layers => layerTokens layers ++ held.tokens ++ [function]
  | value sum term layers => layerTokens layers ++ (term.behind sum).tokens

theorem tokens_behind (t : Term) (sum : Option (Expression × SumToken)) :
    (t.behind sum).tokens = ({ sum } : Held).tokens ++ t.tokens := by
  cases sum <;> simp [Term.behind, Held.tokens, Expression.tokens]

theorem tokens_term (held : Held) (f : Factor) :
    ({ sum := held.sum } : Held).tokens ++ (held.term f).tokens = held.tokens ++ f.tokens := by
  obtain ⟨sum, product⟩ := held
  cases product <;> simp [Held.term, Held.tokens, Term.tokens]

theorem tokens_closed (b : Bracket) (e : Expression) (closing : Token)
    (hc : closing.kind = .rparen) :
    (b.closed e closing hc).tokens = b.tokens ++ e.tokens ++ [closing] := by
  cases b <;> simp [Bracket.closed, Bracket.tokens, Factor.tokens]

namespace Draft

/-- Nothing has been read. -/
def start : Draft :=
  .operand {} []

/-- The draft with a finished factor. -/
def factor (held : Held) (layers : List Layer) (f : Factor) : Draft :=
  .value held.sum (held.term f) layers

theorem tokens_factor (held : Held) (layers : List Layer) (f : Factor) :
    (factor held layers f).tokens = layerTokens layers ++ (held.tokens ++ f.tokens) := by
  rw [factor, tokens, tokens_behind, tokens_term]

/-! ### Reading tokens -/

/-- The ways in which a draft reads a token. -/
inductive Reads : Draft → Token → Draft → Prop
  | number {held layers t} (h : t.kind = .number) :
      Reads (.operand held layers) t (factor held layers (.number t h))
  | query {held layers t} (h : t.kind = .variable) :
      Reads (.operand held layers) t (factor held layers (.variable t h))
  | name {held layers t} (h : t.kind = .function) :
      Reads (.operand held layers) t (.argument t h held layers)
  | group {held layers t} (h : t.kind = .lparen) :
      Reads (.operand held layers) t (.operand {} (⟨.group t h, held⟩ :: layers))
  | call {f hf held layers t} (h : t.kind = .lparen) :
      Reads (.argument f hf held layers) t (.operand {} (⟨.call f t hf h, held⟩ :: layers))
  | product {sum term layers t} (h : (productOp? t).isSome) :
      Reads (.value sum term layers) t (.operand ⟨sum, some (term, ⟨t, h⟩)⟩ layers)
  | sum {sum term layers t} (h : (sumOp? t).isSome) :
      Reads (.value sum term layers) t (.operand { sum := some (term.behind sum, ⟨t, h⟩) } layers)
  | close {sum term layer layers t} (h : t.kind = .rparen) :
      Reads (.value sum term (layer :: layers)) t
        (factor layer.held layers (layer.bracket.closed (term.behind sum) t h))

/-- A draft reads tokens one after the other. -/
inductive ReadsAll : Draft → List Token → Draft → Prop
  | nil {d} : ReadsAll d [] d
  | cons {d d' d'' t ts} (h : Reads d t d') (hs : ReadsAll d' ts d'') :
      ReadsAll d (t :: ts) d''

variable {d d' d'' : Draft} {t : Token} {ts us : List Token}

/-- Reading adds the token that is read. -/
theorem tokens_of_reads (h : Reads d t d') : d'.tokens = d.tokens ++ [t] := by
  cases h with
  | number h =>
    rw [tokens_factor]
    simp [tokens, Factor.tokens]
  | query h =>
    rw [tokens_factor]
    simp [tokens, Factor.tokens]
  | name h => rfl
  | group h => simp [tokens, layerTokens, Bracket.tokens, Held.tokens]
  | call h => simp [tokens, layerTokens, Bracket.tokens, Held.tokens]
  | product h => simp [tokens, Held.tokens, tokens_behind]
  | sum h => simp [tokens, Held.tokens]
  | close h =>
    rw [tokens_factor, tokens_closed]
    simp [tokens, layerTokens]

/-- No operator joins terms and factors. -/
theorem not_isSome_sumOp? (h : (productOp? t).isSome) : ¬ (sumOp? t).isSome := by
  intro hs
  obtain ⟨op, hop⟩ := Option.isSome_iff_exists.mp hs
  rw [productOp?_eq_none_of_sumOp? hop] at h
  simp at h

theorem kind_of_isSome_productOp? (h : (productOp? t).isSome) : t.kind = .operator := by
  obtain ⟨op, hop⟩ := Option.isSome_iff_exists.mp h
  exact kind_of_productOp? hop

theorem kind_of_isSome_sumOp? (h : (sumOp? t).isSome) : t.kind = .operator := by
  obtain ⟨op, hop⟩ := Option.isSome_iff_exists.mp h
  exact kind_of_sumOp? hop

/-- A token can be read in at most one way. -/
theorem reads_unique (h : Reads d t d') (h' : Reads d t d'') : d' = d'' := by
  -- two different ways out of one draft are for tokens of different kinds or operators
  cases h with
  | number h =>
    cases h' with
    | number => rfl
    | query h' | name h' | group h' => exact absurd (h.symm.trans h') (by decide)
  | query h =>
    cases h' with
    | query => rfl
    | number h' | name h' | group h' => exact absurd (h.symm.trans h') (by decide)
  | name h =>
    cases h' with
    | name => rfl
    | number h' | query h' | group h' => exact absurd (h.symm.trans h') (by decide)
  | group h =>
    cases h' with
    | group => rfl
    | number h' | query h' | name h' => exact absurd (h.symm.trans h') (by decide)
  | call h =>
    cases h'
    rfl
  | product h =>
    cases h' with
    | product => rfl
    | sum h' => exact absurd h' (not_isSome_sumOp? h)
    | close h' => simp [kind_of_isSome_productOp? h] at h'
  | sum h =>
    cases h' with
    | product h' => exact absurd h (not_isSome_sumOp? h')
    | sum => rfl
    | close h' => simp [kind_of_isSome_sumOp? h] at h'
  | close h =>
    cases h' with
    | product h' => simp [kind_of_isSome_productOp? h'] at h
    | sum h' => simp [kind_of_isSome_sumOp? h'] at h
    | close => rfl

theorem ReadsAll.append (h : ReadsAll d ts d') (h' : ReadsAll d' us d'') :
    ReadsAll d (ts ++ us) d'' := by
  induction h with
  | nil => exact h'
  | cons h _ ih => exact .cons h (ih h')

theorem ReadsAll.snoc (h : ReadsAll d ts d') (h' : Reads d' t d'') :
    ReadsAll d (ts ++ [t]) d'' :=
  h.append (.cons h' .nil)

theorem readsAll_append (h : ReadsAll d (ts ++ us) d'') :
    ∃ d', ReadsAll d ts d' ∧ ReadsAll d' us d'' := by
  induction ts generalizing d with
  | nil => exact ⟨d, .nil, h⟩
  | cons t ts ih =>
    cases h with
    | cons h hs =>
      obtain ⟨d', h1, h2⟩ := ih hs
      exact ⟨d', .cons h h1, h2⟩

theorem readsAll_unique (h : ReadsAll d ts d') (h' : ReadsAll d ts d'') : d' = d'' := by
  induction h with
  | nil =>
    cases h'
    rfl
  | cons h _ ih =>
    cases h' with
    | cons h' hs' => exact ih (reads_unique h h' ▸ hs')

theorem tokens_of_readsAll (h : ReadsAll d ts d') : d'.tokens = d.tokens ++ ts := by
  induction h with
  | nil => simp
  | cons h _ ih => rw [ih, tokens_of_reads h, List.append_assoc, List.singleton_append]

/-- The end is never read. -/
theorem kind_ne_eof_of_reads (h : Reads d t d') : t.kind ≠ .eof := by
  cases h with
  | number h | query h | name h | group h | call h | close h => simp [h]
  | product h => simp [kind_of_isSome_productOp? h]
  | sum h => simp [kind_of_isSome_sumOp? h]

theorem kind_ne_eof_of_readsAll (h : ReadsAll d ts d') : ∀ t ∈ ts, t.kind ≠ .eof := by
  induction h with
  | nil => simp
  | cons h _ ih =>
    intro t ht
    rcases List.mem_cons.mp ht with rfl | ht
    · exact kind_ne_eof_of_reads h
    · exact ih t ht

/-! ### Reading a tree -/

mutual

theorem readsAll_factor (held : Held) (layers : List Layer) :
    ∀ f : Factor, ReadsAll (.operand held layers) f.tokens (factor held layers f)
  | .number t h => .cons (.number h) .nil
  | .variable t h => .cons (.query h) .nil
  | .call f opening inner closing h ho hc => by
    obtain ⟨sum, term, rfl, hr⟩ :=
      readsAll_expression (⟨.call f opening h ho, held⟩ :: layers) inner
    exact .cons (.name h) (.cons (.call ho) (hr.append (.cons (.close hc) .nil)))
  | .group opening inner closing ho hc => by
    obtain ⟨sum, term, rfl, hr⟩ := readsAll_expression (⟨.group opening ho, held⟩ :: layers) inner
    exact .cons (.group ho) (hr.append (.cons (.close hc) .nil))

theorem readsAll_term (sum : Option (Expression × SumToken)) (layers : List Layer) :
    ∀ t : Term, ReadsAll (.operand { sum } layers) t.tokens (.value sum t layers)
  | .single f => readsAll_factor { sum } layers f
  | .joined left op right h =>
    (readsAll_term sum layers left).append
      (.cons (.product h) (readsAll_factor ⟨sum, some (left, ⟨op, h⟩)⟩ layers right))

theorem readsAll_expression (layers : List Layer) :
    ∀ e : Expression, ∃ sum term, term.behind sum = e ∧
      ReadsAll (.operand {} layers) e.tokens (.value sum term layers)
  | .single t => ⟨none, t, rfl, readsAll_term none layers t⟩
  | .joined left op right h => by
    -- the draft keeps `left` apart in its last term and what that stands behind; `op` joins them
    obtain ⟨sum, term, hl, hr⟩ := readsAll_expression layers left
    refine ⟨some (left, ⟨op, h⟩), right, rfl, hr.append (.cons (.sum h) ?_)⟩
    rw [hl]
    exact readsAll_term (some (left, ⟨op, h⟩)) layers right

end

/-! ### Sentences -/

theorem readsAll_start (e : Expression) :
    ∃ sum term, term.behind sum = e ∧ ReadsAll start e.tokens (.value sum term []) :=
  readsAll_expression [] e

/-- The sentences are what a draft reads and is then neither in front of a factor nor inside of a
parenthesis. -/
theorem sentence_iff_readsAll :
    Sentence ts ↔ ∃ sum term, ReadsAll start ts (.value sum term []) := by
  constructor
  · rintro ⟨e, rfl⟩
    obtain ⟨sum, term, -, h⟩ := readsAll_start e
    exact ⟨sum, term, h⟩
  · rintro ⟨sum, term, h⟩
    refine ⟨term.behind sum, ?_⟩
    have ht := tokens_of_readsAll h
    simpa [tokens, layerTokens, start, Held.tokens] using ht

/-- Whatever follows, a token that cannot be read makes no sentence. -/
theorem not_sentence_of_not_reads (h : ReadsAll start ts d) (hn : ∀ d', ¬ Reads d t d')
    (us : List Token) : ¬ Sentence (ts ++ t :: us) := by
  intro hs
  obtain ⟨sum, term, hall⟩ := sentence_iff_readsAll.mp hs
  obtain ⟨d', hd', hrest⟩ := readsAll_append hall
  obtain rfl := readsAll_unique h hd'
  cases hrest with
  | cons hr _ => exact hn _ hr

/-- Closing all open parentheses completes what stands behind a term. -/
theorem exists_readsAll_value (layers : List Layer) :
    ∀ sum term, ∃ us sum' term', ReadsAll (.value sum term layers) us (.value sum' term' []) := by
  induction layers with
  | nil => exact fun sum term => ⟨[], sum, term, .nil⟩
  | cons layer layers ih =>
    intro sum term
    obtain ⟨us, sum', term', h⟩ := ih layer.held.sum
      (layer.held.term (layer.bracket.closed (term.behind sum)
        (spelled .rparen ')' 0) rfl))
    exact ⟨_, sum', term', .cons (.close rfl) h⟩

/-- Whatever has been read can be completed. -/
theorem exists_readsAll (d : Draft) :
    ∃ us sum term, ReadsAll d us (.value sum term []) := by
  -- a number is a factor wherever one must come next
  have hoperand : ∀ held layers,
      ∃ us sum term, ReadsAll (.operand held layers) us (.value sum term []) := by
    intro held layers
    obtain ⟨us, sum, term, h⟩ := exists_readsAll_value layers held.sum
      (held.term (.number (spelled .number '1' 0) rfl))
    exact ⟨_, sum, term, .cons (.number rfl) h⟩
  cases d with
  | operand held layers => exact hoperand held layers
  | argument f hf held layers =>
    obtain ⟨us, sum, term, h⟩ := hoperand {}
      (⟨.call f (spelled .lparen '(' 0) hf rfl, held⟩ :: layers)
    exact ⟨_, sum, term, .cons (.call rfl) h⟩
  | value sum term layers => exact exists_readsAll_value layers sum term

theorem exists_sentence_of_readsAll (h : ReadsAll start ts d) : ∃ us, Sentence (ts ++ us) := by
  obtain ⟨us, sum, term, hus⟩ := exists_readsAll d
  exact ⟨us, sentence_iff_readsAll.mpr ⟨sum, term, h.append hus⟩⟩

end Draft

/-- No list of tokens has two trees. -/
theorem expression_eq_of_tokens_eq {e e' : Expression} (h : e.tokens = e'.tokens) : e = e' := by
  obtain ⟨sum, term, rfl, hr⟩ := Draft.readsAll_start e
  obtain ⟨sum', term', rfl, hr'⟩ := Draft.readsAll_start e'
  -- the same tokens lead to the same draft, from which both trees are read off
  have hd := Draft.readsAll_unique (h ▸ hr) hr'
  rw [Draft.value.injEq] at hd
  rw [hd.1, hd.2.1]

end Calculator.Grammar
