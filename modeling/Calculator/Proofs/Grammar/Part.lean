import Calculator.Proofs.Grammar.Draft

/-!
# Parts of expressions

What is to be read may be a factor, a term or an expression (`IsPart`, `Derives`).  Which of these a
draft may become is told by the operators that it holds outside of all parentheses (`Held.Fits`,
`derives_iff_readsAll`): a factor has none there, and a term has none that joins terms.  So a part
is continued only by the operators that belong to it (`isSome_of_derives_append`), and in front of
any other token it can go no further (`le_of_derives_take`).
-/

namespace Calculator.Grammar

open Calculator.Evaluation

/-- Whether an expression is what is to be read: a factor that stands alone, a term that stands
alone, or any expression. -/
inductive IsPart : Goal → Expression → Prop
  | factor (f : Factor) : IsPart .factor (.single (.single f))
  | term (t : Term) : IsPart .term (.single t)
  | expression (e : Expression) : IsPart .expression e
  | whole (e : Expression) : IsPart .whole e

/-- Whether tokens are derived from what is to be read. -/
def Derives (goal : Goal) (ts : List Token) : Prop :=
  ∃ e, IsPart goal e ∧ e.tokens = ts

theorem Derives.sentence {goal : Goal} {ts : List Token} (h : Derives goal ts) : Sentence ts := by
  obtain ⟨e, -, he⟩ := h
  exact ⟨e, he⟩

/-! ### What is held outside of all parentheses -/

/-- What is held outside of the open parentheses, given what is held inside of all of them. -/
def outermost (held : Held) : List Layer → Held
  | [] => held
  | layer :: layers => outermost layer.held layers

/-- What is held in front of the last factor of a term. -/
def Term.held (sum : Option (Expression × SumToken)) : Term → Held
  | .single _ => { sum }
  | .joined left op _ h => ⟨sum, some (left, ⟨op, h⟩)⟩

theorem held_term (held : Held) (f : Factor) : (held.term f).held held.sum = held := by
  obtain ⟨sum, product⟩ := held
  cases product <;> rfl

theorem sum_held (sum : Option (Expression × SumToken)) (t : Term) : (t.held sum).sum = sum := by
  cases t <;> rfl

/-- Whether what is held leaves room for what is to be read. -/
structure Held.Fits (goal : Goal) (held : Held) : Prop where
  product : goal = .factor → held.product = none
  sum : goal = .factor ∨ goal = .term → held.sum = none

section Operators

variable {goal : Goal} {sum : Option (Expression × SumToken)} {term : Term}

/-- Another operator between factors fits if it belongs to what is to be read. -/
theorem fits_product_iff {op : ProductToken} :
    Held.Fits goal ⟨sum, some (term, op)⟩ ↔
      Held.Fits goal (term.held sum) ∧ (goal.productOp? op.1).isSome := by
  constructor
  · rintro ⟨hproduct, hsum⟩
    have hgoal : goal ≠ .factor := fun h => by cases hproduct h
    refine ⟨⟨fun h => absurd h hgoal, fun h => ?_⟩, ?_⟩
    · rw [sum_held]
      exact hsum h
    · cases goal with
      | factor => exact absurd rfl hgoal
      | _ => exact op.2
  · rintro ⟨hfits, hop⟩
    refine ⟨?_, fun h => ?_⟩
    · rintro rfl
      cases hop
    · rw [← hfits.sum h, sum_held]

/-- Another operator between terms fits if it belongs to what is to be read. -/
theorem fits_sum_iff {e : Expression} {op : SumToken} :
    Held.Fits goal { sum := some (e, op) } ↔ (goal.sumOp? op.1).isSome := by
  constructor
  · rintro ⟨-, hsum⟩
    cases goal with
    | factor => cases hsum (.inl rfl)
    | term => cases hsum (.inr rfl)
    | _ => exact op.2
  · intro hop
    refine ⟨fun _ => rfl, ?_⟩
    rintro (rfl | rfl)
    · cases hop
    · cases hop

end Operators

namespace Draft

variable {goal : Goal} {d d' d'' : Draft} {t : Token} {ts us : List Token}

/-- What a draft holds outside of all parentheses, where the last factor of a finished term is not
held. -/
def outermost : Draft → Held
  | operand held layers | argument _ _ held layers => Grammar.outermost held layers
  | value sum term layers => Grammar.outermost (term.held sum) layers

/-- Whether a draft is an expression as it is. -/
def IsFinished (d : Draft) : Prop :=
  ∃ sum term, d = .value sum term []

theorem outermost_factor (held : Held) (layers : List Layer) (f : Factor) :
    (factor held layers f).outermost = Grammar.outermost held layers := by
  show Grammar.outermost ((held.term f).held held.sum) layers = Grammar.outermost held layers
  rw [held_term]

theorem fits_iff_of_eq (h : d'.outermost = d.outermost)
    (hd : ∀ sum term, d ≠ .value sum term []) :
    d'.outermost.Fits goal ↔
      d.outermost.Fits goal ∧
        (d.IsFinished → (goal.productOp? t).isSome ∨ (goal.sumOp? t).isSome) := by
  have hunfinished : ¬ d.IsFinished := fun ⟨sum, term, hfinished⟩ => hd sum term hfinished
  rw [h, and_iff_left fun hfinished => absurd hfinished hunfinished]

/-- A token changes what is held outside of all parentheses only if it continues a finished
expression, and then what is held goes on to fit what is to be read if the token is an operator of
it. -/
theorem fits_iff_of_reads (h : Reads d t d') :
    d'.outermost.Fits goal ↔
      d.outermost.Fits goal ∧
        (d.IsFinished → (goal.productOp? t).isSome ∨ (goal.sumOp? t).isSome) := by
  cases h with
  | number h | query h | close h =>
    exact fits_iff_of_eq (outermost_factor ..) nofun
  | name h | group h | call h =>
    exact fits_iff_of_eq rfl nofun
  | @product sum term layers _ h =>
    cases layers with
    | nil =>
      have hsum : goal.sumOp? t = none :=
        Goal.sumOp?_eq_none (Option.not_isSome_iff_eq_none.mp (not_isSome_sumOp? h))
      have hfinished : (Draft.value sum term []).IsFinished := ⟨sum, term, rfl⟩
      show Held.Fits goal ⟨sum, some (term, ⟨t, h⟩)⟩ ↔ Held.Fits goal (term.held sum) ∧ _
      rw [fits_product_iff, hsum]
      simp [hfinished]
    | cons layer layers => exact fits_iff_of_eq rfl nofun
  | @sum sum term layers _ h =>
    cases layers with
    | nil =>
      have hproduct : goal.productOp? t = none :=
        Goal.productOp?_eq_none (Option.not_isSome_iff_eq_none.mp fun hp => not_isSome_sumOp? hp h)
      have hfinished : (Draft.value sum term []).IsFinished := ⟨sum, term, rfl⟩
      show Held.Fits goal { sum := some (term.behind sum, ⟨t, h⟩) } ↔
        Held.Fits goal (term.held sum) ∧ _
      rw [fits_sum_iff, hproduct]
      -- whatever has operators between terms leaves room for everything
      have hroom : (goal.sumOp? t).isSome → Held.Fits goal (term.held sum) := fun hop =>
        ⟨fun hg => by simp [hg, Goal.sumOp?] at hop,
          fun hg => by rcases hg with hg | hg <;> simp [hg, Goal.sumOp?] at hop⟩
      simpa [hfinished] using hroom
    | cons layer layers => exact fits_iff_of_eq rfl nofun

theorem fits_of_readsAll (h : ReadsAll d ts d') (hf : d'.outermost.Fits goal) :
    d.outermost.Fits goal := by
  induction h with
  | nil => exact hf
  | cons h _ ih => exact ((fits_iff_of_reads h).mp (ih hf)).1

/-! ### Parts and drafts -/

/-- The tokens of a part lead to a finished draft whose operators fit the part, and only they do. -/
theorem derives_iff_readsAll :
    Derives goal ts ↔
      ∃ sum term, ReadsAll start ts (.value sum term []) ∧ (term.held sum).Fits goal := by
  constructor
  · rintro ⟨e, hpart, rfl⟩
    cases hpart with
    | factor f => exact ⟨none, .single f, readsAll_factor {} [] f, fun _ => rfl, fun _ => rfl⟩
    | term t =>
      exact ⟨none, t, readsAll_term none [] t, by simp, fun _ => sum_held none t⟩
    | expression | whole =>
      obtain ⟨sum, term, -, h⟩ := readsAll_start e
      exact ⟨sum, term, h, by simp, by simp⟩
  · rintro ⟨sum, term, h, hproduct, hsum⟩
    rw [sum_held] at hsum
    refine ⟨term.behind sum, ?_, ?_⟩
    · cases goal with
      | factor =>
        obtain rfl := hsum (.inl rfl)
        cases term with
        | single f => exact .factor f
        | joined => cases hproduct rfl
      | term =>
        obtain rfl := hsum (.inr rfl)
        exact .term term
      | expression => exact .expression _
      | whole => exact .whole _
    · have ht := tokens_of_readsAll h
      simpa [tokens, layerTokens, start, Held.tokens] using ht

end Draft

variable {goal : Goal} {t : Token} {ts us vs : List Token}

/-- Only an operator of what is to be read continues a finished part. -/
theorem isSome_of_derives_append (hus : Sentence us) (h : Derives goal (us ++ t :: vs)) :
    (goal.productOp? t).isSome ∨ (goal.sumOp? t).isSome := by
  obtain ⟨sum, term, hread⟩ := Draft.sentence_iff_readsAll.mp hus
  obtain ⟨sum', term', hall, hfits⟩ := Draft.derives_iff_readsAll.mp h
  obtain ⟨d, hd, hrest⟩ := Draft.readsAll_append hall
  obtain rfl := Draft.readsAll_unique hread hd
  cases hrest with
  | cons ht hvs =>
    have hfits' := Draft.fits_of_readsAll hvs hfits
    exact ((Draft.fits_iff_of_reads ht).mp hfits').2 ⟨sum, term, rfl⟩

/-- In front of a token that is no operator of it a part can go no further. -/
theorem le_of_derives_take {m n : Nat} (hm : Sentence (ts.take m)) (ht : ts[m]? = some t)
    (hp : goal.productOp? t = none) (hs : goal.sumOp? t = none)
    (hn : Derives goal (ts.take n)) : n ≤ m := by
  refine Nat.le_of_not_lt fun hlt => ?_
  obtain ⟨k, rfl⟩ := Nat.exists_eq_add_of_lt hlt
  have hsplit : ts.take (m + k + 1) = ts.take m ++ t :: (ts.drop (m + 1)).take k := by
    obtain ⟨hm, rfl⟩ := List.getElem?_eq_some_iff.mp ht
    rw [Nat.add_assoc, List.take_add, List.drop_eq_getElem_cons hm, List.take_succ_cons]
  rw [hsplit] at hn
  have hop := isSome_of_derives_append hm hn
  simp [hp, hs] at hop

theorem prefix_of_derives (hus : Sentence us) (hp : goal.productOp? t = none)
    (hs : goal.sumOp? t = none) (hvs : vs <+: us ++ t :: ts) (h : Derives goal vs) : vs <+: us := by
  rw [List.prefix_iff_eq_take.mp hvs] at h
  have hbehind : (us ++ t :: ts)[us.length]? = some t := by
    rw [List.getElem?_append_right (Nat.le_refl _), Nat.sub_self, List.getElem?_cons_zero]
  rw [← @List.take_left _ us (t :: ts)] at hus
  exact List.prefix_of_prefix_length_le hvs (List.prefix_append _ _)
    (le_of_derives_take hus hbehind hp hs h)

end Calculator.Grammar
