import Calculator.Grammar
import Calculator.Proofs.Evaluation.Action
import Mathlib.Data.List.Infix

/-!
# How deeply tokens are nested

The surplus of tokens is the number of parentheses that they open less the number of those that they
close.  The tokens of a tree have no surplus (`surplus_expression`), and the depth of the tree is
the surplus of some beginning of them (`exists_prefix_expression`).  So if no beginning of some
tokens has a surplus of more than `limit` (`NestedWithin`), no tree among them is deeper than that
(`depth_le_of_nestedWithin`).
-/

namespace Calculator.Grammar

open Calculator.Evaluation

/-! ### Surplus -/

/-- How many more parentheses tokens open than they close. -/
def surplus (ts : List Token) : Int :=
  (ts.countP fun t => t.kind = .lparen) - (ts.countP fun t => t.kind = .rparen)

/-- Whether no beginning of the tokens opens more than `limit` parentheses beyond those that it
closes. -/
def NestedWithin (limit : Nat) (ts : List Token) : Prop :=
  ∀ us, us <+: ts → surplus us ≤ limit

instance (limit : Nat) (ts : List Token) : Decidable (NestedWithin limit ts) :=
  decidable_of_iff (∀ us ∈ ts.inits, surplus us ≤ limit) (by simp [NestedWithin])

theorem surplus_append (ts us : List Token) : surplus (ts ++ us) = surplus ts + surplus us := by
  unfold surplus
  rw [List.countP_append, List.countP_append]
  omega

theorem surplus_cons (t : Token) (ts : List Token) : surplus (t :: ts) = surplus [t] + surplus ts :=
  surplus_append [t] ts

theorem surplus_of_lparen {t : Token} (h : t.kind = .lparen) : surplus [t] = 1 := by
  simp [surplus, h]

theorem surplus_of_rparen {t : Token} (h : t.kind = .rparen) : surplus [t] = -1 := by
  simp [surplus, h]

theorem surplus_of_ne {t : Token} (ho : t.kind ≠ .lparen) (hc : t.kind ≠ .rparen) :
    surplus [t] = 0 := by
  simp [surplus, ho, hc]

theorem surplus_of_sumOp {t : Token} (h : (sumOp? t).isSome) : surplus [t] = 0 := by
  obtain ⟨op, hop⟩ := Option.isSome_iff_exists.mp h
  have hk := kind_of_sumOp? hop
  exact surplus_of_ne (by simp [hk]) (by simp [hk])

theorem surplus_of_productOp {t : Token} (h : (productOp? t).isSome) : surplus [t] = 0 := by
  obtain ⟨op, hop⟩ := Option.isSome_iff_exists.mp h
  have hk := kind_of_productOp? hop
  exact surplus_of_ne (by simp [hk]) (by simp [hk])

/-! ### The tokens of a tree -/

mutual

theorem surplus_factor : ∀ f : Factor, surplus f.tokens = 0
  | .number t h | .variable t h => surplus_of_ne (by simp [h]) (by simp [h])
  | .call f opening argument closing h ho hc => by
    have hf : surplus [f] = 0 := surplus_of_ne (by simp [h]) (by simp [h])
    have hargument := surplus_expression argument
    rw [Factor.tokens, List.cons_append, List.cons_append, surplus_cons f, surplus_cons opening,
      surplus_append, hf, hargument, surplus_of_lparen ho, surplus_of_rparen hc]
    rfl
  | .group opening inner closing ho hc => by
    have hinner := surplus_expression inner
    rw [Factor.tokens, List.cons_append, surplus_cons, surplus_append, hinner,
      surplus_of_lparen ho, surplus_of_rparen hc]
    rfl

theorem surplus_term : ∀ t : Term, surplus t.tokens = 0
  | .single f => surplus_factor f
  | .joined left op right h => by
    have hleft := surplus_term left
    have hright := surplus_factor right
    rw [Term.tokens, surplus_append, surplus_cons, hleft, surplus_of_productOp h, hright]
    rfl

theorem surplus_expression : ∀ e : Expression, surplus e.tokens = 0
  | .single t => surplus_term t
  | .joined left op right h => by
    have hleft := surplus_expression left
    have hright := surplus_term right
    rw [Expression.tokens, surplus_append, surplus_cons, hleft, surplus_of_sumOp h, hright]
    rfl

end

/-- The deepest beginning of a parenthesis is that of what stands in it, behind the parenthesis. -/
theorem exists_prefix_parenthesis {before inner behind us : List Token} {depth : Nat}
    (hbefore : surplus before = 1) (hus : us <+: inner) (hdepth : surplus us = depth) :
    ∃ vs, vs <+: before ++ inner ++ behind ∧ surplus vs = (depth + 1 : Nat) := by
  refine ⟨before ++ us, ?_, ?_⟩
  · rw [List.append_assoc, List.prefix_append_right_inj]
    exact hus.trans (List.prefix_append inner behind)
  · rw [surplus_append, hbefore, hdepth]
    omega

/-- The deepest beginning of two operands is that of one of them, behind the other one if that
comes first. -/
theorem exists_prefix_joined {left right us vs : List Token} {op : Token} {m n : Nat}
    (hleft : surplus left = 0) (hop : surplus [op] = 0) (hus : us <+: left) (hm : surplus us = m)
    (hvs : vs <+: right) (hn : surplus vs = n) :
    ∃ ws, ws <+: left ++ op :: right ∧ surplus ws = (max m n : Nat) := by
  rcases Nat.le_total n m with hle | hle
  · refine ⟨us, hus.trans (List.prefix_append left (op :: right)), ?_⟩
    rw [hm, Nat.max_eq_left hle]
  · refine ⟨left ++ op :: vs, ?_, ?_⟩
    · rw [List.prefix_append_right_inj]
      exact (List.cons_prefix_cons.mpr ⟨rfl, hvs⟩)
    · rw [surplus_append, surplus_cons, hleft, hop, hn, Nat.max_eq_right hle]
      omega

mutual

theorem exists_prefix_factor : ∀ f : Factor, ∃ us, us <+: f.tokens ∧ surplus us = f.depth
  | .number .. | .variable .. => ⟨[], List.nil_prefix, rfl⟩
  | .call f opening argument closing h ho hc => by
    obtain ⟨us, hus, hdepth⟩ := exists_prefix_expression argument
    have hf : surplus [f] = 0 := surplus_of_ne (by simp [h]) (by simp [h])
    have hbefore : surplus [f, opening] = 1 := by rw [surplus_cons, hf, surplus_of_lparen ho]; rfl
    exact exists_prefix_parenthesis hbefore hus hdepth
  | .group opening inner closing ho hc => by
    obtain ⟨us, hus, hdepth⟩ := exists_prefix_expression inner
    exact exists_prefix_parenthesis (surplus_of_lparen ho) hus hdepth

theorem exists_prefix_term : ∀ t : Term, ∃ us, us <+: t.tokens ∧ surplus us = t.depth
  | .single f => exists_prefix_factor f
  | .joined left op right h => by
    obtain ⟨us, hus, hm⟩ := exists_prefix_term left
    obtain ⟨vs, hvs, hn⟩ := exists_prefix_factor right
    exact exists_prefix_joined (surplus_term left) (surplus_of_productOp h) hus hm hvs hn

theorem exists_prefix_expression :
    ∀ e : Expression, ∃ us, us <+: e.tokens ∧ surplus us = e.depth
  | .single t => exists_prefix_term t
  | .joined left op right h => by
    obtain ⟨us, hus, hm⟩ := exists_prefix_expression left
    obtain ⟨vs, hvs, hn⟩ := exists_prefix_term right
    exact exists_prefix_joined (surplus_expression left) (surplus_of_sumOp h) hus hm hvs hn

end

/-- A tree is not deeper than the tokens that begin with its tokens. -/
theorem depth_le_of_nestedWithin {limit : Nat} {e : Expression} {rest : List Token}
    (h : NestedWithin limit (e.tokens ++ rest)) : e.depth ≤ limit := by
  obtain ⟨us, hus, hdepth⟩ := exists_prefix_expression e
  have hle := h us (hus.trans (List.prefix_append e.tokens rest))
  omega

end Calculator.Grammar
