import Mathlib.Data.List.Forall2
import Insights.Proofs.Sql.Rendering

/-!
Statements that agree in everything but the constants of their conditions. They have the same text only
when the constants are the same, since the text shows where each constant begins and ends.
-/

namespace Insights.Sql

/-! ### Constants and conditions -/

theorem Literal.token_injective {literal literal' : Literal} (h : literal.token = literal'.token) :
    literal = literal' := by
  rcases literal with _ | (_ | _) | _ | _ <;> rcases literal' with _ | (_ | _) | _ | _ <;>
    simp_all [token]

/-- Two tests that ask the same of their columns, up to the constants in them. -/
inductive Test.SameShape : Test → Test → Prop where
  | compare (comparison : Comparison) (operand operand' : Literal) :
    SameShape (.compare comparison operand) (.compare comparison operand')
  | member (negated : Bool) {operands operands' : List Literal} (h : operands.length = operands'.length) :
    SameShape (.member negated operands) (.member negated operands')
  | isNull (negated : Bool) : SameShape (.isNull negated) (.isNull negated)

structure Condition.SameShape (condition condition' : Condition) : Prop where
  column : condition.column = condition'.column
  test : condition.test.SameShape condition'.test

/-! ### Parts behind separators -/

/-- Lists of parts that come with the same lengths. -/
abbrev SameLengths : List (List Token) → List (List Token) → Prop :=
  List.Forall₂ fun part part' => part.length = part'.length

theorem SameLengths.length_intercalate {parts parts' : List (List Token)} (h : SameLengths parts parts')
    (between : List Token) :
    (between.intercalate parts).length = (between.intercalate parts').length := by
  induction h with
  | nil => rfl
  | cons hfirst hrest ih =>
    cases hrest with
    | nil => rwa [List.intercalate_singleton, List.intercalate_singleton]
    | cons hnext hrest =>
      rw [List.intercalate_cons_cons, List.intercalate_cons_cons]
      simp only [List.length_append, hfirst, ih]

theorem SameLengths.intercalate_inj {between : List Token} {parts parts' : List (List Token)}
    (h : SameLengths parts parts') (heq : between.intercalate parts = between.intercalate parts') :
    parts = parts' := by
  induction h with
  | nil => rfl
  | cons hfirst hrest ih =>
    cases hrest with
    | nil =>
      rw [List.intercalate_singleton, List.intercalate_singleton] at heq
      rw [heq]
    | cons hnext hrest =>
      rw [List.intercalate_cons_cons, List.intercalate_cons_cons, List.append_assoc, List.append_assoc] at heq
      obtain ⟨rfl, heq⟩ := List.append_inj heq hfirst
      rw [ih (List.append_cancel_left (List.append_cancel_left heq))]

theorem SameLengths.length_clauseTokens {parts parts' : List (List Token)} (h : SameLengths parts parts')
    (keywords : List String) (between : Token) :
    (clauseTokens keywords between parts).length = (clauseTokens keywords between parts').length := by
  have hparts := h.length_intercalate [between]
  cases h with
  | nil => rfl
  | cons hfirst hrest =>
    simp only [clauseTokens, List.isEmpty_cons, Bool.false_eq_true, if_false, List.length_append, hparts]

theorem SameLengths.clauseTokens_inj {keywords : List String} {between : Token}
    {parts parts' : List (List Token)} (h : SameLengths parts parts')
    (heq : clauseTokens keywords between parts = clauseTokens keywords between parts') : parts = parts' := by
  cases h with
  | nil => rfl
  | cons hfirst hrest =>
    exact intercalate_inj (.cons hfirst hrest) (List.append_cancel_left heq)

theorem sameLengths_operands {operands operands' : List Literal} (h : operands.length = operands'.length) :
    SameLengths (operands.map ([·.token])) (operands'.map ([·.token])) := by
  rw [SameLengths, List.forall₂_map_left_iff, List.forall₂_map_right_iff, List.forall₂_iff_get]
  exact ⟨h, fun _ _ _ => rfl⟩

theorem map_token_injective : Function.Injective (List.map fun literal : Literal => [literal.token]) :=
  List.map_injective_iff.mpr fun _ _ h => Literal.token_injective (List.singleton_inj.mp h)

/-! ### Conditions -/

variable {condition condition' : Condition}

theorem Condition.SameShape.length_tokens (h : condition.SameShape condition') :
    condition.tokens.length = condition'.tokens.length := by
  obtain ⟨column, test⟩ := condition
  obtain ⟨column', test'⟩ := condition'
  obtain ⟨-, htest⟩ := h
  cases htest with
  | compare => rfl
  | isNull => rfl
  | member negated hlength =>
    have hoperands := (sameLengths_operands hlength).length_intercalate [.symbol ","]
    simp only [tokens, Test.tokens, commas, List.length_append, List.length_singleton, hoperands]

theorem Condition.SameShape.tokens_inj (h : condition.SameShape condition')
    (htokens : condition.tokens = condition'.tokens) : condition = condition' := by
  obtain ⟨column, test⟩ := condition
  obtain ⟨column', test'⟩ := condition'
  obtain ⟨hcolumn, htest⟩ := h
  subst hcolumn
  simp only [tokens, List.append_right_inj] at htokens
  cases htest with
  | isNull => rfl
  | compare comparison operand operand' =>
    have htoken : operand.token = operand'.token := by simpa [Test.tokens] using htokens
    rw [Literal.token_injective htoken]
  | member negated hlength =>
    simp only [Test.tokens, List.append_left_inj, List.append_right_inj] at htokens
    rw [map_token_injective ((sameLengths_operands hlength).intercalate_inj htokens)]

theorem tokens_inj_of_sameShape {conditions conditions' : List Condition}
    (hshape : List.Forall₂ Condition.SameShape conditions conditions')
    (h : conditions.map Condition.tokens = conditions'.map Condition.tokens) : conditions = conditions' := by
  induction hshape with
  | nil => rfl
  | cons hfirst _ ih =>
    rw [List.map_cons, List.map_cons, List.cons.injEq] at h
    rw [hfirst.tokens_inj h.1, ih h.2]

/-! ### Statements -/

/-- The text of a statement tells where its rows come from and the constants of its conditions. -/
theorem Statement.eq_of_render {s : Statement} {source : Source} {conditions : List Condition}
    (h : s.WellSpelt) (h' : { s with source, conditions }.WellSpelt)
    (hshape : List.Forall₂ Condition.SameShape s.conditions conditions)
    (hrender : s.render = { s with source, conditions }.render) :
    s.source.tokens = source.tokens ∧ s.conditions = conditions := by
  have htokens : s.tokens = { s with source, conditions }.tokens := by
    have hlex := (lexes h).lex_eq
    rw [hrender, (lexes h').lex_eq] at hlex
    exact (Option.some.inj hlex).symm
  have hlengths : SameLengths (s.conditions.map Condition.tokens) (conditions.map Condition.tokens) := by
    rw [SameLengths, List.forall₂_map_left_iff, List.forall₂_map_right_iff]
    exact hshape.imp fun _ _ h => h.length_tokens
  simp only [tokens, List.append_assoc, List.append_right_inj] at htokens
  -- the conditions have as many tokens before as after, and so has all that comes behind them
  rw [← List.append_assoc, ← List.append_assoc source.tokens] at htokens
  obtain ⟨hfront, -⟩ := List.append_inj' htokens rfl
  obtain ⟨hsource, hconditions⟩ := List.append_inj' hfront (hlengths.length_clauseTokens _ _)
  exact ⟨hsource, tokens_inj_of_sameShape hshape (hlengths.clauseTokens_inj hconditions)⟩

end Insights.Sql
