import Insights.Pipeline.Plan
import Insights.Proofs.Sql.Clauses
import Insights.Proofs.Sql.Rendering
import Insights.Session.Batch

/-!
Statements inside other ones. A statement is put between brackets when its rows are counted and when it is
one of a batch, and it keeps its tokens there.
-/

namespace Insights

open Sql

/-- The tokens of a selection from a statement between brackets. -/
def enclosingTokens (front tokens : List Token) : List Token :=
  [.word "SELECT"] ++ front ++ [.word "FROM"] ++ ([.symbol "("] ++ tokens ++ [.symbol ")"])

def countingTokens (tokens : List Token) : List Token :=
  enclosingTokens [.word "COUNT", .symbol "(", .symbol "*", .symbol ")", .word "AS", .word "count"] tokens

def taggingTokens (position : Nat) (tokens : List Token) : List Token :=
  enclosingTokens [.number (String.ofList (digitsOf position)), .word "AS", .name Batch.positionColumn,
    .symbol ",", .symbol "*"] tokens

variable {front text : String} {head tokens : List Token}

theorem lexes_enclosing (hfront : Lexes isBreak front head) (h : Lexes isBreak text tokens) :
    Lexes anything ("SELECT " ++ front ++ " FROM (" ++ text ++ ")") (enclosingTokens head tokens) := by
  have hopen : Lexes anything " FROM (" ([.word "FROM"] ++ [.symbol "("]) := lexes_from.andThen lexes_open
  have hopened := (lexes_select.andThen hfront).append hopen (leads_break rfl rfl)
  have hclosed := (hopened.andThen h).append lexes_close (leads_break rfl rfl)
  apply hclosed.congr
  simp [enclosingTokens]

theorem closed_enclosing (hhead : Closed head) (h : Closed tokens) : Closed (enclosingTokens head tokens) :=
  ((contained_select.closed.append hhead).append contained_from.closed).append h.enclosed

theorem closed_countingTokens (h : Closed tokens) : Closed (countingTokens tokens) := by
  have hcount : Closed (aggregateTokens .count none) := (contained_aggregate .count none).closed
  have hnamed : Closed [.word "AS", .word "count"] := (contained_of_isPlain (by decide)).closed
  exact closed_enclosing (hcount.append hnamed) h

theorem closed_taggingTokens (position : Nat) (h : Closed tokens) : Closed (taggingTokens position tokens) := by
  apply closed_enclosing _ h
  apply closed_of_no_bracket
  simp

theorem lexes_as_word : Lexes anything " AS " [.word "AS"] :=
  lexes_keyword rfl rfl

theorem lexes_countStatement (h : Lexes isBreak text tokens) :
    Lexes anything (countStatement text) (countingTokens tokens) := by
  have hall : Lexes isBreak ("COUNT" ++ "(*)") [.word "COUNT", .symbol "(", .symbol "*", .symbol ")"] :=
    lexes_callAll rfl
  have hcount : Lexes isBreak "count" [.word "count"] := lexes_word_atBreak rfl
  have hnamed := (hall.append lexes_as_word (leads_break rfl rfl)).andThen hcount
  have htext : countStatement text =
      "SELECT " ++ ("COUNT" ++ "(*)" ++ " AS " ++ "count") ++ " FROM (" ++ text ++ ")" := rfl
  rw [htext]
  exact lexes_enclosing hnamed h

theorem lexes_tagged (position : Nat) (h : Lexes isBreak text tokens) :
    Lexes anything (Batch.tagged (.text text) position) (taggingTokens position tokens) := by
  have hnatural : integerDigits position = digitsOf position := by
    simp [integerDigits]
  have hdigits := lexes_numeral (isNumeral_integerDigits position)
  rw [hnatural] at hdigits
  have hname := (hdigits.append lexes_as_word (leads_break rfl rfl)).andThen
    (lexes_name_atBreak Batch.positionColumn)
  have hall : Lexes isBreak (", " ++ "*") ([.symbol ","] ++ [.symbol "*"]) :=
    lexes_comma.andThen (lexes_star.atBreak rfl)
  have hfront := hname.append hall (leads_break rfl rfl)
  have hlexes := lexes_enclosing hfront h
  have htext : Batch.tagged (.text text) position =
      "SELECT " ++ (String.ofList (digitsOf position) ++ " AS " ++ quoteName Batch.positionColumn ++
        (", " ++ "*")) ++ " FROM (" ++ text ++ ")" := by
    have hmiddle : ", * FROM (" = ", " ++ "*" ++ " FROM (" := rfl
    simp only [Batch.tagged, Value.plain, String.ofList_toList, hmiddle, String.append_assoc]
  rw [htext]
  exact hlexes

end Insights
