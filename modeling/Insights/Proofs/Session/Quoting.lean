import Insights.Proofs.Loading.Protocol
import Insights.Proofs.Session.Calls
import Insights.Proofs.Sql.Rendering
import Insights.Proofs.Text.Quoted

/-!
Quoted names in the statements that are put together by hand. A quoted name or text can be read back whole from
the front of any text that does not go on with one more quote, so quoting loses nothing; and the two statements
about a table hold its name as one token, whatever characters are in it. A load sends no other statements, and
both are about the table of its own dataset.
-/

namespace Insights

open Sql

/-- What stands between the quotes of a token, if there are quotes around it. -/
def Sql.Token.quoted? : Token → Option String
  | .name s | .text s => some s
  | .word _ | .number _ | .symbol _ => none

/-- The statement has tokens, and those between quotes are the given ones, in order. -/
def Sql.Quotes (statement : String) (contents : List String) : Prop :=
  ∃ tokens, lex statement.toList = some tokens ∧ tokens.filterMap Token.quoted? = contents

/-- The tokens of the statement that asks for a table. -/
def existenceTokens (table : Token) : List Token :=
  [.word "SELECT", .number "1", .word "FROM", .word "information_schema", .symbol ".", .word "tables",
    .word "WHERE", .word "table_name", .symbol "=", table, .word "LIMIT", .number "1"]

/-- The tokens of the statement that drops a table. -/
def dropTokens (table : String) : List Token :=
  [.word "DROP", .word "TABLE", .word "IF", .word "EXISTS", .name table]

/-! ### The tokens of the two statements -/

theorem lexes_one : Lexes isBreak "1" [.number "1"] :=
  lexes_numeral (isNumeral_integerDigits 1)

theorem lexes_catalog :
    Lexes (!isWordPart ·) ("information_schema" ++ "." ++ "tables")
      [.word "information_schema", .symbol ".", .word "tables"] := by
  have hschema : Lexes (!isWordPart ·) "information_schema" [.word "information_schema"] := lexes_word rfl
  have htables : Lexes (!isWordPart ·) "tables" [.word "tables"] := lexes_word rfl
  exact (hschema.append lexes_point (leads_head (c := '.') rfl rfl)).andThen htables

theorem lexes_existenceStatement {table : Literal} (h : table.WellSpelt) :
    Lexes isBreak (existenceStatement table) (existenceTokens table.token) := by
  have hwhere : Lexes anything " WHERE " [.word "WHERE"] := lexes_keyword rfl rfl
  have hcolumn : Lexes (!isWordPart ·) "table_name" [.word "table_name"] := lexes_word rfl
  have hlimit : Lexes isBreak " LIMIT 1" [.word "LIMIT", .number "1"] := by
    have htext : " LIMIT 1" = " LIMIT " ++ "1" := rfl
    have hkeyword : Lexes anything " LIMIT " [.word "LIMIT"] := lexes_keyword rfl rfl
    rw [htext]
    exact hkeyword.andThen lexes_one
  have hstart : probeStart = "SELECT " ++ "1" ++ " FROM " ++ ("information_schema" ++ "." ++ "tables") ++
      " WHERE " ++ "table_name" ++ " = " := rfl
  have hfrom := (lexes_select.andThen lexes_one).append lexes_from (leads_break (c := ' ') rfl rfl)
  have hasked := ((hfrom.andThen lexes_catalog).append hwhere (leads_head (c := ' ') rfl rfl)).andThen hcolumn
  have htable := (hasked.append lexes_spacedEquals (leads_head (c := ' ') rfl rfl)).andThen (Literal.lexes h)
  rw [existenceStatement, hstart]
  exact htable.append hlimit (leads_break (c := ' ') rfl rfl)

theorem lexes_dropStatement (table : String) :
    Lexes (· ≠ '"') (dropStatement table) (dropTokens table) := by
  have hwords : Lexes (!isWordPart ·) "DROP TABLE IF EXISTS" (["DROP", "TABLE", "IF", "EXISTS"].map .word) :=
    lexes_phrase _ (by decide) rfl
  exact (hwords.spaced rfl).andThen (lexes_name table)

theorem lex_probeStatement (table : String) :
    lex (probeStatement table).toList = some (existenceTokens (.text table)) := by
  have htext : Literal.WellSpelt (.text table) := trivial
  exact (lexes_existenceStatement htext).lex_eq

theorem lex_dropStatement (table : String) : lex (dropStatement table).toList = some (dropTokens table) :=
  (lexes_dropStatement table).lex_eq

theorem quotes_probeStatement (table : String) : Quotes (probeStatement table) [table] :=
  ⟨_, lex_probeStatement table, rfl⟩

theorem quotes_dropStatement (table : String) : Quotes (dropStatement table) [table] :=
  ⟨_, lex_dropStatement table, rfl⟩

/-! ### What loads send -/

/-- A load sends no statements but the two about its own table. -/
theorem Loader.statement_of_asked {events : List Event} {load : Load} (hload : load ∈ (reached events).loads)
    {request : Request} (hasked : request ∈ load.asked) {statement : String}
    (hsent : request.call? = some (.query statement)) :
    statement = probeStatement load.table ∨ statement = dropStatement load.table := by
  obtain ⟨position, hposition⟩ := List.mem_iff_getElem?.mp hload
  obtain ⟨data, hscript⟩ := (Load.conforms_of_follows (follows_reached hposition)).calls
  have hrequest := hscript.subset hasked
  simp only [Load.script, List.mem_cons, List.not_mem_nil, or_false] at hrequest
  obtain rfl | rfl | rfl | rfl := hrequest
  · cases hsent
    exact Or.inl rfl
  · cases hsent
    exact Or.inr rfl
  · cases hsent
  · cases hsent

/-- Quoting is self-delimiting. A quoted name or text is read back whole, and so is all that follows it, exactly
if that does not begin with a quote. Different names and texts are therefore quoted differently, and the
statements about a table have its name as one token among fixed ones. In no course of events does a load quote
anything but the name of its dataset's table. -/
theorem quoting_self_delimiting :
    (∀ (name : String) (rest : List Char),
      Text.readQuoted '"' ((quoteName name).toList ++ rest) = some (name.toList, rest) ↔
        rest.head? ≠ some '"') ∧
    (∀ (text : String) (rest : List Char),
      Text.readQuoted '\'' ((quoteText text).toList ++ rest) = some (text.toList, rest) ↔
        rest.head? ≠ some '\'') ∧
    Function.Injective quoteName ∧ Function.Injective quoteText ∧
    (∀ table, lex (probeStatement table).toList = some (existenceTokens (.text table)) ∧
      Quotes (probeStatement table) [table]) ∧
    (∀ table, lex (dropStatement table).toList = some (dropTokens table) ∧
      Quotes (dropStatement table) [table]) ∧
    ∀ events, ∀ load ∈ (Loader.reached events).loads, ∀ request ∈ load.asked, ∀ statement,
      request.call? = some (.query statement) → Quotes statement [tableName load.dataset.id] := by
  refine ⟨fun name rest => ?_, fun text rest => ?_, quoteName_injective, quoteText_injective,
    fun table => ⟨lex_probeStatement table, quotes_probeStatement table⟩,
    fun table => ⟨lex_dropStatement table, quotes_dropStatement table⟩, ?_⟩
  · rw [quoteName, String.toList_ofList]
    exact Text.readQuoted_quoted_iff
  · rw [quoteText, String.toList_ofList]
    exact Text.readQuoted_quoted_iff
  · intro events load hload request hasked statement hsent
    obtain rfl | rfl := Loader.statement_of_asked hload hasked hsent
    · exact quotes_probeStatement load.table
    · exact quotes_dropStatement load.table

/-- A dataset whose id has quotes of both kinds, one of them at its end. -/
def quoteRidden : Dataset :=
  ⟨"it's-\"a\"", ⟨.local, "k"⟩, [], none, 0⟩

/-- The load of that dataset, up to the drop of its table. -/
def quoteRiddenLoad : List Event :=
  [.ensure quoteRidden, .start 0, .reply 0 (.probed (.ok false))]

theorem quoting_self_delimiting_quoteRiddenLoad :
    Text.readQuoted '"' "\"df_it's_\"\"a\"\"\" AS t".toList = some ("df_it's_\"a\"".toList, " AS t".toList) ∧
    ∃ load ∈ (Loader.reached quoteRiddenLoad).loads, .drop "df_it's_\"a\"" ∈ load.asked ∧
      (Request.drop "df_it's_\"a\"").call? =
        some (.query "DROP TABLE IF EXISTS \"df_it's_\"\"a\"\"\"") ∧
      Quotes "DROP TABLE IF EXISTS \"df_it's_\"\"a\"\"\"" ["df_it's_\"a\""] := by
  obtain ⟨hname, -, -, -, -, -, hsent⟩ := quoting_self_delimiting
  have hload : ⟨quoteRidden, .dropping, [.probe "df_it's_\"a\"", .drop "df_it's_\"a\""]⟩ ∈
      (Loader.reached quoteRiddenLoad).loads := List.mem_singleton.mpr rfl
  have hasked : .drop "df_it's_\"a\"" ∈ [Request.probe "df_it's_\"a\"", .drop "df_it's_\"a\""] := by simp
  have hcall : (Request.drop "df_it's_\"a\"").call? =
      some (.query "DROP TABLE IF EXISTS \"df_it's_\"\"a\"\"\"") := rfl
  exact ⟨(hname "df_it's_\"a\"" " AS t".toList).mpr (by decide), _, hload, hasked, hcall,
    hsent quoteRiddenLoad _ hload _ hasked _ hcall⟩

end Insights
