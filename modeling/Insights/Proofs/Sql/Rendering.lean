import Insights.Proofs.Sql.Template

/-!
The text of a well-spelt statement is cut into exactly the tokens of its template. Each part is a fragment
that may stop where a part of a statement ends, so the parts are put together without looking inside them.
-/

namespace Insights.Sql

variable {stops : Char → Bool}

theorem mem_intercalate {α : Type} {between part : List α} {parts : List (List α)} {a : α}
    (hpart : part ∈ parts) (ha : a ∈ part) : a ∈ between.intercalate parts := by
  induction parts with
  | nil => simp at hpart
  | cons first rest ih =>
    cases rest with
    | nil =>
      obtain rfl : part = first := by simpa using hpart
      simpa using ha
    | cons next rest =>
      rw [List.intercalate_cons_cons]
      obtain rfl | hpart := List.mem_cons.mp hpart
      · simp [ha]
      · simp [ih hpart]

theorem lexes_name_atBreak (name : String) : Lexes isBreak (quoteName name) [.name name] :=
  (lexes_name name).atBreak rfl

theorem lexes_word_atBreak {word : String} (h : isWord word = true) : Lexes isBreak word [.word word] :=
  (lexes_word h).atBreak rfl

theorem leads_break {text : String} {c : Char} (htext : text.toList.head? = some c)
    (hc : isBreak c = true) : Leads isBreak text stops :=
  leads_head htext hc

theorem Literal.lexes {literal : Literal} (h : literal.WellSpelt) :
    Lexes isBreak literal.render [literal.token] := by
  cases literal with
  | null => exact lexes_word_atBreak rfl
  | boolean b =>
    cases b with
    | true => exact lexes_word_atBreak rfl
    | false => exact lexes_word_atBreak rfl
  | number spelling =>
    have := lexes_numeral h
    rwa [String.ofList_toList] at this
  | text s => exact (lexes_text s).atBreak rfl

theorem lexes_commas {α : Type} {render : α → String} {tokensOf : α → List Token} {parts : List α}
    (h : ∀ part ∈ parts, Lexes isBreak (render part) (tokensOf part)) :
    Lexes isBreak (separated ", " (parts.map render)) (commas (parts.map tokensOf)) :=
  lexes_separated lexes_comma (leads_break (c := ',') rfl rfl) parts h

theorem lexes_member (negated : Bool) :
    Lexes (!isWordPart ·) (Operator.member negated).keyword (notTokens negated ++ [.word "IN"]) := by
  cases negated with
  | false => exact lexes_word rfl
  | true => exact lexes_phrase ["NOT", "IN"] (by decide) rfl

theorem lexes_isNull (negated : Bool) :
    Lexes (!isWordPart ·) (Operator.isNull negated).keyword
      ([.word "IS"] ++ notTokens negated ++ [.word "NULL"]) := by
  cases negated with
  | false => exact lexes_phrase ["IS", "NULL"] (by decide) rfl
  | true => exact lexes_phrase ["IS", "NOT", "NULL"] (by decide) rfl

theorem Condition.lexes {condition : Condition} (h : condition.test.WellSpelt) :
    Lexes isBreak condition.render condition.tokens := by
  obtain ⟨column, test⟩ := condition
  have hcolumn := (lexes_name_atBreak column).spaced rfl
  cases test with
  | compare comparison operand =>
    have hsymbol := (hcolumn.andThen (lexes_comparison comparison)).spaced rfl
    exact hsymbol.andThen (Literal.lexes h)
  | member negated operands =>
    have hkeyword := hcolumn.andThen (lexes_member negated)
    have htext : " (" = " " ++ "(" := rfl
    have hopen := hkeyword.append lexes_open.afterSpace (leads_head (c := ' ') rfl rfl)
    rw [← htext] at hopen
    have hoperands : Lexes isBreak (separated ", " (operands.map Literal.render))
        (commas (operands.map ([·.token]))) :=
      lexes_commas fun operand hmem => Literal.lexes (h operand hmem)
    have hclose := (hopen.andThen hoperands).append lexes_close (leads_break (c := ')') rfl rfl)
    refine (hclose.atBreak rfl).congr ?_
    simp [Condition.tokens, Test.tokens]
  | isNull negated =>
    have hkeyword := hcolumn.andThen (lexes_isNull negated)
    exact hkeyword.atBreak rfl

theorem Ordering.lexes (ordering : Ordering) : Lexes isBreak ordering.render ordering.tokens := by
  have hcolumn := (lexes_name_atBreak ordering.column).spaced rfl
  have hdirection : isWord ordering.direction.keyword = true := by
    cases ordering.direction <;> decide
  exact hcolumn.andThen (lexes_word_atBreak hdirection)

theorem lexes_callAll {keyword : String} (h : isWord keyword = true) :
    Lexes isBreak (keyword ++ "(*)") [.word keyword, .symbol "(", .symbol "*", .symbol ")"] := by
  have htext : "(*)" = "(" ++ "*" ++ ")" := rfl
  have hall := (lexes_open.andThen lexes_star).andThen lexes_close
  rw [← htext] at hall
  exact ((lexes_word h).append hall (leads_head (c := '(') rfl rfl)).atBreak rfl

theorem lexes_call {keyword : String} (h : isWord keyword = true) (column : String) :
    Lexes isBreak (keyword ++ "(" ++ quoteName column ++ ")")
      [.word keyword, .symbol "(", .name column, .symbol ")"] := by
  have hopen := (lexes_word h).append lexes_open (leads_head (c := '(') rfl rfl)
  have hcolumn := hopen.andThen (lexes_name_atBreak column)
  exact (hcolumn.append lexes_close (leads_break (c := ')') rfl rfl)).atBreak rfl

theorem lexes_callDistinct (column : Option String) :
    Lexes isBreak ("COUNT(DISTINCT " ++ (column.map quoteName).getD "None" ++ ")")
      (aggregateTokens .countDistinct column) := by
  have htext : "COUNT(DISTINCT " = "COUNT" ++ "(" ++ "DISTINCT" ++ " " := rfl
  have hcount : Lexes (!isWordPart ·) "COUNT" [.word "COUNT"] := lexes_word rfl
  have hopen := hcount.append lexes_open (leads_head (c := '(') rfl rfl)
  have hdistinct : Lexes (!isWordPart ·) "DISTINCT" [.word "DISTINCT"] := lexes_word rfl
  have hkeyword := (hopen.andThen hdistinct).spaced rfl
  rw [← htext] at hkeyword
  have hargument : Lexes isBreak ((column.map quoteName).getD "None")
      [(column.map Token.name).getD (.word "None")] := by
    cases column with
    | none => exact lexes_word_atBreak rfl
    | some name => exact lexes_name_atBreak name
  have hcolumn := hkeyword.andThen hargument
  exact (hcolumn.append lexes_close (leads_break (c := ')') rfl rfl)).atBreak rfl

theorem lexes_aggregate (function : Aggregate) (column : Option String) :
    Lexes isBreak (renderAggregate function (column.map quoteName)) (aggregateTokens function column) := by
  cases column with
  | none =>
    cases function with
    | countDistinct => exact lexes_callDistinct none
    | _ => exact lexes_callAll rfl
  | some column =>
    cases function with
    | countDistinct => exact lexes_callDistinct (some column)
    | _ => exact lexes_call rfl column

theorem lexes_as {text : String} {tokens : List Token} (h : Lexes isBreak text tokens)
    (output : Option String) : Lexes isBreak (text ++ renderAs output) (tokens ++ asTokens output) := by
  cases output with
  | none => exact h.append lexes_empty (leads_optional meets_nil)
  | some output =>
    have has : Lexes anything " AS " [.word "AS"] := lexes_keyword rfl rfl
    have houtput := has.andThen (lexes_name_atBreak output)
    exact h.append houtput (leads_append (c := ' ') rfl rfl)

theorem lexes_qualified {qualifier : String} {token : Token}
    (h : Lexes (· = '.') qualifier [token]) (column : String) :
    Lexes isBreak (qualifier ++ "." ++ quoteName column) [token, .symbol ".", .name column] := by
  have hpoint := h.append lexes_point (leads_head (c := '.') rfl rfl)
  exact hpoint.andThen (lexes_name_atBreak column)

theorem Item.lexes {item : Item} (h : item.WellSpelt) : Lexes isBreak item.render item.tokens := by
  cases item with
  | column name => exact lexes_name_atBreak name
  | qualified table name output => exact lexes_as (lexes_qualified ((lexes_word h.isWord).atPoint rfl) name) output
  | aggregate function argument output => exact lexes_as (lexes_aggregate function argument) output

theorem lexes_items {items : List Item} (h : ∀ item ∈ items, item.WellSpelt) :
    Lexes isBreak (renderItems items) (listTokens (items.map Item.tokens)) := by
  cases items with
  | nil => exact lexes_star.atBreak rfl
  | cons item rest => exact lexes_commas fun item hmem => Item.lexes (h item hmem)

theorem TableRef.lexes {table : TableRef} (h : table.WellSpelt) :
    Lexes isBreak table.render table.tokens := by
  obtain ⟨name, shortName⟩ := table
  cases shortName with
  | none => exact lexes_name_atBreak name
  | some shortName =>
    have has : Lexes anything " AS " [.word "AS"] := lexes_keyword rfl rfl
    have hname := (lexes_name_atBreak name).append has (leads_break (c := ' ') rfl rfl)
    exact hname.andThen (lexes_word_atBreak (h shortName rfl).isWord)

theorem TableRef.lexes_qualifier {table : TableRef} (h : table.WellSpelt) :
    Lexes (· = '.') table.qualifier [table.qualifierToken] := by
  obtain ⟨name, shortName⟩ := table
  cases shortName with
  | none => exact (lexes_name name).atPoint rfl
  | some shortName => exact (lexes_word (h shortName rfl).isWord).atPoint rfl

theorem lexes_joinKind (kind : JoinKind) :
    Lexes (!isWordPart ·) kind.keyword ((joinWords kind).map .word) := by
  apply lexes_phrase
  · cases kind <;> decide
  · cases kind <;> decide

theorem lexes_spacedEquals : Lexes anything " = " [.symbol "="] := by
  have htext : " = " = " " ++ "=" ++ " " := rfl
  rw [htext]
  exact lexes_equals.afterSpace.spaced rfl

theorem JoinClause.lexes {base : TableRef} {join : JoinClause} (hbase : base.WellSpelt)
    (h : join.table.WellSpelt) : Lexes isBreak (join.render base) (join.tokens base) := by
  have hon : Lexes anything " ON " [.word "ON"] := lexes_keyword rfl rfl
  have hpoint : Leads (· = '.') "." anything := leads_head (c := '.') rfl rfl
  -- the text is one long sum from the left, so each piece is put behind all pieces before it
  have hkind := (lexes_joinKind join.kind).spaced rfl
  have htable := hkind.andThen (TableRef.lexes h)
  have hbaseTable := (htable.append hon (leads_break (c := ' ') rfl rfl)).andThen
    (TableRef.lexes_qualifier hbase)
  have hbaseColumn := (hbaseTable.append lexes_point hpoint).andThen
    (lexes_name_atBreak join.baseColumn)
  have hjoined := (hbaseColumn.append lexes_spacedEquals (leads_break (c := ' ') rfl rfl)).andThen
    (TableRef.lexes_qualifier h)
  have hcolumn := (hjoined.append lexes_point hpoint).andThen (lexes_name_atBreak join.column)
  refine hcolumn.congr ?_
  simp [JoinClause.tokens]

theorem lexes_joins {base : TableRef} (hbase : base.WellSpelt) {joins : List JoinClause}
    (h : ∀ join ∈ joins, join.table.WellSpelt) :
    Lexes isBreak (separated " " (joins.map (·.render base))) (joins.flatMap (·.tokens base)) := by
  have hjoins := lexes_separated lexes_space (leads_space rfl) joins fun join hmem =>
    JoinClause.lexes hbase (h join hmem)
  rwa [intercalate_nil, ← List.flatMap_def] at hjoins

theorem Joined.lexes {tables : Joined} (h : tables.WellSpelt) :
    Lexes isBreak tables.render tables.tokens := by
  have hbase := TableRef.lexes h.base
  have hjoins := lexes_joins h.base h.joins
  obtain ⟨base, joins⟩ := tables
  cases joins with
  | nil => simpa [Joined.render, Joined.tokens, separated_singleton] using hbase
  | cons join rest =>
    have hall := (hbase.spaced rfl).andThen hjoins
    simpa only [Joined.render, Joined.tokens, List.map_cons, separated_cons_cons] using hall

theorem lexes_from : Lexes anything " FROM " [.word "FROM"] :=
  lexes_keyword rfl rfl

theorem lexes_select : Lexes anything "SELECT " [.word "SELECT"] := by
  have htext : "SELECT " = "SELECT" ++ " " := rfl
  have hword : Lexes (!isWordPart ·) "SELECT" [.word "SELECT"] := lexes_word rfl
  rw [htext]
  exact hword.spaced rfl

theorem Source.lexes {source : Source} (h : source.WellSpelt) :
    Lexes isBreak source.render source.tokens := by
  cases source with
  | tables joined => exact Joined.lexes h
  | derived items joined shortName =>
    obtain ⟨hitems, hjoined, hshortName⟩ := h
    have hselect : Lexes anything "(SELECT " [.symbol "(", .word "SELECT"] := by
      have htext : "(SELECT " = "(" ++ "SELECT " := rfl
      rw [htext]
      exact lexes_open.andThen lexes_select
    have has : Lexes anything ") AS " [.symbol ")", .word "AS"] := by
      have htext : ") AS " = ")" ++ " AS " := rfl
      rw [htext]
      exact lexes_close.andThen (lexes_keyword rfl rfl)
    have hinner := hselect.andThen (lexes_items hitems)
    have htables := (hinner.append lexes_from (leads_break (c := ' ') rfl rfl)).andThen
      (Joined.lexes hjoined)
    have hclosed := (htables.append has (leads_break (c := ')') rfl rfl)).andThen
      (lexes_word_atBreak hshortName.isWord)
    refine hclosed.congr ?_
    simp [Source.tokens]

/-- A clause may be put behind a fragment, whether or not there is something in it. -/
theorem Lexes.clause {α : Type} {text keyword : String} {tokens : List Token} {keywords : List String}
    {between : Token} {render : List α → String} {tokensOf : α → List Token} {parts : List α}
    (h : Lexes isBreak text tokens) (hkeyword : Lexes (!isWordPart ·) keyword (keywords.map .word))
    (hparts : Lexes isBreak (render parts) ([between].intercalate (parts.map tokensOf))) :
    Lexes isBreak (text ++ renderClause keyword render parts)
      (tokens ++ clauseTokens keywords between (parts.map tokensOf)) := by
  cases parts with
  | nil => exact h.append lexes_empty (leads_optional meets_nil)
  | cons part rest =>
    have hclause := (hkeyword.afterSpace.spaced rfl).andThen hparts
    have hhead : (" " ++ keyword ++ " " ++ render (part :: rest)).toList.head? = some ' ' := by
      simp [String.toList_append]
    exact h.append hclause (leads_break hhead rfl)

theorem Lexes.count {text keyword : String} {tokens : List Token} (h : Lexes isBreak text tokens)
    (hkeyword : isWord keyword = true) {count : Option Value} (hcount : CountWellSpelt count) :
    Lexes isBreak (text ++ renderCount keyword count) (tokens ++ countTokens keyword count) := by
  cases count with
  | none => exact h.append lexes_empty (leads_optional meets_nil)
  | some value =>
    have hfront := (lexes_word hkeyword).afterSpace.spaced rfl
    have hclause := hfront.andThen (lexes_numeral (hcount value rfl))
    have hhead : (" " ++ keyword ++ " " ++ String.ofList value.plain).toList.head? = some ' ' := by
      simp [String.toList_append]
    exact h.append hclause (leads_break hhead rfl)

/-- The text of a statement gives the tokens of its template. -/
theorem Statement.lexes {s : Statement} (h : s.WellSpelt) : Lexes isBreak s.render s.tokens := by
  have hwhere : Lexes (!isWordPart ·) "WHERE" (["WHERE"].map .word) := lexes_word rfl
  have hgroup : Lexes (!isWordPart ·) "GROUP BY" (["GROUP", "BY"].map .word) :=
    lexes_phrase _ (by decide) rfl
  have horder : Lexes (!isWordPart ·) "ORDER BY" (["ORDER", "BY"].map .word) :=
    lexes_phrase _ (by decide) rfl
  have hand : Lexes anything " AND " [.word "AND"] := lexes_keyword rfl rfl
  have hconditions : Lexes isBreak (renderConditions s.conditions)
      ([.word "AND"].intercalate (s.conditions.map Condition.tokens)) :=
    lexes_separated hand (leads_break (c := ' ') rfl rfl) s.conditions fun condition hmem =>
      Condition.lexes (h.conditions condition hmem)
  have hgroups : Lexes isBreak (separated ", " (s.groups.map quoteName))
      (commas (s.groups.map ([.name ·]))) :=
    lexes_commas fun name _ => lexes_name_atBreak name
  have horderings : Lexes isBreak (renderOrderings s.orderings)
      (commas (s.orderings.map Ordering.tokens)) :=
    lexes_commas fun ordering _ => ordering.lexes
  have hitems := lexes_select.andThen (lexes_items h.items)
  have hsource := (hitems.append lexes_from (leads_break (c := ' ') rfl rfl)).andThen
    (Source.lexes h.source)
  exact ((((hsource.clause hwhere hconditions).clause hgroup hgroups).clause horder
    horderings).count rfl h.limit).count rfl h.offset

/-! ### Numbers of any spelling

A number that is spelt in any other way than as a numeral is not read as the number of the template. -/

theorem wellSpelt_of_token {literal : Literal} {found : List Token} (hmem : literal.token ∈ found)
    (h : ∀ spelling, .number spelling ∈ found → IsNumeral spelling.toList) : literal.WellSpelt := by
  cases literal with
  | number spelling => exact h spelling hmem
  | _ => trivial

theorem Test.wellSpelt_of_tokens {test : Test} {found : List Token} (hsub : test.tokens ⊆ found)
    (h : ∀ spelling, .number spelling ∈ found → IsNumeral spelling.toList) : test.WellSpelt := by
  cases test with
  | isNull negated => trivial
  | compare comparison operand => exact wellSpelt_of_token (hsub (by simp [tokens])) h
  | member negated operands =>
    intro operand hmem
    have hpart : operand.token ∈ commas (operands.map ([·.token])) :=
      mem_intercalate (List.mem_map_of_mem hmem) (List.mem_singleton_self _)
    exact wellSpelt_of_token (hsub (by simp [tokens, hpart])) h

theorem countWellSpelt_of_tokens {keyword : String} {count : Option Value} {found : List Token}
    (hsub : countTokens keyword count ⊆ found)
    (h : ∀ spelling, .number spelling ∈ found → IsNumeral spelling.toList) : CountWellSpelt count := by
  rintro value rfl
  have hvalue := h (String.ofList value.plain) (hsub (by simp [countTokens]))
  rwa [String.toList_ofList] at hvalue

/-- The text of a statement gives the tokens of its template exactly when its numbers are spelt as
numerals. -/
theorem Statement.lex_eq_iff {s : Statement} (h : s.Aliased) :
    lex s.render.toList = some s.tokens ↔ s.WellSpelt := by
  refine ⟨fun hlex => ?_, fun hspelt => (lexes hspelt).lex_eq⟩
  have hnumbers : ∀ spelling, .number spelling ∈ s.tokens → IsNumeral spelling.toList :=
    fun _ hmem => isNumeral_of_mem_lex hlex hmem
  have hwhere : ∀ condition ∈ s.conditions, condition.tokens ⊆ s.tokens := by
    intro condition hmem token htoken
    have hpart : token ∈ clauseTokens ["WHERE"] (.word "AND") (s.conditions.map Condition.tokens) := by
      have hne : s.conditions ≠ [] := List.ne_nil_of_mem hmem
      simp [clauseTokens, hne, mem_intercalate (List.mem_map_of_mem hmem) htoken]
    simp [tokens, hpart]
  refine ⟨h, fun condition hmem => ?_, ?_, ?_⟩
  · exact Test.wellSpelt_of_tokens (fun _ htoken => hwhere condition hmem (by simp [Condition.tokens, htoken]))
      hnumbers
  · have hlimit : countTokens "LIMIT" s.limit ⊆ s.tokens := fun _ htoken => by simp [tokens, htoken]
    exact countWellSpelt_of_tokens hlimit hnumbers
  · have hoffset : countTokens "OFFSET" s.offset ⊆ s.tokens := fun _ htoken => by simp [tokens, htoken]
    exact countWellSpelt_of_tokens hoffset hnumbers

end Insights.Sql
