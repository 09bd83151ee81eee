import Insights.Proofs.Sql.Template

/-!
What the tokens of a statement say about its shape: every bracket that is opened is closed again, and the
word that begins a clause is there exactly when the clause has something in it.
-/

namespace Insights.Sql

/-- How many brackets are open behind a token, if its own bracket may stand there. -/
def Token.bracket (depth : Nat) (token : Token) : Option Nat :=
  if token = .symbol "(" then some (depth + 1)
  else if token = .symbol ")" then (if depth = 0 then none else some (depth - 1))
  else some depth

def depthAfter (depth : Nat) (tokens : List Token) : Option Nat :=
  tokens.foldlM Token.bracket depth

/-- The tokens close each bracket that they open, and no other one. -/
def Closed (tokens : List Token) : Prop :=
  ∀ depth, depthAfter depth tokens = some depth

def Token.isClauseWord : Token → Bool
  | .word s => clauseWords.contains s
  | _ => false

/-- Tokens that stay within themselves: no bracket is left open, and no clause begins. -/
structure Contained (tokens : List Token) : Prop where
  closed : Closed tokens
  noClause : ∀ token ∈ tokens, token.isClauseWord = false

/-- A token that is neither a bracket nor the beginning of a clause. -/
def Token.isPlain (token : Token) : Bool :=
  token ≠ .symbol "(" && token ≠ .symbol ")" && !token.isClauseWord

variable {tokens first second between : List Token} {parts : List (List Token)}

/-! ### Brackets -/

theorem depthAfter_append (depth : Nat) (first second : List Token) :
    depthAfter depth (first ++ second) = (depthAfter depth first).bind (depthAfter · second) :=
  List.foldlM_append

theorem Closed.append (hfirst : Closed first) (hsecond : Closed second) : Closed (first ++ second) := by
  intro depth
  rw [depthAfter_append, hfirst, Option.bind_some, hsecond]

theorem Closed.enclosed (h : Closed tokens) : Closed ([.symbol "("] ++ tokens ++ [.symbol ")"]) := by
  intro depth
  have hopen : depthAfter depth [.symbol "("] = some (depth + 1) := rfl
  have hclose : depthAfter (depth + 1) [.symbol ")"] = some depth := rfl
  rw [depthAfter_append, depthAfter_append, hopen, Option.bind_some, h, Option.bind_some, hclose]

theorem closed_of_no_bracket (h : ∀ token ∈ tokens, token ≠ .symbol "(" ∧ token ≠ .symbol ")") :
    Closed tokens := by
  intro depth
  induction tokens with
  | nil => rfl
  | cons token rest ih =>
    obtain ⟨hopen, hclose⟩ := h token (List.mem_cons_self ..)
    have hrest := ih fun t ht => h t (List.mem_cons_of_mem _ ht)
    have htoken : token.bracket depth = some depth := by
      simp [Token.bracket, hopen, hclose]
    rw [depthAfter] at hrest ⊢
    rw [List.foldlM_cons, htoken]
    exact hrest

theorem closed_words (words : List String) : Closed (words.map .word) := by
  apply closed_of_no_bracket
  intro token hmem
  obtain ⟨word, -, rfl⟩ := List.mem_map.mp hmem
  simp

/-! ### Tokens that stay within themselves -/

theorem contained_of_isPlain (h : ∀ token ∈ tokens, token.isPlain = true) : Contained tokens := by
  simp only [Token.isPlain, Bool.and_eq_true, decide_eq_true_eq, Bool.not_eq_true'] at h
  exact ⟨closed_of_no_bracket fun token hmem => (h token hmem).1, fun token hmem => (h token hmem).2⟩

theorem contained_nil : Contained [] :=
  contained_of_isPlain (by simp)

theorem Contained.append (hfirst : Contained first) (hsecond : Contained second) :
    Contained (first ++ second) := by
  refine ⟨hfirst.closed.append hsecond.closed, fun token hmem => ?_⟩
  obtain hmem | hmem := List.mem_append.mp hmem
  · exact hfirst.noClause token hmem
  · exact hsecond.noClause token hmem

theorem Contained.enclosed (h : Contained tokens) :
    Contained ([.symbol "("] ++ tokens ++ [.symbol ")"]) := by
  refine ⟨h.closed.enclosed, fun token hmem => ?_⟩
  simp only [List.mem_append, List.mem_singleton] at hmem
  obtain (rfl | hmem) | rfl := hmem
  · rfl
  · exact h.noClause token hmem
  · rfl

theorem contained_flatten (h : ∀ part ∈ parts, Contained part) : Contained parts.flatten := by
  induction parts with
  | nil => exact contained_nil
  | cons part rest ih =>
    have hrest := ih fun p hp => h p (List.mem_cons_of_mem _ hp)
    exact (h part (List.mem_cons_self ..)).append hrest

theorem contained_intercalate (hbetween : Contained between) (h : ∀ part ∈ parts, Contained part) :
    Contained (between.intercalate parts) := by
  induction parts with
  | nil => exact contained_nil
  | cons part rest ih =>
    have hpart := h part (List.mem_cons_self ..)
    cases rest with
    | nil => simpa using hpart
    | cons next rest =>
      have hrest := ih fun p hp => h p (List.mem_cons_of_mem _ hp)
      rw [List.intercalate_cons_cons]
      exact (hpart.append hbetween).append hrest

/-! ### The parts of a statement -/

theorem contained_word {s : String} (h : clauseWords.contains s = false) : Contained [.word s] :=
  contained_of_isPlain (by simpa [Token.isPlain, Token.isClauseWord] using h)

theorem contained_symbol {s : String} (h : (s ≠ "(" && s ≠ ")") = true) : Contained [.symbol s] :=
  contained_of_isPlain (by simpa [Token.isPlain, Token.isClauseWord] using h)

theorem contained_name (name : String) : Contained [.name name] :=
  contained_of_isPlain (by simp [Token.isPlain, Token.isClauseWord])

theorem IsAlias.contained {s : String} (h : IsAlias s) : Contained [.word s] :=
  contained_word (by simpa using h.notMem)

theorem contained_commas (h : ∀ part ∈ parts, Contained part) : Contained (commas parts) :=
  contained_intercalate (contained_symbol rfl) h

theorem Literal.contained (literal : Literal) : Contained [literal.token] := by
  apply contained_of_isPlain
  cases literal with
  | boolean b => cases b <;> decide
  | null => decide
  | number spelling => simp [token, Token.isPlain, Token.isClauseWord]
  | text s => simp [token, Token.isPlain, Token.isClauseWord]

theorem contained_not (negated : Bool) : Contained (notTokens negated) := by
  apply contained_of_isPlain
  cases negated <;> decide

theorem Condition.contained (condition : Condition) : Contained condition.tokens := by
  obtain ⟨column, test⟩ := condition
  apply (contained_name column).append
  cases test with
  | compare comparison operand =>
    have hsymbol : Contained [.symbol comparison.symbol] := by
      apply contained_of_isPlain
      cases comparison <;> decide
    exact hsymbol.append operand.contained
  | member negated operands =>
    have hin : Contained [.word "IN"] := contained_word rfl
    have hoperands : Contained (commas (operands.map ([·.token]))) := by
      apply contained_commas
      intro part hmem
      obtain ⟨operand, -, rfl⟩ := List.mem_map.mp hmem
      exact operand.contained
    have hall := ((contained_not negated).append hin).append hoperands.enclosed
    simpa [Test.tokens] using hall
  | isNull negated =>
    have his : Contained [.word "IS"] := contained_word rfl
    have hnull : Contained [.word "NULL"] := contained_word rfl
    exact (his.append (contained_not negated)).append hnull

theorem Ordering.contained (ordering : Ordering) : Contained ordering.tokens := by
  have hdirection : Contained [.word ordering.direction.keyword] := by
    apply contained_of_isPlain
    cases ordering.direction <;> decide
  exact (contained_name ordering.column).append hdirection

theorem contained_call {keyword : String} (hkeyword : Contained [.word keyword]) (h : Contained tokens) :
    Contained ([.word keyword] ++ ([.symbol "("] ++ tokens ++ [.symbol ")"])) :=
  hkeyword.append h.enclosed

theorem contained_aggregate (function : Aggregate) (column : Option String) :
    Contained (aggregateTokens function column) := by
  have hkeyword : Contained [.word function.keyword] := by
    apply contained_of_isPlain
    cases function <;> decide
  have hstar : Contained [.symbol "*"] := contained_symbol rfl
  have hdistinct : Contained [.word "DISTINCT"] := contained_word rfl
  have hnone : Contained [.word "None"] := contained_word rfl
  cases column with
  | none =>
    cases function with
    | countDistinct => exact contained_call hkeyword (hdistinct.append hnone)
    | _ => exact contained_call hkeyword hstar
  | some column =>
    cases function with
    | countDistinct => exact contained_call hkeyword (hdistinct.append (contained_name column))
    | _ => exact contained_call hkeyword (contained_name column)

theorem contained_as (output : Option String) : Contained (asTokens output) := by
  cases output with
  | none => exact contained_nil
  | some output =>
    have has : Contained [.word "AS"] := contained_word rfl
    exact has.append (contained_name output)

theorem contained_point : Contained [.symbol "."] :=
  contained_symbol rfl

theorem Item.contained {item : Item} (h : item.WellSpelt) : Contained item.tokens := by
  cases item with
  | column name => exact contained_name name
  | qualified table name output =>
    have hcolumn := ((IsAlias.contained h).append contained_point).append (contained_name name)
    exact hcolumn.append (contained_as output)
  | aggregate function argument output =>
    exact (contained_aggregate function argument).append (contained_as output)

theorem contained_items {items : List Item} (h : ∀ item ∈ items, item.WellSpelt) :
    Contained (listTokens (items.map Item.tokens)) := by
  unfold listTokens
  split
  · exact contained_symbol rfl
  · apply contained_commas
    intro part hmem
    obtain ⟨item, hitem, rfl⟩ := List.mem_map.mp hmem
    exact Item.contained (h item hitem)

theorem TableRef.contained {table : TableRef} (h : table.WellSpelt) : Contained table.tokens := by
  obtain ⟨name, shortName⟩ := table
  cases shortName with
  | none => exact contained_name name
  | some shortName =>
    have has : Contained [.word "AS"] := contained_word rfl
    exact ((contained_name name).append has).append (h shortName rfl).contained

theorem TableRef.contained_qualifier {table : TableRef} (h : table.WellSpelt) :
    Contained [table.qualifierToken] := by
  obtain ⟨name, shortName⟩ := table
  cases shortName with
  | none => exact contained_name name
  | some shortName => exact (h shortName rfl).contained

theorem JoinClause.contained {base : TableRef} {join : JoinClause} (hbase : base.WellSpelt)
    (h : join.table.WellSpelt) : Contained (join.tokens base) := by
  have hkind : Contained ((joinWords join.kind).map .word) := by
    apply contained_of_isPlain
    cases join.kind <;> decide
  have hon : Contained [.word "ON"] := contained_word rfl
  have hequals : Contained [.symbol "="] := contained_symbol rfl
  have hleft := ((TableRef.contained_qualifier hbase).append contained_point).append
    (contained_name join.baseColumn)
  have hright := ((TableRef.contained_qualifier h).append contained_point).append
    (contained_name join.column)
  exact ((((hkind.append (TableRef.contained h)).append hon).append hleft).append hequals).append hright

theorem Joined.contained {tables : Joined} (h : tables.WellSpelt) : Contained tables.tokens := by
  apply (TableRef.contained h.base).append
  rw [List.flatMap_def]
  apply contained_flatten
  intro part hmem
  obtain ⟨join, hjoin, rfl⟩ := List.mem_map.mp hmem
  exact JoinClause.contained h.base (h.joins join hjoin)

theorem Source.contained {source : Source} (h : source.WellSpelt) : Contained source.tokens := by
  cases source with
  | tables joined => exact Joined.contained h
  | derived items joined shortName =>
    obtain ⟨hitems, hjoined, hshortName⟩ := h
    have hselect : Contained [.word "SELECT"] := contained_word rfl
    have hfrom : Contained [.word "FROM"] := contained_word rfl
    have has : Contained [.word "AS"] := contained_word rfl
    have hinner := ((hselect.append (contained_items hitems)).append hfrom).append
      (Joined.contained hjoined)
    have hall := (hinner.enclosed.append has).append hshortName.contained
    simpa [Source.tokens] using hall

/-! ### Clauses -/

theorem not_mem_of_contained {word : String} (hword : word ∈ clauseWords) (h : Contained tokens) :
    .word word ∉ tokens := by
  intro hmem
  have := h.noClause _ hmem
  simp [Token.isClauseWord, hword] at this

theorem closed_clause (keywords : List String) {between : Token} (hbetween : Contained [between])
    (h : ∀ part ∈ parts, Contained part) : Closed (clauseTokens keywords between parts) := by
  unfold clauseTokens
  split
  · exact contained_nil.closed
  · exact (closed_words keywords).append (contained_intercalate hbetween h).closed

theorem mem_clause {keywords : List String} {between : Token} {word : String}
    (hword : word ∈ clauseWords) (hbetween : Contained [between]) (h : ∀ part ∈ parts, Contained part) :
    .word word ∈ clauseTokens keywords between parts ↔ parts ≠ [] ∧ word ∈ keywords := by
  have hinner := not_mem_of_contained hword (contained_intercalate hbetween h)
  cases parts with
  | nil => simp [clauseTokens]
  | cons part rest => simpa [clauseTokens] using fun hmem => absurd hmem hinner

theorem closed_count (keyword : String) (count : Option Value) : Closed (countTokens keyword count) := by
  apply closed_of_no_bracket
  cases count <;> simp [countTokens]

theorem mem_count {keyword word : String} {count : Option Value} :
    .word word ∈ countTokens keyword count ↔ count ≠ none ∧ word = keyword := by
  cases count <;> simp [countTokens]

/-- Everything between two clause words stays within itself. -/
structure Statement.Parts (s : Statement) : Prop where
  items : Contained (listTokens (s.items.map Item.tokens))
  source : Contained s.source.tokens
  conditions : ∀ part ∈ s.conditions.map Condition.tokens, Contained part
  groups : ∀ part ∈ s.groups.map ([Token.name ·]), Contained part
  orderings : ∀ part ∈ s.orderings.map Ordering.tokens, Contained part

theorem Statement.parts_contained {s : Statement} (h : s.Aliased) : s.Parts where
  items := contained_items h.items
  source := Source.contained h.source
  conditions := by
    intro part hmem
    obtain ⟨condition, -, rfl⟩ := List.mem_map.mp hmem
    exact condition.contained
  groups := by
    intro part hmem
    obtain ⟨name, -, rfl⟩ := List.mem_map.mp hmem
    exact contained_name name
  orderings := by
    intro part hmem
    obtain ⟨ordering, -, rfl⟩ := List.mem_map.mp hmem
    exact ordering.contained

theorem contained_and : Contained [.word "AND"] :=
  contained_word rfl

theorem contained_comma : Contained [.symbol ","] :=
  contained_symbol rfl

theorem contained_select : Contained [.word "SELECT"] :=
  contained_word rfl

theorem contained_from : Contained [.word "FROM"] :=
  contained_word rfl

/-- A statement closes every bracket that it opens. -/
theorem Statement.closed {s : Statement} (h : s.Aliased) : Closed s.tokens := by
  have hparts := Statement.parts_contained h
  have hitems := contained_select.append hparts.items
  have hsource := (hitems.append contained_from).append hparts.source
  have hwhere := hsource.closed.append (closed_clause ["WHERE"] contained_and hparts.conditions)
  have hgroup := hwhere.append (closed_clause ["GROUP", "BY"] contained_comma hparts.groups)
  have horder := hgroup.append (closed_clause ["ORDER", "BY"] contained_comma hparts.orderings)
  exact (horder.append (closed_count "LIMIT" s.limit)).append (closed_count "OFFSET" s.offset)

/-- The words that begin clauses stand just before the clauses that are there. -/
theorem Statement.mem_tokens {s : Statement} (h : s.Aliased) {word : String}
    (hword : word ∈ clauseWords) :
    .word word ∈ s.tokens ↔
      s.conditions ≠ [] ∧ word = "WHERE" ∨ s.groups ≠ [] ∧ word = "GROUP" ∨
        s.orderings ≠ [] ∧ word = "ORDER" ∨ s.limit ≠ none ∧ word = "LIMIT" ∨
        s.offset ≠ none ∧ word = "OFFSET" := by
  have hparts := Statement.parts_contained h
  have hselect := (contained_select.append hparts.items).append contained_from
  have hsource := not_mem_of_contained hword (hselect.append hparts.source)
  have hby : word ≠ "BY" := by
    rintro rfl
    exact absurd hword (by decide)
  rw [Statement.tokens, List.mem_append, List.mem_append, List.mem_append, List.mem_append,
    List.mem_append, mem_clause hword contained_and hparts.conditions,
    mem_clause hword contained_comma hparts.groups, mem_clause hword contained_comma hparts.orderings,
    mem_count, mem_count]
  simp only [hsource, hby, false_or, or_assoc, ne_eq, List.map_eq_nil_iff, List.mem_cons,
    List.not_mem_nil, or_false]

end Insights.Sql
