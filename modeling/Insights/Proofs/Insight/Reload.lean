import Insights.Proofs.Insight.Document
import Insights.Proofs.Insight.Sharing
import Insights.Proofs.Value.Literal

/-!
The statement of an insight that was written as JSON text and read again. Its text differs from the
statement of the insight itself exactly in the literals that their values do not keep, and in the columns of
a base table that is joined to itself.
-/

namespace Insights

/-! ### Documents that can be read -/

theorem Json.areReadable_eq (items : List Json) : areReadable items = items.all isReadable := by
  induction items with
  | nil => rfl
  | cons item rest ih => rw [areReadable, ih, List.all_cons]

theorem Json.haveReadable_eq (fields : Fields Json) :
    haveReadable fields = fields.all (fun field => field.2.isReadable) := by
  induction fields with
  | nil => rfl
  | cons field rest ih => rw [haveReadable, ih, List.all_cons]

theorem Json.isReadable_of_mem_object {fields : Fields Json} (h : (object fields).isReadable = true)
    (name : String) {document : Json} (hmem : (name, document) ∈ fields) : document.isReadable = true := by
  rw [isReadable, haveReadable_eq, List.all_eq_true] at h
  exact h _ hmem

theorem Json.isReadable_of_mem_list {items : List Json} (h : (list items).isReadable = true)
    {document : Json} (hmem : document ∈ items) : document.isReadable = true := by
  rw [isReadable, areReadable_eq, List.all_eq_true] at h
  exact h _ hmem

theorem Json.native_toValue (document : Json) : document.toValue.native = document.toValue := by
  cases document <;> rfl

theorem Json.read?_render_eq_some {document reread : Json} (h : read? document.render = some reread) :
    document.isReadable = true ∧ reread = document.reread := by
  rw [read?_render, reread?] at h
  split at h
  next hreadable => exact ⟨hreadable, (Option.some.inj h).symm⟩
  next => cases h

theorem Json.exists_read?_iff (document : Json) :
    (∃ reread, read? document.render = some reread) ↔ document.isReadable = true := by
  refine ⟨fun ⟨_, h⟩ => (read?_render_eq_some h).1, fun h => ⟨document.reread, ?_⟩⟩
  rw [read?_render, reread?, if_pos h]

/-! ### Conditions -/

namespace Predicate

/-- The document of a filter has both its value and its values in it, whichever of them it uses. -/
structure IsWritable (predicate : Predicate) : Prop where
  value : predicate.value.isWritable = true
  values : ∀ values ∈ predicate.values, (Value.list values).isWritable = true

/-- The documents of the values of a filter can be read. -/
structure IsReadable (predicate : Predicate) : Prop where
  value : ∀ document, operandJson? predicate.value = some document → document.isReadable = true
  values : ∀ value ∈ predicate.values.getD [], ∀ document, value.operandJson? = some document →
    document.isReadable = true

/-- The values that the operator of a filter looks at keep their literals. The items of a list that is
compared with as a whole are operands too. -/
def KeepsLiterals (predicate : Predicate) : Prop :=
  match predicate.operator with
  | .isNull _ => True
  | .compare _ => predicate.value.keepsLiteral (operandJson? predicate.value) = true
  | .member _ => ∀ value ∈ predicate.values.getD [], value.keepsLiteral value.operandJson? = true

theorem isSome_valueFields? (predicate : Predicate) :
    predicate.valueFields?.isSome = predicate.value.isWritable := by
  rw [← isSome_operandJson?]
  unfold valueFields?
  split
  next hnull => rw [hnull]; rfl
  next => exact Option.isSome_map

theorem isSome_valuesFields? (predicate : Predicate) :
    predicate.valuesFields?.isSome = true ↔ ∀ values ∈ predicate.values, (Value.list values).isWritable = true := by
  unfold valuesFields?
  split
  next hnone => simp [hnone]
  next values hsome => simp [hsome, Option.isSome_map, isSome_operandJson?]

theorem exists_toJson_iff (predicate : Predicate) :
    (∃ document, predicate.toJson = .ok document) ↔ predicate.IsWritable := by
  simp only [toJson_eq, orFault_eq_ok, ← Option.isSome_iff_exists]
  have hparts {α β γ : Type} (x : Option α) (y : Option β) (f : α → β → γ) :
      (x.bind fun a => y.map (f a)).isSome = (x.isSome && y.isSome) := by
    cases x <;> cases y <;> rfl
  rw [hparts, Bool.and_eq_true, isSome_valueFields?, isSome_valuesFields?]
  exact ⟨fun h => ⟨h.1, h.2⟩, fun h => ⟨h.value, h.values⟩⟩

variable {predicate again : Predicate}

theorem isReadable_of_operands {values : List Value} {documents : List Json}
    (h : List.Forall₂ (fun value document => value.operandJson? = some document) values documents)
    (hreadable : ∀ document ∈ documents, document.isReadable = true) :
    ∀ value ∈ values, ∀ document, value.operandJson? = some document → document.isReadable = true := by
  refine forall_of_forall₂ h hreadable fun value found hfound hreadable document hdocument => ?_
  rwa [← Option.some.inj (hfound.symm.trans hdocument)]

theorem isReadable_of_toJson {document : Json} (h : predicate.toJson = .ok document)
    (hreadable : document.isReadable = true) : predicate.IsReadable := by
  rw [toJson_eq, orFault_eq_ok, Option.bind_eq_some_iff] at h
  obtain ⟨valueFields, hvalue, h⟩ := h
  obtain ⟨valuesFields, hvalues, rfl⟩ := Option.map_eq_some_iff.mp h
  obtain ⟨operand, hoperand, hvalueFields⟩ := valueFields?_ok hvalue
  constructor
  · intro document hdocument
    obtain rfl := Option.some.inj (hoperand.symm.trans hdocument)
    rcases hvalueFields with rfl | ⟨-, rfl⟩
    · exact Json.isReadable_of_mem_object hreadable valueKey.outer (by simp)
    · rfl
  · rcases valuesFields?_ok hvalues with ⟨-, hnone⟩ | ⟨values, documents, rfl, hsome, hall⟩
    · simp [hnone]
    · have hdocuments : (Json.list documents).isReadable = true :=
        Json.isReadable_of_mem_object hreadable valuesKey.outer (by simp)
      rw [hsome, Option.getD_some]
      exact isReadable_of_operands hall fun _ => Json.isReadable_of_mem_list hdocuments

theorem Rereads.operands (h : predicate.Rereads again) (hreadable : predicate.IsReadable)
    {operands : List Sql.Literal}
    (hoperands : (predicate.values.getD []).mapM Sql.Literal.ofValue = .ok operands) :
    ∃ operands', (again.values.getD []).mapM Sql.Literal.ofValue = .ok operands' ∧
      operands.length = operands'.length ∧
      (operands' = operands ↔
        ∀ value ∈ predicate.values.getD [], value.keepsLiteral value.operandJson? = true) := by
  have hreturns : List.Forall₂ (fun value value' => ∀ literal, Sql.Literal.ofValue value = .ok literal →
      ∃ literal', Sql.Literal.ofValue value' = .ok literal' ∧ True ∧
        (literal' = literal ↔ value.keepsLiteral value.operandJson? = true))
      (predicate.values.getD []) (again.values.getD []) := by
    refine ((List.forall₂_and_left _ _).mpr ⟨hreadable.values, h.values⟩).imp ?_
    rintro value value' ⟨hreadable, document, hdocument, rfl⟩ literal hliteral
    obtain ⟨literal', hliteral', hsame⟩ := Value.literal_comes_back (hreadable document hdocument)
      (fun hregular => Value.literalReturns_operand hregular hdocument) hliteral
    rw [hdocument]
    exact ⟨literal', hliteral', trivial, hsame⟩
  obtain ⟨operands', hoperands', hlength, hsame⟩ := mapM_along hreturns hoperands
  exact ⟨operands', hoperands', hlength.length_eq, hsame⟩

theorem Rereads.test (h : predicate.Rereads again) (hreadable : predicate.IsReadable) {test : Sql.Test}
    (htest : predicate.test = .ok test) :
    ∃ test', again.test = .ok test' ∧ test.SameShape test' ∧ (test' = test ↔ predicate.KeepsLiterals) := by
  rw [Predicate.test, h.operator]
  rw [Predicate.test] at htest
  simp only [KeepsLiterals]
  cases hused : predicate.operator with
  | isNull negated =>
    rw [hused] at htest
    cases htest
    exact ⟨_, rfl, .isNull negated, by simp⟩
  | compare comparison =>
    rw [hused] at htest
    obtain ⟨operand, hoperand, htest⟩ := bind_eq_ok.mp htest
    rw [pure_eq_ok] at htest
    subst htest
    obtain ⟨document, hdocument, hvalue⟩ := h.value
    obtain ⟨operand', hoperand', hsame⟩ := Value.literal_comes_back (hreadable.value document hdocument)
      (fun hregular => literalReturns_operand hregular hdocument) hoperand
    refine ⟨_, bind_eq_ok.mpr ⟨operand', hvalue ▸ hoperand', rfl⟩, .compare comparison operand operand', ?_⟩
    simp [hsame, hdocument]
  | member negated =>
    rw [hused] at htest
    obtain ⟨operands, hoperands, htest⟩ := bind_eq_ok.mp htest
    rw [pure_eq_ok] at htest
    subst htest
    obtain ⟨operands', hoperands', hlength, hsame⟩ := h.operands hreadable hoperands
    refine ⟨_, bind_eq_ok.mpr ⟨operands', hoperands', rfl⟩, .member negated hlength, ?_⟩
    simp [hsame]

theorem Rereads.condition (h : predicate.Rereads again) (hreadable : predicate.IsReadable) :
    ∀ condition, predicate.condition = .ok condition → ∃ condition', again.condition = .ok condition' ∧
      condition.SameShape condition' ∧ (condition' = condition ↔ predicate.KeepsLiterals) := by
  intro condition hcondition
  obtain ⟨test, htest, hcondition⟩ := bind_eq_ok.mp hcondition
  rw [pure_eq_ok] at hcondition
  subst hcondition
  obtain ⟨test', htest', hshape, hsame⟩ := h.test hreadable htest
  refine ⟨⟨predicate.column, test'⟩, ?_, ⟨rfl, hshape⟩, by simp [hsame]⟩
  rw [Predicate.condition, htest', h.column]
  rfl

/-- What was read has no objects of other classes in it, and so its numbers have the texts of numbers. -/
theorem Rereads.isSpelt (h : predicate.Rereads again) (hreadable : predicate.IsReadable) : again.IsSpelt := by
  have hspelt : ∀ {document : Json}, document.isReadable = true → document.reread.toValue.IsSpelt := by
    intro document hreadable
    obtain ⟨literal, hliteral⟩ := document.exists_literal hreadable
    exact Value.isSpelt_of_native document.reread.native_toValue hliteral
  intro value hmem
  unfold Predicate.operands at hmem
  split at hmem
  · cases hmem
  · revert value
    refine forall_of_forall₂ h.values.flip hreadable.values ?_
    rintro value' value ⟨document, hdocument, rfl⟩ hreadable
    exact hspelt (hreadable document hdocument)
  · obtain ⟨document, hdocument, hvalue⟩ := h.value
    rw [List.mem_singleton.mp hmem, hvalue]
    exact hspelt (hreadable.value document hdocument)

end Predicate

/-! ### Statements -/

namespace InsightObject

/-- A statement has the conditions of the filters, and other filters change nothing but the conditions. -/
def SeparatesConditions (object : InsightObject) (statementOf : InsightObject → Except Fault Sql.Statement) :
    Prop :=
  ∀ s, statementOf object = .ok s → conditions object.insight.filters = .ok s.conditions ∧
    ∀ filters found, conditions filters = .ok found →
      statementOf (object.withFilters filters) = .ok { s with conditions := found }

section Separates

variable {object : InsightObject}

theorem SeparatesConditions.bind {α : Type} {x : InsightObject → Except Fault α}
    {f : α → InsightObject → Except Fault Sql.Statement}
    (hx : ∀ filters, x (object.withFilters filters) = x object)
    (hf : ∀ a, object.SeparatesConditions (f a)) :
    object.SeparatesConditions fun object => x object >>= (f · object) := by
  intro s h
  obtain ⟨a, ha, h⟩ := bind_eq_ok.mp h
  obtain ⟨hbefore, hafter⟩ := hf a s h
  exact ⟨hbefore, fun filters found hfound =>
    bind_eq_ok.mpr ⟨a, (hx filters).trans ha, hafter filters found hfound⟩⟩

theorem SeparatesConditions.ite {c : InsightObject → Bool} {f g : InsightObject → Except Fault Sql.Statement}
    (hc : ∀ filters, c (object.withFilters filters) = c object) (hf : object.SeparatesConditions f)
    (hg : object.SeparatesConditions g) :
    object.SeparatesConditions fun object => if c object then f object else g object := by
  intro s h
  simp only [hc]
  cases hcase : c object with
  | true => exact hf s ((if_pos hcase).symm.trans h)
  | false => exact hg s ((if_neg (Bool.not_eq_true _ ▸ hcase)).symm.trans h)

theorem assemble_separates (items : List Sql.Item) (source : Sql.Source) (groups : List String) :
    object.SeparatesConditions (·.insight.assemble items source groups) := by
  intro s h
  simp only [Insight.assemble, bind_eq_ok, pure_eq_ok] at h ⊢
  obtain ⟨before, hbefore, limit, hlimit, rfl⟩ := h
  exact ⟨hbefore, fun filters found hfound => ⟨found, hfound, limit, hlimit, rfl⟩⟩

theorem simpleStatement_separates (dataset : String) :
    object.SeparatesConditions (·.insight.simpleStatement dataset) := by
  refine .ite (fun _ => rfl) (.bind (fun _ => rfl) fun items => ?_) ?_
  · exact assemble_separates items _ object.insight.groupBy
  · exact assemble_separates (object.insight.shownFields.map fun field => .column field.column) _ []

theorem joinedStatement_separates (dataset : String) :
    object.SeparatesConditions (·.joinedStatement dataset) := by
  refine .bind (fun _ => rfl) fun layout => .ite (fun _ => rfl) (.bind (fun _ => rfl) fun items => ?_) ?_
  · exact assemble_separates items _ object.insight.groupBy
  · exact assemble_separates [] _ []

theorem statement_separates : object.SeparatesConditions statement := by
  refine .bind (fun _ => rfl) fun dataset => .ite (fun _ => rfl) ?_ ?_
  · exact simpleStatement_separates dataset
  · exact joinedStatement_separates dataset

end Separates

end InsightObject

/-! ### Insights that are read again -/

theorem Insight.exists_toJson_iff (insight : Insight) :
    (∃ document, insight.toJson = .ok document) ↔
      ∀ predicate ∈ insight.filters, predicate.IsWritable := by
  simp only [← Predicate.exists_toJson_iff]
  rw [← exists_mapM_iff]
  simp only [toJson, bind_eq_ok, pure_eq_ok]
  constructor
  · rintro ⟨document, documents, hdocuments, -⟩
    exact ⟨documents, hdocuments⟩
  · rintro ⟨documents, hdocuments⟩
    exact ⟨_, documents, hdocuments, rfl⟩

theorem Insight.isReadable_of_toJson {insight : Insight} {document : Json} (h : insight.toJson = .ok document)
    (hreadable : document.isReadable = true) : ∀ predicate ∈ insight.filters, predicate.IsReadable := by
  simp only [toJson, bind_eq_ok, pure_eq_ok] at h
  obtain ⟨documents, hdocuments, rfl⟩ := h
  have hfilters : (Json.list documents).isReadable = true :=
    Json.isReadable_of_mem_object hreadable filtersKey.outer (by simp)
  refine forall_of_forall₂ (forall₂_of_mapM hdocuments) (fun _ => Json.isReadable_of_mem_list hfilters) ?_
  exact fun predicate document => Predicate.isReadable_of_toJson

namespace InsightObject

variable {object : InsightObject} {text : String}

/-- With filters that were read from documents of the old ones, and over tables that are all objects of
their own, there is a statement again. Its text is the same when all literals were kept and the base table
keeps its keys once, and for numbers that have the texts of numbers only then. -/
theorem sql_rereads {filters : List Predicate}
    (hreadable : ∀ predicate ∈ object.insight.filters, predicate.IsReadable)
    (hrereads : List.Forall₂ Predicate.Rereads object.insight.filters filters) (h : object.sql = .ok text) :
    ∃ text', { object.insight with filters }.sql = .ok text' ∧
      (object.KeepsKeysOnce → (∀ predicate ∈ object.insight.filters, predicate.KeepsLiterals) → text' = text) ∧
      ((∀ predicate ∈ object.insight.filters, predicate.IsSpelt) → text' = text →
        object.KeepsKeysOnce ∧ ∀ predicate ∈ object.insight.filters, predicate.KeepsLiterals) := by
  obtain ⟨s, hs, rfl⟩ := map_eq_ok.mp h
  obtain ⟨source, hown, hkept, honce⟩ := exists_source hs
  obtain ⟨hconditions, -⟩ := statement_separates s hs
  -- filter by filter: each has a condition again, of the same shape, and the same one if it keeps its literals
  have hboth := (List.forall₂_and_left _ _).mpr ⟨hreadable, hrereads⟩
  obtain ⟨found, hfound, hshape, hsame⟩ := mapM_along (hboth.imp fun _ _ h => h.2.condition h.1) hconditions
  have hs' : { object.insight with filters }.statement = .ok { s with source, conditions := found } :=
    (statement_separates _ hown).2 filters found hfound
  refine ⟨_, map_eq_ok.mpr ⟨_, hs', rfl⟩, fun hkeys hliterals => ?_, fun hspelt hrender => ?_⟩
  · rw [hkept hkeys, hsame.mpr hliterals]
  · have hspelt' : ∀ predicate ∈ filters, predicate.IsSpelt :=
      forall_of_forall₂ hrereads.flip hreadable fun _ _ h hreadable => h.isSpelt hreadable
    obtain ⟨hsource, heq⟩ := Sql.Statement.eq_of_render ((statement_ok hs).wellSpelt hspelt)
      ((statement_ok hs').wellSpelt hspelt') hshape hrender.symm
    exact ⟨honce hsource.symm, hsame.mp heq.symm⟩

/-- What becomes of an insight with a statement when it is written as JSON text and read again. The text can
be written unless a value cannot, and read unless it has an integer with too many digits in it. What is read
is an insight with a statement. -/
structure Reloads (object : InsightObject) (text : String) (newId : Nat → String) : Prop where
  writable : (∃ document, object.insight.toJson = .ok document) ↔
    ∀ predicate ∈ object.insight.filters, predicate.IsWritable
  readable : ∀ document, object.insight.toJson = .ok document →
    ((∃ reread, Json.read? document.render = some reread) ↔ document.isReadable = true)
  again : ∀ document reread, object.insight.toJson = .ok document →
    Json.read? document.render = some reread → ∃ again text',
      Insight.ofValue newId reread.toValue = .ok again ∧ again.sql = .ok text' ∧
      (object.KeepsKeysOnce → (∀ predicate ∈ object.insight.filters, predicate.KeepsLiterals) → text' = text) ∧
      ((∀ predicate ∈ object.insight.filters, predicate.IsSpelt) → text' = text →
        object.KeepsKeysOnce ∧ ∀ predicate ∈ object.insight.filters, predicate.KeepsLiterals)

/-- An insight that was made from parts and has a statement has the same one when it was written and read,
if every value that a filter uses keeps its literal and the base table is not joined to itself with a key
that both of its places show. Where all numbers have the texts of numbers it is the same in no other case. -/
theorem reloaded_sql {newId : Nat → String} {parts : Fields Insight.Part}
    (hmade : Insight.ofParts newId parts = .ok object.insight) (h : object.sql = .ok text)
    (newId' : Nat → String) : object.Reloads text newId' := by
  refine ⟨object.insight.exists_toJson_iff, fun document _ => document.exists_read?_iff, ?_⟩
  intro document reread hdocument hread
  obtain ⟨hreadable, rfl⟩ := Json.read?_render_eq_some hread
  obtain ⟨filters, hagain, hrereads⟩ :=
    Insight.ofValue_toJson (Insight.isProperName_of_ofParts hmade) hdocument newId'
  obtain ⟨text', htext', hsame⟩ :=
    sql_rereads (Insight.isReadable_of_toJson hdocument hreadable) hrereads h
  exact ⟨_, text', hagain, htext', hsame⟩

/-- The sales with a value above the given one. -/
def salesAbove (value : Value) : Insight where
  id := "i"
  name := "large sales"
  base := ⟨"s", "sales", some "a", [⟨"s1", "Id", "id", "string", none, none⟩,
    ⟨"s2", "Value", "value", "string", none, none⟩, ⟨"s3", "Row", "_row", "string", none, none⟩]⟩
  selectedFields := []
  metrics := []
  filters := [⟨"value", .compare .gt, value, none⟩]
  groupBy := []
  orderBy := []
  limit := none
  joins := []

theorem reloaded_sql_salesAbove :
    ∃ text document reread again, (salesAbove (.decimal (.finite false 25 (-1)))).apart.sql = .ok text ∧
      (salesAbove (.decimal (.finite false 25 (-1)))).toJson = .ok document ∧
      Json.read? document.render = some reread ∧ Insight.ofValue (fun _ => "") reread.toValue = .ok again ∧
      again.sql = .ok text := by
  let object := (salesAbove (.decimal (.finite false 25 (-1)))).apart
  have hsql : object.sql = .ok "SELECT \"id\", \"value\" FROM \"df_a\" WHERE \"value\" > 2.5" := by
    decide +kernel
  have hmade : Insight.ofParts (fun _ => "") object.insight.parts = .ok object.insight := by decide +kernel
  have hwritable : ∀ predicate ∈ object.insight.filters, predicate.IsWritable := by
    intro predicate hmem
    rw [List.mem_singleton.mp hmem]
    exact ⟨by decide +kernel, nofun⟩
  have hliterals : ∀ predicate ∈ object.insight.filters, predicate.KeepsLiterals := by
    intro predicate hmem
    rw [List.mem_singleton.mp hmem]
    have hkeeps : (Value.decimal (.finite false 25 (-1))).keepsLiteral
        (Predicate.operandJson? (.decimal (.finite false 25 (-1)))) = true := by decide +kernel
    exact hkeeps
  have hkeys : object.KeepsKeysOnce := keepsKeysOnce_of_no_joins rfl
  obtain ⟨hwrite, hread, hagain⟩ := reloaded_sql hmade hsql fun _ => ""
  obtain ⟨document, hdocument⟩ := hwrite.mpr hwritable
  have hreadable : object.insight.toJson.toOption.map Json.isReadable = some true := by decide +kernel
  obtain ⟨reread, hreread⟩ := (hread document hdocument).mpr (by simpa [hdocument, Except.toOption] using hreadable)
  obtain ⟨again, text, hofValue, htext, hsame, -⟩ := hagain document reread hdocument hreread
  exact ⟨_, document, reread, again, hsql, hdocument, hreread, hofValue, hsame hkeys hliterals ▸ htext⟩

/-- A decimal without places is compared with as it is, but comes back as a binary number, which is written
with a place. -/
theorem reloaded_sql_differs :
    ∃ document reread again, (salesAbove (.decimal (.finite false 10 0))).toJson = .ok document ∧
      Json.read? document.render = some reread ∧ Insight.ofValue (fun _ => "") reread.toValue = .ok again ∧
      (salesAbove (.decimal (.finite false 10 0))).sql =
        .ok "SELECT \"id\", \"value\" FROM \"df_a\" WHERE \"value\" > 10" ∧
      again.sql = .ok "SELECT \"id\", \"value\" FROM \"df_a\" WHERE \"value\" > 10.0" := by
  have hsql : (salesAbove (.decimal (.finite false 10 0))).sql =
      .ok "SELECT \"id\", \"value\" FROM \"df_a\" WHERE \"value\" > 10" := by decide +kernel
  have hreadable : (salesAbove (.decimal (.finite false 10 0))).toJson.toOption.map Json.isReadable =
      some true := by decide +kernel
  have hagain : ((salesAbove (.decimal (.finite false 10 0))).toJson >>= fun document =>
      Insight.ofValue (fun _ => "") document.reread.toValue >>= Insight.sql) =
      .ok "SELECT \"id\", \"value\" FROM \"df_a\" WHERE \"value\" > 10.0" := by decide +kernel
  obtain ⟨document, hdocument, hagain⟩ := bind_eq_ok.mp hagain
  obtain ⟨again, hofValue, hagain⟩ := bind_eq_ok.mp hagain
  have hread : Json.read? document.render = some document.reread := by
    rw [Json.read?_render, Json.reread?, if_pos (by simpa [hdocument, Except.toOption] using hreadable)]
  exact ⟨document, document.reread, again, hdocument, hread, hofValue, hsql, hagain⟩

end InsightObject
end Insights
