import Insights.Decode.Checked
import Insights.Decode.Scalar
import Insights.Query.Vocabulary
import Insights.Value.Document

/-!
The parts of an insight that describe data: tables with their fields, metrics, and joins of a table to
the base table.
-/

namespace Insights

/-- A field of a table. The column name is its name in the data. -/
structure TableField where
  id : String
  name : String
  column : String
  type : String
  isIdentifier : Option Bool
  isReference : Option Bool
deriving DecidableEq, Repr

namespace TableField

def idKey : FieldKey := .same "id"
def nameKey : FieldKey := .same "name"
def columnKey : FieldKey := ⟨"columnName", "column_name"⟩
def typeKey : FieldKey := .same "type"
def isIdentifierKey : FieldKey := ⟨"isIdentifier", "is_identifier"⟩
def isReferenceKey : FieldKey := ⟨"isReference", "is_reference"⟩

def ofFields (fields : Fields Value) : Checked TableField :=
  mk <$> fields.required idKey Check.text
    <*> fields.required nameKey Check.text
    <*> fields.required columnKey Check.text
    <*> fields.withDefault typeKey "string" Check.text
    <*> fields.withDefault isIdentifierKey none (Check.optional Check.flag)
    <*> fields.withDefault isReferenceKey none (Check.optional Check.flag)

/-- Checks a document of a field. -/
def check : Value → Checked TableField :=
  Check.object ofFields

def toJson (field : TableField) : Json :=
  .object <|
    [(idKey.outer, .text field.id), (nameKey.outer, .text field.name),
      (columnKey.outer, .text field.column), (typeKey.outer, .text field.type)]
      ++ (field.isIdentifier.map fun b => (isIdentifierKey.outer, Json.boolean b)).toList
      ++ (field.isReference.map fun b => (isReferenceKey.outer, Json.boolean b)).toList

/-- Whether the field is shown: a column name that begins with an underscore is internal. -/
def isVisible (field : TableField) : Bool :=
  !field.column.startsWith "_"

end TableField

/-- A table as an insight sees it. Until its data is loaded it has no dataset. -/
structure Table where
  id : String
  name : String
  dataset : Option String
  fields : List TableField
deriving DecidableEq, Repr

namespace Table

def idKey : FieldKey := .same "id"
def nameKey : FieldKey := .same "name"
def datasetKey : FieldKey := ⟨"datasetId", "dataset_id"⟩
def fieldsKey : FieldKey := .same "fields"

def ofFields (fields : Fields Value) : Checked Table :=
  mk <$> fields.required idKey Check.text
    <*> fields.required nameKey Check.text
    <*> fields.withDefault datasetKey none (Check.optional Check.text)
    <*> fields.withDefault fieldsKey [] (Check.list TableField.check)

/-- Checks a document of a table. -/
def check : Value → Checked Table :=
  Check.object ofFields

def toJson (table : Table) : Json :=
  .object <|
    [(idKey.outer, .text table.id), (nameKey.outer, .text table.name)]
      ++ (table.dataset.map fun dataset => (datasetKey.outer, Json.text dataset)).toList
      ++ [(fieldsKey.outer, .list (table.fields.map TableField.toJson))]

/-- The first field with the given id. -/
def field? (table : Table) (id : String) : Option TableField :=
  table.fields.find? (·.id == id)

/-- The fields that are shown, in the order of the table. -/
def visible (table : Table) : List TableField :=
  table.fields.filter TableField.isVisible

/-- The id of the dataset that holds the table's data, if it has one. An empty id is none. -/
def loaded? (table : Table) : Option String :=
  table.dataset.filter (· ≠ "")

end Table

/-- A number computed from a column of a table, or the number of rows. -/
structure Metric where
  id : String
  name : String
  sourceTable : String
  aggregation : Aggregate
  column : Option String
deriving DecidableEq, Repr

namespace Metric

def idKey : FieldKey := .same "id"
def nameKey : FieldKey := .same "name"
def sourceTableKey : FieldKey := ⟨"sourceTable", "source_table"⟩
def aggregationKey : FieldKey := .same "aggregation"
def columnKey : FieldKey := ⟨"columnName", "column_name"⟩

/-- A metric without an id of its own gets the new one. -/
def ofFields (newId : String) (fields : Fields Value) : Checked Metric :=
  mk <$> fields.withDefault idKey newId Check.text
    <*> fields.required nameKey Check.text
    <*> fields.required sourceTableKey Check.text
    <*> fields.required aggregationKey Aggregate.check
    <*> fields.withDefault columnKey none (Check.optional Check.text)

/-- Checks a document of a metric. -/
def check (newId : String) : Value → Checked Metric :=
  Check.object (ofFields newId)

def toJson (metric : Metric) : Json :=
  .object <|
    [(idKey.outer, .text metric.id), (nameKey.outer, .text metric.name),
      (sourceTableKey.outer, .text metric.sourceTable),
      (aggregationKey.outer, .text metric.aggregation.word)]
      ++ (metric.column.map fun column => (columnKey.outer, Json.text column)).toList

/-- The column that the metric is computed from, if it names one. An empty name is none. -/
def column? (metric : Metric) : Option String :=
  metric.column.filter (· ≠ "")

end Metric

/-- The fields of the base table and of the joined table that must be equal. -/
structure JoinKeys where
  baseField : String
  joinedField : String
deriving DecidableEq, Repr

namespace JoinKeys

def baseFieldKey : FieldKey := ⟨"baseField", "base_field"⟩
def joinedFieldKey : FieldKey := ⟨"joinedField", "joined_field"⟩

def ofFields (fields : Fields Value) : Checked JoinKeys :=
  mk <$> fields.required baseFieldKey Check.text <*> fields.required joinedFieldKey Check.text

def check : Value → Checked JoinKeys :=
  Check.object ofFields

def toJson (keys : JoinKeys) : Json :=
  .object [(baseFieldKey.outer, .text keys.baseField), (joinedFieldKey.outer, .text keys.joinedField)]

end JoinKeys

/-- A table joined to the base table. -/
structure Join where
  table : Table
  selectedFields : List String
  keys : JoinKeys
  kind : JoinKind
deriving DecidableEq, Repr

namespace Join

def tableKey : FieldKey := .same "table"
def selectedFieldsKey : FieldKey := ⟨"selectedFields", "selected_fields"⟩
def keysKey : FieldKey := ⟨"joinOn", "join_on"⟩
def kindKey : FieldKey := ⟨"joinType", "join_type"⟩

def ofFields (fields : Fields Value) : Checked Join :=
  mk <$> fields.required tableKey Table.check
    <*> fields.withDefault selectedFieldsKey [] (Check.list Check.text)
    <*> fields.required keysKey JoinKeys.check
    <*> fields.withDefault kindKey .inner Choice.check

/-- Checks a document of a join. -/
def check : Value → Checked Join :=
  Check.object ofFields

def toJson (join : Join) : Json :=
  .object [(tableKey.outer, join.table.toJson),
    (selectedFieldsKey.outer, .list (join.selectedFields.map Json.text)),
    (keysKey.outer, join.keys.toJson), (kindKey.outer, .text join.kind.word)]

end Join
end Insights
