import Insights.Decode.Checked
import Insights.Decode.Scalar
import Insights.Sql.Literal
import Insights.Store.Basic
import Insights.Value.Document

/-!
Datasets: the handle that stands for a stored payload, the name of the table it is loaded into, and how
it is created.
-/

namespace Insights

/-! ### Names of tables

The names of engine tables. A dataset is loaded into the table that is named after its id, with
underscores for hyphens; two statements about such a table are fixed: whether it exists, and to drop it. -/

def tableNameStart : String := "df_"

/-- The table into which the dataset with the given id is loaded. -/
def tableName (id : String) : String :=
  tableNameStart ++ String.ofList (id.toList.map fun c => if c = '-' then '_' else c)

/-- What the statement that asks for a table begins with. -/
def probeStart : String :=
  "SELECT 1 FROM information_schema.tables WHERE table_name = "

/-- The statement that asks for a table whose name is given as a literal. -/
def existenceStatement (table : Sql.Literal) : String :=
  probeStart ++ table.render ++ " LIMIT 1"

/-- The statement with one row if the table exists, and none if it does not. -/
def probeStatement (table : String) : String :=
  existenceStatement (.text table)

/-- What the statement that drops a table begins with. -/
def dropStart : String :=
  "DROP TABLE IF EXISTS "

/-- The statement that drops a table if it exists. -/
def dropStatement (table : String) : String :=
  dropStart ++ Sql.quoteName table

/-! ### Handles

Datasets: handles that say where the bytes of a dataset are stored. A handle holds no rows. -/

/-- The places where bytes may be stored. -/
inductive StorageKind where
  | local
  | s3
  | r2
deriving DecidableEq, Repr

namespace StorageKind

def word : StorageKind → String
  | .local => "local"
  | .s3 => "s3"
  | .r2 => "r2"

/-- The name under which a place is shown. -/
def label : StorageKind → String
  | .local => "Local Storage"
  | .s3 => "AWS S3"
  | .r2 => "Cloudflare R2"

instance : Choice StorageKind where
  all := [.local, .s3, .r2]
  name := word

/-- The place that a value names. -/
def named (value : Value) : Except Fault StorageKind :=
  Choice.named "StorageKind" value

end StorageKind

/-- Where a payload is stored: the place, and the key that it has there. -/
structure StorageLocation where
  kind : StorageKind
  locator : String
deriving DecidableEq, Repr

namespace StorageLocation

def kindKey : FieldKey := ⟨"type", "kind"⟩
def locatorKey : FieldKey := ⟨"key", "locator"⟩

def ofFields (fields : Fields Value) : Checked StorageLocation :=
  mk <$> fields.required kindKey Choice.check <*> fields.required locatorKey Check.text

/-- Checks a document of a location. -/
def check : Value → Checked StorageLocation :=
  Check.object ofFields

def toJson (location : StorageLocation) : Json :=
  .object [(kindKey.outer, .text location.kind.word), (locatorKey.outer, .text location.locator)]

end StorageLocation

/-- The column or the columns that tell rows apart. -/
inductive PrimaryKey where
  | column (name : String)
  | columns (names : List String)
deriving DecidableEq, Repr

namespace PrimaryKey

/-- The steps that tell apart how a key was tried to be read. -/
def columnForm : String := "str"
def columnsForm : String := "list[str]"

/-- Checks a document of a key: one name or a list of names. When it is neither, the issues of both
forms are kept. -/
def check (value : Value) : Checked PrimaryKey :=
  match Check.text value, Check.list Check.text value with
  | .accepted name, _ => .accepted (.column name)
  | _, .accepted names => .accepted (.columns names)
  | asName, asNames =>
    Checked.apply (Checked.map (fun _ names => .columns names) (asName.under (.key columnForm)))
      (asNames.under (.key columnsForm))

def toJson : PrimaryKey → Json
  | .column name => .text name
  | .columns names => .list (names.map .text)

end PrimaryKey

structure Dataset where
  id : String
  storage : StorageLocation
  fieldIds : List String
  primaryKey : Option PrimaryKey
  /-- Milliseconds since the beginning of 1970. -/
  createdAt : Int
deriving DecidableEq, Repr

namespace Dataset

def idKey : FieldKey := .same "id"
def storageKey : FieldKey := .same "storage"
def fieldIdsKey : FieldKey := ⟨"fieldIds", "field_ids"⟩
def primaryKeyKey : FieldKey := ⟨"primaryKey", "primary_key"⟩
def createdAtKey : FieldKey := ⟨"createdAt", "created_at"⟩

/-- A handle without a time of creation was created now. -/
def ofFields (now : Int) (fields : Fields Value) : Checked Dataset :=
  mk <$> fields.required idKey Check.text
    <*> fields.required storageKey StorageLocation.check
    <*> fields.withDefault fieldIdsKey [] (Check.list Check.text)
    <*> fields.withDefault primaryKeyKey none (Check.optional PrimaryKey.check)
    <*> fields.withDefault createdAtKey now Check.integer

/-- Checks a document of a handle. -/
def check (now : Int) : Value → Checked Dataset :=
  Check.object (ofFields now)

/-- Makes a handle from a document. -/
def ofValue (now : Int) (value : Value) : Except Fault Dataset :=
  (check now value).outcome

def toJson (dataset : Dataset) : Json :=
  .object <|
    [(idKey.outer, .text dataset.id), (storageKey.outer, dataset.storage.toJson),
      (fieldIdsKey.outer, .list (dataset.fieldIds.map Json.text))]
      ++ (dataset.primaryKey.map fun key => (primaryKeyKey.outer, key.toJson)).toList
      ++ [(createdAtKey.outer, .integer dataset.createdAt)]

/-- The table into which the dataset is loaded. -/
def table (dataset : Dataset) : String :=
  tableName dataset.id

/-! ### Creation

The creation of a dataset: its payload is saved under the key of a new id, and a handle to it is made. -/

/-- What a new dataset is made of. The ids of its fields and its primary key are given as values. -/
structure Draft where
  data : Bytes
  fieldIds : Value
  kind : Value
  primaryKey : Value

/-- The document of the handle of a new dataset. -/
def Draft.document (draft : Draft) (id : String) (storage : StorageLocation) (fieldIds : List Value) :
    Value :=
  .object [(idKey.inner, .text id), (storageKey.inner, storage.toJson.toValue),
    (fieldIdsKey.inner, .list fieldIds), (primaryKeyKey.inner, draft.primaryKey)]

/-- Creates a dataset with a new id in a store, which only takes datasets of local storage. The payload
is saved before the rest of the draft is looked at. -/
def create {σ : Type} [ByteStore σ] (now : Int) (id : String) (draft : Draft) (store : σ) :
    Except Fault Dataset × σ :=
  match StorageKind.named draft.kind with
  | .error fault => (.error fault, store)
  | .ok .local =>
    let key := arrowKey id
    let handle := do
      let fieldIds ← draft.fieldIds.items
      ofValue now (draft.document id ⟨.local, key⟩ fieldIds)
    (handle, ByteStore.save store key draft.data)
  | .ok kind => (.error (.unsupportedStorage kind.word), store)

end Dataset
end Insights
