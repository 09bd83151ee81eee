import Insights.Store.Basic
import Insights.Store.Sha1
import Insights.Text.Bytes
import Insights.Value.Basic

/-!
A store that is a directory of files. A payload and its key are two files whose common name is the
digest of the key; the key is read back from its file as lines of text, so every kind of line end in
it comes back as a line feed. The directory is made when the first payload is saved.
-/

namespace Insights

/-- The files of the directory by name, or nothing as long as there is no directory. -/
structure DirectoryStore where
  files : Option (Fields Bytes)

namespace DirectoryStore

def empty : DirectoryStore := ⟨none⟩

/-- The common name of the files of a key. -/
def fileStem (key : String) : String :=
  String.ofList (Sha1.hexDigest (Text.toBytes key))

def payloadEnding : String := ".bin"
def keyEnding : String := ".key"

def payloadFile (key : String) : String :=
  fileStem key ++ payloadEnding

def keyFile (key : String) : String :=
  fileStem key ++ keyEnding

/-- A text with every line end, of one character or of two, as a line feed. -/
def lines : List Char → List Char
  | '\r' :: '\n' :: rest => '\n' :: lines rest
  | '\r' :: rest => '\n' :: lines rest
  | c :: rest => c :: lines rest
  | [] => []

/-- The key that a key file holds. -/
def readKey? (content : Bytes) : Option String :=
  (Text.ofBytes? content).map fun text => String.ofList (lines text.toList)

def listed (store : DirectoryStore) : Fields Bytes :=
  store.files.getD []

/-- The names of the files in ascending order, if there is a directory. -/
def fileNames? (store : DirectoryStore) : Option (List String) :=
  store.files.map fun files => sortedTexts (files.map Prod.fst)

/-- The directory made unless it is there. -/
def made (store : DirectoryStore) : DirectoryStore :=
  ⟨some store.listed⟩

def save (store : DirectoryStore) (key : String) (data : Bytes) : DirectoryStore :=
  ⟨some (Fields.put (keyFile key) (Text.toBytes key) (Fields.put (payloadFile key) data store.listed))⟩

def delete (store : DirectoryStore) (key : String) : DirectoryStore :=
  ⟨store.files.map fun files =>
    files.filter fun file => file.1 != payloadFile key && file.1 != keyFile key⟩

def keys (store : DirectoryStore) : List String :=
  sortedTexts ((store.listed.filter fun file => file.1.endsWith keyEnding).filterMap
    fun file => readKey? file.2)

instance : ByteStore DirectoryStore where
  save := save
  delete := delete
  fetch? store key := store.listed.lookup (payloadFile key)
  keys := keys

end DirectoryStore
end Insights
