import Insights.Value.Basic

/-!
Documents of values, and values of documents.
-/

namespace Insights

/-! ### Values of documents -/

mutual
/-- A document as a value. -/
def Json.toValue : Json → Value
  | .null => .null
  | .boolean b => .boolean b
  | .integer n => .integer n
  | .float x => .float x
  | .text s => .text s
  | .list items => .list (Json.toValues items)
  | .object fields => .object (Json.toFields fields)

def Json.toValues : List Json → List Value
  | [] => []
  | item :: rest => item.toValue :: Json.toValues rest

def Json.toFields : List (String × Json) → List (String × Value)
  | [] => []
  | (name, item) :: rest => (name, item.toValue) :: Json.toFields rest
end

/-! ### Documents that keep the kinds of values

Such a document holds the values themselves, except for objects of classes that it takes apart. -/

mutual
/-- What a document that keeps the kinds of its values holds in the place of a value. -/
def Value.documented : Value → Value
  | .list items => .list (Value.documentedItems items)
  | .object fields => .object (Value.documentedFields fields)
  | .custom _ _ _ _ (some replacement) => replacement.documented
  | value => value

def Value.documentedItems : List Value → List Value
  | [] => []
  | item :: rest => item.documented :: Value.documentedItems rest

def Value.documentedFields : List (String × Value) → List (String × Value)
  | [] => []
  | (name, value) :: rest => (name, value.documented) :: Value.documentedFields rest
end

/-! ### JSON documents

The two ways in which a value becomes a JSON document. A value on its own is converted so that the same
literal can be made of the document again; a value inside another one is written plainly. -/

mutual
/-- The document of a value that stands inside another value: decimals and moments as texts, bytes as
the text that they encode. -/
def Value.innerJson? : Value → Option Json
  | .null => some .null
  | .boolean b => some (.boolean b)
  | .integer n => some (.integer n)
  | .float x => some (.float x)
  | .decimal d => some (.text (String.ofList d.text))
  | .timestamp t => some (.text (String.ofList t.zoned))
  | .date d => some (.text (String.ofList d.iso))
  | .text s => some (.text s)
  | .bytes b => (Text.ofBytes? b).map .text
  | .list items => (Value.innerItems? items).map .list
  | .object fields => (Value.innerFields? fields).map .object
  | .custom _ _ _ json _ => json

def Value.innerItems? : List Value → Option (List Json)
  | [] => some []
  | item :: rest => do
    let first ← item.innerJson?
    return first :: (← Value.innerItems? rest)

def Value.innerFields? : List (String × Value) → Option (List (String × Json))
  | [] => some []
  | (name, value) :: rest => do
    let first ← value.innerJson?
    return (name, first) :: (← Value.innerFields? rest)
end

mutual
/-- How deep the parts of a value lie, itself included. -/
def Value.depth : Value → Nat
  | .list items => Value.itemsDepth items + 1
  | .object fields => Value.fieldsDepth fields + 1
  | _ => 1

def Value.itemsDepth : List Value → Nat
  | [] => 0
  | item :: rest => max item.depth (Value.itemsDepth rest)

def Value.fieldsDepth : List (String × Value) → Nat
  | [] => 0
  | (_, value) :: rest => max value.depth (Value.fieldsDepth rest)
end

/-- The greatest depth of a value that is written into a document. -/
def depthLimit : Nat := 255

/-- The document of a value that is compared with: a moment in its literal form, a decimal of any class as
the nearest binary number. -/
def Value.operandJson? : Value → Option Json
  | .timestamp t => t.literal?.map fun text => .text (String.ofList text)
  | .date d => some (.text (String.ofList d.iso))
  | .decimal d | .custom (some (.decimal d)) _ _ _ _ => d.toBinary64?.map .float
  | value => value.innerJson?

end Insights
