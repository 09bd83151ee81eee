import Insights.Engine.Connection
import Insights.Proofs.Sql.Numeral
import Insights.Proofs.Text.LetterCase

/-!
The classes of types as engines spell them. A scalar type has its class in any letter case, with or without
parameters and with blanks around. A nested type stands for text, with one exception: in an array whose
elements are scalars with parameters, perhaps at some depth, the parameters of the element are taken for
those of the array, and the array has the class of its elements.
-/

namespace Insights

open Text

/-- The types whose members have names. -/
inductive MemberKind where
  | struct
  | union
deriving DecidableEq, Repr

def MemberKind.word : MemberKind → String
  | .struct => "STRUCT"
  | .union => "UNION"

/-- Types as engines build them. A scalar type is any text, with its parameters if it has some. -/
inductive TypeTerm where
  | scalar (text : List Char)
  | array (element : TypeTerm) (length : Option Nat)
  | named (kind : MemberKind) (members : List (List Char × TypeTerm))
  | map (key value : TypeTerm)

namespace TypeTerm

mutual
def text : TypeTerm → List Char
  | scalar text => text
  | array element length => element.text ++ '[' :: (length.elim [] digitsOf ++ [']'])
  | named kind members =>
    kind.word.toList ++ '(' :: (", ".toList.intercalate (memberTexts members) ++ [')'])
  | map key value => "MAP".toList ++ '(' :: (key.text ++ ", ".toList ++ value.text ++ [')'])

def memberTexts : List (List Char × TypeTerm) → List (List Char)
  | [] => []
  | (name, type) :: rest => (name ++ ' ' :: type.text) :: memberTexts rest
end

def IsNested : TypeTerm → Prop
  | scalar _ => False
  | _ => True

/-- What an array, perhaps of arrays, has as its elements in the end. -/
def innermost : TypeTerm → TypeTerm
  | array element _ => element.innermost
  | type => type

/-- The type is an array of scalars with parameters that do not stand for text. -/
def IsMisread (type : TypeTerm) : Prop :=
  ∃ scalarText, type.innermost = scalar scalarText ∧ '(' ∈ scalarText ∧
    ColumnType.ofName (String.ofList scalarText) ≠ .text

/-- The text is that of the type, in any letter case and with blanks around. -/
def Spells (type : TypeTerm) (text : List Char) : Prop :=
  ∃ before spelt after, text = before ++ spelt ++ after ∧ AllBlank before ∧ AllBlank after ∧
    SameLetters type.text spelt

end TypeTerm

/-- The text is that of the scalar type with the name, in any letter case, perhaps with a list in
parentheses, and with blanks around. -/
def SpellsScalar (name : String) (text : List Char) : Prop :=
  ∃ before spelt behind, text = before ++ spelt ++ behind ∧ AllBlank before ∧
    SameLetters name.toList spelt ∧
    (AllBlank behind ∨ ∃ gap list after, behind = gap ++ '(' :: (list ++ ')' :: after) ∧
      AllBlank gap ∧ AllBlank after)

/-! ### What stands in front of the parameters -/

/-- What stands in front of the first parenthesis. -/
def typeFront (text : List Char) : List Char :=
  text.takeWhile (· ≠ '(')

variable {text other : List Char}

theorem typeFront_of_not_mem (h : '(' ∉ text) : typeFront text = text :=
  List.takeWhile_eq_self_iff.mpr fun _ hc => decide_eq_true (ne_of_mem_of_not_mem hc h)

theorem typeFront_append_of_not_mem (h : '(' ∉ text) (other : List Char) :
    typeFront (text ++ other) = text ++ typeFront other :=
  List.takeWhile_append_of_pos fun _ hc => decide_eq_true (ne_of_mem_of_not_mem hc h)

/-- Nothing counts that follows a parenthesis. -/
theorem typeFront_append_of_mem (h : '(' ∈ text) (other : List Char) :
    typeFront (text ++ other) = typeFront text := by
  obtain ⟨early, late, rfl, hearly⟩ := List.eq_append_cons_of_mem h
  rw [List.append_assoc, typeFront_append_of_not_mem hearly, typeFront_append_of_not_mem hearly]
  simp [typeFront]

theorem typeFront_append_parenthesis (text other : List Char) :
    typeFront (text ++ '(' :: other) = typeFront text := by
  by_cases h : '(' ∈ text
  · rw [typeFront_append_of_mem h]
  · rw [typeFront_append_of_not_mem h, typeFront_of_not_mem h]
    simp [typeFront]

theorem typeFront_upper (text : List Char) : typeFront (upper text) = upper (typeFront text) := by
  by_cases h : '(' ∈ text
  · obtain ⟨early, late, rfl, hearly⟩ := List.eq_append_cons_of_mem h
    have hupper : '(' ∉ upper early := fun hmem => hearly (parenthesis_mem_upper.mp hmem)
    have hparenthesis : upper ('(' :: late) = '(' :: upper late := by
      rw [upper, List.flatMap_cons, upperOf_of_lt (by decide)]
      rfl
    rw [upper_append, typeFront_append_of_not_mem hupper, typeFront_append_of_not_mem hearly, hparenthesis]
    simp [typeFront]
  · rw [typeFront_of_not_mem h, typeFront_of_not_mem fun hmem => h (parenthesis_mem_upper.mp hmem)]

theorem typeWords_eq (text : List Char) : typeWords text = trim (upper (typeFront text)) := by
  rw [← typeFront_upper]
  rfl

theorem not_mem_of_allBlank (h : AllBlank text) : '(' ∉ text :=
  fun hmem => absurd (h _ hmem) (by decide)

theorem typeWords_surrounded {before after : List Char} (hbefore : AllBlank before) (hafter : AllBlank after)
    (text : List Char) : typeWords (before ++ text ++ after) = typeWords text := by
  have hfront : ∃ rest, AllBlank rest ∧ typeFront (before ++ text ++ after) = before ++ typeFront text ++ rest := by
    rw [List.append_assoc, typeFront_append_of_not_mem (not_mem_of_allBlank hbefore)]
    by_cases h : '(' ∈ text
    · exact ⟨[], nofun, by rw [typeFront_append_of_mem h, List.append_nil]⟩
    · refine ⟨after, hafter, ?_⟩
      rw [typeFront_append_of_not_mem h, typeFront_of_not_mem h, typeFront_of_not_mem (not_mem_of_allBlank hafter),
        List.append_assoc]
  obtain ⟨rest, hrest, hfront⟩ := hfront
  rw [typeWords_eq, hfront, upper_append, upper_append, upper_of_allBlank hbefore, upper_of_allBlank hrest,
    trim_surrounded hbefore hrest, typeWords_eq]

theorem typeWords_of_sameLetters (h : SameLetters text other) : typeWords text = typeWords other := by
  rw [typeWords, typeWords, upper_eq_of_sameLetters h]

theorem typeWords_append_of_mem (h : '(' ∈ text) (other : List Char) :
    typeWords (text ++ other) = typeWords text := by
  rw [typeWords_eq, typeWords_eq, typeFront_append_of_mem h]

theorem typeWords_append_parenthesis (text other : List Char) :
    typeWords (text ++ '(' :: other) = typeWords text := by
  rw [typeWords_eq, typeWords_eq, typeFront_append_parenthesis]

namespace ColumnType

theorem ofName_eq (name : String) :
    ofName name = (scalarTypes.lookup (String.ofList (typeWords name.toList))).getD .text :=
  rfl

theorem ofName_congr {name name' : String} (h : typeWords name.toList = typeWords name'.toList) :
    ofName name = ofName name' := by
  rw [ofName_eq, ofName_eq, h]

/-- A bracket that no parenthesis comes before is in no name of a scalar type. -/
theorem ofName_of_bracket (hbracket : ']' ∈ text) (hparenthesis : '(' ∉ text) :
    ofName (String.ofList text) = .text := by
  have hwords : ']' ∈ typeWords text := by
    rw [typeWords_eq, typeFront_of_not_mem hparenthesis]
    have hkept : ']' ∈ upperOf ']' := by
      rw [upperOf_of_lt (by decide)]
      exact List.mem_singleton_self ']'
    exact mem_trim (List.mem_flatMap.mpr ⟨']', hbracket, hkept⟩) (by decide)
  have hnames : ∀ entry ∈ scalarTypes, ']' ∉ entry.1.toList := by decide
  have hnone : scalarTypes.lookup (String.ofList (typeWords text)) = none := by
    rw [List.lookup_eq_none_iff]
    intro entry hentry
    rw [bne_iff_ne]
    intro heq
    have hmem := hnames entry hentry
    rw [← heq, String.toList_ofList] at hmem
    exact hmem hwords
  rw [ofName_eq, String.toList_ofList, hnone]
  rfl

/-- A name in upper case, trimmed and without parameters is looked up as it is. -/
theorem ofName_of_plain {name : String} (hcapital : name.toList.all (·.toNat < 97) = true)
    (hplain : trim (typeFront name.toList) = name.toList) : ofName name = (scalarTypes.lookup name).getD .text := by
  have hupper : upper (typeFront name.toList) = typeFront name.toList := by
    refine upper_eq_self fun c hc => upperOf_of_lt ?_
    have hmem := (List.takeWhile_prefix (· ≠ '(')).subset hc
    simpa using List.all_eq_true.mp hcapital c hmem
  rw [ofName_eq, typeWords_eq, hupper, hplain, String.ofList_toList]

theorem ofName_of_scalar {name text : String} {type : ColumnType} (hname : (name, type) ∈ scalarTypes)
    (h : SpellsScalar name text.toList) : ofName text = type := by
  have hnames : ∀ entry ∈ scalarTypes, entry.1.toList.all (·.toNat < 97) = true ∧
      trim (typeFront entry.1.toList) = entry.1.toList ∧ scalarTypes.lookup entry.1 = some entry.2 := by
    decide +kernel
  have hknown : ofName name = type := by
    obtain ⟨hcapital, hplain, hlookup⟩ := hnames _ hname
    rw [ofName_of_plain hcapital hplain, hlookup]
    rfl
  refine (ofName_congr ?_).trans hknown
  obtain ⟨before, spelt, behind, htext, hbefore, hspelt, hbehind⟩ := h
  rw [htext, typeWords_of_sameLetters hspelt]
  rcases hbehind with hblank | ⟨gap, list, after, rfl, hgap, -⟩
  · exact typeWords_surrounded hbefore hblank spelt
  · rw [← List.append_assoc, typeWords_append_parenthesis]
    exact typeWords_surrounded hbefore hgap spelt

end ColumnType

namespace TypeTerm

open ColumnType

theorem text_scalar (text : List Char) : (scalar text).text = text :=
  rfl

theorem text_array (element : TypeTerm) (length : Option Nat) :
    (array element length).text = element.text ++ '[' :: (length.elim [] digitsOf ++ [']']) :=
  rfl

theorem text_named (kind : MemberKind) (members : List (List Char × TypeTerm)) :
    (named kind members).text =
      kind.word.toList ++ '(' :: (", ".toList.intercalate (memberTexts members) ++ [')']) :=
  rfl

theorem text_map (key value : TypeTerm) :
    (map key value).text = "MAP".toList ++ '(' :: (key.text ++ ", ".toList ++ value.text ++ [')']) :=
  rfl

theorem not_mem_brackets (length : Option Nat) : '(' ∉ '[' :: (length.elim [] digitsOf ++ [']']) := by
  have hdigits : '(' ∉ length.elim [] digitsOf := by
    cases length with
    | none => exact List.not_mem_nil
    | some n => exact Sql.not_mem_digitsOf rfl n
  simp [hdigits]

/-- Only what an array has as its elements in the end puts parentheses into its text. -/
theorem parenthesis_mem_innermost : ∀ type : TypeTerm, '(' ∈ type.text ↔ '(' ∈ type.innermost.text
  | scalar _ | named _ _ | map _ _ => Iff.rfl
  | array element length => by
    rw [text_array, List.mem_append, or_iff_left (not_mem_brackets length)]
    exact parenthesis_mem_innermost element

/-- With a parenthesis in its text, a type begins with the words that such an element begins with. -/
theorem typeWords_innermost : ∀ type : TypeTerm, '(' ∈ type.text →
    typeWords type.text = typeWords type.innermost.text
  | scalar _, _ | named _ _, _ | map _ _, _ => rfl
  | array element length, h => by
    have helement : '(' ∈ element.text :=
      (parenthesis_mem_innermost element).mpr ((parenthesis_mem_innermost (array element length)).mp h)
    rw [text_array, typeWords_append_of_mem helement]
    exact typeWords_innermost element helement

theorem innermost_ne_array : ∀ type element : TypeTerm, ∀ length, type.innermost ≠ array element length
  | scalar _, _, _ | named _ _, _, _ | map _ _, _, _ => nofun
  | array element _, other, length => innermost_ne_array element other length

theorem ofName_named (kind : MemberKind) (members : List (List Char × TypeTerm)) :
    ofName (String.ofList (named kind members).text) = .text := by
  have hkind : ofName kind.word = .text := by
    cases kind <;> exact (ofName_of_plain (by decide) (by decide)).trans (by decide)
  refine (ofName_congr ?_).trans hkind
  rw [String.toList_ofList, text_named, typeWords_append_parenthesis]

theorem ofName_map (key value : TypeTerm) : ofName (String.ofList (map key value).text) = .text := by
  have hword : ofName "MAP" = .text := (ofName_of_plain (by decide) (by decide)).trans (by decide)
  refine (ofName_congr ?_).trans hword
  rw [String.toList_ofList, text_map, typeWords_append_parenthesis]

theorem ofName_innermost {type : TypeTerm} (h : '(' ∈ type.text) :
    ofName (String.ofList type.text) = ofName (String.ofList type.innermost.text) := by
  apply ofName_congr
  rw [String.toList_ofList, String.toList_ofList, typeWords_innermost type h]

theorem ofName_ne_text_iff {type : TypeTerm} (h : type.IsNested) :
    ofName (String.ofList type.text) ≠ .text ↔ type.IsMisread := by
  by_cases hmem : '(' ∈ type.text
  · rw [ofName_innermost hmem, IsMisread]
    rw [parenthesis_mem_innermost] at hmem
    cases hinner : type.innermost with
    | scalar scalarText =>
      rw [hinner, text_scalar] at hmem
      simp [text_scalar, hmem]
    | array element length => exact absurd hinner (innermost_ne_array type element length)
    | named kind members => simp [ofName_named]
    | map key value => simp [ofName_map]
  · have hbracket : ']' ∈ type.text := by
      cases type with
      | scalar _ => exact h.elim
      | array element length => simp [text_array]
      | named kind members => simp [text_named] at hmem
      | map key value => simp [text_map] at hmem
    have hread : ¬ type.IsMisread := by
      rintro ⟨scalarText, hinner, hparenthesis, -⟩
      rw [parenthesis_mem_innermost, hinner] at hmem
      exact hmem hparenthesis
    simp [ofName_of_bracket hbracket hmem, hread]

theorem ofName_of_spells {type : TypeTerm} {text : String} (h : type.Spells text.toList) :
    ofName text = ofName (String.ofList type.text) := by
  obtain ⟨before, spelt, after, htext, hbefore, hafter, hspelt⟩ := h
  apply ofName_congr
  rw [htext, typeWords_surrounded hbefore hafter, String.toList_ofList, typeWords_of_sameLetters hspelt]

end TypeTerm

namespace ColumnType

/-- A scalar type has its class however it is spelt. A nested type stands for text, whatever its elements
are, exactly if it is no array of scalars with parameters that stand for something else; such an array has
the class of those scalars. -/
theorem classes_of_types (text : String) :
    (∀ name type, (name, type) ∈ scalarTypes → SpellsScalar name text.toList → ofName text = type) ∧
    ∀ type : TypeTerm, type.IsNested → type.Spells text.toList →
      (ofName text = .text ↔ ¬ type.IsMisread) ∧
      ∀ scalarText, type.innermost = .scalar scalarText → '(' ∈ scalarText →
        ofName text = ofName (String.ofList scalarText) := by
  refine ⟨fun name type hname => ofName_of_scalar hname, fun type hnested hspells => ?_⟩
  rw [TypeTerm.ofName_of_spells hspells, ← TypeTerm.ofName_ne_text_iff hnested, not_not]
  refine ⟨Iff.rfl, fun scalarText hinner hmem => ?_⟩
  have hscalar : type.innermost.text = scalarText := by rw [hinner, TypeTerm.text_scalar]
  rw [TypeTerm.ofName_innermost ((TypeTerm.parenthesis_mem_innermost type).mpr (hscalar ▸ hmem)), hscalar]

/-- Decimals with parameters, as an element type. -/
def decimals : TypeTerm :=
  .scalar "DECIMAL(18,3)".toList

/-- Arrays of maps to such decimals. -/
def decimalMaps : TypeTerm :=
  .array (.map (.scalar "DATE".toList) decimals) (some 2)

theorem classes_of_types_decimalMaps :
    (("DECIMAL", ColumnType.number) ∈ scalarTypes ∧ SpellsScalar "DECIMAL" " decimal (18, 3)\n".toList ∧
      ofName " decimal (18, 3)\n" = .number) ∧
    (decimalMaps.IsNested ∧ decimalMaps.Spells "Map(date, Decimal(18,3))[2]".toList ∧
      ofName "Map(date, Decimal(18,3))[2]" = .text) ∧
    (decimals.array (some 2)).Spells "decimal(18,3)[2]".toList ∧
      ofName "decimal(18,3)[2]" = ofName (String.ofList "DECIMAL(18,3)".toList) := by
  have hscalar : SpellsScalar "DECIMAL" " decimal (18, 3)\n".toList :=
    ⟨[' '], "decimal".toList, " (18, 3)\n".toList, rfl, by decide, by decide,
      .inr ⟨[' '], "18, 3".toList, ['\n'], rfl, by decide, by decide⟩⟩
  have hspells : decimalMaps.Spells "Map(date, Decimal(18,3))[2]".toList :=
    ⟨[], "Map(date, Decimal(18,3))[2]".toList, [], by decide, by decide, by decide, by decide⟩
  have harray : (decimals.array (some 2)).Spells "decimal(18,3)[2]".toList :=
    ⟨[], "decimal(18,3)[2]".toList, [], by decide, by decide, by decide, by decide⟩
  refine ⟨⟨by decide, hscalar, (classes_of_types _).1 _ _ (by decide) hscalar⟩, ⟨trivial, hspells, ?_⟩, harray,
    ((classes_of_types _).2 (decimals.array (some 2)) trivial harray).2 _ rfl (by decide)⟩
  refine ((classes_of_types _).2 decimalMaps trivial hspells).1.mpr ?_
  rintro ⟨scalarText, hinner, -, -⟩
  cases hinner

/-- An array of decimals with parameters counts as a number, one of integers as a text. -/
theorem array_of_decimals_misread :
    (TypeTerm.array decimals none).IsNested ∧
      (TypeTerm.array decimals none).Spells "DECIMAL(18,3)[]".toList ∧
      ofName "DECIMAL(18,3)[]" = .number ∧ ofName "INTEGER[]" = .text := by
  have hspells : (TypeTerm.array decimals none).Spells "DECIMAL(18,3)[]".toList :=
    ⟨[], "DECIMAL(18,3)[]".toList, [], by decide, by decide, by decide, by decide⟩
  exact ⟨trivial, hspells, by decide +kernel, by decide +kernel⟩

end ColumnType

end Insights
