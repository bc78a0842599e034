import SlotBooking.Domain.ParsedJson

/-! The schema objects of OpenAPI 3.1, with the keywords the deriver writes, and the values which
they validate as JSON Schema has it: every keyword judges the values it is about. -/
namespace SlotBooking

inductive SchemaType where
  | string
  | number
  | boolean
  | array
  | object
deriving DecidableEq

structure SchemaKeywords (α : Type) where
  type : Option SchemaType := none
  items : Option α := none
  properties : Option (List (JsString × α)) := none
  required : Option (List JsString) := none
  enum : Option (List JsString) := none

inductive OpenAPISchemaObject where
  | keywords (k : SchemaKeywords OpenAPISchemaObject)

variable {N : Type}

def ParsedJson.type : ParsedJson N → Option SchemaType
  | .null => none
  | .boolean _ => some .boolean
  | .number _ => some .number
  | .string _ => some .string
  | .array _ => some .array
  | .object _ => some .object

def validatesType (type : Option SchemaType) (v : ParsedJson N) : Bool :=
  type.all (fun t => v.type = some t)

def validatesEnum : Option (List JsString) → ParsedJson N → Bool
  | none, _ => true
  | some values, .string s => values.contains s
  | some _, _ => false

def validatesRequired : Option (List JsString) → ParsedJson N → Bool
  | some names, .object members => names.all (fun name => (members.lookup name).isSome)
  | _, _ => true

mutual

def validates : OpenAPISchemaObject → ParsedJson N → Bool
  | .keywords ⟨type, items, properties, required, enum⟩, v =>
    validatesType type v && validatesItems items v && validatesProperties properties v &&
      validatesRequired required v && validatesEnum enum v

def validatesItems : Option OpenAPISchemaObject → ParsedJson N → Bool
  | some schema, .array elements => elements.all (fun v => validates schema v)
  | _, _ => true

def validatesProperties : Option (List (JsString × OpenAPISchemaObject)) → ParsedJson N → Bool
  | none, _ => true
  | some properties, v => validatesEach properties v

def validatesEach : List (JsString × OpenAPISchemaObject) → ParsedJson N → Bool
  | [], _ => true
  | (name, schema) :: rest, v =>
    (v.property name).all (fun member => validates schema member) && validatesEach rest v

end

section
variable {v : ParsedJson N}

theorem type_eq_string : v.type = some .string ↔ ∃ s, v = .string s := by
  cases v <;> simp [ParsedJson.type]

theorem type_eq_number : v.type = some .number ↔ ∃ n, v = .number n := by
  cases v <;> simp [ParsedJson.type]

theorem type_eq_boolean : v.type = some .boolean ↔ ∃ b, v = .boolean b := by
  cases v <;> simp [ParsedJson.type]

theorem type_eq_array : v.type = some .array ↔ ∃ items, v = .array items := by
  cases v <;> simp [ParsedJson.type]

@[simp] theorem validates_open (v : ParsedJson N) : validates (.keywords {}) v = true := by
  simp [validates, validatesType, validatesItems, validatesProperties, validatesRequired,
    validatesEnum]

@[simp] theorem validates_type (t : SchemaType) :
    validates (.keywords { type := some t }) v = true ↔ v.type = some t := by
  simp [validates, validatesType, validatesItems, validatesProperties, validatesRequired,
    validatesEnum]

theorem validates_enum {values : List JsString} :
    validates (.keywords { type := some .string, enum := some values }) v = true ↔
      ∃ s ∈ values, v = .string s := by
  cases v <;> simp [validates, validatesType, validatesItems, validatesProperties,
    validatesRequired, validatesEnum, ParsedJson.type]

theorem validates_items {schema : OpenAPISchemaObject} :
    validates (.keywords { type := some .array, items := some schema }) v = true ↔
      ∃ elements, v = .array elements ∧ ∀ x ∈ elements, validates schema x = true := by
  cases v <;> simp [validates, validatesType, validatesItems, validatesProperties,
    validatesRequired, validatesEnum, ParsedJson.type]

theorem validatesEach_iff {properties : List (JsString × OpenAPISchemaObject)} :
    validatesEach properties v = true ↔
      ∀ entry ∈ properties, ∀ x, v.property entry.1 = some x → validates entry.2 x = true := by
  induction properties with
  | nil => simp [validatesEach]
  | cons entry rest ih =>
    rw [validatesEach, Bool.and_eq_true, ih, List.forall_mem_cons, Option.all_eq_true_iff_get]
    cases v.property entry.1 <;> simp

theorem validates_object {properties : List (JsString × OpenAPISchemaObject)}
    {required : List JsString} :
    validates (.keywords
        { type := some .object, properties := some properties, required := some required }) v =
          true ↔
      ∃ members, v = .object members ∧ (∀ name ∈ required, (members.lookup name).isSome) ∧
        ∀ entry ∈ properties, ∀ x, members.lookup entry.1 = some x →
          validates entry.2 x = true := by
  cases v with
  | object members =>
    simp [validates, validatesType, validatesItems, validatesProperties, validatesRequired,
      validatesEnum, ParsedJson.type, validatesEach_iff, ParsedJson.property, and_comm]
  | _ => simp [validates, validatesType, ParsedJson.type]

end

end SlotBooking
