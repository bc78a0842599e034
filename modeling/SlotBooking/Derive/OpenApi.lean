import SlotBooking.Derive.SchemaObject
import SlotBooking.Http.Requests
import SlotBooking.Library.InsertionMap

/-! The OpenAPI schema derived from the syntax tree of a schema, and which of the values that the
schema accepts it validates. -/
namespace SlotBooking

/-! ### Syntax trees -/

inductive LiteralValue (N : Type) where
  | string (s : JsString)
  | number (n : N)
  | boolean (b : Bool)
  | bigint (i : Int)

inductive PropertyKey where
  | string (name : JsString)
  | symbol (description : JsString)

structure PropertySignature (α : Type) where
  name : PropertyKey
  isOptional : Bool
  type : α

/-- The nodes the deriver tells apart. Of the elements of a tuple the first `required` are not
optional; `indexed` is a struct with index signatures. -/
inductive Ast (N : Type) where
  | string
  | number
  | boolean
  | literal (literal : LiteralValue N)
  | union (types : List (Ast N))
  | arrays (required : Nat) (elements rest : List (Ast N))
  | objects (propertySignatures : List (PropertySignature (Ast N))) (indexed : Bool)
  | other (accepted : ParsedJson N → Prop)

variable {N : Type}

def PropertyKey.string? : PropertyKey → Option JsString
  | .string name => some name
  | .symbol _ => none

def signatureNames (signatures : List (PropertySignature (Ast N))) : List JsString :=
  signatures.filterMap (fun p => p.name.string?)

mutual

/-- No struct in the tree has two properties of one name; the constructor of the node throws. -/
def Ast.Distinct : Ast N → Prop
  | .union types => DistinctAll types
  | .arrays _ elements rest => DistinctAll elements ∧ DistinctAll rest
  | .objects signatures _ => (signatureNames signatures).Nodup ∧ DistinctEach signatures
  | _ => True

def DistinctAll : List (Ast N) → Prop
  | [] => True
  | ast :: rest => ast.Distinct ∧ DistinctAll rest

def DistinctEach : List (PropertySignature (Ast N)) → Prop
  | [] => True
  | ⟨_, _, type⟩ :: rest => type.Distinct ∧ DistinctEach rest

end

/-! ### The deriver -/

def Ast.stringLiteral? : Ast N → Option JsString
  | .literal (.string s) => some s
  | _ => none

/-- Every member is a string literal, and there is one. -/
def stringLiteralValues : Ast N → Option (List JsString)
  | .union types =>
    match types.mapM Ast.stringLiteral? with
    | some (value :: values) => some (value :: values)
    | _ => none
  | _ => none

def protoKey : JsString := jsString "__proto__"

mutual

def astToOpenAPI : Ast N → OpenAPISchemaObject
  | .string => .keywords { type := some .string }
  | .number => .keywords { type := some .number }
  | .boolean => .keywords { type := some .boolean }
  | .literal (.string s) => .keywords { type := some .string, enum := some [s] }
  | .literal (.number _) => .keywords { type := some .number }
  | .literal (.boolean _) => .keywords { type := some .boolean }
  | .literal (.bigint _) => .keywords {}
  | .union types =>
    match stringLiteralValues (.union types) with
    | some literals => .keywords { type := some .string, enum := some literals }
    | none => .keywords {}
  | .arrays _ _ (rest :: _) => .keywords { type := some .array, items := some (astToOpenAPI rest) }
  | .arrays _ _ [] => .keywords { type := some .array }
  | .objects signatures _ => .keywords
      { type := some .object,
        properties := some (InsertionMap.ofList (derivedProperties signatures)).entries,
        required := some (signatureNames signatures) }
  | .other _ => .keywords {}

/-- The assignments to `properties`; the one to `__proto__` makes no property. -/
def derivedProperties : List (PropertySignature (Ast N)) → List (JsString × OpenAPISchemaObject)
  | [] => []
  | ⟨.symbol _, _, _⟩ :: rest => derivedProperties rest
  | ⟨.string name, _, type⟩ :: rest =>
    if name = protoKey then derivedProperties rest
    else (name, astToOpenAPI type) :: derivedProperties rest

end

/-- The schema, and the registry, in which a struct goes under the name it is given. -/
def schemaToOpenAPISchema (ast : Ast N) (name : Option String)
    (registry : InsertionMap String OpenAPISchemaObject) :
    OpenAPISchemaObject × InsertionMap String OpenAPISchemaObject :=
  match ast, name with
  | .objects _ _, some hint => (astToOpenAPI ast, registry.set hint (astToOpenAPI ast))
  | _, _ => (astToOpenAPI ast, registry)

/-! ### What a schema accepts -/

/-- The item `i` of an array stands between the elements and the last of the rest. -/
def InRest (elements rest : List (Ast N)) (length i : Nat) : Prop :=
  elements.length ≤ i ∧ i < length - rest.tail.length

/-- The node for the item `i` of an array: the elements come first, then the first node of the rest
over and over, then its other nodes. -/
def itemAst (elements rest : List (Ast N)) (length i : Nat) : Option (Ast N) :=
  if i < elements.length then elements[i]?
  else if i < length - rest.tail.length then rest.head?
  else rest.tail[i - (length - rest.tail.length)]?

def LiteralValue.json : LiteralValue N → Option (ParsedJson N)
  | .string s => some (.string s)
  | .number n => some (.number n)
  | .boolean b => some (.boolean b)
  | .bigint _ => none

/-- The values a node accepts. Checks and index signatures, which are not in the tree, accept fewer.
A struct without any signature takes all but null. -/
inductive Accepts : Ast N → ParsedJson N → Prop
  | string (s : JsString) : Accepts .string (.string s)
  | number (n : N) : Accepts .number (.number n)
  | boolean (b : Bool) : Accepts .boolean (.boolean b)
  | literal (l : LiteralValue N) (v : ParsedJson N) (same : l.json = some v) :
      Accepts (.literal l) v
  | union (types : List (Ast N)) (v : ParsedJson N) (type : Ast N) (mem : type ∈ types)
      (accepted : Accepts type v) : Accepts (.union types) v
  | arrays (required : Nat) (elements rest : List (Ast N)) (items : List (ParsedJson N))
      (enough : required ≤ items.length)
      (trailing : rest.tail ≠ [] → elements.length + rest.tail.length ≤ items.length)
      (known : ∀ i < items.length, (itemAst elements rest items.length i).isSome)
      (accepted : ∀ i type v, itemAst elements rest items.length i = some type →
        items[i]? = some v → Accepts type v) :
      Accepts (.arrays required elements rest) (.array items)
  | objects (signatures : List (PropertySignature (Ast N))) (indexed : Bool)
      (members : List (JsString × ParsedJson N))
      (present : ∀ p ∈ signatures, p.isOptional = false →
        ∃ name v, p.name = .string name ∧ members.lookup name = some v)
      (accepted : ∀ p ∈ signatures, ∀ name v, p.name = .string name →
        members.lookup name = some v → Accepts p.type v) :
      Accepts (.objects signatures indexed) (.object members)
  | empty (v : ParsedJson N) (notNull : v ≠ .null) : Accepts (.objects [] false) v
  | other (p : ParsedJson N → Prop) (v : ParsedJson N) (accepted : p v) : Accepts (.other p) v

/-- The form of a value, as far as a schema object can tell it: an enumerated string, a number, a
boolean, an array of one form, an object with all properties of its struct, or anything. -/
inductive HasForm : Ast N → ParsedJson N → Prop
  | string (s : JsString) : HasForm .string (.string s)
  | number (n : N) : HasForm .number (.number n)
  | boolean (b : Bool) : HasForm .boolean (.boolean b)
  | literalString (s : JsString) : HasForm (.literal (.string s)) (.string s)
  | literalNumber (n m : N) : HasForm (.literal (.number n)) (.number m)
  | literalBoolean (b c : Bool) : HasForm (.literal (.boolean b)) (.boolean c)
  | literalBigint (i : Int) (v : ParsedJson N) : HasForm (.literal (.bigint i)) v
  | enumerated (types : List (Ast N)) (literals : List JsString) (s : JsString)
      (strings : stringLiteralValues (.union types) = some literals) (mem : s ∈ literals) :
      HasForm (.union types) (.string s)
  | union (types : List (Ast N)) (v : ParsedJson N)
      (mixed : stringLiteralValues (.union types) = none) : HasForm (.union types) v
  | bareArray (required : Nat) (elements : List (Ast N)) (items : List (ParsedJson N)) :
      HasForm (.arrays required elements []) (.array items)
  | arrays (required : Nat) (elements : List (Ast N)) (head : Ast N) (tail : List (Ast N))
      (items : List (ParsedJson N)) (each : ∀ v ∈ items, HasForm head v) :
      HasForm (.arrays required elements (head :: tail)) (.array items)
  | objects (signatures : List (PropertySignature (Ast N))) (indexed : Bool)
      (members : List (JsString × ParsedJson N))
      (present : ∀ p ∈ signatures, ∀ name, p.name = .string name → (members.lookup name).isSome)
      (each : ∀ p ∈ signatures, ∀ name v, p.name = .string name → name ≠ protoKey →
        members.lookup name = some v → HasForm p.type v) :
      HasForm (.objects signatures indexed) (.object members)
  | other (p : ParsedJson N → Prop) (v : ParsedJson N) : HasForm (.other p) v

def Ast.isComposite : Ast N → Bool
  | .arrays _ _ _ | .objects _ _ => true
  | _ => false

/-- Where the derived schema is right about an accepted value: every item in a fixed place of an
array with a rest has the form of the rest, every optional property of a struct is there, and an
empty struct is an object; and so on inside. -/
inductive Told : Ast N → ParsedJson N → Prop
  | simple (ast : Ast N) (v : ParsedJson N) (plain : ast.isComposite = false) : Told ast v
  | bareArray (required : Nat) (elements : List (Ast N)) (v : ParsedJson N) :
      Told (.arrays required elements []) v
  | arrays (required : Nat) (elements : List (Ast N)) (head : Ast N) (tail : List (Ast N))
      (items : List (ParsedJson N))
      (repeated : ∀ i v, InRest elements (head :: tail) items.length i → items[i]? = some v →
        Told head v)
      (fixed : ∀ i v, ¬ InRest elements (head :: tail) items.length i → items[i]? = some v →
        HasForm head v) :
      Told (.arrays required elements (head :: tail)) (.array items)
  | objects (signatures : List (PropertySignature (Ast N))) (indexed : Bool)
      (members : List (JsString × ParsedJson N))
      (present : ∀ p ∈ signatures, p.isOptional = true → ∀ name, p.name = .string name →
        (members.lookup name).isSome)
      (each : ∀ p ∈ signatures, ∀ name v, p.name = .string name → name ≠ protoKey →
        members.lookup name = some v → Told p.type v) :
      Told (.objects signatures indexed) (.object members)

section
variable {ast : Ast N} {v : ParsedJson N} {signatures : List (PropertySignature (Ast N))}

/-! ### Nodes -/

theorem distinctAll_iff {asts : List (Ast N)} : DistinctAll asts ↔ ∀ a ∈ asts, a.Distinct := by
  induction asts with
  | nil => simp [DistinctAll]
  | cons a rest ih => simp [DistinctAll, ih]

theorem distinctEach_iff : DistinctEach signatures ↔ ∀ p ∈ signatures, p.type.Distinct := by
  induction signatures with
  | nil => simp [DistinctEach]
  | cons p rest ih => simp [DistinctEach, ih]

/-- The name and the registry have no part in the schema; a named struct is registered. -/
theorem schemaToOpenAPISchema_eq (name : Option String)
    (registry : InsertionMap String OpenAPISchemaObject) :
    schemaToOpenAPISchema ast name registry = (astToOpenAPI ast, registry) ∨
      ∃ hint, name = some hint ∧ schemaToOpenAPISchema ast name registry =
        (astToOpenAPI ast, registry.set hint (astToOpenAPI ast)) := by
  unfold schemaToOpenAPISchema
  split
  · exact .inr ⟨_, rfl, rfl⟩
  · exact .inl rfl

theorem mem_signatureNames {name : JsString} : name ∈ signatureNames signatures ↔
    ∃ p ∈ signatures, p.name = .string name := by
  rw [signatureNames, List.mem_filterMap]
  refine exists_congr (fun p => and_congr_right (fun _ => ?_))
  cases p.name <;> simp [PropertyKey.string?]

theorem derivedProperties_eq : derivedProperties signatures = signatures.filterMap (fun p =>
    (p.name.string?.filter (· ≠ protoKey)).map (fun name => (name, astToOpenAPI p.type))) := by
  induction signatures with
  | nil => rfl
  | cons p rest ih =>
    obtain ⟨name, isOptional, type⟩ := p
    cases name with
    | symbol description => simp [derivedProperties, ih, PropertyKey.string?]
    | string name =>
      by_cases isProto : name = protoKey
      · simp [derivedProperties, ih, PropertyKey.string?, isProto]
      · simp [derivedProperties, ih, PropertyKey.string?, isProto]

/-- A property of the derived schema is one of the struct, but `__proto__`. -/
theorem mem_derivedProperties {entry : JsString × OpenAPISchemaObject} :
    entry ∈ derivedProperties signatures ↔ ∃ p ∈ signatures, p.name = .string entry.1 ∧
      entry.1 ≠ protoKey ∧ astToOpenAPI p.type = entry.2 := by
  rw [derivedProperties_eq, List.mem_filterMap]
  refine exists_congr (fun p => and_congr_right (fun _ => ?_))
  obtain ⟨name, schema⟩ := entry
  cases key : p.name with
  | symbol description => simp [PropertyKey.string?]
  | string other =>
    simp only [PropertyKey.string?, Option.map_eq_some_iff, Option.filter_eq_some_iff,
      Option.some.injEq, Prod.mk.injEq, decide_eq_true_eq, PropertyKey.string.injEq]
    constructor
    · rintro ⟨_, ⟨rfl, plain⟩, rfl, derived⟩
      exact ⟨rfl, plain, derived⟩
    · rintro ⟨rfl, plain, derived⟩
      exact ⟨_, ⟨rfl, plain⟩, rfl, derived⟩

theorem derivedProperties_nodup (distinct : (signatureNames signatures).Nodup) :
    ((derivedProperties signatures).map Prod.fst).Nodup := by
  have names : (derivedProperties signatures).map Prod.fst =
      (signatureNames signatures).filter (· ≠ protoKey) := by
    rw [derivedProperties_eq, signatureNames, List.map_filterMap, List.filter_filterMap]
    refine List.filterMap_congr (fun p _ => ?_)
    cases p.name.string? <;> simp [Function.comp_def]
  rw [names]
  exact distinct.filter _

theorem validates_struct (distinct : (signatureNames signatures).Nodup) {indexed : Bool} :
    validates (astToOpenAPI (.objects signatures indexed)) v = true ↔
      ∃ members, v = .object members ∧
        (∀ p ∈ signatures, ∀ name, p.name = .string name → (members.lookup name).isSome) ∧
        ∀ p ∈ signatures, ∀ name x, p.name = .string name → name ≠ protoKey →
          members.lookup name = some x → validates (astToOpenAPI p.type) x = true := by
  rw [astToOpenAPI, validates_object, InsertionMap.entries_ofList (derivedProperties_nodup distinct)]
  refine exists_congr (fun members => and_congr_right (fun _ => and_congr ?_ ?_))
  · constructor
    · exact fun required p mem name key => required name (mem_signatureNames.mpr ⟨p, mem, key⟩)
    · intro present name mem
      obtain ⟨p, inside, key⟩ := mem_signatureNames.mp mem
      exact present p inside name key
  · constructor
    · intro each p mem name x key plain found
      exact each (name, astToOpenAPI p.type)
        (mem_derivedProperties.mpr ⟨p, mem, key, plain, rfl⟩) x found
    · intro each entry mem x found
      obtain ⟨p, inside, key, plain, derived⟩ := mem_derivedProperties.mp mem
      rw [← derived]
      exact each p inside entry.1 x key plain found

theorem validates_union {types : List (Ast N)} :
    validates (astToOpenAPI (.union types)) v = true ↔
      ∀ literals, stringLiteralValues (.union types) = some literals →
        ∃ s ∈ literals, v = .string s := by
  rw [astToOpenAPI]
  cases stringLiteralValues (.union types) with
  | none => simp
  | some literals => simp [validates_enum]

/-! ### The form of a value -/

theorem validates_iff_literal (l : LiteralValue N) :
    validates (astToOpenAPI (.literal l)) v = true ↔ HasForm (.literal l) v := by
  cases l with
  | string s =>
    rw [astToOpenAPI, validates_enum]
    constructor
    · rintro ⟨t, mem, rfl⟩
      rw [List.mem_singleton.mp mem]
      exact .literalString s
    · intro form
      cases form with | literalString => exact ⟨s, by simp, rfl⟩
  | number n =>
    rw [astToOpenAPI, validates_type, type_eq_number]
    constructor
    · rintro ⟨m, rfl⟩
      exact .literalNumber n m
    · intro form
      cases form with | literalNumber _ m => exact ⟨m, rfl⟩
  | boolean b =>
    rw [astToOpenAPI, validates_type, type_eq_boolean]
    constructor
    · rintro ⟨c, rfl⟩
      exact .literalBoolean b c
    · intro form
      cases form with | literalBoolean _ c => exact ⟨c, rfl⟩
  | bigint i =>
    rw [astToOpenAPI]
    exact iff_of_true (validates_open v) (.literalBigint i v)

theorem validates_iff_union (types : List (Ast N)) :
    validates (astToOpenAPI (.union types)) v = true ↔ HasForm (.union types) v := by
  rw [validates_union]
  constructor
  · intro each
    cases strings : stringLiteralValues (.union types) with
    | none => exact .union types v strings
    | some literals =>
      obtain ⟨s, mem, rfl⟩ := each literals strings
      exact .enumerated types literals s strings mem
  · intro form literals strings
    cases form with
    | enumerated _ others s strings' mem =>
      rw [strings] at strings'
      cases strings'
      exact ⟨s, mem, rfl⟩
    | union _ _ mixed =>
      rw [strings] at mixed
      cases mixed

theorem validates_iff_arrays {required : Nat} {elements tail : List (Ast N)} {head : Ast N}
    (each : ∀ x, validates (astToOpenAPI head) x = true ↔ HasForm head x) :
    validates (astToOpenAPI (.arrays required elements (head :: tail))) v = true ↔
      HasForm (.arrays required elements (head :: tail)) v := by
  rw [astToOpenAPI, validates_items]
  constructor
  · rintro ⟨items, rfl, all⟩
    exact .arrays _ _ _ _ items (fun x mem => (each x).mp (all x mem))
  · intro form
    cases form with
    | arrays _ _ _ _ items all => exact ⟨items, rfl, fun x mem => (each x).mpr (all x mem)⟩

theorem validates_iff_objects {indexed : Bool} (distinct : (signatureNames signatures).Nodup)
    (each : ∀ p ∈ signatures, ∀ x, validates (astToOpenAPI p.type) x = true ↔ HasForm p.type x) :
    validates (astToOpenAPI (.objects signatures indexed)) v = true ↔
      HasForm (.objects signatures indexed) v := by
  rw [validates_struct distinct]
  constructor
  · rintro ⟨members, rfl, present, all⟩
    refine .objects _ _ members present (fun p mem name x key plain found => ?_)
    exact (each p mem x).mp (all p mem name x key plain found)
  · intro form
    cases form with
    | objects _ _ members present all =>
      refine ⟨members, rfl, present, fun p mem name x key plain found => ?_⟩
      exact (each p mem x).mpr (all p mem name x key plain found)

/-- What the schema object of a tree validates, are the values of its form. -/
theorem validates_iff_hasForm : ∀ (ast : Ast N), ast.Distinct → ∀ v : ParsedJson N,
    (validates (astToOpenAPI ast) v = true ↔ HasForm ast v)
  | .string, _, v => by
    rw [astToOpenAPI, validates_type, type_eq_string]
    constructor
    · rintro ⟨s, rfl⟩
      exact .string s
    · intro form
      cases form with | string s => exact ⟨s, rfl⟩
  | .number, _, v => by
    rw [astToOpenAPI, validates_type, type_eq_number]
    constructor
    · rintro ⟨n, rfl⟩
      exact .number n
    · intro form
      cases form with | number n => exact ⟨n, rfl⟩
  | .boolean, _, v => by
    rw [astToOpenAPI, validates_type, type_eq_boolean]
    constructor
    · rintro ⟨b, rfl⟩
      exact .boolean b
    · intro form
      cases form with | boolean b => exact ⟨b, rfl⟩
  | .literal l, _, v => validates_iff_literal l
  | .union types, _, v => validates_iff_union types
  | .arrays required elements [], _, v => by
    rw [astToOpenAPI, validates_type, type_eq_array]
    constructor
    · rintro ⟨items, rfl⟩
      exact .bareArray required elements items
    · intro form
      cases form with | bareArray _ _ items => exact ⟨items, rfl⟩
  | .arrays required elements (head :: tail), distinct, v => by
    have formed : head.Distinct := distinctAll_iff.mp distinct.2 head (by simp)
    exact validates_iff_arrays (validates_iff_hasForm head formed)
  | .objects signatures indexed, distinct, v =>
    validates_iff_objects distinct.1 (fun p mem =>
      validates_iff_hasForm p.type (distinctEach_iff.mp distinct.2 p mem))
  | .other p, _, v => by
    rw [astToOpenAPI]
    exact iff_of_true (validates_open v) (.other p v)
termination_by ast => ast
decreasing_by
  · simp only [Ast.arrays.sizeOf_spec, List.cons.sizeOf_spec]
    omega
  · have inside := List.sizeOf_lt_of_mem mem
    have type : sizeOf p.type < sizeOf p := by
      cases p
      simp only [PropertySignature.mk.sizeOf_spec]
      omega
    simp only [Ast.objects.sizeOf_spec]
    omega

/-! ### Accepted values -/

theorem itemAst_inRest {elements tail : List (Ast N)} {head : Ast N} {length i : Nat}
    (inRest : InRest elements (head :: tail) length i) :
    itemAst elements (head :: tail) length i = some head := by
  rw [itemAst, if_neg (Nat.not_lt.mpr inRest.1), if_pos inRest.2, List.head?_cons]

theorem literal_form {l : LiteralValue N} (same : l.json = some v) : HasForm (.literal l) v := by
  cases l with
  | bigint i => cases same
  | string s => cases same; exact .literalString s
  | number n => cases same; exact .literalNumber n n
  | boolean b => cases same; exact .literalBoolean b b

/-- A member of an enumeration accepts nothing but its own string. -/
theorem enumerated_form {types : List (Ast N)} {type : Ast N} (mem : type ∈ types)
    (accepted : Accepts type v) : HasForm (.union types) v := by
  cases strings : stringLiteralValues (.union types) with
  | none => exact .union types v strings
  | some literals =>
    have mapped : types.mapM Ast.stringLiteral? = some literals := by
      rw [stringLiteralValues] at strings
      split at strings
      · rename_i values
        rw [values, strings]
      · cases strings
    obtain ⟨s, inside, literal⟩ := Traversal.mapM_of_mem mapped mem
    obtain rfl : type = .literal (.string s) := by
      unfold Ast.stringLiteral? at literal
      split at literal
      · cases literal
        rfl
      · cases literal
    cases accepted with
    | literal _ _ same =>
      cases same
      exact .enumerated types literals s strings inside

theorem told_simple (plain : ast.isComposite = false) (distinct : ast.Distinct)
    (form : HasForm ast v) : validates (astToOpenAPI ast) v = true ↔ Told ast v :=
  iff_of_true ((validates_iff_hasForm ast distinct v).mpr form) (.simple ast v plain)

theorem told_empty (v : ParsedJson N) :
    validates (astToOpenAPI (N := N) (.objects [] false)) v = true ↔ Told (.objects [] false) v := by
  have distinct : (signatureNames ([] : List (PropertySignature (Ast N)))).Nodup := List.nodup_nil
  rw [validates_struct distinct]
  constructor
  · rintro ⟨members, rfl, _⟩
    exact .objects [] false members (by simp) (by simp)
  · intro told
    cases told with
    | simple _ _ plain => cases plain
    | objects _ _ members present each => exact ⟨members, rfl, by simp, by simp⟩

/-- Of an array the items in the rest are judged by their own node, the others by the first node of
the rest. -/
theorem told_arrays {required : Nat} {elements tail : List (Ast N)} {head : Ast N}
    {items : List (ParsedJson N)} (distinct : head.Distinct)
    (repeated : ∀ i x, InRest elements (head :: tail) items.length i → items[i]? = some x →
      (validates (astToOpenAPI head) x = true ↔ Told head x)) :
    validates (astToOpenAPI (.arrays required elements (head :: tail))) (.array items) = true ↔
      Told (.arrays required elements (head :: tail)) (.array items) := by
  rw [astToOpenAPI, validates_items]
  constructor
  · rintro ⟨_, same, all⟩
    cases same
    refine .arrays _ _ _ _ items (fun i x inRest found => ?_) (fun i x _ found => ?_)
    · exact (repeated i x inRest found).mp (all x (List.mem_of_getElem? found))
    · exact (validates_iff_hasForm head distinct x).mp (all x (List.mem_of_getElem? found))
  · intro told
    cases told with
    | simple _ _ plain => cases plain
    | arrays _ _ _ _ _ inside fixed =>
      refine ⟨items, rfl, fun x mem => ?_⟩
      obtain ⟨i, found⟩ := List.getElem?_of_mem mem
      by_cases inRest : InRest elements (head :: tail) items.length i
      · exact (repeated i x inRest found).mpr (inside i x inRest found)
      · exact (validates_iff_hasForm head distinct x).mpr (fixed i x inRest found)

theorem told_objects {indexed : Bool} {members : List (JsString × ParsedJson N)}
    (distinct : (signatureNames signatures).Nodup)
    (present : ∀ p ∈ signatures, p.isOptional = false →
      ∃ name x, p.name = .string name ∧ members.lookup name = some x)
    (each : ∀ p ∈ signatures, ∀ name x, p.name = .string name → members.lookup name = some x →
      (validates (astToOpenAPI p.type) x = true ↔ Told p.type x)) :
    validates (astToOpenAPI (.objects signatures indexed)) (.object members) = true ↔
      Told (.objects signatures indexed) (.object members) := by
  rw [validates_struct distinct]
  constructor
  · rintro ⟨_, same, all, valid⟩
    cases same
    refine .objects _ _ members (fun p mem _ => all p mem) ?_
    intro p mem name x key plain found
    exact (each p mem name x key found).mp (valid p mem name x key plain found)
  · intro told
    cases told with
    | simple _ _ plain => cases plain
    | objects _ _ _ optional inside =>
      refine ⟨members, rfl, fun p mem name key => ?_, fun p mem name x key plain found => ?_⟩
      · cases isOptional : p.isOptional with
        | true => exact optional p mem isOptional name key
        | false =>
          obtain ⟨other, x, key', found⟩ := present p mem isOptional
          cases key.symm.trans key'
          simp [found]
      · exact (each p mem name x key found).mpr (inside p mem name x key plain found)

end

/-- The derived schema validates an accepted value, if and only if it is right about every place of
it. -/
theorem derived_validates_iff (ast : Ast N) (v : ParsedJson N) (distinct : ast.Distinct)
    (accepted : Accepts ast v) : validates (astToOpenAPI ast) v = true ↔ Told ast v := by
  induction accepted with
  | string s => exact told_simple rfl distinct (.string s)
  | number n => exact told_simple rfl distinct (.number n)
  | boolean b => exact told_simple rfl distinct (.boolean b)
  | literal l v same => exact told_simple rfl distinct (literal_form same)
  | union types v type mem accepted ih =>
    exact told_simple rfl distinct (enumerated_form mem accepted)
  | other p v accepted => exact told_simple rfl distinct (.other p v)
  | empty v notNull => exact told_empty v
  | arrays required elements rest items enough trailing known accepted ih =>
    cases rest with
    | nil =>
      rw [astToOpenAPI, validates_type, type_eq_array]
      exact iff_of_true ⟨items, rfl⟩ (.bareArray required elements _)
    | cons head tail =>
      have formed : head.Distinct := distinctAll_iff.mp distinct.2 head (by simp)
      exact told_arrays formed (fun i x inRest found =>
        ih i head x (itemAst_inRest inRest) found formed)
  | objects signatures indexed members present accepted ih =>
    refine told_objects distinct.1 present (fun p mem name x key found => ?_)
    exact ih p mem name x key found (distinctEach_iff.mp distinct.2 p mem)

namespace Sample

def noteKey : JsString := jsString "note"

/-- A struct with one optional property. -/
def noteStruct : Ast Int := .objects [⟨.string noteKey, true, .string⟩] false

def withNote : ParsedJson Int := .object [(noteKey, .string [])]

def withoutNote : ParsedJson Int := .object []

end Sample

theorem derived_validates_note :
    validates (astToOpenAPI Sample.noteStruct) Sample.withNote = true := by
  have only : ∀ v, [(Sample.noteKey, (.string [] : ParsedJson Int))].lookup Sample.noteKey = some v →
      v = .string [] := by simp [eq_comm]
  refine (derived_validates_iff Sample.noteStruct _ ⟨by decide, trivial, trivial⟩ ?_).mpr ?_
  · refine .objects _ _ _ (by simp) ?_
    rintro p mem name v key found
    obtain rfl := List.mem_singleton.mp mem
    cases key
    rw [only v found]
    exact .string []
  · refine .objects _ _ _ ?_ ?_
    · rintro p mem - name key
      obtain rfl := List.mem_singleton.mp mem
      cases key
      simp
    · rintro p mem name v key - -
      obtain rfl := List.mem_singleton.mp mem
      exact .simple _ _ rfl

/-- Without its optional property an object of the struct is not valid. -/
theorem optional_property_required : Sample.noteStruct.Distinct ∧
    Accepts Sample.noteStruct Sample.withoutNote ∧
    validates (astToOpenAPI Sample.noteStruct) Sample.withoutNote = false := by
  refine ⟨⟨by decide, trivial, trivial⟩, .objects _ _ _ (by simp) ?_, by decide⟩
  rintro p - name v - found
  cases found

/-- The first item of a tuple is taken for one of the rest. -/
example : validates (N := Int) (astToOpenAPI (N := Int) (.arrays 1 [.string] [.number]))
    (.array [.string [], .number 1]) = false := by decide

end SlotBooking
