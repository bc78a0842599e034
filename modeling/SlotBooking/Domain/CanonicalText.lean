import SlotBooking.Domain.Normalization

/-! What a second pass of the two normalisers does. A name is a fixed point of its normaliser
after one pass. A free text is one exactly when taking out its control characters leaves
nothing to compose; the control characters are taken out after the text is composed. -/
namespace SlotBooking

/-- Published facts about composition: texts may be composed in pieces, a piece of a composed
text is composed, and control characters and white space neither come nor go, nor does anything
compose across them. -/
structure Unicode.Composing (u : Unicode) : Prop extends u.Standard where
  nfc_append : ∀ s t, u.nfc (u.nfc s ++ u.nfc t) = u.nfc (s ++ t)
  nfc_piece : ∀ s t, u.nfc s = s → t <:+: s → u.nfc t = t
  nfc_control : ∀ s unit t, isControlChar unit = true →
    u.nfc (s ++ unit :: t) = u.nfc s ++ unit :: u.nfc t
  nfc_uncontrolled : ∀ s, (∀ unit ∈ s, isControlChar unit = false) →
    ∀ unit ∈ u.nfc s, isControlChar unit = false
  nfc_space : ∀ s unit t, isWhiteSpace unit = true →
    u.nfc (s ++ unit :: t) = u.nfc s ++ (u.nfc [unit] ++ u.nfc t)
  nfc_visible : ∀ s, (∀ unit ∈ s, isWhiteSpace unit = false) →
    ∀ unit ∈ u.nfc s, isWhiteSpace unit = false
  nfc_nonempty : ∀ s, u.nfc s = [] → s = []

/-- The control characters of a text stand between nothing that composes: they may be taken out
before the text is composed as well as after. -/
def StripsFirst (u : Unicode) (raw : JsString) : Prop :=
  u.nfc (stripControl raw) = stripControl (u.nfc raw)

instance (u : Unicode) (raw : JsString) : Decidable (StripsFirst u raw) :=
  inferInstanceAs (Decidable (u.nfc (stripControl raw) = stripControl (u.nfc raw)))

/-- One save and one load of the texts of a row. -/
def savedAndLoaded (u : Unicode) (f : CustomerFields) : Option CustomerFields :=
  (encodeFields f).bind (decodeFields u)

def roundTrips (u : Unicode) : Nat → CustomerFields → Option CustomerFields
  | 0, f => some f
  | k + 1, f => (savedAndLoaded u f).bind (roundTrips u k)

/-! ### The edges of a text -/

theorem trim_eq_self_iff {s : JsString} : trim s = s ↔
    (∀ unit ∈ s.head?, isWhiteSpace unit = false) ∧
      ∀ unit ∈ s.getLast?, isWhiteSpace unit = false := by
  constructor
  · intro same
    have length := congrArg List.length same
    have back := (List.rdropWhile_prefix isWhiteSpace (s.dropWhile isWhiteSpace)).length_le
    have front := (List.dropWhile_suffix isWhiteSpace (l := s)).length_le
    rw [trim] at length
    have head : s.dropWhile isWhiteSpace = s :=
      (List.dropWhile_suffix isWhiteSpace).eq_of_length (by omega)
    rw [trim, head] at same
    constructor
    · cases s with
      | nil => simp
      | cons unit rest => simpa using List.dropWhile_eq_self_iff.mp head
    · intro unit last
      obtain ⟨some, rfl⟩ := List.mem_getLast?_eq_getLast last
      simpa using List.rdropWhile_eq_self_iff.mp same some
  · rintro ⟨first, last⟩
    cases s with
    | nil => rfl
    | cons unit rest =>
      have visible : ¬ isWhiteSpace unit = true := by simpa using first
      rw [trim, List.dropWhile_cons_of_neg visible, List.rdropWhile_eq_self_iff]
      intro some
      simp [last _ (List.getLast?_eq_some_getLast some)]

theorem trim_idempotent (s : JsString) : trim (trim s) = trim s := by
  have front : (trim s).dropWhile isWhiteSpace = trim s := by
    obtain ⟨after, split⟩ := List.rdropWhile_prefix isWhiteSpace (s.dropWhile isWhiteSpace)
    have dropped := List.dropWhile_idempotent isWhiteSpace s
    rw [← split, ← trim] at dropped
    cases kept : trim s with
    | nil => rfl
    | cons unit rest =>
      rw [kept, List.cons_append] at dropped
      apply List.dropWhile_cons_of_neg
      simpa using List.dropWhile_eq_self_iff.mp dropped
  calc
    trim (trim s) = (trim s).rdropWhile isWhiteSpace := congrArg _ front
    _ = trim s := List.rdropWhile_idempotent isWhiteSpace _

/-- A text is its trimmed middle between two runs of white space. -/
theorem trim_padded (s : JsString) : ∃ before after, s = before ++ (trim s ++ after) ∧
    (∀ unit ∈ before, isWhiteSpace unit = true) ∧ ∀ unit ∈ after, isWhiteSpace unit = true := by
  refine ⟨s.takeWhile isWhiteSpace, (s.dropWhile isWhiteSpace).rtakeWhile isWhiteSpace, ?_,
    fun _ mem => List.mem_takeWhile_imp mem, fun _ mem => List.mem_rtakeWhile_imp mem⟩
  rw [trim, List.rdropWhile_append_rtakeWhile, List.takeWhile_append_dropWhile]

/-- White space around a text without any at its edges is what trimming removes. -/
theorem trim_between {before s after : JsString} (some_ : s ≠ []) (trimmed : trim s = s)
    (blankBefore : ∀ unit ∈ before, isWhiteSpace unit = true)
    (blankAfter : ∀ unit ∈ after, isWhiteSpace unit = true) :
    trim (before ++ s ++ after) = s := by
  obtain ⟨first, last⟩ := trim_eq_self_iff.mp trimmed
  have front : (before ++ s ++ after).dropWhile isWhiteSpace = s ++ after := by
    rw [List.append_assoc, List.dropWhile_append_of_pos blankBefore]
    obtain ⟨unit, rest, rfl⟩ := List.exists_cons_of_ne_nil some_
    exact List.dropWhile_cons_of_neg (by simpa using first)
  have back : (s ++ after).rdropWhile isWhiteSpace = s := by
    clear front
    induction after using List.reverseRecOn with
    | nil =>
      rw [List.append_nil, List.rdropWhile_eq_self_iff]
      intro _
      simp [last _ (List.getLast?_eq_some_getLast some_)]
    | append_singleton after unit ih =>
      obtain ⟨earlier, blank⟩ := List.forall_mem_append.mp blankAfter
      rw [← List.append_assoc, List.rdropWhile_concat_pos _ _ _ (by simpa using blank)]
      exact ih earlier
  rw [trim, front, back]

/-! ### Names -/

/-- White space only as single ASCII spaces. The flag tells that a space has just been read. -/
def singleSpaced : Bool → JsString → Bool
  | _, [] => true
  | inRun, unit :: rest =>
    if isWhiteSpace unit then !inRun && unit == 0x20 && singleSpaced true rest
    else singleSpaced false rest

theorem singleSpaced_collapse (inRun : Bool) (s : JsString) :
    singleSpaced inRun (collapseWhiteSpace inRun s) = true := by
  have space : isWhiteSpace 0x20 = true := by decide
  induction s generalizing inRun with
  | nil => rfl
  | cons unit rest ih =>
    rw [collapseWhiteSpace]
    split
    · cases inRun with
      | true => exact ih true
      | false => simp [singleSpaced, space, ih]
    · rename_i visible
      simp [singleSpaced, visible, ih]

theorem collapse_of_singleSpaced {inRun : Bool} {s : JsString}
    (single : singleSpaced inRun s = true) : collapseWhiteSpace inRun s = s := by
  induction s generalizing inRun with
  | nil => rfl
  | cons unit rest ih =>
    rw [singleSpaced] at single
    rw [collapseWhiteSpace]
    split at single
    · rename_i space
      simp only [Bool.and_eq_true, Bool.not_eq_true', beq_iff_eq] at single
      obtain ⟨⟨rfl, rfl⟩, later⟩ := single
      simp [space, ih later]
    · rename_i visible
      simp [visible, ih single]

theorem singleSpaced_start {inRun : Bool} {s : JsString} (single : singleSpaced inRun s = true) :
    singleSpaced false s = true := by
  cases s with
  | nil => rfl
  | cons unit rest =>
    rw [singleSpaced] at single ⊢
    split at single
    · simp only [Bool.and_eq_true] at single
      simp [*]
    · simp [*]

theorem singleSpaced_front {inRun : Bool} {s t : JsString}
    (single : singleSpaced inRun (s ++ t) = true) : singleSpaced inRun s = true := by
  induction s generalizing inRun with
  | nil => rfl
  | cons unit rest ih =>
    rw [List.cons_append, singleSpaced] at single
    rw [singleSpaced]
    split at single
    · rename_i space
      rw [if_pos space, Bool.and_eq_true]
      exact ⟨(Bool.and_eq_true_iff.mp single).1, ih (Bool.and_eq_true_iff.mp single).2⟩
    · rename_i visible
      rw [if_neg visible]
      exact ih single

theorem singleSpaced_back {inRun : Bool} {s t : JsString}
    (single : singleSpaced inRun (s ++ t) = true) : singleSpaced false t = true := by
  induction s generalizing inRun with
  | nil => exact singleSpaced_start single
  | cons unit rest ih =>
    rw [List.cons_append, singleSpaced] at single
    split at single
    · exact ih (Bool.and_eq_true_iff.mp single).2
    · exact ih single

theorem collapse_trim {s : JsString} (single : singleSpaced false s = true) :
    collapseWhiteSpace false (trim s) = trim s := by
  obtain ⟨before, after, split⟩ := trim_within s
  apply collapse_of_singleSpaced
  rw [← split] at single
  exact singleSpaced_back (singleSpaced_front single)

/-- Induction on a text cut at the units of one class. -/
theorem by_segments {p : UInt16 → Bool} {motive : JsString → Prop}
    (whole : ∀ s, (∀ unit ∈ s, p unit = false) → motive s)
    (cut : ∀ s unit t, (∀ unit ∈ s, p unit = false) → p unit = true → motive t →
      motive (s ++ unit :: t)) (s : JsString) : motive s := by
  induction hn : s.length using Nat.strong_induction_on generalizing s with
  | _ n ih =>
    cases found : s.find? p with
    | none =>
      apply whole
      simpa using found
    | some unit =>
      obtain ⟨holds, before, after, rfl, apart⟩ := List.find?_eq_some_iff_append.mp found
      have shorter : after.length < n := by simp at hn; omega
      exact cut before unit after (by simpa using apart) holds (ih _ shorter after rfl)

section
variable {u : Unicode}

theorem normalizeNameKana_idempotent (standard : u.Standard) (raw : JsString) :
    normalizeNameKana u (normalizeNameKana u raw) = normalizeNameKana u raw := by
  have single := singleSpaced_collapse false (u.nfkc raw)
  calc
    normalizeNameKana u (normalizeNameKana u raw)
        = trim (collapseWhiteSpace false (normalizeNameKana u raw)) := by
      rw [normalizeNameKana, nfkc_normalizeNameKana standard]
    _ = trim (normalizeNameKana u raw) := congrArg trim (collapse_trim single)
    _ = normalizeNameKana u raw := trim_idempotent _

/-! ### Free text -/

theorem stripControl_of_clean {s : JsString} (clean : ∀ unit ∈ s, isControlChar unit = false) :
    stripControl s = s := by
  simpa [stripControl] using clean

theorem stripControl_cut {s t : JsString} {unit : UInt16} (control : isControlChar unit = true) :
    stripControl (s ++ unit :: t) = stripControl s ++ stripControl t := by
  simp [stripControl, control]

theorem stripControl_clean (s : JsString) :
    ∀ unit ∈ stripControl s, isControlChar unit = false := by
  simp [stripControl]

variable (composing : u.Composing)
include composing

theorem nfc_nil : u.nfc [] = [] :=
  composing.nfc_piece _ _ (composing.nfc_idempotent []) (List.nil_infix)

/-- White space that composition leaves alone shields what stands behind it. -/
theorem nfc_after_space {before s : JsString} (white : ∀ unit ∈ before, isWhiteSpace unit = true)
    (alone : ∀ unit ∈ before, u.nfc [unit] = [unit]) :
    u.nfc (before ++ s) = before ++ u.nfc s := by
  induction before with
  | nil => rfl
  | cons unit rest ih =>
    have shielded := composing.nfc_space [] unit (rest ++ s) (white unit List.mem_cons_self)
    rw [nfc_nil composing, alone unit List.mem_cons_self,
      ih (fun x mem => white x (List.mem_cons_of_mem _ mem))
        (fun x mem => alone x (List.mem_cons_of_mem _ mem))] at shielded
    simpa using shielded

theorem nfc_before_space {after s : JsString} (white : ∀ unit ∈ after, isWhiteSpace unit = true)
    (alone : ∀ unit ∈ after, u.nfc [unit] = [unit]) :
    u.nfc (s ++ after) = u.nfc s ++ after := by
  cases after with
  | nil => simp
  | cons unit rest =>
    have behind := nfc_after_space composing (s := [])
      (fun x mem => white x (List.mem_cons_of_mem _ mem))
      (fun x mem => alone x (List.mem_cons_of_mem _ mem))
    rw [List.append_nil, nfc_nil composing, List.append_nil] at behind
    rw [composing.nfc_space s unit rest (white unit List.mem_cons_self),
      alone unit List.mem_cons_self, behind]
    rfl

theorem head_nfc {s : JsString} (first : ∀ unit ∈ s.head?, isWhiteSpace unit = false) :
    ∀ unit ∈ (u.nfc s).head?, isWhiteSpace unit = false := by
  induction s using by_segments (p := isWhiteSpace) with
  | whole s visible =>
    intro unit head
    exact composing.nfc_visible s visible unit (List.mem_of_mem_head? head)
  | cut s space t visible white ih =>
    intro unit head
    have some : s ≠ [] := by
      rintro rfl
      simp [white] at first
    rw [composing.nfc_space s space t white, List.head?_append_of_ne_nil _
      (fun empty => some (composing.nfc_nonempty s empty))] at head
    exact composing.nfc_visible s visible unit (List.mem_of_mem_head? head)

theorem getLast_nfc {s : JsString} (last : ∀ unit ∈ s.getLast?, isWhiteSpace unit = false) :
    ∀ unit ∈ (u.nfc s).getLast?, isWhiteSpace unit = false := by
  induction s using by_segments (p := isWhiteSpace) with
  | whole s visible =>
    intro unit back
    exact composing.nfc_visible s visible unit (List.mem_of_getLast? back)
  | cut s space t visible white ih =>
    intro unit back
    have some : t ≠ [] := by
      rintro rfl
      simp [white] at last
    have some' : u.nfc t ≠ [] := fun empty => some (composing.nfc_nonempty t empty)
    rw [composing.nfc_space s space t white, ← List.append_assoc,
      List.getLast?_append_of_ne_nil _ some'] at back
    refine ih ?_ unit back
    intro unit tail
    apply last
    rw [List.getLast?_append_of_ne_nil _ (List.cons_ne_nil space t),
      List.getLast?_cons_of_ne_nil some]
    exact tail

/-- Composition neither brings white space to the edge of a text nor takes it away there. -/
theorem trim_nfc {s : JsString} (trimmed : trim s = s) : trim (u.nfc s) = u.nfc s := by
  obtain ⟨first, last⟩ := trim_eq_self_iff.mp trimmed
  exact trim_eq_self_iff.mpr ⟨head_nfc composing first, getLast_nfc composing last⟩

/-- Taking out the control characters and composing what is left is one operation, whether or
not the text was composed before. -/
theorem nfc_stripControl_nfc (s : JsString) :
    u.nfc (stripControl (u.nfc s)) = u.nfc (stripControl s) := by
  induction s using by_segments (p := isControlChar) with
  | whole s clean =>
    rw [stripControl_of_clean clean, stripControl_of_clean (composing.nfc_uncontrolled s clean)]
    exact composing.nfc_idempotent s
  | cut s unit t clean control ih =>
    have first := stripControl_of_clean (composing.nfc_uncontrolled s clean)
    calc
      u.nfc (stripControl (u.nfc (s ++ unit :: t)))
          = u.nfc (u.nfc s ++ stripControl (u.nfc t)) := by
        rw [composing.nfc_control s unit t control, stripControl_cut control, first]
      _ = u.nfc (u.nfc (u.nfc s) ++ u.nfc (stripControl (u.nfc t))) :=
        (composing.nfc_append _ _).symm
      _ = u.nfc (u.nfc s ++ u.nfc (stripControl t)) := by rw [composing.nfc_idempotent, ih]
      _ = u.nfc (stripControl (s ++ unit :: t)) := by
        rw [composing.nfc_append, stripControl_cut control, stripControl_of_clean clean]

theorem normalizeFreeText_fixed_iff (raw : JsString) :
    normalizeFreeText u (normalizeFreeText u raw) = normalizeFreeText u raw ↔
      u.nfc (normalizeFreeText u raw) = normalizeFreeText u raw := by
  have clean : ∀ unit ∈ normalizeFreeText u raw, isControlChar unit = false := fun unit mem =>
    stripControl_clean (u.nfc raw) unit ((trim_within _).subset mem)
  have trimmed : trim (normalizeFreeText u raw) = normalizeFreeText u raw := trim_idempotent _
  have again : normalizeFreeText u (normalizeFreeText u raw) = u.nfc (normalizeFreeText u raw) := by
    rw [normalizeFreeText, stripControl_of_clean (composing.nfc_uncontrolled _ clean)]
    exact trim_nfc composing trimmed
  rw [again]

/-- The white space which trimming takes off decides nothing about composition. -/
theorem nfc_normalizeFreeText_iff (raw : JsString) :
    u.nfc (normalizeFreeText u raw) = normalizeFreeText u raw ↔
      u.nfc (stripControl (u.nfc raw)) = stripControl (u.nfc raw) := by
  obtain ⟨before, after, padded, white, white'⟩ := trim_padded (stripControl (u.nfc raw))
  have alone : ∀ unit ∈ stripControl (u.nfc raw), u.nfc [unit] = [unit] := by
    intro unit mem
    apply composing.nfc_piece _ _ (composing.nfc_idempotent raw)
    exact (List.singleton_infix_iff _ _).mpr (List.mem_of_mem_filter mem)
  have padding : u.nfc (stripControl (u.nfc raw)) =
      before ++ (u.nfc (trim (stripControl (u.nfc raw))) ++ after) := by
    conv => lhs; rw [padded]
    rw [nfc_after_space composing white, nfc_before_space composing white']
    · exact fun unit mem => alone unit (by rw [padded]; simp [mem])
    · exact fun unit mem => alone unit (by rw [padded]; simp [mem])
  rw [padding]
  conv => rhs; rhs; rw [padded]
  simp [normalizeFreeText]

theorem normalizeFreeText_idempotent_iff (raw : JsString) :
    normalizeFreeText u (normalizeFreeText u raw) = normalizeFreeText u raw ↔
      StripsFirst u raw := by
  rw [normalizeFreeText_fixed_iff composing, nfc_normalizeFreeText_iff composing,
    nfc_stripControl_nfc composing]
  rfl

end

/-! ### Saved and loaded -/

section
variable {u : Unicode}

theorem decodeFields_eq_some {f g : CustomerFields} (decoded : decodeFields u f = some g) :
    decodeNameKana u f.nameKana = some g.nameKana ∧
      decodePhoneLast4 f.phoneLast4 = some g.phoneLast4 ∧
      nullOr (decodeFreeText u) f.freeText = some g.freeText := by
  simp only [decodeFields, bind, Option.bind_eq_some_iff] at decoded
  obtain ⟨nameKana, name, phoneLast4, phone, freeText, free, same⟩ := decoded
  cases same
  exact ⟨name, phone, free⟩

theorem decodeFields_handle {f g : CustomerFields} {h : CustomerHandle}
    (decoded : decodeFields u f = some g) (name : decodeNameKana u f.nameKana = some h.nameKana)
    (phone : decodePhoneLast4 f.phoneLast4 = some h.phoneLast4) : g.toCustomerHandle = h := by
  obtain ⟨name', phone', _⟩ := decodeFields_eq_some decoded
  rw [name] at name'
  rw [phone] at phone'
  obtain ⟨⟨nameKana, phoneLast4⟩, freeText⟩ := g
  cases name'
  cases phone'
  rfl

theorem decodeFields_again (standard : u.Standard) {f g h : CustomerFields}
    (decoded : decodeFields u f = some g) (again : decodeFields u g = some h) :
    h.toCustomerHandle = g.toCustomerHandle := by
  obtain ⟨name, phone, _⟩ := decodeFields_eq_some decoded
  exact decodeFields_handle again (decodeNameKana_fixed standard name)
    (decodePhoneLast4_fixed phone)

/-- Of the texts read once, only the free text need not be what is read the next time. -/
theorem canonical_again_iff (standard : u.Standard) {f g : CustomerFields}
    (decoded : decodeFields u f = some g) : Canonical u g ↔ ∀ raw, f.freeText = some raw →
      normalizeFreeText u (normalizeFreeText u raw) = normalizeFreeText u raw := by
  obtain ⟨name, phone, free⟩ := decodeFields_eq_some decoded
  have name' := decodeNameKana_fixed standard name
  have phone' := decodePhoneLast4_fixed phone
  obtain ⟨⟨nameKana, phoneLast4⟩, freeText⟩ := g
  have canonical : Canonical u ⟨⟨nameKana, phoneLast4⟩, freeText⟩ ↔
      nullOr (decodeFreeText u) freeText = some freeText := by
    simp only at name' phone'
    cases again : nullOr (decodeFreeText u) freeText with
    | none => simp [Canonical, decodeFields, name', phone', again]
    | some text => simp [Canonical, decodeFields, name', phone', again]
  rw [canonical]
  rcases nullOr_eq_some.mp free with ⟨absent, rfl⟩ | ⟨raw, text, given, read, rfl⟩
  · simp [absent, nullOr]
  · obtain ⟨rfl, short⟩ := decodeBranded_eq_some.mp read
    simp only [given, Option.some.injEq, forall_eq']
    constructor
    · intro again
      obtain ⟨absent, _⟩ | ⟨_, _, here, reread, there⟩ := nullOr_eq_some.mp again
      · cases absent
      · cases here
        cases there
        exact (decodeBranded_eq_some.mp reread).1.symm
    · intro fixed
      simp [nullOr, decodeFreeText, decodeBranded, fixed, short]

theorem savedAndLoaded_valid {f : CustomerFields} (valid : f.Valid) :
    savedAndLoaded u f = decodeFields u f := by
  rw [savedAndLoaded, encodeFields_eq_some.mpr ⟨rfl, valid⟩, Option.bind_some]

theorem roundTrips_handle (standard : u.Standard) {f g h : CustomerFields} {k : Nat}
    (decoded : decodeFields u f = some g) (trips : roundTrips u k g = some h) :
    h.toCustomerHandle = g.toCustomerHandle := by
  induction k generalizing f g with
  | zero =>
    cases trips
    rfl
  | succ k ih =>
    rw [roundTrips, savedAndLoaded_valid (decodeFields_valid decoded)] at trips
    obtain ⟨next, again, later⟩ := Option.bind_eq_some_iff.mp trips
    exact (ih again later).trans (decodeFields_again standard decoded again)

theorem roundTrips_iff {f g : CustomerFields} (decoded : decodeFields u f = some g) :
    (∀ k, roundTrips u k g = some g) ↔ Canonical u g := by
  have once := savedAndLoaded_valid (u := u) (decodeFields_valid decoded)
  constructor
  · intro trips
    simpa [Canonical, roundTrips, once] using trips 1
  · intro canonical k
    induction k with
    | zero => rfl
    | succ k ih => rw [roundTrips, once, canonical, Option.bind_some, ih]

/-- The normaliser of names is idempotent; that of free texts is on exactly the texts whose
control characters keep nothing apart, and on exactly these the fields read once are read so
ever after. A handle typed again, as before or as it is stored, matches the stored one. -/
theorem canonical_text_iff (composing : u.Composing) :
    (∀ raw, normalizeNameKana u (normalizeNameKana u raw) = normalizeNameKana u raw) ∧
    (∀ raw, normalizeFreeText u (normalizeFreeText u raw) = normalizeFreeText u raw ↔
      StripsFirst u raw) ∧
    ∀ f g, decodeFields u f = some g →
      ((∀ k, roundTrips u k g = some g) ↔ ∀ raw, f.freeText = some raw → StripsFirst u raw) ∧
      ∀ k stored typed h, roundTrips u k g = some stored → decodeFields u typed = some h →
        typed.toCustomerHandle = f.toCustomerHandle ∨
          typed.toCustomerHandle = g.toCustomerHandle →
        equalsCustomerHandle h.toCustomerHandle stored.toCustomerHandle = true := by
  have standard := composing.toStandard
  refine ⟨normalizeNameKana_idempotent standard, normalizeFreeText_idempotent_iff composing, ?_⟩
  intro f g decoded
  constructor
  · simp only [roundTrips_iff decoded, canonical_again_iff standard decoded,
      normalizeFreeText_idempotent_iff composing]
  · intro k stored typed h trips read retyped
    obtain ⟨name, phone, _⟩ := decodeFields_eq_some decoded
    rw [equalsCustomerHandle_iff, roundTrips_handle standard decoded trips]
    rcases retyped with same | same
    · apply decodeFields_handle read
      · rwa [same]
      · rwa [same]
    · apply decodeFields_handle read
      · rw [same]
        exact decodeNameKana_fixed standard name
      · rw [same]
        exact decodePhoneLast4_fixed phone

end

/-! ### A text on which one pass is not enough -/

namespace Sample

/-- A `KA` before a combining voiced sound mark becomes a `GA`. -/
def pushVoiced (unit : UInt16) : JsString → JsString
  | [] => [unit]
  | next :: rest =>
    if unit = 0x304b ∧ next = 0x3099 then 0x304c :: rest else unit :: next :: rest

def voiced (s : JsString) : JsString := s.foldr pushVoiced []

def voicing : Unicode := { nfc := voiced, nfkc := voiced }

theorem pushVoiced_other {unit : UInt16} (other : unit ≠ 0x304b) (s : JsString) :
    pushVoiced unit s = unit :: s := by
  cases s <;> simp [pushVoiced, other]

theorem mem_pushVoiced {unit x : UInt16} {s : JsString} (mem : x ∈ pushVoiced unit s) :
    x = 0x304c ∨ x = unit ∨ x ∈ s := by
  cases s with
  | nil => simp_all [pushVoiced]
  | cons next rest =>
    rw [pushVoiced] at mem
    split at mem <;> simp only [List.mem_cons] at mem ⊢ <;> grind

theorem mem_voiced {x : UInt16} {s : JsString} (mem : x ∈ voiced s) : x = 0x304c ∨ x ∈ s := by
  induction s with
  | nil => exact .inr mem
  | cons unit rest ih =>
    rcases mem_pushVoiced mem with composed | head | tail
    · exact .inl composed
    · exact .inr (by simp [head])
    · exact (ih tail).imp id (List.mem_cons_of_mem unit)

/-- What is composed once is left as it is, whatever follows. -/
theorem foldr_pushVoiced (unit : UInt16) (s t : JsString) :
    (pushVoiced unit s).foldr pushVoiced t = pushVoiced unit (s.foldr pushVoiced t) := by
  cases s with
  | nil => rfl
  | cons next rest =>
    rw [pushVoiced]
    split
    · rename_i composes
      obtain ⟨rfl, rfl⟩ := composes
      have mark : (0x3099 : UInt16) ≠ 0x304b := by decide
      have ga : (0x304c : UInt16) ≠ 0x304b := by decide
      rw [List.foldr_cons, List.foldr_cons, pushVoiced_other ga, pushVoiced_other mark]
      rfl
    · rfl

theorem foldr_voiced (s t : JsString) :
    (voiced s).foldr pushVoiced t = s.foldr pushVoiced t := by
  induction s with
  | nil => rfl
  | cons unit rest ih => exact (foldr_pushVoiced unit (voiced rest) t).trans (congrArg _ ih)

theorem voiced_idempotent (s : JsString) : voiced (voiced s) = voiced s := foldr_voiced s []

theorem voiced_append (s t : JsString) : voiced (voiced s ++ voiced t) = voiced (s ++ t) := by
  calc
    voiced (voiced s ++ voiced t) = (voiced s).foldr pushVoiced (voiced (voiced t)) :=
      List.foldr_append
    _ = s.foldr pushVoiced (voiced t) := by rw [foldr_voiced, voiced_idempotent]
    _ = voiced (s ++ t) := List.foldr_append.symm

theorem voiced_cut {unit : UInt16} (first : unit ≠ 0x304b) (second : unit ≠ 0x3099)
    (s t : JsString) : voiced (s ++ unit :: t) = voiced s ++ unit :: voiced t := by
  induction s with
  | nil => exact pushVoiced_other first _
  | cons x rest ih =>
    change pushVoiced x (voiced (rest ++ unit :: t)) = _
    rw [ih]
    change _ = pushVoiced x (voiced rest) ++ unit :: voiced t
    cases voiced rest with
    | nil => simp [pushVoiced, second]
    | cons next later =>
      simp only [pushVoiced, List.cons_append]
      split <;> rfl

theorem voiced_back {s t : JsString} (normal : voiced (s ++ t) = s ++ t) : voiced t = t := by
  induction s with
  | nil => exact normal
  | cons unit rest ih =>
    apply ih
    change pushVoiced unit (voiced (rest ++ t)) = unit :: (rest ++ t) at normal
    cases kept : voiced (rest ++ t) with
    | nil => simpa [kept, pushVoiced] using normal
    | cons next later =>
      rw [kept, pushVoiced] at normal
      split at normal
      · rename_i composes
        simp [composes.1] at normal
      · simpa using normal

theorem voiced_front {s t : JsString} (normal : voiced (s ++ t) = s ++ t) : voiced s = s := by
  induction s with
  | nil => rfl
  | cons unit rest ih =>
    have later : voiced (rest ++ t) = rest ++ t := voiced_back (s := [unit]) normal
    change pushVoiced unit (voiced (rest ++ t)) = unit :: (rest ++ t) at normal
    change pushVoiced unit (voiced rest) = unit :: rest
    rw [later] at normal
    rw [ih later]
    cases rest with
    | nil => rfl
    | cons next rest =>
      rw [List.cons_append, pushVoiced] at normal
      rw [pushVoiced]
      split at normal
      · rename_i composes
        simp [composes.1] at normal
      · rename_i apart
        rw [if_neg apart]

theorem voicing_composing : voicing.Composing where
  nfc_idempotent := voiced_idempotent
  nfkc_idempotent := voiced_idempotent
  nfkc_piece := by
    rintro s t normal ⟨before, after, rfl⟩
    exact voiced_back (voiced_front normal)
  nfkc_space := voiced_cut (by decide) (by decide)
  nfc_append := voiced_append
  nfc_piece := by
    rintro s t normal ⟨before, after, rfl⟩
    exact voiced_back (voiced_front normal)
  nfc_control s unit t control := by
    apply voiced_cut
    · rintro rfl
      exact absurd control (by decide)
    · rintro rfl
      exact absurd control (by decide)
  nfc_uncontrolled s clean x mem := by
    rcases mem_voiced mem with rfl | old
    · decide
    · exact clean x old
  nfc_space s unit t white := by
    have first : unit ≠ 0x304b := by
      rintro rfl
      exact absurd white (by decide)
    have second : unit ≠ 0x3099 := by
      rintro rfl
      exact absurd white (by decide)
    have alone : voiced [unit] = [unit] := pushVoiced_other first []
    simp [voicing, voiced_cut first second, alone]
  nfc_visible s visible x mem := by
    rcases mem_voiced mem with rfl | old
    · decide
    · exact visible x old
  nfc_nonempty s empty := by
    cases s with
    | nil => rfl
    | cons unit rest =>
      change pushVoiced unit (voiced rest) = [] at empty
      cases kept : voiced rest with
      | nil => simp [kept, pushVoiced] at empty
      | cons next later =>
        rw [kept, pushVoiced] at empty
        split at empty <;> cases empty

/-- A `KA`, a NUL and a voiced sound mark: taking out the NUL leaves a `KA` that can be voiced. -/
def splitByNul : CustomerFields :=
  { nameKana := [0x30a2], phoneLast4 := [0x31, 0x32, 0x33, 0x34],
    freeText := some [0x304b, 0x00, 0x3099] }

def readOnce : CustomerFields := { splitByNul with freeText := some [0x304b, 0x3099] }

end Sample

/-- The note comes back composed: a second pass changes it, and so does one save and load. -/
theorem second_pass_composes : Sample.voicing.Composing ∧
    normalizeFreeText Sample.voicing (normalizeFreeText Sample.voicing [0x304b, 0x00, 0x3099]) ≠
      normalizeFreeText Sample.voicing [0x304b, 0x00, 0x3099] ∧
    decodeFields Sample.voicing Sample.splitByNul = some Sample.readOnce ∧
    roundTrips Sample.voicing 1 Sample.readOnce =
      some { Sample.readOnce with freeText := some [0x304c] } :=
  ⟨Sample.voicing_composing, by decide, by decide, by decide⟩

theorem canonical_text_iff_voicing :
    ¬ StripsFirst Sample.voicing [0x304b, 0x00, 0x3099] ∧
    ¬ ∀ k, roundTrips Sample.voicing k Sample.readOnce = some Sample.readOnce := by
  obtain ⟨_, _, fields⟩ := canonical_text_iff Sample.voicing_composing
  have splits : ¬ StripsFirst Sample.voicing [0x304b, 0x00, 0x3099] := by decide
  refine ⟨splits, ?_⟩
  rw [(fields Sample.splitByNul Sample.readOnce (by decide)).1]
  exact fun all => splits (all _ rfl)

end SlotBooking
