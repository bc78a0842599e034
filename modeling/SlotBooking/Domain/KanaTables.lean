import SlotBooking.Domain.Normalization
import SlotBooking.Library.Composition

/-! The published tables of the compatibility form for kana, U+3040 to U+30FF and U+FF65 to
U+FF9F, and what they do to the length of a text. -/
namespace SlotBooking

namespace Kana

/-- The hiragana that stand right before their voiced kana. -/
def voicedRow : List Nat :=
  [0x304b, 0x304d, 0x304f, 0x3051, 0x3053, 0x3055, 0x3057, 0x3059, 0x305b, 0x305d, 0x305f,
   0x3061, 0x3064, 0x3066, 0x3068, 0x306f, 0x3072, 0x3075, 0x3078, 0x307b, 0x309d]

def semiVoicedRow : List Nat := [0x306f, 0x3072, 0x3075, 0x3078, 0x307b]

/-- The rows of the katakana are those of the hiragana, 0x60 further on. -/
def inRow (row : List Nat) (code : Nat) : Bool := row.contains code || row.contains (code - 0x60)

/-- Of what U+FF65 to U+FF9F are the half-width forms. -/
def fullWidth : List UInt16 :=
  [0x30fb, 0x30f2, 0x30a1, 0x30a3, 0x30a5, 0x30a7, 0x30a9, 0x30e3, 0x30e5, 0x30e7, 0x30c3,
   0x30fc, 0x30a2, 0x30a4, 0x30a6, 0x30a8, 0x30aa, 0x30ab, 0x30ad, 0x30af, 0x30b1, 0x30b3,
   0x30b5, 0x30b7, 0x30b9, 0x30bb, 0x30bd, 0x30bf, 0x30c1, 0x30c4, 0x30c6, 0x30c8, 0x30ca,
   0x30cb, 0x30cc, 0x30cd, 0x30ce, 0x30cf, 0x30d2, 0x30d5, 0x30d8, 0x30db, 0x30de, 0x30df,
   0x30e0, 0x30e1, 0x30e2, 0x30e4, 0x30e6, 0x30e8, 0x30e9, 0x30ea, 0x30eb, 0x30ec, 0x30ed,
   0x30ef, 0x30f3, 0x3099, 0x309a]

/-- The two combining marks compose with the kana they follow. -/
def composite (base mark : UInt16) : Option UInt16 :=
  if mark = 0x3099 then
    if inRow voicedRow base.toNat then some (base + 1)
    else if base = 0x3046 || base = 0x30a6 then some (base + 0x4e)
    else if 0x30ef ≤ base && base ≤ 0x30f2 then some (base + 8)
    else none
  else if mark = 0x309a && inRow semiVoicedRow base.toNat then some (base + 2)
  else none

/-- The full compatibility decomposition of a kana. -/
def decompose (unit : UInt16) : JsString :=
  if unit = 0x309b then [0x20, 0x3099]
  else if unit = 0x309c then [0x20, 0x309a]
  else if unit = 0x309f then [0x3088, 0x308a]
  else if unit = 0x30ff then [0x30b3, 0x30c8]
  else if inRow voicedRow (unit.toNat - 1) then [unit - 1, 0x3099]
  else if inRow semiVoicedRow (unit.toNat - 2) then [unit - 2, 0x309a]
  else if unit = 0x3094 || unit = 0x30f4 then [unit - 0x4e, 0x3099]
  else if 0x30f7 ≤ unit && unit ≤ 0x30fa then [unit - 8, 0x3099]
  else if 0xff65 ≤ unit && unit ≤ 0xff9f then [fullWidth.getD (unit.toNat - 0xff65) unit]
  else [unit]

def nfkc (s : JsString) : JsString := Composition.compose composite (s.flatMap decompose)

def isDigraph (unit : UInt16) : Bool := unit = 0x309f || unit = 0x30ff

def isSpacingMark (unit : UInt16) : Bool := unit = 0x309b || unit = 0x309c

/-- The second kana is a mark, and the end of the first takes it. -/
def composes (before after : UInt16) : Bool :=
  (composite ((decompose before).getLastD before) ((decompose after).headD after)).isSome

/-- A spacing mark brings a space along, which is dropped at the start and after a space. -/
def opens (before after : UInt16) : Bool := before ≠ 0x20 && isSpacingMark after

end Kana

/-- Published facts about the compatibility form: a text of kana and spaces is decomposed and
composed by the tables. All marks of kana are of one class, so that none are reordered. -/
structure Unicode.Kana (u : Unicode) : Prop where
  nfkc_kana : ∀ s, (∀ unit ∈ s, isKana unit = true ∨ unit = 0x20) → u.nfkc s = Kana.nfkc s

namespace Kana

open Composition

/-! ### What the tables say of each kana -/

theorem kana_all {P : UInt16 → Prop} (full : ∀ n < 192, P (UInt16.ofNat (0x3040 + n)))
    (half : ∀ n < 59, P (UInt16.ofNat (0xff65 + n))) (unit : UInt16) (kana : isKana unit = true) :
    P unit := by
  have place : (∃ n < 192, unit.toNat = 0x3040 + n) ∨ ∃ n < 59, unit.toNat = 0xff65 + n := by
    simp only [isKana, Bool.or_eq_true, Bool.and_eq_true, decide_eq_true_eq, beq_iff_eq,
      UInt16.le_iff_toNat_le, ← UInt16.toNat_inj, UInt16.reduceToNat] at kana
    by_cases low : unit.toNat < 0xff65
    · exact .inl ⟨unit.toNat - 0x3040, by omega, by omega⟩
    · exact .inr ⟨unit.toNat - 0xff65, by omega, by omega⟩
  rcases place with ⟨n, bound, value⟩ | ⟨n, bound, value⟩
  · have holds := full n bound
    rwa [← value, UInt16.ofNat_toNat] at holds
  · have holds := half n bound
    rwa [← value, UInt16.ofNat_toNat] at holds

def marks : List UInt16 := [0x3099, 0x309a]

theorem composite_of_not_mark {mark : UInt16} (other : mark ∉ marks) (base : UInt16) :
    composite base mark = none := by
  simp only [marks, List.mem_cons, List.not_mem_nil, or_false, not_or] at other
  simp [composite, other.1, other.2]

/-- What composes with the marks composes with nothing else. -/
theorem composite_eq_none {base : UInt16}
    (unmarked : marks.all (fun mark => (composite base mark).isNone) = true) (mark : UInt16) :
    composite base mark = none := by
  by_cases mem : mark ∈ marks
  · exact Option.isNone_iff_eq_none.mp (List.all_eq_true.mp unmarked mark mem)
  · exact composite_of_not_mark mem base

theorem composite_final {base mark c : UInt16} (kana : isKana base = true)
    (pair : composite base mark = some c) :
    isKana c = true ∧ ∀ mark', composite c mark' = none := by
  have table := kana_all (P := fun base => marks.all (fun mark => (composite base mark).all
    (fun c => isKana c && marks.all (fun mark' => (composite c mark').isNone))) = true)
    (by decide +kernel) (by decide +kernel) base kana
  have mem : mark ∈ marks := by
    by_contra other
    cases (composite_of_not_mark other base).symm.trans pair
  have final := List.all_eq_true.mp table mark mem
  simp only [pair, Option.all_some, Bool.and_eq_true] at final
  exact ⟨final.1, composite_eq_none final.2⟩

/-- What becomes of a kana before it meets its neighbours. -/
inductive Piece (unit : UInt16) : Prop where
  | mark (m : UInt16) (mem : m ∈ marks) (kana : isKana m = true) (form : decompose unit = [m])
      (single : isDigraph unit = false) (bare : isSpacingMark unit = false)
  | spacing (m : UInt16) (mem : m ∈ marks) (kana : isKana m = true)
      (form : decompose unit = [0x20, m]) (single : isDigraph unit = false)
      (spacing : isSpacingMark unit = true)
  | letters (b : UInt16) (tail front : JsString) (last : UInt16) (other : b ∉ marks)
      (form : decompose unit = b :: tail) (settled : settle composite b tail = (front, last))
      (kana : ∀ k ∈ front ++ [last], isKana k = true)
      (length : front.length = (isDigraph unit).toNat)
      (takes : ∀ mark, composite last mark = composite ((b :: tail).getLastD unit) mark)
      (bare : isSpacingMark unit = false)

theorem composite_congr {base base' : UInt16}
    (same : ∀ mark ∈ marks, composite base mark = composite base' mark) (mark : UInt16) :
    composite base mark = composite base' mark := by
  by_cases mem : mark ∈ marks
  · exact same mark mem
  · rw [composite_of_not_mark mem, composite_of_not_mark mem]

/-- The tables as one check of each kana. -/
def lettersOrMark (unit : UInt16) : Bool :=
  match decompose unit with
  | [] => false
  | b :: tail =>
    if b ∈ marks then
      tail = [] && isKana b && !isDigraph unit && !isSpacingMark unit
    else if b = 0x20 then
      marks.any (fun m => tail = [m] && isKana m) && !isDigraph unit && isSpacingMark unit
    else
      let (front, last) := settle composite b tail
      (front ++ [last]).all isKana && front.length = (isDigraph unit).toNat &&
        marks.all (fun mark => composite last mark = composite ((b :: tail).getLastD unit) mark) &&
        !isSpacingMark unit

theorem piece_of_kana {unit : UInt16} (kana : isKana unit = true) : Piece unit := by
  have checked : lettersOrMark unit = true :=
    kana_all (P := fun unit => lettersOrMark unit = true) (by decide +kernel) (by decide +kernel)
      unit kana
  unfold lettersOrMark at checked
  split at checked
  · cases checked
  · rename_i b tail form
    split at checked
    · rename_i mem
      simp only [Bool.and_eq_true, decide_eq_true_eq, Bool.not_eq_true'] at checked
      obtain ⟨⟨⟨rfl, kana⟩, single⟩, bare⟩ := checked
      exact .mark b mem kana form single bare
    · split at checked
      · rename_i space
        simp only [Bool.and_eq_true, List.any_eq_true, decide_eq_true_eq,
          Bool.not_eq_true'] at checked
        obtain ⟨⟨⟨m, mem, rfl, kana⟩, single⟩, spacing⟩ := checked
        exact .spacing m mem kana (space ▸ form) single spacing
      · rename_i other _
        simp only [Bool.and_eq_true, List.all_eq_true, decide_eq_true_eq,
          Bool.not_eq_true'] at checked
        obtain ⟨⟨⟨kana, length⟩, takes⟩, bare⟩ := checked
        exact .letters b tail _ _ other form rfl kana length (composite_congr takes) bare

/-! ### Spaces in what has been composed -/

/-- A text which goes on a segment or begins one, and its length once runs of spaces are one. -/
structure Inside (w : JsString) (n : Nat) : Prop where
  reads : ∀ inSegment inRun, matchesNameKana inSegment (collapseWhiteSpace inRun w) = true
  length : ∀ inRun, (collapseWhiteSpace inRun w).length = n

/-- The same of a text that stands after a kana. -/
structure Outside (w : JsString) (n : Nat) : Prop where
  reads : matchesNameKana true (collapseWhiteSpace false w) = true
  length : (collapseWhiteSpace false w).length = n

theorem Inside.outside {w : JsString} {n : Nat} (inside : Inside w n) : Outside w n :=
  ⟨inside.reads true false, inside.length false⟩

theorem collapse_kana {unit : UInt16} (kana : isKana unit = true) (inRun : Bool) (w : JsString) :
    collapseWhiteSpace inRun (unit :: w) = unit :: collapseWhiteSpace false w := by
  simp [collapseWhiteSpace, isWhiteSpace_of_isKana kana]

theorem isWhiteSpace_space : isWhiteSpace 0x20 = true := by decide

theorem isKana_space : isKana 0x20 = false := by decide

theorem Outside.kana {unit : UInt16} {w : JsString} {n : Nat} (kana : isKana unit = true)
    (outside : Outside w n) : Inside (unit :: w) (n + 1) where
  reads inSegment inRun := by simp [collapse_kana kana, matchesNameKana, kana, outside.reads]
  length inRun := by simp [collapse_kana kana, outside.length]

theorem Inside.space {w : JsString} {n : Nat} (inside : Inside w n) :
    Outside (0x20 :: w) (n + 1) where
  reads := by
    simp [collapseWhiteSpace, isWhiteSpace_space, matchesNameKana, isKana_space, inside.reads]
  length := by simp [collapseWhiteSpace, isWhiteSpace_space, inside.length]

theorem Inside.two_spaces {w : JsString} {n : Nat} (inside : Inside w n) :
    Outside (0x20 :: 0x20 :: w) (n + 1) where
  reads := by
    simp [collapseWhiteSpace, isWhiteSpace_space, matchesNameKana, isKana_space, inside.reads]
  length := by simp [collapseWhiteSpace, isWhiteSpace_space, inside.length]

theorem Inside.letters {front w : JsString} {n : Nat} (kana : ∀ k ∈ front, isKana k = true)
    (inside : Inside w n) : Inside (front ++ w) (front.length + n) := by
  induction front with
  | nil => simpa using inside
  | cons k rest ih =>
    obtain ⟨here, later⟩ := List.forall_mem_cons.mp kana
    have read := (ih later).outside.kana here
    rwa [Nat.add_right_comm] at read

/-! ### What waits after a part of a name has been read -/

/-- The unit that was read last, and what waits to be composed for it. The flag tells whether
a segment has been entered. -/
inductive Pending : Bool → UInt16 → UInt16 → Prop
  | kana {x a : UInt16} (before : isKana x = true) (waits : isKana a = true)
      (takes : ∀ mark, composite a mark = composite ((decompose x).getLastD x) mark) :
      Pending true x a
  | space : Pending false 0x20 0x20

def Fits : Bool → JsString → Nat → Prop
  | true => Inside
  | false => Outside

section
variable {inSegment : Bool} {x a : UInt16}

theorem composite_space (mark : UInt16) : composite 0x20 mark = none :=
  composite_eq_none (by decide) mark

theorem Pending.takes (pending : Pending inSegment x a) (mark : UInt16) :
    composite a mark = composite ((decompose x).getLastD x) mark := by
  cases pending with
  | kana before waits takes => exact takes mark
  | space => rfl

theorem Pending.composes (pending : Pending inSegment x a) (y : UInt16) :
    composes x y = (composite a ((decompose y).headD y)).isSome := by
  rw [Kana.composes, pending.takes]

theorem Pending.opens (pending : Pending inSegment x a) (y : UInt16) :
    opens x y = (inSegment && isSpacingMark y) := by
  cases pending with
  | kana before waits takes =>
    have other : x ≠ 0x20 := by
      rintro rfl
      cases isKana_space.symm.trans before
    simp [Kana.opens, other]
  | space => rfl

theorem Pending.emit (pending : Pending inSegment x a) {w : JsString} {n : Nat}
    (inside : Inside w n) : Fits inSegment (a :: w) (n + 1) := by
  cases pending with
  | kana before waits takes => exact inside.outside.kana waits
  | space => exact inside.space

theorem Pending.emit_space (pending : Pending inSegment x a) {w : JsString} {n : Nat}
    (inside : Inside w n) : Fits inSegment (a :: 0x20 :: w) (n + 1 + inSegment.toNat) := by
  cases pending with
  | kana before waits takes => exact inside.space.kana waits
  | space => exact inside.two_spaces

end

/-- How long a name becomes, by what of it is still to be read. -/
def Grows (x : UInt16) (r : JsString) (n : Nat) : Prop :=
  n + countPairs composes x r = 1 + r.length + r.countP isDigraph + countPairs opens x r

theorem Grows.cons {x y : UInt16} {r : JsString} {n n' : Nat} (grows : Grows y r n)
    (step : n' + (composes x y).toNat = n + 1 + (isDigraph y).toNat + (opens x y).toNat) :
    Grows x (y :: r) n' := by
  have counted : (y :: r).countP isDigraph = r.countP isDigraph + (isDigraph y).toNat := by
    rw [List.countP_cons]
    cases isDigraph y with
    | false => rfl
    | true => rfl
  simp only [Grows, countPairs, counted, List.length_cons] at grows ⊢
  omega

theorem composite_mark {m : UInt16} (mem : m ∈ marks) (mark : UInt16) :
    composite m mark = none := by
  have table : marks.all (fun m => marks.all (fun mark => (composite m mark).isNone)) = true := by
    decide
  exact composite_eq_none (List.all_eq_true.mp table m mem) mark

section
variable {inSegment : Bool} {x a y : UInt16} {r : JsString}

/-- A kana is read: it goes into what waits, or takes its place, alone or after what its
decomposition begins with. -/
theorem Pending.read_kana (pending : Pending inSegment x a) (kana_y : isKana y = true)
    (next : ∀ {c : UInt16}, isKana c = true →
      (∀ mark, composite c mark = composite ((decompose y).getLastD y) mark) →
        ∃ n, Inside (composeFrom composite c (r.flatMap decompose)) n ∧ Grows y r n) :
    ∃ n, Fits inSegment (composeFrom composite a (decompose y ++ r.flatMap decompose)) n ∧
      Grows x (y :: r) n := by
  have composes_y := pending.composes y
  have opens_y := pending.opens y
  rcases piece_of_kana kana_y with ⟨m, mem, kana_m, form, single, bare⟩ |
    ⟨m, mem, kana_m, form, single, spacing⟩ |
    ⟨b, tail, front, last, other, form, settled, letters, length, takes, bare⟩
  · rw [form] at composes_y ⊢
    rw [List.singleton_append]
    cases pair : composite a m with
    | some c =>
      cases pending with
      | space => cases (composite_space m).symm.trans pair
      | kana before waits _ =>
        obtain ⟨kana_c, final⟩ := composite_final waits pair
        obtain ⟨n, inside, grows⟩ := next kana_c (fun mark => by
          simp [final mark, form, composite_mark mem])
        rw [composeFrom_some pair]
        exact ⟨n, inside, grows.cons (by simp [composes_y, opens_y, pair, single, bare])⟩
    | none =>
      obtain ⟨n, inside, grows⟩ := next kana_m (fun mark => by simp [form])
      rw [composeFrom_none pair]
      exact ⟨n + 1, pending.emit inside,
        grows.cons (by simp [composes_y, opens_y, pair, single, bare])⟩
  · have apart : composite a 0x20 = none := composite_of_not_mark (by decide) a
    rw [form] at composes_y ⊢
    obtain ⟨n, inside, grows⟩ := next kana_m (fun mark => by simp [form])
    rw [List.cons_append, composeFrom_none apart, List.singleton_append,
      composeFrom_none (composite_space m)]
    exact ⟨n + 1 + inSegment.toNat, pending.emit_space inside,
      grows.cons (by simp [composes_y, opens_y, apart, single, spacing])⟩
  · have apart : composite a b = none := composite_of_not_mark other a
    rw [form] at composes_y ⊢
    have kana_last : isKana last = true := letters last (by simp)
    obtain ⟨n, inside, grows⟩ := next kana_last (fun mark => by rw [takes, form])
    rw [List.cons_append, composeFrom_none apart, composeFrom_append, settled]
    refine ⟨_, pending.emit (inside.letters fun k mem => letters k (by simp [mem])),
      grows.cons ?_⟩
    simp [composes_y, opens_y, apart, length, bare]
    omega

/-- A space after a kana ends the segment. -/
theorem Pending.read_space (pending : Pending true x a)
    (next : ∃ n, Outside (composeFrom composite 0x20 (r.flatMap decompose)) n ∧ Grows 0x20 r n) :
    ∃ n, Inside (composeFrom composite a (decompose 0x20 ++ r.flatMap decompose)) n ∧
      Grows x (0x20 :: r) n := by
  have form : decompose 0x20 = [0x20] := by decide
  have apart : composite a 0x20 = none := composite_of_not_mark (by decide) a
  have composes_y := pending.composes 0x20
  have opens_y := pending.opens 0x20
  obtain ⟨n, outside, grows⟩ := next
  cases pending with
  | kana before waits _ =>
    rw [form, List.singleton_append, composeFrom_none apart]
    refine ⟨n + 1, outside.kana waits, grows.cons ?_⟩
    rw [form] at composes_y
    have bare : isSpacingMark 0x20 = false := by decide
    have single : isDigraph 0x20 = false := by decide
    simp [composes_y, opens_y, apart, bare, single]

/-- The induction is on what is still to be read. -/
theorem fits_of_matches (pending : Pending inSegment x a)
    (good : matchesNameKana inSegment r = true) :
    ∃ n, Fits inSegment (composeFrom composite a (r.flatMap decompose)) n ∧ Grows x r n := by
  induction r generalizing inSegment x a with
  | nil =>
    cases pending with
    | kana before waits takes =>
      have nothing : Outside [] 0 := ⟨rfl, rfl⟩
      exact ⟨1, nothing.kana waits, rfl⟩
    | space => cases good
  | cons y r ih =>
    rw [matchesNameKana] at good
    rw [List.flatMap_cons]
    split at good
    · rename_i kana_y
      exact pending.read_kana kana_y (fun kana_c takes => ih (.kana kana_y kana_c takes) good)
    · simp only [Bool.and_eq_true, beq_iff_eq] at good
      obtain ⟨⟨rfl, rfl⟩, good⟩ := good
      exact pending.read_space (ih .space good)

end

end Kana

/-! ### The normalised name -/

theorem kana_or_space_of_matches {inSegment : Bool} {s : JsString}
    (good : matchesNameKana inSegment s = true) : ∀ unit ∈ s, isKana unit = true ∨ unit = 0x20 := by
  induction s generalizing inSegment with
  | nil => simp
  | cons unit rest ih =>
    rw [matchesNameKana] at good
    split at good
    · rename_i kana
      exact List.forall_mem_cons.mpr ⟨.inl kana, ih good⟩
    · simp only [Bool.and_eq_true, beq_iff_eq] at good
      exact List.forall_mem_cons.mpr ⟨.inr good.1.1, ih good.2⟩

theorem dropWhile_collapse_true (s : JsString) :
    (collapseWhiteSpace true s).dropWhile isWhiteSpace = collapseWhiteSpace true s := by
  induction s with
  | nil => rfl
  | cons unit rest ih =>
    by_cases space : isWhiteSpace unit = true
    · simpa [collapseWhiteSpace, space] using ih
    · simp [collapseWhiteSpace, space]

theorem dropWhile_collapse (s : JsString) :
    (collapseWhiteSpace false s).dropWhile isWhiteSpace = collapseWhiteSpace true s := by
  cases s with
  | nil => rfl
  | cons unit rest =>
    by_cases space : isWhiteSpace unit = true
    · simp [collapseWhiteSpace, space, Kana.isWhiteSpace_space, dropWhile_collapse_true]
    · simp [collapseWhiteSpace, space]

theorem trim_collapse {s : JsString}
    (good : matchesNameKana false (collapseWhiteSpace true s) = true) :
    trim (collapseWhiteSpace false s) = collapseWhiteSpace true s := by
  have trimmed := trim_of_matches good
  rwa [trim, dropWhile_collapse_true, ← dropWhile_collapse, ← trim, dropWhile_collapse] at trimmed

/-- What normalisation makes of a name of the right pattern: it keeps the pattern, a digraph
becomes two kana, a spacing mark may open a segment, and a mark may join its kana. -/
theorem normalizeNameKana_of_matches {u : Unicode} (tables : u.Kana) {s : JsString}
    (good : matchesNameKana false s = true) :
    matchesNameKana false (normalizeNameKana u s) = true ∧
      (normalizeNameKana u s).length + Composition.countPairs Kana.composes 0x20 s =
        s.length + s.countP Kana.isDigraph + Composition.countPairs Kana.opens 0x20 s := by
  obtain ⟨n, outside, grows⟩ := Kana.fits_of_matches .space good
  have begun : Composition.composeFrom Kana.composite 0x20 (s.flatMap Kana.decompose) =
      0x20 :: u.nfkc s := by
    rw [tables.nfkc_kana s (kana_or_space_of_matches good), Kana.nfkc]
    cases s.flatMap Kana.decompose with
    | nil => rfl
    | cons b rest => exact Composition.composeFrom_none (Kana.composite_space b) rest
  rw [begun] at outside
  have reads := outside.reads
  have length := outside.length
  simp only [collapseWhiteSpace, Kana.isWhiteSpace_space, if_true, matchesNameKana,
    Kana.isKana_space, Bool.false_eq_true, if_false, beq_self_eq_true, Bool.and_true,
    Bool.true_and, List.length_cons] at reads length
  rw [normalizeNameKana, trim_collapse reads]
  refine ⟨reads, ?_⟩
  unfold Kana.Grows at grows
  omega

/-- Digraphs and spaces that come in, less the marks that compose, leave the name within its
limit. -/
def NameFits (s : JsString) : Prop :=
  s.length + s.countP Kana.isDigraph + Composition.countPairs Kana.opens 0x20 s ≤
    nameKanaMaxLength + Composition.countPairs Kana.composes 0x20 s

instance (s : JsString) : Decidable (NameFits s) := inferInstanceAs (Decidable (_ ≤ _))

/-- A name of the right pattern is refused for its length or not at all. -/
theorem decodeNameKana_of_matches {u : Unicode} (tables : u.Kana) {s : JsString}
    (good : matchesNameKana false s = true) :
    (∃ name, decodeNameKana u s = some name) ↔ NameFits s := by
  obtain ⟨reads, length⟩ := normalizeNameKana_of_matches tables good
  have some : 0 < (normalizeNameKana u s).length := by
    apply List.length_pos_of_ne_nil
    intro nothing
    rw [nothing] at reads
    cases reads
  have checked : isNameKana (normalizeNameKana u s) = true ↔ NameFits s := by
    simp only [isNameKana, reads, some, decide_true, Bool.true_and, Bool.and_true,
      decide_eq_true_eq, NameFits]
    omega
  rw [← checked]
  constructor
  · rintro ⟨name, decoded⟩
    obtain ⟨rfl, passed⟩ := decodeBranded_eq_some.mp decoded
    exact passed
  · exact fun passed => ⟨_, decodeBranded_eq_some.mpr ⟨rfl, passed⟩⟩

end SlotBooking
