import SlotBooking.Domain.KanaTables

/-! The kana helpers of the web form. Its check of a name has the pattern and the limit of the
domain, but not its normalisation, so that it counts the kana as they were typed. -/
namespace SlotBooking

def hiraganaStart : UInt16 := 0x3041

def hiraganaEnd : UInt16 := 0x3096

def hiraToKataOffset : UInt16 := 0x60

/-- One unit at a time: no surrogate is in the block. -/
def toKatakana (s : JsString) : JsString :=
  s.map (fun unit =>
    if hiraganaStart ≤ unit && unit ≤ hiraganaEnd then unit + hiraToKataOffset else unit)

inductive NameKanaValidation where
  | empty
  | ok
  | tooLong
  | invalidChars
deriving DecidableEq

namespace Form

/-- The cap of the form; the domain has its own. -/
def nameKanaMaxLength : Nat := 50

def validateNameKana (s : JsString) : NameKanaValidation :=
  if s.length = 0 then .empty
  else if nameKanaMaxLength < s.length then .tooLong
  else if !matchesNameKana false s then .invalidChars
  else .ok

end Form

theorem toKatakana_idempotent (s : JsString) : toKatakana (toKatakana s) = toKatakana s := by
  simp only [toKatakana, List.map_map]
  apply List.map_congr_left
  intro unit _
  by_cases hiragana : (hiraganaStart ≤ unit && unit ≤ hiraganaEnd) = true
  · have past : ¬ (hiraganaStart ≤ unit + hiraToKataOffset &&
        unit + hiraToKataOffset ≤ hiraganaEnd) = true := by
      simp only [hiraganaStart, hiraganaEnd, hiraToKataOffset, Bool.and_eq_true, decide_eq_true_eq,
        UInt16.le_iff_toNat_le, UInt16.toNat_add, UInt16.reduceToNat] at hiragana ⊢
      omega
    simp only [Function.comp_apply, if_pos hiragana, if_neg past]
  · simp only [Function.comp_apply, if_neg hiragana]

theorem validateNameKana_eq_ok {s : JsString} : Form.validateNameKana s = .ok ↔
    s ≠ [] ∧ s.length ≤ Form.nameKanaMaxLength ∧ matchesNameKana false s = true := by
  unfold Form.validateNameKana
  split
  · rename_i empty
    simp [List.length_eq_zero_iff.mp empty]
  · rename_i some
    have nonempty : s ≠ [] := fun empty => some (by simp [empty])
    split
    · rename_i long
      simp only [reduceCtorEq, false_iff]
      exact fun accepted => absurd long (Nat.not_lt.mpr accepted.2.1)
    · rename_i short
      cases read : matchesNameKana false s <;> simp [nonempty, Nat.le_of_not_lt short]

/-- What the form accepts the server accepts exactly if it still fits once it is normalised. -/
theorem accepted_name_decodes_iff {u : Unicode} (tables : u.Kana) (s : JsString)
    (accepted : Form.validateNameKana (toKatakana s) = .ok) :
    (∃ name, decodeNameKana u (toKatakana s) = some name) ↔ NameFits (toKatakana s) :=
  decodeNameKana_of_matches tables (validateNameKana_eq_ok.mp accepted).2.2

/-- Without a digraph and without a spacing mark nothing comes in. -/
theorem plain_name_decodes {u : Unicode} (tables : u.Kana) {s : JsString}
    (accepted : Form.validateNameKana (toKatakana s) = .ok)
    (plain : ∀ unit ∈ toKatakana s, Kana.isDigraph unit = false ∧ Kana.isSpacingMark unit = false) :
    ∃ name, decodeNameKana u (toKatakana s) = some name := by
  obtain ⟨_, short, reads⟩ := validateNameKana_eq_ok.mp accepted
  have single : (toKatakana s).countP Kana.isDigraph = 0 := by
    rw [List.countP_eq_zero]
    intro unit mem
    simp [(plain unit mem).1]
  have unopened (x : UInt16) (r : JsString) (bare : ∀ unit ∈ r, Kana.isSpacingMark unit = false) :
      Composition.countPairs Kana.opens x r = 0 := by
    induction r generalizing x with
    | nil => rfl
    | cons unit rest ih =>
      obtain ⟨here, later⟩ := List.forall_mem_cons.mp bare
      simp [Composition.countPairs, Kana.opens, here, ih unit later]
  refine (decodeNameKana_of_matches tables reads).mpr ?_
  rw [NameFits, single, unopened 0x20 _ (fun unit mem => (plain unit mem).2)]
  exact Nat.le_add_right_of_le short

namespace Sample

def kanaUnicode : Unicode := ⟨id, Kana.nfkc⟩

theorem kanaUnicode_tables : kanaUnicode.Kana := ⟨fun _ _ => rfl⟩

/-- 49 times U+30A2, and the digraph U+30FF. -/
def digraphName : JsString := List.replicate 49 0x30a2 ++ [0x30ff]

end Sample

theorem digraph_name_refused :
    Form.validateNameKana (toKatakana Sample.digraphName) = .ok ∧
      decodeNameKana Sample.kanaUnicode (toKatakana Sample.digraphName) = none := by
  decide

/-- Typed in hiragana. -/
theorem accepted_name_decodes_iff_typed :
    ∃ name, decodeNameKana Sample.kanaUnicode (toKatakana [0x3055, 0x3068, 0x3046]) = some name :=
  (accepted_name_decodes_iff Sample.kanaUnicode_tables _ (by decide)).mpr (by decide)

end SlotBooking
