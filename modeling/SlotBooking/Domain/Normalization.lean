import SlotBooking.Domain.Text

/-! The two normalisations. A name in kana is a fixed point of its decoder after one pass;
a free text need not be within the limit of its check after one pass or after any number. -/
namespace SlotBooking

/-! ### White space -/

theorem trim_within (s : JsString) : trim s <:+: s :=
  (List.rdropWhile_prefix isWhiteSpace _).isInfix.trans (List.dropWhile_suffix isWhiteSpace).isInfix

theorem isWhiteSpace_of_isKana {unit : UInt16} (kana : isKana unit = true) :
    isWhiteSpace unit = false := by
  simp only [isKana, isWhiteSpace, Bool.or_eq_true, Bool.and_eq_true, decide_eq_true_eq,
    beq_iff_eq, UInt16.le_iff_toNat_le, ← UInt16.toNat_inj, Bool.or_eq_false_iff,
    Bool.and_eq_false_iff, decide_eq_false_iff_not, beq_eq_false_iff_ne, ne_eq] at kana ⊢
  simp only [UInt16.reduceToNat] at kana ⊢
  omega

section
variable {u : Unicode}

/-- A run of white space becomes one ASCII space, across which nothing composes. -/
theorem nfkc_collapse (standard : u.Standard) {inRun : Bool} {seg rest : JsString}
    (apart : inRun = true → seg = []) (normal : u.nfkc (seg ++ rest) = seg ++ rest) :
    u.nfkc (seg ++ collapseWhiteSpace inRun rest) = seg ++ collapseWhiteSpace inRun rest := by
  induction rest generalizing seg inRun with
  | nil => exact normal
  | cons unit rest ih =>
    have tail : u.nfkc rest = rest := by
      apply standard.nfkc_piece _ _ normal
      exact ((List.suffix_cons unit rest).trans (List.suffix_append seg _)).isInfix
    have head : u.nfkc seg = seg :=
      standard.nfkc_piece _ _ normal (List.prefix_append seg _).isInfix
    have later := @ih true [] (fun _ => rfl) tail
    by_cases space : isWhiteSpace unit = true
    · cases inRun with
      | true =>
        rw [apart rfl, collapseWhiteSpace, if_pos space, if_pos rfl]
        exact later
      | false =>
        rw [collapseWhiteSpace, if_pos space, if_neg Bool.false_ne_true, standard.nfkc_space, head]
        rw [List.nil_append] at later
        rw [later]
    · have extended := @ih false (seg ++ [unit]) nofun (by simpa using normal)
      rw [collapseWhiteSpace, if_neg space]
      simpa using extended

theorem nfkc_normalizeNameKana (standard : u.Standard) (raw : JsString) :
    u.nfkc (normalizeNameKana u raw) = normalizeNameKana u raw := by
  have collapsed := @nfkc_collapse u standard false [] (u.nfkc raw) nofun
    (standard.nfkc_idempotent raw)
  exact standard.nfkc_piece _ _ collapsed (trim_within _)

end

/-! ### The pattern of a name -/

theorem collapse_of_matches {inSegment inRun : Bool} {s : JsString}
    (apart : inRun = true → inSegment = false) (good : matchesNameKana inSegment s = true) :
    collapseWhiteSpace inRun s = s := by
  induction s generalizing inSegment inRun with
  | nil => rfl
  | cons unit rest ih =>
    rw [matchesNameKana] at good
    split at good
    · rename_i kana
      have visible : ¬ isWhiteSpace unit = true := by simp [isWhiteSpace_of_isKana kana]
      rw [collapseWhiteSpace, if_neg visible, @ih true false nofun good]
    · simp only [Bool.and_eq_true, beq_iff_eq] at good
      obtain ⟨⟨rfl, inside⟩, later⟩ := good
      have outside : ¬ inRun = true := fun run => by simp [apart run] at inside
      have space : isWhiteSpace 0x20 = true := by decide
      rw [collapseWhiteSpace, if_pos space, if_neg outside, ih (fun _ => rfl) later]

theorem head_of_matches {unit : UInt16} {rest : JsString}
    (good : matchesNameKana false (unit :: rest) = true) : isKana unit = true := by
  rw [matchesNameKana] at good
  split at good
  · assumption
  · simp at good

theorem last_of_matches {inSegment : Bool} {s : JsString}
    (good : matchesNameKana inSegment s = true) (some : s ≠ []) :
    isKana (s.getLast some) = true := by
  induction s generalizing inSegment with
  | nil => exact absurd rfl some
  | cons unit rest ih =>
    cases rest with
    | nil =>
      rw [matchesNameKana] at good
      split at good
      · assumption
      · simp [matchesNameKana] at good
    | cons next rest =>
      rw [List.getLast_cons (List.cons_ne_nil next rest)]
      rw [matchesNameKana] at good
      split at good
      · exact ih good _
      · exact ih (Bool.and_eq_true_iff.mp good).2 _

theorem trim_of_matches {s : JsString} (good : matchesNameKana false s = true) : trim s = s := by
  cases s with
  | nil => rfl
  | cons unit rest =>
    have first : ¬ isWhiteSpace unit = true := by
      simp [isWhiteSpace_of_isKana (head_of_matches good)]
    rw [trim, List.dropWhile_cons_of_neg first, List.rdropWhile_eq_self_iff]
    intro some
    simp [isWhiteSpace_of_isKana (last_of_matches good some)]

/-- One pass of the boundary makes a name a fixed point of every later decode. -/
theorem decodeNameKana_fixed {u : Unicode} (standard : u.Standard) {raw name : JsString}
    (decoded : decodeNameKana u raw = some name) : decodeNameKana u name = some name := by
  obtain ⟨same, checked⟩ := decodeBranded_eq_some.mp decoded
  have normal := nfkc_normalizeNameKana standard raw
  have pattern : matchesNameKana false name = true := by
    simp only [isNameKana, Bool.and_eq_true] at checked
    exact checked.2
  rw [← same] at normal
  have collapsed := @collapse_of_matches false false name nofun pattern
  have fixed : normalizeNameKana u name = name := by
    rw [normalizeNameKana, normal, collapsed, trim_of_matches pattern]
  exact decodeBranded_eq_some.mpr ⟨fixed.symm, checked⟩

theorem decodePhoneLast4_fixed {raw phone : JsString}
    (decoded : decodePhoneLast4 raw = some phone) : decodePhoneLast4 phone = some phone := by
  obtain ⟨rfl, checked⟩ := decodeBranded_eq_some.mp decoded
  exact decodeBranded_eq_some.mpr ⟨rfl, checked⟩

end SlotBooking
