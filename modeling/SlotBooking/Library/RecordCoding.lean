import Mathlib.Data.List.DropRight

/-! Encrypted messages cut into records: a header with salt, record size and key, then records of
that size, of which the last may be shorter. Opened, a record is data, a delimiter and zeros. The
cipher is a parameter. -/

namespace RecordCoding

structure Header where
  salt : List UInt8
  recordSize : Nat
  keyId : List UInt8
deriving DecidableEq

/-- The number of some bytes, the most significant first. -/
def number (bytes : List UInt8) : Nat := bytes.foldl (fun n b => 256 * n + b.toNat) 0

/-- The last `width` bytes of a number. -/
def bytesOf : Nat → Nat → List UInt8
  | 0, _ => []
  | width + 1, n => bytesOf width (n / 256) ++ [UInt8.ofNat (n % 256)]

/-- The nonce of the record `i`: its number, from the end, against the one of the message. -/
def nonceAt (nonce : List UInt8) (i : Nat) : List UInt8 :=
  List.zipWith (fun x y => x ^^^ y) nonce (bytesOf 12 i)

/-- 16 bytes of salt, four of the record size, one of the length of the key, and the key. -/
def parse (body : List UInt8) : Option (Header × List UInt8) :=
  match body.drop 20 with
  | [] => none
  | idLength :: rest =>
    let recordSize := number ((body.drop 16).take 4)
    if recordSize < 18 ∨ rest.length < idLength.toNat then none
    else some (⟨body.take 16, recordSize, rest.take idLength.toNat⟩, rest.drop idLength.toNat)

/-! ### Records -/

def lastDelimiter : UInt8 := 2

def innerDelimiter : UInt8 := 1

/-- Zeros come off the end, and then the delimiter. -/
def unpad (delimiter : UInt8) (padded : List UInt8) : Option (List UInt8) :=
  match (padded.rdropWhile (· == 0)).getLast? with
  | none => none
  | some last => if last = delimiter then some (padded.rdropWhile (· == 0)).dropLast else none

def recordsWithin (size : Nat) : Nat → List UInt8 → List (List UInt8)
  | 0, _ | _ + 1, [] => []
  | fuel + 1, byte :: rest =>
    (byte :: rest).take size :: recordsWithin size fuel ((byte :: rest).drop size)

def records (size : Nat) (data : List UInt8) : List (List UInt8) :=
  recordsWithin size data.length data

section
variable (decrypt : Nat → List UInt8 → Option (List UInt8))

/-- The records are opened by their number in the message, which ends with a last one. -/
def openRecords : Nat → List (List UInt8) → Option (List UInt8)
  | _, [] => none
  | i, [last] => (decrypt i last).bind (unpad lastDelimiter)
  | i, record :: next :: rest => do
    let padded ← decrypt i record
    let front ← unpad innerDelimiter padded
    let back ← openRecords (i + 1) (next :: rest)
    return front ++ back

variable {decrypt} {size : Nat} {data : List UInt8}

theorem recordsWithin_nil (fuel : Nat) : recordsWithin size fuel [] = [] := by
  cases fuel <;> rfl

theorem records_single (some_ : data ≠ []) (fits : data.length ≤ size) :
    records size data = [data] := by
  cases data with
  | nil => exact absurd rfl some_
  | cons byte rest =>
    rw [records, List.length_cons, recordsWithin, List.take_of_length_le fits,
      List.drop_of_length_le fits, recordsWithin_nil]

/-- A message longer than a record has more than one, the first of full size. -/
theorem records_long (pos : 0 < size) (long : size < data.length) :
    ∃ next rest, records size data = data.take size :: next :: rest := by
  have more : data.drop size ≠ [] := fun none_ => by
    have short := List.drop_eq_nil_iff.mp none_
    omega
  cases data with
  | nil => cases long
  | cons byte tail =>
    obtain ⟨first, behind, split⟩ := List.exists_cons_of_ne_nil more
    cases tail with
    | nil =>
      simp only [List.length_cons, List.length_nil] at long
      omega
    | cons byte' tail =>
      rw [records, List.length_cons, recordsWithin, split, List.length_cons, recordsWithin]
      exact ⟨_, _, rfl⟩

theorem openRecords_single (some_ : data ≠ []) (fits : data.length ≤ size) :
    openRecords decrypt 0 (records size data) =
      (decrypt 0 data).bind (unpad lastDelimiter) := by
  rw [records_single some_ fits, openRecords]

/-- Where the first record does not decrypt, nothing does. -/
theorem openRecords_long (pos : 0 < size) (long : size < data.length)
    (truncated : decrypt 0 (data.take size) = none) :
    openRecords decrypt 0 (records size data) = none := by
  obtain ⟨next, rest, split⟩ := records_long pos long
  rw [split, openRecords, truncated]
  rfl

end

theorem unpad_append {delimiter : UInt8} (nonzero : delimiter ≠ 0) (data : List UInt8) :
    unpad delimiter (data ++ [delimiter]) = some data := by
  have kept : (data ++ [delimiter]).rdropWhile (· == 0) = data ++ [delimiter] :=
    List.rdropWhile_concat_neg _ _ _ (by simpa using nonzero)
  simp [unpad, kept]

theorem xor_zeros {bytes : List UInt8} {count : Nat} (enough : bytes.length ≤ count) :
    List.zipWith (fun x y => x ^^^ y) bytes (List.replicate count 0) = bytes := by
  induction bytes generalizing count with
  | nil => rfl
  | cons byte rest ih =>
    cases count with
    | zero => cases enough
    | succ count =>
      simp [List.replicate_succ, ih (Nat.le_of_succ_le_succ enough)]

theorem nonceAt_zero {nonce : List UInt8} (short : nonce.length ≤ 12) :
    nonceAt nonce 0 = nonce := xor_zeros short

/-! ### The header -/

section
variable {salt size keyId data : List UInt8}

theorem parse_append (salt16 : salt.length = 16) (size4 : size.length = 4)
    (large : 18 ≤ number size) (short : keyId.length < 256) :
    parse (salt ++ size ++ [UInt8.ofNat keyId.length] ++ keyId ++ data) =
      some (⟨salt, number size, keyId⟩, data) := by
  have length : (UInt8.ofNat keyId.length).toNat = keyId.length := UInt8.toNat_ofNat_of_lt' short
  have front : (salt ++ size).length = 20 := by rw [List.length_append, salt16, size4]
  have text : salt ++ size ++ [UInt8.ofNat keyId.length] ++ keyId ++ data =
      salt ++ (size ++ UInt8.ofNat keyId.length :: (keyId ++ data)) := by simp
  have behind : (salt ++ (size ++ UInt8.ofNat keyId.length :: (keyId ++ data))).drop 20 =
      UInt8.ofNat keyId.length :: (keyId ++ data) := by
    rw [← List.append_assoc, ← front, List.drop_left]
  have recordSize : ((salt ++ (size ++ UInt8.ofNat keyId.length :: (keyId ++ data))).drop 16).take
      4 = size := by
    rw [← salt16, List.drop_left, ← size4, List.take_left]
  have first : (salt ++ (size ++ UInt8.ofNat keyId.length :: (keyId ++ data))).take 16 = salt := by
    rw [← salt16, List.take_left]
  have enough : ¬ (number size < 18 ∨ (keyId ++ data).length < keyId.length) := by
    rw [List.length_append]
    omega
  rw [text, parse, behind]
  simp only [recordSize, first, length, enough, if_false, List.take_left, List.drop_left]

end

end RecordCoding
