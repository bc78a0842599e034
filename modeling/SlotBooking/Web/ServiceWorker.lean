import SlotBooking.Library.Decimal
import Mathlib.Data.Int.Basic

/-! Push messages, as the shop writes them and as the service worker of the page reads them.
JSON text is read back as the value it was written from. -/
namespace SlotBooking

/-- What `JSON.parse` gives. -/
inductive JsonValue where
  | null
  | boolean (b : Bool)
  | number (n : Int)
  | string (s : String)
  | array (elements : List JsonValue)
  | object (members : List (String × JsonValue))

/-- `value.name`, where the value is an object that has it. -/
def JsonValue.member (name : String) : JsonValue → Option JsonValue
  | .object members => (members.find? (fun m => m.1 = name)).map Prod.snd
  | _ => none

def JsonValue.string? : JsonValue → Option String
  | .string s => some s
  | _ => none

def JsonValue.number? : JsonValue → Option Int
  | .number n => some n
  | _ => none

/-! ### The shop -/

/-- `String` writes a count in plain decimal digits. -/
def pushKindFor (nextNudgeCount : Nat) (maxNudges : Int) : String :=
  if maxNudges ≤ nextNudgeCount then "overdue-final" else "overdue-" ++ toString nextNudgeCount

/-- The payload which `fanOutPush` encrypts for each subscription. -/
def pushPayload (displaySeq : Int) (nextNudgeCount : Nat) (maxNudges : Int) : JsonValue :=
  .object [("v", .number 1), ("kind", .string (pushKindFor nextNudgeCount maxNudges)),
    ("displaySeq", .number displaySeq)]

/-! ### The service worker -/

/-- `event.data`: nothing, a text which is no JSON, or a value. -/
inductive PushData where
  | missing
  | malformed
  | json (value : JsonValue)

def validKinds : List String := ["called", "overdue", "overdue-1", "overdue-2", "overdue-final"]

structure Notification where
  title : String
  body : String
  tag : String
  renotify : Bool
deriving DecidableEq

def titleFor (kind : String) : String :=
  if kind = "called" then "呼ばれました" else "応答をお願いします"

def bodyFor (kind : String) (displaySeq : Option Int) : String :=
  let seq := (displaySeq.map toString).getD ""
  if kind = "called" then seq ++ " 番の方、 受付までお越しください"
  else seq ++ " 番の方、 ご応答をお願いします"

/-- The handler of `push`. It returns without a notification where the payload does not fit. -/
def onPush : PushData → Option Notification
  | .missing | .malformed => none
  | .json parsed =>
    match (parsed.member "kind").bind JsonValue.string? with
    | none => none
    | some kind =>
      if validKinds.contains kind then
        let displaySeq := (parsed.member "displaySeq").bind JsonValue.number?
        some { title := titleFor kind, body := bodyFor kind displaySeq,
               tag := "queue-" ++ kind, renotify := true }
      else none

theorem numbered_tail {n : Nat} {rest : String}
    (same : "overdue-" ++ toString n = "overdue-" ++ rest) : Nat.toDigits 10 n = rest.toList := by
  have texts := congrArg String.toList same
  rw [String.toList_append, String.toList_append] at texts
  rw [← List.append_cancel_left texts, Nat.toString_eq_repr, Nat.toList_repr]

theorem numbered_injective {n m : Nat} (same : "overdue-" ++ toString n = "overdue-" ++ toString m) :
    n = m := by
  have texts := congrArg String.toList same
  rw [String.toList_append, String.toList_append] at texts
  exact Decimal.toString_injective (String.toList_inj.mp (List.append_cancel_left texts))

/-- Of the numbered warnings the worker knows the first two. -/
theorem validKinds_numbered (n : Nat) :
    validKinds.contains ("overdue-" ++ toString n) = true ↔ n = 1 ∨ n = 2 := by
  rw [List.contains_iff_mem]
  constructor
  · intro mem
    have cases : ∀ kind ∈ validKinds, kind = "called" ∨ kind = "overdue" ∨
        kind = "overdue-" ++ toString 1 ∨ kind = "overdue-" ++ toString 2 ∨
          kind = "overdue-" ++ "final" := by decide
    rcases cases _ mem with called | overdue | first | second | final
    · have head := congrArg (fun s => s.toList.head?) called
      simp at head
    · have length := congrArg String.length overdue
      rw [String.length_append] at length
      have known : "overdue-".length = 8 ∧ "overdue".length = 7 := by decide
      omega
    · exact .inl (numbered_injective first)
    · exact .inr (numbered_injective second)
    · -- a digit is no letter
      have letter : 'f' ∈ Nat.toDigits 10 n := by
        rw [numbered_tail final]
        decide
      have digit := Nat.isDigit_of_mem_toDigits (by decide) (by decide) letter
      cases digit
  · rintro (rfl | rfl)
    · decide
    · decide

theorem onPush_pushPayload (displaySeq : Int) (n : Nat) (maxNudges : Int) :
    onPush (.json (pushPayload displaySeq n maxNudges)) =
      if validKinds.contains (pushKindFor n maxNudges) then
        some { title := titleFor (pushKindFor n maxNudges),
               body := bodyFor (pushKindFor n maxNudges) (some displaySeq),
               tag := "queue-" ++ pushKindFor n maxNudges, renotify := true }
      else none := by
  simp [onPush, pushPayload, JsonValue.member, JsonValue.string?, JsonValue.number?]

/-- A notification is shown for the payload of this nudge, and the last nudge is announced as
the final warning. -/
def NudgeShown (maxNudges : Int) (n : Nat) (displaySeq : Int) : Prop :=
  (onPush (.json (pushPayload displaySeq n maxNudges))).isSome = true ∧
    (maxNudges = n → pushKindFor n maxNudges = "overdue-final")

/-- The nudges which are shown: the first two and the last. -/
theorem nudge_shown_iff (maxNudges : Int) (n : Nat) (displaySeq : Int) (first : 1 ≤ n)
    (last : n ≤ maxNudges) : NudgeShown maxNudges n displaySeq ↔ n ≤ 2 ∨ maxNudges = n := by
  have announced : maxNudges = n → pushKindFor n maxNudges = "overdue-final" := by
    rintro rfl
    exact if_pos (Int.le_refl _)
  rw [NudgeShown, and_iff_left announced, onPush_pushPayload]
  by_cases final : maxNudges = n
  · have valid : validKinds.contains "overdue-final" = true := by decide
    rw [announced final, if_pos valid]
    exact iff_of_true rfl (.inr final)
  · have before : ¬ maxNudges ≤ n := by omega
    have known : validKinds.contains (pushKindFor n maxNudges) = true ↔ n = 1 ∨ n = 2 := by
      rw [pushKindFor, if_neg before]
      exact validKinds_numbered n
    split
    · rename_i valid
      have small := known.mp valid
      exact iff_of_true rfl (.inl (by omega))
    · rename_i invalid
      have large : ¬ n ≤ 2 := fun small => invalid (known.mpr (by omega))
      exact iff_of_false (by decide) (by omega)

/-- A configuration of which every nudge is shown has three of them at most. -/
theorem all_nudges_shown_iff (maxNudges : Int) (displaySeq : Int) :
    (∀ n : Nat, 1 ≤ n → n ≤ maxNudges → NudgeShown maxNudges n displaySeq) ↔ maxNudges ≤ 3 := by
  constructor
  · intro all
    by_contra more
    have third := (nudge_shown_iff maxNudges 3 displaySeq (by decide) (by omega)).mp
      (all 3 (by decide) (by omega))
    omega
  · intro few n first last
    exact (nudge_shown_iff maxNudges n displaySeq first last).mpr (by omega)

/-- Of four nudges the third is dropped. -/
theorem third_of_four_dropped : ¬ NudgeShown 4 3 17 := by
  intro shown
  have dropped : (onPush (.json (pushPayload 17 3 4))).isSome = false := by decide
  cases dropped.symm.trans shown.1

theorem nudge_shown_iff_final : NudgeShown 3 3 17 :=
  (nudge_shown_iff 3 3 17 (by decide) (by decide)).mpr (.inr rfl)

end SlotBooking
