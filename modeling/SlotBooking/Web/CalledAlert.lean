import SlotBooking.Domain.Moves
import SlotBooking.Library.Decimal
import SlotBooking.Library.Repetition
import SlotBooking.Library.Separator
import Mathlib.Data.Int.Order.Basic
import Mathlib.Logic.Relation

/-! The alert of the ticket page. It remembers the last call or nudge it has rung for, and no
earlier one. -/
namespace SlotBooking

/-- What the page observes of its ticket; a state without a call has none. -/
structure ObservedTicket where
  state : TicketState
  calledAt : Option String
  nudgeCount : Option Nat
  displaySeq : Nat

/-- The fields of the wire, under an encoding of instants. -/
def Ticket.observed (encode : Instant → String) (t : Ticket) : ObservedTicket :=
  match t.variant with
  | .waiting | .cancelled _ _ _ => ⟨t.state, none, none, t.displaySeq⟩
  | .called call | .served call _ _ | .noShow call _ _ =>
    ⟨t.state, some (encode call.calledAt), none, t.displaySeq⟩
  | .overdue call overdue =>
    ⟨t.state, some (encode call.calledAt), some overdue.nudgeCount, t.displaySeq⟩

inductive AlertKind where
  | called
  | overdue
deriving DecidableEq

/-- The chime, the vibration and the notification go off together. -/
structure CalledAlert where
  displaySeq : Nat
  kind : AlertKind
deriving DecidableEq

def alertKey (calledAt : String) (nudgeCount : Nat) : String :=
  calledAt ++ "#" ++ toString nudgeCount

/-- `last` is the entry of the local storage. -/
def maybeTriggerCalledAlert (input : ObservedTicket) (last : Option String) :
    Option CalledAlert × Option String :=
  if input.state ≠ .called && input.state ≠ .overdue then (none, last)
  else
    match input.calledAt with
    | none => (none, last)
    | some calledAt =>
      let key := alertKey calledAt (input.nudgeCount.getD 0)
      if last = some key then (none, last)
      else
        (some ⟨input.displaySeq, if input.state = .called then .called else .overdue⟩, some key)

/-- One observation of the page; a terminal state clears the memory. -/
def refresh (t : ObservedTicket) (last : Option String) : Option CalledAlert × Option String :=
  let (alert, last) := maybeTriggerCalledAlert t last
  (alert, if t.state.isTerminal then none else last)

/-- The call or the nudge which an observation is of. -/
def ObservedTicket.stamp (t : ObservedTicket) : Option (String × Nat) :=
  if t.state = .called || t.state = .overdue then
    t.calledAt.map (fun calledAt => (calledAt, t.nudgeCount.getD 0))
  else none

/-- The calls and nudges for which the page rings, observation by observation. -/
def alerted : Option String → List ObservedTicket → List (String × Nat)
  | _, [] => []
  | last, t :: rest =>
    match refresh t last with
    | (none, last) => alerted last rest
    | (some _, last) => t.stamp.toList ++ alerted last rest

/-- Each call and each nudge which is observed rings once, and nothing else does. -/
def AlertsOnce (observations : List ObservedTicket) : Prop :=
  ∀ stamp, (alerted none observations).count stamp =
    if stamp ∈ observations.filterMap ObservedTicket.stamp then 1 else 0

section
variable {t : ObservedTicket} {last : Option String} {observations : List ObservedTicket}

theorem alertKey_injective {at_ at' : String} {n m : Nat} (same : alertKey at_ n = alertKey at' m) :
    (at_, n) = (at', m) := by
  have hash : ∀ n : Nat, '#' ∉ (toString n).toList := by
    intro n mem
    rw [Nat.toString_eq_repr, Nat.toList_repr] at mem
    cases Nat.isDigit_of_mem_toDigits (by decide) (by decide) mem
  have texts := congrArg String.toList same
  simp only [alertKey, String.toList_append] at texts
  obtain ⟨front, back⟩ := Separator.append_inj (hash n) (hash m) (by simpa using texts)
  rw [String.toList_inj.mp front, Decimal.toString_injective (String.toList_inj.mp back)]

/-- An observation of a call or a nudge rings unless it was the last one. -/
theorem refresh_stamped {stamp : String × Nat} (stamped : t.stamp = some stamp) :
    refresh t last = if last = some (alertKey stamp.1 stamp.2) then (none, last)
      else (some ⟨t.displaySeq, if t.state = .called then .called else .overdue⟩,
        some (alertKey stamp.1 stamp.2)) := by
  obtain ⟨state, calledAt, nudgeCount, displaySeq⟩ := t
  cases calledAt with
  | none => cases state <;> simp [ObservedTicket.stamp] at stamped
  | some calledAt =>
    cases state with
    | called | overdue =>
      cases stamped
      simp only [refresh, maybeTriggerCalledAlert, TicketState.isTerminal]
      by_cases known : last = some (alertKey calledAt (nudgeCount.getD 0)) <;> simp [known]
    | waiting | served | noShow | cancelled => cases stamped

theorem refresh_unstamped (unstamped : t.stamp = none) (active : t.state.isTerminal = false) :
    refresh t last = (none, last) := by
  obtain ⟨state, calledAt, nudgeCount, displaySeq⟩ := t
  cases state with
  | waiting => rfl
  | called | overdue =>
    cases calledAt with
    | none => rfl
    | some calledAt => cases unstamped
  | served | noShow | cancelled => cases active

/-- After one that rang, all rings but those next to one of the same kind. -/
theorem alerted_after (between : ∀ t ∈ observations, t.state.isTerminal = false)
    (stamp : String × Nat) :
    stamp :: alerted (some (alertKey stamp.1 stamp.2)) observations =
      (observations.filterMap ObservedTicket.stamp).destutter' (· ≠ ·) stamp := by
  induction observations generalizing stamp with
  | nil => rfl
  | cons t rest ih =>
    obtain ⟨active, between⟩ := List.forall_mem_cons.mp between
    cases stamped : t.stamp with
    | none => simp [alerted, refresh_unstamped stamped active, stamped, ih between]
    | some next =>
      by_cases same : stamp = next
      · subst same
        simp [alerted, refresh_stamped stamped, stamped, ih between]
      · have fresh : alertKey stamp.1 stamp.2 ≠ alertKey next.1 next.2 :=
          fun keys => same (alertKey_injective keys)
        simp [alerted, refresh_stamped stamped, stamped, same, fresh, ih between]

theorem alerted_eq (between : ∀ t ∈ observations, t.state.isTerminal = false) :
    alerted none observations =
      (observations.filterMap ObservedTicket.stamp).destutter (· ≠ ·) := by
  induction observations with
  | nil => rfl
  | cons t rest ih =>
    obtain ⟨active, between⟩ := List.forall_mem_cons.mp between
    cases stamped : t.stamp with
    | none => simp [alerted, refresh_unstamped stamped active, stamped, ih between]
    | some stamp =>
      simp [alerted, refresh_stamped stamped, stamped, alerted_after between,
        List.destutter_cons']

end

/-- Between two clearings each call and each nudge rings once, if and only if none is observed
again after another one. -/
theorem alerts_once_iff (observations : List ObservedTicket)
    (between : ∀ t ∈ observations, t.state.isTerminal = false) :
    AlertsOnce observations ↔
      Repetition.Contiguous (observations.filterMap ObservedTicket.stamp) := by
  rw [← Repetition.nodup_destutter_iff, ← alerted_eq between, List.nodup_iff_count_le_one]
  have observed : ∀ stamp, stamp ∈ alerted none observations ↔
      stamp ∈ observations.filterMap ObservedTicket.stamp := by
    intro stamp
    rw [alerted_eq between, Repetition.mem_destutter]
  constructor
  · intro once stamp
    rw [once stamp]
    split <;> simp
  · intro atMost stamp
    split
    · rename_i mem
      have some_ := List.count_pos_iff.mpr ((observed stamp).mpr mem)
      have bound := atMost stamp
      omega
    · rename_i absent
      exact List.count_eq_zero.mpr (fun mem => absent ((observed stamp).mp mem))

namespace Sample

def rungTicket : TicketCommon :=
  { nameKana := [], phoneLast4 := [], freeText := none, id := ⟨1⟩, seq := 1, lane := .walkIn,
    displaySeq := 7, issuedAt := ⟨4 * nsPerMinute, by decide⟩, appointmentAt := none,
    checkedInAt := none }

def firstCall : CallStamp := ⟨⟨5 * nsPerMinute, by decide⟩, .staff⟩

def rungCalled : Ticket := ⟨rungTicket, .called firstCall⟩

def rungNudged : Ticket := ⟨rungTicket, .overdue firstCall ⟨⟨6 * nsPerMinute, by decide⟩,
  some ⟨7 * nsPerMinute, by decide⟩, 1⟩⟩

/-- The answer which carries the call comes in once more, after the one with the nudge. -/
def overtaken : List ObservedTicket :=
  [rungCalled, rungNudged, rungCalled].map (Ticket.observed (fun _ => "T"))

end Sample

theorem alerts_once_in_order : AlertsOnce (Sample.overtaken.take 2) :=
  (alerts_once_iff (Sample.overtaken.take 2) (by decide)).mpr (by
    intro x y sub
    have short : 3 ≤ 2 := sub.length_le
    omega)

/-- Of two overlapping refreshes the older answer arrives last: the call rings twice. -/
theorem overtaken_rings_twice :
    Relation.ReflTransGen (fun t t' => ∃ result, Move t result ∧ result.ticket = t')
        Sample.rungCalled Sample.rungNudged ∧
      alerted none Sample.overtaken = [("T", 0), ("T", 1), ("T", 0)] ∧
      ¬ AlertsOnce Sample.overtaken := by
  refine ⟨?_, by decide, fun once => ?_⟩
  · have overdue : Relation.ReflTransGen (fun t t' => ∃ result, Move t result ∧ result.ticket = t')
        Sample.rungCalled _ := .single ⟨_, .moveToOverdue Sample.rungTicket Sample.firstCall
          ⟨6 * nsPerMinute, by decide⟩ ⟨1⟩ .system, rfl⟩
    exact overdue.tail ⟨_, .nudge Sample.rungTicket Sample.firstCall _
      ⟨7 * nsPerMinute, by decide⟩ ⟨2⟩ .ws .system, rfl⟩
  · have twice := once ("T", 0)
    exact absurd twice (by decide)

end SlotBooking
