import SlotBooking.Library.InsertionMap

/-! One-shot timers. Their numbers are handed out in order, and none of them twice. A timer which
has fired or has been cleared does not come back. -/

universe u

/-- The timers which are armed, with what they are armed for. -/
structure Timers (α : Type u) where
  nextId : Nat
  armed : InsertionMap Nat α
  below : ∀ id a, armed.get id = some a → id < nextId

namespace Timers

variable {α : Type u} {timers : Timers α} {id other : Nat}

def empty : Timers α := ⟨0, .empty, fun id a found => by cases found⟩

def get (timers : Timers α) (id : Nat) : Option α := timers.armed.get id

/-- Arms a timer, under the next number. -/
def set (timers : Timers α) (a : α) : Timers α where
  nextId := timers.nextId + 1
  armed := timers.armed.set timers.nextId a
  below := by
    intro id b found
    rw [InsertionMap.get_set] at found
    split at found
    · rename_i own
      exact own ▸ Nat.lt_succ_self _
    · exact Nat.lt_succ_of_lt (timers.below id b found)

/-- Clears a timer, or takes out the one which fires; others are left alone. -/
def clear (timers : Timers α) (id : Nat) : Timers α where
  nextId := timers.nextId
  armed := timers.armed.erase id
  below := by
    intro other a found
    rw [InsertionMap.get_erase] at found
    split at found
    · cases found
    · exact timers.below other a found

theorem get_set (timers : Timers α) (a : α) (id : Nat) :
    (timers.set a).get id = if id = timers.nextId then some a else timers.get id :=
  InsertionMap.get_set _ _ _ _

theorem get_clear (timers : Timers α) (id other : Nat) :
    (timers.clear id).get other = if other = id then none else timers.get other :=
  InsertionMap.get_erase _ _ _

/-- The timer was armed once, and is not any more. -/
structure Retired (timers : Timers α) (id : Nat) : Prop where
  armed : id < timers.nextId
  gone : timers.get id = none

theorem Retired.set (retired : timers.Retired id) (a : α) : (timers.set a).Retired id := by
  refine ⟨Nat.lt_succ_of_lt retired.armed, ?_⟩
  rw [get_set, if_neg (Nat.ne_of_lt retired.armed)]
  exact retired.gone

theorem Retired.clear (retired : timers.Retired id) (other : Nat) :
    (timers.clear other).Retired id := by
  refine ⟨retired.armed, ?_⟩
  rw [get_clear, retired.gone, ite_self]

end Timers
