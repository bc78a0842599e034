import SlotBooking.Domain.Evolution

/-! The two counters of a slot. The count that leaves one ticket out misses that ticket where it
occupies the slot, and nothing else. -/
namespace SlotBooking

/-- The ticket under the id is an active reservation for that instant. -/
def QueueSnapshot.Occupies (snap : QueueSnapshot) (id : TicketId) (startAt : Instant) : Prop :=
  ∃ t, snap.get id = some t ∧ t.lane = .reservation ∧ t.state.isActive ∧
    t.appointmentAt = some startAt

theorem occupiesSlot_iff {startAt : Instant} {t : Ticket} :
    occupiesSlot startAt t = true ↔
      t.lane = .reservation ∧ t.state.isActive ∧ t.appointmentAt = some startAt := by
  unfold occupiesSlot isActiveForHandle
  cases t.appointmentAt with
  | none => simp
  | some apptAt =>
    simp only [Bool.and_eq_true, decide_eq_true_eq, beq_iff_eq, Option.some.injEq, and_assoc]
    refine and_congr_right (fun _ => and_congr_right (fun _ => ?_))
    exact ⟨Instant.eq_of_epochNs, congrArg Instant.epochNs⟩

section
variable {snap before after : QueueSnapshot} {id : TicketId} {startAt : Instant}

theorem QueueSnapshot.occupies_iff {t : Ticket} (found : snap.get id = some t) :
    snap.Occupies id startAt ↔ occupiesSlot startAt t = true := by
  rw [occupiesSlot_iff]
  constructor
  · rintro ⟨t', found', holds⟩
    cases found.symm.trans found'
    exact holds
  · exact fun holds => ⟨t, found, holds⟩

/-- The tickets under other ids which occupy the slot from `startAt`. -/
def QueueSnapshot.othersIn (snap : QueueSnapshot) (id : TicketId) (startAt : Instant) : Nat :=
  (snap.tickets.without id).countP (fun e => occupiesSlot startAt e.2)

theorem countP_othersIn (keyed : snap.Keyed) (id : TicketId) (startAt : Instant) :
    snap.tickets.values.countP (fun t => t.id ≠ id && occupiesSlot startAt t) =
      snap.othersIn id startAt := by
  rw [QueueSnapshot.othersIn, InsertionMap.values, InsertionMap.without, List.countP_map,
    List.countP_filter]
  apply List.countP_congr
  intro e mem
  have own : e.2.id = e.1 := keyed e.1 e.2 (InsertionMap.get_of_mem mem)
  simp [own, and_comm]

theorem countP_occupied (snap : QueueSnapshot) (id : TicketId) (startAt : Instant) :
    (snap.Occupies id startAt →
      snap.tickets.values.countP (occupiesSlot startAt) = snap.othersIn id startAt + 1) ∧
    (¬ snap.Occupies id startAt →
      snap.tickets.values.countP (occupiesSlot startAt) = snap.othersIn id startAt) := by
  rw [InsertionMap.values, List.countP_map]
  cases found : snap.get id with
  | none =>
    have absent : ¬ snap.Occupies id startAt := by
      rintro ⟨t, found', _⟩
      cases found.symm.trans found'
    rw [QueueSnapshot.othersIn, InsertionMap.without_absent found]
    exact ⟨fun holds => absurd holds absent, fun _ => rfl⟩
  | some t =>
    rw [(InsertionMap.perm_cons_without found).countP_eq, List.countP_cons,
      QueueSnapshot.occupies_iff found]
    constructor
    · intro holds
      simp [QueueSnapshot.othersIn, Function.comp_def, holds]
    · intro free
      simp [QueueSnapshot.othersIn, Function.comp_def, free]

theorem slotOccupancy_eq {slot : Slot} {tz : BusinessTimeZone} {interval : SlotInterval}
    (spans : intervalOf slot tz = some interval) (snap : QueueSnapshot) :
    slotOccupancy snap slot tz =
      some (snap.tickets.values.countP (occupiesSlot interval.startAt)) := by
  rw [slotOccupancy, spans]
  rfl

theorem occupancyExcludingSelf_eq {slot : Slot} {tz : BusinessTimeZone} {interval : SlotInterval}
    (spans : intervalOf slot tz = some interval) (keyed : snap.Keyed) (id : TicketId) :
    occupancyExcludingSelf snap id slot tz = some (snap.othersIn id interval.startAt) := by
  rw [← countP_othersIn keyed, occupancyExcludingSelf, spans]
  rfl

/-- The two counts differ by the ticket itself. -/
theorem slotOccupancy_besides (keyed : snap.Keyed) (slot : Slot) (tz : BusinessTimeZone)
    (id : TicketId) :
    ((∃ interval, intervalOf slot tz = some interval ∧ snap.Occupies id interval.startAt) →
      slotOccupancy snap slot tz = (occupancyExcludingSelf snap id slot tz).map (fun n => n + 1)) ∧
    ((¬ ∃ interval, intervalOf slot tz = some interval ∧ snap.Occupies id interval.startAt) →
      slotOccupancy snap slot tz = occupancyExcludingSelf snap id slot tz) := by
  cases spans : intervalOf slot tz with
  | none =>
    constructor
    · rintro ⟨interval, absent, _⟩
      cases absent
    · intro _
      rw [slotOccupancy, occupancyExcludingSelf, spans]
      rfl
  | some interval =>
    obtain ⟨self, others⟩ := countP_occupied snap id interval.startAt
    rw [slotOccupancy_eq spans, occupancyExcludingSelf_eq spans keyed]
    constructor
    · rintro ⟨interval', same, holds⟩
      cases same
      rw [self holds]
      rfl
    · intro free
      rw [others (fun holds => free ⟨interval, rfl, holds⟩)]

/-! ### One ticket moved to another slot -/

/-- One active reservation has moved from one appointment to another, and nothing else has. -/
structure QueueSnapshot.Rebooked (before after : QueueSnapshot) (id : TicketId)
    (source target : Instant) : Prop where
  keyed : before.Keyed
  left : before.Occupies id source
  joined : after.Occupies id target
  elsewhere : ∀ other, other ≠ id → after.get other = before.get other

theorem QueueSnapshot.Occupies.unique {startAt' : Instant} (here : snap.Occupies id startAt)
    (there : snap.Occupies id startAt') : startAt = startAt' := by
  obtain ⟨t, found, _, _, at_⟩ := here
  obtain ⟨t', found', _, _, at'⟩ := there
  cases found.symm.trans found'
  exact Option.some.inj (at_.symm.trans at')

namespace QueueSnapshot.Rebooked

variable {source target : Instant} {slot : Slot} {tz : BusinessTimeZone} {interval : SlotInterval}

theorem others (rebooked : before.Rebooked after id source target) (startAt : Instant) :
    after.othersIn id startAt = before.othersIn id startAt :=
  (InsertionMap.without_perm rebooked.elsewhere).countP_eq _

theorem slotOccupancy_target (rebooked : before.Rebooked after id source target)
    (spans : intervalOf slot tz = some interval) (starts : interval.startAt = target) :
    slotOccupancy after slot tz =
      (occupancyExcludingSelf before id slot tz).map (fun n => n + 1) := by
  rw [slotOccupancy_eq spans, occupancyExcludingSelf_eq spans rebooked.keyed, starts,
    (countP_occupied after id target).1 rebooked.joined, rebooked.others]
  rfl

theorem slotOccupancy_source (rebooked : before.Rebooked after id source target)
    (apart : source ≠ target) (spans : intervalOf slot tz = some interval)
    (starts : interval.startAt = source) :
    slotOccupancy before slot tz = (slotOccupancy after slot tz).map (fun n => n + 1) := by
  have gone : ¬ after.Occupies id source := fun holds => apart (holds.unique rebooked.joined)
  rw [slotOccupancy_eq spans, slotOccupancy_eq spans, starts,
    (countP_occupied before id source).1 rebooked.left,
    (countP_occupied after id source).2 gone, rebooked.others]
  rfl

theorem slotOccupancy_elsewhere (rebooked : before.Rebooked after id source target)
    (spans : intervalOf slot tz = some interval) (notSource : interval.startAt ≠ source)
    (notTarget : interval.startAt ≠ target) :
    slotOccupancy after slot tz = slotOccupancy before slot tz := by
  have never : ¬ before.Occupies id interval.startAt :=
    fun holds => notSource (holds.unique rebooked.left)
  have nor : ¬ after.Occupies id interval.startAt :=
    fun holds => notTarget (holds.unique rebooked.joined)
  rw [slotOccupancy_eq spans, slotOccupancy_eq spans, (countP_occupied before id _).2 never,
    (countP_occupied after id _).2 nor, rebooked.others]

end QueueSnapshot.Rebooked

end

end SlotBooking
