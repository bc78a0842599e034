import SlotBooking.Application.Rescheduling
import SlotBooking.Library.Trace
import SlotBooking.Runs.Commands
import SlotBooking.Runs.Rows
import SlotBooking.Shop.Boundary

/-! How many reservations a slot holds. An issue does not look at the slot it books, and a
reschedule counts the appointments at the very start of its slot. -/
namespace SlotBooking

/-- The half-open interval of a slot. -/
def SlotInterval.holds (interval : SlotInterval) (t : Instant) : Bool :=
  interval.startAt.epochNs ≤ t.epochNs && t.epochNs < interval.endAt.epochNs

/-- An active reservation whose appointment lies in the interval. -/
def Ticket.bookedIn (t : Ticket) (interval : SlotInterval) : Bool :=
  t.lane = .reservation && t.state.isActive && t.appointmentAt.any interval.holds

namespace DurableStore

variable (s : DurableStore)

def bookedIn (interval : SlotInterval) : Nat :=
  s.tickets.countP (fun r => r.payload.json.bookedIn interval)

def bookedBesides (id : TicketId) (interval : SlotInterval) : Nat :=
  s.tickets.countP (fun r => r.id ≠ id && r.payload.json.bookedIn interval)

variable (tz : BusinessTimeZone) (g : SlotGranularity) (capacity : Nat)

def WithinCapacity : Prop :=
  ∀ date bucketId interval, bucketId < bucketsPerDay g →
    intervalOf ⟨date, bucketId, g, capacity⟩ tz = some interval → s.bookedIn interval ≤ capacity

/-- No slot around the instant is filled by other tickets. -/
def RoomFor (id : TicketId) (target : Instant) : Prop :=
  ∀ date bucketId interval, bucketId < bucketsPerDay g →
    intervalOf ⟨date, bucketId, g, capacity⟩ tz = some interval → interval.holds target →
      s.bookedBesides id interval < capacity

end DurableStore

/-- A reschedule which goes through: its checks pass and its event id is new. -/
def Reschedules (u : Unicode) (ports : Ports) (input : RescheduleTicketInput)
    (s : DurableStore) : Prop :=
  ∃ loaded source,
    Reschedulable ((Durable.repository u Durable.snapshotInterval).reads s) input loaded source ∧
    Admitted ((Durable.repository u Durable.snapshotInterval).reads s) ports input loaded.state ∧
    ports.newTicketEventId 0 ∉ s.ticketEvents.map EventRow.id

/-- A dispatch which books an instant finds room in every slot around it. -/
structure Roomy (u : Unicode) (instants : InstantText) (tz : BusinessTimeZone)
    (g : SlotGranularity) (capacity : Nat) (s : DurableStore) (call : Ports × QueueAction) :
    Prop where
  issue : ∀ input, call.2.useCase instants = some (.issueTicket input) →
    Starts u call.1 input s → input.lane = some .reservation →
    ∀ target, input.appointmentAt = some target →
      s.RoomFor tz g capacity call.1.newTicketId target
  reschedule : ∀ input, call.2.useCase instants = some (.rescheduleTicket input) →
    Reschedules u call.1 input s →
      s.RoomFor tz g capacity input.ticketId input.newAppointmentAt

section
variable {u : Unicode} {instants : InstantText} {interval : Nat} {s s' : DurableStore}

/-! ### Counting -/

theorem bookedIn_of_outline {t q : Ticket} (same : t.outline = q.outline) (slot : SlotInterval) :
    t.bookedIn slot = q.bookedIn slot := by
  have lane : t.lane = q.lane := congrArg (fun t => t.lane) same
  have appointmentAt : t.appointmentAt = q.appointmentAt :=
    congrArg (fun t => t.appointmentAt) same
  have state : t.state = q.state := congrArg (fun t => t.state) same
  rw [Ticket.bookedIn, Ticket.bookedIn, lane, appointmentAt, state]

theorem countP_besides {rows : List TicketRow} {id : TicketId} (absent : id ∉ rows.map TicketRow.id)
    (p : TicketRow → Bool) : rows.countP (fun r => r.id ≠ id && p r) = rows.countP p := by
  apply List.countP_congr
  intro r mem
  have other : r.id ≠ id := fun same => absent (same ▸ List.mem_map_of_mem mem)
  simp [other]

theorem Moved.bookedIn {loaded : LoadedAggregate} {result : ApplyResult}
    (moved : Moved u interval s s' loaded result) (kept : s.Kept) (slot : SlotInterval) :
    s.bookedIn slot = s.bookedBesides loaded.state.id slot +
        (if loaded.state.bookedIn slot then 1 else 0) ∧
      s'.bookedIn slot = s.bookedBesides loaded.state.id slot +
        (if result.ticket.bookedIn slot then 1 else 0) := by
  obtain ⟨front, row, back, before, after, rowId, outline⟩ := moved.rows kept
  have keyed := kept.tidy.ticketsKeyed
  rw [before, List.map_append, List.map_cons, rowId] at keyed
  obtain ⟨_, tailKeyed, apart⟩ := List.nodup_append.mp keyed
  have inFront : loaded.state.id ∉ front.map TicketRow.id :=
    fun mem => apart _ mem _ List.mem_cons_self rfl
  have inBack : loaded.state.id ∉ back.map TicketRow.id := (List.nodup_cons.mp tailKeyed).1
  have besides : s.bookedBesides loaded.state.id slot =
      front.countP (fun r => r.payload.json.bookedIn slot) +
        back.countP (fun r => r.payload.json.bookedIn slot) := by
    rw [DurableStore.bookedBesides, before, List.countP_append, List.countP_cons,
      countP_besides inFront, countP_besides inBack]
    simp [rowId]
  rw [besides, DurableStore.bookedIn, DurableStore.bookedIn, before, after, List.countP_append,
    List.countP_append, List.countP_cons, List.countP_cons, bookedIn_of_outline outline]
  exact ⟨(Nat.add_assoc _ _ _).symm, (Nat.add_assoc _ _ _).symm⟩

theorem Issued.bookedIn {ports : Ports} {input : IssueTicketInput} {all : List Ticket}
    (issued : Issued u interval ports input s s' all) (kept : s.Kept) (slot : SlotInterval) :
    s.bookedIn slot = s.bookedBesides ports.newTicketId slot ∧
      s'.bookedIn slot = s.bookedBesides ports.newTicketId slot +
        (if (issueResult ports input s all).ticket.bookedIn slot then 1 else 0) := by
  have absent : ports.newTicketId ∉ s.tickets.map TicketRow.id :=
    Table.find_none_iff.mp (issued.absent kept).2
  have besides : s.bookedBesides ports.newTicketId slot = s.bookedIn slot :=
    countP_besides absent _
  rw [besides, DurableStore.bookedIn, DurableStore.bookedIn, issued.tickets kept,
    List.countP_append, List.countP_singleton]
  exact ⟨rfl, rfl⟩

/-! ### What a commit does to the bound -/

variable {tz : BusinessTimeZone} {g : SlotGranularity} {capacity : Nat}

theorem within_of_fewer (fewer : ∀ slot, s'.bookedIn slot ≤ s.bookedIn slot)
    (within : s.WithinCapacity tz g capacity) : s'.WithinCapacity tz g capacity :=
  fun date bucketId slot valid same => (fewer slot).trans (within date bucketId slot valid same)

/-- A ticket which lands at an instant keeps the bound if and only if there is room for it. -/
theorem within_iff_room {id : TicketId} {target : Instant}
    (before : ∀ slot, s.bookedBesides id slot ≤ s.bookedIn slot)
    (after : ∀ slot, s'.bookedIn slot = s.bookedBesides id slot +
      (if slot.holds target then 1 else 0))
    (within : s.WithinCapacity tz g capacity) :
    s'.WithinCapacity tz g capacity ↔ s.RoomFor tz g capacity id target := by
  constructor
  · intro within' date bucketId slot valid same holds
    have bound := within' date bucketId slot valid same
    rw [after, if_pos holds] at bound
    exact bound
  · intro room date bucketId slot valid same
    rw [after]
    by_cases holds : slot.holds target
    · have free := room date bucketId slot valid same holds
      rw [if_pos holds]
      exact free
    · rw [if_neg holds]
      exact (before slot).trans (within date bucketId slot valid same)

theorem Moved.besides_le {loaded : LoadedAggregate} {result : ApplyResult}
    (moved : Moved u interval s s' loaded result) (kept : s.Kept) (slot : SlotInterval) :
    s.bookedBesides loaded.state.id slot ≤ s.bookedIn slot := by
  rw [(moved.bookedIn kept slot).1]
  exact Nat.le_add_right _ _

theorem Moved.bookedIn_le {loaded : LoadedAggregate} {result : ApplyResult}
    (moved : Moved u interval s s' loaded result) (kept : s.Kept)
    (stays : result.ticket.appointmentAt = loaded.state.appointmentAt) (slot : SlotInterval) :
    s'.bookedIn slot ≤ s.bookedIn slot := by
  have carried : result.ticket.bookedIn slot = true → loaded.state.bookedIn slot = true := by
    have active := moved.move.source_active
    simp only [Ticket.bookedIn, stays, moved.move.sameCore.lane, active, Bool.and_eq_true]
    rintro ⟨⟨lane, _⟩, booked⟩
    exact ⟨⟨lane, trivial⟩, booked⟩
  obtain ⟨before, after⟩ := moved.bookedIn kept slot
  rw [before, after]
  by_cases booked : result.ticket.bookedIn slot = true
  · rw [if_pos booked, if_pos (carried booked)]
  · rw [if_neg booked]
    omega

theorem Applies.stays {reads : Reads} {ports : Ports} {c : UseCase} {loaded : LoadedAggregate}
    {result : ApplyResult} (applies : Applies reads ports c loaded result)
    (other : ∀ input, c ≠ .rescheduleTicket input) :
    result.ticket.appointmentAt = loaded.state.appointmentAt := by
  cases applies with
  | rescheduleTicket input => exact absurd rfl (other input)
  | lapseAppointment id t revision result lane read applied =>
    obtain ⟨appointmentAt, _, rfl⟩ := applyLapseAppointment_eq_some applied
    rfl
  | _ => rfl

theorem Commit.within {ports : Ports} {c : UseCase} (commit : Commit u interval ports s c s')
    (kept : s.Kept) (noIssue : ∀ input, c ≠ .issueTicket input)
    (noReschedule : ∀ input, c ≠ .rescheduleTicket input)
    (within : s.WithinCapacity tz g capacity) : s'.WithinCapacity tz g capacity := by
  cases commit with
  | unchanged => exact within
  | issued input => exact absurd rfl (noIssue input)
  | moved _ loaded result _ applies step =>
    exact within_of_fewer (step.bookedIn_le kept (applies.stays noReschedule)) within
  | called firstId restIds actor _ waits steps =>
    have both : s'.Kept ∧ s'.WithinCapacity tz g capacity := by
      induction steps with
      | refl => exact ⟨kept, within⟩
      | tail _ step ih =>
        obtain ⟨t, revision, index, _, moved⟩ := step
        exact ⟨moved.kept ih.1, within_of_fewer (moved.bookedIn_le ih.1 rfl) ih.2⟩
    exact both.2

/-! ### Dispatches -/

theorem Issued.within_iff {ports : Ports} {input : IssueTicketInput} {all : List Ticket}
    (issued : Issued u interval ports input s s' all) (kept : s.Kept)
    (within : s.WithinCapacity tz g capacity) :
    s'.WithinCapacity tz g capacity ↔ (input.lane = some .reservation →
      ∀ target, input.appointmentAt = some target →
        s.RoomFor tz g capacity ports.newTicketId target) := by
  have booked : ∀ slot, (issueResult ports input s all).ticket.bookedIn slot =
      (decide (input.lane.getD .walkIn = .reservation) && input.appointmentAt.any slot.holds) := by
    intro slot
    exact congrArg (· && _) (Bool.and_true _)
  by_cases lane : input.lane = some .reservation
  · cases appointmentAt : input.appointmentAt with
    | some target =>
      have lands : ∀ slot, s'.bookedIn slot = s.bookedBesides ports.newTicketId slot +
          (if slot.holds target then 1 else 0) := by
        intro slot
        rw [(issued.bookedIn kept slot).2, booked, lane, appointmentAt]
        simp
      rw [within_iff_room (fun slot => (issued.bookedIn kept slot).1.ge) lands within]
      simp [lane]
    | none =>
      have unchanged : ∀ slot, s'.bookedIn slot ≤ s.bookedIn slot := by
        intro slot
        rw [(issued.bookedIn kept slot).2, booked, appointmentAt, (issued.bookedIn kept slot).1]
        simp
      exact iff_of_true (within_of_fewer unchanged within) (fun _ _ same => nomatch same)
  · have walkIn : input.lane.getD .walkIn ≠ .reservation := by
      cases given : input.lane with
      | none => simp
      | some other =>
        rw [given] at lane
        simpa using lane
    have unchanged : ∀ slot, s'.bookedIn slot ≤ s.bookedIn slot := by
      intro slot
      rw [(issued.bookedIn kept slot).2, booked, (issued.bookedIn kept slot).1]
      simp [walkIn]
    exact iff_of_true (within_of_fewer unchanged within) (fun same => absurd same lane)

/-- A reschedule which goes through moves the appointment and nothing else. -/
theorem Reschedules.moved {ports : Ports} {input : RescheduleTicketInput} (kept : s.Kept)
    (reschedules : Reschedules u ports input s) :
    ∃ s' loaded result, (∃ t, rescheduleTicket (Durable.repository u Durable.snapshotInterval) ports
        input s = (.ok t, s')) ∧ Moved u Durable.snapshotInterval s s' loaded result ∧
      loaded.state.id = input.ticketId ∧
      ∀ slot, result.ticket.bookedIn slot = slot.holds input.newAppointmentAt := by
  obtain ⟨loaded, source, reschedulable, admitted, fresh⟩ := reschedules
  obtain ⟨all, occupancy, listed, counted, free⟩ := admitted.room
  have read : Durable.load u s input.ticketId = .ok loaded := reschedulable.read
  have own : loaded.state.id = input.ticketId := load_id kept.tidy (kept.outlined _) read
  have ran := rescheduleTicket_run reschedulable admitted.ahead
    (admitted.elsewhere source reschedulable.booked) listed counted free
  cases applied : applyReschedule loaded.state input.newAppointmentAt (ports.nowInstant 1)
      (ports.newTicketEventId 0) input.actor with
  | none =>
    rw [applyReschedule, reschedulable.booked] at applied
    cases applied
  | some result =>
    rw [applied] at ran
    have move := Move.reschedule loaded.state admitted.active admitted.lane _ _ _ _ _ applied
    obtain ⟨_, _, rfl⟩ := applyReschedule_eq_some applied
    obtain ⟨s', done, moved⟩ := save_fresh kept (kept.load_self read) move fresh
    refine ⟨s', loaded, _, ⟨_, ran.trans (Effect.bind_ok done)⟩, moved, own, fun slot => ?_⟩
    have active : loaded.state.variant.state.isActive = true := admitted.active
    simp [Ticket.bookedIn, Ticket.state, admitted.lane, active]

/-- A reschedule which does not go through changes nothing. -/
theorem reschedule_unmoved {ports : Ports} {input : RescheduleTicketInput} (kept : s.Kept)
    (unmoved : ¬ Reschedules u ports input s) :
    ((UseCase.rescheduleTicket input).run (Durable.repository u Durable.snapshotInterval) ports
      s).2 = s := by
  have commit := @call_commit u Durable.snapshotInterval s kept ports (.rescheduleTicket input)
  generalize ((UseCase.rescheduleTicket input).run (Durable.repository u
    Durable.snapshotInterval) ports s).2 = s' at commit ⊢
  cases commit with
  | unchanged => rfl
  | moved _ loaded result _ applies step =>
    cases applies with
    | rescheduleTicket _ _ _ read admitted applied =>
      obtain ⟨source, booked, rfl⟩ := applyReschedule_eq_some applied
      refine absurd ⟨loaded, source, ⟨read, admitted.owned, admitted.active, admitted.lane,
        booked⟩, admitted, ?_⟩ unmoved
      intro used
      obtain ⟨r, mem, same⟩ := List.mem_map.mp used
      exact step.accepts.admits.free r mem _ List.mem_cons_self (.inl same)

theorem roomy_of_other {call : Ports × QueueAction}
    (noIssue : ∀ input, call.2.useCase instants ≠ some (.issueTicket input))
    (noReschedule : ∀ input, call.2.useCase instants ≠ some (.rescheduleTicket input)) :
    Roomy u instants tz g capacity s call where
  issue := fun input same => absurd same (noIssue input)
  reschedule := fun input same => absurd same (noReschedule input)

theorem roomy_issue_iff {call : Ports × QueueAction} {input : IssueTicketInput}
    (read : call.2.useCase instants = some (.issueTicket input)) :
    Roomy u instants tz g capacity s call ↔ (Starts u call.1 input s →
      input.lane = some .reservation → ∀ target, input.appointmentAt = some target →
        s.RoomFor tz g capacity call.1.newTicketId target) := by
  constructor
  · exact fun roomy => roomy.issue input read
  · intro room
    refine ⟨fun other same => ?_, fun _ same => nomatch read.symm.trans same⟩
    cases read.symm.trans same
    exact room

theorem roomy_reschedule_iff {call : Ports × QueueAction} {input : RescheduleTicketInput}
    (read : call.2.useCase instants = some (.rescheduleTicket input)) :
    Roomy u instants tz g capacity s call ↔ (Reschedules u call.1 input s →
      s.RoomFor tz g capacity input.ticketId input.newAppointmentAt) := by
  constructor
  · exact fun roomy => roomy.reschedule input read
  · intro room
    refine ⟨fun _ same => (nomatch read.symm.trans same), fun other same => ?_⟩
    cases read.symm.trans same
    exact room

theorem dispatch_within_issue (kept : s.Kept) (within : s.WithinCapacity tz g capacity)
    {call : Ports × QueueAction} {input : IssueTicketInput}
    (read : call.2.useCase instants = some (.issueTicket input)) :
    (dispatched u instants s call).WithinCapacity tz g capacity ↔
      Roomy u instants tz g capacity s call := by
  rw [roomy_issue_iff read]
  by_cases starts : Starts u call.1 input s
  · obtain ⟨all, issued⟩ := dispatch_starts kept read starts
    rw [issued.within_iff kept within]
    exact ⟨fun room _ => room, fun room => room starts⟩
  · rw [dispatched, dispatch_unstarted kept read starts]
    exact iff_of_true within (fun h => absurd h starts)

theorem dispatch_within_reschedule (kept : s.Kept) (within : s.WithinCapacity tz g capacity)
    {call : Ports × QueueAction} {input : RescheduleTicketInput}
    (read : call.2.useCase instants = some (.rescheduleTicket input)) :
    (dispatched u instants s call).WithinCapacity tz g capacity ↔
      Roomy u instants tz g capacity s call := by
  rw [roomy_reschedule_iff read, dispatched, dispatch_store read]
  by_cases reschedules : Reschedules u call.1 input s
  · obtain ⟨s', loaded, result, ⟨t, ran⟩, moved, own, lands⟩ := reschedules.moved kept
    have left_ : ((UseCase.rescheduleTicket input).run
        (Durable.repository u Durable.snapshotInterval) call.1 s).2 = s' :=
      congrArg Prod.snd (Effect.bind_ok ran)
    rw [left_, within_iff_room (moved.besides_le kept) (fun slot => ?_) within, own]
    · exact ⟨fun room _ => room, fun room => room reschedules⟩
    · rw [(moved.bookedIn kept slot).2, lands]
  · refine iff_of_true ?_ (fun h => absurd h reschedules)
    rw [reschedule_unmoved kept reschedules]
    exact within

theorem dispatch_within_iff (kept : s.Kept) (within : s.WithinCapacity tz g capacity)
    (call : Ports × QueueAction) :
    (dispatched u instants s call).WithinCapacity tz g capacity ↔
      Roomy u instants tz g capacity s call := by
  cases read : call.2.useCase instants with
  | none =>
    rw [dispatched, dispatch_thrown read]
    refine iff_of_true within (roomy_of_other ?_ ?_)
    · exact fun input same => nomatch read.symm.trans same
    · exact fun input same => nomatch read.symm.trans same
  | some c =>
    cases c with
    | issueTicket input => exact dispatch_within_issue kept within read
    | rescheduleTicket input => exact dispatch_within_reschedule kept within read
    | _ =>
      rw [dispatched, dispatch_store read]
      refine iff_of_true ((call_commit kept call.1 _).within kept (fun _ => nofun)
        (fun _ => nofun) within) (roomy_of_other ?_ ?_)
      · exact fun input same => nomatch read.symm.trans same
      · exact fun input same => nomatch read.symm.trans same

end

/-- No slot ever holds more than its capacity if and only if every dispatch which books an
instant finds room in the slots around it. -/
theorem capacity_kept_iff (u : Unicode) (instants : InstantText) (tz : BusinessTimeZone)
    (g : SlotGranularity) (capacity : Nat) (calls : List (Ports × QueueAction)) :
    (∀ n, (runDispatches u instants (calls.take n) .empty).WithinCapacity tz g capacity) ↔
      Trace.Throughout (dispatched u instants) (Roomy u instants tz g capacity) calls .empty := by
  apply Trace.always_iff_throughout (K := DurableStore.Kept)
    (I := fun s => s.WithinCapacity tz g capacity)
  · exact fun s call kept => (dispatch_steps kept).kept kept
  · exact fun s call kept within => dispatch_within_iff kept within call
  · exact DurableStore.kept_empty
  · exact fun _ _ _ _ _ => Nat.zero_le _

namespace Sample

def utc : BusinessTimeZone := ⟨fun _ => 0, fun date => Instant.ofEpochNs (date.epochDay * nsPerDay)⟩

/-- The epoch is the only instant on the wire. -/
def epochOnly : InstantText where
  decode text := if text = "1970-01-01T00:00:00Z" then some (instant 0) else none
  encode _ := "1970-01-01T00:00:00Z"

def otherHandle : CustomerHandle := ⟨[0x30a6, 0x30a8], [0x35, 0x36, 0x37, 0x38]⟩

def booking (k : Nat) (handle : CustomerHandle) : Ports × QueueAction :=
  (ports k, .issueTicket handle none (some .reservation) (some "1970-01-01T00:00:00Z"))

end Sample

/-- Two customers book the first slot of a day, which has room for one. -/
theorem slot_overbooked :
    (∀ call ∈ [Sample.booking 1 Sample.handle, Sample.booking 2 Sample.otherHandle],
      Accepted Sample.unicode Sample.epochOnly call.2) ∧
      ¬ (runDispatches Sample.unicode Sample.epochOnly
          [Sample.booking 1 Sample.handle, Sample.booking 2 Sample.otherHandle]
            .empty).WithinCapacity Sample.utc .half 1 := by
  constructor
  · intro call mem
    simp only [List.mem_cons, List.not_mem_nil, or_false] at mem
    rcases mem with rfl | rfl
    · exact ⟨⟨Sample.handle.nameKana, Sample.handle.phoneLast4, none, some .reservation,
        some "1970-01-01T00:00:00Z"⟩, by rfl⟩
    · exact ⟨⟨Sample.otherHandle.nameKana, Sample.otherHandle.phoneLast4, none,
        some .reservation, some "1970-01-01T00:00:00Z"⟩, by rfl⟩
  · intro within
    have bound := within ⟨0⟩ 0 ⟨Sample.instant 0, ⟨30 * nsPerMinute, by decide⟩⟩ (by decide)
      (by decide)
    revert bound
    decide

end SlotBooking
