import SlotBooking.Domain.Projection
import SlotBooking.Library.EventSourcing

/-! The fold seen one ticket at a time. An event only ever touches the ticket it is
about, so the history of a ticket is the fold of its own events. -/
namespace SlotBooking

@[simp] theorem QueueSnapshot.get_empty (id : TicketId) : QueueSnapshot.empty.get id = none := rfl

theorem QueueSnapshot.get_set (snap : QueueSnapshot) (id other : TicketId) (t : Ticket) :
    (snap.set id t).get other = if other = id then some t else snap.get other :=
  InsertionMap.get_set snap.tickets id other t

@[simp] theorem QueueSnapshot.get_set_self (snap : QueueSnapshot) (id : TicketId) (t : Ticket) :
    (snap.set id t).get id = some t := InsertionMap.get_set_self snap.tickets id t

theorem QueueSnapshot.get_ite (p : Prop) [Decidable p] (a b : QueueSnapshot) (id : TicketId) :
    (if p then a else b).get id = if p then a.get id else b.get id := by
  split <;> rfl

/-- Every ticket is found under its own id. -/
def QueueSnapshot.Keyed (snap : QueueSnapshot) : Prop := ∀ id t, snap.get id = some t → t.id = id

theorem QueueSnapshot.Keyed.get_of_mem {snap : QueueSnapshot} (keyed : snap.Keyed) {t : Ticket}
    (mem : t ∈ snap.tickets.values) : snap.get t.id = some t := by
  obtain ⟨id, stored⟩ := InsertionMap.exists_get_of_mem_values mem
  rw [keyed id t stored]
  exact stored

theorem QueueSnapshot.get_ofTickets {tickets : List Ticket}
    (distinct : (tickets.map (fun t => t.id)).Nodup) {id : TicketId} {t : Ticket} :
    (QueueSnapshot.ofTickets tickets).get id = some t ↔ t ∈ tickets ∧ t.id = id := by
  have keys : ((tickets.map (fun t => (t.id, t))).map Prod.fst).Nodup := by
    rw [List.map_map]
    exact distinct
  rw [QueueSnapshot.get, QueueSnapshot.ofTickets, InsertionMap.get_ofList keys, List.mem_map]
  constructor
  · rintro ⟨q, mem, same⟩
    cases same
    exact ⟨mem, rfl⟩
  · rintro ⟨mem, rfl⟩
    exact ⟨t, mem, rfl⟩

theorem QueueSnapshot.keyed_ofTickets {tickets : List Ticket}
    (distinct : (tickets.map (fun t => t.id)).Nodup) : (QueueSnapshot.ofTickets tickets).Keyed :=
  fun _ _ found => ((get_ofTickets distinct).mp found).2

/-- The snapshot which knows one ticket at most. -/
def QueueSnapshot.holding (id : TicketId) : Option Ticket → QueueSnapshot
  | some t => QueueSnapshot.empty.set id t
  | none => .empty

@[simp] theorem QueueSnapshot.get_holding (id : TicketId) (prior : Option Ticket) :
    (QueueSnapshot.holding id prior).get id = prior := by
  cases prior with
  | none => rfl
  | some t => exact QueueSnapshot.get_set_self _ _ _

/-- What an event makes of the ticket it is about. -/
def evolve (prior : Option Ticket) (e : TicketEvent) : Option Ticket :=
  (applyEvent (.holding e.ticketId prior) e).get e.ticketId

theorem get_applyEvent (snap : QueueSnapshot) (e : TicketEvent) (id : TicketId) :
    (applyEvent snap e).get id =
      if id = e.ticketId then evolve (snap.get e.ticketId) e else snap.get id := by
  obtain ⟨eventId, ticketId, occurredAt, recordedAt, body⟩ := e
  by_cases same : id = ticketId
  · subst same
    rw [if_pos rfl]
    cases prior : snap.get id with
    | none => cases body <;> simp [evolve, applyEvent, prior]
    | some t =>
      obtain ⟨t, variant⟩ := t
      cases body <;> cases variant <;> simp [evolve, applyEvent, prior, QueueSnapshot.get_ite]
  · rw [if_neg same]
    cases prior : snap.get ticketId with
    | none => cases body <;> simp [applyEvent, prior, QueueSnapshot.get_set, same]
    | some t =>
      obtain ⟨t, variant⟩ := t
      cases body <;> cases variant <;>
        simp [applyEvent, prior, QueueSnapshot.get_ite, QueueSnapshot.get_set, same]

/-- The history of one ticket: its events folded from an optional prior state. -/
abbrev evolveAll (prior : Option Ticket) (events : List TicketEvent) : Option Ticket :=
  EventSourcing.fold evolve prior events

theorem evolveAll_append (prior : Option Ticket) (xs ys : List TicketEvent) :
    evolveAll prior (xs ++ ys) = evolveAll (evolveAll prior xs) ys :=
  EventSourcing.fold_append evolve prior xs ys

theorem get_applyMany (snap : QueueSnapshot) {events : List TicketEvent} {id : TicketId}
    (own : ∀ e ∈ events, e.ticketId = id) :
    (applyMany snap events).get id = evolveAll (snap.get id) events := by
  induction events generalizing snap with
  | nil => rfl
  | cons e events ih =>
    have here : e.ticketId = id := own e List.mem_cons_self
    have step : (applyEvent snap e).get id = evolve (snap.get id) e := by
      rw [get_applyEvent, here, if_pos rfl]
    change (applyMany (applyEvent snap e) events).get id = _
    rw [ih (applyEvent snap e) (fun e' he' => own e' (List.mem_cons_of_mem e he')), step]
    rfl

theorem get_replay {events : List TicketEvent} {id : TicketId}
    (own : ∀ e ∈ events, e.ticketId = id) : (replay events).get id = evolveAll none events :=
  get_applyMany .empty own

/-! ### What every event keeps -/

/-- The fields which nothing after the issue touches. -/
structure Ticket.SameCore (t next : Ticket) : Prop where
  fields : next.toCustomerFields = t.toCustomerFields
  id : next.id = t.id
  seq : next.seq = t.seq
  lane : next.lane = t.lane
  displaySeq : next.displaySeq = t.displaySeq
  issuedAt : next.issuedAt = t.issuedAt

theorem evolve_textless (p : Ticket) {e : TicketEvent} (textless : e.body.fields = none) :
    ∃ t, evolve (some p) e = some t ∧ p.SameCore t := by
  obtain ⟨id, ticketId, occurredAt, recordedAt, body⟩ := e
  obtain ⟨p, variant⟩ := p
  cases body with
  | issued => cases textless
  | checkedIn =>
    by_cases seen : p.checkedInAt = none
    all_goals cases variant <;> simp [evolve, applyEvent, seen]
    all_goals exact ⟨rfl, rfl, rfl, rfl, rfl, rfl⟩
  | rescheduled =>
    by_cases lane : p.lane = .reservation
    all_goals cases variant <;>
      simp [evolve, applyEvent, lane, Ticket.state, TicketVariant.state, TicketState.isTerminal]
    all_goals constructor <;> simp [lane]
  | _ =>
    cases variant <;> simp [evolve, applyEvent]
    all_goals exact ⟨rfl, rfl, rfl, rfl, rfl, rfl⟩

/-- Texts never decide what an event without texts does. -/
theorem evolve_texts (p : Ticket) (f : CustomerFields) {e : TicketEvent}
    (textless : e.body.fields = none) : evolve (some { p with toCustomerFields := f }) e =
      (evolve (some p) e).map (fun t => { t with toCustomerFields := f }) := by
  obtain ⟨id, ticketId, occurredAt, recordedAt, body⟩ := e
  obtain ⟨p, variant⟩ := p
  cases body with
  | issued => cases textless
  | checkedIn =>
    by_cases seen : p.checkedInAt = none
    all_goals cases variant <;> simp [evolve, applyEvent, seen]
  | rescheduled =>
    by_cases lane : p.lane = .reservation
    all_goals cases variant <;>
      simp [evolve, applyEvent, lane, Ticket.state, TicketVariant.state, TicketState.isTerminal]
  | _ => cases variant <;> simp [evolve, applyEvent]

/-- Before the issue there is no ticket, whatever else is recorded. -/
theorem evolve_none {e : TicketEvent} (textless : e.body.fields = none) : evolve none e = none := by
  obtain ⟨id, ticketId, occurredAt, recordedAt, body⟩ := e
  cases body with
  | issued data => cases textless
  | _ => rfl

/-- The ticket an issue starts; whatever was there before is replaced. -/
def issuedTicket (ticketId : TicketId) (issuedAt : Instant) (data : IssuedData) : Ticket :=
  { toCustomerFields := data.toCustomerFields, id := ticketId, seq := data.seq,
    lane := data.lane, displaySeq := data.displaySeq, issuedAt,
    appointmentAt := data.appointmentAt, checkedInAt := none, variant := .waiting }

theorem evolve_issued (prior : Option Ticket) {e : TicketEvent} {data : IssuedData}
    (body : e.body = .issued data) :
    evolve prior e = some (issuedTicket e.ticketId e.occurredAt data) := by
  simp [evolve, applyEvent, body, issuedTicket]

theorem fields_cases (e : TicketEvent) :
    e.body.fields = none ∨ ∃ data, e.body = .issued data := by
  obtain ⟨id, ticketId, occurredAt, recordedAt, body⟩ := e
  cases body with
  | issued data => exact .inr ⟨data, rfl⟩
  | _ => exact .inl rfl

/-- A fold that goes on has started a ticket or kept the core of one. -/
theorem evolve_eq_some {prior : Option Ticket} {e : TicketEvent} {t : Ticket}
    (h : evolve prior e = some t) :
    (∃ data, e.body = .issued data ∧ t = issuedTicket e.ticketId e.occurredAt data) ∨
      ∃ p, prior = some p ∧ e.body.fields = none ∧ p.SameCore t := by
  rcases fields_cases e with textless | ⟨data, body⟩
  · cases prior with
    | none =>
      rw [evolve_none textless] at h
      cases h
    | some p =>
      obtain ⟨t', ht, same⟩ := evolve_textless p textless
      cases Option.some.inj (ht.symm.trans h)
      exact .inr ⟨p, rfl, textless, same⟩
  · rw [evolve_issued prior body] at h
    cases h
    exact .inl ⟨data, body, rfl⟩

theorem evolve_fields {prior : Option Ticket} {e : TicketEvent} {t : Ticket}
    (h : evolve prior e = some t) :
    e.body.fields = some t.toCustomerFields ∨
      ∃ p, prior = some p ∧ t.toCustomerFields = p.toCustomerFields := by
  rcases evolve_eq_some h with ⟨data, body, rfl⟩ | ⟨p, same, _, core⟩
  · left
    rw [body]
    rfl
  · exact .inr ⟨p, same, core.fields⟩

theorem evolve_id {prior : Option Ticket} {e : TicketEvent} {t : Ticket}
    (own : ∀ p, prior = some p → p.id = e.ticketId) (h : evolve prior e = some t) :
    t.id = e.ticketId := by
  rcases evolve_eq_some h with ⟨data, body, rfl⟩ | ⟨p, same, _, core⟩
  · rfl
  · exact core.id.trans (own p same)

theorem QueueSnapshot.Keyed.applyEvent {snap : QueueSnapshot} (keyed : snap.Keyed) (e : TicketEvent) :
    (applyEvent snap e).Keyed := by
  intro id t found
  rw [get_applyEvent] at found
  split at found
  · rename_i own
    exact (evolve_id (fun p before => keyed _ p before) found).trans own.symm
  · exact keyed id t found

theorem evolveAll_fields {P : CustomerFields → Prop} {prior : Option Ticket}
    {events : List TicketEvent} {t : Ticket}
    (texts : ∀ e ∈ events, ∀ f, e.body.fields = some f → P f)
    (initial : ∀ p, prior = some p → P p.toCustomerFields)
    (folded : evolveAll prior events = some t) : P t.toCustomerFields := by
  refine EventSourcing.fold_preserves (P := fun t => P t.toCustomerFields) ?_ initial folded
  intro e mem o t before h
  rcases evolve_fields h with issued | ⟨p, rfl, same⟩
  · exact texts e mem _ issued
  · exact same ▸ before p rfl

theorem evolveAll_id {id : TicketId} {prior : Option Ticket} {events : List TicketEvent}
    {t : Ticket} (own : ∀ e ∈ events, e.ticketId = id) (initial : ∀ p, prior = some p → p.id = id)
    (folded : evolveAll prior events = some t) : t.id = id := by
  refine EventSourcing.fold_preserves (P := fun t => t.id = id) ?_ initial folded
  intro e mem o t before h
  have here := own e mem
  exact (evolve_id (fun p hp => (before p hp).trans here.symm) h).trans here

/-- A fold which starts from nothing meets an issue, and that forgets what was before. -/
theorem evolveAll_restart {events : List TicketEvent} {t : Ticket}
    (folded : evolveAll none events = some t) (prior : Option Ticket) :
    evolveAll prior events = some t := by
  induction events generalizing prior with
  | nil => cases folded
  | cons e events ih =>
    rcases fields_cases e with textless | ⟨data, body⟩
    · rw [evolveAll, EventSourcing.fold_cons, evolve_none textless] at folded
      exact ih folded (evolve prior e)
    · rw [evolveAll, EventSourcing.fold_cons, evolve_issued _ body] at folded ⊢
      exact folded

theorem evolveAll_some (p : Ticket) (events : List TicketEvent) :
    ∃ t, evolveAll (some p) events = some t := by
  induction events generalizing p with
  | nil => exact ⟨p, rfl⟩
  | cons e events ih =>
    rcases fields_cases e with textless | ⟨data, body⟩
    · obtain ⟨t, here, _⟩ := evolve_textless p textless
      rw [evolveAll, EventSourcing.fold_cons, here]
      exact ih t
    · rw [evolveAll, EventSourcing.fold_cons, evolve_issued _ body]
      exact ih _

theorem evolveAll_none {events : List TicketEvent} (textless : ∀ e ∈ events, e.body.fields = none) :
    evolveAll none events = none := by
  induction events with
  | nil => rfl
  | cons e events ih =>
    obtain ⟨here, later⟩ := List.forall_mem_cons.mp textless
    rw [evolveAll, EventSourcing.fold_cons, evolve_none here]
    exact ih later

end SlotBooking
