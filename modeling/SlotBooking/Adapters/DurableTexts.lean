import SlotBooking.Adapters.DurableState

/-! Stores whose texts decode. A load of a ticket is then the load of its aggregate as its
readers see it. -/
namespace SlotBooking

section
variable {u : Unicode}

variable (u) in
/-- Texts which decode, again and again. -/
def Readable (P : CustomerFields → Prop) : Prop :=
  ∀ f, P f → ∃ g, decodeFields u f = some g ∧ P g

/-- All stored texts of a ticket satisfy `P`. -/
structure Texts (P : CustomerFields → Prop) (a : EventSourcing.Aggregate Ticket TicketEvent) :
    Prop where
  log : ∀ e ∈ a.log, ∀ f, e.body.fields = some f → P f
  latest : ∀ t n, a.latest = some (t, n) → P t.toCustomerFields
  snapshot : ∀ t n, a.snapshot = some (t, n) → P t.toCustomerFields

variable (u) in
/-- The ticket which a stored ticket decodes to, where it does. -/
def readTicket (t : Ticket) : Ticket := (decodeTicketRowPayload u ⟨t⟩).getD t

variable (u) in
def readEvent (e : TicketEvent) : TicketEvent := (decodeEventRowPayload u ⟨e⟩).getD e

variable (u) in
def asRead (a : EventSourcing.Aggregate Ticket TicketEvent) :
    EventSourcing.Aggregate Ticket TicketEvent :=
  a.map (readTicket u) (readEvent u)

variable {P : CustomerFields → Prop}

theorem Readable.ticket (readable : Readable u P) {t : Ticket} (texts : P t.toCustomerFields) :
    decodeTicketRowPayload u ⟨t⟩ = some (readTicket u t) ∧
      P (readTicket u t).toCustomerFields := by
  obtain ⟨g, read, again⟩ := readable _ texts
  have decoded : decodeTicketRowPayload u ⟨t⟩ = some { t with toCustomerFields := g } :=
    decodeTicketRowPayload_eq_some.mpr ⟨g, read, rfl⟩
  rw [readTicket, decoded]
  exact ⟨rfl, again⟩

theorem Readable.event (readable : Readable u P) {e : TicketEvent}
    (texts : ∀ f, e.body.fields = some f → P f) :
    decodeEventRowPayload u ⟨e⟩ = some (readEvent u e) ∧
      ∀ f, (readEvent u e).body.fields = some f → P f := by
  rcases fields_cases e with textless | ⟨data, body⟩
  · have decoded := decodeEventRowPayload_textless (u := u) textless
    rw [readEvent, decoded]
    exact ⟨rfl, texts⟩
  · obtain ⟨g, read, again⟩ := readable data.toCustomerFields (texts _ (by rw [body]; rfl))
    have decoded := decodeEventRowPayload_issued (u := u) body
    rw [read, Option.map_some] at decoded
    rw [readEvent, decoded]
    refine ⟨rfl, fun f hf => ?_⟩
    cases hf
    exact again

theorem Readable.decoded (readable : Readable u P) {events : List TicketEvent}
    (texts : ∀ e ∈ events, ∀ f, e.body.fields = some f → P f) :
    Decoded u (events.map Encoded.mk) (events.map (readEvent u)) := by
  refine List.forall₂_map_left_iff.mpr (List.forall₂_map_right_iff.mpr ?_)
  exact List.forall₂_same.mpr (fun e mem => (readable.event (texts e mem)).1)

theorem load_read {s : DurableStore} (tidy : s.Tidy) {id : TicketId} (readable : Readable u P)
    (texts : Texts P (s.aggregate id))
    (recorded : (s.aggregate id).log = [] → (s.aggregate id).latest = none) :
    Durable.load u s id = found ((asRead u (s.aggregate id)).load evolve) := by
  rw [load_eq tidy]
  have own : ∀ e ∈ (s.aggregate id).log, e.ticketId = id := tidy.own
  generalize s.aggregate id = a at texts recorded own
  obtain ⟨log, latest, snapshot⟩ := a
  have later : ∀ base, Decoded u ((log.drop base).map Encoded.mk)
      ((log.drop base).map (readEvent u)) :=
    fun base => readable.decoded (fun e mem => texts.log e (List.mem_of_mem_drop mem))
  unfold loadFrom
  cases snapshot with
  | some taken =>
    obtain ⟨p, m⟩ := taken
    simp only [(readable.ticket (texts.snapshot p m rfl)).1,
      foldTicket_decoded m (own_drop own m) (later m), QueueSnapshot.get_set_self, List.length_map]
    simp only [asRead, EventSourcing.Aggregate.load, EventSourcing.Aggregate.map,
      Option.map_some, List.map_drop, List.length_drop, List.length_map]
  | none =>
    have loaded : (asRead u ⟨log, latest, none⟩).load evolve =
        (evolveAll none (log.map (readEvent u))).map (fun t => (t, log.length)) := by
      simp only [asRead, EventSourcing.Aggregate.load, EventSourcing.Aggregate.map,
        Option.map_none, List.length_map]
    rw [loaded]
    by_cases some : 0 < log.length
    · rw [if_pos some]
      refine (foldTicket_decoded 0 (own_drop own 0) (later 0)).trans ?_
      simp only [List.drop_zero, List.length_map, Nat.zero_add, QueueSnapshot.get_empty]
    · have empty := List.length_eq_zero_iff.mp (Nat.eq_zero_of_not_pos some)
      subst empty
      cases recorded rfl
      rfl

theorem readTicket_decoded {t : Ticket} {g : CustomerFields}
    (decoded : decodeFields u t.toCustomerFields = some g) :
    readTicket u t = { t with toCustomerFields := g } := by
  have read : decodeTicketRowPayload u ⟨t⟩ = some { t with toCustomerFields := g } :=
    decodeTicketRowPayload_eq_some.mpr ⟨g, decoded, rfl⟩
  rw [readTicket, read]
  rfl

theorem readTicket_canonical {t : Ticket} (canonical : Canonical u t.toCustomerFields) :
    readTicket u t = t := readTicket_decoded canonical

theorem readEvent_textless {e : TicketEvent} (textless : e.body.fields = none) :
    readEvent u e = e := by
  rw [readEvent, decodeEventRowPayload_textless textless]
  rfl

theorem readEvent_issued {e : TicketEvent} {data : IssuedData} {g : CustomerFields}
    (body : e.body = .issued data) (decoded : decodeFields u data.toCustomerFields = some g) :
    readEvent u e = { e with body := .issued { data with toCustomerFields := g } } := by
  have read : decodeEventRowPayload u ⟨e⟩ =
      some { e with body := .issued { data with toCustomerFields := g } } := by
    rw [decodeEventRowPayload_issued body, decoded, Option.map_some]
  rw [readEvent, read]
  rfl

theorem Readable.decoded_texts (readable : Readable u P) {stored events : List TicketEvent}
    (decoded : Decoded u (stored.map Encoded.mk) events)
    (texts : ∀ e ∈ stored, ∀ f, e.body.fields = some f → P f) :
    ∀ e ∈ events, ∀ f, e.body.fields = some f → P f := by
  have pairs := List.forall₂_map_left_iff.mp decoded
  clear decoded
  induction pairs with
  | nil => simp
  | @cons p e stored events here _ ih =>
    intro q mem f hf
    rcases List.mem_cons.mp mem with rfl | mem
    · obtain ⟨read, again⟩ := readable.event (texts p List.mem_cons_self)
      cases Option.some.inj (here.symm.trans read)
      exact again f hf
    · exact ih (fun e' he' => texts e' (List.mem_cons_of_mem p he')) q mem f hf

theorem load_texts (tidy : s.Tidy) (readable : Readable u P) {id : TicketId}
    (texts : Texts P (s.aggregate id)) {loaded : LoadedAggregate}
    (read : Durable.load u s id = .ok loaded) : P loaded.state.toCustomerFields := by
  cases load_sources tidy read with
  | snapshot p m base events next taken decodes decoded evolved =>
    obtain ⟨again, good⟩ := readable.ticket (texts.snapshot p m taken)
    cases Option.some.inj (decodes.symm.trans again)
    have later : ∀ e ∈ (s.aggregate id).log.drop m, ∀ f, e.body.fields = some f → P f :=
      fun e mem => texts.log e (List.mem_of_mem_drop mem)
    apply evolveAll_fields (readable.decoded_texts decoded later) _ evolved
    intro q hq
    cases hq
    exact good
  | log events next untaken recorded decoded evolved =>
    apply evolveAll_fields (readable.decoded_texts decoded texts.log) _ evolved
    intro q hq
    cases hq
  | row p next revision untaken unrecorded latest decodes =>
    obtain ⟨again, good⟩ := readable.ticket (texts.latest p revision latest)
    cases Option.some.inj (decodes.symm.trans again)
    exact good

theorem texts_empty : Texts P .empty where
  log := by simp [EventSourcing.Aggregate.empty]
  latest := by simp [EventSourcing.Aggregate.empty]
  snapshot := by simp [EventSourcing.Aggregate.empty]

theorem Texts.commit {a : EventSourcing.Aggregate Ticket TicketEvent} (texts : Texts P a)
    (interval expected : Nat) {events : List TicketEvent} {next : Ticket}
    (recorded : ∀ e ∈ events, ∀ f, e.body.fields = some f → P f)
    (written : P next.toCustomerFields) : Texts P (a.commit interval expected events next) where
  log := by
    intro e mem
    rcases List.mem_append.mp mem with mem | mem
    · exact texts.log e mem
    · exact recorded e mem
  latest := by
    intro t n h
    cases h
    exact written
  snapshot := by
    intro t n h
    simp only [EventSourcing.Aggregate.commit] at h
    split at h
    · cases h
      exact written
    · exact texts.snapshot t n h

theorem Texts.imp {Q : CustomerFields → Prop} {a : EventSourcing.Aggregate Ticket TicketEvent}
    (texts : Texts P a) (weaker : ∀ f, P f → Q f) : Texts Q a where
  log := fun e mem f hf => weaker f (texts.log e mem f hf)
  latest := fun t n h => weaker _ (texts.latest t n h)
  snapshot := fun t n h => weaker _ (texts.snapshot t n h)

/-! ### Texts which are kept as they are -/

theorem canonical_readable : Readable u (Canonical u) := fun f canonical => ⟨f, canonical, canonical⟩

theorem readEvent_canonical {e : TicketEvent}
    (canonical : ∀ f, e.body.fields = some f → Canonical u f) : readEvent u e = e := by
  rcases fields_cases e with textless | ⟨data, body⟩
  · exact readEvent_textless textless
  · have same := readEvent_issued body (canonical data.toCustomerFields (by rw [body]; rfl))
    obtain ⟨id, ticketId, occurredAt, recordedAt, _⟩ := e
    cases body
    exact same

theorem asRead_canonical {a : EventSourcing.Aggregate Ticket TicketEvent}
    (texts : Texts (Canonical u) a) : asRead u a = a :=
  EventSourcing.Aggregate.map_eq_self (fun e mem => readEvent_canonical (texts.log e mem))
    (fun t n h => readTicket_canonical (texts.latest t n h))
    (fun t n h => readTicket_canonical (texts.snapshot t n h))

theorem load_canonical {s : DurableStore} (tidy : s.Tidy) {id : TicketId}
    (texts : Texts (Canonical u) (s.aggregate id))
    (recorded : (s.aggregate id).log = [] → (s.aggregate id).latest = none) :
    Durable.load u s id = found ((s.aggregate id).load evolve) := by
  rw [load_read tidy canonical_readable texts recorded, asRead_canonical texts]

end

end SlotBooking
