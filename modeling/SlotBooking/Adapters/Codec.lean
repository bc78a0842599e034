import SlotBooking.Domain.Outline

/-! The payload columns. The encoded shape has the fields of the value; JSON text and the
ISO text of an instant are read back exactly, so the only field an encoding can refuse or
a decoding can change is a customer text. -/
namespace SlotBooking

/-- A payload column: the encoded form of a ticket or of an event. -/
structure Encoded (α : Type) where
  json : α
deriving DecidableEq

def encodeTicketRowPayload (t : Ticket) : Option (Encoded Ticket) :=
  (encodeFields t.toCustomerFields).map (fun f => ⟨{ t with toCustomerFields := f }⟩)

def decodeTicketRowPayload (u : Unicode) (payload : Encoded Ticket) : Option Ticket :=
  (decodeFields u payload.json.toCustomerFields).map
    (fun f => { payload.json with toCustomerFields := f })

/-- Run a field codec over the texts of an event. -/
def EventBody.traverse (codec : CustomerFields → Option CustomerFields) :
    EventBody → Option EventBody
  | .issued data => (codec data.toCustomerFields).map
      (fun f => .issued { data with toCustomerFields := f })
  | body => some body

def encodeEventRowPayload (e : TicketEvent) : Option (Encoded TicketEvent) :=
  (e.body.traverse encodeFields).map (fun body => ⟨{ e with body }⟩)

def decodeEventRowPayload (u : Unicode) (payload : Encoded TicketEvent) : Option TicketEvent :=
  (payload.json.body.traverse (decodeFields u)).map (fun body => { payload.json with body })

theorem encodeTicketRowPayload_eq_some {t : Ticket} {payload : Encoded Ticket} :
    encodeTicketRowPayload t = some payload ↔ payload = ⟨t⟩ ∧ t.toCustomerFields.Valid := by
  simp only [encodeTicketRowPayload, Option.map_eq_some_iff, encodeFields_eq_some]
  constructor
  · rintro ⟨_, ⟨rfl, valid⟩, rfl⟩
    exact ⟨rfl, valid⟩
  · rintro ⟨rfl, valid⟩
    exact ⟨_, ⟨rfl, valid⟩, rfl⟩

theorem encodeTicketRowPayload_valid {t : Ticket} (valid : t.toCustomerFields.Valid) :
    encodeTicketRowPayload t = some ⟨t⟩ := encodeTicketRowPayload_eq_some.mpr ⟨rfl, valid⟩

/-- The texts of an event, where it has any, pass the encoder. -/
def TicketEvent.Valid (e : TicketEvent) : Prop := ∀ f, e.body.fields = some f → f.Valid

theorem encodeEventRowPayload_eq_some {e : TicketEvent} {payload : Encoded TicketEvent} :
    encodeEventRowPayload e = some payload ↔ payload = ⟨e⟩ ∧ e.Valid := by
  obtain ⟨id, ticketId, occurredAt, recordedAt, body⟩ := e
  cases body with
  | issued data =>
    simp only [encodeEventRowPayload, EventBody.traverse, Option.map_eq_some_iff,
      encodeFields_eq_some, TicketEvent.Valid, EventBody.fields]
    constructor
    · rintro ⟨_, ⟨_, ⟨rfl, valid⟩, rfl⟩, rfl⟩
      exact ⟨rfl, fun f h => by cases h; exact valid⟩
    · rintro ⟨rfl, valid⟩
      exact ⟨_, ⟨_, ⟨rfl, valid _ rfl⟩, rfl⟩, rfl⟩
  | _ => simp [encodeEventRowPayload, EventBody.traverse, TicketEvent.Valid, EventBody.fields,
      eq_comm]

theorem encodeEventRowPayload_valid {e : TicketEvent} (valid : e.Valid) :
    encodeEventRowPayload e = some ⟨e⟩ := encodeEventRowPayload_eq_some.mpr ⟨rfl, valid⟩

section
variable {u : Unicode}

theorem decodeTicketRowPayload_eq_some {payload : Encoded Ticket} {t : Ticket} :
    decodeTicketRowPayload u payload = some t ↔
      ∃ f, decodeFields u payload.json.toCustomerFields = some f ∧
        t = { payload.json with toCustomerFields := f } := by
  rw [decodeTicketRowPayload, Option.map_eq_some_iff]
  exact exists_congr (fun f => and_congr_right (fun _ => eq_comm))

theorem decodeTicketRowPayload_valid {payload : Encoded Ticket} {t : Ticket}
    (decoded : decodeTicketRowPayload u payload = some t) :
    t.outline = payload.json.outline ∧ t.toCustomerFields.Valid := by
  obtain ⟨f, read, rfl⟩ := decodeTicketRowPayload_eq_some.mp decoded
  exact ⟨rfl, decodeFields_valid read⟩

theorem decodeEventRowPayload_valid {payload : Encoded TicketEvent} {e : TicketEvent}
    (decoded : decodeEventRowPayload u payload = some e) :
    e.outline = payload.json.outline ∧ e.Valid := by
  obtain ⟨⟨id, ticketId, occurredAt, recordedAt, body⟩⟩ := payload
  cases body with
  | issued data =>
    simp only [decodeEventRowPayload, EventBody.traverse, Option.map_eq_some_iff] at decoded
    obtain ⟨_, ⟨f, read, rfl⟩, rfl⟩ := decoded
    exact ⟨rfl, fun g h => by cases h; exact decodeFields_valid read⟩
  | _ =>
    cases decoded
    exact ⟨rfl, fun f h => by cases h⟩

theorem decodeEventRowPayload_textless {e : TicketEvent} (textless : e.body.fields = none) :
    decodeEventRowPayload u ⟨e⟩ = some e := by
  obtain ⟨id, ticketId, occurredAt, recordedAt, body⟩ := e
  cases body with
  | issued data => cases textless
  | _ => rfl

theorem decodeEventRowPayload_issued {e : TicketEvent} {data : IssuedData}
    (body : e.body = .issued data) : decodeEventRowPayload u ⟨e⟩ =
      (decodeFields u data.toCustomerFields).map
        (fun f => { e with body := .issued { data with toCustomerFields := f } }) := by
  simp only [decodeEventRowPayload, body, EventBody.traverse, Option.map_map]
  rfl

end

end SlotBooking
