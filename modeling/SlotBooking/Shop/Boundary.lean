import Mathlib.Logic.Function.Iterate
import SlotBooking.Domain.Normalization
import SlotBooking.Runs.Texts
import SlotBooking.Shop.Dispatch

/-! What the HTTP boundary lets in, and which of it can be read back. The boundary takes any
string as free text; the encoder checks it as it is, the decoder checks it normalised. -/
namespace SlotBooking

/-- The body of an issue request, before `IssueTicketBodySchema`. -/
structure IssueTicketBody where
  nameKana : JsString
  phoneLast4 : JsString
  freeText : Option JsString
  lane : Option Lane
  appointmentAt : Option String

section
variable (u : Unicode) (instants : InstantText)

/-- `IssueTicketBodySchema`, and then the action the route builds. -/
def decodeIssueTicketBody (body : IssueTicketBody) : Option QueueAction := do
  let nameKana ← decodeNameKana u body.nameKana
  let phoneLast4 ← decodePhoneLast4 body.phoneLast4
  let appointmentAt ← decodeOptionalInstant instants body.appointmentAt
  return .issueTicket ⟨nameKana, phoneLast4⟩ body.freeText body.lane
    (appointmentAt.map instants.encode)

/-- An action the boundary accepts. Nothing but an issue brings texts which are stored. -/
def Accepted : QueueAction → Prop
  | .issueTicket handle freeText lane appointmentAt => ∃ body,
      decodeIssueTicketBody u instants body = some (.issueTicket handle freeText lane appointmentAt)
  | _ => True

/-- A free text which the decoder takes however often it is written back. -/
def Endures (raw : JsString) : Prop := ∀ k, isFreeText ((normalizeFreeText u)^[k + 1] raw) = true

/-- An issue which stores no text that cannot be read back: it merges, it carries no free text,
the encoder refuses the text, or the text endures. -/
def Harmless (s : DurableStore) : QueueAction → Prop
  | .issueTicket handle freeText _ _ =>
    (∃ r ∈ s.tickets, Durable.holdsHandle handle r = true) ∨
      ∀ raw, freeText = some raw → isFreeText raw = true → Endures u raw
  | _ => True

def HarmlessRun : List (Ports × QueueAction) → DurableStore → Prop
  | [], _ => True
  | call :: calls, s =>
    Harmless u s call.2 ∧ HarmlessRun calls (dispatch u instants call.1 call.2 s).2

def Lasting (f : CustomerFields) : Prop :=
  decodeNameKana u f.nameKana = some f.nameKana ∧
    decodePhoneLast4 f.phoneLast4 = some f.phoneLast4 ∧ ∀ raw, f.freeText = some raw → Endures u raw

/-- Every payload decodes, so no read fails with a decode error. -/
structure DurableStore.Legible (s : DurableStore) : Prop where
  tickets : ∀ r ∈ s.tickets, ∃ t, decodeTicketRowPayload u r.payload = some t
  ticketEvents : ∀ r ∈ s.ticketEvents, ∃ e, decodeEventRowPayload u r.payload = some e
  snapshots : ∀ r ∈ s.aggregateSnapshots, ∃ t, decodeTicketRowPayload u r.payload = some t
  listAll : ∃ all, Durable.listAll u s = .ok all
  findActiveByHandle : ∀ handle, ∃ holder, Durable.findActiveByHandle u s handle = .ok holder
  load : ∀ id, (∃ loaded, Durable.load u s id = .ok loaded) ∨
    Durable.load u s id = .error .aggregateNotFound

end

section
variable {u : Unicode} {instants : InstantText} {s s' : DurableStore}

theorem Endures.again {raw : JsString} (endures : Endures u raw) :
    Endures u (normalizeFreeText u raw) := by
  intro k
  have later := endures (k + 1)
  rwa [Function.iterate_succ_apply] at later

theorem readable_lasting : Readable u (Lasting u) := by
  rintro ⟨⟨nameKana, phoneLast4⟩, freeText⟩ ⟨name, phone, endures⟩
  cases freeText with
  | none =>
    refine ⟨⟨⟨nameKana, phoneLast4⟩, none⟩, ?_, name, phone, nofun⟩
    simp only [decodeFields, name, phone]
    rfl
  | some raw =>
    have lasts : Endures u raw := endures raw rfl
    have decoded : decodeFreeText u raw = some (normalizeFreeText u raw) :=
      decodeBranded_eq_some.mpr ⟨rfl, lasts 0⟩
    refine ⟨⟨⟨nameKana, phoneLast4⟩, some (normalizeFreeText u raw)⟩, ?_, name, phone, ?_⟩
    · simp only [decodeFields, name, phone, nullOr, decoded]
      rfl
    · intro again same
      cases same
      exact lasts.again

theorem decodeIssueTicketBody_eq_some {body : IssueTicketBody} {handle : CustomerHandle}
    {freeText : Option JsString} {lane : Option Lane} {appointmentAt : Option String}
    (accepted : decodeIssueTicketBody u instants body =
      some (.issueTicket handle freeText lane appointmentAt)) :
    decodeNameKana u body.nameKana = some handle.nameKana ∧
      decodePhoneLast4 body.phoneLast4 = some handle.phoneLast4 := by
  simp only [decodeIssueTicketBody, bind, Option.bind_eq_some_iff] at accepted
  obtain ⟨name, hname, phone, hphone, _, _, same⟩ := accepted
  cases same
  exact ⟨hname, hphone⟩

theorem lasting_issue (standard : u.Standard) {handle : CustomerHandle}
    {freeText : Option JsString} {lane : Option Lane} {appointmentAt : Option String}
    (accepted : Accepted u instants (.issueTicket handle freeText lane appointmentAt))
    (harmless : Harmless u s (.issueTicket handle freeText lane appointmentAt))
    (free : Durable.findActiveByHandle u s handle = .ok none)
    (valid : CustomerFields.Valid ⟨handle, freeText⟩) : Lasting u ⟨handle, freeText⟩ := by
  obtain ⟨body, decoded⟩ := accepted
  obtain ⟨name, phone⟩ := decodeIssueTicketBody_eq_some decoded
  refine ⟨decodeNameKana_fixed standard name, decodePhoneLast4_fixed phone, ?_⟩
  rcases harmless with ⟨r, mem, holds⟩ | endures
  · exact absurd holds (List.find?_eq_none.mp (findActiveByHandle_none.mp free) r mem)
  · exact fun raw same => endures raw same (valid.freeText raw same)

/-! ### Stores whose texts last -/

theorem dispatch_lasting (standard : u.Standard) (ports : Ports) {action : QueueAction}
    (kept : s.Kept) (lasting : ∀ id, Texts (Lasting u) (s.aggregate id))
    (accepted : Accepted u instants action) (harmless : Harmless u s action) (id : TicketId) :
    Texts (Lasting u) ((dispatch u instants ports action s).2.aggregate id) := by
  apply dispatch_invariant (P := fun t => ∀ id, Texts (Lasting u) (t.aggregate id)) kept lasting
  · exact fun t t' loaded result keptBefore before moved id =>
      moved.texts keptBefore readable_lasting (before id)
  · intro input all s' read issued id
    obtain ⟨lane, appointmentAt, rfl⟩ := useCase_issueTicket read rfl
    by_cases same : id = ports.newTicketId
    · subst same
      apply issued.texts kept
      exact lasting_issue standard accepted harmless issued.free issued.accepts.valid
    · rw [(issued.untouched kept same).aggregate]
      exact lasting id

theorem runDispatches_lasting (standard : u.Standard) (calls : List (Ports × QueueAction))
    (kept : s.Kept) (lasting : ∀ id, Texts (Lasting u) (s.aggregate id))
    (accepted : ∀ call ∈ calls, Accepted u instants call.2)
    (harmless : HarmlessRun u instants calls s) :
    (runDispatches u instants calls s).Kept ∧
      ∀ id, Texts (Lasting u) ((runDispatches u instants calls s).aggregate id) := by
  induction calls generalizing s with
  | nil => exact ⟨kept, lasting⟩
  | cons call calls ih =>
    have keptNext := (@dispatch_steps u instants s call.1 call.2 kept).kept kept
    have lastingNext := @dispatch_lasting u instants s standard call.1 call.2 kept lasting
      (accepted call List.mem_cons_self) harmless.1
    exact ih keptNext lastingNext (fun later mem => accepted later (List.mem_cons_of_mem call mem))
      harmless.2

theorem legible_of_lasting (kept : s.Kept) (lasting : ∀ id, Texts (Lasting u) (s.aggregate id)) :
    s.Legible u := by
  have rows : ∀ r ∈ s.tickets,
      decodeTicketRowPayload u r.payload = some (readTicket u r.payload.json) := by
    intro r mem
    have latest : (s.aggregate r.id).latest = some (r.payload.json, r.revision) := by
      rw [DurableStore.aggregate, DurableStore.row, Table.find_of_mem kept.tidy.ticketsKeyed mem]
      rfl
    exact (readable_lasting.ticket ((lasting r.id).latest _ _ latest)).1
  refine ⟨fun r mem => ⟨_, rows r mem⟩, ?_, ?_, ?_, ?_, ?_⟩
  · intro r mem
    have inLog : r.payload.json ∈ (s.aggregate r.ticketId).log :=
      List.mem_map_of_mem (List.mem_filter.mpr ⟨mem, decide_eq_true rfl⟩)
    exact ⟨_, (readable_lasting.event ((lasting r.ticketId).log _ inLog)).1⟩
  · intro r mem
    have taken : (s.aggregate r.ticketId).snapshot = some (r.payload.json, r.revision) := by
      rw [DurableStore.aggregate, DurableStore.snapshot,
        Table.find_of_mem kept.tidy.snapshotsKeyed mem]
      rfl
    exact ⟨_, (readable_lasting.ticket ((lasting r.ticketId).snapshot _ _ taken)).1⟩
  · have listed := Traversal.mapM_total (fun r mem => rows r (mem_listed mem))
    exact ⟨_, orFail_eq_ok.mpr listed⟩
  · intro handle
    cases first : s.tickets.find? (Durable.holdsHandle handle) with
    | none => exact ⟨none, findActiveByHandle_none.mpr first⟩
    | some row =>
      have decoded := rows row (List.mem_of_find?_eq_some first)
      exact ⟨some _, findActiveByHandle_some.mpr ⟨row, first, decoded⟩⟩
  · intro id
    rw [kept.load_read readable_lasting (lasting id)]
    cases (asRead u (s.aggregate id)).load evolve with
    | none => exact .inr rfl
    | some p => exact .inl ⟨_, rfl⟩

end

/-- In every run of accepted dispatches which are all harmless, whatever is stored can be read. -/
theorem stored_payloads_decode (u : Unicode) (standard : u.Standard) (instants : InstantText)
    (calls : List (Ports × QueueAction)) (accepted : ∀ call ∈ calls, Accepted u instants call.2)
    (harmless : HarmlessRun u instants calls .empty) :
    (runDispatches u instants calls .empty).Legible u := by
  obtain ⟨kept, lasting⟩ := runDispatches_lasting standard calls DurableStore.kept_empty
    (fun _ => texts_empty) accepted harmless
  exact legible_of_lasting kept lasting

/-! ### Samples -/

theorem endures_of_fixed {u : Unicode} {raw : JsString} (fixed : normalizeFreeText u raw = raw)
    (short : isFreeText raw = true) : Endures u raw := by
  intro k
  rw [Function.iterate_fixed fixed]
  exact short

namespace Sample

/-- U+0958 decomposes and is excluded from composition. -/
def devanagari : Unicode where
  nfc s := s.flatMap (fun unit => if unit = 0x0958 then [0x0915, 0x093c] else [unit])
  nfkc := id

theorem devanagari_standard : devanagari.Standard where
  nfc_idempotent := by
    intro s
    simp only [devanagari, List.flatMap_assoc]
    congr 1
    funext unit
    by_cases composed : unit = 0x0958
    · simp [composed]
    · simp [composed]
  nfkc_idempotent := fun _ => rfl
  nfkc_piece := fun _ _ _ _ => rfl
  nfkc_space := fun _ _ => rfl

def longText : JsString := List.replicate 251 0x0958

def issue (k : Nat) (freeText : JsString) : Ports × QueueAction :=
  (ports k, .issueTicket handle (some freeText) none none)

end Sample

/-- 251 letters are accepted and stored, and 502 are read back: the listing fails from then on. -/
theorem accepted_text_poisons :
    Sample.devanagari.Standard ∧
      (∀ call ∈ [Sample.issue 1 Sample.longText],
        Accepted Sample.devanagari Sample.noInstants call.2) ∧
      ¬ (runDispatches Sample.devanagari Sample.noInstants [Sample.issue 1 Sample.longText]
        .empty).Legible Sample.devanagari := by
  have unlisted : Durable.listAll Sample.devanagari (runDispatches Sample.devanagari
      Sample.noInstants [Sample.issue 1 Sample.longText] .empty) =
        .error (.storage "listAll") := by decide +kernel
  refine ⟨Sample.devanagari_standard, ?_, ?_⟩
  · intro call mem
    rw [List.mem_singleton] at mem
    subst mem
    exact ⟨⟨Sample.handle.nameKana, Sample.handle.phoneLast4, some Sample.longText, none, none⟩,
      by rfl⟩
  · intro legible
    obtain ⟨all, listed⟩ := legible.listAll
    rw [unlisted] at listed
    cases listed

theorem stored_payloads_decode_sample :
    (runDispatches Sample.devanagari Sample.noInstants [Sample.issue 1 [0x0915, 0x093c]]
      .empty).Legible Sample.devanagari := by
  apply stored_payloads_decode Sample.devanagari Sample.devanagari_standard
  · intro call mem
    rw [List.mem_singleton] at mem
    subst mem
    exact ⟨⟨Sample.handle.nameKana, Sample.handle.phoneLast4, some [0x0915, 0x093c], none, none⟩,
      by rfl⟩
  · refine ⟨.inr ?_, trivial⟩
    rintro raw ⟨⟩ short
    exact endures_of_fixed (by decide) short

end SlotBooking
