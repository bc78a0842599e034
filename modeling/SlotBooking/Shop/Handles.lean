import SlotBooking.Runs.Named
import SlotBooking.Shop.Dispatch

/-! One active ticket for each handle, and the idempotent issue. -/
namespace SlotBooking

def CanonicalIssue (u : Unicode) : QueueAction → Prop
  | .issueTicket handle freeText _ _ => Canonical u ⟨handle, freeText⟩
  | _ => True

section
variable {u : Unicode} {instants : InstantText} {interval : Nat} {s s' : DurableStore}

theorem runDispatches_named (calls : List (Ports × QueueAction))
    (canonical : ∀ call ∈ calls, CanonicalIssue u call.2) :
    (runDispatches u instants calls .empty).Kept ∧
      (runDispatches u instants calls .empty).Named u := by
  apply runDispatches_invariant DurableStore.kept_empty named_empty
  intro t call mem kept named
  apply dispatch_invariant kept named
  · exact fun _ _ _ _ keptBefore before moved => moved.named keptBefore before
  · intro input all s' read issued
    obtain ⟨lane, appointmentAt, action⟩ := useCase_issueTicket read rfl
    have given := canonical call mem
    rw [action] at given
    exact issued.named kept named given

/-- Two rows which hold one handle are one row: the index keeps them apart. -/
theorem holder_unique (named : s.Named u) (kept : s.Kept) {r q : TicketRow} (hr : r ∈ s.tickets)
    (hq : q ∈ s.tickets) (activeR : r.payload.json.state.isActive = true)
    (activeQ : q.payload.json.state.isActive = true)
    (same : r.payload.json.handle = q.payload.json.handle) : r = q := by
  apply List.inj_on_of_nodup_map kept.tidy.ticketsKeyed hr hq
  by_contra different
  have clash : clashesWith r q = true := by
    obtain ⟨nameR, phoneR⟩ := named.columns r hr
    obtain ⟨nameQ, phoneQ⟩ := named.columns q hq
    have name : q.payload.json.nameKana = r.payload.json.nameKana :=
      congrArg CustomerHandle.nameKana same.symm
    have phone : q.payload.json.phoneLast4 = r.payload.json.phoneLast4 :=
      congrArg CustomerHandle.phoneLast4 same.symm
    rw [clashesWith_iff, (kept.tidy.rows r hr).2, (kept.tidy.rows q hq).2, nameR, nameQ, phoneR,
      phoneQ, name, phone]
    exact ⟨fun h => different h.symm, activeQ, activeR, rfl, rfl, rfl, rfl⟩
  rw [kept.unclashed r hr q hq] at clash
  cases clash

theorem active_handles_nodup (named : s.Named u) (kept : s.Kept) :
    (((s.tickets.map (fun r => r.payload.json)).filter
      (fun t => t.state.isActive)).map Ticket.handle).Nodup := by
  rw [List.filter_map, List.map_map]
  apply List.Nodup.map_on
  · intro r hr q hq same
    obtain ⟨memR, activeR⟩ := List.mem_filter.mp hr
    obtain ⟨memQ, activeQ⟩ := List.mem_filter.mp hq
    exact holder_unique named kept memR memQ activeR activeQ same
  · exact kept.tidy.ticketsKeyed.of_map.filter _

theorem findActiveByHandle_held (named : s.Named u) (kept : s.Kept) {r : TicketRow}
    (mem : r ∈ s.tickets) (active : r.payload.json.state.isActive = true) :
    Durable.findActiveByHandle u s r.payload.json.handle = .ok (some r.payload.json) := by
  have holds := (holdsHandle_iff named kept mem).mpr ⟨active, rfl⟩
  cases first : s.tickets.find? (Durable.holdsHandle r.payload.json.handle) with
  | none => exact absurd holds (List.find?_eq_none.mp first r mem)
  | some q =>
    have inTable := List.mem_of_find?_eq_some first
    obtain ⟨activeQ, same⟩ := (holdsHandle_iff named kept inTable).mp (List.find?_some first)
    cases holder_unique named kept inTable mem activeQ active same
    exact findActiveByHandle_some.mpr ⟨r, first, named.decoded kept.tidy.ticketsKeyed inTable⟩

theorem findActiveByHandle_free (named : s.Named u) (kept : s.Kept) {handle : CustomerHandle}
    (free : ∀ r ∈ s.tickets, r.payload.json.state.isActive = true →
      r.payload.json.handle ≠ handle) : Durable.findActiveByHandle u s handle = .ok none := by
  apply findActiveByHandle_none.mpr
  apply List.find?_eq_none.mpr
  intro r mem holds
  obtain ⟨active, same⟩ := (holdsHandle_iff named kept mem).mp holds
  exact free r mem active same

/-- The lookup finds the active ticket which has the handle, and no other. -/
theorem findActiveByHandle_iff (named : s.Named u) (kept : s.Kept) {handle : CustomerHandle}
    {t : Ticket} : Durable.findActiveByHandle u s handle = .ok (some t) ↔
      t ∈ s.tickets.map (fun r => r.payload.json) ∧ t.state.isActive = true ∧
        t.handle = handle := by
  constructor
  · intro found
    obtain ⟨row, first, decoded⟩ := findActiveByHandle_some.mp found
    have inTable := List.mem_of_find?_eq_some first
    have same : row.payload.json = t :=
      Option.some.inj ((named.decoded kept.tidy.ticketsKeyed inTable).symm.trans decoded)
    exact same ▸ ⟨List.mem_map_of_mem inTable,
      (holdsHandle_iff named kept inTable).mp (List.find?_some first)⟩
  · rintro ⟨mem, active, same⟩
    obtain ⟨row, inTable, rfl⟩ := List.mem_map.mp mem
    rw [← same]
    exact findActiveByHandle_held named kept inTable active

/-! ### How an issue ends, by its handle -/

variable {ports : Ports} {input : IssueTicketInput}
  {r : Except Rejection QueueResult × DurableStore}

theorem IssueEnd.merges (ends : IssueEnd u s ports input r) {t : Ticket}
    (found : Durable.findActiveByHandle u s input.handle = .ok (some t)) :
    r = (.ok (.ticket ⟨t⟩ true), s) := by
  cases ends with
  | merged t' found' =>
    cases Except.ok.inj (found.symm.trans found')
    rfl
  | issued all s' step => cases found.symm.trans step.free
  | failed e unheld => exact absurd found (unheld t)

theorem IssueEnd.existed_iff (ends : IssueEnd u s ports input r) :
    (∃ ticket, r.1 = .ok (.ticket ticket true)) ↔
      ∃ t, Durable.findActiveByHandle u s input.handle = .ok (some t) := by
  constructor
  · rintro ⟨ticket, merged⟩
    cases ends with
    | merged t found => exact ⟨t, found⟩
    | issued => cases merged
    | failed => cases merged
  · rintro ⟨t, found⟩
    rw [ends.merges found]
    exact ⟨⟨t⟩, rfl⟩

/-- Under a free handle and fresh ids an issue adds its ticket to those listed. -/
theorem IssueEnd.adds (ends : IssueEnd u s ports input r) (named : s.Named u) (kept : s.Kept)
    (numbered : s.Numbered) (canonical : Canonical u ⟨input.handle, input.freeText⟩)
    (free : Durable.findActiveByHandle u s input.handle = .ok none) (fresh : FreshIssue ports s) :
    ∃ t s', r = (.ok (.ticket ⟨t⟩ false), s') ∧ t.id = ports.newTicketId ∧
      t.handle = input.handle ∧ t.state = .waiting ∧
        Durable.listAll u s' = .ok (s.tickets.map (fun r => r.payload.json) ++ [t]) := by
  cases ends with
  | merged t' found' => cases free.symm.trans found'
  | failed e _ refused =>
    have admits : s.Admits 0 [(issueResult ports input s
      (s.tickets.map (fun q => q.payload.json))).event] := fresh.admits kept canonical.valid _
    exact absurd admits (refused _ free (named.listAll kept numbered))
  | issued all s' step =>
    have keptNext := step.kept kept
    have namedNext := step.named kept named canonical
    obtain ⟨numbers, keys⟩ := step.numbers kept numbered
    refine ⟨_, s', rfl, rfl, rfl, rfl, ?_⟩
    rw [namedNext.listAll keptNext (numbered.extend numbers keys), step.tickets kept,
      List.map_append]
    rfl

end

/-- After dispatches whose issues carry normalised texts, no two active tickets share a handle; an
issue under a held handle returns the holder, merged, and changes no table; an issue under a free
handle adds one ticket; and nothing else is merged. -/
theorem one_active_ticket_per_handle (u : Unicode) (instants : InstantText)
    (calls : List (Ports × QueueAction)) (canonical : ∀ call ∈ calls, CanonicalIssue u call.2) :
    let s := runDispatches u instants calls .empty
    ∃ all, Durable.listAll u s = .ok all ∧
      ((all.filter (fun t => t.state.isActive)).map Ticket.handle).Nodup ∧
      ∀ (ports : Ports) (handle : CustomerHandle) (freeText : Option JsString) (lane : Option Lane)
        (appointmentAt : Option String) (c : UseCase),
        (QueueAction.issueTicket handle freeText lane appointmentAt).useCase instants = some c →
        Canonical u ⟨handle, freeText⟩ →
        let r := dispatch u instants ports (.issueTicket handle freeText lane appointmentAt) s
        (∀ t ∈ all, t.state.isActive = true → t.handle = handle →
          r = (.ok (.ticket ⟨t⟩ true), s)) ∧
        ((∀ t ∈ all, t.state.isActive = true → t.handle ≠ handle) → FreshIssue ports s →
          ∃ t s', r = (.ok (.ticket ⟨t⟩ false), s') ∧ t.id = ports.newTicketId ∧
            t.handle = handle ∧ t.state = .waiting ∧ Durable.listAll u s' = .ok (all ++ [t])) ∧
        ((∃ ticket, r.1 = .ok (.ticket ticket true)) ↔
          ∃ t ∈ all, t.state.isActive = true ∧ t.handle = handle) := by
  intro s
  obtain ⟨kept, named⟩ := @runDispatches_named u instants calls canonical
  have numbered := (numbered_steps (@runDispatches_steps u instants .empty DurableStore.kept_empty
    calls) DurableStore.kept_empty rfl).2
  refine ⟨_, named.listAll kept numbered, active_handles_nodup named kept, ?_⟩
  intro ports handle freeText lane appointmentAt c read canonicalNow r
  obtain ⟨at', _, rfl⟩ := Option.map_eq_some_iff.mp read
  have ends : IssueEnd u s ports ⟨handle, freeText, lane, at'⟩ r := dispatch_issue kept read
  refine ⟨?_, ?_, ?_⟩
  · intro t mem active same
    exact ends.merges ((findActiveByHandle_iff named kept).mpr ⟨mem, active, same⟩)
  · intro unheld fresh
    refine ends.adds named kept numbered canonicalNow ?_ fresh
    apply findActiveByHandle_free named kept
    exact fun q mem active => unheld _ (List.mem_map_of_mem mem) active
  · rw [ends.existed_iff]
    exact exists_congr fun t => findActiveByHandle_iff named kept

/-- Two customers give one name and number: the second is handed the first one's ticket. -/
def Sample.sharedHandle : List (Ports × QueueAction) :=
  [(Sample.ports 1, .issueTicket Sample.handle none none none),
    (Sample.ports 2, .issueTicket Sample.handle none none none)]

theorem one_active_ticket_per_handle_sample :
    ∃ all, Durable.listAll Sample.unicode (runDispatches Sample.unicode Sample.noInstants
        Sample.sharedHandle .empty) = .ok all ∧
      ((all.filter (fun t => t.state.isActive)).map Ticket.handle).Nodup := by
  have canonical : ∀ call ∈ Sample.sharedHandle, CanonicalIssue Sample.unicode call.2 := by
    intro call mem
    simp only [Sample.sharedHandle, List.mem_cons, List.not_mem_nil, or_false] at mem
    rcases mem with rfl | rfl <;> exact (by decide : Canonical Sample.unicode ⟨Sample.handle, none⟩)
  obtain ⟨all, listed, distinct, _⟩ := one_active_ticket_per_handle Sample.unicode
    Sample.noInstants Sample.sharedHandle canonical
  exact ⟨all, listed, distinct⟩

end SlotBooking
