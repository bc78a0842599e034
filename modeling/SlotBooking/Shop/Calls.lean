import SlotBooking.Domain.Calling
import SlotBooking.Shop.Lanes

/-! `CallNext` without a lane, on the shop: when it reports that the queue is empty. -/
namespace SlotBooking

/-- A Waiting ticket which the selection can reach. -/
def TicketRow.Callable (r : TicketRow) : Prop :=
  r.state = .waiting ∧ (r.payload.json.lane = .walkIn ∨ r.payload.json.appointmentAt ≠ none)

section
variable {u : Unicode} {instants : InstantText} {s : DurableStore} {ports : Ports} {actor : Actor}
  {all : List Ticket}

theorem mem_listAll (listed : Durable.listAll u s = .ok all) {t : Ticket} :
    t ∈ all ↔ ∃ r ∈ s.tickets, decodeTicketRowPayload u r.payload = some t := by
  have decoded := listAll_eq_ok.mp listed
  have rows : ∀ r, r ∈ s.tickets.insertionSort (fun a b => a.seq ≤ b.seq) ↔ r ∈ s.tickets :=
    fun r => (List.perm_insertionSort _ _).mem_iff
  simp only [← rows]
  clear listed rows
  generalize s.tickets.insertionSort (fun a b => a.seq ≤ b.seq) = rows at decoded
  induction decoded with
  | nil => simp
  | @cons r q rows all here _ ih =>
    have first : decodeTicketRowPayload u r.payload = some t ↔ t = q := by
      rw [here, Option.some_inj, eq_comm]
    simp only [List.mem_cons, exists_eq_or_imp, first]
    exact or_congr_right ih

theorem listAll_of_decodes (decodes : ∀ r ∈ s.tickets, ∃ t,
    decodeTicketRowPayload u r.payload = some t) : ∃ all, Durable.listAll u s = .ok all := by
  have total : ∀ r ∈ s.tickets.insertionSort (fun a b => a.seq ≤ b.seq),
      decodeTicketRowPayload u r.payload =
        some ((decodeTicketRowPayload u r.payload).getD r.payload.json) := by
    intro r mem
    obtain ⟨t, read⟩ := decodes r (mem_listed mem)
    rw [read, Option.getD_some]
  exact ⟨_, orFail_eq_ok.mpr (Traversal.mapM_total total)⟩

theorem run_loadOr {missing : QueueError} {id : TicketId} :
    loadOr (Durable.repository u Durable.snapshotInterval) missing id s =
      ((Durable.load u s id).mapError (retagNotFound missing), s) := rfl

/-- Once a ticket is picked the call does not end with an empty queue. -/
theorem callNext_picked (kept : s.Kept) (listed : Durable.listAll u s = .ok all) {next : Ticket}
    (picked : pickNext all (ports.nowInstant 0) none = some (some next)) :
    (callNext (Durable.repository u Durable.snapshotInterval) ports none actor s).1 ≠
      .error .queueEmpty := by
  have values := values_ofTickets (listed_ids_nodup kept.tidy listed)
  obtain ⟨inSnap, waits⟩ := nextCallable_mem picked
  rw [values] at inSnap
  obtain ⟨row, inTable, decoded⟩ := (mem_listAll listed).mp inSnap
  obtain ⟨rowId, rowState⟩ := kept.tidy.rows row inTable
  obtain ⟨ids, _, _, states⟩ := decodeTicketRowPayload_core decoded
  have found : s.row next.id = some row := by
    rw [ids, rowId]
    exact Table.find_of_mem kept.tidy.ticketsKeyed inTable
  have ran : callNext (Durable.repository u Durable.snapshotInterval) ports none actor s = _ :=
    Effect.bind_ok (by rw [Effect.inspect_run]; exact congrArg (fun r => (r, s)) listed)
  rw [ran]
  simp only [picked]
  cases read : Durable.load u s next.id with
  | error e =>
    obtain ⟨reason, rfl⟩ := load_present kept.tidy (kept.outlined _) found read
    rw [Effect.bind_error (by rw [run_loadOr, read]; rfl)]
    nofun
  | ok loaded =>
    rw [Effect.bind_ok (by rw [run_loadOr, read]; rfl)]
    obtain ⟨stored, same, state⟩ := kept.state_of_load read
    cases found.symm.trans same
    obtain ⟨⟨t, variant⟩, revision⟩ := loaded
    have waiting : variant.state = .waiting :=
      state.symm.trans (rowState.trans (states.symm.trans waits))
    cases variant with
    | waiting =>
      simp only
      intro empty
      have errors := @errorsIn_applyAndPersist u Durable.snapshotInterval
        ⟨⟨t, .waiting⟩, revision⟩
        (applyCall t ⟨ports.nowInstant 1, ports.newTicketEventId 0, some actor, none⟩)
      rcases errors s .queueEmpty _ (Prod.ext empty rfl) with ⟨_, _, same⟩ | ⟨_, same⟩
      · cases same
      · cases same
    | _ => cases waiting

theorem callNext_queueEmpty_iff (kept : s.Kept) (listed : Durable.listAll u s = .ok all) :
    (callNext (Durable.repository u Durable.snapshotInterval) ports none actor s).1 =
        .error .queueEmpty ↔
      pickNext all (ports.nowInstant 0) none = some none := by
  have ran : callNext (Durable.repository u Durable.snapshotInterval) ports none actor s = _ :=
    Effect.bind_ok (by rw [Effect.inspect_run]; exact congrArg (fun r => (r, s)) listed)
  cases picked : pickNext all (ports.nowInstant 0) none with
  | none =>
    rw [ran]
    simp [picked, Effect.fail]
  | some pick =>
    cases pick with
    | none =>
      rw [ran]
      simp [picked, Effect.fail]
    | some next =>
      exact iff_of_false (callNext_picked kept listed picked) (fun same => nomatch same)

/-- The selection finds nobody if and only if no Waiting row is callable. -/
theorem pickNext_none_iff (kept : s.Kept) (listed : Durable.listAll u s = .ok all)
    (decodes : ∀ r ∈ s.tickets, ∃ t, decodeTicketRowPayload u r.payload = some t) (now : Instant) :
    pickNext all now none = some none ↔ ∀ r ∈ s.tickets, ¬ r.Callable := by
  have values := values_ofTickets (listed_ids_nodup kept.tidy listed)
  have fields : ∀ {r : TicketRow} {t : Ticket}, r ∈ s.tickets →
      decodeTicketRowPayload u r.payload = some t → t.state = r.state ∧
        t.lane = r.payload.json.lane ∧ t.appointmentAt = r.payload.json.appointmentAt := by
    intro r t mem decoded
    obtain ⟨f, _, rfl⟩ := decodeTicketRowPayload_eq_some.mp decoded
    exact ⟨(kept.tidy.rows r mem).2.symm, rfl, rfl⟩
  rw [pickNext, nextCallable_none_iff, List.eq_nil_iff_forall_not_mem,
    List.eq_nil_iff_forall_not_mem]
  simp only [mem_booked, mem_waitingIn, values, mem_listAll listed]
  constructor
  · rintro ⟨unbooked, unwalked⟩ r mem ⟨waits, reachable⟩
    obtain ⟨t, decoded⟩ := decodes r mem
    obtain ⟨state, lane, appointmentAt⟩ := fields mem decoded
    cases inLane : t.lane with
    | walkIn => exact unwalked t ⟨⟨r, mem, decoded⟩, state.trans waits, inLane⟩
    | reservation =>
      rw [← lane, ← appointmentAt, inLane] at reachable
      have dated : t.appointmentAt ≠ none := reachable.resolve_left (fun same => nomatch same)
      exact unbooked t ⟨⟨r, mem, decoded⟩, state.trans waits, inLane, dated⟩
  · intro unreachable
    constructor
    · rintro t ⟨⟨r, mem, decoded⟩, waits, _, dated⟩
      obtain ⟨state, _, appointmentAt⟩ := fields mem decoded
      exact unreachable r mem ⟨state.symm.trans waits, .inr (appointmentAt ▸ dated)⟩
    · rintro t ⟨⟨r, mem, decoded⟩, waits, inLane⟩
      obtain ⟨state, lane, _⟩ := fields mem decoded
      exact unreachable r mem ⟨state.symm.trans waits, .inl (lane.symm.trans inLane)⟩

theorem dispatch_queueEmpty_iff :
    (dispatch u instants ports (.callNext actor none) s).1 =
        .ok (.error "QueueEmpty" "E_DOM_QUEUE_EMPTY") ↔
      (callNext (Durable.repository u Durable.snapshotInterval) ports none actor s).1 =
        .error .queueEmpty := by
  have read : (QueueAction.callNext actor none).useCase instants =
      some (.callNext none actor) := rfl
  obtain ⟨r, m, ran⟩ : ∃ r m, callNext (Durable.repository u Durable.snapshotInterval) ports none
    actor s = (r, m) := ⟨_, _, rfl⟩
  rw [ran]
  cases r with
  | error e =>
    rw [dispatch_error read (Effect.bind_error ran)]
    cases e <;> simp [QueueError.tag, codeOf]
  | ok t =>
    refine iff_of_false ?_ (fun same => nomatch same)
    simp only [dispatch, read]
    rw [show (UseCase.callNext none actor).run (Durable.repository u Durable.snapshotInterval) ports
      s = (.ok (.ticket t), m) from Effect.bind_ok ran]
    simp only [encodeReply]
    cases encodeTicket t <;> simp

end

/-- `CallNext` without a lane reports an empty queue exactly when nobody waits, provided that
somebody who waits is a walk-in or has an appointment; and not otherwise. -/
theorem queueEmpty_iff (u : Unicode) (instants : InstantText) (calls : List (Ports × QueueAction))
    (decodes : ∀ r ∈ (runDispatches u instants calls .empty).tickets,
      ∃ t, decodeTicketRowPayload u r.payload = some t) (ports : Ports) (actor : Actor) :
    ((dispatch u instants ports (.callNext actor none) (runDispatches u instants calls .empty)).1 =
          .ok (.error "QueueEmpty" "E_DOM_QUEUE_EMPTY") ↔
        ∀ r ∈ (runDispatches u instants calls .empty).tickets, r.state ≠ .waiting) ↔
      ((∃ r ∈ (runDispatches u instants calls .empty).tickets, r.state = .waiting) →
        ∃ r ∈ (runDispatches u instants calls .empty).tickets, r.Callable) := by
  have kept : (runDispatches u instants calls .empty).Kept :=
    (runDispatches_steps DurableStore.kept_empty calls).kept DurableStore.kept_empty
  obtain ⟨all, listed⟩ := listAll_of_decodes decodes
  rw [dispatch_queueEmpty_iff, callNext_queueEmpty_iff kept listed,
    pickNext_none_iff kept listed decodes]
  generalize (runDispatches u instants calls .empty).tickets = rows
  constructor
  · intro agree waits
    by_contra none_
    obtain ⟨r, mem, waiting⟩ := waits
    exact agree.mp (fun q inRows callable => none_ ⟨q, inRows, callable⟩) r mem waiting
  · intro reachable
    constructor
    · intro unreachable r mem waiting
      obtain ⟨q, inRows, callable⟩ := reachable ⟨r, mem, waiting⟩
      exact unreachable q inRows callable
    · exact fun idle r mem callable => idle r mem callable.1

theorem undated_decodes : ∀ r ∈ (runDispatches Sample.unicode Sample.noInstants [Sample.undated]
    .empty).tickets, ∃ t, decodeTicketRowPayload Sample.unicode r.payload = some t := by
  have read : ∀ r ∈ (runDispatches Sample.unicode Sample.noInstants [Sample.undated]
      .empty).tickets, (decodeTicketRowPayload Sample.unicode r.payload).isSome = true := by
    decide
  exact fun r mem => Option.isSome_iff_exists.mp (read r mem)

/-- One ticket is Waiting, and the queue is reported empty. -/
theorem waiting_reservation_unreached :
    (∀ call ∈ [Sample.undated], Accepted Sample.unicode Sample.noInstants call.2) ∧
      (∀ r ∈ (runDispatches Sample.unicode Sample.noInstants [Sample.undated] .empty).tickets,
        ∃ t, decodeTicketRowPayload Sample.unicode r.payload = some t) ∧
      ¬ ((dispatch Sample.unicode Sample.noInstants (Sample.ports 2) (.callNext .staff none)
            (runDispatches Sample.unicode Sample.noInstants [Sample.undated] .empty)).1 =
          .ok (.error "QueueEmpty" "E_DOM_QUEUE_EMPTY") ↔
        ∀ r ∈ (runDispatches Sample.unicode Sample.noInstants [Sample.undated] .empty).tickets,
          r.state ≠ .waiting) := by
  refine ⟨Sample.undated_accepted, undated_decodes, ?_⟩
  decide

theorem queueEmpty_iff_sample :
    ((dispatch Sample.unicode Sample.noInstants (Sample.ports 2) (.callNext .staff none)
          (runDispatches Sample.unicode Sample.noInstants [Sample.undated] .empty)).1 =
        .ok (.error "QueueEmpty" "E_DOM_QUEUE_EMPTY") ↔
      ∀ r ∈ (runDispatches Sample.unicode Sample.noInstants [Sample.undated] .empty).tickets,
        r.state ≠ .waiting) ↔
    ((∃ r ∈ (runDispatches Sample.unicode Sample.noInstants [Sample.undated] .empty).tickets,
        r.state = .waiting) →
      ∃ r ∈ (runDispatches Sample.unicode Sample.noInstants [Sample.undated] .empty).tickets,
        r.Callable) :=
  queueEmpty_iff Sample.unicode Sample.noInstants [Sample.undated] undated_decodes (Sample.ports 2)
    .staff

end SlotBooking
