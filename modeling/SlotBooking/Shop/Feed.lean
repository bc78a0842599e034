import SlotBooking.Shop.DurableObject

/-! What the sockets of the feed have been sent, against the tables. The projection is sent after
a success only: the feed is behind where a failure has changed the tables, which a batch can do,
and where the projection cannot be built. -/
namespace SlotBooking

section
variable (u : Unicode) (instants : InstantText) (scan : List TicketRow → List TicketRow)

/-- The last frame shows the tables as they are; a socket which has failed has no part in this. -/
def WebSocket.Current (s : DurableStore) (socket : WebSocket) : Prop :=
  socket.broken = false → ∃ payload, projectionPayload u scan s = some payload ∧
    socket.frames.getLast? = some payload

def DurableObject.Current (object : DurableObject) : Prop :=
  ∀ socket ∈ object.webSockets, socket.Current u scan object.store

/-- Somebody follows the feed. -/
def DurableObject.Watched (object : DurableObject) : Prop :=
  ∃ socket ∈ object.webSockets, socket.broken = false

/-- The feed can follow a dispatch: a success leaves tables which can be shown, and a failure
leaves them alone. -/
def DurableStore.Follows (s : DurableStore) (ports : Ports) (action : QueueAction) : Prop :=
  (s.Succeeds u instants ports action →
    ∃ payload, projectionPayload u scan (dispatched u instants s (ports, action)) = some payload) ∧
  (¬ s.Succeeds u instants ports action → dispatched u instants s (ports, action) = s)

/-- The condition on one event: who connects can be shown the tables, and who is connected can
follow what is dispatched. -/
def DurableObject.Follows (object : DurableObject) (event : ObjectEvent) : Prop :=
  (∀ socket sent, event = .fetch (some "websocket") socket sent →
    ∃ payload, projectionPayload u scan object.store = some payload) ∧
  ∀ call, object.dispatches event = some call → object.Watched →
    object.store.Follows u instants scan call.1 call.2

end

/-! ### A failure which changes the tables calls somebody -/

section
variable {u : Unicode} {instants : InstantText} {interval : Nat} {s s' : DurableStore}
  {ports : Ports} {action : QueueAction}

theorem succeeded_of_returned {result : QueueResult} {t : Encoded Ticket}
    (returned : t ∈ result.returned) : result.succeeded = true := by
  cases result with
  | error => cases returned
  | _ => rfl

theorem dispatch_fails (kept : s.Kept) (fails : ¬ s.Succeeds u instants ports action) :
    Relation.ReflTransGen (Called u Durable.snapshotInterval) s
      (dispatched u instants s (ports, action)) := by
  cases read : action.useCase instants with
  | none =>
    rw [dispatched, dispatch_thrown read]
  | some c =>
    have outcome := @call_outcome u Durable.snapshotInterval s kept ports c
    rw [dispatched, dispatch_store read]
    generalize ran : c.run (Durable.repository u Durable.snapshotInterval) ports s = r at outcome
    have unreturned : ∀ t s₁, r = (.ok (.ticket t), s₁) → ¬ t.toCustomerFields.Valid := by
      intro t s₁ same valid
      obtain ⟨result, done, returned⟩ := dispatch_ticket read (ran.trans same) valid
      exact fails ⟨result, by rw [done], succeeded_of_returned returned⟩
    cases outcome with
    | refused | answered => exact .refl
    | issued input all s' step => exact absurd step.accepts.valid (unreturned _ _ rfl)
    | called firstId restIds actor members s' built steps => exact steps
    | torn firstId restIds actor members e s' built steps => exact steps
    | moved c loaded result reply s' decides step =>
      cases decides with
      | save => exact absurd step.accepts.valid (unreturned _ _ rfl)
      | checkIn =>
        have encoded : encodeReply (issueExistedId s action) .undefined = some .done := rfl
        have done := dispatch_ok read ran encoded
        exact absurd ⟨_, congrArg Prod.fst done, rfl⟩ fails

/-- How many wait. -/
def DurableStore.waiting (s : DurableStore) : Nat :=
  s.tickets.countP (fun r => r.payload.json.state = .waiting)

theorem Called.waiting (called : Called u interval s s') (kept : s.Kept) :
    s'.waiting + 1 = s.waiting := by
  obtain ⟨t, revision, args, moved⟩ := called
  obtain ⟨front, row, back, before, after, _, outline⟩ := moved.rows kept
  have waits : row.payload.json.state = .waiting := by
    rw [← Ticket.outline_state, outline]
    rfl
  simp only [DurableStore.waiting, before, after, List.countP_append, List.countP_cons, waits]
  simp [updateTicketRow, ticketColumns, applyCall, Ticket.state, TicketVariant.state]
  omega

theorem called_waiting (calls : Relation.ReflTransGen (Called u interval) s s') (kept : s.Kept) :
    s' = s ∨ s'.waiting < s.waiting := by
  have both : s'.Kept ∧ (s' = s ∨ s'.waiting < s.waiting) := by
    induction calls with
    | refl => exact ⟨kept, .inl rfl⟩
    | tail _ call ih =>
      obtain ⟨keptBefore, before⟩ := ih
      have fewer := call.waiting keptBefore
      obtain ⟨t, revision, args, moved⟩ := call
      refine ⟨moved.kept keptBefore, .inr ?_⟩
      rcases before with rfl | less <;> omega
  exact both.2

theorem projection_waiting {scan : List TicketRow → List TicketRow} {payload : QueueView}
    (built : projectionPayload u scan s = some payload) : payload.waitingCount = s.waiting := by
  obtain ⟨listed, read, _⟩ := Option.bind_eq_some_iff.mp built
  cases built.symm.trans (projectionPayload_eq read)
  change (byDisplaySeq .waiting s.listTickets).length = s.waiting
  rw [(byDisplaySeq_perm .waiting s).length_eq, List.length_map, ← List.countP_eq_length_filter]
  rfl

end

/-! ### One dispatch -/

section
variable {u : Unicode} {instants : InstantText} {scan : List TicketRow → List TicketRow}
  {object : DurableObject}

theorem WebSocket.current_of_same {s s' : DurableStore} {socket : WebSocket} (kept : s.Kept)
    (calls : Relation.ReflTransGen (Called u Durable.snapshotInterval) s s')
    (before : socket.Current u scan s) (open_ : socket.broken = false)
    (after : socket.Current u scan s') : s' = s := by
  obtain ⟨payload, built, last⟩ := before open_
  obtain ⟨payload', built', last'⟩ := after open_
  cases last.symm.trans last'
  rcases called_waiting calls kept with same | fewer
  · exact same
  · have count := (projection_waiting built).symm.trans (projection_waiting built')
    omega

theorem current_of_unwatched (unwatched : ¬ object.Watched) : object.Current u scan := by
  intro socket mem open_
  exact absurd ⟨socket, mem, open_⟩ unwatched

theorem current_sent {payload : QueueView} {sends : Nat → Bool} {sockets : List WebSocket}
    {s : DurableStore} (built : projectionPayload u scan s = some payload) :
    ∀ socket ∈ sockets.map (fun socket => socket.send payload (sends socket.id)),
      socket.Current u scan s := by
  intro socket mem
  obtain ⟨old, _, rfl⟩ := List.mem_map.mp mem
  unfold WebSocket.send
  split
  · exact fun _ => ⟨payload, built, List.getLast?_concat⟩
  · exact fun broken => nomatch broken

theorem dispatch_current_iff (kept : object.store.Kept) (current : object.Current u scan)
    (turn : DispatchTurn) (action : QueueAction) :
    (object.dispatch u instants scan turn action).2.Current u scan ↔
      (object.Watched → object.store.Follows u instants scan turn.ports action) := by
  have ends := @DurableObject.dispatch_end u instants scan object turn action
  generalize object.dispatch u instants scan turn action = r at ends ⊢
  cases ends with
  | failed answer fails =>
    have calls := dispatch_fails kept fails
    constructor
    · rintro after ⟨socket, mem, open_⟩
      exact ⟨fun succeeds => absurd succeeds fails, fun _ =>
        WebSocket.current_of_same kept calls (current socket mem) open_ (after socket mem)⟩
    · intro follows socket mem open_
      have same := (follows ⟨socket, mem, open_⟩).2 fails
      change ∃ payload, projectionPayload u scan (dispatched u instants object.store _) = _ ∧ _
      rw [same]
      exact current socket mem open_
  | unseen succeeds unshown =>
    constructor
    · rintro after ⟨socket, mem, open_⟩
      obtain ⟨payload, built, _⟩ := after socket mem open_
      exact absurd (.inr ⟨payload, built⟩) unshown
    · intro follows
      refine current_of_unwatched (fun watched => unshown (.inr ?_))
      exact (follows watched).1 succeeds
  | done result sent succeeds broadcast =>
    have store : sent.store = dispatched u instants object.store (turn.ports, action) :=
      congrArg DurableObject.store (broadcastProjection_eq_some broadcast).1
    rcases broadcastProjection_sockets broadcast with ⟨nobody, alone⟩ | ⟨payload, built, sockets⟩
    · refine iff_of_true (fun socket mem => ?_) (fun watched => ?_)
      · change socket ∈ sent.webSockets at mem
        rw [alone] at mem
        cases mem
      · obtain ⟨socket, mem, _⟩ := watched
        change object.webSockets = [] at nobody
        rw [nobody] at mem
        cases mem
    · refine iff_of_true (fun socket mem => ?_) (fun _ => ?_)
      · change socket ∈ sent.webSockets at mem
        change socket.Current u scan sent.store
        rw [sockets] at mem
        rw [store]
        exact current_sent built socket mem
      · exact ⟨fun _ => ⟨payload, built⟩, fun fails => absurd succeeds fails⟩

/-! ### Every event -/

theorem DurableObject.Current.fewer {object' : DurableObject} (current : object.Current u scan)
    (store : object'.store = object.store)
    (sockets : ∀ socket ∈ object'.webSockets, socket ∈ object.webSockets) :
    object'.Current u scan := by
  intro socket mem
  rw [store]
  exact current socket (sockets socket mem)

theorem fetch_current_iff (current : object.Current u scan) (upgrade : Option String)
    (socket : Nat) (sent : Bool) :
    (object.fetch u scan upgrade socket sent).2.Current u scan ↔ (upgrade = some "websocket" →
      ∃ payload, projectionPayload u scan object.store = some payload) := by
  unfold DurableObject.fetch
  split
  · rename_i other
    exact iff_of_true current (fun same => absurd same other)
  · rename_i upgrades
    have asked : upgrade = some "websocket" := not_not.mp upgrades
    constructor
    · intro after _
      by_contra unbuilt
      have none_ : projectionPayload u scan object.store = none :=
        Option.eq_none_iff_forall_ne_some.mpr (fun payload built => unbuilt ⟨payload, built⟩)
      simp only [none_] at after
      obtain ⟨payload, built, _⟩ := after ⟨socket, [], false⟩ (by simp) rfl
      exact unbuilt ⟨payload, built⟩
    · intro shown
      obtain ⟨payload, built⟩ := shown asked
      simp only [built]
      intro server mem
      rcases List.mem_append.mp mem with before | new
      · exact current server before
      · have one := @current_sent u scan payload (fun _ => sent) [⟨socket, [], false⟩] _ built
        exact one server (by simpa using new)

/-- What neither connects nor dispatches adds no socket. -/
theorem serve_sockets (earlier : Instant → Int → Bool) (config : AlarmConfig) {event : ObjectEvent}
    (quiet : object.dispatches event = none)
    (other : ∀ upgrade socket sent, event ≠ .fetch upgrade socket sent) :
    ∀ server ∈ (object.serve u instants scan earlier config event).webSockets,
      server ∈ object.webSockets := by
  intro server mem
  cases event with
  | fetch upgrade socket sent => exact absurd rfl (other upgrade socket sent)
  | webSocketClose socket => exact (List.mem_filter.mp mem).1
  | registerPushSubscription | unregisterPushSubscription => exact mem
  | dispatch => cases quiet
  | alarm nowMs =>
    simp only [DurableObject.serve] at mem
    split at mem
    · split at mem <;> exact mem
    · exact mem
  | proceed turn pushEnabled sent =>
    simp only [DurableObject.serve] at mem
    cases running : object.sweep with
    | none => simpa only [running] using mem
    | some run =>
      have proceeds := @DurableObject.proceeds u instants scan object turn pushEnabled sent run
      simp only [running] at mem
      generalize object.proceed u instants scan turn pushEnabled sent run = next at proceeds mem
      cases proceeds with
      | ended | selects | announces | sends => exact mem
      | acts p pending first channel ready =>
        simp [DurableObject.dispatches, running, first, ready] at quiet
  | reArm nowMs =>
    simp only [DurableObject.serve] at mem
    split at mem <;> exact mem

theorem serve_current_iff (earlier : Instant → Int → Bool) (config : AlarmConfig)
    (kept : object.store.Kept) (current : object.Current u scan) (event : ObjectEvent) :
    (object.serve u instants scan earlier config event).Current u scan ↔
      object.Follows u instants scan event := by
  cases dispatches : object.dispatches event with
  | some call =>
    obtain ⟨prepared, turn, store, sockets, _, _, ports, same⟩ :=
      @DurableObject.serve_dispatch u instants scan object earlier config event call dispatches
    have before : prepared.Current u scan :=
      current.fewer store (fun server mem => sockets ▸ mem)
    rw [same, dispatch_current_iff (store ▸ kept) before, store, ports]
    unfold DurableObject.Watched
    rw [sockets]
    constructor
    · intro follows
      refine ⟨fun socket sent fetches => ?_, fun call' other => ?_⟩
      · cases fetches
        cases dispatches
      · cases dispatches.symm.trans other
        exact follows
    · exact fun follows => follows.2 call dispatches
  | none =>
    have still : ∀ call, object.dispatches event = some call → object.Watched →
        object.store.Follows u instants scan call.1 call.2 := by
      intro call other
      cases dispatches.symm.trans other
    by_cases fetches : ∃ upgrade socket sent, event = .fetch upgrade socket sent
    · obtain ⟨upgrade, socket, sent, rfl⟩ := fetches
      refine (fetch_current_iff current upgrade socket sent).trans
        ⟨fun shown => ⟨fun _ _ same => ?_, still⟩, fun follows => ?_⟩
      · cases same
        exact shown rfl
      · rintro rfl
        exact follows.1 socket sent rfl
    · have other : ∀ upgrade socket sent, event ≠ .fetch upgrade socket sent :=
        fun upgrade socket sent same => fetches ⟨upgrade, socket, sent, same⟩
      refine iff_of_true (current.fewer ?_ (serve_sockets earlier config dispatches other))
        ⟨fun socket sent same => absurd same (other _ socket sent), still⟩
      rw [DurableObject.serve_store, dispatches]
      rfl

end

/-- In every state of a run each open socket has been sent the tables as they are, if and only if
every connection and every dispatch which somebody watches can be followed. -/
theorem feed_current_iff (u : Unicode) (instants : InstantText)
    (scan : List TicketRow → List TicketRow) (earlier : Instant → Int → Bool)
    (config : AlarmConfig) (events : List ObjectEvent) :
    Trace.Always (DurableObject.serve u instants scan earlier config) (DurableObject.Current u scan)
        events .empty ↔
      Trace.Throughout (DurableObject.serve u instants scan earlier config)
        (DurableObject.Follows u instants scan) events .empty := by
  refine Trace.always_iff_throughout (K := fun object => object.store.Kept)
    (fun object event kept => object.serve_kept kept earlier config event)
    (fun object event kept current => serve_current_iff earlier config kept current event)
    DurableStore.kept_empty ?_
  simp [DurableObject.Current, DurableObject.empty]

/-! ### What a socket has been sent since it came -/

section
variable {u : Unicode} {instants : InstantText} {scan : List TicketRow → List TicketRow}
  {object : DurableObject}

/-- What a socket of the object had been sent, or nothing, with the projection as it is now after
it or not. -/
def DurableObject.Extends (u : Unicode) (scan : List TicketRow → List TicketRow)
    (before : DurableObject) (s : DurableStore) (frames : List QueueView) : Prop :=
  ∃ old, (old = [] ∨ ∃ socket ∈ before.webSockets, socket.frames = old) ∧
    (frames = old ∨ ∃ payload, projectionPayload u scan s = some payload ∧
      frames = old ++ [payload])

theorem extends_same {s : DurableStore} {socket : WebSocket} (mem : socket ∈ object.webSockets) :
    object.Extends u scan s socket.frames :=
  ⟨socket.frames, .inr ⟨socket, mem, rfl⟩, .inl rfl⟩

theorem extends_send {s : DurableStore} {payload : QueueView} {sent : Bool} {socket : WebSocket}
    (built : projectionPayload u scan s = some payload)
    (old : socket.frames = [] ∨ socket ∈ object.webSockets) :
    object.Extends u scan s (socket.send payload sent).frames := by
  refine ⟨socket.frames, old.imp_right (fun mem => ⟨socket, mem, rfl⟩), ?_⟩
  unfold WebSocket.send
  split
  · exact .inr ⟨payload, built, rfl⟩
  · exact .inl rfl

theorem dispatch_extends (turn : DispatchTurn) (action : QueueAction) :
    ∀ socket ∈ (object.dispatch u instants scan turn action).2.webSockets, object.Extends u scan
      (object.dispatch u instants scan turn action).2.store socket.frames := by
  have ends := @DurableObject.dispatch_end u instants scan object turn action
  generalize object.dispatch u instants scan turn action = r at ends ⊢
  intro socket mem
  cases ends with
  | failed | unseen => exact extends_same mem
  | done result sent succeeds broadcast =>
    change socket ∈ sent.webSockets at mem
    change object.Extends u scan sent.store socket.frames
    have store : sent.store = dispatched u instants object.store (turn.ports, action) :=
      congrArg DurableObject.store (broadcastProjection_eq_some broadcast).1
    rcases broadcastProjection_sockets broadcast with ⟨_, alone⟩ | ⟨payload, built, sockets⟩
    · rw [alone] at mem
      cases mem
    · rw [sockets] at mem
      obtain ⟨old, was, rfl⟩ := List.mem_map.mp mem
      exact extends_send (store ▸ built) (.inr was)

theorem serve_extends (earlier : Instant → Int → Bool) (config : AlarmConfig) (event : ObjectEvent) :
    ∀ socket ∈ (object.serve u instants scan earlier config event).webSockets,
      object.Extends u scan (object.serve u instants scan earlier config event).store
        socket.frames := by
  cases dispatches : object.dispatches event with
  | some call =>
    obtain ⟨prepared, turn, _, sockets, _, _, _, same⟩ :=
      @DurableObject.serve_dispatch u instants scan object earlier config event call dispatches
    rw [same]
    intro socket mem
    have extended := dispatch_extends turn call.2 socket mem
    unfold DurableObject.Extends at extended ⊢
    rwa [sockets] at extended
  | none =>
    by_cases fetches : ∃ upgrade socket sent, event = .fetch upgrade socket sent
    · obtain ⟨upgrade, id, sent, rfl⟩ := fetches
      intro socket mem
      rw [DurableObject.serve_store, dispatches, Option.elim_none]
      simp only [DurableObject.serve, DurableObject.fetch] at mem
      split at mem
      · exact extends_same mem
      · rcases List.mem_append.mp mem with before | new
        · exact extends_same before
        · obtain rfl := List.mem_singleton.mp new
          split
          · exact ⟨[], .inl rfl, .inl rfl⟩
          · rename_i payload built
            exact extends_send built (.inl rfl)
    · have other : ∀ upgrade socket sent, event ≠ .fetch upgrade socket sent :=
        fun upgrade socket sent same => fetches ⟨upgrade, socket, sent, same⟩
      exact fun socket mem => extends_same (serve_sockets earlier config dispatches other socket mem)

end

/-- What has been sent is projections of earlier states, in their order. -/
def DurableObject.InOrder (u : Unicode) (scan : List TicketRow → List TicketRow)
    (past : List DurableObject) (object : DurableObject) : Prop :=
  ∀ socket ∈ object.webSockets, socket.frames.Sublist
    (past.filterMap (fun before => projectionPayload u scan before.store))

/-- Whatever fails, the frames of a socket show states of the run, in the order in which the run has
come to them. -/
theorem frames_in_order (u : Unicode) (instants : InstantText)
    (scan : List TicketRow → List TicketRow) (earlier : Instant → Int → Bool)
    (config : AlarmConfig) (events : List ObjectEvent) :
    (events.foldl (DurableObject.serve u instants scan earlier config) .empty).InOrder u scan
      (Trace.states (DurableObject.serve u instants scan earlier config) events .empty) := by
  have initial : DurableObject.InOrder u scan [.empty] .empty := by
    simp [DurableObject.InOrder, DurableObject.empty]
  refine Trace.states_related (fun past object event shown socket mem => ?_) initial events
  obtain ⟨old, was, extended⟩ := serve_extends earlier config event socket mem
  have before : old.Sublist
      (past.filterMap (fun before => projectionPayload u scan before.store)) := by
    rcases was with rfl | ⟨socket', mem', rfl⟩
    · exact List.nil_sublist _
    · exact shown socket' mem'
  rw [List.filterMap_append]
  rcases extended with same | ⟨payload, built, same⟩
  · rw [same]
    exact before.trans (List.sublist_append_left _ _)
  · rw [same]
    refine before.append ?_
    simp [built]

end SlotBooking
