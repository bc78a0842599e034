import Mathlib.Logic.Relation
import SlotBooking.Runs.Kept

/-! How each decision ends on the Durable Object repository, from a store that keeps the
invariant: refused with the store as it was, or one commit; and, for a batch, one commit
after another until a member is refused. -/
namespace SlotBooking

section
variable {u : Unicode} {interval : Nat}

theorem DurableStore.Kept.current {s : DurableStore} (kept : s.Kept) {id : TicketId}
    {loaded : LoadedAggregate} (read : Durable.load u s id = .ok loaded) :
    s.revision id = loaded.revision := by
  rw [kept.revised, (load_outline kept.tidy (kept.outlined id) read).2.1,
    DurableStore.length_aggregate_log]

theorem DurableStore.Kept.load_self {s : DurableStore} (kept : s.Kept) {id : TicketId}
    {loaded : LoadedAggregate} (read : Durable.load u s id = .ok loaded) :
    Durable.load u s loaded.state.id = .ok loaded := by
  rw [load_id kept.tidy (kept.outlined id) read, read]

theorem DurableStore.Kept.admits_fresh {s : DurableStore} (kept : s.Kept) {e : TicketEvent}
    (valid : e.Valid) (fresh : e.id ∉ s.ticketEvents.map EventRow.id) :
    s.Admits (s.log e.ticketId).length [e] := by
  refine DurableStore.admits_cons.mpr ⟨valid, ?_, DurableStore.admits_nil _ _⟩
  rintro r mem (same | ⟨own, same⟩)
  · exact fresh (List.mem_map.mpr ⟨r, mem, same⟩)
  · have inLog : r ∈ s.log e.ticketId := List.mem_filter.mpr ⟨mem, decide_eq_true own⟩
    have numbered : r.seq ∈ (s.log e.ticketId).map EventRow.seq := List.mem_map_of_mem inLog
    rw [kept.tidy.numbered, List.mem_range'_1] at numbered
    simp only [eventRow] at same
    omega

theorem write_move {s : DurableStore} (kept : s.Kept) (reason : String) {loaded : LoadedAggregate}
    {result : ApplyResult} (read : Durable.load u s loaded.state.id = .ok loaded)
    (move : Move loaded.state result) :
    (∃ s', (do
        Durable.appendEvents reason loaded.revision [result.event]
        Durable.writeProjection interval reason loaded.state.id result.ticket
          (loaded.revision + [result.event].length)) s = (.ok (), s') ∧
        Moved u interval s s' loaded result) ∨
      ((∃ e, (do
        Durable.appendEvents reason loaded.revision [result.event]
        Durable.writeProjection interval reason loaded.state.id result.ticket
          (loaded.revision + [result.event].length)) s = (.error e, s)) ∧
        result.event.id ∈ s.ticketEvents.map EventRow.id) := by
  rcases write_one (kept.accepts_move read move) with ⟨written, accepts⟩ | ⟨failed, refused⟩
  · exact .inl ⟨_, written, read, move, accepts, rfl⟩
  · refine .inr ⟨failed, by_contra (fun fresh => refused ?_)⟩
    have valid : result.event.Valid := by
      intro f hf
      rw [move.event_fields] at hf
      cases hf
    have admits := kept.admits_fresh valid fresh
    rwa [move.event_ticketId, ← kept.revised, kept.current read] at admits

theorem errorsIn_applyAndPersist (loaded : LoadedAggregate) (result : ApplyResult) :
    Effect.ErrorsIn QueueError.OfWrite
      (applyAndPersist (Durable.repository u interval) loaded (some result)) :=
  Effect.errorsIn_bind (errorsIn_save _ _ _ _ _) (fun _ => Effect.errorsIn_succeed _)

theorem save_outcome {s : DurableStore} (kept : s.Kept) {loaded : LoadedAggregate}
    {result : ApplyResult} (read : Durable.load u s loaded.state.id = .ok loaded)
    (move : Move loaded.state result) :
    (∃ s', Durable.save interval loaded.state.id loaded.revision [result.event] result.ticket s =
        (.ok (), s') ∧ Moved u interval s s' loaded result) ∨
      ((∃ e, Durable.save interval loaded.state.id loaded.revision [result.event] result.ticket s =
        (.error e, s)) ∧ result.event.id ∈ s.ticketEvents.map EventRow.id) := by
  rw [save_current (kept.current read)]
  exact write_move kept "save" read move

/-- An event with a fresh id is saved. -/
theorem save_fresh {s : DurableStore} (kept : s.Kept) {loaded : LoadedAggregate}
    {result : ApplyResult} (read : Durable.load u s loaded.state.id = .ok loaded)
    (move : Move loaded.state result)
    (fresh : result.event.id ∉ s.ticketEvents.map EventRow.id) :
    ∃ s', Durable.save interval loaded.state.id loaded.revision [result.event] result.ticket s =
      (.ok (), s') ∧ Moved u interval s s' loaded result :=
  (save_outcome kept read move).resolve_right fun refused => fresh refused.2

theorem issue_outcome {s : DurableStore} (kept : s.Kept) (ports : Ports) {input : IssueTicketInput}
    {all : List Ticket} (free : Durable.findActiveByHandle u s input.handle = .ok none)
    (listed : Durable.listAll u s = .ok all) :
    (∃ s', issueAndPersist (Durable.repository u interval) ports
          (fun seq => applyIssue (input.args ports (nextDisplaySeq (.ofTickets all)) seq)) s =
        (.ok (issueResult ports input s all).ticket, s') ∧
        Issued u interval ports input s s' all) ∨
      ((∃ e, issueAndPersist (Durable.repository u interval) ports
          (fun seq => applyIssue (input.args ports (nextDisplaySeq (.ofTickets all)) seq)) s =
        (.error e, s)) ∧ ¬ s.Admits 0 [(issueResult ports input s all).event]) := by
  have issued := @issue_one interval ports.newTicketId (issueResult ports input s all).event
    (issueResult ports input s all).ticket s (kept.accepts_issue free)
  rcases issued with ⟨written, accepts⟩ | ⟨⟨e, failed⟩, refused⟩
  · exact .inl ⟨_, (Effect.bind_ok rfl).trans (Effect.bind_ok written), free, listed, accepts, rfl⟩
  · exact .inr ⟨⟨e, (Effect.bind_ok rfl).trans (Effect.bind_error failed)⟩, refused⟩

/-! ### Batches -/

variable (u interval) in
def Called (s s' : DurableStore) : Prop :=
  ∃ t revision args, Moved u interval s s' ⟨⟨t, .waiting⟩, revision⟩ (applyCall t args)

variable (u interval) in
/-- A call which a batch makes of one of its ids. -/
def CalledBy (ports : Ports) (actor : Actor) (ids : List TicketId) (s s' : DurableStore) : Prop :=
  ∃ t revision index, t.id ∈ ids ∧
    Moved u interval s s' ⟨⟨t, .waiting⟩, revision⟩ (applyCall t (batchCallArgs ports actor index))

theorem calledBy_called {ports : Ports} {actor : Actor} {ids : List TicketId} {s s' : DurableStore}
    (calls : Relation.ReflTransGen (CalledBy u interval ports actor ids) s s') :
    Relation.ReflTransGen (Called u interval) s s' :=
  Relation.ReflTransGen.mono
    (fun _ _ ⟨t, revision, _, _, moved⟩ => ⟨t, revision, _, moved⟩) _ _ calls

theorem CalledBy.more {ports : Ports} {actor : Actor} {ids : List TicketId} {s s' : DurableStore}
    (calls : Relation.ReflTransGen (CalledBy u interval ports actor ids) s s') (id : TicketId) :
    Relation.ReflTransGen (CalledBy u interval ports actor (id :: ids)) s s' :=
  Relation.ReflTransGen.mono (fun _ _ ⟨t, revision, index, mem, moved⟩ =>
    ⟨t, revision, index, List.mem_cons_of_mem id mem, moved⟩) _ _ calls

theorem called_kept {s s' : DurableStore} (calls : Relation.ReflTransGen (Called u interval) s s')
    (kept : s.Kept) : s'.Kept := by
  induction calls with
  | refl => exact kept
  | tail _ step ih =>
    obtain ⟨t, revision, args, moved⟩ := step
    exact moved.kept ih

theorem Moved.aggregate {s s' : DurableStore} {loaded : LoadedAggregate} {result : ApplyResult}
    (moved : Moved u interval s s' loaded result) (kept : s.Kept) (id : TicketId) :
    s'.aggregate id = if id = loaded.state.id then
      (s.aggregate id).commit interval loaded.revision [result.event] result.ticket
      else s.aggregate id := by
  obtain ⟨_, move, _, rfl⟩ := moved
  refine DurableStore.aggregate_commit kept.tidy.ticketsKeyed kept.tidy.snapshotsKeyed ?_
    move.sameCore.id id
  simpa using move.event_ticketId

theorem load_congr {s s' : DurableStore} (tidy : s.Tidy) (tidy' : s'.Tidy) {id : TicketId}
    (same : s'.aggregate id = s.aggregate id) : Durable.load u s' id = Durable.load u s id := by
  rw [load_eq tidy', load_eq tidy, same]

/-- Event ids which no event of the store has, and which differ from `index` on. -/
structure FreshIds (ports : Ports) (index : Nat) (s : DurableStore) : Prop where
  unused : ∀ i, index ≤ i → ports.newTicketEventId i ∉ s.ticketEvents.map EventRow.id
  distinct : ∀ i j, ports.newTicketEventId i = ports.newTicketEventId j → i = j

theorem FreshIds.moved {ports : Ports} {index : Nat} {s s' : DurableStore}
    {loaded : LoadedAggregate} {result : ApplyResult} (fresh : FreshIds ports index s)
    (moved : Moved u interval s s' loaded result)
    (minted : result.event.id = ports.newTicketEventId index) :
    FreshIds ports (index + 1) s' where
  unused := by
    intro i later mem
    rw [moved.store, DurableStore.commit_ticketEvents, List.map_append, eventRows_id,
      List.mem_append] at mem
    rcases mem with mem | mem
    · exact fresh.unused i (by omega) mem
    · rw [List.map_singleton, List.mem_singleton, minted] at mem
      have same := fresh.distinct _ _ mem
      omega
  distinct := fresh.distinct

theorem Moved.grows {s s' : DurableStore} {loaded : LoadedAggregate} {result : ApplyResult}
    (moved : Moved u interval s s' loaded result) :
    s'.ticketEvents.length = s.ticketEvents.length + 1 := by
  rw [moved.store, DurableStore.commit_ticketEvents, List.length_append, length_eventRows]
  rfl

theorem called_grows {s s' : DurableStore} (calls : Relation.ReflTransGen (Called u interval) s s') :
    s.ticketEvents.length ≤ s'.ticketEvents.length := by
  induction calls with
  | refl => exact Nat.le_refl _
  | tail _ step ih =>
    obtain ⟨t, revision, args, moved⟩ := step
    rw [moved.grows]
    omega

section
variable {ports : Ports} {actor : Actor} {index : Nat} {t : TicketCommon} {revision : Nat}

theorem writeMember_again {s : DurableStore} (kept : s.Kept) (behind : revision < s.revision t.id) :
    ∃ e, Durable.writeMember interval (batchMember ports actor index t revision).update s =
      (.error e, s) := by
  have numbered : revision + 1 ∈ (s.log t.id).map EventRow.seq := by
    rw [kept.revised] at behind
    rw [kept.tidy.numbered, List.mem_range'_1]
    omega
  obtain ⟨r, mem, same⟩ := List.mem_map.mp numbered
  obtain ⟨inTable, own⟩ := List.mem_filter.mp mem
  obtain ⟨e, failed⟩ := @appendEvents_refused "saveBatch" revision
    (applyCall t (batchCallArgs ports actor index)).event [] s r inTable
    (.inr ⟨of_decide_eq_true own, same⟩)
  exact ⟨e, Effect.bind_error failed⟩

/-- The tickets which are `done` have moved on from `s₀`, and the others are as they were. -/
structure CalledSince (s₀ s : DurableStore) (done : TicketId → Prop) : Prop where
  untouched : ∀ id, ¬ done id → s.aggregate id = s₀.aggregate id
  ahead : ∀ id, done id → s₀.revision id < s.revision id

theorem CalledSince.moved {s₀ s m : DurableStore} {done : TicketId → Prop}
    {loaded : LoadedAggregate} {result : ApplyResult} (since : CalledSince s₀ s done)
    (kept : s.Kept) (moved : Moved u interval s m loaded result)
    (behind : s₀.revision loaded.state.id ≤ loaded.revision) :
    CalledSince s₀ m (fun x => done x ∨ x = loaded.state.id) := by
  have others : ∀ x, x ≠ loaded.state.id → m.aggregate x = s.aggregate x :=
    fun x other => (moved.aggregate kept x).trans (if_neg other)
  constructor
  · intro x free
    have before : ¬ done x := fun was => free (.inl was)
    exact (others x (fun same => free (.inr same))).trans (since.untouched x before)
  · intro x was
    by_cases same : x = loaded.state.id
    · subst same
      rw [DurableStore.revision_eq m, moved.aggregate kept, if_pos rfl]
      exact Nat.lt_succ_of_le behind
    · rw [DurableStore.revision_eq m, others x same, ← DurableStore.revision_eq]
      exact since.ahead x (was.resolve_right same)

/-- Distinct ids none of which is done, once the first of them is done as well. -/
theorem undone_cons {done : TicketId → Prop} {id : TicketId} {ids : List TicketId}
    (before : ¬ done id) : ((id :: ids).Nodup ∧ ∀ x ∈ id :: ids, ¬ done x) ↔
      ids.Nodup ∧ ∀ x ∈ ids, ¬ (done x ∨ x = id) := by
  rw [List.nodup_cons, List.forall_mem_cons]
  constructor
  · rintro ⟨⟨absent, distinct⟩, _, free⟩
    refine ⟨distinct, fun x mem was => ?_⟩
    rcases was with was | rfl
    · exact free x mem was
    · exact absent mem
  · rintro ⟨distinct, free⟩
    exact ⟨⟨fun mem => free id mem (.inr rfl), distinct⟩, before,
      fun x mem was => free x mem (.inl was)⟩

/-- The members of a batch are written one by one. The first which is refused ends it: where
event ids are fresh, that is the first whose ticket the batch has called before. -/
theorem writeMembers_outcome {s₀ : DurableStore} (kept₀ : s₀.Kept) {ids : List TicketId}
    {members : List BatchMember}
    (built : BatchBuilt ((Durable.repository u interval).reads s₀) ports actor index ids members)
    {s : DurableStore} (kept : s.Kept) (done : TicketId → Prop) (since : CalledSince s₀ s done) :
    (∃ s', Durable.writeMembers interval (members.map BatchMember.update) s = (.ok (), s') ∧
      Relation.ReflTransGen (CalledBy u interval ports actor ids) s s' ∧ ids.Nodup ∧
        ∀ id ∈ ids, ¬ done id) ∨
    (∃ e s', Durable.writeMembers interval (members.map BatchMember.update) s = (.error e, s') ∧
      Relation.ReflTransGen (CalledBy u interval ports actor ids) s s' ∧
      (FreshIds ports index s → ¬ (ids.Nodup ∧ ∀ id ∈ ids, ¬ done id) ∧
        ((∀ id ∈ ids.head?, ¬ done id) → s ≠ s'))) := by
  induction built generalizing s done with
  | nil => exact .inl ⟨s, rfl, .refl, List.nodup_nil, by simp⟩
  | @cons index id ids members t revision read rest ih =>
    have here : t.id = id := load_id kept₀.tidy (kept₀.outlined id) read
    subst here
    by_cases before : done t.id
    · have behind := since.ahead t.id before
      rw [kept₀.current read] at behind
      obtain ⟨e, failed⟩ := writeMember_again kept behind
      refine .inr ⟨e, s, Effect.bind_error failed, .refl, fun _ => ⟨fun h => ?_, fun h => ?_⟩⟩
      · exact h.2 t.id List.mem_cons_self before
      · exact absurd before (h t.id rfl)
    · have readNow : Durable.load u s t.id = .ok ⟨⟨t, .waiting⟩, revision⟩ :=
        (load_congr kept₀.tidy kept.tidy (since.untouched t.id before)).trans read
      have move : Move ⟨t, .waiting⟩ (applyCall t (batchCallArgs ports actor index)) := .call t _
      rcases @write_move u interval s kept "saveBatch" ⟨⟨t, .waiting⟩, revision⟩ _ readNow move with
        ⟨m, written, moved⟩ | ⟨⟨e, failed⟩, taken⟩
      · have called : CalledBy u interval ports actor (t.id :: ids) s m :=
          ⟨t, revision, index, List.mem_cons_self, moved⟩
        have sinceNow := since.moved kept moved (kept₀.current read).le
        rcases ih (moved.kept kept) (fun x => done x ∨ x = t.id) sinceNow with
          ⟨s', wrote, calls, free⟩ | ⟨e, s', failed, calls, why⟩
        · exact .inl ⟨s', (Effect.bind_ok written).trans wrote,
            .head called (CalledBy.more calls t.id), (undone_cons before).mpr free⟩
        · refine .inr ⟨e, s', (Effect.bind_ok written).trans failed,
            .head called (CalledBy.more calls t.id), fun fresh => ⟨?_, fun _ same => ?_⟩⟩
          · rw [undone_cons before]
            exact (why (fresh.moved moved rfl)).1
          · have grown := called_grows (calledBy_called calls)
            rw [moved.grows, same] at grown
            omega
      · refine .inr ⟨e, s, Effect.bind_error failed, .refl, fun fresh => ?_⟩
        exact absurd taken (fresh.unused index (Nat.le_refl _))

theorem checkRevisions_built {s : DurableStore} (kept : s.Kept) {ids : List TicketId}
    {members : List BatchMember}
    (built : BatchBuilt ((Durable.repository u interval).reads s) ports actor index ids members) :
    Durable.checkRevisions (members.map BatchMember.update) s = (.ok (), s) := by
  induction built with
  | nil => rfl
  | @cons index id ids members t revision read rest ih =>
    have here : t.id = id := load_id kept.tidy (kept.outlined id) read
    subst here
    have current : s.revision t.id = revision := kept.current read
    have checked : Durable.checkRevision t.id revision s = (.ok (), s) := by
      rw [checkRevision_run, if_neg (not_not.mpr current)]
    exact (Effect.bind_ok checked).trans ih

/-- A batch succeeds where its ids are distinct. Where they are not, it ends in an error with
the calls before the first repetition stored. -/
theorem saveBatch_outcome {s : DurableStore} (kept : s.Kept) {ids : List TicketId}
    {members : List BatchMember}
    (built : BatchBuilt ((Durable.repository u interval).reads s) ports actor index ids members) :
    (∃ s', Durable.saveBatch interval (members.map BatchMember.update) s = (.ok (), s') ∧
      Relation.ReflTransGen (CalledBy u interval ports actor ids) s s' ∧ ids.Nodup) ∨
    (∃ e s', Durable.saveBatch interval (members.map BatchMember.update) s = (.error e, s') ∧
      Relation.ReflTransGen (CalledBy u interval ports actor ids) s s' ∧
      (FreshIds ports index s → ¬ ids.Nodup ∧ s ≠ s')) := by
  have checked := checkRevisions_built kept built
  have since : CalledSince s s (fun _ => False) := ⟨fun _ _ => rfl, fun _ h => h.elim⟩
  rcases writeMembers_outcome kept built kept (fun _ => False) since with
    ⟨s', wrote, calls, distinct, _⟩ | ⟨e, s', failed, calls, why⟩
  · exact .inl ⟨s', (Effect.bind_ok checked).trans wrote, calls, distinct⟩
  · refine .inr ⟨e, s', (Effect.bind_ok checked).trans failed, calls, fun fresh => ?_⟩
    obtain ⟨repeated, changed⟩ := why fresh
    exact ⟨fun distinct => repeated ⟨distinct, fun _ _ h => h⟩, changed (fun _ _ h => h)⟩

end

/-! ### Calls and runs -/

variable (u interval) in
/-- How a call may end: with its result and the store it leaves. -/
inductive Outcome (ports : Ports) (s : DurableStore) :
    UseCase → Except QueueError Reply × DurableStore → Prop where
  | refused (c : UseCase) (e : QueueError)
      (waiting : ∀ firstId restIds actor, c = .callBatch firstId restIds actor →
        ∃ id ∈ firstId :: restIds, ¬ ((Durable.repository u interval).reads s).Waits id) :
      Outcome ports s c (.error e, s)
  | answered (c : UseCase) (reply : Reply)
      (decides : Decides ((Durable.repository u interval).reads s) ports c (.answer reply)) :
      Outcome ports s c (.ok reply, s)
  | issued (input : IssueTicketInput) (all : List Ticket) (s' : DurableStore)
      (step : Issued u interval ports input s s' all) :
      Outcome ports s (.issueTicket input) (.ok (.ticket (issueResult ports input s all).ticket), s')
  | moved (c : UseCase) (loaded : LoadedAggregate) (result : ApplyResult) (reply : Reply)
      (s' : DurableStore)
      (decides : Decides ((Durable.repository u interval).reads s) ports c
        (.save loaded result reply))
      (step : Moved u interval s s' loaded result) : Outcome ports s c (.ok reply, s')
  | called (firstId : TicketId) (restIds : List TicketId) (actor : Actor)
      (members : List BatchMember) (s' : DurableStore)
      (built : BatchBuilt ((Durable.repository u interval).reads s) ports actor 0
        (firstId :: restIds) members)
      (steps : Relation.ReflTransGen (Called u interval) s s')
      (distinct : (firstId :: restIds).Nodup) :
      Outcome ports s (.callBatch firstId restIds actor)
        (.ok (.tickets (members.map BatchMember.ticket)), s')
  | torn (firstId : TicketId) (restIds : List TicketId) (actor : Actor)
      (members : List BatchMember) (e : QueueError) (s' : DurableStore)
      (built : BatchBuilt ((Durable.repository u interval).reads s) ports actor 0
        (firstId :: restIds) members)
      (steps : Relation.ReflTransGen (Called u interval) s s')
      (why : FreshIds ports 0 s → ¬ (firstId :: restIds).Nodup ∧ s ≠ s') :
      Outcome ports s (.callBatch firstId restIds actor) (.error e, s')

theorem Outcome.of_eq {ports : Ports} {s : DurableStore} {c : UseCase}
    {x y : Except QueueError Reply × DurableStore} (h : Outcome u interval ports s c y)
    (run : x = y) : Outcome u interval ports s c x := run ▸ h

theorem call_outcome {s : DurableStore} (kept : s.Kept) (ports : Ports) (c : UseCase) :
    Outcome u interval ports s c (c.run (Durable.repository u interval) ports s) := by
  obtain ⟨d, decides, runs⟩ := @decided ((Durable.repository u interval).reads s) ports c
  refine Outcome.of_eq ?_ (runs DurableStore (Durable.repository u interval) s rfl)
  cases decides with
  | refuse c e waiting => exact .refused c e waiting
  | merge input t found => exact .answered _ _ (.merge input t found)
  | keep input loaded read active => exact .answered _ _ (.keep input loaded read active)
  | issue input all free listed =>
    rcases issue_outcome kept ports free listed with ⟨s', done, step⟩ | ⟨⟨e, failed⟩, _⟩
    · exact Outcome.of_eq (.issued input all s' step) (Effect.bind_ok done)
    · exact Outcome.of_eq (.refused _ e nofun) (Effect.bind_error failed)
  | save c id saves loaded result read move minted other =>
    rcases save_outcome kept (kept.load_self read) move with ⟨s', done, step⟩ | ⟨⟨e, failed⟩, _⟩
    · exact Outcome.of_eq (.moved c loaded result _ s'
        (.save c id saves loaded result read move minted other) step) (Effect.bind_ok done)
    · have single : ∀ first rest actor, c ≠ .callBatch first rest actor := saves.single
      exact Outcome.of_eq (.refused c e (fun first rest actor h => absurd h (single first rest actor)))
        (Effect.bind_error failed)
  | checkIn id t revision appointmentAt read booked inWindow =>
    rcases save_outcome kept (kept.load_self read) (.checkIn t _ _ _) with
      ⟨s', done, step⟩ | ⟨⟨e, failed⟩, _⟩
    · exact Outcome.of_eq (.moved _ _ _ _ s'
        (.checkIn id t revision appointmentAt read booked inWindow) step) (Effect.bind_ok done)
    · exact Outcome.of_eq (.refused _ e nofun) (Effect.bind_error failed)
  | saveBatch firstId restIds actor members built =>
    rcases saveBatch_outcome kept built with
      ⟨s', done, steps, distinct⟩ | ⟨e, s', failed, steps, why⟩
    · exact Outcome.of_eq (.called firstId restIds actor members s' built
        (calledBy_called steps) distinct) (Effect.bind_ok done)
    · exact Outcome.of_eq (.torn firstId restIds actor members e s' built (calledBy_called steps) why)
        (Effect.bind_error failed)

theorem Outcome.kept {ports : Ports} {s : DurableStore} {c : UseCase}
    {r : Except QueueError Reply × DurableStore} (outcome : Outcome u interval ports s c r)
    (kept : s.Kept) : r.2.Kept := by
  cases outcome with
  | refused | answered => exact kept
  | issued input all s' step => exact step.kept kept
  | moved c loaded result reply s' decides step => exact step.kept kept
  | called firstId restIds actor members s' built steps => exact called_kept steps kept
  | torn firstId restIds actor members e s' built steps => exact called_kept steps kept

theorem kept_run {s : DurableStore} (kept : s.Kept) (calls : List (Ports × UseCase)) :
    (runCalls (Durable.repository u interval) calls s).Kept := by
  induction calls generalizing s with
  | nil => exact kept
  | cons call calls ih => exact ih ((call_outcome kept call.1 call.2).kept kept)

end

/-! ### A sample shop -/

namespace Sample

def instant (n : Nat) : Instant :=
  ⟨(n % 1000 : Nat), by unfold nsMaxInstant; omega⟩

/-- The clock and the ids of call number `k`, for up to eight calls. -/
def ports (k : Nat) : Ports where
  nowInstant i := instant (10 * k + i)
  newTicketId := ⟨k⟩
  newTicketEventId i := ⟨8 * i + k⟩
  newBatchId := ⟨k⟩

theorem freshIds {s : DurableStore} {k : Nat}
    (unused : ∀ id ∈ s.ticketEvents.map EventRow.id, id.suffix % 8 ≠ k) (small : k < 8) :
    FreshIds (ports k) 0 s where
  unused := by
    intro i _ mem
    apply unused _ mem
    simp only [ports]
    omega
  distinct := by
    intro i j same
    simp only [ports, TicketEventId.mk.injEq] at same
    omega

def unicode : Unicode := ⟨id, id⟩

def handle : CustomerHandle := ⟨[0x30a2, 0x30a4], [0x31, 0x32, 0x33, 0x34]⟩

def reservation : IssueTicketInput := ⟨handle, none, some .reservation, some (instant 5)⟩

def issued : ApplyResult := applyIssue (reservation.args (ports 1) 1 1)

def called : ApplyResult := applyCall issued.ticket.toTicketCommon ⟨instant 20, ⟨2⟩, none, none⟩

def served : ApplyResult :=
  applyMarkServed called.ticket.toTicketCommon ⟨instant 20, .staff⟩ (instant 30) ⟨3⟩

end Sample

end SlotBooking
