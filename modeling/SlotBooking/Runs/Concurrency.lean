import SlotBooking.Adapters.DurableTexts
import SlotBooking.Library.Optimistic
import SlotBooking.Runs.Outcomes

/-! Clients which load and save tickets in any order. The revision column is the version of
optimistic concurrency, and what the tables repeat of a ticket stays in step with its log. -/
namespace SlotBooking

/-- What a client has loaded, and how many saves had been committed by then. -/
structure Holding where
  id : TicketId
  loaded : LoadedAggregate
  since : Nat

structure World (Client : Type) where
  store : DurableStore
  held : Client → Option Holding
  committed : List TicketId

def World.start {Client : Type} : World Client := ⟨.empty, fun _ => none, []⟩

/-- New events of one ticket, with the ticket they lead to. -/
structure Request (u : Unicode) (s : DurableStore) (id : TicketId) (prior : Option Ticket)
    (events : List TicketEvent) (next : Ticket) : Prop where
  new : events ≠ []
  own : ∀ e ∈ events, e.ticketId = id
  fresh : ∀ e ∈ events, e.id ∉ s.ticketEvents.map EventRow.id
  distinct : (events.map TicketEvent.id).Nodup
  texts : ∀ e ∈ events, ∀ f, e.body.fields = some f → Canonical u f
  folded : (applyMany (.holding id prior) events).get id = some next

/-- The unique index of the active handles has nothing against the row. -/
def Unrefused (s : DurableStore) (row : TicketRow) : Prop := ¬ s.Clashes row

section
variable {Client : Type}

def World.save (interval : Nat) (w : World Client) (h : Holding) (events : List TicketEvent)
    (next : Ticket) : World Client :=
  match Durable.save interval h.id h.loaded.revision events next w.store with
  | (.ok _, s) => { w with store := s, committed := w.committed ++ [h.id] }
  | (.error _, s) => { w with store := s }

variable [DecidableEq Client]

/-- A step of one client. The guard is asked about the row of each write which is up to date. -/
inductive World.Step (u : Unicode) (interval : Nat) (guard : DurableStore → TicketRow → Prop)
    (w : World Client) : World Client → Prop
  | load (c : Client) (id : TicketId) (loaded : LoadedAggregate)
      (read : Durable.load u w.store id = .ok loaded) :
      Step u interval guard w
        { w with held := Function.update w.held c (some ⟨id, loaded, w.committed.length⟩) }
  | issue (id : TicketId) (events : List TicketEvent) (next : Ticket)
      (request : Request u w.store id none events next)
      (allowed : w.store.revision id = 0 →
        guard w.store (ticketColumns next events.length ⟨next⟩)) :
      Step u interval guard w { w with store := (Durable.issue interval id events next w.store).2 }
  | save (c : Client) (h : Holding) (events : List TicketEvent) (next : Ticket)
      (holds : w.held c = some h)
      (request : Request u w.store h.id (some h.loaded.state) events next)
      (allowed : w.store.revision h.id = h.loaded.revision →
        guard w.store (ticketColumns next (h.loaded.revision + events.length) ⟨next⟩)) :
      Step u interval guard w (w.save interval h events next)

abbrev World.Reachable (u : Unicode) (interval : Nat) (guard : DurableStore → TicketRow → Prop) :
    World Client → Prop :=
  Relation.ReflTransGen (World.Step u interval guard) .start

end

/-! ### Stores -/

/-- Row, snapshot and log of each ticket agree, and the revision column counts the events. -/
structure DurableStore.Sound (u : Unicode) (s : DurableStore) : Prop where
  tidy : s.Tidy
  revised : ∀ id, s.revision id = (s.log id).length
  texts : ∀ id, Texts (Canonical u) (s.aggregate id)
  faithful : ∀ id, (s.aggregate id).Faithful evolve

section
variable {u : Unicode} {interval : Nat} {s : DurableStore} {id : TicketId}
  {events : List TicketEvent} {next : Ticket}

theorem DurableStore.sound_empty : DurableStore.empty.Sound u where
  tidy := tidy_empty
  revised := fun _ => rfl
  texts := fun _ => texts_empty
  faithful := fun _ => EventSourcing.Aggregate.faithful_empty

theorem Request.evolved {prior : Option Ticket} (request : Request u s id prior events next) :
    evolveAll prior events = some next := by
  rw [← request.folded, get_applyMany _ request.own, QueueSnapshot.get_holding]

namespace DurableStore.Sound

theorem load_eq (sound : s.Sound u) (id : TicketId) :
    Durable.load u s id = found ((evolveAll none (s.aggregate id).log).map
      (fun t => (t, (s.log id).length))) := by
  have recorded : (s.aggregate id).log = [] → (s.aggregate id).latest = none := by
    intro nothing
    rw [(sound.faithful id).latest, nothing]
    rfl
  rw [load_canonical sound.tidy (sound.texts id) recorded, (sound.faithful id).load_eq,
    length_aggregate_log]

theorem load_ok (sound : s.Sound u) {loaded : LoadedAggregate}
    (read : Durable.load u s id = .ok loaded) :
    evolveAll none (s.aggregate id).log = some loaded.state ∧
      loaded.revision = (s.log id).length := by
  rw [sound.load_eq] at read
  cases evolved : evolveAll none (s.aggregate id).log with
  | none =>
    rw [evolved] at read
    cases read
  | some t =>
    rw [evolved] at read
    cases read
    exact ⟨rfl, rfl⟩

theorem canonical (sound : s.Sound u)
    (request : Request u s id (evolveAll none (s.aggregate id).log) events next) :
    Canonical u next.toCustomerFields := by
  apply evolveAll_fields (P := Canonical u) request.texts _ request.evolved
  intro p replayed
  exact evolveAll_fields (P := Canonical u) (sound.texts id).log (by simp) replayed

theorem nextId (sound : s.Sound u)
    (request : Request u s id (evolveAll none (s.aggregate id).log) events next) :
    next.id = id := by
  apply evolveAll_id request.own _ request.evolved
  intro p replayed
  exact evolveAll_id sound.tidy.own (by simp) replayed

theorem accepts (sound : s.Sound u) (request : Request u s id (evolveAll none (s.aggregate id).log)
    events next) (allowed : Unrefused s (ticketColumns next ((s.log id).length + events.length)
      ⟨next⟩)) : s.Accepts (s.log id).length events next where
  admits := by
    refine ⟨fun e mem f hf => (request.texts e mem f hf).valid, ?_, ?_⟩
    · rintro r mem row hrow (same | ⟨same, number⟩)
      · obtain ⟨columns, here, _⟩ := mem_eventRows hrow
        apply request.fresh _ here
        have minted := congrArg EventRow.id columns
        exact List.mem_map.mpr ⟨r, mem, same.trans minted⟩
      · have inLog : r ∈ s.log id := by
          apply List.mem_filter.mpr
          exact ⟨mem, decide_eq_true (same.trans (eventRows_ticketId request.own hrow))⟩
        have counted : r.seq ∈ (s.log id).map EventRow.seq := List.mem_map_of_mem inLog
        rw [sound.tidy.numbered, List.mem_range'_1] at counted
        have later := (mem_eventRows hrow).2.2.1
        omega
    · have ids : ((eventRows (s.log id).length events).map EventRow.id).Nodup := by
        rw [eventRows_id]
        exact request.distinct
      have seqs : ((eventRows (s.log id).length events).map EventRow.seq).Nodup := by
        rw [eventRows_seq]
        exact List.nodup_range'
      apply (List.pairwise_map.mp ids).imp₂ _ (List.pairwise_map.mp seqs)
      rintro a b differentId differentSeq (same | ⟨_, same⟩)
      · exact differentId same
      · exact differentSeq same
  valid := (sound.canonical request).valid
  clear := allowed

theorem commit (sound : s.Sound u)
    (request : Request u s id (evolveAll none (s.aggregate id).log) events next)
    (accepts : s.Accepts (s.log id).length events next) :
    (s.commit interval id (s.log id).length events next).Sound u := by
  have nextId := sound.nextId request
  refine ⟨sound.tidy.commit ⟨accepts, request.own, nextId, fun _ => rfl⟩,
    revised_commit sound.tidy request.own nextId sound.revised rfl, ?_, ?_⟩
  · apply forall_aggregate_commit sound.tidy request.own nextId sound.texts
    exact (sound.texts id).commit interval _ request.texts (sound.canonical request)
  · apply forall_aggregate_commit sound.tidy request.own nextId sound.faithful
    rw [← length_aggregate_log]
    apply (sound.faithful id).commit interval
    rw [EventSourcing.fold_append]
    exact request.evolved

theorem revision_eq_zero (sound : s.Sound u) : s.revision id = 0 ↔ s.log id = [] := by
  rw [sound.revised, List.length_eq_zero_iff]

theorem issue (sound : s.Sound u) (request : Request u s id none events next)
    (allowed : s.revision id = 0 → Unrefused s (ticketColumns next events.length ⟨next⟩)) :
    (s.log id = [] ∧
      Durable.issue interval id events next s = (.ok (), s.commit interval id 0 events next) ∧
      (s.commit interval id 0 events next).Sound u) ∨
    ∃ e, Durable.issue interval id events next s = (.error e, s) := by
  by_cases absent : s.log id = []
  · have nothing : (s.aggregate id).log = [] := by
      rw [aggregate, absent]
      rfl
    have length : (s.log id).length = 0 := by rw [absent]; rfl
    have whole : Request u s id (evolveAll none (s.aggregate id).log) events next := by
      rw [nothing]
      exact request
    have accepts := sound.accepts whole (by
      rw [length, Nat.zero_add]
      exact allowed (sound.revision_eq_zero.mpr absent))
    have kept := @commit u interval s id events next sound whole accepts
    rw [length] at accepts kept
    refine .inl ⟨absent, ?_, kept⟩
    rw [← sound.nextId whole]
    exact issue_eq_ok.mpr ⟨accepts, rfl⟩
  · right
    obtain ⟨e, rest, rfl⟩ := List.exists_cons_of_ne_nil request.new
    obtain ⟨r, rows, log⟩ := List.exists_cons_of_ne_nil absent
    have numbered := sound.tidy.numbered id
    rw [log, List.map_cons, List.length_cons, List.range'_succ, List.cons.injEq] at numbered
    obtain ⟨inTable, own⟩ := List.mem_filter.mp (log ▸ List.mem_cons_self : r ∈ s.log id)
    have taken : r.Conflicts (eventRow (0 + 1) ⟨e⟩ e) :=
      .inr ⟨(of_decide_eq_true own).trans (request.own e List.mem_cons_self).symm, numbered.1⟩
    obtain ⟨err, failed⟩ := @appendEvents_refused "issue" 0 e rest s r inTable taken
    exact ⟨err, Effect.bind_error failed⟩

theorem save (sound : s.Sound u) {prior : Option Ticket} {revision : Nat}
    (request : Request u s id prior events next)
    (replayed : revision = (s.log id).length → evolveAll none (s.aggregate id).log = prior)
    (allowed : s.revision id = revision →
      Unrefused s (ticketColumns next (revision + events.length) ⟨next⟩)) :
    ((s.log id).length = revision ∧
      Durable.save interval id revision events next s =
        (.ok (), s.commit interval id revision events next) ∧
      (s.commit interval id revision events next).Sound u) ∨
    ((s.log id).length ≠ revision ∧
      Durable.save interval id revision events next s =
        (.error (.concurrency revision (s.log id).length), s)) := by
  by_cases current : (s.log id).length = revision
  · subst current
    have whole : Request u s id (evolveAll none (s.aggregate id).log) events next := by
      rw [replayed rfl]
      exact request
    have accepts := sound.accepts whole (allowed (sound.revised id))
    exact .inl ⟨rfl, save_eq_ok.mpr ⟨sound.revised id, accepts, rfl⟩, sound.commit whole accepts⟩
  · rw [← sound.revised] at current ⊢
    exact .inr ⟨current, save_stale current⟩

end DurableStore.Sound

end

/-! ### Worlds -/

section
variable {u : Unicode} {interval : Nat} {Client : Type}

def Holding.hold (h : Holding) : Optimistic.Hold TicketId := ⟨h.id, h.loaded.revision, h.since⟩

/-- The world as optimistic concurrency sees it: the length of a log is the version. -/
def World.versions (w : World Client) : Optimistic.State Client TicketId :=
  ⟨fun id => (w.store.log id).length, fun c => (w.held c).map Holding.hold, w.committed⟩

theorem length_log_commit {s : DurableStore} {id : TicketId} {expected : Nat}
    {events : List TicketEvent} {next : Ticket} (own : ∀ e ∈ events, e.ticketId = id) :
    (fun other => ((s.commit interval id expected events next).log other).length) =
      Function.update (fun other => (s.log other).length) id
        ((s.log id).length + events.length) := by
  funext other
  rw [DurableStore.log_commit own, Function.update_apply]
  split
  · rename_i same
    rw [same, List.length_append, length_eventRows]
  · rfl

variable [DecidableEq Client]

/-- The store is sound, its versions are those of optimistic concurrency, and what each client
holds is the ticket as it was at that revision. -/
structure World.Sound (u : Unicode) (w : World Client) : Prop where
  store : w.store.Sound u
  versions : Relation.ReflTransGen Optimistic.Step Optimistic.start w.versions
  replayed : ∀ c h, w.held c = some h →
    evolveAll none ((w.store.aggregate h.id).log.take h.loaded.revision) = some h.loaded.state

namespace World.Sound

variable {w : World Client}

theorem start : (World.start : World Client).Sound u where
  store := DurableStore.sound_empty
  versions := .refl
  replayed := by
    intro c h holds
    cases holds

theorem past (sound : w.Sound u) {c : Client} {h : Holding} (holds : w.held c = some h) :
    h.loaded.revision ≤ (w.store.log h.id).length := by
  have held : w.versions.held c = some h.hold := by
    simp only [World.versions, holds, Option.map_some]
  exact (Optimistic.invariant_reachable sound.versions c h.hold held).past

theorem replayed_commit (sound : w.Sound u) {id : TicketId} {expected : Nat}
    {events : List TicketEvent} {next : Ticket} (own : ∀ e ∈ events, e.ticketId = id) (c : Client)
    (h : Holding) (holds : w.held c = some h) :
    evolveAll none (((w.store.commit interval id expected events next).aggregate h.id).log.take
      h.loaded.revision) = some h.loaded.state := by
  have before := sound.replayed c h holds
  have bound := sound.past holds
  simp only [DurableStore.aggregate] at before ⊢
  rw [DurableStore.log_commit own]
  split
  · rw [List.map_append, List.take_append_of_le_length (by rw [List.length_map]; exact bound)]
    exact before
  · exact before

theorem load (sound : w.Sound u) (c : Client) {id : TicketId} {loaded : LoadedAggregate}
    (read : Durable.load u w.store id = .ok loaded) :
    World.Sound u { w with
      held := Function.update w.held c (some ⟨id, loaded, w.committed.length⟩) } where
  store := sound.store
  versions := by
    obtain ⟨replayed, counted⟩ := sound.store.load_ok read
    have present : 0 < w.versions.version id := by
      apply List.length_pos_iff.mpr
      intro nothing
      rw [DurableStore.aggregate, nothing] at replayed
      cases replayed
    have step := Optimistic.Step.load c id present
    have held : (fun d => (Function.update w.held c (some ⟨id, loaded, w.committed.length⟩) d).map
        Holding.hold) = Function.update w.versions.held c
          (some ⟨id, w.versions.version id, w.versions.committed.length⟩) := by
      funext d
      rw [Function.update_apply, Function.update_apply]
      split
      · simp only [Option.map_some, Holding.hold, counted, World.versions]
      · rfl
    rw [← held] at step
    exact sound.versions.tail step
  replayed := by
    intro d h holds
    by_cases same : d = c
    · subst same
      cases (Function.update_self _ _ _).symm.trans holds
      obtain ⟨replayed, counted⟩ := sound.store.load_ok read
      rw [counted, ← DurableStore.length_aggregate_log, List.take_length]
      exact replayed
    · exact sound.replayed d h ((Function.update_of_ne same _ _).symm.trans holds)

theorem issue (sound : w.Sound u) {id : TicketId} {events : List TicketEvent} {next : Ticket}
    (request : Request u w.store id none events next)
    (allowed : w.store.revision id = 0 →
      Unrefused w.store (ticketColumns next events.length ⟨next⟩)) :
    World.Sound u { w with store := (Durable.issue interval id events next w.store).2 } := by
  rcases @DurableStore.Sound.issue u interval _ id events next sound.store request allowed with
    ⟨absent, issued, kept⟩ | ⟨e, failed⟩
  · rw [issued]
    refine ⟨kept, ?_, sound.replayed_commit request.own⟩
    have unversioned : w.versions.version id = 0 := by
      simp only [World.versions, absent, List.length_nil]
    have step := Optimistic.Step.create id
      ((w.store.log id).length + events.length) unversioned
    simp only [World.versions] at step
    rw [← @length_log_commit interval _ id 0 events next request.own] at step
    exact sound.versions.tail step
  · rw [failed]
    exact sound

theorem save_cases (sound : w.Sound u) {c : Client} {h : Holding} (holds : w.held c = some h)
    {events : List TicketEvent} {next : Ticket}
    (request : Request u w.store h.id (some h.loaded.state) events next)
    (allowed : w.store.revision h.id = h.loaded.revision →
      Unrefused w.store (ticketColumns next (h.loaded.revision + events.length) ⟨next⟩)) :
    ((w.store.log h.id).length = h.loaded.revision ∧
      Durable.save interval h.id h.loaded.revision events next w.store =
        (.ok (), w.store.commit interval h.id h.loaded.revision events next) ∧
      (w.store.commit interval h.id h.loaded.revision events next).Sound u) ∨
    ((w.store.log h.id).length ≠ h.loaded.revision ∧
      Durable.save interval h.id h.loaded.revision events next w.store =
        (.error (.concurrency h.loaded.revision (w.store.log h.id).length), w.store)) := by
  apply sound.store.save request _ allowed
  intro current
  have replayed := sound.replayed c h holds
  rw [current, ← DurableStore.length_aggregate_log, List.take_length] at replayed
  exact replayed

theorem save (sound : w.Sound u) {c : Client} {h : Holding} (holds : w.held c = some h)
    {events : List TicketEvent} {next : Ticket}
    (request : Request u w.store h.id (some h.loaded.state) events next)
    (allowed : w.store.revision h.id = h.loaded.revision →
      Unrefused w.store (ticketColumns next (h.loaded.revision + events.length) ⟨next⟩)) :
    (w.save interval h events next).Sound u := by
  rcases @save_cases u interval Client _ w sound c h holds events next request allowed with
    ⟨current, saved, kept⟩ | ⟨_, refused⟩
  · rw [World.save, saved]
    refine ⟨kept, ?_, sound.replayed_commit request.own⟩
    have held : w.versions.held c = some h.hold := by
      simp only [World.versions, holds, Option.map_some]
    have grows : h.loaded.revision < (w.store.log h.id).length + events.length := by
      have some := List.length_pos_iff.mpr request.new
      omega
    have step := Optimistic.Step.commit c h.hold _ held current grows
    simp only [World.versions, Holding.hold] at step
    rw [← @length_log_commit interval _ h.id h.loaded.revision events next request.own] at step
    exact sound.versions.tail step
  · rw [World.save, refused]
    exact sound

end World.Sound

theorem World.Reachable.sound {w : World Client} (reached : World.Reachable u interval Unrefused w) :
    w.Sound u := by
  induction reached with
  | refl => exact .start
  | tail _ step ih =>
    cases step with
    | load c id loaded read => exact ih.load c read
    | issue id events next request allowed => exact ih.issue request allowed
    | save c h events next holds request allowed => exact ih.save holds request allowed

theorem World.Sound.current_iff {w : World Client} (sound : w.Sound u) {c : Client} {h : Holding}
    (holds : w.held c = some h) :
    (w.store.log h.id).length = h.loaded.revision ↔ h.id ∉ w.committed.drop h.since := by
  have held : w.versions.held c = some h.hold := by
    simp only [World.versions, holds, Option.map_some]
  exact Optimistic.current_iff sound.versions held

end

/-! ### What the tables repeat -/

section
variable {u : Unicode} {s : DurableStore} {id : TicketId}

theorem DurableStore.Sound.once (sound : s.Sound u) {r : EventRow} (mem : r ∈ s.ticketEvents) :
    s.outbox.count r.toOutbox = 1 := by
  have ids : (s.outbox.map OutboxRow.id).Nodup := by
    rw [sound.tidy.outbox, List.map_map]
    exact sound.tidy.eventsKeyed
  apply List.count_eq_one_of_mem ids.of_map
  rw [sound.tidy.outbox]
  exact List.mem_map_of_mem mem

/-- The snapshot, decoded, is the replay of the first events, decoded. -/
theorem DurableStore.Sound.snapshot (sound : s.Sound u) {snap : SnapshotRow}
    (taken : s.snapshot id = some snap) :
    snap.revision ≤ s.revision id ∧ ∃ events t,
      Decoded u (((s.log id).take snap.revision).map EventRow.payload) events ∧
      (replay events).get id = some t ∧ decodeTicketRowPayload u snap.payload = some t := by
  have view : (s.aggregate id).snapshot = some (snap.payload.json, snap.revision) := by
    rw [DurableStore.aggregate, taken]
    rfl
  obtain ⟨bound, replayed⟩ := (sound.faithful id).snapshot _ _ view
  rw [length_aggregate_log, ← sound.revised] at bound
  refine ⟨bound, (s.aggregate id).log.take snap.revision, snap.payload.json, ?_, ?_, ?_⟩
  · rw [DurableStore.aggregate, ← List.map_take]
    apply List.forall₂_map_left_iff.mpr (List.forall₂_map_right_iff.mpr (List.forall₂_same.mpr _))
    intro r mem
    have inLog : r.payload.json ∈ (s.aggregate id).log :=
      List.mem_map_of_mem (List.mem_of_mem_take mem)
    have texts := (sound.texts id).log _ inLog
    rw [← readEvent_canonical texts]
    exact (canonical_readable.event texts).1
  · rw [get_replay (fun e mem => sound.tidy.own e (List.mem_of_mem_take mem))]
    exact replayed
  · exact decodeTicketRowPayload_eq_some.mpr ⟨_, (sound.texts id).snapshot _ _ view, rfl⟩

end

/-- In every world which clients reach by writes that the unique index lets in, a save goes
through exactly where none has been committed on its ticket since the load, and is otherwise
refused with nothing changed; events are numbered from 1 to the revision column; each is once in
the outbox; and a snapshot is the replay of the first events. -/
theorem no_update_lost (u : Unicode) (interval : Nat) {Client : Type} [DecidableEq Client]
    (w : World Client) (reached : World.Reachable u interval Unrefused w) :
    (∀ (c : Client) (h : Holding) (events : List TicketEvent) (next : Ticket),
      w.held c = some h → Request u w.store h.id (some h.loaded.state) events next →
      (w.store.revision h.id = h.loaded.revision →
        Unrefused w.store (ticketColumns next (h.loaded.revision + events.length) ⟨next⟩)) →
      ((Durable.save interval h.id h.loaded.revision events next w.store).1 = .ok () ↔
        h.id ∉ w.committed.drop h.since) ∧
      (h.id ∈ w.committed.drop h.since → ∃ actual,
        Durable.save interval h.id h.loaded.revision events next w.store =
          (.error (.concurrency h.loaded.revision actual), w.store))) ∧
    (∀ id, (w.store.log id).map EventRow.seq = List.range' 1 (w.store.revision id)) ∧
    (∀ r ∈ w.store.ticketEvents, w.store.outbox.count r.toOutbox = 1) ∧
    ∀ id snap, w.store.snapshot id = some snap →
      snap.revision ≤ w.store.revision id ∧ ∃ events t,
        Decoded u (((w.store.log id).take snap.revision).map EventRow.payload) events ∧
        (replay events).get id = some t ∧ decodeTicketRowPayload u snap.payload = some t := by
  have sound := reached.sound
  refine ⟨?_, ?_, fun r mem => sound.store.once mem, fun id snap taken =>
    sound.store.snapshot taken⟩
  · intro c h events next holds request allowed
    rw [← sound.current_iff holds]
    have stale : h.id ∈ w.committed.drop h.since →
        (w.store.log h.id).length ≠ h.loaded.revision :=
      fun mem current => (sound.current_iff holds).mp current mem
    rcases @World.Sound.save_cases u interval Client _ w sound c h holds events next request
      allowed with ⟨current, saved, _⟩ | ⟨behind, refused⟩
    · rw [saved]
      exact ⟨⟨fun _ => current, fun _ => rfl⟩, fun mem => absurd current (stale mem)⟩
    · rw [refused]
      exact ⟨⟨nofun, fun current => absurd current behind⟩, fun _ => ⟨_, rfl⟩⟩
  · intro id
    rw [sound.store.revised]
    exact sound.store.tidy.numbered id

namespace Sample

def follower : ApplyResult := applyIssue (reservation.args (ports 4) 2 2)

def reissue : TicketEvent := { issued.event with id := ⟨9⟩ }

def firstIssued : World Unit :=
  { World.start with store := (Durable.issue 200 ⟨1⟩ [issued.event] issued.ticket .empty).2 }

def firstHeld : World Unit :=
  { firstIssued with held := Function.update firstIssued.held () (some ⟨⟨1⟩, ⟨issued.ticket, 1⟩, 0⟩) }

def firstServed : World Unit :=
  firstHeld.save 200 ⟨⟨1⟩, ⟨issued.ticket, 1⟩, 0⟩ [called.event, served.event] served.ticket

def secondIssued : World Unit :=
  { firstServed with
    store := (Durable.issue 200 ⟨4⟩ [follower.event] follower.ticket firstServed.store).2 }

def servedHeld : World Unit :=
  { secondIssued with
    held := Function.update secondIssued.held () (some ⟨⟨1⟩, ⟨served.ticket, 3⟩, 1⟩) }

theorem request {s : DurableStore} {id : TicketId} {prior : Option Ticket}
    {events : List TicketEvent} {next : Ticket} (new : events ≠ [])
    (own : ∀ e ∈ events, e.ticketId = id)
    (fresh : ∀ e ∈ events, e.id ∉ s.ticketEvents.map EventRow.id)
    (distinct : (events.map TicketEvent.id).Nodup)
    (texts : ∀ e ∈ events, e.body.fields = none ∨
      e.body.fields = some issued.ticket.toCustomerFields)
    (folded : (applyMany (.holding id prior) events).get id = some next) :
    Request unicode s id prior events next := by
  refine ⟨new, own, fresh, distinct, ?_, folded⟩
  intro e mem f hf
  rcases texts e mem with none | same
  · rw [none] at hf
    cases hf
  · rw [same] at hf
    cases hf
    decide

theorem reaches_firstHeld {guard : DurableStore → TicketRow → Prop}
    (allowed : guard .empty (ticketColumns issued.ticket 1 ⟨issued.ticket⟩)) :
    World.Reachable unicode 200 guard firstHeld := by
  refine .tail (.tail .refl (.issue ⟨1⟩ [issued.event] issued.ticket ?_ (fun _ => allowed)))
    (.load () ⟨1⟩ ⟨issued.ticket, 1⟩ (by decide))
  exact request (by simp) (by decide) (by decide) (by decide) (by decide) (by decide)

end Sample

/-- A ticket which has been served is issued anew while another holds its handle: nobody else has
saved it, and the index refuses the save. -/
theorem active_handle_refuses_save :
    ∃ (w : World Unit) (h : Holding) (events : List TicketEvent) (next : Ticket),
      World.Reachable Sample.unicode 200 (fun _ _ => True) w ∧ w.held () = some h ∧
      Request Sample.unicode w.store h.id (some h.loaded.state) events next ∧
      h.id ∉ w.committed.drop h.since ∧
      (Durable.save 200 h.id h.loaded.revision events next w.store).1 = .error (.storage "save") := by
  refine ⟨Sample.servedHeld, ⟨⟨1⟩, ⟨Sample.served.ticket, 3⟩, 1⟩, [Sample.reissue],
    Sample.issued.ticket, ?_, rfl, ?_, by decide, by decide⟩
  · refine .tail (.tail (.tail (Sample.reaches_firstHeld trivial)
      (.save () _ [Sample.called.event, Sample.served.event] Sample.served.ticket rfl ?_
        (fun _ => trivial)))
      (.issue ⟨4⟩ [Sample.follower.event] Sample.follower.ticket ?_ (fun _ => trivial)))
      (.load () ⟨1⟩ ⟨Sample.served.ticket, 3⟩ (by decide))
    · exact Sample.request (by simp) (by decide) (by decide) (by decide) (by decide)
        (by decide)
    · exact Sample.request (by simp) (by decide) (by decide) (by decide) (by decide)
        (by decide)
  · exact Sample.request (by simp) (by decide) (by decide) (by decide) (by decide)
      (by decide)

theorem no_update_lost_sample :
    (Durable.save 200 ⟨1⟩ 1 [Sample.called.event] Sample.called.ticket Sample.firstHeld.store).1 =
        .ok () ↔ (⟨1⟩ : TicketId) ∉ Sample.firstHeld.committed.drop 0 := by
  have reached := @Sample.reaches_firstHeld Unrefused (by unfold Unrefused; decide)
  have all := no_update_lost Sample.unicode 200 Sample.firstHeld reached
  refine (all.1 () ⟨⟨1⟩, ⟨Sample.issued.ticket, 1⟩, 0⟩ [Sample.called.event] Sample.called.ticket
    rfl ?_ (fun _ => ?_)).1
  · exact Sample.request (by simp) (by decide) (by decide) (by decide) (by decide)
      (by decide)
  · unfold Unrefused
    decide

end SlotBooking
