import SlotBooking.Adapters.DurableCommit
import SlotBooking.Adapters.DurableTexts
import SlotBooking.Adapters.MemoryState
import SlotBooking.Runs.Outcomes

/-! Histories of writes. Whatever the sequence of writes that went through, and whenever the
snapshots were taken, a load gives the replay of all events of the ticket. -/
namespace SlotBooking

/-! ### Writes -/

inductive Write where
  | issue (id : TicketId) (events : List TicketEvent) (next : Ticket)
  | save (id : TicketId) (expected : Nat) (events : List TicketEvent) (next : Ticket)
  | saveBatch (updates : List BatchedSave)
deriving DecidableEq

def Write.run {σ : Type} (repo : TicketRepository σ) : Write → Effect σ QueueError Unit
  | .issue id events next => repo.issue id events next
  | .save id expected events next => repo.save id expected events next
  | .saveBatch updates => repo.saveBatch updates

/-- What a write stores, ticket by ticket. An issue starts at revision 0. -/
def Write.members : Write → List BatchedSave
  | .issue id events next => [⟨id, 0, events, next⟩]
  | .save id expected events next => [⟨id, expected, events, next⟩]
  | .saveBatch updates => updates

def Write.events (w : Write) : List TicketEvent := w.members.flatMap BatchedSave.events

section
variable (u : Unicode)

/-- The events carry the id, their texts are kept by the row codec, and the ticket is what they
make of the log. -/
structure BatchedSave.Proper (log : List TicketEvent) (member : BatchedSave) : Prop where
  own : ∀ e ∈ member.events, e.ticketId = member.id
  texts : ∀ e ∈ member.events, ∀ f, e.body.fields = some f → Canonical u f
  folded : (replay (eventsOf member.id log ++ member.events)).get member.id = some member.next

structure Write.Proper (log : List TicketEvent) (w : Write) : Prop where
  distinct : (w.members.map BatchedSave.id).Nodup
  members : ∀ member ∈ w.members, member.Proper u log

/-- The stores which proper writes lead to, where all of them succeed, with all events they
have written. -/
inductive History {σ : Type} (repo : TicketRepository σ) (start : σ) :
    List TicketEvent → σ → Prop where
  | start : History repo start [] start
  | write {log : List TicketEvent} {s s' : σ} (w : Write) (before : History repo start log s)
      (proper : w.Proper u log) (succeeds : w.run repo s = (.ok (), s')) :
      History repo start (log ++ w.events) s'

end

section
variable {u : Unicode} {interval : Nat} {log : List TicketEvent} {member : BatchedSave}

theorem BatchedSave.Proper.evolved (proper : member.Proper u log) :
    evolveAll none (eventsOf member.id log ++ member.events) = some member.next := by
  rw [← proper.folded, get_replay]
  intro e mem
  rcases List.mem_append.mp mem with mem | mem
  · exact eventsOf_own e mem
  · exact proper.own e mem

theorem BatchedSave.Proper.next_id (proper : member.Proper u log) : member.next.id = member.id := by
  apply evolveAll_id _ _ proper.evolved
  · intro e mem
    rcases List.mem_append.mp mem with mem | mem
    · exact eventsOf_own e mem
    · exact proper.own e mem
  · intro p hp
    cases hp

theorem BatchedSave.Proper.after (proper : member.Proper u log) {other : BatchedSave}
    (own : ∀ e ∈ other.events, e.ticketId = other.id) (different : member.id ≠ other.id) :
    member.Proper u (log ++ other.events) where
  own := proper.own
  texts := proper.texts
  folded := by
    rw [eventsOf_append, eventsOf_other own different, List.append_nil]
    exact proper.folded

/-- Once the first member of a batch is written, the others are proper after it. -/
theorem BatchedSave.Proper.rest {rest : List BatchedSave}
    (proper : ∀ other ∈ member :: rest, other.Proper u log)
    (distinct : ((member :: rest).map BatchedSave.id).Nodup) :
    (∀ other ∈ rest, other.id ≠ member.id) ∧
      ∀ other ∈ rest, other.Proper u (log ++ member.events) := by
  obtain ⟨here, later⟩ := List.forall_mem_cons.mp proper
  have apart : ∀ other ∈ rest, other.id ≠ member.id := by
    intro other mem same
    exact (List.nodup_cons.mp distinct).1 (same ▸ List.mem_map_of_mem mem)
  exact ⟨apart, fun other mem => (later other mem).after here.own (apart other mem)⟩

/-! ### The Durable Object repository -/

/-- The tables hold the log, ticket by ticket, and each snapshot resumes it. The revision
column counts the events, or an issue without events has put it back to 0. -/
structure DurableStore.Replays (u : Unicode) (log : List TicketEvent) (s : DurableStore) :
    Prop where
  tidy : s.Tidy
  recorded : ∀ id, (s.aggregate id).log = eventsOf id log
  texts : ∀ id, Texts (Canonical u) (s.aggregate id)
  unissued : ∀ id, (s.aggregate id).log = [] → (s.aggregate id).latest = none
  resumes : ∀ id, (s.aggregate id).Resumes evolve
  revised : ∀ id, s.revision id = (s.log id).length ∨ s.revision id = 0

theorem DurableStore.replays_empty : DurableStore.empty.Replays u [] where
  tidy := tidy_empty
  recorded := fun _ => rfl
  texts := fun _ => texts_empty
  unissued := fun _ _ => rfl
  resumes := fun _ => EventSourcing.Aggregate.resumes_empty
  revised := fun _ => .inl rfl

namespace DurableStore.Replays

variable {s s' : DurableStore}

/-- A write with events starts where the log ends; one without events, there or at 0. -/
theorem expected_eq (replays : s.Replays u log) {id : TicketId} {expected : Nat}
    {events : List TicketEvent} {next : Ticket} (accepts : s.Accepts expected events next)
    (own : ∀ e ∈ events, e.ticketId = id) (current : s.revision id = expected ∨ expected = 0) :
    expected = (s.log id).length ∨ (events = [] ∧ expected = 0) := by
  have counted : expected = (s.log id).length ∨ expected = 0 := by
    rcases current with rfl | zero
    · exact replays.revised id
    · exact .inr zero
  rcases counted with counted | zero
  · exact .inl counted
  · cases events with
    | nil => exact .inr ⟨rfl, zero⟩
    | cons e rest =>
      subst zero
      have nothing := replays.tidy.log_of_admits accepts.admits
      rw [own e List.mem_cons_self] at nothing
      rw [nothing]
      exact .inl rfl

theorem commit (replays : s.Replays u log) (proper : member.Proper u log)
    (accepts : s.Accepts member.expected member.events member.next)
    (current : s.revision member.id = member.expected ∨ member.expected = 0) :
    (s.commit interval member.id member.expected member.events member.next).Replays u
      (log ++ member.events) := by
  obtain ⟨id, expected, events, next⟩ := member
  have own : ∀ e ∈ events, e.ticketId = id := proper.own
  have nextId : next.id = id := proper.next_id
  have aligned := replays.expected_eq accepts own current
  have folded : evolveAll none ((s.aggregate id).log ++ events) = some next := by
    rw [replays.recorded]
    exact proper.evolved
  have written : Canonical u next.toCustomerFields := by
    apply evolveAll_fields (P := Canonical u) _ (by simp) folded
    intro e mem
    rcases List.mem_append.mp mem with mem | mem
    · exact (replays.texts id).log e mem
    · exact proper.texts e mem
  have length := length_aggregate_log s id
  constructor
  · apply replays.tidy.commit ⟨accepts, own, nextId, _⟩
    intro some
    exact aligned.resolve_right (fun nothing => some nothing.1)
  · intro other
    rw [aggregate_commit replays.tidy.ticketsKeyed replays.tidy.snapshotsKeyed own nextId,
      eventsOf_append]
    by_cases same : other = id
    · subst same
      rw [if_pos rfl, eventsOf_self own, ← replays.recorded]
      rfl
    · rw [if_neg same, eventsOf_other own same, List.append_nil]
      exact replays.recorded other
  · apply forall_aggregate_commit replays.tidy own nextId replays.texts
    exact (replays.texts id).commit interval expected proper.texts written
  · apply forall_aggregate_commit (P := fun a => a.log = [] → a.latest = none) replays.tidy own
      nextId replays.unissued
    intro nothing
    simp only [EventSourcing.Aggregate.commit] at nothing
    rw [nothing] at folded
    cases folded
  · apply forall_aggregate_commit replays.tidy own nextId replays.resumes
    apply (replays.resumes id).commit interval folded
    · rw [List.length_append, length]
      rcases aligned with rfl | ⟨rfl, rfl⟩
      · exact Nat.le_refl _
      · exact Nat.zero_le _
    · rcases aligned with rfl | ⟨rfl, rfl⟩
      · rw [← length, ← List.length_append, List.drop_length]
        rfl
      · exact evolveAll_restart folded (some next)
  · intro other
    rw [revision_commit replays.tidy.ticketsKeyed nextId, log_commit own]
    by_cases same : other = id
    · subst same
      rw [if_pos rfl, if_pos rfl, List.length_append, length_eventRows]
      rcases aligned with rfl | ⟨rfl, rfl⟩
      · exact .inl rfl
      · exact .inr rfl
    · rw [if_neg same, if_neg same]
      exact replays.revised other

theorem members (replays : s.Replays u log) {updates : List BatchedSave}
    (distinct : (updates.map BatchedSave.id).Nodup)
    (proper : ∀ member ∈ updates, member.Proper u log)
    (current : ∀ member ∈ updates, s.revision member.id = member.expected)
    (wrote : Durable.writeMembers interval updates s = (.ok (), s')) :
    s'.Replays u (log ++ updates.flatMap BatchedSave.events) := by
  induction updates generalizing s log with
  | nil =>
    cases wrote
    simpa using replays
  | cons member rest ih =>
    obtain ⟨_, m, one, others⟩ := Effect.bind_eq_ok wrote
    obtain ⟨accepts, rfl⟩ := write_eq_ok.mp one
    have here := proper member List.mem_cons_self
    obtain ⟨apart, after⟩ := BatchedSave.Proper.rest proper distinct
    have next := @commit u interval log member s replays here accepts
      (.inl (current member List.mem_cons_self))
    rw [List.flatMap_cons, ← List.append_assoc]
    apply ih next (List.nodup_cons.mp distinct).2 after _ others
    · intro other mem
      rw [revision_commit replays.tidy.ticketsKeyed here.next_id, if_neg (apart other mem)]
      exact current other (List.mem_cons_of_mem _ mem)

end DurableStore.Replays

theorem Write.replays {s s' : DurableStore} {w : Write} (replays : s.Replays u log)
    (proper : w.Proper u log) (succeeds : w.run (Durable.repository u interval) s = (.ok (), s')) :
    s'.Replays u (log ++ w.events) := by
  cases w with
  | issue id events next =>
    have here := proper.members ⟨id, 0, events, next⟩ List.mem_cons_self
    obtain ⟨accepts, rfl⟩ := (@issue_eq_ok interval id events next s s').mp succeeds
    rw [here.next_id]
    simpa [Write.events, Write.members] using replays.commit here accepts (.inr rfl)
  | save id expected events next =>
    have here := proper.members ⟨id, expected, events, next⟩ List.mem_cons_self
    obtain ⟨current, accepts, rfl⟩ := save_eq_ok.mp succeeds
    simpa [Write.events, Write.members] using replays.commit here accepts (.inl current)
  | saveBatch updates =>
    obtain ⟨current, wrote⟩ := saveBatch_eq_ok.mp succeeds
    exact replays.members proper.distinct proper.members current wrote

theorem History.replays {s : DurableStore}
    (history : History u (Durable.repository u interval) .empty log s) : s.Replays u log := by
  induction history with
  | start => exact DurableStore.replays_empty
  | write w before proper succeeds ih => exact w.replays ih proper succeeds

/-! ### The in-memory repository -/

/-- The store holds the log, and row and snapshot of each ticket are folds of it. -/
structure MemoryStore.Replays (log : List TicketEvent) (m : MemoryStore) : Prop where
  recorded : m.events = log
  faithful : ∀ id, (m.aggregate id).Faithful evolve
  unissued : ∀ id, m.store.get id = none → eventsOf id m.events = []

theorem MemoryStore.replays_empty : MemoryStore.empty.Replays [] where
  recorded := rfl
  faithful := fun _ => EventSourcing.Aggregate.faithful_empty
  unissued := fun _ _ => rfl

namespace MemoryStore.Replays

variable {m : MemoryStore}

theorem revised (replays : m.Replays log) {id : TicketId} {row : MemoryRow}
    (stored : m.store.get id = some row) : row.revision = (m.aggregate id).log.length := by
  have latest := (replays.faithful id).latest
  simp only [aggregate, stored, Option.map_some] at latest
  obtain ⟨t, _, same⟩ := Option.map_eq_some_iff.mp latest.symm
  exact (congrArg Prod.snd same).symm

theorem commit (replays : m.Replays log) (proper : member.Proper u log)
    (current : member.expected = (m.aggregate member.id).log.length) :
    (m.commitMember interval member).Replays (log ++ member.events) := by
  obtain ⟨id, expected, events, next⟩ := member
  have own : ∀ e ∈ events, e.ticketId = id := proper.own
  have folded : evolveAll none ((m.aggregate id).log ++ events) = some next := by
    rw [aggregate, replays.recorded]
    exact proper.evolved
  constructor
  · exact congrArg (· ++ events) replays.recorded
  · apply forall_aggregate_commit own replays.faithful
    rw [show expected = _ from current]
    exact (replays.faithful id).commit interval folded
  · intro other absent
    by_cases same : other = id
    · subst same
      have stored : some (⟨next, expected + events.length⟩ : MemoryRow) = none :=
        (InsertionMap.get_set_self _ _ _).symm.trans absent
      cases stored
    · have stored : m.store.get other = none :=
        (InsertionMap.get_set_ne _ _ same).symm.trans absent
      change eventsOf other (m.events ++ events) = []
      rw [eventsOf_append, replays.unissued other stored, eventsOf_other own same]
      rfl

theorem members (replays : m.Replays log) {updates : List BatchedSave}
    (distinct : (updates.map BatchedSave.id).Nodup)
    (proper : ∀ member ∈ updates, member.Proper u log)
    (current : ∀ member ∈ updates, member.expected = (m.aggregate member.id).log.length) :
    (updates.foldl (commitMember interval) m).Replays
      (log ++ updates.flatMap BatchedSave.events) := by
  induction updates generalizing m log with
  | nil => simpa using replays
  | cons member rest ih =>
    have here := proper member List.mem_cons_self
    obtain ⟨apart, after⟩ := BatchedSave.Proper.rest proper distinct
    have next := @commit u interval log member m replays here (current member List.mem_cons_self)
    rw [List.flatMap_cons, ← List.append_assoc, List.foldl_cons]
    apply ih next (List.nodup_cons.mp distinct).2 after
    · intro other mem
      rw [commitMember, aggregate_commit here.own, if_neg (apart other mem)]
      exact current other (List.mem_cons_of_mem _ mem)

end MemoryStore.Replays

theorem Write.replays_memory {m m' : MemoryStore} {w : Write} (replays : m.Replays log)
    (proper : w.Proper u log) (succeeds : w.run (Memory.repository interval) m = (.ok (), m')) :
    m'.Replays (log ++ w.events) := by
  cases w with
  | issue id events next =>
    have here := proper.members ⟨id, 0, events, next⟩ List.mem_cons_self
    have nextId : next.id = id := here.next_id
    obtain ⟨absent, rfl⟩ := (@MemoryStore.issue_eq_ok m interval id events next m').mp succeeds
    rw [nextId] at absent ⊢
    have nothing : 0 = (m.aggregate id).log.length := by
      rw [MemoryStore.aggregate, replays.unissued id absent]
      rfl
    simpa [Write.events, Write.members, MemoryStore.commitMember] using
      @MemoryStore.Replays.commit u interval log ⟨id, 0, events, next⟩ m replays here nothing
  | save id expected events next =>
    have here := proper.members ⟨id, expected, events, next⟩ List.mem_cons_self
    obtain ⟨⟨state, stored⟩, rfl⟩ := MemoryStore.save_eq_ok.mp succeeds
    simpa [Write.events, Write.members, MemoryStore.commitMember] using
      @MemoryStore.Replays.commit u interval log ⟨id, expected, events, next⟩ m replays here
        (replays.revised stored)
  | saveBatch updates =>
    obtain ⟨current, rfl⟩ := MemoryStore.saveBatch_eq_ok.mp succeeds
    apply replays.members proper.distinct proper.members
    intro member mem
    obtain ⟨state, stored⟩ := current member mem
    exact replays.revised stored

theorem History.replays_memory {m : MemoryStore}
    (history : History u (Memory.repository interval) .empty log m) : m.Replays log := by
  induction history with
  | start => exact MemoryStore.replays_empty
  | write w before proper succeeds ih => exact w.replays_memory ih proper succeeds

end

/-- The ticket replayed from all of its events, at their number. -/
def fullReplay (log : List TicketEvent) (id : TicketId) : Option (Ticket × Nat) :=
  ((replay (eventsOf id log)).get id).map (fun t => (t, (eventsOf id log).length))

/-- After any history of successful writes, each repository stores what was written, and loads
the replay of the whole log, at its length. -/
theorem load_eq_fullReplay (u : Unicode) (interval : Nat) (log : List TicketEvent) (id : TicketId) :
    (∀ s, History u (Durable.repository u interval) .empty log s →
      (s.aggregate id).log = eventsOf id log ∧
        Durable.load u s id = found (fullReplay log id)) ∧
    (∀ m, History u (Memory.repository interval) .empty log m →
      m.events = log ∧ Memory.load m id = found (fullReplay log id)) := by
  have whole : fullReplay log id =
      (evolveAll none (eventsOf id log)).map (fun t => (t, (eventsOf id log).length)) := by
    rw [fullReplay, get_replay eventsOf_own]
  constructor
  · intro s history
    have replays := history.replays
    refine ⟨replays.recorded id, ?_⟩
    rw [load_canonical replays.tidy (replays.texts id) (replays.unissued id),
      (replays.resumes id).load_eq, replays.recorded, whole]
  · intro m history
    have replays := history.replays_memory
    refine ⟨replays.recorded, ?_⟩
    rw [MemoryStore.load_eq (replays.faithful id), (replays.faithful id).load_eq, whole,
      MemoryStore.aggregate, replays.recorded]

namespace Sample

def issueWrite : Write := .issue ⟨1⟩ [issued.event] issued.ticket

def saveWrite : Write := .save ⟨1⟩ 1 [called.event, served.event] served.ticket

theorem history {σ : Type} (repo : TicketRepository σ) (start : σ)
    (issues : (issueWrite.run repo start).1 = .ok ())
    (saves : (saveWrite.run repo (issueWrite.run repo start).2).1 = .ok ()) :
    History unicode repo start [issued.event, called.event, served.event]
      (saveWrite.run repo (issueWrite.run repo start).2).2 := by
  have first : History unicode repo start [] start := .start
  have second := first.write issueWrite
    { distinct := by decide
      members := by
        intro member mem
        cases List.mem_singleton.mp mem
        refine ⟨by decide, ?_, by decide⟩
        intro e he f hf
        cases List.mem_singleton.mp he
        cases hf
        decide } (Prod.ext issues rfl)
  exact second.write saveWrite
    { distinct := by decide
      members := by
        intro member mem
        cases List.mem_singleton.mp mem
        refine ⟨by decide, ?_, by decide⟩
        intro e he f hf
        rcases List.mem_pair.mp he with rfl | rfl
        · cases hf
        · cases hf } (Prod.ext saves rfl)

end Sample

theorem load_eq_fullReplay_sample :
    (∃ s, (s.aggregate ⟨1⟩).log = [Sample.issued.event, Sample.called.event, Sample.served.event] ∧
      Durable.load Sample.unicode s ⟨1⟩ = .ok ⟨Sample.served.ticket, 3⟩) ∧
    (∃ m, m.events = [Sample.issued.event, Sample.called.event, Sample.served.event] ∧
      Memory.load m ⟨1⟩ = .ok ⟨Sample.served.ticket, 3⟩) := by
  obtain ⟨durable, memory⟩ := load_eq_fullReplay Sample.unicode 3
    [Sample.issued.event, Sample.called.event, Sample.served.event] ⟨1⟩
  have replayed : fullReplay [Sample.issued.event, Sample.called.event, Sample.served.event] ⟨1⟩ =
      some (Sample.served.ticket, 3) := by decide
  rw [replayed] at durable memory
  exact ⟨⟨_, durable _ (Sample.history _ _ (by decide) (by decide))⟩,
    ⟨_, memory _ (Sample.history _ _ (by decide) (by decide))⟩⟩

end SlotBooking
