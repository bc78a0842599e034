import Mathlib.Data.List.Find
import SlotBooking.Adapters.MemoryState
import SlotBooking.Runs.Drift
import SlotBooking.Runs.Named

/-! Two repositories, one behaviour. The in-memory store mirrors the tables, and while it
does the use cases cannot tell the two apart. -/
namespace SlotBooking

/-- A call which the two repositories answer alike. A batch which goes through names no ticket
twice; an issue merges, or its texts are normalised; a check-in is the first of its ticket, or
reads the recorded instant again. -/
def Interchangeable (u : Unicode) (s : DurableStore) (ports : Ports) : UseCase → Prop
  | .callBatch firstId restIds _ => (firstId :: restIds).Nodup ∨
      ∃ id ∈ firstId :: restIds, ∀ row, s.row id = some row → row.state ≠ .waiting
  | .issueTicket input => (∃ r ∈ s.tickets, Durable.holdsHandle input.handle r = true) ∨
      Canonical u ⟨input.handle, input.freeText⟩
  | c => Driftless u s ports c

structure NewIds (ports : Ports) (s : DurableStore) : Prop where
  events : FreshIds ports 0 s
  ticket : ∀ r ∈ s.ticketEvents, r.ticketId ≠ ports.newTicketId

def InterchangeableRun (u : Unicode) (interval : Nat) : List (Ports × UseCase) → DurableStore → Prop
  | [], _ => True
  | call :: calls, s => NewIds call.1 s ∧ Interchangeable u s call.1 call.2 ∧
      InterchangeableRun u interval calls (call.2.run (Durable.repository u interval) call.1 s).2

def TicketRow.entry (r : TicketRow) : TicketId × MemoryRow := (r.id, ⟨r.payload.json, r.revision⟩)

/-- The two stores hold the same logs and the same rows in the same order. -/
structure Mirrors (u : Unicode) (s : DurableStore) (m : MemoryStore) : Prop where
  kept : s.Kept
  named : s.Named u
  numbered : s.Numbered
  steady : s.Steady u
  logs : ∀ id, (m.aggregate id).log = (s.aggregate id).log
  folds : ∀ id, (m.aggregate id).Faithful evolve
  rows : m.store.entries = s.tickets.map TicketRow.entry
  counted : m.seq = s.tickets.length

section
variable {u : Unicode} {interval other : Nat} {s s' : DurableStore} {m : MemoryStore}

theorem mirrors_empty : Mirrors u .empty .empty where
  kept := DurableStore.kept_empty
  named := named_empty
  numbered := rfl
  steady := steady_empty
  logs := fun _ => rfl
  folds := fun _ => EventSourcing.Aggregate.faithful_empty
  rows := rfl
  counted := rfl

namespace Mirrors

/-! ### Reads -/

theorem faithful (mirrors : Mirrors u s m) (id : TicketId) : (s.aggregate id).Faithful evolve := by
  obtain ⟨f, texts⟩ := mirrors.named.titled id
  have same := asRead_canonical (texts.imp (fun _ h => h.2))
  rw [← same]
  exact mirrors.steady.faithful id

theorem load_eq (mirrors : Mirrors u s m) (id : TicketId) :
    Durable.load u s id = Memory.load m id := by
  obtain ⟨f, texts⟩ := mirrors.named.titled id
  have same := asRead_canonical (texts.imp (fun _ h => h.2))
  rw [mirrors.kept.load_read readable_settles (mirrors.steady.texts id), same,
    (mirrors.faithful id).load_eq, MemoryStore.load_eq (mirrors.folds id),
    (mirrors.folds id).load_eq, mirrors.logs]

theorem listAll_eq (mirrors : Mirrors u s m) : Durable.listAll u s = Memory.listAll m := by
  rw [mirrors.named.listAll mirrors.kept mirrors.numbered, Memory.listAll, InsertionMap.values,
    mirrors.rows, List.map_map, List.map_map]
  rfl

theorem values_eq (mirrors : Mirrors u s m) :
    (InsertionMap.ofList (m.store.entries.map (fun e => (e.1, e.2.state)))).values =
      s.tickets.map (fun r => r.payload.json) := by
  have keys : ((m.store.entries.map (fun e => (e.1, e.2.state))).map Prod.fst).Nodup := by
    rw [List.map_map]
    exact m.store.distinct
  rw [InsertionMap.values, InsertionMap.entries_ofList keys, mirrors.rows, List.map_map,
    List.map_map]
  rfl

theorem findActiveByHandle_eq (mirrors : Mirrors u s m) (handle : CustomerHandle) :
    Durable.findActiveByHandle u s handle = Memory.findActiveByHandle m handle := by
  have holds : ∀ r ∈ s.tickets, Durable.holdsHandle handle r =
      (isActiveForHandle r.payload.json && equalsCustomerHandle r.payload.json.handle handle) := by
    intro r mem
    rw [Bool.eq_iff_iff, holdsHandle_iff mirrors.named mirrors.kept mem, Bool.and_eq_true,
      equalsCustomerHandle_iff]
    rfl
  have same : (SlotBooking.findActiveByHandle
      ⟨.ofList (m.store.entries.map (fun e => (e.1, e.2.state)))⟩ handle) =
        (s.tickets.find? (Durable.holdsHandle handle)).map (fun r => r.payload.json) := by
    rw [SlotBooking.findActiveByHandle, mirrors.values_eq, List.find?_map]
    congr 1
    apply List.find?_congr
    intro r mem
    exact (holds r mem).symm
  unfold Durable.findActiveByHandle Memory.findActiveByHandle
  simp only [same]
  cases found : s.tickets.find? (Durable.holdsHandle handle) with
  | none => rfl
  | some r =>
    have decoded := mirrors.named.decoded mirrors.kept.tidy.ticketsKeyed
      (List.mem_of_find?_eq_some found)
    simp only [decoded, Option.map_some, orFail]

theorem reads_eq (mirrors : Mirrors u s m) :
    (Memory.repository other).reads m = (Durable.repository u interval).reads s := by
  have load : Memory.load m = Durable.load u s := funext (fun id => (mirrors.load_eq id).symm)
  have find : Memory.findActiveByHandle m = Durable.findActiveByHandle u s :=
    funext (fun handle => (mirrors.findActiveByHandle_eq handle).symm)
  simp only [TicketRepository.reads, Memory.repository, Durable.repository, load, find,
    mirrors.listAll_eq]

theorem get_of_load (mirrors : Mirrors u s m) {id : TicketId} {loaded : LoadedAggregate}
    (read : Durable.load u s id = .ok loaded) :
    m.store.get id = some ⟨loaded.state, loaded.revision⟩ := by
  have seen := mirrors.load_eq id
  rw [read, MemoryStore.load_eq (mirrors.folds id), (mirrors.folds id).load_latest,
    MemoryStore.aggregate] at seen
  cases stored : m.store.get id with
  | none =>
    rw [stored] at seen
    cases seen
  | some row =>
    rw [stored] at seen
    cases seen
    rfl

theorem log_of_load (mirrors : Mirrors u s m) {id : TicketId} {loaded : LoadedAggregate}
    (read : Durable.load u s id = .ok loaded) :
    evolveAll none (s.aggregate id).log = some loaded.state ∧
      loaded.revision = (s.aggregate id).log.length := by
  have latest := (mirrors.folds id).latest
  rw [MemoryStore.aggregate, mirrors.get_of_load read] at latest
  obtain ⟨t, folded, same⟩ := Option.map_eq_some_iff.mp latest.symm
  have logs := mirrors.logs id
  rw [MemoryStore.aggregate] at logs
  rw [logs] at folded same
  obtain ⟨state, revision⟩ := Prod.mk.inj same
  exact ⟨folded.trans (congrArg some state), revision.symm⟩

/-! ### Writes -/

theorem entries_put (row : TicketRow) (tickets : List TicketRow) :
    (Table.put TicketRow.id updateTicketRow row tickets).map TicketRow.entry =
      InsertionMap.setEntries (tickets.map TicketRow.entry) row.id
        ⟨row.payload.json, row.revision⟩ := by
  have keys : (tickets.map TicketRow.entry).map Prod.fst = tickets.map TicketRow.id := by
    rw [List.map_map]
    rfl
  unfold Table.put InsertionMap.setEntries
  rw [keys]
  split
  · rw [List.map_map, List.map_map]
    apply List.map_congr_left
    intro r _
    by_cases same : r.id = row.id
    · simp [TicketRow.entry, updateTicketRow, same]
    · simp [TicketRow.entry, same]
  · rw [List.map_append]
    rfl

theorem commit (mirrors : Mirrors u s m) {id : TicketId} {expected seq : Nat} {e : TicketEvent}
    {next : Ticket} (own : e.ticketId = id) (nextId : next.id = id)
    (current : expected = (s.aggregate id).log.length)
    (folded : evolveAll none ((s.aggregate id).log ++ [e]) = some next)
    (kept : (s.commit interval id expected [e] next).Kept)
    (named : (s.commit interval id expected [e] next).Named u)
    (numbered : (s.commit interval id expected [e] next).Numbered)
    (steady : (s.commit interval id expected [e] next).Steady u)
    (counted : seq = (s.commit interval id expected [e] next).tickets.length) :
    Mirrors u (s.commit interval id expected [e] next)
      { Memory.commit other id [e] ⟨next, expected + [e].length⟩ m with seq := seq } := by
  have owns : ∀ e' ∈ [e], e'.ticketId = id := by simpa using own
  have durable := @DurableStore.aggregate_commit s interval id expected [e] next
    mirrors.kept.tidy.ticketsKeyed mirrors.kept.tidy.snapshotsKeyed owns nextId
  have memory := @MemoryStore.aggregate_commit m other id [e] next expected owns
  refine ⟨kept, named, numbered, steady, ?_, ?_, ?_, counted⟩
  · intro x
    change ((Memory.commit other id [e] ⟨next, expected + [e].length⟩ m).aggregate x).log = _
    rw [durable, memory]
    split
    · exact congrArg (· ++ [e]) (mirrors.logs x)
    · exact mirrors.logs x
  · apply MemoryStore.forall_aggregate_commit owns mirrors.folds
    rw [current, ← mirrors.logs]
    apply (mirrors.folds id).commit other
    rw [mirrors.logs]
    exact folded
  · change InsertionMap.setEntries m.store.entries id _ = _
    rw [DurableStore.commit_tickets, entries_put, mirrors.rows, ← nextId]
    rfl

theorem moved (mirrors : Mirrors u s m) {loaded : LoadedAggregate} {result : ApplyResult}
    (moved : Moved u interval s s' loaded result)
    (punctual : result.event.type = .checkedIn → loaded.state.checkedInAt = none ∨
      loaded.state.checkedInAt = some result.event.occurredAt) :
    Mirrors u s' (Memory.commit other loaded.state.id [result.event]
      ⟨result.ticket, loaded.revision + [result.event].length⟩ m) := by
  obtain ⟨folded, counted⟩ := mirrors.log_of_load moved.read
  have kept := moved.kept mirrors.kept
  have named := moved.named mirrors.kept mirrors.named
  have steady := moved.steady mirrors.kept mirrors.steady punctual
  obtain ⟨numbers, keys⟩ := moved.numbers mirrors.kept
  have numbered : s'.Numbered := by
    unfold DurableStore.Numbered
    rw [numbers, keys]
    exact mirrors.numbered
  have length : m.seq = s'.tickets.length := by
    rw [mirrors.counted, ← List.length_map (f := TicketRow.id), ← keys, List.length_map]
  have store := moved.store
  subst store
  apply mirrors.commit moved.move.event_ticketId moved.move.sameCore.id counted _ kept named
    numbered steady length
  rw [evolveAll_append, folded]
  exact moved.move.evolve_punctual punctual

theorem save (mirrors : Mirrors u s m) {loaded : LoadedAggregate} {result : ApplyResult}
    (read : Durable.load u s loaded.state.id = .ok loaded) (move : Move loaded.state result)
    (unused : result.event.id ∉ s.ticketEvents.map EventRow.id)
    (punctual : result.event.type = .checkedIn → loaded.state.checkedInAt = none ∨
      loaded.state.checkedInAt = some result.event.occurredAt) :
    ∃ s' m', Durable.save interval loaded.state.id loaded.revision [result.event] result.ticket s =
        (.ok (), s') ∧
      Memory.save other loaded.state.id loaded.revision [result.event] result.ticket m =
        (.ok (), m') ∧ Mirrors u s' m' := by
  obtain ⟨s', saved, moved⟩ := save_fresh mirrors.kept read move unused
  refine ⟨s', _, saved, MemoryStore.save_eq_ok.mpr ⟨⟨_, mirrors.get_of_load read⟩, rfl⟩, ?_⟩
  exact mirrors.moved moved punctual

theorem issueAndPersist_absent {ports : Ports} {apply : Nat → ApplyResult}
    (absent : m.store.get (apply (m.seq + 1)).ticket.id = none) :
    issueAndPersist (Memory.repository other) ports apply m =
      (.ok (apply (m.seq + 1)).ticket,
        { Memory.commit other (apply (m.seq + 1)).ticket.id [(apply (m.seq + 1)).event]
            ⟨(apply (m.seq + 1)).ticket, 0 + [(apply (m.seq + 1)).event].length⟩ m with
          seq := m.seq + 1 }) := by
  have wrote := (@MemoryStore.issue_eq_ok { m with seq := m.seq + 1 } other ports.newTicketId
    [(apply (m.seq + 1)).event] (apply (m.seq + 1)).ticket _).mpr ⟨absent, rfl⟩
  exact (Effect.bind_ok rfl).trans (Effect.bind_ok wrote)

theorem issue (mirrors : Mirrors u s m) {ports : Ports} (new : NewIds ports s)
    {input : IssueTicketInput} (canonical : Canonical u ⟨input.handle, input.freeText⟩)
    {all : List Ticket} (free : Durable.findActiveByHandle u s input.handle = .ok none)
    (listed : Durable.listAll u s = .ok all) :
    ∃ t s' m', issueAndPersist (Durable.repository u interval) ports
          (fun seq => applyIssue (input.args ports (nextDisplaySeq (.ofTickets all)) seq)) s =
        (.ok t, s') ∧
      issueAndPersist (Memory.repository other) ports
          (fun seq => applyIssue (input.args ports (nextDisplaySeq (.ofTickets all)) seq)) m =
        (.ok t, m') ∧ Mirrors u s' m' := by
  have fresh : FreshIssue ports s := by
    intro r mem
    refine ⟨fun same => ?_, new.ticket r mem⟩
    exact new.events.unused 0 (Nat.le_refl 0) (same ▸ List.mem_map_of_mem mem)
  rcases @issue_outcome u interval s mirrors.kept ports input all free listed with
    ⟨s', done, issued⟩ | ⟨_, refused⟩
  · have empty := (issued.aggregate mirrors.kept).1
    have absent : m.store.get ports.newTicketId = none := by
      rw [InsertionMap.get_eq_none_iff, InsertionMap.keys, mirrors.rows, List.map_map]
      exact Table.find_none_iff.mp (issued.absent mirrors.kept).2
    have seq : s.tickets.foldl (fun max r => Nat.max max r.seq) 0 + 1 = m.seq + 1 := by
      rw [mirrors.numbered.nextSeq, mirrors.counted]
    have result : applyIssue (input.args ports (nextDisplaySeq (.ofTickets all)) (m.seq + 1)) =
        issueResult ports input s all := by
      rw [issueResult, seq]
    have kept := issued.kept mirrors.kept
    have named := issued.named mirrors.kept mirrors.named canonical
    have steady := issued.steady mirrors.kept mirrors.steady ⟨_, canonical, canonical⟩
    obtain ⟨numbers, keys⟩ := issued.numbers mirrors.kept mirrors.numbered
    have numbered := mirrors.numbered.extend numbers keys
    have length : m.seq + 1 = s'.tickets.length := by
      rw [issued.tickets mirrors.kept, List.length_append, mirrors.counted]
      rfl
    have persisted := @issueAndPersist_absent other m ports
      (fun seq => applyIssue (input.args ports (nextDisplaySeq (.ofTickets all)) seq)) absent
    rw [result] at persisted
    refine ⟨_, s', _, done, persisted, ?_⟩
    have store := issued.store
    subst store
    refine @commit u interval other s m mirrors ports.newTicketId 0 (m.seq + 1)
      (issueResult ports input s all).event (issueResult ports input s all).ticket rfl rfl ?_ ?_
      kept named numbered steady length
    · rw [empty]
      rfl
    · rw [empty]
      exact @evolve_issued none (issueResult ports input s all).event _ rfl
  · exact absurd (fresh.admits mirrors.kept canonical.valid all) refused

theorem members {s₀ : DurableStore} (kept₀ : s₀.Kept) {ports : Ports} {actor : Actor} {index : Nat}
    {ids : List TicketId} {members : List BatchMember}
    (built : BatchBuilt ((Durable.repository u interval).reads s₀) ports actor index ids members)
    (distinct : ids.Nodup) (mirrors : Mirrors u s m) (fresh : FreshIds ports index s)
    (untouched : ∀ id ∈ ids, s.aggregate id = s₀.aggregate id) :
    ∃ s', Durable.writeMembers interval (members.map BatchMember.update) s = (.ok (), s') ∧
      Mirrors u s' ((members.map BatchMember.update).foldl (MemoryStore.commitMember other) m) := by
  induction built generalizing s m with
  | nil => exact ⟨s, rfl, mirrors⟩
  | @cons index id ids members t revision read rest ih =>
    have here : t.id = id := load_id kept₀.tidy (kept₀.outlined id) read
    subst here
    obtain ⟨absent, later⟩ := List.nodup_cons.mp distinct
    have readNow : Durable.load u s t.id = .ok ⟨⟨t, .waiting⟩, revision⟩ :=
      (load_congr kept₀.tidy mirrors.kept.tidy (untouched t.id List.mem_cons_self)).trans read
    rcases @write_move u interval s mirrors.kept "saveBatch" ⟨⟨t, .waiting⟩, revision⟩ _ readNow
      (.call t (batchCallArgs ports actor index)) with ⟨s₁, written, moved⟩ | ⟨_, taken⟩
    · have mirrored := @Mirrors.moved u interval other s s₁ m mirrors _ _ moved nofun
      have others : ∀ x ∈ ids, s₁.aggregate x = s₀.aggregate x := by
        intro x mem
        rw [moved.aggregate mirrors.kept, if_neg (fun same : x = t.id => absent (same ▸ mem))]
        exact untouched x (List.mem_cons_of_mem _ mem)
      obtain ⟨s', wrote, after⟩ := ih later mirrored (fresh.moved moved rfl) others
      exact ⟨s', (Effect.bind_ok written).trans wrote, after⟩
    · exact absurd taken (fresh.unused index (Nat.le_refl _))

theorem current {ports : Ports} {actor : Actor} {index : Nat} {ids : List TicketId}
    {members : List BatchMember} (mirrors : Mirrors u s m)
    (built : BatchBuilt ((Durable.repository u interval).reads s) ports actor index ids members) :
    MemoryStore.Current m.store (members.map BatchMember.update) := by
  induction built with
  | nil => simp [MemoryStore.Current]
  | @cons index id ids members t revision read rest ih =>
    have here : t.id = id := load_id mirrors.kept.tidy (mirrors.kept.outlined id) read
    intro member mem
    rcases List.mem_cons.mp mem with rfl | mem
    · exact ⟨_, mirrors.get_of_load (here ▸ read)⟩
    · exact ih member mem

theorem saveBatch {ports : Ports} {actor : Actor} {ids : List TicketId}
    {members : List BatchMember} (mirrors : Mirrors u s m)
    (built : BatchBuilt ((Durable.repository u interval).reads s) ports actor 0 ids members)
    (distinct : ids.Nodup) (fresh : FreshIds ports 0 s) :
    ∃ s' m', Durable.saveBatch interval (members.map BatchMember.update) s = (.ok (), s') ∧
      Memory.saveBatch other (members.map BatchMember.update) m = (.ok (), m') ∧
      Mirrors u s' m' := by
  obtain ⟨s', wrote, mirrored⟩ := @Mirrors.members u interval other s m s mirrors.kept ports actor 0
    ids members built distinct mirrors fresh (fun _ _ => rfl)
  have checked := checkRevisions_built mirrors.kept built
  exact ⟨s', _, (Effect.bind_ok checked).trans wrote,
    MemoryStore.saveBatch_eq_ok.mpr ⟨mirrors.current built, rfl⟩, mirrored⟩

end Mirrors

/-! ### Calls and runs -/

variable (u) in
structure Agrees {α : Type} (r : Except QueueError α × DurableStore)
    (q : Except QueueError α × MemoryStore) : Prop where
  result : r.1 = q.1
  mirrors : Mirrors u r.2 q.2

theorem Mirrors.agrees {α : Type} {x : Effect DurableStore QueueError α}
    {y : Effect MemoryStore QueueError α} {a : α} {s' : DurableStore} {m' : MemoryStore}
    (reply : α → Reply) (one : x s = (.ok a, s')) (two : y m = (.ok a, m'))
    (mirrors : Mirrors u s' m') :
    Agrees u ((x >>= fun b => .succeed (reply b)) s) ((y >>= fun b => .succeed (reply b)) m) := by
  rw [Effect.bind_ok one, Effect.bind_ok two]
  exact ⟨rfl, mirrors⟩

variable (interval other) in
theorem Mirrors.call {ports : Ports} {c : UseCase} (mirrors : Mirrors u s m)
    (new : NewIds ports s) (alike : Interchangeable u s ports c) :
    Agrees u (c.run (Durable.repository u interval) ports s)
      (c.run (Memory.repository other) ports m) := by
  obtain ⟨d, decides, runs⟩ := @decided ((Durable.repository u interval).reads s) ports c
  have durable : c.run (Durable.repository u interval) ports s = _ := runs _ _ s rfl
  have memory : c.run (Memory.repository other) ports m = _ := runs _ _ m mirrors.reads_eq
  rw [durable, memory]
  have unused := new.events.unused 0 (Nat.le_refl 0)
  cases decides with
  | refuse c e waiting => exact ⟨rfl, mirrors⟩
  | merge input t found => exact ⟨rfl, mirrors⟩
  | keep input loaded read active => exact ⟨rfl, mirrors⟩
  | issue input all free listed =>
    rcases alike with ⟨r, mem, holds⟩ | canonical
    · exact absurd holds (List.find?_eq_none.mp (findActiveByHandle_none.mp free) r mem)
    · obtain ⟨t, s', m', one, two, mirrored⟩ := mirrors.issue new canonical free listed
      exact mirrored.agrees .ticket one two
  | save c id saves loaded result read move minted different =>
    obtain ⟨s', m', one, two, mirrored⟩ := mirrors.save (mirrors.kept.load_self read) move
      (minted ▸ unused) (fun isCheckIn => absurd isCheckIn different)
    exact mirrored.agrees (fun _ => .ticket result.ticket) one two
  | checkIn id t revision appointmentAt read booked inWindow =>
    obtain ⟨row, found, same, state⟩ := mirrors.steady.row_of_load mirrors.kept read
    obtain ⟨appointment, arrival⟩ := @readTicket_times u row.payload.json
    rw [same] at appointment arrival
    obtain ⟨s', m', one, two, mirrored⟩ := mirrors.save (mirrors.kept.load_self read)
      (.checkIn t (ports.nowInstant 1) (ports.newTicketEventId 0) .customer) unused (by
        intro _
        rw [arrival]
        exact alike row appointmentAt found state (appointment.symm.trans booked) inWindow)
    exact mirrored.agrees (fun _ => .undefined) one two
  | saveBatch firstId restIds actor members built =>
    have distinct : (firstId :: restIds).Nodup := by
      rcases alike with distinct | ⟨id, mem, busy⟩
      · exact distinct
      · obtain ⟨t, revision, read⟩ := built.waits id mem
        obtain ⟨row, found, state⟩ := mirrors.kept.state_of_load read
        exact absurd state (busy row found)
    obtain ⟨s', m', one, two, mirrored⟩ := mirrors.saveBatch built distinct new.events
    exact mirrored.agrees (fun _ => .tickets (members.map BatchMember.ticket)) one two

theorem mirrors_run (mirrors : Mirrors u s m) (calls : List (Ports × UseCase))
    (alike : InterchangeableRun u interval calls s) :
    Mirrors u (runCalls (Durable.repository u interval) calls s)
      (runCalls (Memory.repository other) calls m) := by
  induction calls generalizing s m with
  | nil => exact mirrors
  | cons call calls ih =>
    obtain ⟨new, here, later⟩ := alike
    exact ih (mirrors.call interval other new here).mirrors later

theorem interchangeable_prefix {before : List (Ports × UseCase)} {call : Ports × UseCase}
    {after : List (Ports × UseCase)}
    (alike : InterchangeableRun u interval (before ++ call :: after) s) :
    InterchangeableRun u interval before s ∧
      NewIds call.1 (runCalls (Durable.repository u interval) before s) ∧
      Interchangeable u (runCalls (Durable.repository u interval) before s) call.1 call.2 := by
  induction before generalizing s with
  | nil => exact ⟨trivial, alike.1, alike.2.1⟩
  | cons first before ih =>
    obtain ⟨new, here, later⟩ := alike
    obtain ⟨others, last⟩ := ih later
    exact ⟨⟨new, here, others⟩, last⟩

end

/-- In a run of calls which the repositories answer alike, each step has the same result on both
and leaves stores with the same tickets, whatever their snapshot intervals. -/
theorem repositories_interchangeable (u : Unicode) (interval other : Nat)
    (calls : List (Ports × UseCase)) (alike : InterchangeableRun u interval calls .empty)
    (before : List (Ports × UseCase)) (ports : Ports) (c : UseCase)
    (after : List (Ports × UseCase)) (step : calls = before ++ (ports, c) :: after) :
    let r := c.run (Durable.repository u interval) ports
      (runCalls (Durable.repository u interval) before .empty)
    let q := c.run (Memory.repository other) ports
      (runCalls (Memory.repository other) before .empty)
    r.1 = q.1 ∧ (∀ id, Durable.load u r.2 id = Memory.load q.2 id) ∧
      (∃ all, Durable.listAll u r.2 = .ok all ∧ Memory.listAll q.2 = .ok all) ∧
      ∀ handle, Durable.findActiveByHandle u r.2 handle = Memory.findActiveByHandle q.2 handle := by
  intro r q
  subst step
  obtain ⟨earlier, new, here⟩ := interchangeable_prefix alike
  have mirrors := @mirrors_run u interval other .empty .empty mirrors_empty before earlier
  have agrees : Agrees u r q := mirrors.call interval other new here
  exact ⟨agrees.result, agrees.mirrors.load_eq,
    ⟨_, agrees.mirrors.listAll_eq, rfl⟩, agrees.mirrors.findActiveByHandle_eq⟩

/-- A batch which names a ticket twice goes through in memory, and fails on the tables. -/
theorem repeated_id_splits :
    ((UseCase.callBatch ⟨1⟩ [⟨1⟩] .staff).run (Durable.repository Sample.unicode 200)
        (Sample.ports 2) (runCalls (Durable.repository Sample.unicode 200)
          [(Sample.ports 1, .issueTicket Sample.reservation)] .empty)).1 =
      .error (.storage "saveBatch") ∧
    ∃ reply, ((UseCase.callBatch ⟨1⟩ [⟨1⟩] .staff).run (Memory.repository 200)
        (Sample.ports 2) (runCalls (Memory.repository 200)
          [(Sample.ports 1, .issueTicket Sample.reservation)] .empty)).1 = .ok reply :=
  ⟨by decide +kernel, _, by rfl⟩

theorem repositories_interchangeable_sample :
    let r := (UseCase.callBatch ⟨1⟩ [] .staff).run (Durable.repository Sample.unicode 200)
      (Sample.ports 2) (runCalls (Durable.repository Sample.unicode 200)
        [(Sample.ports 1, .issueTicket Sample.reservation)] .empty)
    let q := (UseCase.callBatch ⟨1⟩ [] .staff).run (Memory.repository 200)
      (Sample.ports 2) (runCalls (Memory.repository 200)
        [(Sample.ports 1, .issueTicket Sample.reservation)] .empty)
    r.1 = q.1 ∧ (∀ id, Durable.load Sample.unicode r.2 id = Memory.load q.2 id) ∧
      (∃ all, Durable.listAll Sample.unicode r.2 = .ok all ∧ Memory.listAll q.2 = .ok all) ∧
      ∀ handle, Durable.findActiveByHandle Sample.unicode r.2 handle =
        Memory.findActiveByHandle q.2 handle := by
  refine repositories_interchangeable Sample.unicode 200 200
    [(Sample.ports 1, .issueTicket Sample.reservation), (Sample.ports 2, .callBatch ⟨1⟩ [] .staff)]
    ?_ _ _ _ [] rfl
  exact ⟨⟨Sample.freshIds (by decide) (by decide), by decide⟩, .inr (by decide),
    ⟨Sample.freshIds (by decide) (by decide), by decide⟩, .inl (by decide), trivial⟩

end SlotBooking
