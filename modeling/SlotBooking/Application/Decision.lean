import SlotBooking.Application.UseCases
import SlotBooking.Domain.Moves

/-! What a call decides. Every use case reads first and writes at most once, at its end.
What it writes depends only on what it read, so two repositories which answer the reads
alike are asked to write the same. -/
namespace SlotBooking

/-- Everything a use case can learn from a repository before it writes. -/
structure Reads where
  load : TicketId → Except QueueError LoadedAggregate
  listAll : Except QueueError (List Ticket)
  findActiveByHandle : CustomerHandle → Except QueueError (Option Ticket)

def TicketRepository.reads {σ : Type} (repo : TicketRepository σ) (s : σ) : Reads :=
  ⟨repo.load s, repo.listAll s, repo.findActiveByHandle s⟩

def Reads.Waits (reads : Reads) (id : TicketId) : Prop :=
  ∃ t revision, reads.load id = .ok ⟨⟨t, .waiting⟩, revision⟩

/-- A refusal, an answer without a write, or the one write of the call. -/
inductive Decision where
  | refuse (e : QueueError)
  | answer (reply : Reply)
  | save (loaded : LoadedAggregate) (result : ApplyResult) (reply : Reply)
  | issue (input : IssueTicketInput) (displaySeq : Nat)
  | saveBatch (members : List BatchMember)

def Decision.execute {σ : Type} (repo : TicketRepository σ) (ports : Ports) :
    Decision → Effect σ QueueError Reply
  | .refuse e => .fail e
  | .answer reply => .succeed reply
  | .save loaded result reply => do
    repo.save loaded.state.id loaded.revision [result.event] result.ticket
    .succeed reply
  | .issue input displaySeq => do
    let t ← issueAndPersist repo ports (fun seq => applyIssue (input.args ports displaySeq seq))
    .succeed (.ticket t)
  | .saveBatch members => do
    repo.saveBatch (members.map BatchMember.update)
    .succeed (.tickets (members.map BatchMember.ticket))

def Decision.isSave : Decision → Bool
  | .save _ _ _ => true
  | _ => false

def batchCallArgs (ports : Ports) (actor : Actor) (index : Nat) : CallArgs :=
  { time := ports.nowInstant 0, eventId := ports.newTicketEventId index,
    calledBy := some actor, batchId := some ports.newBatchId }

def batchMember (ports : Ports) (actor : Actor) (index : Nat) (t : TicketCommon)
    (revision : Nat) : BatchMember :=
  let result := applyCall t (batchCallArgs ports actor index)
  { update := { id := t.id, expected := revision, events := [result.event],
                next := result.ticket }
    ticket := result.ticket }

inductive BatchBuilt (reads : Reads) (ports : Ports) (actor : Actor) :
    Nat → List TicketId → List BatchMember → Prop where
  | nil (index : Nat) : BatchBuilt reads ports actor index [] []
  | cons {index : Nat} {id : TicketId} {ids : List TicketId} {members : List BatchMember}
      {t : TicketCommon} {revision : Nat} (read : reads.load id = .ok ⟨⟨t, .waiting⟩, revision⟩)
      (rest : BatchBuilt reads ports actor (index + 1) ids members) :
      BatchBuilt reads ports actor index (id :: ids)
        (batchMember ports actor index t revision :: members)

theorem BatchBuilt.waits {reads : Reads} {ports : Ports} {actor : Actor} {index : Nat}
    {ids : List TicketId} {members : List BatchMember}
    (built : BatchBuilt reads ports actor index ids members) : ∀ id ∈ ids, reads.Waits id := by
  induction built with
  | nil => simp
  | @cons index id ids members t revision read rest ih =>
    intro x mem
    rcases List.mem_cons.mp mem with rfl | mem
    · exact ⟨t, revision, read⟩
    · exact ih x mem

def UseCase.target : UseCase → Option TicketId
  | .callSpecific id _ | .markServed id | .markNoShow id _ | .recall id _
  | .cancelTicket id _ _ _ | .moveToOverdue id | .nudge id _ | .checkIn id
  | .lapseAppointment id => some id
  | .rescheduleTicket input => some input.ticketId
  | .issueTicket _ | .callNext _ _ | .callBatch _ _ _ => none

def UseCase.single (c : UseCase) : Prop := ∀ first rest actor, c ≠ .callBatch first rest actor

/-- A command which saves one ticket: the one it names, or the one `CallNext` picks. -/
def UseCase.Saves (c : UseCase) (id : TicketId) : Prop :=
  c.target = some id ∨ ∃ lane actor, c = .callNext lane actor

theorem UseCase.Saves.single {c : UseCase} {id : TicketId} (saves : c.Saves id) : c.single := by
  intro first rest actor h
  subst h
  rcases saves with named | ⟨lane, actor, same⟩
  · cases named
  · cases same

def checkInOpen (appointmentAt now : Instant) : Prop :=
  ∃ earliest, appointmentAt.addMinutes (-checkInWindowMinutes) = some earliest ∧
    ¬ now.epochMilliseconds < earliest.epochMilliseconds

/-- The decisions a call can come to, with what it read to come to them. -/
inductive Decides (reads : Reads) (ports : Ports) : UseCase → Decision → Prop where
  | refuse (c : UseCase) (e : QueueError)
      (waiting : ∀ first rest actor, c = .callBatch first rest actor →
        ∃ id ∈ first :: rest, ¬ reads.Waits id) : Decides reads ports c (.refuse e)
  | merge (input : IssueTicketInput) (t : Ticket)
      (found : reads.findActiveByHandle input.handle = .ok (some t)) :
      Decides reads ports (.issueTicket input) (.answer (.ticket t))
  | keep (input : RescheduleTicketInput) (loaded : LoadedAggregate)
      (read : reads.load input.ticketId = .ok loaded) (active : loaded.state.state.isActive) :
      Decides reads ports (.rescheduleTicket input) (.answer (.ticket loaded.state))
  | issue (input : IssueTicketInput) (all : List Ticket)
      (free : reads.findActiveByHandle input.handle = .ok none)
      (listed : reads.listAll = .ok all) :
      Decides reads ports (.issueTicket input) (.issue input (nextDisplaySeq (.ofTickets all)))
  | save (c : UseCase) (id : TicketId) (saves : c.Saves id) (loaded : LoadedAggregate)
      (result : ApplyResult) (read : reads.load id = .ok loaded) (move : Move loaded.state result)
      (minted : result.event.id = ports.newTicketEventId 0)
      (other : result.event.type ≠ .checkedIn) :
      Decides reads ports c (.save loaded result (.ticket result.ticket))
  | checkIn (id : TicketId) (t : TicketCommon) (revision : Nat) (appointmentAt : Instant)
      (read : reads.load id = .ok ⟨⟨t, .waiting⟩, revision⟩)
      (booked : t.appointmentAt = some appointmentAt)
      (inWindow : checkInOpen appointmentAt (ports.nowInstant 0)) :
      Decides reads ports (.checkIn id) (.save ⟨⟨t, .waiting⟩, revision⟩
        (applyCheckIn t (ports.nowInstant 1) (ports.newTicketEventId 0) .customer) .undefined)
  | saveBatch (firstId : TicketId) (restIds : List TicketId) (actor : Actor)
      (members : List BatchMember)
      (built : BatchBuilt reads ports actor 0 (firstId :: restIds) members) :
      Decides reads ports (.callBatch firstId restIds actor) (.saveBatch members)

/-- The handle, if one is given, is the one of the ticket. -/
def Ticket.Owned (t : Ticket) (handle : Option CustomerHandle) : Prop :=
  ∀ given, handle = some given → equalsCustomerHandle t.handle given = true

/-- What the reschedule of a loaded ticket has checked before it applies. -/
structure Admitted (reads : Reads) (ports : Ports) (input : RescheduleTicketInput) (t : Ticket) :
    Prop where
  owned : t.Owned input.handle
  active : t.state.isActive
  lane : t.lane = .reservation
  ahead : ¬ input.newAppointmentAt.epochNs < (ports.nowInstant 0).epochNs
  elsewhere : ∀ source, t.appointmentAt = some source →
    input.newAppointmentAt.epochNs ≠ source.epochNs
  room : ∃ all occupancy, reads.listAll = .ok all ∧
    occupancyExcludingSelf (.ofTickets all) t.id input.newSlot input.tz = some occupancy ∧
    ¬ input.capacity ≤ occupancy

/-- The transition of each command on one ticket, and the ticket it applies to. -/
inductive Applies (reads : Reads) (ports : Ports) :
    UseCase → LoadedAggregate → ApplyResult → Prop where
  | callNext (lane : Option Lane) (actor : Actor) (all : List Ticket) (next : Ticket)
      (t : TicketCommon) (revision : Nat) (listed : reads.listAll = .ok all)
      (picked : pickNext all (ports.nowInstant 0) lane = some (some next))
      (read : reads.load next.id = .ok ⟨⟨t, .waiting⟩, revision⟩) :
      Applies reads ports (.callNext lane actor) ⟨⟨t, .waiting⟩, revision⟩
        (applyCall t ⟨ports.nowInstant 1, ports.newTicketEventId 0, some actor, none⟩)
  | callSpecific (id : TicketId) (actor : Actor) (t : TicketCommon) (revision : Nat)
      (read : reads.load id = .ok ⟨⟨t, .waiting⟩, revision⟩) :
      Applies reads ports (.callSpecific id actor) ⟨⟨t, .waiting⟩, revision⟩
        (applyCall t ⟨ports.nowInstant 0, ports.newTicketEventId 0, some actor, none⟩)
  | markServed (id : TicketId) (t : TicketCommon) (variant : TicketVariant) (stamp : CallStamp)
      (revision : Nat) (serving : variant.Serving stamp)
      (read : reads.load id = .ok ⟨⟨t, variant⟩, revision⟩) :
      Applies reads ports (.markServed id) ⟨⟨t, variant⟩, revision⟩
        (applyMarkServed t stamp (ports.nowInstant 0) (ports.newTicketEventId 0))
  | markNoShow (id : TicketId) (actor : Actor) (t : TicketCommon) (variant : TicketVariant)
      (stamp : CallStamp) (revision : Nat) (serving : variant.Serving stamp)
      (read : reads.load id = .ok ⟨⟨t, variant⟩, revision⟩) :
      Applies reads ports (.markNoShow id actor) ⟨⟨t, variant⟩, revision⟩
        (applyMarkNoShow t stamp (ports.nowInstant 0) (ports.newTicketEventId 0) actor)
  | «recall» (id : TicketId) (actor : Actor) (t : TicketCommon) (variant : TicketVariant)
      (stamp : CallStamp) (revision : Nat) (serving : variant.Serving stamp)
      (read : reads.load id = .ok ⟨⟨t, variant⟩, revision⟩) :
      Applies reads ports (.recall id actor) ⟨⟨t, variant⟩, revision⟩
        (applyRecall t (ports.nowInstant 0) (ports.newTicketEventId 0) actor)
  | cancelTicket (id : TicketId) (actor : Actor) (reason : String) (handle : Option CustomerHandle)
      (t : TicketCommon) (variant : TicketVariant) (revision : Nat)
      (active : variant.state.isActive) (read : reads.load id = .ok ⟨⟨t, variant⟩, revision⟩) :
      Applies reads ports (.cancelTicket id actor reason handle) ⟨⟨t, variant⟩, revision⟩
        (applyCancel t (ports.nowInstant 0) (ports.newTicketEventId 0) actor reason)
  | moveToOverdue (id : TicketId) (t : TicketCommon) (stamp : CallStamp) (revision : Nat)
      (read : reads.load id = .ok ⟨⟨t, .called stamp⟩, revision⟩) :
      Applies reads ports (.moveToOverdue id) ⟨⟨t, .called stamp⟩, revision⟩
        (applyMoveToOverdue t stamp (ports.nowInstant 0) (ports.newTicketEventId 0) .system)
  | nudge (id : TicketId) (channel : Channel) (t : TicketCommon) (stamp : CallStamp)
      (overdue : OverdueStamp) (revision : Nat)
      (read : reads.load id = .ok ⟨⟨t, .overdue stamp overdue⟩, revision⟩) :
      Applies reads ports (.nudge id channel) ⟨⟨t, .overdue stamp overdue⟩, revision⟩
        (applyNudge t stamp overdue (ports.nowInstant 0) (ports.newTicketEventId 0) channel .system)
  | checkIn (id : TicketId) (t : TicketCommon) (revision : Nat)
      (read : reads.load id = .ok ⟨⟨t, .waiting⟩, revision⟩) :
      Applies reads ports (.checkIn id) ⟨⟨t, .waiting⟩, revision⟩
        (applyCheckIn t (ports.nowInstant 1) (ports.newTicketEventId 0) .customer)
  | lapseAppointment (id : TicketId) (t : TicketCommon) (revision : Nat) (result : ApplyResult)
      (lane : t.lane = .reservation)
      (read : reads.load id = .ok ⟨⟨t, .waiting⟩, revision⟩)
      (applied : applyLapseAppointment t (ports.nowInstant 0) (ports.newTicketEventId 0) =
        some result) :
      Applies reads ports (.lapseAppointment id) ⟨⟨t, .waiting⟩, revision⟩ result
  | rescheduleTicket (input : RescheduleTicketInput) (loaded : LoadedAggregate)
      (result : ApplyResult) (read : reads.load input.ticketId = .ok loaded)
      (admitted : Admitted reads ports input loaded.state)
      (applied : applyReschedule loaded.state input.newAppointmentAt (ports.nowInstant 1)
        (ports.newTicketEventId 0) input.actor = some result) :
      Applies reads ports (.rescheduleTicket input) loaded result

section
variable (reads : Reads) (ports : Ports)

/-- A program, over every repository which answers the reads alike, executes one decision. -/
def Decided (c : UseCase) (program : (σ : Type) → TicketRepository σ → Effect σ QueueError Reply) :
    Prop :=
  ∃ d, Decides reads ports c d ∧ ∀ (σ : Type) (repo : TicketRepository σ) (s : σ),
    repo.reads s = reads → program σ repo s = d.execute repo ports s

/-- And where the decision saves a ticket, it saves the transition of the command. -/
def Settled (c : UseCase) (program : (σ : Type) → TicketRepository σ → Effect σ QueueError Reply) :
    Prop :=
  ∃ d, Decides reads ports c d ∧
    (∀ loaded result reply, d = .save loaded result reply → Applies reads ports c loaded result) ∧
    ∀ (σ : Type) (repo : TicketRepository σ) (s : σ),
      repo.reads s = reads → program σ repo s = d.execute repo ports s

variable {reads ports} {c : UseCase}

theorem Settled.decided {program : (σ : Type) → TicketRepository σ → Effect σ QueueError Reply}
    (settled : Settled reads ports c program) : Decided reads ports c program := by
  obtain ⟨d, decides, _, runs⟩ := settled
  exact ⟨d, decides, runs⟩

theorem Settled.unsaved {program : (σ : Type) → TicketRepository σ → Effect σ QueueError Reply}
    {d : Decision} (decides : Decides reads ports c d)
    (other : d.isSave = false)
    (runs : ∀ (σ : Type) (repo : TicketRepository σ) (s : σ),
      repo.reads s = reads → program σ repo s = d.execute repo ports s) :
    Settled reads ports c program := by
  refine ⟨d, decides, ?_, runs⟩
  rintro loaded result reply rfl
  cases other

theorem Settled.fail (single : c.single) (e : QueueError) :
    Settled reads ports c (fun _ _ => .fail e) :=
  .unsaved (.refuse c e (fun first rest actor h => absurd h (single first rest actor)))
    rfl (fun _ _ _ _ => rfl)

/-- A query, and then whatever its answer decides. -/
theorem Settled.inspect (single : c.single) {α : Type} (query : Reads → Except QueueError α)
    {body : (σ : Type) → TicketRepository σ → α → Effect σ QueueError Reply}
    (next : ∀ a, query reads = .ok a → Settled reads ports c (fun σ repo => body σ repo a)) :
    Settled reads ports c
      (fun σ repo => Effect.inspect (fun s => query (repo.reads s)) >>= body σ repo) := by
  cases answer : query reads with
  | error e =>
    obtain ⟨d, decides, applies, runs⟩ := Settled.fail single e
    refine ⟨d, decides, applies, fun σ repo s same => Eq.trans ?_ (runs σ repo s same)⟩
    exact Effect.bind_error (by rw [Effect.inspect_run, same, answer])
  | ok a =>
    obtain ⟨d, decides, applies, runs⟩ := next a answer
    refine ⟨d, decides, applies, fun σ repo s same => Eq.trans ?_ (runs σ repo s same)⟩
    exact Effect.bind_ok (by rw [Effect.inspect_run, same, answer])

theorem Settled.load (single : c.single) (missing : QueueError) (id : TicketId)
    {body : (σ : Type) → TicketRepository σ → LoadedAggregate → Effect σ QueueError Reply}
    (next : ∀ loaded, reads.load id = .ok loaded →
      Settled reads ports c (fun σ repo => body σ repo loaded)) :
    Settled reads ports c (fun σ repo => loadOr repo missing id >>= body σ repo) := by
  refine Settled.inspect single (fun r => (r.load id).mapError (retagNotFound missing)) ?_
  intro loaded answer
  cases read : reads.load id with
  | error e => rw [read] at answer; cases answer
  | ok found =>
    rw [read] at answer
    cases answer
    exact next loaded read

/-- Authentication loads the ticket of the id as well, and may refuse. -/
theorem Settled.loadAs (single : c.single) (id : TicketId) (handle : Option CustomerHandle)
    {body : (σ : Type) → TicketRepository σ → LoadedAggregate → Effect σ QueueError Reply}
    (next : ∀ loaded, reads.load id = .ok loaded → loaded.state.Owned handle →
      Settled reads ports c (fun σ repo => body σ repo loaded)) :
    Settled reads ports c (fun σ repo => SlotBooking.loadAs repo id handle >>= body σ repo) := by
  cases handle with
  | none =>
    exact Settled.load single _ id (fun loaded read => next loaded read (fun _ given => nomatch given))
  | some handle =>
    simp only [SlotBooking.loadAs, authenticateCustomer, bind_assoc]
    refine Settled.load single _ id (fun loaded read => ?_)
    by_cases mismatch : !equalsCustomerHandle loaded.state.handle handle
    · simp only [if_pos mismatch]
      exact Settled.fail single _
    · simp only [if_neg mismatch]
      refine next loaded read (fun given same => ?_)
      cases same
      simpa using mismatch

theorem Settled.persist {id : TicketId} (saves : c.Saves id) {loaded : LoadedAggregate}
    {result : ApplyResult} (read : reads.load id = .ok loaded) (move : Move loaded.state result)
    (minted : result.event.id = ports.newTicketEventId 0)
    (other : result.event.type ≠ .checkedIn) (applies : Applies reads ports c loaded result) :
    Settled reads ports c
      (fun _ repo => applyAndPersist repo loaded (some result) >>= fun t => pure (.ticket t)) := by
  refine ⟨_, .save c id saves loaded result read move minted other, ?_, fun σ repo s same => ?_⟩
  · rintro _ _ _ ⟨⟩
    exact applies
  · simp only [applyAndPersist, Decision.execute, bind_assoc]
    rfl

/-! ### One lemma for each use case -/

theorem settled_callNext (lane : Option Lane) (actor : Actor) :
    Settled reads ports (.callNext lane actor)
      (fun _ repo => (UseCase.callNext lane actor).run repo ports) := by
  have single : (UseCase.callNext lane actor).single := nofun
  have saves : ∀ id, (UseCase.callNext lane actor).Saves id := fun _ => .inr ⟨lane, actor, rfl⟩
  simp only [UseCase.run, callNext, bind_assoc]
  refine Settled.inspect single Reads.listAll (fun all listed => ?_)
  cases picked : pickNext all (ports.nowInstant 0) lane with
  | none => exact .fail single _
  | some pick =>
    cases pick with
    | none => exact .fail single _
    | some next =>
      simp only [bind_assoc]
      refine Settled.load single _ _ ?_
      rintro ⟨⟨t, variant⟩, revision⟩ read
      cases variant with
      | waiting =>
        exact .persist (saves _) read (.call t _) rfl nofun
          (.callNext lane actor all next t revision listed picked read)
      | _ => exact .fail single _

theorem settled_callSpecific (id : TicketId) (actor : Actor) :
    Settled reads ports (.callSpecific id actor)
      (fun _ repo => (UseCase.callSpecific id actor).run repo ports) := by
  have saves : (UseCase.callSpecific id actor).Saves id := .inl rfl
  have single := saves.single
  simp only [UseCase.run, callSpecific, loadOrTicketNotFound, bind_assoc]
  refine Settled.load single _ _ ?_
  rintro ⟨⟨t, variant⟩, revision⟩ read
  cases variant with
  | waiting =>
    exact .persist saves read (.call t _) rfl nofun (.callSpecific id actor t revision read)
  | _ => exact .fail single _

theorem settled_markServed (id : TicketId) : Settled reads ports (.markServed id)
    (fun _ repo => (UseCase.markServed id).run repo ports) := by
  have saves : (UseCase.markServed id).Saves id := .inl rfl
  have single := saves.single
  simp only [UseCase.run, markServed, loadOrTicketNotFound, bind_assoc]
  refine Settled.load single _ _ ?_
  rintro ⟨⟨t, variant⟩, revision⟩ read
  cases variant with
  | called stamp =>
    exact .persist saves read (.markServed t _ stamp (.inl rfl) _ _ _) rfl nofun
      (.markServed id t _ stamp revision (.inl rfl) read)
  | overdue stamp overdue =>
    exact .persist saves read (.markServed t _ stamp (.inr ⟨overdue, rfl⟩) _ _ _)
      rfl nofun (.markServed id t _ stamp revision (.inr ⟨overdue, rfl⟩) read)
  | _ => exact .fail single _

theorem settled_markNoShow (id : TicketId) (actor : Actor) :
    Settled reads ports (.markNoShow id actor)
      (fun _ repo => (UseCase.markNoShow id actor).run repo ports) := by
  have saves : (UseCase.markNoShow id actor).Saves id := .inl rfl
  have single := saves.single
  simp only [UseCase.run, markNoShow, loadOrTicketNotFound, bind_assoc]
  refine Settled.load single _ _ ?_
  rintro ⟨⟨t, variant⟩, revision⟩ read
  cases variant with
  | called stamp =>
    exact .persist saves read (.markNoShow t _ stamp (.inl rfl) _ _ _) rfl nofun
      (.markNoShow id actor t _ stamp revision (.inl rfl) read)
  | overdue stamp overdue =>
    exact .persist saves read (.markNoShow t _ stamp (.inr ⟨overdue, rfl⟩) _ _ _)
      rfl nofun (.markNoShow id actor t _ stamp revision (.inr ⟨overdue, rfl⟩) read)
  | _ => exact .fail single _

theorem settled_recall (id : TicketId) (actor : Actor) : Settled reads ports (.recall id actor)
    (fun _ repo => (UseCase.recall id actor).run repo ports) := by
  have saves : (UseCase.recall id actor).Saves id := .inl rfl
  have single := saves.single
  simp only [UseCase.run, «recall», loadOrTicketNotFound, bind_assoc]
  refine Settled.load single _ _ ?_
  rintro ⟨⟨t, variant⟩, revision⟩ read
  cases variant with
  | called stamp =>
    exact .persist saves read (.recall t _ stamp (.inl rfl) _ _ _) rfl nofun
      (.recall id actor t _ stamp revision (.inl rfl) read)
  | overdue stamp overdue =>
    exact .persist saves read (.recall t _ stamp (.inr ⟨overdue, rfl⟩) _ _ _)
      rfl nofun (.recall id actor t _ stamp revision (.inr ⟨overdue, rfl⟩) read)
  | _ => exact .fail single _

theorem settled_moveToOverdue (id : TicketId) : Settled reads ports (.moveToOverdue id)
    (fun _ repo => (UseCase.moveToOverdue id).run repo ports) := by
  have saves : (UseCase.moveToOverdue id).Saves id := .inl rfl
  have single := saves.single
  simp only [UseCase.run, moveToOverdue, loadOrTicketNotFound, bind_assoc]
  refine Settled.load single _ _ ?_
  rintro ⟨⟨t, variant⟩, revision⟩ read
  cases variant with
  | called stamp =>
    exact .persist saves read (.moveToOverdue t stamp _ _ _) rfl nofun
      (.moveToOverdue id t stamp revision read)
  | _ => exact .fail single _

theorem settled_nudge (id : TicketId) (channel : Channel) :
    Settled reads ports (.nudge id channel)
      (fun _ repo => (UseCase.nudge id channel).run repo ports) := by
  have saves : (UseCase.nudge id channel).Saves id := .inl rfl
  have single := saves.single
  simp only [UseCase.run, nudge, loadOrTicketNotFound, bind_assoc]
  refine Settled.load single _ _ ?_
  rintro ⟨⟨t, variant⟩, revision⟩ read
  cases variant with
  | overdue stamp overdue =>
    exact .persist saves read (.nudge t stamp overdue _ _ _ _) rfl nofun
      (.nudge id channel t stamp overdue revision read)
  | _ => exact .fail single _

theorem settled_cancelTicket (id : TicketId) (actor : Actor) (reason : String)
    (handle : Option CustomerHandle) :
    Settled reads ports (.cancelTicket id actor reason handle)
      (fun _ repo => (UseCase.cancelTicket id actor reason handle).run repo ports) := by
  have saves : (UseCase.cancelTicket id actor reason handle).Saves id := .inl rfl
  have single := saves.single
  simp only [UseCase.run, cancelTicket, bind_assoc]
  refine Settled.loadAs single _ _ ?_
  rintro ⟨⟨t, variant⟩, revision⟩ read _
  cases variant with
  | waiting | called | overdue =>
    exact .persist saves read (.cancel t _ rfl _ _ _ _) rfl nofun
      (.cancelTicket id actor reason handle t _ revision rfl read)
  | _ => exact .fail single _

theorem settled_lapseAppointment (id : TicketId) : Settled reads ports (.lapseAppointment id)
    (fun _ repo => (UseCase.lapseAppointment id).run repo ports) := by
  have saves : (UseCase.lapseAppointment id).Saves id := .inl rfl
  have single := saves.single
  simp only [UseCase.run, lapseAppointment, loadOrTicketNotFound, bind_assoc]
  refine Settled.load single _ _ ?_
  rintro ⟨⟨t, variant⟩, revision⟩ read
  cases variant with
  | waiting =>
    simp only [guardActive, terminalError, Ticket.state, TicketVariant.state]
    by_cases lane : t.lane ≠ .reservation
    · simp only [if_pos lane]
      exact .fail single _
    · simp only [if_neg lane]
      split
      · exact .fail single _
      · cases applied : applyLapseAppointment t (ports.nowInstant 0) (ports.newTicketEventId 0) with
        | none => exact .fail single _
        | some result =>
          obtain ⟨appointmentAt, _, rfl⟩ := applyLapseAppointment_eq_some applied
          have other : TicketEventType.appointmentLapsed ≠ .checkedIn := by decide
          exact .persist saves read (.lapseAppointment t _ _ _ applied) rfl other
            (.lapseAppointment id t revision _ (not_not.mp lane) read applied)
  | _ => exact .fail single _

theorem settled_checkIn (id : TicketId) : Settled reads ports (.checkIn id)
    (fun _ repo => (UseCase.checkIn id).run repo ports) := by
  have saves : (UseCase.checkIn id).Saves id := .inl rfl
  have single := saves.single
  simp only [UseCase.run, checkIn, bind_assoc]
  refine Settled.load single _ _ ?_
  rintro ⟨⟨t, variant⟩, revision⟩ read
  cases variant with
  | waiting =>
    cases booked : t.appointmentAt with
    | none =>
      simp only [booked]
      exact .fail single _
    | some appointmentAt =>
      cases bound : appointmentAt.addMinutes (-checkInWindowMinutes) with
      | none =>
        simp only [booked, bound]
        exact .fail single _
      | some earliest =>
        simp only [booked, bound]
        split
        · exact .fail single _
        · rename_i inTime
          refine ⟨_, .checkIn id t revision appointmentAt read booked ⟨earliest, bound, inTime⟩,
            ?_, fun σ repo s same => ?_⟩
          · rintro _ _ _ ⟨⟩
            exact .checkIn id t revision read
          · simp only [applyAndPersist, Decision.execute, bind_assoc]
            rfl
  | _ => exact .fail single _

theorem settled_rescheduleTicket (input : RescheduleTicketInput) :
    Settled reads ports (.rescheduleTicket input)
      (fun _ repo => (UseCase.rescheduleTicket input).run repo ports) := by
  have saves : (UseCase.rescheduleTicket input).Saves input.ticketId := .inl rfl
  have single := saves.single
  simp only [UseCase.run, rescheduleTicket, bind_assoc]
  refine Settled.loadAs single _ _ (fun loaded read owned => ?_)
  by_cases terminal : loaded.state.state.isTerminal
  · simp only [if_pos terminal]
    exact .fail single _
  have active : loaded.state.state.isActive := by simpa [TicketState.isActive] using terminal
  by_cases lane : loaded.state.lane ≠ .reservation
  · simp only [if_neg terminal, if_pos lane]
    exact .fail single _
  simp only [if_neg terminal, if_neg lane]
  cases booked : loaded.state.appointmentAt with
  | none => exact .fail single _
  | some appointmentAt =>
    by_cases past : input.newAppointmentAt.epochNs < (ports.nowInstant 0).epochNs
    · simp only [if_pos past]
      exact .fail single _
    by_cases sameTime : input.newAppointmentAt.epochNs = appointmentAt.epochNs
    · simp only [if_neg past, if_pos sameTime]
      exact .unsaved (.keep input loaded read active) rfl (fun _ _ _ _ => rfl)
    simp only [if_neg past, if_neg sameTime, bind_assoc]
    refine Settled.inspect single Reads.listAll (fun all listed => ?_)
    cases counted : occupancyExcludingSelf (.ofTickets all) loaded.state.id input.newSlot
        input.tz with
    | none => exact .fail single _
    | some occupancy =>
      by_cases full : input.capacity ≤ occupancy
      · simp only [if_pos full]
        exact .fail single _
      · simp only [if_neg full]
        cases applied : applyReschedule loaded.state input.newAppointmentAt (ports.nowInstant 1)
            (ports.newTicketEventId 0) input.actor with
        | none => exact .fail single _
        | some result =>
          have reserved : loaded.state.lane = .reservation := not_not.mp lane
          have move := Move.reschedule loaded.state active reserved _ _ _ _ _ applied
          have other : TicketEventType.rescheduled ≠ .checkedIn := by decide
          have elsewhere : ∀ source, loaded.state.appointmentAt = some source →
              input.newAppointmentAt.epochNs ≠ source.epochNs := by
            intro source same
            cases booked.symm.trans same
            exact sameTime
          have admitted : Admitted reads ports input loaded.state :=
            ⟨owned, active, reserved, past, elsewhere, all, occupancy, listed, counted, full⟩
          have applies := Applies.rescheduleTicket input loaded _ read admitted applied
          obtain ⟨source, _, rfl⟩ := applyReschedule_eq_some applied
          exact .persist saves read move rfl other applies

/-- An issue spelled out: merged, or numbered and stored. -/
theorem run_issueTicket {σ : Type} (repo : TicketRepository σ) (input : IssueTicketInput) (s : σ) :
    (UseCase.issueTicket input).run repo ports s =
      match repo.findActiveByHandle s input.handle with
      | .error e => (.error e, s)
      | .ok (some t) => (.ok (.ticket t), s)
      | .ok none => match repo.listAll s with
        | .error e => (.error e, s)
        | .ok all => (Decision.issue input (nextDisplaySeq (.ofTickets all))).execute repo ports s := by
  simp only [UseCase.run, issueTicket, bind_assoc, Effect.inspect_bind]
  cases repo.findActiveByHandle s input.handle with
  | error e => rfl
  | ok existing =>
    cases existing with
    | some t => rfl
    | none =>
      simp only [bind_assoc, Effect.inspect_bind]
      cases repo.listAll s <;> rfl

theorem settled_issueTicket (input : IssueTicketInput) :
    Settled reads ports (.issueTicket input)
      (fun _ repo => (UseCase.issueTicket input).run repo ports) := by
  have single : (UseCase.issueTicket input).single := nofun
  simp only [UseCase.run, issueTicket, bind_assoc]
  refine Settled.inspect single (fun r => r.findActiveByHandle input.handle)
    (fun existing found => ?_)
  cases existing with
  | some t => exact .unsaved (.merge input t found) rfl (fun _ _ _ _ => rfl)
  | none =>
    simp only [bind_assoc]
    refine Settled.inspect single Reads.listAll (fun all listed => ?_)
    exact .unsaved (.issue input all found listed) rfl (fun _ _ _ _ => rfl)

theorem buildMember_decided (actor : Actor) (index : Nat) (id : TicketId) :
    (∃ t revision, reads.load id = .ok ⟨⟨t, .waiting⟩, revision⟩ ∧
      ∀ (σ : Type) (repo : TicketRepository σ) (s : σ), repo.reads s = reads →
        buildMember repo ports actor index id s =
          (.ok (batchMember ports actor index t revision), s)) ∨
    (∃ e, ¬ reads.Waits id ∧
      ∀ (σ : Type) (repo : TicketRepository σ) (s : σ), repo.reads s = reads →
        buildMember repo ports actor index id s = (.error e, s)) := by
  cases read : reads.load id with
  | error e =>
    refine .inr ⟨retagNotFound .ticketNotFound e, ?_, fun σ repo s same => ?_⟩
    · rintro ⟨t, revision, h⟩
      rw [read] at h
      cases h
    · subst same
      exact Effect.bind_error (congrArg (fun r => (Except.mapError _ r, s)) read)
  | ok loaded =>
    obtain ⟨⟨t, variant⟩, revision⟩ := loaded
    have load_run : ∀ (σ : Type) (repo : TicketRepository σ) (s : σ), repo.reads s = reads →
        loadOrTicketNotFound repo id s = (.ok ⟨⟨t, variant⟩, revision⟩, s) := by
      intro σ repo s same
      subst same
      exact congrArg (fun r => (Except.mapError _ r, s)) read
    cases variant with
    | waiting =>
      exact .inl ⟨t, revision, rfl, fun σ repo s same => Effect.bind_ok (load_run σ repo s same)⟩
    | _ =>
      refine .inr ⟨_, ?_, fun σ repo s same => Effect.bind_ok (load_run σ repo s same)⟩
      rintro ⟨t, revision, h⟩
      rw [read] at h
      cases h

theorem buildMembers_decided (actor : Actor) (index : Nat) (ids : List TicketId) :
    (∃ members, BatchBuilt reads ports actor index ids members ∧
      ∀ (σ : Type) (repo : TicketRepository σ) (s : σ), repo.reads s = reads →
        buildMembers repo ports actor index ids s = (.ok members, s)) ∨
    (∃ e, (∃ id ∈ ids, ¬ reads.Waits id) ∧
      ∀ (σ : Type) (repo : TicketRepository σ) (s : σ), repo.reads s = reads →
        buildMembers repo ports actor index ids s = (.error e, s)) := by
  induction ids generalizing index with
  | nil => exact .inl ⟨[], .nil index, fun _ _ _ _ => rfl⟩
  | cons id ids ih =>
    rcases buildMember_decided actor index id with ⟨t, revision, read, one⟩ | ⟨e, absent, one⟩
    · rcases ih (index + 1) with ⟨members, built, rest⟩ | ⟨e, ⟨other, mem, absent⟩, rest⟩
      · refine .inl ⟨_, .cons read built, fun σ repo s same => ?_⟩
        exact (Effect.bind_ok (one σ repo s same)).trans (Effect.bind_ok (rest σ repo s same))
      · refine .inr ⟨e, ⟨other, List.mem_cons_of_mem id mem, absent⟩, fun σ repo s same => ?_⟩
        exact (Effect.bind_ok (one σ repo s same)).trans (Effect.bind_error (rest σ repo s same))
    · exact .inr ⟨e, ⟨id, List.mem_cons_self, absent⟩,
        fun σ repo s same => Effect.bind_error (one σ repo s same)⟩

theorem settled_callBatch (firstId : TicketId) (restIds : List TicketId) (actor : Actor) :
    Settled reads ports (.callBatch firstId restIds actor)
      (fun _ repo => (UseCase.callBatch firstId restIds actor).run repo ports) := by
  simp only [UseCase.run, callBatch, bind_assoc]
  rcases buildMembers_decided actor 0 (firstId :: restIds) with
    ⟨members, built, runs⟩ | ⟨e, absent, runs⟩
  · refine .unsaved (.saveBatch firstId restIds actor members built) rfl ?_
    exact fun σ repo s same => Effect.bind_ok (runs σ repo s same)
  · refine .unsaved (.refuse _ e ?_) rfl ?_
    · rintro first rest actor ⟨⟩
      exact absent
    · exact fun σ repo s same => Effect.bind_error (runs σ repo s same)

theorem settled (c : UseCase) : Settled reads ports c (fun _ repo => c.run repo ports) := by
  cases c with
  | issueTicket input => exact settled_issueTicket input
  | callNext lane actor => exact settled_callNext lane actor
  | callSpecific id actor => exact settled_callSpecific id actor
  | callBatch firstId restIds actor => exact settled_callBatch firstId restIds actor
  | markServed id => exact settled_markServed id
  | markNoShow id actor => exact settled_markNoShow id actor
  | «recall» id actor => exact settled_recall id actor
  | cancelTicket id actor reason handle => exact settled_cancelTicket id actor reason handle
  | moveToOverdue id => exact settled_moveToOverdue id
  | nudge id channel => exact settled_nudge id channel
  | checkIn id => exact settled_checkIn id
  | lapseAppointment id => exact settled_lapseAppointment id
  | rescheduleTicket input => exact settled_rescheduleTicket input

/-- Every call comes to a decision, and running it is executing that decision. -/
theorem decided (c : UseCase) : Decided reads ports c (fun _ repo => c.run repo ports) :=
  (settled c).decided

end

end SlotBooking
