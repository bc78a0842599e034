import SlotBooking.Domain.CanonicalText
import SlotBooking.Domain.Positions
import SlotBooking.Library.Trace
import SlotBooking.Runs.Commands
import SlotBooking.Runs.Numbers
import SlotBooking.Runs.SlotCounts

/-! A ticket between its call and its recall. Calls, moves to Overdue and nudges change nothing
but the variant, so that the recall brings the ticket back as it was, to the place it had; but
for texts which a snapshot taken in between gives back changed. -/
namespace SlotBooking

/-- A command which takes tickets out of the line, and may take this one. -/
inductive UseCase.Calls (id : TicketId) : UseCase → Prop where
  | callNext (lane : Option Lane) (actor : Actor) : Calls id (.callNext lane actor)
  | callSpecific (actor : Actor) : Calls id (.callSpecific id actor)
  | callBatch (firstId : TicketId) (restIds : List TicketId) (actor : Actor)
      (mem : id ∈ firstId :: restIds) : Calls id (.callBatch firstId restIds actor)

/-- What may come between: commands on other tickets, moves to Overdue and nudges. -/
inductive UseCase.Meanwhile (id : TicketId) : UseCase → Prop where
  | others (c : UseCase) (target : c.target ≠ some id)
      (batch : ∀ firstId restIds actor, c = .callBatch firstId restIds actor →
        id ∉ firstId :: restIds) : Meanwhile id c
  | moveToOverdue : Meanwhile id (.moveToOverdue id)
  | nudge (channel : Channel) : Meanwhile id (.nudge id channel)

/-- A command which, of this ticket, changes the variant at most. -/
def UseCase.KeepsCommon (id : TicketId) (c : UseCase) : Prop :=
  c.target = some id → (∃ actor, c = .callSpecific id actor) ∨ c = .moveToOverdue id ∨
    ∃ channel, c = .nudge id channel

theorem UseCase.Calls.keepsCommon {id : TicketId} {c : UseCase} (calls : c.Calls id) :
    c.KeepsCommon id := by
  cases calls with
  | callSpecific actor => exact fun _ => .inl ⟨actor, rfl⟩
  | callNext | callBatch => exact fun target => by cases target

theorem UseCase.Meanwhile.keepsCommon {id : TicketId} {c : UseCase} (between : c.Meanwhile id) :
    c.KeepsCommon id := by
  cases between with
  | others _ other => exact fun target => absurd target other
  | moveToOverdue => exact fun _ => .inr (.inl rfl)
  | nudge channel => exact fun _ => .inr (.inr ⟨channel, rfl⟩)

/-- The next write of the ticket takes no snapshot, or its texts come back as they are. -/
def RereadsNext (u : Unicode) (interval : Nat) (id : TicketId) (s : DurableStore) : Prop :=
  ∀ loaded, Durable.load u s id = .ok loaded →
    (loaded.revision + 1) % interval ≠ 0 ∨ Canonical u loaded.state.toCustomerFields

instance (u : Unicode) (interval : Nat) (id : TicketId) (s : DurableStore) :
    Decidable (RereadsNext u interval id s) :=
  match found : Durable.load u s id with
  | .error e => isTrue (fun loaded read => by cases found.symm.trans read)
  | .ok loaded => decidable_of_iff
      ((loaded.revision + 1) % interval ≠ 0 ∨ Canonical u loaded.state.toCustomerFields)
      ⟨fun rereads _ read => by cases found.symm.trans read; exact rereads,
        fun rereads => rereads loaded found⟩

/-- Loads as a ticket with these fields, whatever its variant. -/
def DurableStore.Holds (u : Unicode) (s : DurableStore) (t : TicketCommon) : Prop :=
  ∃ variant revision, Durable.load u s t.id = .ok ⟨⟨t, variant⟩, revision⟩

/-- In one lane, and first. -/
def Ticket.Precedes (a b : Ticket) : Prop := a.lane = b.lane ∧ a.displaySeq < b.displaySeq

section
variable {u : Unicode} {interval : Nat} {s s' : DurableStore} {t : TicketCommon}
  {loaded : LoadedAggregate} {result : ApplyResult} {ports : Ports} {c : UseCase}

theorem Applies.keepsCommon {reads : Reads}
    (ids : ∀ id found, reads.load id = .ok found → found.state.id = id)
    (keeps : c.KeepsCommon loaded.state.id) (applies : Applies reads ports c loaded result) :
    result.ticket.toTicketCommon = loaded.state.toTicketCommon ∧
      result.event.type ≠ .checkedIn := by
  have named : ∀ {id}, reads.load id = .ok loaded → c.target = some id →
      c.target = some loaded.state.id := fun read target => ids _ _ read ▸ target
  cases applies with
  | callNext | callSpecific | moveToOverdue | nudge => exact ⟨rfl, nofun⟩
  | markServed _ _ _ _ _ _ read => simpa using keeps (named read rfl)
  | markNoShow _ _ _ _ _ _ _ read => simpa using keeps (named read rfl)
  | «recall» _ _ _ _ _ _ _ read => simpa using keeps (named read rfl)
  | cancelTicket _ _ _ _ _ _ _ _ read => simpa using keeps (named read rfl)
  | checkIn _ _ _ read => simpa using keeps (named read rfl)
  | lapseAppointment _ _ _ _ _ read => simpa using keeps (named read rfl)
  | rescheduleTicket _ _ _ read => simpa using keeps (named read rfl)

theorem Moved.rereads (moved : Moved u interval s s' loaded result) (kept : s.Kept)
    (other : result.event.type ≠ .checkedIn) (rereads : RereadsNext u interval loaded.state.id s) :
    Durable.load u s' loaded.state.id = .ok ⟨result.ticket, loaded.revision + 1⟩ := by
  apply (moved.load_iff kept (moved.move.evolve_eq (fun same => absurd same other))).mpr
  exact fun due => (rereads loaded moved.read).resolve_left (not_not.mpr due)

theorem Moved.load_other (moved : Moved u interval s s' loaded result) (kept : s.Kept)
    {id : TicketId} (different : id ≠ loaded.state.id) :
    Durable.load u s' id = Durable.load u s id :=
  load_congr kept.tidy (moved.kept kept).tidy (moved.untouched kept different).aggregate

/-- A batch leaves a ticket as it is or calls it, once. -/
theorem calledBy_holds {actor : Actor} {ids : List TicketId} (kept : s.Kept)
    (rereads : RereadsNext u interval t.id s) (holds : s.Holds u t)
    (steps : Relation.ReflTransGen (CalledBy u interval ports actor ids) s s') :
    s'.Holds u t := by
  obtain ⟨variant, revision, read⟩ := holds
  have both : s'.Kept ∧ (Durable.load u s' t.id = .ok ⟨⟨t, variant⟩, revision⟩ ∨
      ∃ stamp revision', Durable.load u s' t.id = .ok ⟨⟨t, .called stamp⟩, revision'⟩) := by
    induction steps with
    | refl => exact ⟨kept, .inl read⟩
    | @tail m s' _ step ih =>
      obtain ⟨keptBefore, before⟩ := ih
      obtain ⟨q, expected, index, _, moved⟩ := step
      refine ⟨moved.kept keptBefore, ?_⟩
      by_cases own : q.id = t.id
      · have here : Durable.load u m t.id = .ok ⟨⟨q, .waiting⟩, expected⟩ := own ▸ moved.read
        rcases before with same | ⟨stamp, revision', called⟩
        · cases same.symm.trans here
          refine .inr ⟨_, _, moved.rereads keptBefore nofun ?_⟩
          intro loaded found
          cases here.symm.trans found
          exact rereads _ read
        · cases called.symm.trans here
      · rwa [moved.load_other keptBefore (Ne.symm own)]
  rcases both.2 with same | ⟨stamp, revision', called⟩
  · exact ⟨variant, revision, same⟩
  · exact ⟨.called stamp, revision', called⟩

theorem call_holds (kept : s.Kept) (ports : Ports) (keeps : c.KeepsCommon t.id)
    (rereads : RereadsNext u interval t.id s) (holds : s.Holds u t) :
    (c.run (Durable.repository u interval) ports s).2.Holds u t := by
  have commit := @call_commit u interval s kept ports c
  generalize (c.run (Durable.repository u interval) ports s).2 = s' at commit
  obtain ⟨variant, revision, read⟩ := holds
  cases commit with
  | unchanged => exact ⟨variant, revision, read⟩
  | issued input all _ issued =>
    have different : t.id ≠ ports.newTicketId := by
      intro same
      obtain ⟨row, found, _⟩ := kept.row_of_load read
      rw [same, (issued.absent kept).2] at found
      cases found
    refine ⟨variant, revision, ?_⟩
    rw [load_congr kept.tidy (issued.kept kept).tidy (issued.untouched kept different).aggregate]
    exact read
  | moved _ loaded result _ applies moved =>
    by_cases own : loaded.state.id = t.id
    · cases (own ▸ moved.read).symm.trans read
      obtain ⟨common, other⟩ :=
        applies.keepsCommon (fun id found => load_id kept.tidy (kept.outlined id)) keeps
      have next := moved.rereads kept other rereads
      obtain ⟨⟨t', variant'⟩, event⟩ := result
      cases common
      exact ⟨variant', revision + 1, next⟩
    · exact ⟨variant, revision, (moved.load_other kept (Ne.symm own)).trans read⟩
  | called firstId restIds actor _ waits steps =>
    exact calledBy_holds kept rereads ⟨variant, revision, read⟩ steps

theorem run_holds (kept : s.Kept) {calls : List (Ports × UseCase)}
    (keeps : ∀ call ∈ calls, call.2.KeepsCommon t.id)
    (rereads : Trace.Throughout (fun s call => (call.2.run (Durable.repository u interval) call.1 s).2)
      (fun s _ => RereadsNext u interval t.id s) calls s) (holds : s.Holds u t) :
    (runCalls (Durable.repository u interval) calls s).Holds u t := by
  induction calls generalizing s with
  | nil => exact holds
  | cons call calls ih =>
    obtain ⟨here, later⟩ := List.forall_mem_cons.mp keeps
    have next := (@call_outcome u interval s kept call.1 call.2).kept kept
    exact ih next later rereads.2 (call_holds kept call.1 here rereads.1 holds)

theorem moved_of_execute (kept : s.Kept) {reply reply' : Reply}
    (read : Durable.load u s loaded.state.id = .ok loaded) (move : Move loaded.state result)
    (ran : ((Decision.save loaded result reply).execute (Durable.repository u interval) ports s).1 =
      .ok reply') : Moved u interval s
        ((Decision.save loaded result reply).execute (Durable.repository u interval) ports s).2
        loaded result := by
  rcases @save_outcome u interval s kept loaded result read move with
    ⟨s', done, moved⟩ | ⟨⟨e, failed⟩, _⟩
  · have saved : (Decision.save loaded result reply).execute (Durable.repository u interval) ports
        s = (.ok reply, s') := Effect.bind_ok done
    rw [saved]
    exact moved
  · have refused : (Decision.save loaded result reply).execute (Durable.repository u interval) ports
        s = (.error e, s) := Effect.bind_error failed
    rw [refused] at ran
    cases ran

/-- A recall which goes through saves the ticket it loaded, back in the line. -/
theorem recall_ok (kept : s.Kept) {id : TicketId} {actor : Actor} {reply : Reply}
    (ran : ((UseCase.recall id actor).run (Durable.repository u interval) ports s).1 = .ok reply) :
    ∃ t variant revision, t.id = id ∧ Moved u interval s
      ((UseCase.recall id actor).run (Durable.repository u interval) ports s).2
      ⟨⟨t, variant⟩, revision⟩
      (applyRecall t (ports.nowInstant 0) (ports.newTicketEventId 0) actor) := by
  obtain ⟨d, decides, applies, runs⟩ :=
    @settled ((Durable.repository u interval).reads s) ports (.recall id actor)
  have executes := runs DurableStore (Durable.repository u interval) s rfl
  simp only at executes
  rw [executes] at ran ⊢
  cases decides with
  | refuse => cases ran
  | save _ other saves loaded result found move minted unlike =>
    cases applies _ _ _ rfl with
    | «recall» _ _ t variant stamp revision serving read =>
      have own : t.id = id := load_id kept.tidy (kept.outlined id) read
      exact ⟨t, variant, revision, own, moved_of_execute kept (kept.load_self read) move ran⟩

/-! ### Places -/

/-- The lane and the number of a row stay as they are. -/
theorem place_steps (steps : Steps u interval s s') (kept : s.Kept) {id : TicketId} {r : TicketRow}
    (row : s.row id = some r) : ∃ r', s'.row id = some r' ∧
      r'.payload.json.lane = r.payload.json.lane ∧
      r'.payload.json.displaySeq = r.payload.json.displaySeq := by
  refine (Steps.invariant (P := fun s' => ∃ r', s'.row id = some r' ∧
    r'.payload.json.lane = r.payload.json.lane ∧
    r'.payload.json.displaySeq = r.payload.json.displaySeq) steps kept ⟨r, row, rfl, rfl⟩ ?_ ?_).2
  · rintro m m' ports input all keptBefore ⟨r', before, same⟩ issued
    have different : id ≠ ports.newTicketId := by
      intro taken
      rw [taken, (issued.absent keptBefore).2] at before
      cases before
    exact ⟨r', (issued.untouched keptBefore different).row.trans before, same⟩
  · rintro m m' loaded result keptBefore ⟨r', before, lane, displaySeq⟩ moved
    by_cases own : loaded.state.id = id
    · obtain ⟨next, after, payload⟩ := moved.payload keptBefore
      obtain ⟨row', found, outline, _⟩ := keptBefore.row_of_load moved.read
      rw [own] at after found
      cases before.symm.trans found
      have core := moved.move.sameCore
      have sameLane : r'.payload.json.lane = loaded.state.lane :=
        congrArg (fun t => t.lane) outline
      have sameSeq : r'.payload.json.displaySeq = loaded.state.displaySeq :=
        congrArg (fun t => t.displaySeq) outline
      refine ⟨next, after, ?_, ?_⟩
      · rw [payload, core.lane, ← sameLane, lane]
      · rw [payload, core.displaySeq, ← sameSeq, displaySeq]
    · exact ⟨r', (moved.untouched keptBefore (Ne.symm own)).row.trans before, lane, displaySeq⟩

theorem Ticket.place_of_outline {t q : Ticket} (same : t.outline = q.outline) :
    t.lane = q.lane ∧ t.displaySeq = q.displaySeq :=
  ⟨congrArg (fun t => t.lane) same, congrArg (fun t => t.displaySeq) same⟩

/-- What reads as the row of a ticket before and after a run has one lane and one number. -/
theorem outline_place (steps : Steps u interval s s') (kept : s.Kept) {id : TicketId}
    {r r' : TicketRow} (row : s.row id = some r) (row' : s'.row id = some r') {t t' : Ticket}
    (outline : t.outline = r.payload.json.outline)
    (outline' : t'.outline = r'.payload.json.outline) :
    t'.lane = t.lane ∧ t'.displaySeq = t.displaySeq := by
  obtain ⟨next, later, lane, displaySeq⟩ := place_steps steps kept row
  cases row'.symm.trans later
  have before := Ticket.place_of_outline outline
  have after := Ticket.place_of_outline outline'
  exact ⟨after.1.trans (lane.trans before.1.symm), after.2.trans (displaySeq.trans before.2.symm)⟩

theorem load_place (steps : Steps u interval s s') (kept : s.Kept) {id : TicketId}
    {before after : LoadedAggregate} (read : Durable.load u s id = .ok before)
    (read' : Durable.load u s' id = .ok after) :
    after.state.lane = before.state.lane ∧ after.state.displaySeq = before.state.displaySeq := by
  obtain ⟨r, row, outline, _⟩ := kept.row_of_load read
  obtain ⟨r', row', outline', _⟩ := (steps.kept kept).row_of_load read'
  exact outline_place steps kept row row' outline.symm outline'.symm

theorem listed_place (steps : Steps u interval s s') (kept : s.Kept) {all all' : List Ticket}
    (listed : Durable.listAll u s = .ok all) (listed' : Durable.listAll u s' = .ok all')
    {id : TicketId} {t t' : Ticket} (found : (QueueSnapshot.ofTickets all).get id = some t)
    (found' : (QueueSnapshot.ofTickets all').get id = some t') :
    t'.lane = t.lane ∧ t'.displaySeq = t.displaySeq := by
  rw [get_listed kept.tidy listed] at found
  rw [get_listed (steps.kept kept).tidy listed'] at found'
  obtain ⟨r, row, read⟩ := Option.bind_eq_some_iff.mp found
  obtain ⟨r', row', read'⟩ := Option.bind_eq_some_iff.mp found'
  exact outline_place steps kept row row' (decodeTicketRowPayload_valid read).1
    (decodeTicketRowPayload_valid read').1

theorem waiting_numbers (kept : s.Kept) (numbered : s.Numbered) {all : List Ticket}
    (listed : Durable.listAll u s = .ok all) :
    ((QueueSnapshot.ofTickets all).waiting.map (fun t => t.displaySeq)).Nodup := by
  apply waiting_distinct
  rw [values_ofTickets (listed_ids_nodup kept.tidy listed), numbered.displayed listed]
  exact List.nodup_range'

/-- A ticket in its recall: what the run before it has kept comes back waiting. -/
theorem recall_restored (kept : s.Kept) {actor : Actor} {reply : Reply} (holds : s.Holds u t)
    (rereads : RereadsNext u interval t.id s)
    (ran : ((UseCase.recall t.id actor).run (Durable.repository u interval) ports s).1 =
      .ok reply) : ∃ revision, Durable.load u
        ((UseCase.recall t.id actor).run (Durable.repository u interval) ports s).2 t.id =
          .ok ⟨⟨t, .waiting⟩, revision⟩ := by
  obtain ⟨variant, revision, read⟩ := holds
  obtain ⟨q, variant', revision', own, moved⟩ := recall_ok kept ran
  have here : Durable.load u s t.id = .ok ⟨⟨q, variant'⟩, revision'⟩ := own ▸ moved.read
  cases read.symm.trans here
  exact ⟨revision + 1, moved.rereads kept nofun rereads⟩

end

/-- A ticket which waits, and commands of which the first may call it, those between are on other
tickets, move it to Overdue or nudge it, and the last is its recall and goes through: it is loaded
as before in every field, if each command finds the ticket so that its next write rereads; and
of any two tickets that wait before and after, it or the other stands first as before. -/
theorem recall_restores_place (u : Unicode) (interval : Nat) (calls : List (Ports × UseCase)) :
    let repo := Durable.repository u interval
    let s := runCalls repo calls .empty
    ∀ id loaded, Durable.load u s id = .ok loaded → loaded.state.state = .waiting →
    ∀ first middle last actor reply, first.2.Calls id → (∀ call ∈ middle, call.2.Meanwhile id) →
      last.2 = .recall id actor →
      (last.2.run repo last.1 (runCalls repo (first :: middle) s)).1 = .ok reply →
      let s' := runCalls repo (first :: middle ++ [last]) s
      (Trace.Throughout (fun s call => (call.2.run repo call.1 s).2)
          (fun s _ => RereadsNext u interval id s) (first :: middle ++ [last]) s →
        ∃ revision, Durable.load u s' id = .ok ⟨loaded.state, revision⟩) ∧
      ∀ other, other ≠ id →
        (∀ after before' after', Durable.load u s' id = .ok after →
          Durable.load u s other = .ok before' → Durable.load u s' other = .ok after' →
          (loaded.state.Precedes before'.state ↔ after.state.Precedes after'.state) ∧
            (before'.state.Precedes loaded.state ↔ after'.state.Precedes after.state)) ∧
        ∀ all all', Durable.listAll u s = .ok all → Durable.listAll u s' = .ok all' →
          KeepsTurn (.ofTickets all) (.ofTickets all') id other := by
  intro repo s id loaded read waits first middle last actor reply called between recalls ran s'
  have kept := @kept_run u interval .empty DurableStore.kept_empty calls
  have numbered := (numbered_steps (@run_steps u interval .empty DurableStore.kept_empty calls)
    DurableStore.kept_empty rfl).2
  have steps := @run_steps u interval s kept (first :: middle ++ [last])
  have ends : s' = (last.2.run repo last.1 (runCalls repo (first :: middle) s)).2 :=
    List.foldl_append
  obtain ⟨⟨t, variant⟩, revision⟩ := loaded
  obtain rfl : t.id = id := load_id kept.tidy (kept.outlined id) read
  obtain rfl : variant = .waiting := by
    cases variant with
    | waiting => rfl
    | _ => cases waits
  constructor
  · intro rereads
    obtain ⟨before, here, _⟩ := Trace.throughout_append.mp rereads
    have keeps : ∀ call ∈ first :: middle, call.2.KeepsCommon t.id :=
      List.forall_mem_cons.mpr
        ⟨called.keepsCommon, fun call mem => (between call mem).keepsCommon⟩
    have holds := run_holds kept keeps before ⟨.waiting, revision, read⟩
    rw [ends, recalls]
    rw [recalls] at ran
    exact recall_restored (kept_run kept (first :: middle)) holds here ran
  · intro other different
    constructor
    · intro after before' after' later read' later'
      obtain ⟨lane, number⟩ := load_place steps kept read later
      obtain ⟨lane', number'⟩ := load_place steps kept read' later'
      simp only [Ticket.Precedes, lane, number, lane', number', and_self]
    · intro all all' listed listed'
      obtain ⟨kept', numbered'⟩ := numbered_steps steps kept numbered
      exact keepsTurn_of_places (keyed_listed kept.tidy listed) (keyed_listed kept'.tidy listed')
        (waiting_numbers kept numbered listed) (waiting_numbers kept' numbered' listed')
        (fun _ _ _ found later => listed_place steps kept listed listed' found later) different

/-! ### A note in the way of a snapshot -/

section
variable {u : Unicode} {interval : Nat} {s : DurableStore} {t : TicketCommon} {stamp : CallStamp}
  {overdue : OverdueStamp} {revision : Nat} {ports : Ports}

theorem nudge_overdue (kept : s.Kept) (channel : Channel)
    (read : Durable.load u s t.id = .ok ⟨⟨t, .overdue stamp overdue⟩, revision⟩)
    (fresh : ports.newTicketEventId 0 ∉ s.ticketEvents.map EventRow.id) :
    (∃ reply, ((UseCase.nudge t.id channel).run (Durable.repository u interval) ports s).1 =
        .ok reply) ∧
      Moved u interval s
        ((UseCase.nudge t.id channel).run (Durable.repository u interval) ports s).2
        ⟨⟨t, .overdue stamp overdue⟩, revision⟩ (applyNudge t stamp overdue (ports.nowInstant 0)
          (ports.newTicketEventId 0) channel .system) := by
  have found : loadOrTicketNotFound (Durable.repository u interval) t.id s =
      (.ok ⟨⟨t, .overdue stamp overdue⟩, revision⟩, s) := loadOr_ok read
  obtain ⟨s', done, moved⟩ := @save_fresh u interval s kept ⟨⟨t, .overdue stamp overdue⟩, revision⟩
    _ read (.nudge t stamp overdue (ports.nowInstant 0) (ports.newTicketEventId 0) channel .system)
    fresh
  have ran : nudge (Durable.repository u interval) ports t.id channel s = (.ok _, s') :=
    (Effect.bind_ok found).trans (Effect.bind_ok done)
  have ended : (UseCase.nudge t.id channel).run (Durable.repository u interval) ports s =
      (.ok _, s') := Effect.bind_ok ran
  rw [ended]
  exact ⟨⟨_, rfl⟩, moved⟩

theorem recall_overdue (kept : s.Kept) (actor : Actor)
    (read : Durable.load u s t.id = .ok ⟨⟨t, .overdue stamp overdue⟩, revision⟩)
    (fresh : ports.newTicketEventId 0 ∉ s.ticketEvents.map EventRow.id) :
    (∃ reply, ((UseCase.recall t.id actor).run (Durable.repository u interval) ports s).1 =
        .ok reply) ∧
      Moved u interval s
        ((UseCase.recall t.id actor).run (Durable.repository u interval) ports s).2
        ⟨⟨t, .overdue stamp overdue⟩, revision⟩ (applyRecall t (ports.nowInstant 0)
          (ports.newTicketEventId 0) actor) := by
  have found : loadOrTicketNotFound (Durable.repository u interval) t.id s =
      (.ok ⟨⟨t, .overdue stamp overdue⟩, revision⟩, s) := loadOr_ok read
  obtain ⟨s', done, moved⟩ := @save_fresh u interval s kept ⟨⟨t, .overdue stamp overdue⟩, revision⟩
    _ read (.recall t _ stamp (.inr ⟨overdue, rfl⟩) (ports.nowInstant 0) (ports.newTicketEventId 0)
      actor) fresh
  have ran : «recall» (Durable.repository u interval) ports t.id actor s = (.ok _, s') :=
    (Effect.bind_ok found).trans (Effect.bind_ok done)
  have ended : (UseCase.recall t.id actor).run (Durable.repository u interval) ports s =
      (.ok _, s') := Effect.bind_ok ran
  rw [ended]
  exact ⟨⟨_, rfl⟩, moved⟩

end

namespace Sample

def voicingRepository : TicketRepository DurableStore :=
  Durable.repository voicing Durable.snapshotInterval

def noted : IssueTicketInput := { reservation with freeText := splitByNul.freeText }

def notedOnce : List (Ports × UseCase) := [(ports 1, .issueTicket noted)]

def noteStore : DurableStore := runCalls voicingRepository notedOnce .empty

/-- The ticket as it is loaded before, without the NUL. -/
def note : TicketCommon :=
  { (applyIssue (noted.args (ports 1) 1 1)).ticket.toTicketCommon with
    freeText := readOnce.freeText }

def noteCall : Ports × UseCase := (ports 2, .callSpecific ⟨1⟩ .staff)

def noteOverdue : Ports × UseCase := (ports 3, .moveToOverdue ⟨1⟩)

def noteNudges (k : Nat) : List (Ports × UseCase) :=
  (List.range k).map (fun i => (ports (i + 4), .nudge ⟨1⟩ .ws))

def noteRecall : Ports × UseCase := (ports 201, .recall ⟨1⟩ .staff)

def noteOverdueStore : DurableStore := runCalls voicingRepository [noteCall, noteOverdue] noteStore

/-- Overdue and nudged so often; the note still reads as before. -/
structure Nudged (k : Nat) (s : DurableStore) : Prop where
  kept : s.Kept
  read : ∃ stamp overdue, Durable.load voicing s ⟨1⟩ = .ok ⟨⟨note, .overdue stamp overdue⟩, k + 3⟩
  used : ∀ id ∈ s.ticketEvents.map EventRow.id, id.suffix ≤ k + 3

theorem nudged_none : Nudged 0 noteOverdueStore where
  kept := kept_run (kept_run DurableStore.kept_empty notedOnce) _
  read := ⟨⟨instant 20, .staff⟩, ⟨instant 30, none, 0⟩, by decide +kernel⟩
  used := by decide +kernel

theorem used_next {s s' : DurableStore} {loaded : LoadedAggregate} {result : ApplyResult} {n : Nat}
    (moved : Moved voicing Durable.snapshotInterval s s' loaded result)
    (used : ∀ id ∈ s.ticketEvents.map EventRow.id, id.suffix ≤ n)
    (new : result.event.id.suffix ≤ n) :
    ∀ id ∈ s'.ticketEvents.map EventRow.id, id.suffix ≤ n := by
  intro id mem
  rw [moved.store, DurableStore.commit_ticketEvents, List.map_append, eventRows_id,
    List.mem_append, List.map_singleton, List.mem_singleton] at mem
  rcases mem with before | rfl
  · exact used id before
  · exact new

theorem Nudged.fresh {k : Nat} {s : DurableStore} (nudged : Nudged k s) {n : Nat} (new : k + 3 < n) :
    (ports n).newTicketEventId 0 ∉ s.ticketEvents.map EventRow.id := by
  intro mem
  have used := nudged.used _ mem
  simp only [ports] at used
  omega

theorem Nudged.next {k : Nat} {s : DurableStore} (nudged : Nudged k s) (early : k < 196) :
    (∃ reply, ((UseCase.nudge ⟨1⟩ .ws).run voicingRepository (ports (k + 4)) s).1 = .ok reply) ∧
      Nudged (k + 1) ((UseCase.nudge ⟨1⟩ .ws).run voicingRepository (ports (k + 4)) s).2 := by
  obtain ⟨stamp, overdue, read⟩ := nudged.read
  obtain ⟨replied, moved⟩ := @nudge_overdue voicing Durable.snapshotInterval s note stamp overdue
    (k + 3) (ports (k + 4)) nudged.kept .ws read (nudged.fresh (by omega))
  have rereads : RereadsNext voicing Durable.snapshotInterval note.id s := by
    intro loaded found
    cases read.symm.trans found
    simp only [Durable.snapshotInterval]
    omega
  refine ⟨replied, moved.kept nudged.kept, ⟨stamp, _, moved.rereads nudged.kept nofun rereads⟩, ?_⟩
  exact used_next moved (fun id mem => Nat.le_succ_of_le (nudged.used id mem)) (by
    simp [applyNudge, baseEvent, ports])

def Succeed (calls : List (Ports × UseCase)) (s : DurableStore) : Prop :=
  Trace.Throughout (fun s call => (call.2.run voicingRepository call.1 s).2)
    (fun s call => ∃ reply, (call.2.run voicingRepository call.1 s).1 = .ok reply) calls s

theorem nudged_all {k : Nat} (early : k ≤ 196) :
    Succeed (noteNudges k) noteOverdueStore ∧
      Nudged k (runCalls voicingRepository (noteNudges k) noteOverdueStore) := by
  induction k with
  | zero =>
    simp only [noteNudges, List.range_zero, List.map_nil, runCalls, List.foldl_nil]
    exact ⟨trivial, nudged_none⟩
  | succ k ih =>
    obtain ⟨succeeded, nudged⟩ := ih (by omega)
    obtain ⟨replied, next⟩ := nudged.next (by omega)
    have more : noteNudges (k + 1) = noteNudges k ++ [(ports (k + 4), .nudge ⟨1⟩ .ws)] := by
      simp [noteNudges, List.range_succ]
    rw [more, Succeed, Trace.throughout_append, runCalls, List.foldl_append]
    exact ⟨⟨succeeded, replied, trivial⟩, next⟩

def composedNote : TicketCommon := { note with freeText := some [0x304c] }

theorem note_decoded : decodeFields voicing note.toCustomerFields =
    some composedNote.toCustomerFields := by decide

theorem composed_recalled {s : DurableStore} (kept : s.Kept) {stamp : CallStamp}
    {overdue : OverdueStamp}
    (read : Durable.load voicing s ⟨1⟩ = .ok ⟨⟨composedNote, .overdue stamp overdue⟩, 200⟩)
    (used : ∀ id ∈ s.ticketEvents.map EventRow.id, id.suffix ≤ 200) :
    Succeed [noteRecall] s ∧ Durable.load voicing (runCalls voicingRepository [noteRecall] s) ⟨1⟩ =
      .ok ⟨⟨composedNote, .waiting⟩, 201⟩ := by
  have fresh : (ports 201).newTicketEventId 0 ∉ s.ticketEvents.map EventRow.id := by
    intro mem
    have old := used _ mem
    simp only [ports] at old
    omega
  obtain ⟨replied, moved⟩ := @recall_overdue voicing Durable.snapshotInterval s composedNote stamp
    overdue 200 (ports 201) kept .staff read fresh
  have rereads : RereadsNext voicing Durable.snapshotInterval composedNote.id s := by
    intro loaded found
    cases read.symm.trans found
    have between : (200 + 1) % Durable.snapshotInterval ≠ 0 := by decide
    exact .inl between
  exact ⟨⟨replied, trivial⟩, moved.rereads kept (fun same => by cases same) rereads⟩

/-- The last nudge writes revision 200, of which a snapshot is taken, and the recall follows. -/
theorem Nudged.composed {s : DurableStore} (nudged : Nudged 196 s) :
    Succeed [(ports 200, .nudge ⟨1⟩ .ws), noteRecall] s ∧
      Durable.load voicing (runCalls voicingRepository [(ports 200, .nudge ⟨1⟩ .ws), noteRecall] s)
        ⟨1⟩ = .ok ⟨⟨composedNote, .waiting⟩, 201⟩ := by
  obtain ⟨stamp, overdue, read⟩ := nudged.read
  obtain ⟨replied, moved⟩ := @nudge_overdue voicing Durable.snapshotInterval s note stamp overdue
    199 (ports 200) nudged.kept .ws read (nudged.fresh (by omega))
  have due : (199 + 1) % Durable.snapshotInterval = 0 := by decide
  have reread := moved.load_due nudged.kept due
    (decodeTicketRowPayload_eq_some.mpr ⟨_, note_decoded, rfl⟩)
  have used := used_next moved (n := 200) (fun id mem => Nat.le_succ_of_le (nudged.used id mem))
    (by simp [applyNudge, baseEvent, ports])
  obtain ⟨succeeded, recalled⟩ := composed_recalled (moved.kept nudged.kept) reread used
  exact ⟨⟨replied, succeeded⟩, recalled⟩

end Sample

/-- A ticket with a note that takes two passes, called, nudged until revision 200 and recalled. -/
theorem recalled_note_composed :
    let middle := Sample.noteOverdue :: Sample.noteNudges 196 ++ [(Sample.ports 200, .nudge ⟨1⟩ .ws)]
    Durable.load Sample.voicing Sample.noteStore ⟨1⟩ = .ok ⟨⟨Sample.note, .waiting⟩, 1⟩ ∧
      Sample.noteCall.2.Calls ⟨1⟩ ∧ (∀ call ∈ middle, call.2.Meanwhile ⟨1⟩) ∧
      Sample.Succeed (Sample.noteCall :: middle ++ [Sample.noteRecall]) Sample.noteStore ∧
      Durable.load Sample.voicing (runCalls Sample.voicingRepository
        (Sample.noteCall :: middle ++ [Sample.noteRecall]) Sample.noteStore) ⟨1⟩ =
          .ok ⟨⟨{ Sample.note with freeText := some [0x304c] }, .waiting⟩, 201⟩ := by
  intro middle
  obtain ⟨nudgedOk, nudged⟩ := @Sample.nudged_all 196 (by decide)
  obtain ⟨lastOk, composed⟩ := nudged.composed
  have order : Sample.noteCall :: middle ++ [Sample.noteRecall] =
      [Sample.noteCall, Sample.noteOverdue] ++
        (Sample.noteNudges 196 ++ [(Sample.ports 200, .nudge ⟨1⟩ .ws), Sample.noteRecall]) := by
    simp [middle]
  have between : ∀ call ∈ middle, call.2.Meanwhile ⟨1⟩ := by
    intro call mem
    simp only [middle, Sample.noteNudges, List.cons_append, List.mem_cons, List.mem_append,
      List.mem_map, List.not_mem_nil, or_false] at mem
    rcases mem with rfl | ⟨i, _, rfl⟩ | rfl
    · exact .moveToOverdue
    · exact .nudge .ws
    · exact .nudge .ws
  have before : Durable.load Sample.voicing Sample.noteStore ⟨1⟩ =
      .ok ⟨⟨Sample.note, .waiting⟩, 1⟩ := by decide +kernel
  have called : Sample.Succeed [Sample.noteCall, Sample.noteOverdue] Sample.noteStore :=
    ⟨⟨.ticket ⟨Sample.note, .called ⟨Sample.instant 20, .staff⟩⟩, by decide +kernel⟩,
      ⟨.ticket ⟨Sample.note, .overdue ⟨Sample.instant 20, .staff⟩ ⟨Sample.instant 30, none, 0⟩⟩,
        by decide +kernel⟩, trivial⟩
  refine ⟨before, .callSpecific .staff, between, ?_, ?_⟩
  · rw [order]
    exact Trace.throughout_append.mpr ⟨called, Trace.throughout_append.mpr ⟨nudgedOk, lastOk⟩⟩
  · rw [order, runCalls, List.foldl_append, List.foldl_append]
    exact composed

/-- A ticket without a note, called, moved to Overdue and recalled. -/
theorem recall_restores_place_sample : ∃ revision,
    Durable.load Sample.unicode (runCalls (Durable.repository Sample.unicode 200)
      [(Sample.ports 2, .callSpecific ⟨1⟩ .staff), (Sample.ports 3, .moveToOverdue ⟨1⟩),
        (Sample.ports 4, .recall ⟨1⟩ .staff)]
      (runCalls (Durable.repository Sample.unicode 200)
        [(Sample.ports 1, .issueTicket Sample.reservation)] .empty)) ⟨1⟩ =
      .ok ⟨Sample.issued.ticket, revision⟩ := by
  have restored := recall_restores_place Sample.unicode 200
    [(Sample.ports 1, .issueTicket Sample.reservation)] ⟨1⟩ ⟨Sample.issued.ticket, 1⟩
    (by decide +kernel) rfl (Sample.ports 2, .callSpecific ⟨1⟩ .staff)
    [(Sample.ports 3, .moveToOverdue ⟨1⟩)] (Sample.ports 4, .recall ⟨1⟩ .staff) .staff
    (.ticket Sample.issued.ticket) (.callSpecific .staff)
    (by simpa using UseCase.Meanwhile.moveToOverdue) rfl (by decide +kernel)
  exact restored.1 ⟨by decide +kernel, by decide +kernel, by decide +kernel, trivial⟩

end SlotBooking
