import SlotBooking.Runs.Steps

/-! What each command commits. An outcome says that a transition was saved; here it is also
said which one, with the clock readings and the checks of the use case. -/
namespace SlotBooking

section
variable {u : Unicode} {interval : Nat} {s s' : DurableStore}

variable (u interval) in
inductive Commit (ports : Ports) (s : DurableStore) : UseCase → DurableStore → Prop where
  | unchanged (c : UseCase) : Commit ports s c s
  | issued (input : IssueTicketInput) (all : List Ticket) (s' : DurableStore)
      (step : Issued u interval ports input s s' all) : Commit ports s (.issueTicket input) s'
  | moved (c : UseCase) (loaded : LoadedAggregate) (result : ApplyResult) (s' : DurableStore)
      (applies : Applies ((Durable.repository u interval).reads s) ports c loaded result)
      (step : Moved u interval s s' loaded result) : Commit ports s c s'
  | called (firstId : TicketId) (restIds : List TicketId) (actor : Actor) (s' : DurableStore)
      (waits : ∀ id ∈ firstId :: restIds, ((Durable.repository u interval).reads s).Waits id)
      (steps : Relation.ReflTransGen (CalledBy u interval ports actor (firstId :: restIds)) s s') :
      Commit ports s (.callBatch firstId restIds actor) s'

theorem Commit.of_eq {ports : Ports} {c : UseCase} {x y : Except QueueError Reply × DurableStore}
    (h : Commit u interval ports s c y.2) (run : x = y) : Commit u interval ports s c x.2 :=
  run ▸ h

theorem call_commit (kept : s.Kept) (ports : Ports) (c : UseCase) :
    Commit u interval ports s c (c.run (Durable.repository u interval) ports s).2 := by
  obtain ⟨d, decides, applies, runs⟩ :=
    @settled ((Durable.repository u interval).reads s) ports c
  refine Commit.of_eq ?_ (runs DurableStore (Durable.repository u interval) s rfl)
  have saved : ∀ {loaded result reply}, d = .save loaded result reply →
      Durable.load u s loaded.state.id = .ok loaded → Move loaded.state result →
      Commit u interval ports s c (d.execute (Durable.repository u interval) ports s).2 := by
    rintro loaded result reply rfl read move
    rcases save_outcome kept read move with ⟨s', done, step⟩ | ⟨⟨e, failed⟩, _⟩
    · exact Commit.of_eq (.moved c loaded result s' (applies _ _ _ rfl) step) (Effect.bind_ok done)
    · exact Commit.of_eq (.unchanged c) (Effect.bind_error failed)
  cases decides with
  | refuse | merge | keep => exact .unchanged _
  | issue input all free listed =>
    rcases issue_outcome kept ports free listed with ⟨s', done, step⟩ | ⟨⟨e, failed⟩, _⟩
    · exact Commit.of_eq (.issued input all s' step) (Effect.bind_ok done)
    · exact Commit.of_eq (.unchanged _) (Effect.bind_error failed)
  | save c id saves loaded result read move => exact saved rfl (kept.load_self read) move
  | checkIn id t revision appointmentAt read booked inWindow =>
    exact saved rfl (kept.load_self read) (.checkIn t _ _ _)
  | saveBatch firstId restIds actor members built =>
    rcases saveBatch_outcome kept built with ⟨s', done, steps, _⟩ | ⟨e, s', failed, steps, _⟩
    · exact Commit.of_eq (.called firstId restIds actor s' built.waits steps) (Effect.bind_ok done)
    · exact Commit.of_eq (.called firstId restIds actor s' built.waits steps)
        (Effect.bind_error failed)

end

end SlotBooking
