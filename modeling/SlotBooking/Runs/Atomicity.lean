import SlotBooking.Runs.Outcomes

/-! Which failures leave the four tables alone. No transaction is open around the statements
of a command, so a failure in the middle would keep what came before it. -/
namespace SlotBooking

/-- A batch that names a ticket twice, all of whose tickets wait. -/
def Repeats (reads : Reads) (c : UseCase) : Prop :=
  ∃ firstId restIds actor, c = .callBatch firstId restIds actor ∧
    ¬ (firstId :: restIds).Nodup ∧ ∀ id ∈ firstId :: restIds, reads.Waits id

section
variable {u : Unicode} {interval : Nat} {s : DurableStore} {ports : Ports} {c : UseCase}

/-- The batch that repeats a ticket passes every check before it writes, and fails after. -/
theorem Outcome.repeats {r : Except QueueError Reply × DurableStore}
    (outcome : Outcome u interval ports s c r) (fresh : FreshIds ports 0 s)
    (repeats : Repeats ((Durable.repository u interval).reads s) c) :
    ∃ e, r.1 = .error e ∧ r.2 ≠ s := by
  obtain ⟨firstId, restIds, actor, rfl, repeated, waits⟩ := repeats
  cases outcome with
  | refused c e waiting =>
    obtain ⟨id, mem, not⟩ := waiting firstId restIds actor rfl
    exact absurd (waits id mem) not
  | answered c reply decides => cases decides
  | moved c loaded result reply s' decides step =>
    cases decides with
    | save c id saves => exact absurd rfl (saves.single firstId restIds actor)
  | called firstId restIds actor members s' built steps distinct => exact absurd distinct repeated
  | torn firstId restIds actor members e s' built steps why =>
    exact ⟨e, rfl, (why fresh).2.symm⟩

theorem Outcome.error_unchanged {r : Except QueueError Reply × DurableStore}
    (outcome : Outcome u interval ports s c r) (fresh : FreshIds ports 0 s)
    (single : ¬ Repeats ((Durable.repository u interval).reads s) c) {e : QueueError}
    (failed : r.1 = .error e) : r.2 = s := by
  cases outcome with
  | refused => rfl
  | answered => rfl
  | issued => cases failed
  | moved => cases failed
  | called => cases failed
  | torn firstId restIds actor members e s' built steps why =>
    exact absurd ⟨firstId, restIds, actor, rfl, (why fresh).1, built.waits⟩ single

end

/-- After any run, a call leaves the tables alone whenever it fails, exactly where it is no
batch that repeats a Waiting ticket. -/
theorem failure_changes_nothing_iff (u : Unicode) (interval : Nat)
    (calls : List (Ports × UseCase)) (ports : Ports) (c : UseCase)
    (fresh : FreshIds ports 0 (runCalls (Durable.repository u interval) calls .empty)) :
    (∀ e s', c.run (Durable.repository u interval) ports
        (runCalls (Durable.repository u interval) calls .empty) = (.error e, s') →
      s' = runCalls (Durable.repository u interval) calls .empty) ↔
    ¬ Repeats ((Durable.repository u interval).reads
        (runCalls (Durable.repository u interval) calls .empty)) c := by
  generalize reached : runCalls (Durable.repository u interval) calls .empty = s at fresh ⊢
  have kept : s.Kept := reached ▸ kept_run DurableStore.kept_empty calls
  have outcome := @call_outcome u interval s kept ports c
  constructor
  · intro unchanged repeats
    obtain ⟨e, failed, changed⟩ := outcome.repeats fresh repeats
    exact changed (unchanged e _ (Prod.ext failed rfl))
  · intro single e s' run
    rw [run] at outcome
    exact outcome.error_unchanged fresh single rfl

namespace Sample

def oneTicket : List (Ports × UseCase) := [(ports 1, .issueTicket reservation)]

end Sample

/-- An issue, and then a batch with the ticket twice: the batch fails and has called it. -/
theorem batch_fails_halfway :
    FreshIds (Sample.ports 2) 0
        (runCalls (Durable.repository Sample.unicode 200) Sample.oneTicket .empty) ∧
      ∃ e s', (UseCase.callBatch ⟨1⟩ [⟨1⟩] .staff).run (Durable.repository Sample.unicode 200)
          (Sample.ports 2)
          (runCalls (Durable.repository Sample.unicode 200) Sample.oneTicket .empty) =
        (.error e, s') ∧
        s' ≠ runCalls (Durable.repository Sample.unicode 200) Sample.oneTicket .empty := by
  have fresh : FreshIds (Sample.ports 2) 0
      (runCalls (Durable.repository Sample.unicode 200) Sample.oneTicket .empty) :=
    Sample.freshIds (by decide) (by decide)
  have waits : ((Durable.repository Sample.unicode 200).reads
      (runCalls (Durable.repository Sample.unicode 200) Sample.oneTicket .empty)).Waits ⟨1⟩ :=
    ⟨Sample.issued.ticket.toTicketCommon, 1, by decide⟩
  obtain ⟨e, failed, changed⟩ := (call_outcome (kept_run DurableStore.kept_empty Sample.oneTicket)
    (Sample.ports 2) (.callBatch ⟨1⟩ [⟨1⟩] .staff)).repeats fresh
      ⟨⟨1⟩, [⟨1⟩], .staff, rfl, by decide, by simpa using waits⟩
  generalize (UseCase.callBatch ⟨1⟩ [⟨1⟩] .staff).run (Durable.repository Sample.unicode 200)
    (Sample.ports 2) (runCalls (Durable.repository Sample.unicode 200) Sample.oneTicket .empty) = r
    at failed changed ⊢
  exact ⟨fresh, e, r.2, Prod.ext failed rfl, changed⟩

theorem failure_changes_nothing_iff_sample :
    (∀ e s', (UseCase.callBatch ⟨1⟩ [⟨1⟩] .staff).run (Durable.repository Sample.unicode 200)
          (Sample.ports 2)
          (runCalls (Durable.repository Sample.unicode 200) Sample.oneTicket .empty) =
        (.error e, s') →
      s' = runCalls (Durable.repository Sample.unicode 200) Sample.oneTicket .empty) ↔
    ¬ Repeats ((Durable.repository Sample.unicode 200).reads
        (runCalls (Durable.repository Sample.unicode 200) Sample.oneTicket .empty))
      (.callBatch ⟨1⟩ [⟨1⟩] .staff) :=
  failure_changes_nothing_iff Sample.unicode 200 Sample.oneTicket (Sample.ports 2) _
    (Sample.freshIds (by decide) (by decide))

end SlotBooking
