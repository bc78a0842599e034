import SlotBooking.Adapters.DurableTexts
import SlotBooking.Runs.Steps

/-! Customer texts over runs. They enter with an issue; a transition writes back what it
loaded, which is what a stored text decodes to. -/
namespace SlotBooking

section
variable {u : Unicode} {interval : Nat} {s s' : DurableStore} {P : CustomerFields → Prop}

theorem DurableStore.Kept.load_read (kept : s.Kept) (readable : Readable u P) {id : TicketId}
    (texts : Texts P (s.aggregate id)) :
    Durable.load u s id = found ((asRead u (s.aggregate id)).load evolve) := by
  apply SlotBooking.load_read kept.tidy readable texts
  intro unrecorded
  have absent := kept.row_none (List.map_eq_nil_iff.mp unrecorded)
  rw [DurableStore.aggregate, absent]
  rfl

theorem Moved.texts {loaded : LoadedAggregate} {result : ApplyResult}
    (moved : Moved u interval s s' loaded result) (kept : s.Kept) (readable : Readable u P)
    {id : TicketId} (texts : Texts P (s.aggregate id)) : Texts P (s'.aggregate id) := by
  by_cases same : id = loaded.state.id
  · subst same
    rw [moved.aggregate kept, if_pos rfl]
    apply texts.commit
    · intro e mem f hf
      rw [List.mem_singleton] at mem
      rw [mem, moved.move.event_fields] at hf
      cases hf
    · rw [moved.move.sameCore.fields]
      exact load_texts kept.tidy readable texts moved.read
  · rw [(moved.untouched kept same).aggregate]
    exact texts

theorem Issued.texts {ports : Ports} {input : IssueTicketInput} {all : List Ticket}
    (issued : Issued u interval ports input s s' all) (kept : s.Kept)
    (given : P ⟨input.handle, input.freeText⟩) : Texts P (s'.aggregate ports.newTicketId) := by
  rw [(issued.aggregate kept).2]
  apply texts_empty.commit
  · intro e mem f hf
    rw [List.mem_singleton] at mem
    subst mem
    cases hf
    exact given
  · exact given

end

end SlotBooking
