import SlotBooking.Runs.ReadYourWrites
import SlotBooking.Runs.Steps

/-! What is loaded after one transition: the ticket it wrote, unless the write took a snapshot
of texts which come back changed. -/
namespace SlotBooking

section
variable {u : Unicode} {interval : Nat} {s s' : DurableStore} {loaded : LoadedAggregate}
  {result : ApplyResult}

theorem DurableStore.Kept.eventsAfter_nil (kept : s.Kept)
    (read : Durable.load u s loaded.state.id = .ok loaded) :
    s.eventsAfter loaded.state.id loaded.revision = [] := by
  have counted := (load_outline kept.tidy (kept.outlined _) read).2.1
  rw [kept.tidy.eventsAfter_aggregate, counted, List.drop_length]
  rfl

theorem DurableStore.Kept.not_bare (kept : s.Kept)
    (read : Durable.load u s loaded.state.id = .ok loaded) : ¬ s.Bare loaded.state.id := by
  rintro ⟨_, unrecorded⟩
  obtain ⟨row, found, _⟩ := kept.row_of_load read
  have empty : (s.aggregate loaded.state.id).log = [] := by
    rw [kept.tidy.eventsAfter_aggregate, List.drop_zero] at unrecorded
    exact List.map_eq_nil_iff.mp unrecorded
  have absent := kept.row_none (List.map_eq_nil_iff.mp empty)
  cases found.symm.trans absent

/-- The ticket a transition wrote is the one the next load returns, exactly where no snapshot
was due or the codec gives the texts back. -/
theorem Moved.load_iff (moved : Moved u interval s s' loaded result) (kept : s.Kept)
    (evolves : evolve (some loaded.state) result.event = some result.ticket) :
    Durable.load u s' loaded.state.id = .ok ⟨result.ticket, loaded.revision + 1⟩ ↔
      ((loaded.revision + 1) % interval = 0 → Canonical u loaded.state.toCustomerFields) := by
  have own : ∀ e ∈ [result.event], e.ticketId = loaded.state.id := by
    simpa using moved.move.event_ticketId
  have legible : Legible u [result.event] result.ticket := by
    constructor
    · intro e mem f hf
      rw [List.mem_singleton.mp mem, moved.move.event_fields] at hf
      cases hf
    · rintro ⟨e, mem, texts⟩
      rw [List.mem_singleton.mp mem, moved.move.event_fields] at texts
      exact absurd rfl texts
  have readsBack := @load_commit_iff u interval s loaded.state.id loaded.revision [result.event]
    result.ticket loaded.state moved.read (List.cons_ne_nil _ _) own evolves moved.accepts.admits
  rw [← moved.store, ReadsBack, if_pos (kept.eventsAfter_nil moved.read), moved.move.sameCore.fields] at readsBack
  refine readsBack.trans ?_
  change (if (loaded.revision + 1) % interval = 0 then _ else _) ↔ _
  split
  · rename_i due
    exact ⟨fun canonical _ => canonical, fun canonical => canonical due⟩
  · rename_i between
    exact ⟨fun _ due => absurd due between,
      fun _ => ⟨legible, fun bare => absurd bare (kept.not_bare moved.read)⟩⟩

/-- After a write which took a snapshot, the texts of the ticket have been through the codec. -/
theorem Moved.load_due (moved : Moved u interval s s' loaded result) (kept : s.Kept)
    (due : (loaded.revision + 1) % interval = 0) {t : Ticket}
    (decoded : decodeTicketRowPayload u ⟨result.ticket⟩ = some t) :
    Durable.load u s' loaded.state.id = .ok ⟨t, loaded.revision + 1⟩ := by
  have counted := (load_outline kept.tidy (kept.outlined _) moved.read).2.1
  have nothing : ((s.aggregate loaded.state.id).log ++ [result.event]).drop (loaded.revision + 1) =
      [] := by
    rw [List.drop_eq_nil_iff, List.length_append, ← counted]
    rfl
  rw [load_eq (moved.kept kept).tidy, moved.aggregate kept, if_pos rfl]
  simp only [loadFrom, EventSourcing.Aggregate.commit, List.length_singleton, if_pos due, decoded,
    nothing, List.map_nil]
  simp [foldTicket, foldPayloads]

end

end SlotBooking
