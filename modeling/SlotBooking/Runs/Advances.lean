import SlotBooking.Runs.Commands

/-! What one command does to one ticket of the store: nothing, or one transition, of which the
log gets the event and the row the ticket. -/
namespace SlotBooking

/-- The transition which a command applies to the stored ticket `t`, if any. What the use case
has loaded agrees with `t`, but for texts and arrival times. -/
inductive Advance (reads : Reads) (ports : Ports) (id : TicketId) (t : Ticket) :
    UseCase → Option ApplyResult → Prop where
  | idle (c : UseCase) : Advance reads ports id t c none
  | applied (c : UseCase) (loaded : LoadedAggregate) (result : ApplyResult)
      (own : loaded.state.id = id) (same : t.outline = loaded.state.outline)
      (applies : Applies reads ports c loaded result) : Advance reads ports id t c (some result)
  | batched (firstId : TicketId) (restIds : List TicketId) (actor : Actor) (index : Nat)
      (q : TicketCommon) (mem : id ∈ firstId :: restIds) (waits : reads.Waits id)
      (same : t.outline = (⟨q, .waiting⟩ : Ticket).outline) :
      Advance reads ports id t (.callBatch firstId restIds actor)
        (some (applyCall q (batchCallArgs ports actor index)))

/-- The log and the row of a ticket `t` before and after. -/
structure Advanced (before after : EventSourcing.Aggregate Ticket TicketEvent) (t : Ticket)
    (advance : Option ApplyResult) : Prop where
  log : after.log = before.log ++ advance.toList.map ApplyResult.event
  latest : ∃ revision, after.latest = some (advance.elim t ApplyResult.ticket, revision)

section
variable {u : Unicode} {interval : Nat} {s s' : DurableStore} {id : TicketId} {t : Ticket}
  {revision : Nat}

theorem Advanced.of_same {before after : EventSourcing.Aggregate Ticket TicketEvent}
    (present : before.latest = some (t, revision)) (same : after = before) :
    Advanced before after t none where
  log := by rw [same]; exact (List.append_nil _).symm
  latest := ⟨revision, same ▸ present⟩

theorem Moved.advanced {loaded : LoadedAggregate} {result : ApplyResult}
    (moved : Moved u interval s s' loaded result) (kept : s.Kept) (own : loaded.state.id = id) :
    Advanced (s.aggregate id) (s'.aggregate id) t (some result) := by
  rw [moved.aggregate kept, if_pos own.symm]
  exact ⟨rfl, _, rfl⟩

theorem Moved.outline {loaded : LoadedAggregate} {result : ApplyResult}
    (moved : Moved u interval s s' loaded result) (kept : s.Kept) (own : loaded.state.id = id)
    (present : (s.aggregate id).latest = some (t, revision)) :
    t.outline = loaded.state.outline := by
  obtain ⟨row, found, outline, _⟩ := kept.row_of_load moved.read
  rw [own] at found
  rw [DurableStore.aggregate, found] at present
  cases present
  exact outline

/-- A batch calls a ticket once at most: afterwards it no longer waits. -/
theorem calledBy_advance {ports : Ports} {actor : Actor} {firstId : TicketId}
    {restIds : List TicketId} (kept : s.Kept)
    (waits : ∀ id ∈ firstId :: restIds, ((Durable.repository u interval).reads s).Waits id)
    (present : (s.aggregate id).latest = some (t, revision))
    (steps : Relation.ReflTransGen (CalledBy u interval ports actor (firstId :: restIds)) s s') :
    s'.aggregate id = s.aggregate id ∨
      ∃ result, Advance ((Durable.repository u interval).reads s) ports id t
        (.callBatch firstId restIds actor) (some result) ∧ result.ticket.state = .called ∧
          Advanced (s.aggregate id) (s'.aggregate id) t (some result) := by
  have both : s'.Kept ∧ (s'.aggregate id = s.aggregate id ∨
      ∃ result, Advance ((Durable.repository u interval).reads s) ports id t
        (.callBatch firstId restIds actor) (some result) ∧ result.ticket.state = .called ∧
          Advanced (s.aggregate id) (s'.aggregate id) t (some result)) := by
    induction steps with
    | refl => exact ⟨kept, .inl rfl⟩
    | @tail m s' _ step ih =>
      obtain ⟨keptBefore, before⟩ := ih
      obtain ⟨q, expected, index, mem, moved⟩ := step
      refine ⟨moved.kept keptBefore, ?_⟩
      by_cases own : q.id = id
      · rcases before with same | ⟨result, _, called, advanced⟩
        · have outline := moved.outline keptBefore own (same ▸ present)
          subst own
          refine .inr ⟨_, .batched firstId restIds actor index q mem (waits _ mem) outline, rfl, ?_⟩
          rw [← same]
          exact moved.advanced keptBefore rfl
        · obtain ⟨_, latest⟩ := advanced.latest
          have outline := moved.outline keptBefore own latest
          have again : result.ticket.state = .waiting := congrArg Ticket.state outline
          cases called.symm.trans again
      · have untouched := (moved.untouched keptBefore (Ne.symm own)).aggregate
        rwa [untouched]
  exact both.2

theorem call_advance (kept : s.Kept) (ports : Ports) (c : UseCase)
    (present : (s.aggregate id).latest = some (t, revision)) :
    ∃ advance, Advance ((Durable.repository u interval).reads s) ports id t c advance ∧
      Advanced (s.aggregate id)
        ((c.run (Durable.repository u interval) ports s).2.aggregate id) t advance := by
  have commit := @call_commit u interval s kept ports c
  generalize (c.run (Durable.repository u interval) ports s).2 = s' at commit
  cases commit with
  | unchanged => exact ⟨none, .idle c, .of_same present rfl⟩
  | issued input all _ step =>
    have other : id ≠ ports.newTicketId := by
      rintro rfl
      rw [DurableStore.aggregate, (step.absent kept).2] at present
      cases present
    exact ⟨none, .idle _, .of_same present (step.untouched kept other).aggregate⟩
  | moved _ loaded result _ applies step =>
    by_cases own : loaded.state.id = id
    · exact ⟨some result, .applied c loaded result own (step.outline kept own present) applies,
        step.advanced kept own⟩
    · exact ⟨none, .idle c, .of_same present (step.untouched kept (Ne.symm own)).aggregate⟩
  | called firstId restIds actor _ waits steps =>
    rcases calledBy_advance kept waits present steps with same | ⟨result, advance, _, advanced⟩
    · exact ⟨none, .idle _, .of_same present same⟩
    · exact ⟨some result, advance, advanced⟩

/-- A ticket which is not there stays away, or is the one which is issued. -/
theorem call_absent (kept : s.Kept) (ports : Ports) (c : UseCase)
    (absent : (s.aggregate id).latest = none) :
    (c.run (Durable.repository u interval) ports s).2.aggregate id = s.aggregate id ∨
      ∃ input all, s.aggregate id = .empty ∧
        (c.run (Durable.repository u interval) ports s).2.aggregate id =
          EventSourcing.Aggregate.empty.commit interval 0 [(issueResult ports input s all).event]
            (issueResult ports input s all).ticket := by
  have elsewhere : ∀ {s₁ s₂ : DurableStore} {loaded : LoadedAggregate} {result : ApplyResult},
      s₁.Kept → (s₁.aggregate id).latest = none → Moved u interval s₁ s₂ loaded result →
        s₂.aggregate id = s₁.aggregate id := by
    intro s₁ s₂ loaded result kept₁ absent₁ moved
    refine (moved.untouched kept₁ ?_).aggregate
    rintro rfl
    obtain ⟨row, found, _⟩ := kept₁.row_of_load moved.read
    rw [DurableStore.aggregate, found] at absent₁
    cases absent₁
  have commit := @call_commit u interval s kept ports c
  generalize (c.run (Durable.repository u interval) ports s).2 = s' at commit ⊢
  cases commit with
  | unchanged => exact .inl rfl
  | issued input all _ step =>
    by_cases own : id = ports.newTicketId
    · subst own
      exact .inr ⟨input, all, step.aggregate kept⟩
    · exact .inl (step.untouched kept own).aggregate
  | moved _ loaded result _ _ step => exact .inl (elsewhere kept absent step)
  | called firstId restIds actor _ _ steps =>
    have both : s'.Kept ∧ s'.aggregate id = s.aggregate id := by
      induction steps with
      | refl => exact ⟨kept, rfl⟩
      | tail _ step ih =>
        obtain ⟨keptBefore, same⟩ := ih
        obtain ⟨_, _, _, _, moved⟩ := step
        exact ⟨moved.kept keptBefore, (elsewhere keptBefore (same ▸ absent) moved).trans same⟩
    exact .inl both.2

end

end SlotBooking
