import Mathlib.Algebra.Order.Round
import Mathlib.Data.Rat.Floor
import Mathlib.Tactic.Linarith
import SlotBooking.Domain.Positions

/-! When a ticket is expected to be called: its place times the average service time, and for a
reservation no earlier than its appointment. Numbers are taken exactly. -/
namespace SlotBooking

structure ServiceMetric where
  avgServingMs : ℚ
  sampleCount : Nat

def emptyMetric : ServiceMetric := ⟨0, 0⟩

/-- `DEFAULT_EWMA_ALPHA`. -/
def defaultEwmaAlpha : ℚ := 1 / 10

/-- The first observation is taken as it is, the later ones are blended in. -/
def updateMetric (metric : ServiceMetric) (observationMs alpha : ℚ) : ServiceMetric :=
  if metric.sampleCount = 0 then ⟨observationMs, 1⟩
  else ⟨alpha * observationMs + (1 - alpha) * metric.avgServingMs, metric.sampleCount + 1⟩

/-- `null` for a ticket which is unknown or does not wait. No value where Temporal throws. -/
def etaOf (snap : QueueSnapshot) (ticketId : TicketId) (metric : ServiceMetric) (now : Instant) :
    Option (Option Instant) :=
  match snap.get ticketId with
  | none => some none
  | some t =>
    if t.state ≠ .waiting then some none
    else do
      let position := (positionOf snap ticketId).getD 0
      let computedMs := position * metric.avgServingMs
      let computed ← now.addMilliseconds (round computedMs)
      match t.appointmentAt with
      | none => return some computed
      | some appointmentAt =>
        return some (if appointmentAt.epochNs ≤ computed.epochNs then computed else appointmentAt)

/-- The estimate exists, and is this one. -/
def Estimated (snap : QueueSnapshot) (metric : ServiceMetric) (now : Instant) (id : TicketId)
    (at_ : Instant) : Prop := etaOf snap id metric now = some (some at_)

/-! ### Averages -/

section
variable {metric : ServiceMetric} {alpha bound : ℚ}

/-- A blend is not below what neither of its two parts is below. -/
theorem updateMetric_ge (low : 0 ≤ alpha) (high : alpha ≤ 1) {observationMs : ℚ}
    (observed : bound ≤ observationMs)
    (before : metric.sampleCount ≠ 0 → bound ≤ metric.avgServingMs) :
    bound ≤ (updateMetric metric observationMs alpha).avgServingMs := by
  rw [updateMetric]
  split
  · exact observed
  · rename_i counted
    have rest : 0 ≤ 1 - alpha := by linarith
    have first := mul_le_mul_of_nonneg_left observed low
    have second := mul_le_mul_of_nonneg_left (before counted) rest
    linarith

/-- The average over any observations, none of which is negative, is not negative. -/
theorem average_nonneg (low : 0 ≤ alpha) (high : alpha ≤ 1) {observations : List ℚ}
    (observed : ∀ ms ∈ observations, 0 ≤ ms) :
    0 ≤ (observations.foldl (fun metric ms => updateMetric metric ms alpha)
      emptyMetric).avgServingMs := by
  have general : ∀ metric : ServiceMetric, 0 ≤ metric.avgServingMs →
      0 ≤ (observations.foldl (fun metric ms => updateMetric metric ms alpha)
        metric).avgServingMs := by
    induction observations with
    | nil => exact fun _ nonneg => nonneg
    | cons ms rest ih =>
      intro metric nonneg
      obtain ⟨here, later⟩ := List.forall_mem_cons.mp observed
      exact ih later _ (updateMetric_ge low high here (fun _ => nonneg))
  exact general emptyMetric (le_refl 0)

/-- The smoothing which is used unless another one is given. -/
example {observations : List ℚ} (observed : ∀ ms ∈ observations, 0 ≤ ms) :
    0 ≤ (observations.foldl (fun metric ms => updateMetric metric ms defaultEwmaAlpha)
      emptyMetric).avgServingMs :=
  average_nonneg (by norm_num [defaultEwmaAlpha]) (by norm_num [defaultEwmaAlpha]) observed

end

/-! ### One estimate -/

/-- The wait over `position` tickets, in milliseconds. -/
def ServiceMetric.waitMs (metric : ServiceMetric) (position : Nat) : Int :=
  round (position * metric.avgServingMs)

/-- What is shown for a ticket once its time is computed. -/
def Ticket.notBefore (t : Ticket) (computed : Instant) : Instant :=
  match t.appointmentAt with
  | none => computed
  | some appointmentAt =>
    if appointmentAt.epochNs ≤ computed.epochNs then computed else appointmentAt

section
variable {snap : QueueSnapshot} {t : Ticket} {id : TicketId} {metric : ServiceMetric}
  {now at_ : Instant}

theorem waitMs_mono (nonneg : 0 ≤ metric.avgServingMs) {i j : Nat} (ahead : i ≤ j) :
    metric.waitMs i ≤ metric.waitMs j := by
  rw [ServiceMetric.waitMs, ServiceMetric.waitMs, round_eq, round_eq]
  apply Int.floor_le_floor
  have product : (i : ℚ) * metric.avgServingMs ≤ j * metric.avgServingMs :=
    mul_le_mul_of_nonneg_right (by exact_mod_cast ahead) nonneg
  linarith

theorem waitMs_nonneg (nonneg : 0 ≤ metric.avgServingMs) (n : Nat) : 0 ≤ metric.waitMs n := by
  have least := waitMs_mono nonneg (Nat.zero_le n)
  rwa [ServiceMetric.waitMs, Nat.cast_zero, zero_mul, round_zero] at least

theorem notBefore_walkIn (laned : t.Laned) (lane : t.lane = .walkIn) (computed : Instant) :
    t.notBefore computed = computed := by
  have unbooked : t.appointmentAt = none := by
    by_contra booked
    cases lane.symm.trans (laned.mpr booked)
  rw [Ticket.notBefore, unbooked]

theorem le_notBefore (t : Ticket) (computed : Instant) :
    computed.epochNs ≤ (t.notBefore computed).epochNs ∧
      ∀ appointmentAt, t.appointmentAt = some appointmentAt →
        appointmentAt.epochNs ≤ (t.notBefore computed).epochNs := by
  unfold Ticket.notBefore
  cases t.appointmentAt with
  | none => exact ⟨Int.le_refl _, fun _ none_ => by cases none_⟩
  | some booked =>
    simp only [Option.some.injEq, forall_eq']
    split
    · rename_i passed
      exact ⟨Int.le_refl _, passed⟩
    · rename_i ahead
      exact ⟨Int.le_of_lt (Int.not_le.mp ahead), Int.le_refl _⟩

theorem notBefore_mono (t : Ticket) {computed later : Instant}
    (le : computed.epochNs ≤ later.epochNs) :
    (t.notBefore computed).epochNs ≤ (t.notBefore later).epochNs := by
  unfold Ticket.notBefore
  cases t.appointmentAt with
  | none => exact le
  | some booked =>
    simp only
    split <;> split <;> omega

/-- The estimate of a Waiting ticket comes from its place, where it comes at all. -/
theorem etaOf_waiting (found : snap.get id = some t) (waits : t.state = .waiting) {n : Nat}
    (position : positionOf snap id = some n) : etaOf snap id metric now =
      (now.addMilliseconds (metric.waitMs n)).map
        (fun computed => some (t.notBefore computed)) := by
  rw [etaOf, found]
  simp only [waits, position, ne_eq, not_true_eq_false, if_false, Option.getD_some]
  rw [ServiceMetric.waitMs]
  cases now.addMilliseconds (round ((n : ℚ) * metric.avgServingMs)) with
  | none => rfl
  | some computed =>
    unfold Ticket.notBefore
    cases t.appointmentAt with
    | none => simp
    | some appointmentAt => simp

theorem addMilliseconds_eq_some {milliseconds : Int} :
    now.addMilliseconds milliseconds = some at_ ↔
      at_.epochNs = now.epochNs + milliseconds * nsPerMs := Instant.ofEpochNs_eq_some

theorem exists_position (found : snap.get id = some t) (waits : t.state = .waiting) :
    ∃ n, positionOf snap id = some n := by
  rw [positionOf, found]
  simp [Ticket.isWaiting, waits]

/-- A wait which is not longer ends in the range of instants if the other one does. -/
theorem addMilliseconds_le {shorter longer : Int} (nonneg : 0 ≤ shorter) (le : shorter ≤ longer)
    (added : now.addMilliseconds longer = some at_) :
    ∃ sooner, now.addMilliseconds shorter = some sooner ∧ sooner.epochNs ≤ at_.epochNs := by
  have later := addMilliseconds_eq_some.mp added
  have range := at_.inRange
  have start := now.inRange
  have grows : shorter * nsPerMs ≤ longer * nsPerMs :=
    Int.mul_le_mul_of_nonneg_right le (by decide)
  have positive : 0 ≤ shorter * nsPerMs := Int.mul_nonneg nonneg (by decide)
  refine ⟨⟨now.epochNs + shorter * nsPerMs, by omega⟩, addMilliseconds_eq_some.mpr rfl, ?_⟩
  rw [later]
  exact Int.add_le_add_left grows _

theorem estimated_iff (found : snap.get id = some t) (waits : t.state = .waiting) {n : Nat}
    (position : positionOf snap id = some n) : Estimated snap metric now id at_ ↔
      ∃ computed, now.addMilliseconds (metric.waitMs n) = some computed ∧
        t.notBefore computed = at_ := by
  rw [Estimated, etaOf_waiting found waits position, Option.map_eq_some_iff]
  simp only [Option.some.injEq]

/-- Temporal throws on the estimate just where it lies past the last instant. -/
theorem etaOf_throws_iff (nonneg : 0 ≤ metric.avgServingMs) (found : snap.get id = some t)
    (waits : t.state = .waiting) {n : Nat} (position : positionOf snap id = some n) :
    etaOf snap id metric now = none ↔
      nsMaxInstant < now.epochNs + metric.waitMs n * nsPerMs := by
  have range := now.inRange
  have positive : 0 ≤ metric.waitMs n * nsPerMs :=
    Int.mul_nonneg (waitMs_nonneg nonneg n) (by decide)
  rw [etaOf_waiting found waits position, Option.map_eq_none_iff, Instant.addMilliseconds,
    Instant.ofEpochNs, dite_eq_right_iff]
  simp only [reduceCtorEq, imp_false]
  omega

/-! ### Two estimates -/

/-- A place which is not further back has no later estimate. -/
theorem estimated_mono {snap' : QueueSnapshot} {id' : TicketId} {t' : Ticket} {i j : Nat}
    (nonneg : 0 ≤ metric.avgServingMs) (found : snap.get id = some t) (waits : t.state = .waiting)
    (position : positionOf snap id = some i) (found' : snap'.get id' = some t')
    (waits' : t'.state = .waiting) (position' : positionOf snap' id' = some j) (le : i ≤ j)
    (sooner : ∀ computed, (t.notBefore computed).epochNs ≤ (t'.notBefore computed).epochNs)
    (estimated : Estimated snap' metric now id' at_) :
    ∃ first, Estimated snap metric now id first ∧ first.epochNs ≤ at_.epochNs := by
  obtain ⟨later, computed, rfl⟩ := (estimated_iff found' waits' position').mp estimated
  obtain ⟨earlier, computed', before⟩ :=
    addMilliseconds_le (waitMs_nonneg nonneg i) (waitMs_mono nonneg le) computed
  refine ⟨t.notBefore earlier, (estimated_iff found waits position).mpr ⟨_, computed', rfl⟩, ?_⟩
  exact (notBefore_mono t before).trans (sooner later)

/-- A call leaves no other ticket further back in its lane. -/
theorem positionOf_afterCall_le (keyed : snap.Keyed) {first : Ticket}
    (stored : snap.get first.id = some first) (waiting : first.state = .waiting) (args : CallArgs)
    (found : snap.get id = some t) (waits : t.state = .waiting) (other : id ≠ first.id) {n : Nat}
    (position : positionOf snap id = some n) :
    ∃ m, positionOf (afterCall snap first args) id = some m ∧ m ≤ n := by
  obtain rfl := keyed id t found
  have stays : (afterCall snap first args).get t.id = some t :=
    (get_afterCall_ne other args).trans found
  rw [positionOf_waiting found waits, Option.some_inj] at position
  refine ⟨_, positionOf_waiting stays waits, ?_⟩
  rw [← position, inTurn_afterCall keyed stored waiting]
  exact List.filter_sublist.countP_le

end

/-- Every estimate is neither past nor before the appointment; of two walk-ins the one ahead has no
later estimate; and a call of the head of a lane puts off the estimate of no other ticket. -/
theorem estimates_consistent (snap : QueueSnapshot) (keyed : snap.Keyed)
    (laned : ∀ id t, snap.get id = some t → t.Laned) (metric : ServiceMetric)
    (nonneg : 0 ≤ metric.avgServingMs) (now : Instant) :
    (∀ id t eta, snap.get id = some t → t.state = .waiting →
      etaOf snap id metric now = some eta →
        ∃ at_, eta = some at_ ∧ now.epochNs ≤ at_.epochNs ∧
          ∀ appointmentAt, t.appointmentAt = some appointmentAt →
            appointmentAt.epochNs ≤ at_.epochNs) ∧
    (∀ id other t q i j at_, snap.get id = some t → snap.get other = some q →
      t.state = .waiting → q.state = .waiting → t.lane = .walkIn → q.lane = .walkIn →
      positionOf snap id = some i → positionOf snap other = some j → i ≤ j →
      Estimated snap metric now other at_ →
        ∃ sooner, Estimated snap metric now id sooner ∧ sooner.epochNs ≤ at_.epochNs) ∧
    ∀ lane first args id t at_, headOfLane snap lane = some first → id ≠ first.id →
      snap.get id = some t → t.state = .waiting → Estimated snap metric now id at_ →
        ∃ sooner, Estimated (afterCall snap first args) metric now id sooner ∧
          sooner.epochNs ≤ at_.epochNs := by
  refine ⟨?_, ?_, ?_⟩
  · intro id t eta found waits estimate
    obtain ⟨n, position⟩ := exists_position found waits
    rw [etaOf_waiting found waits position] at estimate
    obtain ⟨computed, added, rfl⟩ := Option.map_eq_some_iff.mp estimate
    refine ⟨_, rfl, ?_, (le_notBefore t computed).2⟩
    have wait : 0 ≤ metric.waitMs n * nsPerMs :=
      Int.mul_nonneg (waitMs_nonneg nonneg n) (by decide)
    have later : now.epochNs ≤ computed.epochNs := by
      rw [addMilliseconds_eq_some.mp added]
      omega
    exact later.trans (le_notBefore t computed).1
  · intro id other t q i j at_ found found' waits waits' lane lane' position position' ahead
    refine estimated_mono nonneg found waits position found' waits' position' ahead ?_
    intro computed
    rw [notBefore_walkIn (laned id t found) lane, notBefore_walkIn (laned other q found') lane']
  · intro lane first args id t at_ heads other found waits
    obtain ⟨_, rest, turn, _⟩ := inTurn_afterHead keyed heads args
    obtain ⟨inSnap, waiting, _⟩ := mem_inTurn.mp (turn ▸ List.mem_cons_self)
    obtain ⟨n, position⟩ := exists_position found waits
    obtain ⟨m, next, le⟩ := positionOf_afterCall_le keyed (keyed.get_of_mem inSnap) waiting args
      found waits other position
    have stays : (afterCall snap first args).get id = some t :=
      (get_afterCall_ne other args).trans found
    exact estimated_mono nonneg stays waits next found waits position le (fun _ => Int.le_refl _)

namespace Sample

/-- Five minutes a customer, over ten customers. -/
def fiveMinutes : ServiceMetric := ⟨300000, 10⟩

def unbookedAt (k : Nat) : Ticket :=
  ⟨{ (walkInAt k).toTicketCommon with appointmentAt := none }, .waiting⟩

/-- Two walk-ins, out of turn. -/
def walkIns : QueueSnapshot := .ofTickets [unbookedAt 3, unbookedAt 2]

end Sample

/-- The second walk-in waits five minutes, and no longer than that once the first is called. -/
theorem estimates_consistent_walkIns :
    ∃ sooner, Estimated (afterCall Sample.walkIns (Sample.unbookedAt 2)
        ⟨Sample.firstMinute, ⟨9⟩, none, none⟩) Sample.fiveMinutes Sample.firstMinute ⟨3⟩ sooner ∧
      sooner.epochNs ≤ 6 * nsPerMinute := by
  have laned : ∀ id t, Sample.walkIns.get id = some t → t.Laned := by
    have all : ∀ t ∈ Sample.walkIns.tickets.values, t.Laned := by decide
    exact fun id t found => all t (InsertionMap.mem_values_of_get found)
  have estimated : Estimated Sample.walkIns Sample.fiveMinutes Sample.firstMinute ⟨3⟩
      ⟨6 * nsPerMinute, by decide⟩ := by
    have position : positionOf Sample.walkIns ⟨3⟩ = some 1 := by decide
    have wait : Sample.fiveMinutes.waitMs 1 = 300000 := by
      rw [ServiceMetric.waitMs, Nat.cast_one, one_mul]
      exact round_ofNat 300000
    refine (estimated_iff (t := Sample.unbookedAt 3) rfl rfl position).mpr ⟨_, ?_, rfl⟩
    rw [wait]
    decide
  exact (estimates_consistent Sample.walkIns (QueueSnapshot.keyed_ofTickets (by decide)) laned
    Sample.fiveMinutes (by decide) Sample.firstMinute).2.2 .walkIn (Sample.unbookedAt 2)
    ⟨Sample.firstMinute, ⟨9⟩, none, none⟩ ⟨3⟩ (Sample.unbookedAt 3) _ (by decide) (by decide) rfl
    rfl estimated

end SlotBooking
