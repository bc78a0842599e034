import Mathlib.Data.Rat.Floor
import Mathlib.Tactic.Linarith
import SlotBooking.Http.Requests
import SlotBooking.Shop.Subscriptions

/-! The alarm as the program it is: what can fail in it fails at some step, and only what fails
inside `runSweepStep` is caught. A nudge looks into the payload of its row before that. -/
namespace SlotBooking

inductive Thrown where
  | typeError
  | rangeError
  | rejected (reason : Rejection)
deriving DecidableEq

def asText (s : String) : JsString := s.toList.map (fun c => UInt16.ofNat c.toNat)

namespace Json

/-- `parsed.name`. Only objects have members of their own, and `null` has no properties. -/
def property (name : String) : Json → Except Thrown (Option Json)
  | .null => .error .typeError
  | .object members => .ok ((members.find? (fun m => m.1 = name)).map Prod.snd)
  | .boolean _ | .number _ | .string _ | .array _ => .ok none

mutual

/-- `String(x)`. A member `toString` hides the method of that name and cannot be called. -/
def text : Json → Option JsString
  | .null => some (asText "null")
  | .boolean b => some (asText (if b then "true" else "false"))
  | .number n => some (asText (toString n))
  | .string s => some s
  | .array elements => joined elements
  | .object members =>
    if members.any (fun m => m.1 = "toString") then none else some (asText "[object Object]")

/-- `elements.join()`, where `null` is left out. -/
def joined : List Json → Option JsString
  | [] => some []
  | .null :: rest => (joined rest).map (fun t => if rest.isEmpty then t else asText "," ++ t)
  | element :: rest =>
    match text element, joined rest with
    | some first, some t => some (first ++ if rest.isEmpty then t else asText "," ++ t)
    | _, _ => none

end

/-- The value of a sum with 1. -/
inductive Sum where
  | number (n : Int)
  | notANumber
  | text (t : JsString)

/-- `x + 1` of whatever was read, `undefined` included. -/
def plusOne : Option Json → Except Thrown Sum
  | none => .ok .notANumber
  | some .null => .ok (.number 1)
  | some (.boolean b) => .ok (.number (if b then 2 else 1))
  | some (.number n) => .ok (.number (n + 1))
  | some (.string s) => .ok (.text (s ++ asText "1"))
  | some value =>
    match value.text with
    | some t => .ok (.text (t ++ asText "1"))
    | none => .error .typeError

/-- An object with a member `toString`, alone or somewhere in an array. -/
inductive Textless : Json → Prop where
  | object (members : List (String × Json)) (m : String × Json) (mem : m ∈ members)
      (own : m.1 = "toString") : Textless (.object members)
  | array (elements : List Json) (element : Json) (mem : element ∈ elements)
      (textless : Textless element) : Textless (.array elements)

end Json

/-! ### The settings -/

/-- The bindings of the alarm as numbers; durations in seconds. -/
structure SweepSettings where
  overdueAfterCalled : ℚ
  nudgeInterval : ℚ
  maxNudges : ℚ
  appointmentGrace : ℚ

/-- `new Date(ms).toISOString()`, as the time it renders. -/
def isoTime (ms : ℚ) : Except Thrown Int :=
  if -8640000000000000 ≤ ms ∧ ms ≤ 8640000000000000 then
    .ok (if 0 ≤ ms then ⌊ms⌋ else ⌈ms⌉)
  else .error .rangeError

/-- Nudge counts are integers, so that a cap compares like its ceiling. -/
def SweepSettings.rules (settings : SweepSettings) (earlier : Instant → Int → Bool) (nowMs : Int) :
    Except Thrown SweepRules := do
  let calledCutoff ← isoTime (nowMs - settings.overdueAfterCalled * 1000)
  let nudgeCutoff ← isoTime (nowMs - settings.nudgeInterval * 1000)
  let appointmentCutoff ← isoTime (nowMs - settings.appointmentGrace * 1000)
  return { maxNudges := ⌈settings.maxNudges⌉,
           calledCutoff, nudgeCutoff, appointmentCutoff, earlier }

def alarmFallbackReArmSeconds : ℚ := 60

def SweepSettings.reArmSeconds (settings : SweepSettings) : ℚ :=
  min settings.overdueAfterCalled (min settings.nudgeInterval
    (min settings.appointmentGrace alarmFallbackReArmSeconds))

/-! ### What the alarm asks of the shop and the platform -/

/-- A row of `tickets`: its columns, and what `JSON.parse` makes of its payload, which need not
be a ticket. -/
structure StoredRow where
  columns : TicketRow
  payload : Json

/-- What a push says: `pushKindFor` turns the counts into a kind, whatever they are. -/
structure PushNotice where
  displaySeq : Option Json
  nextNudgeCount : Json.Sum
  maxNudges : ℚ

/-- The state may change between any two answers, and everything may answer anything: a dispatch
with a result or a rejection, a push with an outcome or by throwing. -/
structure AlarmWorld (σ : Type) where
  now : σ → Int
  tickets : σ → List StoredRow
  listPushSubscriptions : TicketId → σ → List PushSubscription
  pushEnabled : Bool
  earlier : Instant → Int → Bool
  dispatch : QueueAction → σ → Except Rejection QueueResult × σ
  sendPush : PushSubscription → PushNotice → σ → Option SendPushResult × σ
  deleteByEndpoint : TicketId → String → σ → σ

/-- The clock is not set back. -/
structure AlarmWorld.Steady {σ : Type} (world : AlarmWorld σ) : Prop where
  dispatch : ∀ action s, world.now s ≤ world.now (world.dispatch action s).2
  sendPush : ∀ subscription notice s,
    world.now s ≤ world.now (world.sendPush subscription notice s).2
  deleteByEndpoint : ∀ ticketId endpoint s,
    world.now s ≤ world.now (world.deleteByEndpoint ticketId endpoint s)

inductive AlarmEvent where
  | selected (tick : Tick) (ids : List TicketId)
  | dispatched (tick : Tick) (id : TicketId)
  | armed (ms : ℚ)

/-- The state of an alarm on its way, with what it has done so far. -/
structure AlarmRun (σ : Type) where
  state : σ
  trace : List AlarmEvent

def QueueResult.succeeded : QueueResult → Bool
  | .error _ _ => false
  | _ => true

def AlarmRun.record {σ : Type} (run : AlarmRun σ) (event : AlarmEvent) : AlarmRun σ :=
  { run with trace := run.trace ++ [event] }

/-- The rows which the query of a tick returns. -/
def AlarmWorld.selected {σ : Type} (world : AlarmWorld σ) (tick : Tick) (rules : SweepRules)
    (s : σ) : List StoredRow :=
  (world.tickets s).filter (fun r => tick.selects rules r.columns)

/-! ### The program -/

namespace QueueShop

section
variable {σ : Type} (world : AlarmWorld σ)

def now : Effect (AlarmRun σ) Thrown Int := .inspect (fun run => .ok (world.now run.state))

def select (tick : Tick) (rules : SweepRules) : Effect (AlarmRun σ) Thrown (List StoredRow) :=
  fun run =>
    let rows := world.selected tick rules run.state
    (.ok rows, run.record (.selected tick (rows.map (fun r => r.columns.id))))

/-- The promise of one dispatch. -/
def fire (tick : Tick) (ticketId : TicketId) (channel : Channel) :
    Effect (AlarmRun σ) Thrown QueueResult := fun run =>
  match world.dispatch (tick.action ticketId channel) run.state with
  | (.ok result, state) => (.ok result, { run with state }.record (.dispatched tick ticketId))
  | (.error reason, state) =>
    (.error (.rejected reason), { run with state }.record (.dispatched tick ticketId))

/-- `try … catch`: a failed step is logged and counts as not done. -/
def runSweepStep (fire : Effect (AlarmRun σ) Thrown QueueResult) :
    Effect (AlarmRun σ) Thrown Bool := fun run =>
  match fire run with
  | (.ok result, run') => (.ok result.succeeded, run')
  | (.error _, run') => (.ok false, run')

/-- Three of the ticks: every row the query returned is dispatched. -/
def sweepTick (tick : Tick) (rules : SweepRules) : Effect (AlarmRun σ) Thrown Unit := do
  let rows ← select world tick rules
  rows.forM (fun r => do
    let _ ← runSweepStep (fire world tick r.columns.id .ws))

/-- One subscription; how many have been reached is counted. -/
def fanOutOne (ticketId : TicketId) (notice : PushNotice) (sofar : Nat × σ)
    (subscription : PushSubscription) : Nat × σ :=
  match world.sendPush subscription notice sofar.2 with
  | (some .subscriptionGone, state) =>
    (sofar.1, world.deleteByEndpoint ticketId subscription.endpoint state)
  | (some .delivered, state) => (sofar.1 + 1, state)
  | (some .rejected, state) | (some .transportError, state) | (none, state) => (sofar.1, state)

def fanOutPush (ticketId : TicketId) (subscriptions : List PushSubscription) (notice : PushNotice) :
    Effect (AlarmRun σ) Thrown Nat := fun run =>
  let (delivered, state) := subscriptions.foldl (fanOutOne world ticketId notice) (0, run.state)
  (.ok delivered, { run with state })

/-- What a nudge reads in the payload of its row: `displaySeq`, and the count after it. -/
def readPayload (parsed : Json) : Except Thrown (Option Json × Json.Sum) := do
  let displaySeq ← parsed.property "displaySeq"
  let state ← parsed.property "state"
  let priorNudgeCount ←
    match state with
    | some (.string s) =>
      if s = asText "Overdue" then parsed.property "nudgeCount" else .ok (some (.number 0))
    | _ => .ok (some (.number 0))
  let nextNudgeCount ← Json.plusOne priorNudgeCount
  return (displaySeq, nextNudgeCount)

/-- The body of the second tick: pushes first, so that the event records what has arrived. -/
def nudgeRow (maxNudges : ℚ) (row : StoredRow) : Effect (AlarmRun σ) Thrown Unit := do
  let ticketId := row.columns.id
  let (displaySeq, nextNudgeCount) ← .inspect (fun _ => readPayload row.payload)
  let subscriptions ← .inspect (fun run => .ok (world.listPushSubscriptions ticketId run.state))
  let channel ←
    if !subscriptions.isEmpty && world.pushEnabled then do
      let notice := ⟨displaySeq, nextNudgeCount, maxNudges⟩
      let delivered ← fanOutPush world ticketId subscriptions notice
      pure (if 1 ≤ delivered then Channel.push else .ws)
    else pure .ws
  let _ ← runSweepStep (fire world .nudge ticketId channel)

def nudgeTick (maxNudges : ℚ) (rules : SweepRules) : Effect (AlarmRun σ) Thrown Unit := do
  let rows ← select world .nudge rules
  rows.forM (nudgeRow world maxNudges)

def setAlarm (ms : ℚ) : Effect (AlarmRun σ) Thrown Unit :=
  fun run => (.ok (), run.record (.armed ms))

/-- The counts and the duration that are logged at the end are left out. -/
def alarm (settings : SweepSettings) : Effect (AlarmRun σ) Thrown Unit := do
  let nowMs ← now world
  let rules ← .inspect (fun _ => settings.rules world.earlier nowMs)
  sweepTick world .moveToOverdue rules
  nudgeTick world settings.maxNudges rules
  sweepTick world .markNoShow rules
  sweepTick world .lapseAppointment rules
  let endMs ← now world
  setAlarm (endMs + settings.reArmSeconds * 1000)

end

end QueueShop

/-- What a nudge can read: no `null`, and of an Overdue ticket no count that has no text. -/
structure Json.Readable (parsed : Json) : Prop where
  present : parsed ≠ .null
  counted : ∀ count, parsed.property "state" = .ok (some (.string (asText "Overdue"))) →
    parsed.property "nudgeCount" = .ok (some count) → ¬ count.Textless

/-- A value for each tick. -/
def Tick.each {α : Type} (moveToOverdue nudge markNoShow lapseAppointment : α) : Tick → α
  | .moveToOverdue => moveToOverdue
  | .nudge => nudge
  | .markNoShow => markNoShow
  | .lapseAppointment => lapseAppointment

/-- All that a sweep does before it arms the next alarm. -/
def sweptAll (ids : Tick → List TicketId) : List AlarmEvent :=
  [Tick.moveToOverdue, .nudge, .markNoShow, .lapseAppointment].flatMap
    (fun tick => .selected tick (ids tick) :: (ids tick).map (.dispatched tick))

namespace Json

theorem joined_cons_eq_none_iff (element : Json) (rest : List Json) :
    joined (element :: rest) = none ↔ element.text = none ∨ joined rest = none := by
  cases element with
  | null => simp [joined, text]
  | _ =>
    rw [joined]
    · split
      · simp [*]
      · rename_i missing
        simp only [true_iff]
        by_contra both
        obtain ⟨first, later⟩ := not_or.mp both
        obtain ⟨t, found⟩ := Option.ne_none_iff_exists'.mp first
        obtain ⟨t', found'⟩ := Option.ne_none_iff_exists'.mp later
        exact missing t t' found found'
    · nofun

mutual

theorem text_eq_none_iff : ∀ value : Json, value.text = none ↔ value.Textless
  | .null | .boolean _ | .number _ | .string _ => by
    simp only [text, reduceCtorEq, false_iff]
    exact fun textless => by cases textless
  | .object members => by
    rw [text]
    constructor
    · intro empty
      split at empty
      · rename_i own
        obtain ⟨m, mem, name⟩ := List.any_eq_true.mp own
        exact .object members m mem (by simpa using name)
      · cases empty
    · rintro (⟨_, m, mem, own⟩ | _)
      rw [if_pos (List.any_eq_true.mpr ⟨m, mem, by simpa using own⟩)]
  | .array elements => by
    rw [text, joined_eq_none_iff elements]
    constructor
    · rintro ⟨element, mem, textless⟩
      exact .array elements element mem textless
    · rintro (_ | ⟨_, element, mem, textless⟩)
      exact ⟨element, mem, textless⟩

theorem joined_eq_none_iff : ∀ elements : List Json,
    joined elements = none ↔ ∃ element ∈ elements, element.Textless
  | [] => by simp [joined]
  | element :: rest => by
    have here := text_eq_none_iff element
    have later := joined_eq_none_iff rest
    rw [joined_cons_eq_none_iff, here, later]
    simp

end

theorem plusOne_ok_iff (value : Option Json) :
    (∃ sum, plusOne value = .ok sum) ↔ ∀ v, value = some v → ¬ v.Textless := by
  cases value with
  | none => simp [plusOne]
  | some v =>
    simp only [Option.some.injEq, forall_eq', ← text_eq_none_iff]
    cases v with
    | null | boolean | number | string => simp [plusOne, text]
    | array | object =>
      simp only [plusOne]
      split <;> simp [*]

end Json

theorem Json.property_ok {parsed : Json} (present : parsed ≠ .null) (name : String) :
    ∃ value, parsed.property name = .ok value := by
  cases parsed with
  | null => exact absurd rfl present
  | _ => exact ⟨_, rfl⟩

theorem readPayload_ok_iff (parsed : Json) :
    (∃ read, QueueShop.readPayload parsed = .ok read) ↔ parsed.Readable := by
  by_cases null : parsed = .null
  · subst null
    constructor
    · rintro ⟨read, done⟩
      cases done
    · exact fun readable => absurd rfl readable.present
  · obtain ⟨displaySeq, first⟩ := Json.property_ok null "displaySeq"
    obtain ⟨state, second⟩ := Json.property_ok null "state"
    obtain ⟨count, third⟩ := Json.property_ok null "nudgeCount"
    have readable : parsed.Readable ↔ (state = some (.string (asText "Overdue")) →
        ∃ sum, Json.plusOne count = .ok sum) := by
      rw [Json.plusOne_ok_iff]
      constructor
      · rintro ⟨_, counted⟩ rfl value rfl
        exact counted value second third
      · refine fun counted => ⟨null, fun value overdue given => ?_⟩
        cases second.symm.trans overdue
        cases third.symm.trans given
        exact counted rfl value rfl
    rw [readable]
    have read_iff (count : Option Json) : (∃ read, (do
        let next ← Json.plusOne count
        return (displaySeq, next) : Except Thrown (Option Json × Json.Sum)) = .ok read) ↔
        ∃ sum, Json.plusOne count = .ok sum := by
      constructor
      · rintro ⟨read, done⟩
        obtain ⟨sum, summed, _⟩ := Effect.except_bind_eq_ok.mp done
        exact ⟨sum, summed⟩
      · rintro ⟨sum, summed⟩
        exact ⟨_, Effect.except_bind_eq_ok.mpr ⟨sum, summed, rfl⟩⟩
    have zero := (read_iff (some (.number 0))).mpr ⟨_, rfl⟩
    have ok_bind {α β : Type} (a : α) (f : α → Except Thrown β) : (Except.ok a >>= f) = f a := rfl
    simp only [QueueShop.readPayload, first, second, third, ok_bind]
    cases state with
    | none => exact iff_of_true zero (by simp)
    | some value =>
      cases value with
      | string s =>
        by_cases overdue : s = asText "Overdue"
        · subst overdue
          simpa only [if_true, true_implies] using read_iff count
        · simp only [if_neg overdue]
          exact iff_of_true zero (by simp [overdue])
      | _ => exact iff_of_true zero (by simp)

/-! ### What a run leaves behind -/

structure SweepSettings.Positive (settings : SweepSettings) : Prop where
  overdueAfterCalled : 0 < settings.overdueAfterCalled
  nudgeInterval : 0 < settings.nudgeInterval
  appointmentGrace : 0 < settings.appointmentGrace

theorem SweepSettings.Positive.reArmSeconds {settings : SweepSettings}
    (positive : settings.Positive) : 0 < settings.reArmSeconds := by
  have fallback : 0 < alarmFallbackReArmSeconds := by norm_num [alarmFallbackReArmSeconds]
  simp [SweepSettings.reArmSeconds, positive.overdueAfterCalled, positive.nudgeInterval,
    positive.appointmentGrace, fallback]

section
variable {σ : Type} {world : AlarmWorld σ}

/-- What has been recorded from one run to a later one; the clock has gone on. -/
structure AlarmRun.Reaches (world : AlarmWorld σ) (run : AlarmRun σ) (events : List AlarmEvent)
    (run' : AlarmRun σ) : Prop where
  recorded : run'.trace = run.trace ++ events
  clock : world.now run.state ≤ world.now run'.state

theorem AlarmRun.Reaches.refl (run : AlarmRun σ) : run.Reaches world [] run :=
  ⟨(List.append_nil _).symm, le_rfl⟩

theorem AlarmRun.Reaches.trans {run run' run'' : AlarmRun σ} {events later : List AlarmEvent}
    (first : run.Reaches world events run') (second : run'.Reaches world later run'') :
    run.Reaches world (events ++ later) run'' where
  recorded := by rw [second.recorded, first.recorded, List.append_assoc]
  clock := first.clock.trans second.clock

/-- Whatever a dispatch answers, the step returns. -/
theorem runSweepStep_reaches (steady : world.Steady) (tick : Tick) (id : TicketId)
    (channel : Channel) (run : AlarmRun σ) : ∃ run',
      (do let _ ← QueueShop.runSweepStep (QueueShop.fire world tick id channel)
          : Effect (AlarmRun σ) Thrown Unit) run = (.ok (), run') ∧
        run.Reaches world [.dispatched tick id] run' := by
  have clock := steady.dispatch (tick.action id channel) run.state
  rcases answered : world.dispatch (tick.action id channel) run.state with ⟨reason | result, state⟩
  · have ran : QueueShop.runSweepStep (QueueShop.fire world tick id channel) run =
        (.ok false, { run with state }.record (.dispatched tick id)) := by
      simp [QueueShop.runSweepStep, QueueShop.fire, answered]
    rw [answered] at clock
    exact ⟨_, Effect.bind_ok ran, rfl, clock⟩
  · have ran : QueueShop.runSweepStep (QueueShop.fire world tick id channel) run =
        (.ok result.succeeded, { run with state }.record (.dispatched tick id)) := by
      simp [QueueShop.runSweepStep, QueueShop.fire, answered]
    rw [answered] at clock
    exact ⟨_, Effect.bind_ok ran, rfl, clock⟩

theorem fanOutOne_clock (steady : world.Steady) (id : TicketId) (notice : PushNotice)
    (sofar : Nat × σ) (subscription : PushSubscription) :
    world.now sofar.2 ≤ world.now (QueueShop.fanOutOne world id notice sofar subscription).2 := by
  have sent := steady.sendPush subscription notice sofar.2
  unfold QueueShop.fanOutOne
  rcases answered : world.sendPush subscription notice sofar.2 with ⟨_ | outcome, state⟩
  · rwa [answered] at sent
  · rw [answered] at sent
    cases outcome with
    | subscriptionGone => exact sent.trans (steady.deleteByEndpoint id subscription.endpoint state)
    | delivered | rejected | transportError => exact sent

theorem fanOut_clock (steady : world.Steady) (id : TicketId) (notice : PushNotice)
    (subscriptions : List PushSubscription) (sofar : Nat × σ) :
    world.now sofar.2 ≤
      world.now (subscriptions.foldl (QueueShop.fanOutOne world id notice) sofar).2 := by
  induction subscriptions generalizing sofar with
  | nil => exact le_rfl
  | cons subscription rest ih =>
    exact (fanOutOne_clock steady id notice sofar subscription).trans (ih _)

/-- A loop of which each turn dispatches its row. -/
theorem forM_reaches {body : StoredRow → Effect (AlarmRun σ) Thrown Unit} {tick : Tick}
    {rows : List StoredRow} (each : ∀ r ∈ rows, ∀ run, ∃ run', body r run = (.ok (), run') ∧
      run.Reaches world [.dispatched tick r.columns.id] run') (run : AlarmRun σ) :
    ∃ run', rows.forM body run = (.ok (), run') ∧
      run.Reaches world ((rows.map (fun r => r.columns.id)).map (.dispatched tick)) run' := by
  induction rows generalizing run with
  | nil => exact ⟨run, rfl, .refl run⟩
  | cons r rest ih =>
    obtain ⟨here, later⟩ := List.forall_mem_cons.mp each
    obtain ⟨next, did, reached⟩ := here run
    obtain ⟨last, done, went⟩ := ih later next
    refine ⟨last, ?_, reached.trans went⟩
    rw [Effect.forM_cons, Effect.bind_ok did, done]

theorem tick_reaches {body : StoredRow → Effect (AlarmRun σ) Thrown Unit} {tick : Tick}
    {rules : SweepRules} (run : AlarmRun σ)
    (each : ∀ r ∈ world.selected tick rules run.state, ∀ run, ∃ run',
      body r run = (.ok (), run') ∧ run.Reaches world [.dispatched tick r.columns.id] run') :
    ∃ ids run', (do
        let rows ← QueueShop.select world tick rules
        rows.forM body : Effect (AlarmRun σ) Thrown Unit) run = (.ok (), run') ∧
      run.Reaches world (.selected tick ids :: ids.map (.dispatched tick)) run' := by
  let rows := world.selected tick rules run.state
  let chosen := run.record (.selected tick (rows.map (fun r => r.columns.id)))
  have selected : QueueShop.select world tick rules run = (.ok rows, chosen) := rfl
  have begun : run.Reaches world [.selected tick (rows.map (fun r => r.columns.id))] chosen :=
    ⟨rfl, le_rfl⟩
  obtain ⟨run', looped, reached⟩ := forM_reaches each chosen
  exact ⟨_, run', (Effect.bind_ok selected).trans looped, begun.trans reached⟩

theorem sweepTick_reaches (steady : world.Steady) (tick : Tick) (rules : SweepRules)
    (run : AlarmRun σ) : ∃ ids run',
      QueueShop.sweepTick world tick rules run = (.ok (), run') ∧
        run.Reaches world (.selected tick ids :: ids.map (.dispatched tick)) run' :=
  tick_reaches run fun r _ => runSweepStep_reaches steady tick r.columns.id .ws

/-- Nothing that a push does can stop the turn. -/
theorem nudgeRow_reaches (steady : world.Steady) (maxNudges : ℚ) {row : StoredRow}
    (readable : row.payload.Readable) (run : AlarmRun σ) : ∃ run',
      QueueShop.nudgeRow world maxNudges row run = (.ok (), run') ∧
        run.Reaches world [.dispatched .nudge row.columns.id] run' := by
  obtain ⟨⟨displaySeq, nextNudgeCount⟩, read⟩ := (readPayload_ok_iff row.payload).mpr readable
  let notice : PushNotice := ⟨displaySeq, nextNudgeCount, maxNudges⟩
  simp only [QueueShop.nudgeRow, Effect.inspect_bind, read]
  split
  · let fanned := (world.listPushSubscriptions row.columns.id run.state).foldl
      (QueueShop.fanOutOne world row.columns.id notice) (0, run.state)
    have pushed : run.Reaches world [] { run with state := fanned.2 } :=
      ⟨(List.append_nil _).symm, fanOut_clock steady row.columns.id notice _ (0, run.state)⟩
    obtain ⟨run', ran, reached⟩ := runSweepStep_reaches steady .nudge row.columns.id
      (if 1 ≤ fanned.1 then .push else .ws) { run with state := fanned.2 }
    exact ⟨run', ran, pushed.trans reached⟩
  · exact runSweepStep_reaches steady .nudge row.columns.id .ws run

theorem nudgeRow_fails (maxNudges : ℚ) {row : StoredRow} (unreadable : ¬ row.payload.Readable)
    (run : AlarmRun σ) : ∃ e, QueueShop.nudgeRow world maxNudges row run = (.error e, run) := by
  cases read : QueueShop.readPayload row.payload with
  | ok pair => exact absurd ((readPayload_ok_iff row.payload).mp ⟨pair, read⟩) unreadable
  | error e =>
    refine ⟨e, Effect.bind_error ?_⟩
    rw [Effect.inspect_run, read]

theorem nudgeTick_reaches (steady : world.Steady) (maxNudges : ℚ) (rules : SweepRules)
    (run : AlarmRun σ)
    (readable : ∀ r ∈ world.selected .nudge rules run.state, r.payload.Readable) : ∃ ids run',
      QueueShop.nudgeTick world maxNudges rules run = (.ok (), run') ∧
        run.Reaches world (.selected .nudge ids :: ids.map (.dispatched .nudge)) run' :=
  tick_reaches run fun r mem => nudgeRow_reaches steady maxNudges (readable r mem)

theorem nudgeTick_fails (maxNudges : ℚ) (rules : SweepRules) (run : AlarmRun σ) {r : StoredRow}
    (mem : r ∈ world.selected .nudge rules run.state) (unreadable : ¬ r.payload.Readable) :
    ∃ e run', QueueShop.nudgeTick world maxNudges rules run = (.error e, run') := by
  have selected : QueueShop.select world .nudge rules run =
      (.ok (world.selected .nudge rules run.state), _) := rfl
  rw [QueueShop.nudgeTick, Effect.bind_ok selected]
  exact Effect.forM_fails mem (fun run => (nudgeRow_fails maxNudges unreadable run).imp
    fun _ failed => ⟨run, failed⟩) _

end

/-! ### The whole alarm -/

section
variable {σ : Type} {world : AlarmWorld σ}

/-- The alarm from its second tick on. -/
theorem alarm_begins {settings : SweepSettings} {s : σ} {rules : SweepRules} {run₁ : AlarmRun σ}
    (dates : settings.rules world.earlier (world.now s) = .ok rules)
    (first : QueueShop.sweepTick world .moveToOverdue rules ⟨s, []⟩ = (.ok (), run₁)) :
    QueueShop.alarm world settings ⟨s, []⟩ = (do
      QueueShop.nudgeTick world settings.maxNudges rules
      QueueShop.sweepTick world .markNoShow rules
      QueueShop.sweepTick world .lapseAppointment rules
      let endMs ← QueueShop.now world
      QueueShop.setAlarm (endMs + settings.reArmSeconds * 1000) :
        Effect (AlarmRun σ) Thrown Unit) run₁ := by
  simp only [QueueShop.alarm, QueueShop.now, Effect.inspect_bind, dates]
  exact Effect.bind_ok first

theorem alarm_completes (steady : world.Steady) {settings : SweepSettings}
    (positive : settings.Positive) {s : σ} {rules : SweepRules}
    (dates : settings.rules world.earlier (world.now s) = .ok rules)
    (readable : ∀ r ∈ world.selected .nudge rules
      (QueueShop.sweepTick world .moveToOverdue rules ⟨s, []⟩).2.state, r.payload.Readable) :
    ∃ ids ms run, QueueShop.alarm world settings ⟨s, []⟩ = (.ok (), run) ∧
      run.trace = sweptAll ids ++ [.armed ms] ∧ (world.now s : ℚ) < ms := by
  obtain ⟨ids₁, run₁, first, reached₁⟩ := sweepTick_reaches steady .moveToOverdue rules ⟨s, []⟩
  rw [first] at readable
  obtain ⟨ids₂, run₂, second, reached₂⟩ :=
    nudgeTick_reaches steady settings.maxNudges rules run₁ readable
  obtain ⟨ids₃, run₃, third, reached₃⟩ := sweepTick_reaches steady .markNoShow rules run₂
  obtain ⟨ids₄, run₄, fourth, reached₄⟩ := sweepTick_reaches steady .lapseAppointment rules run₃
  have swept := ((reached₁.trans reached₂).trans reached₃).trans reached₄
  let ms : ℚ := world.now run₄.state + settings.reArmSeconds * 1000
  refine ⟨Tick.each ids₁ ids₂ ids₃ ids₄, ms, run₄.record (.armed ms), ?_, ?_, ?_⟩
  · rw [alarm_begins dates first, Effect.bind_ok second, Effect.bind_ok third,
      Effect.bind_ok fourth]
    rfl
  · simp [AlarmRun.record, swept.recorded, sweptAll, Tick.each]
  · have clock : (world.now s : ℚ) ≤ world.now run₄.state := by exact_mod_cast swept.clock
    have later := positive.reArmSeconds
    simp only [ms]
    linarith

/-- The sweep is stopped by what its second tick cannot read, and by nothing else. -/
theorem alarm_sweeps_iff (steady : world.Steady) {settings : SweepSettings}
    (positive : settings.Positive) {s : σ} {rules : SweepRules}
    (dates : settings.rules world.earlier (world.now s) = .ok rules) :
    (∃ ids ms run, QueueShop.alarm world settings ⟨s, []⟩ = (.ok (), run) ∧
      run.trace = sweptAll ids ++ [.armed ms] ∧ (world.now s : ℚ) < ms) ↔
    ∀ r ∈ world.selected .nudge rules
        (QueueShop.sweepTick world .moveToOverdue rules ⟨s, []⟩).2.state, r.payload.Readable := by
  constructor
  · rintro ⟨ids, ms, run, ran, _⟩ r mem
    by_contra unreadable
    obtain ⟨_, run₁, first, _⟩ := sweepTick_reaches steady .moveToOverdue rules ⟨s, []⟩
    rw [first] at mem
    obtain ⟨e, run', failed⟩ := nudgeTick_fails settings.maxNudges rules run₁ mem unreadable
    rw [alarm_begins dates first, Effect.bind_error failed] at ran
    cases ran
  · exact alarm_completes steady positive dates

end

theorem Json.readable_of_count {members : List (String × Json)} {n : Int}
    (counted : (Json.object members).property "nudgeCount" = .ok (some (.number n))) :
    (Json.object members).Readable where
  present := by simp
  counted := by
    intro count _ read
    cases counted.symm.trans read
    exact fun textless => by cases textless

/-! ### The rows which the shop writes -/

def TicketState.text : TicketState → String
  | .waiting => "Waiting"
  | .called => "Called"
  | .overdue => "Overdue"
  | .served => "Served"
  | .cancelled => "Cancelled"
  | .noShow => "NoShow"

/-- The members of an encoded ticket which a nudge reads. -/
def Ticket.nudgeMembers (t : Ticket) : Json :=
  .object ([("displaySeq", .number t.displaySeq), ("state", .string (asText t.state.text))] ++
    (t.variant.overdue?.map (fun o => ("nudgeCount", Json.number o.nudgeCount))).toList)

theorem nudgeMembers_readable (t : Ticket) : t.nudgeMembers.Readable := by
  cases overdue : t.variant.overdue? with
  | none =>
    refine ⟨by simp [Ticket.nudgeMembers], fun count _ read => ?_⟩
    simp [Ticket.nudgeMembers, Json.property, overdue] at read
  | some o =>
    apply Json.readable_of_count (n := o.nudgeCount)
    simp [Json.property, overdue]

/-- The shop between two answers; each dispatch and each push has its turn. -/
structure ShopDesk where
  shop : Shop
  turn : Nat

/-- What the turns of a run bring. -/
structure ShopDay where
  ports : Nat → Ports
  now : Nat → Int
  pushEnabled : Bool
  earlier : Instant → Int → Bool
  send : Nat → PushSubscription → Option SendPushResult

def ShopDay.world (day : ShopDay) (u : Unicode) (instants : InstantText) : AlarmWorld ShopDesk where
  now desk := day.now desk.turn
  tickets desk := desk.shop.store.tickets.map (fun r => ⟨r, r.payload.json.nudgeMembers⟩)
  listPushSubscriptions ticketId desk := PushStore.list ticketId desk.shop.pushSubscriptions
  pushEnabled := day.pushEnabled
  earlier := day.earlier
  dispatch action desk :=
    let (answer, shop) := desk.shop.dispatch u instants (day.ports desk.turn) action
    (answer, ⟨shop, desk.turn + 1⟩)
  sendPush subscription _ desk :=
    (day.send desk.turn subscription, { desk with turn := desk.turn + 1 })
  deleteByEndpoint ticketId endpoint desk :=
    { desk with shop := { desk.shop with
        pushSubscriptions := PushStore.deleteByEndpoint ticketId endpoint
          desk.shop.pushSubscriptions } }

/-- No row that the shop itself has written stops a sweep. -/
theorem shop_alarm_completes {day : ShopDay} (u : Unicode) (instants : InstantText)
    (monotone : ∀ turn, day.now turn ≤ day.now (turn + 1)) {settings : SweepSettings}
    (positive : settings.Positive) {desk : ShopDesk} {rules : SweepRules}
    (dates : settings.rules day.earlier (day.now desk.turn) = .ok rules) :
    ∃ ids ms run, QueueShop.alarm (day.world u instants) settings ⟨desk, []⟩ = (.ok (), run) ∧
      run.trace = sweptAll ids ++ [.armed ms] ∧ (day.now desk.turn : ℚ) < ms := by
  have steady : (day.world u instants).Steady :=
    ⟨fun _ desk => monotone desk.turn, fun _ _ desk => monotone desk.turn, fun _ _ _ => le_rfl⟩
  refine @alarm_completes _ (day.world u instants) steady settings positive desk rules dates ?_
  intro r mem
  obtain ⟨row, _, rfl⟩ := List.mem_map.mp (List.mem_filter.mp mem).1
  exact nudgeMembers_readable row.payload.json

namespace Sample

def unanswered (n : Nat) : Ticket :=
  ⟨{ issued.ticket.toTicketCommon with
      id := ⟨n⟩, seq := n, displaySeq := n
      phoneLast4 := [0x30, 0x30, 0x30, UInt16.ofNat (0x30 + n)] },
    .overdue ⟨instant 20, .staff⟩ ⟨instant 30, none, 0⟩⟩

def storedAs (n : Nat) (payload : Json) : StoredRow :=
  ⟨ticketColumns (unanswered n) 3 ⟨unanswered n⟩, payload⟩

def countedPayload : Json :=
  .object [("state", .string (asText "Overdue")), ("displaySeq", .number 1),
    ("nudgeCount", .number 0)]

/-- Rows without events: every dispatch fails to load its ticket. -/
def rowsOnly : AlarmWorld (List StoredRow) where
  now _ := 0
  tickets := id
  listPushSubscriptions _ _ := []
  pushEnabled := false
  earlier := Instant.before
  dispatch _ rows :=
    (.ok (.error QueueError.aggregateNotFound.tag (codeOf .aggregateNotFound)), rows)
  sendPush _ _ rows := (none, rows)
  deleteByEndpoint _ _ rows := rows

theorem rowsOnly_steady : rowsOnly.Steady where
  dispatch _ _ := le_rfl
  sendPush _ _ _ := le_rfl
  deleteByEndpoint _ _ _ := le_rfl

def minutes : SweepSettings := ⟨60, 60, 3, 60⟩

theorem minutes_positive : minutes.Positive where
  overdueAfterCalled := by norm_num [minutes]
  nudgeInterval := by norm_num [minutes]
  appointmentGrace := by norm_num [minutes]

def minuteRules : SweepRules := ⟨3, -60000, -60000, -60000, Instant.before⟩

theorem minutes_rules (rows : List StoredRow) :
    minutes.rules rowsOnly.earlier (rowsOnly.now rows) = .ok minuteRules := by
  have cutoff : isoTime ((0 : Int) - 60 * 1000) = .ok (-60000) := by
    norm_num [isoTime]
  have cap : ⌈(3 : ℚ)⌉ = 3 := Int.ceil_ofNat 3
  simp only [SweepSettings.rules, minutes, rowsOnly, cutoff, cap]
  rfl

end Sample

/-- Two Overdue rows, of which the first has `null` for a payload: no nudge and no later tick is
dispatched, and no alarm is armed. -/
theorem null_row_stops_sweep :
    let rows := [Sample.storedAs 1 .null, Sample.storedAs 2 Sample.countedPayload]
    Sample.rowsOnly.Steady ∧ Sample.minutes.Positive ∧
      Sample.minutes.rules Sample.rowsOnly.earlier (Sample.rowsOnly.now rows) =
        .ok Sample.minuteRules ∧
      QueueShop.alarm Sample.rowsOnly Sample.minutes ⟨rows, []⟩ =
        (.error .typeError,
          ⟨rows, [.selected .moveToOverdue [], .selected .nudge [⟨1⟩, ⟨2⟩]]⟩) := by
  intro rows
  refine ⟨Sample.rowsOnly_steady, Sample.minutes_positive, Sample.minutes_rules rows, ?_⟩
  simp only [QueueShop.alarm, QueueShop.now, Effect.inspect_bind, Sample.minutes_rules rows]
  rfl

theorem alarm_sweeps_iff_sample :
    let rows := [Sample.storedAs 1 Sample.countedPayload, Sample.storedAs 2 Sample.countedPayload]
    ∃ ids ms run, QueueShop.alarm Sample.rowsOnly Sample.minutes ⟨rows, []⟩ = (.ok (), run) ∧
      run.trace = sweptAll ids ++ [.armed ms] ∧ ((Sample.rowsOnly.now rows : Int) : ℚ) < ms := by
  intro rows
  refine (alarm_sweeps_iff Sample.rowsOnly_steady Sample.minutes_positive
    (Sample.minutes_rules rows)).mpr ?_
  have selected : Sample.rowsOnly.selected .nudge Sample.minuteRules
      (QueueShop.sweepTick Sample.rowsOnly .moveToOverdue Sample.minuteRules ⟨rows, []⟩).2.state =
        rows := rfl
  intro r mem
  rw [selected] at mem
  have same : r.payload = Sample.countedPayload := by
    simp only [rows, List.mem_cons, List.not_mem_nil, or_false] at mem
    rcases mem with rfl | rfl
    · rfl
    · rfl
  rw [same]
  exact Json.readable_of_count rfl

end SlotBooking
