import SlotBooking.Library.Timers
import SlotBooking.Library.Trace

/-! The chime of a call, which repeats until it is stopped. Listeners return, and leave the
controller alone; a context which has been constructed plays what it is given. -/
namespace SlotBooking

inductive ChimeCallback where
  | tick
  | stop
deriving DecidableEq

/-- What a timer calls, and the context of the start which it comes from: each start makes a `tick`
of its own. -/
structure ChimeTimeout where
  ctx : Nat
  callback : ChimeCallback
deriving DecidableEq

/-- `Running`. A context is named by its number in the order of construction. -/
structure ChimeRun where
  ctx : Nat
  cycleTimer : Nat
  endTimer : Nat
deriving DecidableEq

/-- What becomes of `new AudioContext()`; the browser may not have it. -/
inductive AudioCtor where
  | missing
  | throws
  | constructs
deriving DecidableEq

inductive ChimeEffect where
  | close (ctx : Nat)
  | resume (ctx : Nat)
  | playCycle (ctx : Nat)
  | setTimeout (delayMs : Nat)
  | notify (next : Bool)
deriving DecidableEq

/-- What a listener hears of it. -/
def ChimeEffect.heard : ChimeEffect → Option Bool
  | .notify next => some next
  | _ => none

/-- The variables of the module, with the timers it has armed, the number of contexts it has
constructed and those which it has not closed. -/
structure ChimeController where
  running : Option ChimeRun
  playing : Bool
  timers : Timers ChimeTimeout
  constructed : Nat
  unclosed : List Nat

inductive ChimeEvent where
  | start (audio : AudioCtor)
  | stop
  | timeout (timer : Nat)
deriving DecidableEq

def cycleMs : Nat := 2000

def chimeTimeoutMs : Nat := 15000

namespace ChimeController

variable (c : ChimeController)

def initial : ChimeController := ⟨none, false, .empty, 0, []⟩

def teardownRunning : ChimeController × List ChimeEffect :=
  match c.running with
  | none => (c, [])
  | some r =>
    ({ c with running := none,
              timers := (c.timers.clear r.cycleTimer).clear r.endTimer,
              unclosed := c.unclosed.filter (· ≠ r.ctx) },
      [.close r.ctx])

def stop : ChimeController × List ChimeEffect :=
  let torn := c.teardownRunning
  if torn.1.playing then ({ torn.1 with playing := false }, torn.2 ++ [.notify false]) else torn

/-- The run of a context which has just been constructed, while no other is held. -/
def beginRun : ChimeController × List ChimeEffect :=
  let ctx := c.constructed
  let ticking := c.timers.set ⟨ctx, .tick⟩
  let started := { c with running := some ⟨ctx, c.timers.nextId, ticking.nextId⟩,
                          timers := ticking.set ⟨ctx, .stop⟩,
                          constructed := ctx + 1,
                          unclosed := c.unclosed ++ [ctx] }
  let sounds := [.resume ctx, .playCycle ctx, .setTimeout cycleMs, .setTimeout chimeTimeoutMs]
  if c.playing then (started, sounds)
  else ({ started with playing := true }, sounds ++ [.notify true])

/-- What is held is torn down before the constructor is called, and `playing` is kept. -/
def start : AudioCtor → ChimeController × List ChimeEffect
  | .missing => (c, [])
  | .throws => c.teardownRunning
  | .constructs =>
    let torn := c.teardownRunning
    let begun := torn.1.beginRun
    (begun.1, torn.2 ++ begun.2)

/-- The `tick` of a start; it plays and goes on in whatever run is held. -/
def tick (ctx : Nat) : ChimeController × List ChimeEffect :=
  match c.running with
  | none => (c, [])
  | some r =>
    ({ c with running := some { r with cycleTimer := c.timers.nextId },
              timers := c.timers.set ⟨ctx, .tick⟩ },
      [.playCycle r.ctx, .setTimeout cycleMs])

/-- A timer fires if it is armed, and is gone before its callback runs. -/
def fire (timer : Nat) : ChimeController × List ChimeEffect :=
  match c.timers.get timer with
  | none => (c, [])
  | some ⟨ctx, .tick⟩ => tick { c with timers := c.timers.clear timer } ctx
  | some ⟨_, .stop⟩ => stop { c with timers := c.timers.clear timer }

def handle : ChimeEvent → ChimeController × List ChimeEffect
  | .start audio => c.start audio
  | .stop => c.stop
  | .timeout timer => c.fire timer

def next (event : ChimeEvent) : ChimeController := (c.handle event).1

/-- What a page hears which has subscribed before the run. -/
def heard : List ChimeEvent → ChimeController → List Bool
  | [], _ => []
  | event :: rest, c => (c.handle event).2.filterMap ChimeEffect.heard ++ heard rest (c.next event)

/-- It reports playing if and only if a run is held. -/
def Reports : Prop := c.playing = true ↔ c.running ≠ none

/-- No two timers are armed to repeat, nor to end. -/
def OneOfEach : Prop :=
  ∀ timer other timeout timeout', c.timers.get timer = some timeout →
    c.timers.get other = some timeout' → timeout.callback = timeout'.callback → timer = other

/-- From here on no timer of an earlier run does anything: one which has been armed by now fires
without a sound and leaves the state alone, and any which comes to be armed is of a start since. -/
def Silenced : Prop :=
  ∀ (later : List ChimeEvent) (timer : Nat), let after := later.foldl next c
    (timer < c.timers.nextId → after.fire timer = (after, [])) ∧
    ∀ timeout, after.timers.get timer = some timeout → c.constructed ≤ timeout.ctx

/-- The event which calls `stop`, be it the page or the timer which ends a run. -/
def Stops : ChimeEvent → Prop
  | .start _ => False
  | .stop => True
  | .timeout timer => ∃ ctx, c.timers.get timer = some ⟨ctx, .stop⟩

def Silences (event : ChimeEvent) : Prop := c.Stops event → (c.next event).Silenced

/-- The constructor does not throw while the controller is playing. -/
def Restartable (event : ChimeEvent) : Prop := event = .start .throws → c.playing = false

/-- Nothing is armed or open which a teardown would leave behind. -/
structure Owned : Prop where
  timers : ∀ timer, c.timers.get timer ≠ none →
    ∃ r, c.running = some r ∧ (timer = r.cycleTimer ∨ timer = r.endTimer)
  unclosed : c.unclosed = (c.running.map ChimeRun.ctx).toList

/-- Armed are the timers of the run held, unclosed is its context, and it is reported. -/
structure Tidy : Prop where
  armed : ∀ timer timeout, c.timers.get timer = some timeout ↔ ∃ r, c.running = some r ∧
    (timer = r.cycleTimer ∧ timeout = ⟨r.ctx, .tick⟩ ∨
      timer = r.endTimer ∧ timeout = ⟨r.ctx, .stop⟩)
  reported : c.running ≠ none → c.playing = true
  constructed : ∀ r, c.running = some r → r.ctx < c.constructed
  unclosed : c.unclosed = (c.running.map ChimeRun.ctx).toList

variable {c} {event : ChimeEvent} {timer : Nat}

theorem tidy_initial : initial.Tidy where
  armed timer timeout := by
    simp [initial, Timers.get, Timers.empty, InsertionMap.get, InsertionMap.empty]
  reported held := absurd rfl held
  constructed r held := by cases held
  unclosed := rfl

/-! ### Timers -/

theorem Tidy.timers_idle (tidy : c.Tidy) (idle : c.running = none) (timer : Nat) :
    c.timers.get timer = none := by
  cases found : c.timers.get timer with
  | none => rfl
  | some timeout =>
    obtain ⟨r, held, _⟩ := (tidy.armed timer timeout).mp found
    cases idle.symm.trans held

theorem Tidy.cycle_armed (tidy : c.Tidy) {r : ChimeRun} (held : c.running = some r) :
    c.timers.get r.cycleTimer = some ⟨r.ctx, .tick⟩ :=
  (tidy.armed _ _).mpr ⟨r, held, .inl ⟨rfl, rfl⟩⟩

theorem Tidy.end_armed (tidy : c.Tidy) {r : ChimeRun} (held : c.running = some r) :
    c.timers.get r.endTimer = some ⟨r.ctx, .stop⟩ :=
  (tidy.armed _ _).mpr ⟨r, held, .inr ⟨rfl, rfl⟩⟩

theorem Tidy.timers_apart (tidy : c.Tidy) {r : ChimeRun} (held : c.running = some r) :
    r.cycleTimer ≠ r.endTimer := by
  intro same
  have tick := tidy.cycle_armed held
  rw [same, tidy.end_armed held] at tick
  cases tick

theorem Tidy.oneOfEach (tidy : c.Tidy) : c.OneOfEach := by
  intro timer other timeout timeout' found found' same
  obtain ⟨r, held, own⟩ := (tidy.armed timer timeout).mp found
  obtain ⟨r', held', own'⟩ := (tidy.armed other timeout').mp found'
  cases held.symm.trans held'
  rcases own with ⟨rfl, rfl⟩ | ⟨rfl, rfl⟩ <;> rcases own' with ⟨rfl, rfl⟩ | ⟨rfl, rfl⟩
  · rfl
  · cases same
  · cases same
  · rfl

/-! ### The functions -/

theorem teardownRunning_running (c : ChimeController) : c.teardownRunning.1.running = none := by
  unfold teardownRunning
  cases held : c.running with
  | none => exact held
  | some r => rfl

theorem teardownRunning_playing (c : ChimeController) :
    c.teardownRunning.1.playing = c.playing := by
  unfold teardownRunning
  cases c.running <;> rfl

theorem teardownRunning_constructed (c : ChimeController) :
    c.teardownRunning.1.constructed = c.constructed := by
  unfold teardownRunning
  cases c.running <;> rfl

/-- A stop is a teardown after which nothing is reported. -/
theorem stop_eq (c : ChimeController) :
    c.stop.1 = { c.teardownRunning.1 with playing := false } := by
  unfold stop
  by_cases playing : c.teardownRunning.1.playing = true
  · simp [playing]
  · simp only [playing, Bool.false_eq_true, if_false]
    rw [Bool.not_eq_true] at playing
    rw [← playing]

theorem stop_running (c : ChimeController) : c.stop.1.running = none := by
  rw [stop_eq]
  exact c.teardownRunning_running

theorem stop_playing (c : ChimeController) : c.stop.1.playing = false := by
  rw [stop_eq]

theorem beginRun_eq (c : ChimeController) : c.beginRun.1 =
    { running := some ⟨c.constructed, c.timers.nextId, c.timers.nextId + 1⟩
      playing := true
      timers := (c.timers.set ⟨c.constructed, .tick⟩).set ⟨c.constructed, .stop⟩
      constructed := c.constructed + 1
      unclosed := c.unclosed ++ [c.constructed] } := by
  unfold beginRun
  by_cases playing : c.playing = true
  · simp [playing, Timers.set]
  · simp [playing, Timers.set]

theorem Tidy.owned (tidy : c.Tidy) : c.Owned where
  timers timer some_ := by
    obtain ⟨timeout, found⟩ := Option.ne_none_iff_exists'.mp some_
    obtain ⟨r, held, ⟨own, _⟩ | ⟨own, _⟩⟩ := (tidy.armed timer timeout).mp found
    · exact ⟨r, held, .inl own⟩
    · exact ⟨r, held, .inr own⟩
  unclosed := tidy.unclosed

theorem Owned.fired (owned : c.Owned) (timer : Nat) :
    Owned { c with timers := c.timers.clear timer } where
  timers other some_ := by
    apply owned.timers other
    intro none_
    rw [Timers.get_clear, none_, ite_self] at some_
    exact some_ rfl
  unclosed := owned.unclosed

theorem Owned.torn_timers (owned : c.Owned) (timer : Nat) :
    c.teardownRunning.1.timers.get timer = none := by
  by_contra some_
  unfold teardownRunning at some_
  cases held : c.running with
  | none =>
    rw [held] at some_
    obtain ⟨r, held', _⟩ := owned.timers timer some_
    cases held.symm.trans held'
  | some r =>
    simp only [held, Timers.get_clear] at some_
    split at some_
    · exact some_ rfl
    · rename_i ends
      split at some_
      · exact some_ rfl
      · rename_i cycle
        obtain ⟨r', held', own⟩ := owned.timers timer some_
        cases held.symm.trans held'
        exact own.elim cycle ends

theorem Owned.torn_unclosed (owned : c.Owned) : c.teardownRunning.1.unclosed = [] := by
  have unclosed := owned.unclosed
  unfold teardownRunning
  cases held : c.running with
  | none => rwa [held] at unclosed
  | some r =>
    rw [held] at unclosed
    simp [unclosed]

/-- Nothing is held, and what was armed is not any more. -/
theorem tidy_idle (idle : c.running = none) (timers : ∀ timer, c.timers.get timer = none)
    (unclosed : c.unclosed = []) : c.Tidy where
  armed timer timeout := by simp [idle, timers]
  reported held := absurd idle held
  constructed r held := by cases idle.symm.trans held
  unclosed := by simp [idle, unclosed]

theorem Owned.torn (owned : c.Owned) : c.teardownRunning.1.Tidy :=
  tidy_idle c.teardownRunning_running owned.torn_timers owned.torn_unclosed

theorem Owned.stop (owned : c.Owned) : c.stop.1.Tidy := by
  rw [stop_eq]
  exact tidy_idle c.teardownRunning_running owned.torn_timers owned.torn_unclosed

/-- A start which constructs, from a state in which nothing is held. -/
theorem Tidy.beginRun (tidy : c.Tidy) (idle : c.running = none) : c.beginRun.1.Tidy := by
  have timers := tidy.timers_idle idle
  have unclosed := tidy.unclosed
  rw [beginRun_eq]
  refine ⟨fun timer timeout => ?_, fun _ => rfl, fun r held => ?_, ?_⟩
  · simp only [Timers.get_set, timers, Option.some.injEq, exists_eq_left']
    have later : c.timers.nextId + 1 ≠ c.timers.nextId := Nat.succ_ne_self _
    by_cases ends : timer = c.timers.nextId + 1
    · subst ends
      simp [Timers.set, eq_comm]
    · by_cases cycle : timer = c.timers.nextId
      · subst cycle
        simp [Timers.set, eq_comm]
      · simp [Timers.set, ends, cycle]
  · cases held
    exact Nat.lt_succ_self _
  · rw [unclosed, idle]
    rfl

/-- A tick goes on in the run of its own start, which is the one held. -/
theorem Tidy.tick (tidy : c.Tidy) {ctx : Nat} (found : c.timers.get timer = some ⟨ctx, .tick⟩) :
    ∃ r, c.running = some r ∧ r.ctx = ctx ∧
      (tick { c with timers := c.timers.clear timer } ctx).1.Tidy := by
  obtain ⟨r, held, ⟨rfl, same⟩ | ⟨_, other⟩⟩ := (tidy.armed timer _).mp found
  case inr => cases other
  cases same
  refine ⟨r, held, rfl, ?_⟩
  have ends := tidy.end_armed held
  have below : r.endTimer ≠ c.timers.nextId :=
    Nat.ne_of_lt (c.timers.below _ _ ends)
  have apart := tidy.timers_apart held
  have ran : (ChimeController.tick { c with timers := c.timers.clear r.cycleTimer } r.ctx).1 =
      { c with running := some { r with cycleTimer := c.timers.nextId },
               timers := (c.timers.clear r.cycleTimer).set ⟨r.ctx, .tick⟩ } := by
    simp [ChimeController.tick, held, Timers.clear]
  rw [ran]
  refine ⟨fun timer timeout => ?_, fun _ => tidy.reported (by simp [held]), fun r' held' => ?_, ?_⟩
  · have fresh : (c.timers.clear r.cycleTimer).nextId = c.timers.nextId := rfl
    simp only [Timers.get_set, Timers.get_clear, fresh, Option.some.injEq, exists_eq_left']
    by_cases new : timer = c.timers.nextId
    · subst new
      rw [if_pos rfl, Option.some.injEq]
      constructor
      · intro own
        exact .inl ⟨rfl, own.symm⟩
      · rintro (⟨_, own⟩ | ⟨ends', _⟩)
        · exact own.symm
        · exact absurd ends'.symm below
    · by_cases old : timer = r.cycleTimer
      · subst old
        simp [new, apart]
      · rw [if_neg new, if_neg old, tidy.armed timer timeout]
        simp [held, new, old]
  · cases held'
    exact tidy.constructed r held
  · rw [tidy.unclosed, held]
    rfl

theorem Tidy.next (tidy : c.Tidy) (event : ChimeEvent) : (c.next event).Tidy := by
  cases event with
  | start audio =>
    cases audio with
    | missing => exact tidy
    | throws => exact tidy.owned.torn
    | constructs => exact tidy.owned.torn.beginRun c.teardownRunning_running
  | stop => exact tidy.owned.stop
  | timeout timer =>
    rw [ChimeController.next, handle, fire]
    split
    · exact tidy
    · rename_i ctx found
      obtain ⟨r, _, _, kept⟩ := tidy.tick found
      exact kept
    · exact (tidy.owned.fired timer).stop

/-! ### Reports -/

theorem stop_reports (c : ChimeController) : c.stop.1.Reports := by
  simp [Reports, stop_running, stop_playing]

/-- A step keeps the report right, unless the constructor throws in the midst of a run. -/
theorem Tidy.reports_next (tidy : c.Tidy) (event : ChimeEvent) (right : c.Reports) :
    (c.next event).Reports ↔ c.Restartable event := by
  cases event with
  | start audio =>
    cases audio with
    | missing => exact iff_of_true right (by simp [Restartable])
    | throws =>
      have after : c.next (.start .throws) = c.teardownRunning.1 := rfl
      rw [after, Reports, Restartable, teardownRunning_playing, teardownRunning_running]
      simp
    | constructs =>
      have begun : c.next (.start .constructs) = c.teardownRunning.1.beginRun.1 := rfl
      rw [begun, beginRun_eq]
      exact iff_of_true (by simp [Reports]) (by simp [Restartable])
  | stop =>
    have after : c.next .stop = c.stop.1 := rfl
    rw [after]
    exact iff_of_true c.stop_reports (by simp [Restartable])
  | timeout timer =>
    refine iff_of_true ?_ (by simp [Restartable])
    rw [ChimeController.next, handle, fire]
    split
    · exact right
    · rename_i ctx found
      obtain ⟨r, held, _, kept⟩ := tidy.tick found
      have playing := tidy.reported (by simp [held])
      simp [Reports, ChimeController.tick, held, playing]
    · exact stop_reports { c with timers := c.timers.clear timer }

/-! ### Listeners -/

theorem teardownRunning_heard (c : ChimeController) :
    c.teardownRunning.2.filterMap ChimeEffect.heard = [] := by
  unfold teardownRunning
  cases c.running <;> rfl

theorem stop_heard (c : ChimeController) : c.stop.2.filterMap ChimeEffect.heard =
    if c.stop.1.playing = c.playing then [] else [c.stop.1.playing] := by
  rw [stop_eq]
  unfold ChimeController.stop
  cases playing : c.playing with
  | true => simp [teardownRunning_playing, playing, teardownRunning_heard, ChimeEffect.heard]
  | false => simp [teardownRunning_playing, playing, teardownRunning_heard]

theorem beginRun_heard (c : ChimeController) : c.beginRun.2.filterMap ChimeEffect.heard =
    if c.beginRun.1.playing = c.playing then [] else [c.beginRun.1.playing] := by
  rw [beginRun_eq]
  unfold ChimeController.beginRun
  cases playing : c.playing <;> simp [ChimeEffect.heard, List.filterMap_cons]

theorem tick_heard (c : ChimeController) (ctx : Nat) :
    (c.tick ctx).2.filterMap ChimeEffect.heard = [] ∧ (c.tick ctx).1.playing = c.playing := by
  unfold ChimeController.tick
  cases c.running <;> exact ⟨rfl, rfl⟩

/-- A listener is told of a change, and of nothing else. -/
theorem handle_heard (c : ChimeController) (event : ChimeEvent) :
    (c.handle event).2.filterMap ChimeEffect.heard =
      if (c.next event).playing = c.playing then [] else [(c.next event).playing] := by
  rw [ChimeController.next]
  cases event with
  | start audio =>
    cases audio with
    | missing => exact (if_pos rfl).symm
    | throws =>
      rw [handle, start, teardownRunning_heard, if_pos c.teardownRunning_playing]
    | constructs =>
      have begun := c.teardownRunning.1.beginRun_heard
      rw [teardownRunning_playing] at begun
      rw [handle, start, List.filterMap_append, teardownRunning_heard, List.nil_append, begun]
  | stop => exact c.stop_heard
  | timeout timer =>
    rw [handle, fire]
    split
    · exact (if_pos rfl).symm
    · rename_i ctx found
      obtain ⟨silent, same⟩ := tick_heard { c with timers := c.timers.clear timer } ctx
      rw [silent, if_pos same]
    · exact stop_heard { c with timers := c.timers.clear timer }

/-- What is heard goes to and fro, and the last of it is what the controller reports. -/
theorem heard_alternates (events : List ChimeEvent) (c : ChimeController) :
    List.IsChain (· ≠ ·) (c.playing :: heard events c) ∧
      (heard events c).getLast?.getD c.playing = (events.foldl next c).playing := by
  induction events generalizing c with
  | nil => exact ⟨.singleton _, rfl⟩
  | cons event rest ih =>
    obtain ⟨chain, last⟩ := ih (c.next event)
    rw [heard, handle_heard, List.foldl_cons, ← last]
    split
    · rename_i same
      rw [List.nil_append, ← same]
      exact ⟨chain, rfl⟩
    · rename_i changed
      rw [List.singleton_append]
      refine ⟨List.isChain_cons_cons.mpr ⟨Ne.symm changed, chain⟩, ?_⟩
      cases heard rest (c.next event) <;> simp [List.getLast?_cons]

/-! ### Silence -/

/-- What has come of a state: its timers have not come back, and runs are of later starts. -/
structure Since (stopped c : ChimeController) : Prop where
  retired : ∀ timer, timer < stopped.timers.nextId → c.timers.Retired timer
  constructed : stopped.constructed ≤ c.constructed
  running : ∀ r, c.running = some r → stopped.constructed ≤ r.ctx

variable {stopped : ChimeController}

theorem Tidy.since (tidy : c.Tidy) (idle : c.running = none) : c.Since c where
  retired timer armed := ⟨armed, tidy.timers_idle idle timer⟩
  constructed := Nat.le_refl _
  running r held := by cases idle.symm.trans held

theorem Since.fired (since : stopped.Since c) (timer : Nat) :
    stopped.Since { c with timers := c.timers.clear timer } where
  retired other armed := (since.retired other armed).clear timer
  constructed := since.constructed
  running := since.running

theorem Since.torn (since : stopped.Since c) : stopped.Since c.teardownRunning.1 where
  retired timer armed := by
    have retired := since.retired timer armed
    unfold teardownRunning
    cases c.running with
    | none => exact retired
    | some r => exact (retired.clear _).clear _
  constructed := by
    rw [teardownRunning_constructed]
    exact since.constructed
  running r held := by cases c.teardownRunning_running.symm.trans held

theorem Since.stop (since : stopped.Since c) : stopped.Since c.stop.1 := by
  rw [stop_eq]
  exact ⟨since.torn.retired, since.torn.constructed, since.torn.running⟩

theorem Since.beginRun (since : stopped.Since c) : stopped.Since c.beginRun.1 := by
  rw [beginRun_eq]
  refine ⟨fun timer armed => ((since.retired timer armed).set _).set _,
    Nat.le_succ_of_le since.constructed, fun r held => ?_⟩
  cases held
  exact since.constructed

theorem Since.tick (since : stopped.Since c) (ctx : Nat) : stopped.Since (c.tick ctx).1 := by
  unfold ChimeController.tick
  cases held : c.running with
  | none => exact since
  | some r =>
    refine ⟨fun timer armed => (since.retired timer armed).set _, since.constructed, ?_⟩
    intro r' held'
    cases held'
    exact since.running r held

theorem Since.next (since : stopped.Since c) (event : ChimeEvent) :
    stopped.Since (c.next event) := by
  cases event with
  | start audio =>
    cases audio with
    | missing => exact since
    | throws => exact since.torn
    | constructs => exact since.torn.beginRun
  | stop => exact since.stop
  | timeout timer =>
    rw [ChimeController.next, handle, fire]
    split
    · exact since
    · exact (since.fired timer).tick _
    · exact (since.fired timer).stop

/-- Where nothing is held, everything which came before is silent for good. -/
theorem Tidy.silenced (tidy : c.Tidy) (idle : c.running = none) : c.Silenced := by
  intro later timer
  have always : Trace.Always ChimeController.next (fun s => s.Tidy ∧ c.Since s) later c :=
    Trace.always_of_invariant (fun event _ _ kept => ⟨kept.1.next event, kept.2.next event⟩)
      (fun _ kept => kept) ⟨tidy, tidy.since idle⟩
  obtain ⟨kept, since⟩ := always.after
  refine ⟨fun armed => ?_, fun timeout found => ?_⟩
  · rw [fire, (since.retired timer armed).gone]
  · obtain ⟨r, held, own⟩ := (kept.armed timer timeout).mp found
    have ctx : timeout.ctx = r.ctx := by rcases own with ⟨_, rfl⟩ | ⟨_, rfl⟩ <;> rfl
    exact ctx ▸ since.running r held

theorem Tidy.silences (tidy : c.Tidy) (event : ChimeEvent) : c.Silences event := by
  intro stops
  have idle : (c.next event).running = none := by
    cases event with
    | start audio => cases stops
    | stop => exact c.stop_running
    | timeout timer =>
      obtain ⟨ctx, found⟩ := stops
      rw [ChimeController.next, handle, fire, found]
      exact stop_running { c with timers := c.timers.clear timer }
  exact (tidy.next event).silenced idle

/-! ### Runs -/

/-- Over every run, whatever the constructor does: the controller reports playing just while a run
is held if and only if the constructor never throws in the midst of a run. There is never more than
one timer of each kind, and whoever stops it, nothing of before is heard of again. -/
theorem reports_iff_restartable (events : List ChimeEvent) :
    (Trace.Always next Reports events initial ↔
        Trace.Throughout next Restartable events initial) ∧
      Trace.Always next OneOfEach events initial ∧
      Trace.Throughout next Silences events initial := by
  refine ⟨?_, ?_, ?_⟩
  · refine Trace.always_iff_throughout (fun c event (tidy : c.Tidy) => tidy.next event) ?_
      tidy_initial (by simp [Reports, initial])
    exact fun c event tidy right => tidy.reports_next event right
  · exact Trace.always_of_invariant (fun event _ c (tidy : c.Tidy) => tidy.next event)
      (fun _ tidy => tidy.oneOfEach) tidy_initial
  · exact Trace.throughout_of_invariant (fun event _ c (tidy : c.Tidy) => tidy.next event)
      (fun event _ _ tidy => tidy.silences event) tidy_initial

/-- A start which replaces a run and fails leaves the report on, with no timer to take it back. -/
theorem failed_restart_still_reports :
    let c := next (next initial (.start .constructs)) (.start .throws)
    c.playing = true ∧ c.running = none ∧ (∀ timer, c.timers.get timer = none) ∧
      ¬ Trace.Always next Reports [.start .constructs, .start .throws] initial := by
  intro c
  have playing : c.playing = true := rfl
  have idle : c.running = none := rfl
  have tidy : c.Tidy := (tidy_initial.next (.start .constructs)).next (.start .throws)
  refine ⟨playing, idle, tidy.timers_idle idle, fun always => ?_⟩
  have right : c.Reports := always.after
  exact right.mp playing idle

end ChimeController

end SlotBooking
