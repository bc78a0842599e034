import SlotBooking.Library.Trace
import SlotBooking.Web.ServiceWorker

/-! The queue feed of the page: a socket, and once that is closed a timer to the next one. The
callbacks return, and leave the handle alone. -/
namespace SlotBooking

inductive QueueFeedState where
  | connecting
  | open
  | reconnecting
  | closed
deriving DecidableEq

/-- The `readyState` of a `WebSocket`. -/
inductive ReadyState where
  | connecting
  | open
  | closing
  | closed
deriving DecidableEq

/-- `socket.close`; a socket which is closing or closed stays as it is. -/
def ReadyState.close : ReadyState → ReadyState
  | .connecting | .open => .closing
  | s => s

/-- What the client does: a socket it creates, a timer it arms, a callback it calls. -/
inductive FeedEffect where
  | webSocket
  | setTimeout (delayMs : Nat)
  | onState (next : QueueFeedState)
  | onProjection (parsed : JsonValue)
  | onError (kind : String)

/-- The variables of `connectQueueFeed`, with the sockets it has created and the timers which are
pending. `socket` is the last one created. -/
structure QueueFeed where
  attempt : Nat
  manualClose : Bool
  currentState : QueueFeedState
  sockets : List ReadyState
  timers : List Nat
deriving DecidableEq

/-- The data of a message has no value where it does not parse. Numbers name a socket in the order
of creation, or a pending timer. -/
inductive FeedEvent where
  | onopen (socket : Nat)
  | onmessage (socket : Nat) (data : Option JsonValue)
  | onerror (socket : Nat)
  | onclose (socket : Nat)
  | timeout (timer : Nat)
  | close

def reconnectDelaysMs : List Nat := [500, 1000, 2000, 4000, 4000, 4000, 4000, 4000, 4000, 4000]

namespace QueueFeed

variable (feed : QueueFeed)

def setState (next : QueueFeedState) : QueueFeed × List FeedEffect :=
  ({ feed with currentState := next }, [.onState next])

def connect : QueueFeed × List FeedEffect :=
  ({ feed with sockets := feed.sockets ++ [.connecting] }, [.webSocket])

/-- The next socket is a timer away, unless there is to be none. -/
def onclose : QueueFeed × List FeedEffect :=
  if feed.manualClose || reconnectDelaysMs.length ≤ feed.attempt then feed.setState .closed
  else
    let delay := reconnectDelaysMs.getD feed.attempt 0
    ({ feed with attempt := feed.attempt + 1, currentState := .reconnecting,
                 timers := feed.timers ++ [delay] },
      [.onState .reconnecting, .setTimeout delay])

def initial : QueueFeed :=
  (connect ⟨0, false, .connecting, [], []⟩).1

def set (socket : Nat) (state : ReadyState) : QueueFeed :=
  { feed with sockets := feed.sockets.set socket state }

/-- The handlers; the state of the socket has changed before one is called. -/
def handle : FeedEvent → QueueFeed × List FeedEffect
  | .onopen socket => setState { feed.set socket .open with attempt := 0 } .open
  | .onmessage _ (some parsed) => (feed, [.onProjection parsed])
  | .onmessage _ none => (feed, [.onError "ParseError"])
  | .onerror _ => (feed, [.onError "NetworkError"])
  | .onclose socket => (feed.set socket .closed).onclose
  | .timeout timer => connect { feed with timers := feed.timers.eraseIdx timer }
  | .close =>
    ({ feed with manualClose := true,
                 sockets := feed.sockets.modify (feed.sockets.length - 1) ReadyState.close }, [])

def next (event : FeedEvent) : QueueFeed := (feed.handle event).1

/-- What the platform can do: a socket opens once, has messages while it is open and closes once;
a timer fires while it is pending. -/
def Possible : FeedEvent → Prop
  | .onopen socket => feed.sockets[socket]? = some .connecting
  | .onmessage socket _ => feed.sockets[socket]? = some .open
  | .onerror socket | .onclose socket => ∃ s, feed.sockets[socket]? = some s ∧ s ≠ .closed
  | .timeout timer => timer < feed.timers.length
  | .close => True

/-- No socket is created, no timer is armed, and no feed is reported open. -/
def Quiet (event : FeedEvent) : Prop :=
  ∀ effect ∈ (feed.handle event).2, effect ≠ .webSocket ∧ (∀ delayMs, effect ≠ .setTimeout delayMs) ∧
    effect ≠ .onState .open

def liveSockets : Nat := feed.sockets.countP (· ≠ .closed)

def OneAtMost : Prop := feed.liveSockets ≤ 1 ∧ feed.timers.length ≤ 1

/-- All sockets but the last are closed, and a timer is pending only once that one is closed. -/
def OneAtATime : Prop :=
  ∃ earlier socket, feed.sockets = earlier ++ [socket] ∧ (∀ s ∈ earlier, s = .closed) ∧
    (feed.timers = [] ∨ socket = .closed ∧ feed.timers.length = 1)

/-- Closed by hand, with nothing left which could connect or open again. -/
structure Finished : Prop where
  manual : feed.manualClose = true
  timers : feed.timers = []
  sockets : ∀ s ∈ feed.sockets, s = .closing ∨ s = .closed

end QueueFeed

namespace QueueFeed

variable {feed : QueueFeed} {event : FeedEvent}

theorem OneAtATime.atMost (one : feed.OneAtATime) : feed.OneAtMost := by
  obtain ⟨earlier, socket, sockets, closed, timer⟩ := one
  have none_ : earlier.countP (· ≠ .closed) = 0 := by simpa using closed
  constructor
  · rw [liveSockets, sockets, List.countP_append, none_, List.countP_singleton]
    split <;> simp
  · rcases timer with none_ | ⟨_, single⟩
    · simp [none_]
    · exact Nat.le_of_eq single

theorem initial_one : initial.OneAtATime := ⟨[], .connecting, rfl, by simp, .inl rfl⟩

/-- A socket which is not closed is the last one. -/
theorem set_live {earlier : List ReadyState} {socket : ReadyState} {i : Nat} {s : ReadyState}
    (closed : ∀ s ∈ earlier, s = .closed) (at_ : (earlier ++ [socket])[i]? = some s)
    (live : s ≠ .closed) (state : ReadyState) :
    s = socket ∧ (earlier ++ [socket]).set i state = earlier ++ [state] := by
  by_cases inside : i < earlier.length
  · rw [List.getElem?_append_left inside] at at_
    exact absurd (closed s (List.mem_of_getElem? at_)) live
  · obtain rfl : i = earlier.length := by
      have bound := (List.getElem?_eq_some_iff.mp at_).1
      simp at bound
      omega
    simp at at_
    simp [at_]

theorem close_last (earlier : List ReadyState) (socket : ReadyState) :
    (earlier ++ [socket]).modify earlier.length ReadyState.close = earlier ++ [socket.close] := by
  induction earlier with
  | nil => rfl
  | cons s earlier ih => simp [ih]

theorem onclose_sockets (feed : QueueFeed) : feed.onclose.1.sockets = feed.sockets := by
  unfold onclose
  split <;> rfl

theorem onclose_timers (feed : QueueFeed) : feed.onclose.1.timers = feed.timers ∨
    ∃ delayMs, feed.onclose.1.timers = feed.timers ++ [delayMs] := by
  unfold onclose
  split
  · exact .inl rfl
  · exact .inr ⟨_, rfl⟩

theorem OneAtATime.next (one : feed.OneAtATime) (possible : feed.Possible event) :
    (feed.next event).OneAtATime := by
  obtain ⟨earlier, socket, sockets, closed, timer⟩ := one
  cases event with
  | onopen i =>
    rw [Possible, sockets] at possible
    obtain ⟨rfl, opened⟩ := set_live closed possible (by simp) .open
    refine ⟨earlier, .open, by simp [QueueFeed.next, handle, setState, set, sockets, opened], closed,
      ?_⟩
    simpa [QueueFeed.next, handle, setState, set] using timer
  | onmessage i data => cases data <;> exact ⟨earlier, socket, sockets, closed, timer⟩
  | onerror i => exact ⟨earlier, socket, sockets, closed, timer⟩
  | onclose i =>
    obtain ⟨s, at_, live⟩ := possible
    rw [sockets] at at_
    obtain ⟨rfl, ended⟩ := set_live closed at_ live .closed
    have pending : feed.timers = [] := timer.resolve_right (fun both => live both.1)
    refine ⟨earlier, .closed, ?_, closed, ?_⟩
    · simp [QueueFeed.next, handle, onclose_sockets, set, sockets, ended]
    · rcases onclose_timers (feed.set i .closed) with same | ⟨delayMs, armed⟩
      · exact .inl (same.trans pending)
      · refine .inr ⟨rfl, ?_⟩
        have before : (feed.set i .closed).timers = [] := pending
        simp [QueueFeed.next, handle, armed, before]
  | timeout i =>
    obtain ⟨rfl, single⟩ : socket = .closed ∧ feed.timers.length = 1 := by
      refine timer.resolve_left (fun none_ => ?_)
      simp [Possible, none_] at possible
    refine ⟨feed.sockets, .connecting, rfl, ?_, .inl ?_⟩
    · intro s mem
      rw [sockets] at mem
      rcases List.mem_append.mp mem with old | last
      · exact closed s old
      · simpa using last
    · rw [Possible, single] at possible
      obtain rfl : i = 0 := by omega
      obtain ⟨delay, only⟩ := List.length_eq_one_iff.mp single
      simp [QueueFeed.next, handle, connect, only]
  | close =>
    refine ⟨earlier, socket.close, ?_, closed, ?_⟩
    · simp [QueueFeed.next, handle, sockets, close_last]
    · rcases timer with none_ | ⟨rfl, single⟩
      · exact .inl none_
      · exact .inr ⟨rfl, single⟩

/-! ### After the close -/

theorem OneAtATime.finished (one : feed.OneAtATime) (idle : feed.timers = []) :
    (feed.next .close).Finished := by
  obtain ⟨earlier, socket, sockets, closed, _⟩ := one
  refine ⟨rfl, idle, fun s mem => ?_⟩
  simp only [QueueFeed.next, handle, sockets, List.length_append, List.length_singleton,
    Nat.add_sub_cancel, close_last, List.mem_append, List.mem_singleton] at mem
  rcases mem with old | rfl
  · exact .inr (closed s old)
  · cases socket <;> simp [ReadyState.close]

/-- What can still happen is an error or the close of the last socket. -/
theorem Finished.step (finished : feed.Finished) (possible : feed.Possible event) :
    (feed.next event).Finished ∧ feed.Quiet event := by
  have ended : ∀ {i : Nat} {s : ReadyState}, feed.sockets[i]? = some s → s = .closing ∨ s = .closed :=
    fun at_ => finished.sockets _ (List.mem_of_getElem? at_)
  obtain ⟨manual, timers, sockets⟩ := finished
  cases event with
  | onopen i => simpa using ended possible
  | onmessage i data => simpa using ended possible
  | onerror i => exact ⟨⟨manual, timers, sockets⟩, by simp [Quiet, handle]⟩
  | onclose i =>
    have done : (feed.set i .closed).onclose = (feed.set i .closed).setState .closed := by
      simp [onclose, set, manual]
    have after : feed.next (.onclose i) = { feed.set i .closed with currentState := .closed } :=
      congrArg Prod.fst done
    rw [after]
    refine ⟨⟨manual, timers, fun s mem => ?_⟩, ?_⟩
    · rcases List.mem_or_eq_of_mem_set mem with old | rfl
      · exact sockets s old
      · exact .inr rfl
    · simp [Quiet, handle, done, setState]
  | timeout i => simp [Possible, timers] at possible
  | close =>
    refine ⟨⟨rfl, timers, fun s mem => ?_⟩, by simp [Quiet, handle]⟩
    obtain ⟨i, at_⟩ := List.mem_iff_getElem?.mp mem
    simp only [QueueFeed.next, handle, List.getElem?_modify] at at_
    obtain ⟨s', before, rfl⟩ := Option.map_eq_some_iff.mp at_
    split
    · rcases ended before with rfl | rfl <;> simp [ReadyState.close]
    · exact ended before

theorem Finished.quiet {later : List FeedEvent} (finished : feed.Finished)
    (possible : Trace.Throughout QueueFeed.next Possible later feed) :
    Trace.Throughout QueueFeed.next Quiet later feed :=
  possible.of_invariant (fun _ _ finished possible => finished.step possible) finished

theorem OneAtATime.always {events : List FeedEvent} (one : feed.OneAtATime)
    (possible : Trace.Throughout QueueFeed.next Possible events feed) :
    Trace.Always QueueFeed.next OneAtATime events feed :=
  possible.always (fun _ _ one possible => one.next possible) one

/-- A timer which is pending at the close connects once more. -/
theorem loud_timer (pending : feed.timers ≠ []) : (feed.next .close).Possible (.timeout 0) ∧
    ¬ (feed.next .close).Quiet (.timeout 0) := by
  constructor
  · exact List.length_pos_iff.mpr pending
  · intro quiet
    exact (quiet .webSocket (List.mem_singleton_self _)).1 rfl

end QueueFeed

/-- On every run there is at most one socket and at most one timer at a time; and whatever comes
after the close of a feed is quiet if and only if no timer is pending at the close. -/
theorem closed_feed_quiet_iff (events : List FeedEvent)
    (possible : Trace.Throughout QueueFeed.next QueueFeed.Possible events .initial) :
    let feed := events.foldl QueueFeed.next .initial
    Trace.Always QueueFeed.next QueueFeed.OneAtMost events .initial ∧
      ((∀ later, Trace.Throughout QueueFeed.next QueueFeed.Possible later (feed.next .close) →
        Trace.Throughout QueueFeed.next QueueFeed.Quiet later (feed.next .close)) ↔
          feed.timers = []) := by
  intro feed
  have always := QueueFeed.initial_one.always possible
  refine ⟨fun n => (always n).atMost, ?_⟩
  constructor
  · intro quiet
    by_contra pending
    obtain ⟨fires, loud⟩ := QueueFeed.loud_timer pending
    exact loud (quiet [.timeout 0] ⟨fires, trivial⟩).1
  · exact fun idle later => (always.after.finished idle).quiet

theorem closed_feed_quiet_open :
    Trace.Throughout QueueFeed.next QueueFeed.Quiet [.onclose 0]
      ((QueueFeed.initial.next (.onopen 0)).next .close) :=
  (closed_feed_quiet_iff [.onopen 0] ⟨rfl, trivial⟩).2.mpr rfl [.onclose 0]
    ⟨⟨.closing, rfl, by decide⟩, trivial⟩

/-- The connection is lost, the page goes away, and the feed comes back. -/
theorem closed_feed_reconnects :
    let lost := (QueueFeed.initial.next (.onclose 0)).next .close
    Trace.Throughout QueueFeed.next QueueFeed.Possible
        [.onclose 0, .close, .timeout 0, .onopen 1] .initial ∧
      ¬ Trace.Throughout QueueFeed.next QueueFeed.Quiet [.timeout 0, .onopen 1] lost ∧
      ((lost.next (.timeout 0)).next (.onopen 1)).currentState = .open := by
  intro lost
  refine ⟨⟨⟨.connecting, rfl, by decide⟩, trivial, Nat.one_pos, rfl, trivial⟩, ?_, by decide⟩
  rintro ⟨quiet, _⟩
  exact (quiet .webSocket (List.mem_singleton_self _)).1 rfl

end SlotBooking
