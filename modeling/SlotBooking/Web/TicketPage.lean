import SlotBooking.Http.Recovery
import SlotBooking.Library.Trace
import SlotBooking.Runs.SlotCounts
import SlotBooking.Web.CalledAlert

/-! The ticket page of one customer over a run of the shop. It asks for the ticket under its handle,
now and then, and rings for what the answers show. -/
namespace SlotBooking

/-- A dispatch of the shop, or a refresh of the page in the setting of its request. -/
inductive PageMoment where
  | dispatched (ports : Ports) (action : QueueAction)
  | refreshed (env : Env)

/-- `last` is what the alert remembers, in the local storage. -/
structure TicketPage where
  store : DurableStore
  last : Option String

def TicketPage.opened : TicketPage := ⟨.empty, none⟩

/-- One answer: without a ticket under the handle the memory is cleared, and any other failure is
only shown. -/
def refreshAnswer (encode : Instant → String) (answer : Except FailResponse Ticket)
    (last : Option String) : Option CalledAlert × Option String :=
  match answer with
  | .ok t => refresh (t.observed encode) last
  | .error e => (none, if e.tag = "TicketNotFound" then none else last)

section
variable (u : Unicode) (instants : InstantText) (request : HttpRequest)

def TicketPage.step (page : TicketPage) : PageMoment → TicketPage
  | .dispatched ports action =>
    { page with store := (dispatch u instants ports action page.store).2 }
  | .refreshed env =>
    { page with
      last := (refreshAnswer instants.encode (byHandleRoute u env request page.store) page.last).2 }

/-- The moment shows this call or nudge. -/
def TicketPage.sees (stamp : String × Nat) (page : TicketPage) : PageMoment → Bool
  | .dispatched _ _ => false
  | .refreshed env =>
    match byHandleRoute u env request page.store with
    | .ok t => (t.observed instants.encode).stamp = some stamp
    | .error _ => false

/-- The moment shows it, and the page rings. -/
def TicketPage.rings (stamp : String × Nat) (page : TicketPage) (moment : PageMoment) : Bool :=
  page.sees u instants request stamp moment &&
    match moment with
    | .dispatched _ _ => false
    | .refreshed env => (refreshAnswer instants.encode
        (byHandleRoute u env request page.store) page.last).1.isSome

def PageMoment.CanonicalIssue : PageMoment → Prop
  | .dispatched _ action => SlotBooking.CanonicalIssue u action
  | .refreshed _ => True

end

/-! ### The calls of a customer -/

section
variable (handle : CustomerHandle)

/-- The ticket of the event has this handle. -/
def DurableStore.concernsEvent (s : DurableStore) (e : TicketEvent) : Bool :=
  (s.getTicketById e.ticketId).map Ticket.handle = some handle

/-- The times of the calls of the customer's tickets, as texts, in the order of the log. -/
def DurableStore.calledTexts (encode : Instant → String) (s : DurableStore) : List String :=
  (s.eventLog.filter (fun e => e.type = .called && s.concernsEvent handle e)).map
    (fun e => encode e.occurredAt)

/-- What a refresh would show now. -/
def DurableStore.shownStamp (encode : Instant → String) (s : DurableStore) :
    Option (String × Nat) :=
  (s.getByHandle handle).bind (fun t => (t.observed encode).stamp)

end

section
variable {encode : Instant → String}

theorem Ticket.observed_stamp (t : Ticket) : (t.observed encode).stamp =
    match t.variant with
    | .called call => some (encode call.calledAt, 0)
    | .overdue call overdue => some (encode call.calledAt, overdue.nudgeCount)
    | .waiting | .served _ _ _ | .noShow _ _ _ | .cancelled _ _ _ => none := by
  obtain ⟨t, variant⟩ := t
  cases variant <;> rfl

theorem Ticket.observed_stamp_outline {t q : Ticket} (same : t.outline = q.outline) :
    (t.observed encode).stamp = (q.observed encode).stamp := by
  have variant : t.variant = q.variant := congrArg (fun t => t.variant) same
  rw [t.observed_stamp, q.observed_stamp, variant]

theorem Ticket.observed_stamp_terminal {t : Ticket} (terminal : t.state.isTerminal = true) :
    (t.observed encode).stamp = none := by
  obtain ⟨t, variant⟩ := t
  cases variant with
  | waiting | called | overdue => cases terminal
  | served | noShow | cancelled => rfl

theorem Ticket.observed_state (t : Ticket) : (t.observed encode).state = t.state := by
  obtain ⟨t, variant⟩ := t
  cases variant <;> rfl

/-- How one event changes what a refresh would show, with the calls it adds to the log. -/
inductive StampChange (before after : Option (String × Nat)) : List String → Prop where
  | called (calledAt : String) (fresh : after = some (calledAt, 0)) :
      StampChange before after [calledAt]
  | kept (same : after = before) : StampChange before after []
  | gone (none_ : after = none) : StampChange before after []
  | nudged (calledAt : String) (n : Nat) (was : before = some (calledAt, n))
      (more : after = some (calledAt, n + 1)) : StampChange before after []

def TicketEvent.calledText (encode : Instant → String) (e : TicketEvent) : List String :=
  if e.type = .called then [encode e.occurredAt] else []

theorem Move.stampChange {t : Ticket} {result : ApplyResult} (move : Move t result) :
    StampChange (t.observed encode).stamp (result.ticket.observed encode).stamp
      (result.event.calledText encode) := by
  cases move with
  | call t args => exact .called (encode args.time) rfl
  | moveToOverdue t stamp time eventId actor => exact .kept rfl
  | nudge t stamp overdue time eventId channel actor =>
    exact .nudged (encode stamp.calledAt) overdue.nudgeCount rfl rfl
  | lapseAppointment t time eventId result applied =>
    obtain ⟨_, _, rfl⟩ := applyLapseAppointment_eq_some applied
    exact .gone rfl
  | reschedule t active lane target time eventId actor result applied =>
    obtain ⟨_, _, rfl⟩ := applyReschedule_eq_some applied
    exact .kept (by rw [Ticket.observed_stamp, Ticket.observed_stamp])
  | _ => exact .gone rfl

end

/-! ### What a commit does to it -/

section
variable {u : Unicode} {interval : Nat} {s s' : DurableStore} {handle : CustomerHandle}
  {encode : Instant → String} {t : Ticket} {loaded : LoadedAggregate} {result : ApplyResult}

theorem getByHandle_getTicketById (named : s.Named u) (kept : s.Kept) :
    s.getByHandle handle = some t ↔
      s.getTicketById t.id = some t ∧ t.state.isActive = true ∧ t.handle = handle := by
  rw [getByHandle_iff named kept, findActiveByHandle_iff named kept, getTicketById_iff kept]
  exact and_congr_left (fun _ => (and_iff_left rfl).symm)

/-- What somebody else's ticket changes to does not show. -/
theorem shownStamp_of_other (named : s.Named u) (kept : s.Kept) (named' : s'.Named u)
    (kept' : s'.Kept) {id : TicketId} {new : Ticket}
    (changed : ∀ i, s'.getTicketById i = if i = id then some new else s.getTicketById i)
    (before : ∀ old, s.getTicketById id = some old → old.handle ≠ handle)
    (after : new.handle ≠ handle) : s'.shownStamp handle encode = s.shownStamp handle encode := by
  have same : s'.getByHandle handle = s.getByHandle handle := by
    ext q
    rw [getByHandle_getTicketById named kept, getByHandle_getTicketById named' kept', changed]
    split
    · rename_i own
      constructor
      · rintro ⟨here, _, same⟩
        cases here
        exact absurd same after
      · rintro ⟨here, _, same⟩
        exact absurd same (before q (own ▸ here))
    · rfl
  rw [DurableStore.shownStamp, same, DurableStore.shownStamp]

/-- The ticket a transition starts from, as it is stored. -/
theorem Moved.stored (moved : Moved u interval s s' loaded result) (kept : s.Kept)
    (named : s.Named u) : ∃ t, s.getTicketById loaded.state.id = some t ∧
      t.outline = loaded.state.outline ∧ t.handle = result.ticket.handle ∧
        t.state.isActive = true := by
  obtain ⟨row, found, outline, _⟩ := kept.row_of_load moved.read
  obtain ⟨f, texts⟩ := named.titled loaded.state.id
  have latest : (s.aggregate loaded.state.id).latest =
      some (row.payload.json, row.revision) := by
    rw [DurableStore.aggregate, found]
    rfl
  have before := (texts.latest _ _ latest).1
  have read := (load_texts kept.tidy (readable_canonical f) texts moved.read).1
  have fields : row.payload.json.toCustomerFields = result.ticket.toCustomerFields :=
    before.trans (read.symm.trans moved.move.sameCore.fields.symm)
  refine ⟨row.payload.json, by rw [DurableStore.getTicketById, found]; rfl, outline,
    congrArg CustomerFields.toCustomerHandle fields, ?_⟩
  rw [← Ticket.outline_state, outline, Ticket.outline_state]
  exact moved.move.source_active

theorem Moved.getTicketById (moved : Moved u interval s s' loaded result) (kept : s.Kept)
    (id : TicketId) : s'.getTicketById id =
      if id = loaded.state.id then some result.ticket else s.getTicketById id := by
  split
  · rename_i own
    obtain ⟨r, row, payload⟩ := moved.payload kept
    rw [own, DurableStore.getTicketById, row, Option.map_some, payload]
  · rename_i other
    rw [DurableStore.getTicketById, (moved.untouched kept other).row, DurableStore.getTicketById]

theorem Moved.concernsEvent (moved : Moved u interval s s' loaded result) (kept : s.Kept)
    (named : s.Named u) (e : TicketEvent) :
    s'.concernsEvent handle e = s.concernsEvent handle e := by
  rw [DurableStore.concernsEvent, DurableStore.concernsEvent, moved.getTicketById kept]
  split
  · rename_i own
    obtain ⟨t, found, _, same, _⟩ := moved.stored kept named
    rw [own, found, Option.map_some, Option.map_some, same]
  · rfl

theorem Moved.calledTexts (moved : Moved u interval s s' loaded result) (kept : s.Kept)
    (named : s.Named u) : s'.calledTexts handle encode = s.calledTexts handle encode ++
      if result.ticket.handle = handle then result.event.calledText encode else [] := by
  have concerned : s.concernsEvent handle result.event = decide (result.ticket.handle = handle) := by
    obtain ⟨t, found, _, same, _⟩ := moved.stored kept named
    rw [DurableStore.concernsEvent, moved.move.event_ticketId, found, Option.map_some, same]
    simp
  simp only [DurableStore.calledTexts, moved.eventLog, List.filter_append, List.map_append,
    moved.concernsEvent kept named]
  congr 1
  by_cases own : result.ticket.handle = handle
  · by_cases isCall : result.event.type = .called <;>
      simp [concerned, own, isCall, TicketEvent.calledText]
  · simp [concerned, own]

/-- A transition of the customer's ticket. -/
theorem Moved.shown_own (moved : Moved u interval s s' loaded result)
    (encode : Instant → String) (kept : s.Kept) (named : s.Named u)
    (own : result.ticket.handle = handle) :
    s.shownStamp handle encode = (loaded.state.observed encode).stamp ∧
      s'.shownStamp handle encode = (result.ticket.observed encode).stamp := by
  obtain ⟨t, found, outline, same, active⟩ := moved.stored kept named
  have id : t.id = loaded.state.id := ((getTicketById_iff kept).mp found).2
  have now_ := moved.getTicketById kept loaded.state.id
  rw [if_pos rfl] at now_
  constructor
  · have before : s.getByHandle handle = some t :=
      (getByHandle_getTicketById named kept).mpr ⟨id ▸ found, active, same.trans own⟩
    rw [DurableStore.shownStamp, before, Option.bind_some, Ticket.observed_stamp_outline outline]
  · have kept' := moved.kept kept
    have named' := moved.named kept named
    cases ends : result.ticket.state.isTerminal with
    | false =>
      have after : s'.getByHandle handle = some result.ticket := by
        refine (getByHandle_getTicketById named' kept').mpr ⟨?_, ?_, own⟩
        · rw [moved.move.sameCore.id]
          exact now_
        · rw [TicketState.isActive, ends]
          rfl
      rw [DurableStore.shownStamp, after, Option.bind_some]
    | true =>
      rw [Ticket.observed_stamp_terminal ends, DurableStore.shownStamp, Option.bind_eq_none_iff]
      intro t' after
      exfalso
      obtain ⟨found', active', same'⟩ := (getByHandle_getTicketById named' kept').mp after
      rw [moved.getTicketById kept] at found'
      split at found'
      · cases found'
        rw [TicketState.isActive, ends] at active'
        cases active'
      · rename_i other
        -- two active tickets of one customer
        have before : s.getByHandle handle = some t :=
          (getByHandle_getTicketById named kept).mpr ⟨id ▸ found, active, same.trans own⟩
        have too := (getByHandle_getTicketById named kept).mpr ⟨found', active', same'⟩
        cases before.symm.trans too
        exact other id

theorem Moved.shown_other (moved : Moved u interval s s' loaded result) (kept : s.Kept)
    (named : s.Named u) (other : result.ticket.handle ≠ handle) :
    s'.shownStamp handle encode = s.shownStamp handle encode := by
  obtain ⟨t, found, _, handles, _⟩ := moved.stored kept named
  refine shownStamp_of_other named kept (moved.named kept named) (moved.kept kept)
    (moved.getTicketById kept) (fun old here => ?_) other
  cases found.symm.trans here
  exact fun same => other (handles.symm.trans same)

/-- One commit, for one customer. -/
def Announces (handle : CustomerHandle) (encode : Instant → String) (s s' : DurableStore) : Prop :=
  ∃ new, s'.calledTexts handle encode = s.calledTexts handle encode ++ new ∧
    StampChange (s.shownStamp handle encode) (s'.shownStamp handle encode) new

theorem Moved.announces (moved : Moved u interval s s' loaded result) (kept : s.Kept)
    (named : s.Named u) : Announces handle encode s s' := by
  refine ⟨_, moved.calledTexts kept named, ?_⟩
  split
  · rename_i own
    obtain ⟨before, after⟩ := moved.shown_own encode kept named own
    rw [before, after]
    exact moved.move.stampChange
  · rename_i other
    exact .kept (moved.shown_other kept named other)

theorem Issued.getTicketById {ports : Ports} {input : IssueTicketInput} {all : List Ticket}
    (issued : Issued u interval ports input s s' all) (kept : s.Kept) (id : TicketId) :
    s'.getTicketById id = if id = ports.newTicketId then
      some (issueResult ports input s all).ticket else s.getTicketById id := by
  split
  · rename_i own
    have latest := congrArg EventSourcing.Aggregate.latest (issued.aggregate kept).2
    obtain ⟨r, row, same⟩ := Option.map_eq_some_iff.mp latest
    rw [own, DurableStore.getTicketById, row, Option.map_some]
    exact congrArg (fun p => some p.1) same
  · rename_i other
    rw [DurableStore.getTicketById, (issued.untouched kept other).row, DurableStore.getTicketById]

theorem Issued.announces {ports : Ports} {input : IssueTicketInput} {all : List Ticket}
    (issued : Issued u interval ports input s s' all) (kept : s.Kept) (named : s.Named u)
    (canonical : Canonical u ⟨input.handle, input.freeText⟩) : Announces handle encode s s' := by
  obtain ⟨unrecorded, absent⟩ := issued.absent kept
  refine ⟨[], ?_, ?_⟩
  · have logged : s'.eventLog = s.eventLog ++ [(issueResult ports input s all).event] := by
      rw [DurableStore.eventLog, issued.store, DurableStore.commit_ticketEvents, List.map_append]
      rfl
    have before : ∀ e ∈ s.eventLog, s'.concernsEvent handle e = s.concernsEvent handle e := by
      intro e mem
      obtain ⟨r, inTable, rfl⟩ := List.mem_map.mp mem
      have old : r.payload.json.ticketId ≠ ports.newTicketId := by
        intro own
        have inLog : r ∈ s.log ports.newTicketId :=
          List.mem_filter.mpr ⟨inTable, decide_eq_true
            ((congrArg EventRow.ticketId (kept.tidy.columns r inTable)).trans own)⟩
        rw [unrecorded] at inLog
        cases inLog
      rw [DurableStore.concernsEvent, issued.getTicketById kept, if_neg old,
        DurableStore.concernsEvent]
    have issuedType : (issueResult ports input s all).event.type = .issued := rfl
    rw [DurableStore.calledTexts, logged, List.filter_append, List.append_nil]
    simp only [List.filter_cons, issuedType, List.filter_nil]
    rw [if_neg (by simp), List.append_nil, DurableStore.calledTexts]
    congr 1
    exact List.filter_congr (fun e mem => by rw [before e mem])
  · have named' := issued.named kept named canonical
    have kept' := issued.kept kept
    have added := issued.getTicketById kept ports.newTicketId
    rw [if_pos rfl] at added
    by_cases own : input.handle = handle
    · have after : s'.getByHandle handle = some (issueResult ports input s all).ticket :=
        (getByHandle_getTicketById named' kept').mpr ⟨added, rfl, own⟩
      refine .gone ?_
      rw [DurableStore.shownStamp, after]
      rfl
    · refine .kept (shownStamp_of_other named kept named' kept' (issued.getTicketById kept)
        (fun old here => ?_) own)
      rw [DurableStore.getTicketById, absent] at here
      cases here

end

/-! ### What the page remembers of it -/

/-- What has been seen, and what is remembered of it, against what a refresh would show now and the
calls so far. -/
structure Heard (seen : String × Nat → Prop) (last : Option String)
    (shown : Option (String × Nat)) (texts : List String) : Prop where
  recorded : ∀ stamp, shown = some stamp → stamp.1 ∈ texts
  past : ∀ stamp, seen stamp → stamp.1 ∈ texts
  upTo : ∀ calledAt n m, seen (calledAt, n) → shown = some (calledAt, m) → n ≤ m
  known : ∀ stamp, shown = some stamp → seen stamp → last = some (alertKey stamp.1 stamp.2)
  remembered : ∀ key, last = some key → ∃ stamp, seen stamp ∧ alertKey stamp.1 stamp.2 = key

section
variable {seen : String × Nat → Prop} {last : Option String} {shown after : Option (String × Nat)}
  {texts new : List String}

theorem Heard.change (heard : Heard seen last shown texts) (change : StampChange shown after new)
    (distinct : (texts ++ new).Nodup) : Heard seen last after (texts ++ new) := by
  cases change with
  | kept same =>
    rw [same, List.append_nil]
    exact heard
  | gone none_ =>
    rw [none_, List.append_nil]
    exact ⟨nofun, heard.past, nofun, nofun, heard.remembered⟩
  | called calledAt fresh =>
    subst fresh
    -- the new call has a time of its own, so that nothing of it has been seen
    have unseen : ∀ n, ¬ seen (calledAt, n) := by
      intro n before
      exact List.disjoint_of_nodup_append distinct (heard.past _ before) List.mem_cons_self
    refine ⟨?_, fun stamp before => List.mem_append_left _ (heard.past stamp before), ?_, ?_,
      heard.remembered⟩
    · intro stamp now_
      cases now_
      exact List.mem_append_right _ List.mem_cons_self
    · intro calledAt' n m before now_
      cases now_
      exact absurd before (unseen n)
    · intro stamp now_ before
      cases now_
      exact absurd before (unseen 0)
  | nudged calledAt n was more =>
    subst more
    rw [List.append_nil]
    refine ⟨?_, heard.past, ?_, ?_, heard.remembered⟩
    · intro stamp now_
      cases now_
      exact heard.recorded (calledAt, n) was
    · intro calledAt' k m before now_
      cases now_
      exact Nat.le_succ_of_le (heard.upTo _ _ _ before was)
    · intro stamp now_ before
      cases now_
      exact absurd (heard.upTo _ _ _ before was) (by omega)

/-- The page sees what there is to see, and remembers it. -/
theorem Heard.see (heard : Heard seen last shown texts) {stamp : String × Nat}
    (now_ : shown = some stamp) {seen' : String × Nat → Prop}
    (more : ∀ other, seen' other ↔ seen other ∨ other = stamp) :
    Heard seen' (some (alertKey stamp.1 stamp.2)) shown texts where
  recorded := heard.recorded
  past := by
    intro other before
    rcases (more other).mp before with before | rfl
    · exact heard.past other before
    · exact heard.recorded _ now_
  upTo := by
    intro calledAt n m before here
    rcases (more _).mp before with before | same
    · exact heard.upTo _ _ _ before here
    · subst same
      cases here.symm.trans now_
      exact le_rfl
  known := by
    intro other here _
    cases here.symm.trans now_
    rfl
  remembered := by
    intro key same
    exact ⟨stamp, (more stamp).mpr (.inr rfl), Option.some.inj same⟩

theorem Heard.forget (heard : Heard seen last none texts) : Heard seen none none texts :=
  ⟨nofun, heard.past, nofun, nofun, nofun⟩

end

/-! ### Runs -/

section
variable {u : Unicode} {instants : InstantText} {request : HttpRequest} {handle : CustomerHandle}

/-- Only the lookup says that there is no ticket. -/
theorem byHandleRoute_notFound {env : Env} {s : DurableStore} {e : FailResponse}
    (read : decodeByHandleQuery u request.query = .ok handle)
    (refused : byHandleRoute u env request s = .error e) (tag : e.tag = "TicketNotFound") :
    s.getByHandle handle = none := by
  by_cases open_ : env.limit .verify ≠ some false
  · rw [byHandleRoute_read open_ read] at refused
    cases found : s.getByHandle handle with
    | none => rfl
    | some t =>
      rw [found] at refused
      cases refused
  · have limited : rateLimitMiddleware env .verify = .error .rateLimited :=
      if_pos (not_not.mp open_)
    simp only [byHandleRoute, limited, bind, Except.bind] at refused
    cases refused
    exact absurd tag (by decide)

variable (u instants request) in
/-- How often this call or nudge is seen. -/
def seenCount (moments : List PageMoment) (stamp : String × Nat) : Nat :=
  Trace.count (TicketPage.step u instants request) (TicketPage.sees u instants request stamp)
    moments .opened

variable (u instants request) in
def rungCount (moments : List PageMoment) (stamp : String × Nat) : Nat :=
  Trace.count (TicketPage.step u instants request) (TicketPage.rings u instants request stamp)
    moments .opened

variable (u instants request handle) in
/-- What holds of the shop and of the page after these moments. -/
structure Attentive (moments : List PageMoment) (page : TicketPage) : Prop where
  kept : page.store.Kept
  named : page.store.Named u
  heard : (page.store.calledTexts handle instants.encode).Nodup →
    Heard (fun stamp => 0 < seenCount u instants request moments stamp) page.last
        (page.store.shownStamp handle instants.encode)
        (page.store.calledTexts handle instants.encode) ∧
      ∀ stamp, rungCount u instants request moments stamp =
        min 1 (seenCount u instants request moments stamp)

section
variable {moments : List PageMoment} {page : TicketPage}
  (reached : moments.foldl (TicketPage.step u instants request) .opened = page)
include reached

theorem counts_snoc (moment : PageMoment) (stamp : String × Nat) :
    seenCount u instants request (moments ++ [moment]) stamp =
        seenCount u instants request moments stamp +
          (if page.sees u instants request stamp moment then 1 else 0) ∧
      rungCount u instants request (moments ++ [moment]) stamp =
        rungCount u instants request moments stamp +
          (if page.rings u instants request stamp moment then 1 else 0) := by
  subst reached
  exact ⟨Trace.count_snoc, Trace.count_snoc⟩

/-- A moment which shows nothing. -/
theorem counts_blind (moment : PageMoment)
    (blind : ∀ stamp, page.sees u instants request stamp moment = false) :
    seenCount u instants request (moments ++ [moment]) = seenCount u instants request moments ∧
      rungCount u instants request (moments ++ [moment]) =
        rungCount u instants request moments := by
  constructor <;> funext stamp
  · rw [(counts_snoc reached moment stamp).1, blind stamp]
    rfl
  · have silent : page.rings u instants request stamp moment = false := by
      simp [TicketPage.rings, blind stamp]
    rw [(counts_snoc reached moment stamp).2, silent]
    rfl

theorem Attentive.dispatched (attentive : Attentive u instants request handle moments page)
    (ports : Ports) (action : QueueAction) (canonical : CanonicalIssue u action) :
    Attentive u instants request handle (moments ++ [.dispatched ports action])
      (page.step u instants request (.dispatched ports action)) := by
  obtain ⟨kept, named, heard⟩ := attentive
  obtain ⟨seen, rung⟩ := counts_blind reached (.dispatched ports action) (fun _ => rfl)
  let P := fun s : DurableStore => s.Named u ∧
    ((s.calledTexts handle instants.encode).Nodup →
      Heard (fun stamp => 0 < seenCount u instants request moments stamp) page.last
          (s.shownStamp handle instants.encode) (s.calledTexts handle instants.encode) ∧
        ∀ stamp, rungCount u instants request moments stamp =
          min 1 (seenCount u instants request moments stamp))
  have announced : ∀ s s', P s → s'.Named u → Announces handle instants.encode s s' → P s' := by
    rintro s s' ⟨_, heard⟩ named' ⟨new, logged, change⟩
    refine ⟨named', ?_⟩
    rw [logged]
    intro distinct
    obtain ⟨heard, once⟩ := heard distinct.of_append_left
    exact ⟨heard.change change distinct, once⟩
  have after : P (dispatch u instants ports action page.store).2 := by
    apply dispatch_invariant kept ⟨named, heard⟩
    · intro s s' loaded result keptBefore before moved
      exact announced s s' before (moved.named keptBefore before.1)
        (moved.announces keptBefore before.1)
    · intro input all s' read issued
      obtain ⟨lane, appointmentAt, rfl⟩ := useCase_issueTicket read rfl
      exact announced page.store s' ⟨named, heard⟩ (issued.named kept named canonical)
        (issued.announces kept named canonical)
  refine ⟨(dispatch_steps kept).kept kept, after.1, ?_⟩
  rw [seen, rung]
  exact after.2

/-- An answer which shows this call or nudge. -/
theorem counts_shown {env : Env} {t : Ticket} {stamp : String × Nat}
    (answer : byHandleRoute u env request page.store = .ok t)
    (stamped : (t.observed instants.encode).stamp = some stamp) (other : String × Nat) :
    seenCount u instants request (moments ++ [.refreshed env]) other =
        seenCount u instants request moments other + (if stamp = other then 1 else 0) ∧
      rungCount u instants request (moments ++ [.refreshed env]) other =
        rungCount u instants request moments other +
          (if stamp = other ∧ page.last ≠ some (alertKey stamp.1 stamp.2) then 1 else 0) := by
  obtain ⟨seen, rung⟩ := counts_snoc reached (.refreshed env) other
  rw [seen, rung]
  simp only [TicketPage.rings, TicketPage.sees, answer, stamped, refreshAnswer,
    refresh_stamped stamped, Option.some.injEq]
  by_cases same : stamp = other
  · subst same
    by_cases again : page.last = some (alertKey stamp.1 stamp.2) <;> simp [again]
  · simp [same]

theorem Attentive.refreshed (attentive : Attentive u instants request handle moments page)
    (read : decodeByHandleQuery u request.query = .ok handle) (env : Env) :
    Attentive u instants request handle (moments ++ [.refreshed env])
      (page.step u instants request (.refreshed env)) := by
  obtain ⟨kept, named, heard⟩ := attentive
  refine ⟨kept, named, fun distinct => ?_⟩
  obtain ⟨heard, once⟩ := heard distinct
  change Heard _ (refreshAnswer instants.encode (byHandleRoute u env request page.store)
    page.last).2 (page.store.shownStamp handle instants.encode)
      (page.store.calledTexts handle instants.encode) ∧ _
  cases answer : byHandleRoute u env request page.store with
  | error e =>
    obtain ⟨seen, rung⟩ := counts_blind reached (.refreshed env)
      (fun stamp => by simp [TicketPage.sees, answer])
    rw [seen, rung]
    refine ⟨?_, once⟩
    by_cases tag : e.tag = "TicketNotFound"
    · have nothing : page.store.shownStamp handle instants.encode = none := by
        rw [DurableStore.shownStamp, byHandleRoute_notFound read answer tag]
        rfl
      rw [nothing] at heard ⊢
      simpa only [refreshAnswer, if_pos tag] using heard.forget
    · simpa only [refreshAnswer, if_neg tag] using heard
  | ok t =>
    obtain ⟨_, handle', read', found⟩ := byHandleRoute_ok.mp answer
    cases read.symm.trans read'
    have shown : page.store.shownStamp handle instants.encode =
        (t.observed instants.encode).stamp := by
      rw [DurableStore.shownStamp, found, Option.bind_some]
    cases stamped : (t.observed instants.encode).stamp with
    | none =>
      obtain ⟨seen, rung⟩ := counts_blind reached (.refreshed env)
        (fun stamp => by simp [TicketPage.sees, answer, stamped])
      have active : (t.observed instants.encode).state.isTerminal = false := by
        have active := ((getByHandle_getTicketById named kept).mp found).2.1
        rw [t.observed_state]
        exact (Bool.not_eq_true' _).mp active
      rw [seen, rung, refreshAnswer, refresh_unstamped stamped active]
      exact ⟨heard, once⟩
    | some stamp =>
      have counts := counts_shown reached answer stamped
      have remembers : (refreshAnswer instants.encode (.ok t) page.last).2 =
          some (alertKey stamp.1 stamp.2) := by
        rw [refreshAnswer, refresh_stamped stamped]
        split
        · assumption
        · rfl
      rw [remembers]
      constructor
      · apply heard.see (shown.trans stamped)
        intro other
        rw [(counts other).1]
        by_cases same : stamp = other <;> simp [same, eq_comm]
      · intro other
        rw [(counts other).1, (counts other).2, once other]
        by_cases same : stamp = other
        · subst same
          by_cases again : page.last = some (alertKey stamp.1 stamp.2)
          · obtain ⟨stamp', before, key⟩ := heard.remembered _ again
            have same : stamp' = stamp := alertKey_injective key
            subst same
            rw [if_pos rfl, if_neg (fun both => both.2 again)]
            omega
          · have unseen : ¬ 0 < seenCount u instants request moments stamp :=
              fun before => again (heard.known stamp (shown.trans stamped) before)
            simp [again, Nat.eq_zero_of_not_pos unseen]
        · simp [same]

end

end

namespace Sample

end Sample

end SlotBooking
