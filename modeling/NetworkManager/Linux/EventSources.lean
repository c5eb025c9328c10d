import NetworkManager.Linux.Nl80211.Notifications

/-!
# Linux — EventSources

The two sockets that are read for events (`RtnetlinkEventSource`, `WifiEventSource`).

A receive that returns comes with what `SHUTDOWN_REQUESTED` is by then (`Arrival`).  The events of
a buffer that are still to be handed out are kept in reverse, so that the next one is the last.

* `Batched`: the ways in which messages may arrive, in buffers and with failures in between.
* `results_batched`: the results are the events, whatever the way.
* `batching_invisible`: this holds of both sources.
-/

namespace NetworkManager

open Records Octets Netlink

/-- What a receive returns, and whether a shutdown has been requested by then. -/
structure Arrival where
  received : Except NetlinkError (List UInt8)
  shutdown : Bool

/-- A source of events, and what its socket will yield. -/
structure EventSource (E : Type) where
  /-- A stack: the next event is the last. -/
  pending : List E
  arrivals : List Arrival
  shutdown : Bool

namespace EventSource

/-- What `next_event` makes of a receive. -/
inductive Turn (E : Type) where
  | events (events : List E)
  | retry
  | failed (err : NetlinkError)

/-- A receive that was interrupted, or that found nothing, is made again. -/
def isRetry : NetlinkError → Bool
  | .io err => err.kind == .interrupted || err.kind == .wouldBlock
  | _ => false

section NextEvent

variable {E : Type} (turn : Except NetlinkError (List UInt8) → Turn E) (event : E → NetworkEvent)

/-- The loop of `next_event`; none while it waits. -/
def next : List Arrival → Bool → List E →
    Option (Except NetlinkError (Option NetworkEvent) × EventSource E)
  | arrivals, shutdown, pending =>
      match pending.getLast? with
      | some e =>
          some (.ok (some (event e)), { pending := pending.dropLast, arrivals, shutdown })
      | none =>
          if shutdown then some (.ok none, { pending, arrivals, shutdown })
          else match arrivals with
            | [] => none
            | arrival :: arrivals =>
                match turn arrival.received with
                | .events events => next arrivals arrival.shutdown events.reverse
                | .retry =>
                    if arrival.shutdown then
                      some (.ok none, { pending, arrivals, shutdown := arrival.shutdown })
                    else next arrivals arrival.shutdown pending
                | .failed err =>
                    some (.error err, { pending, arrivals, shutdown := arrival.shutdown })

end NextEvent

/-- The results of at most `n` calls, up to the first that waits. -/
def results {E : Type}
    (nextEvent : EventSource E → Option (Except NetlinkError (Option NetworkEvent) × EventSource E)) :
    ℕ → EventSource E → List (Except NetlinkError (Option NetworkEvent))
  | 0, _ => []
  | n + 1, source =>
      match nextEvent source with
      | none => []
      | some (result, source) => result :: results nextEvent n source

/-- A source that has just been opened. -/
def opened {E : Type} (arrivals : List Arrival) : EventSource E where
  pending := []
  arrivals := arrivals
  shutdown := false

end EventSource

open EventSource

variable [Native]

namespace RtnetlinkEventSource

/-- The events of a buffer that cannot be parsed fail at once. -/
def turn (received : Except NetlinkError (List UInt8)) : Turn NetworkEvent :=
  match received with
  | .ok buf =>
      match parseNetworkEvents buf with
      | .ok events => .events events
      | .error err => .failed err
  | .error err => if isRetry err then .retry else .failed err

/-- The next event of rtnetlink: a pending one, or one of the next batch. -/
def nextEvent (source : EventSource NetworkEvent) :
    Option (Except NetlinkError (Option NetworkEvent) × EventSource NetworkEvent) :=
  next turn id source.arrivals source.shutdown source.pending

end RtnetlinkEventSource

namespace WifiEventSource

/-- `read_scan_events` receives and parses; one match looks at both. -/
def turn (received : Except NetlinkError (List UInt8)) : Turn WifiEvent :=
  match received >>= Nl80211.parseScanEvents with
  | .ok events => .events events
  | .error err => if isRetry err then .retry else .failed err

/-- The next scan event: a pending one, or one of the next batch. -/
def nextEvent (source : EventSource WifiEvent) :
    Option (Except NetlinkError (Option NetworkEvent) × EventSource WifiEvent) :=
  next turn .wifi source.arrivals source.shutdown source.pending

end WifiEventSource

/-! ### Batches -/

/-- The ways in which messages may arrive while no shutdown is requested: some of them in each
buffer, and any number of receives in between that are made again. -/
inductive Batched : List (Record NlMsgHdr) → List Arrival → Prop
  | nil : Batched [] []
  | buffer {messages : List (Record NlMsgHdr)} {arrivals : List Arrival}
      (batch : List (Record NlMsgHdr)) (h : Batched messages arrivals) :
      Batched (batch ++ messages) ({ received := .ok (octets batch), shutdown := false } :: arrivals)
  | again {messages : List (Record NlMsgHdr)} {arrivals : List Arrival} {err : NetlinkError}
      (herr : isRetry err = true) (h : Batched messages arrivals) :
      Batched messages ({ received := .error err, shutdown := false } :: arrivals)

namespace EventSource

section Runs

variable {E : Type} {turn : Except NetlinkError (List UInt8) → Turn E} (event : E → NetworkEvent)
  {events : Record NlMsgHdr → List E} {Good : Record NlMsgHdr → Prop}

/-- What the source still has to hand out: the events on its stack, and then those of the messages
to come. -/
inductive Holds (events : Record NlMsgHdr → List E) (Good : Record NlMsgHdr → Prop) :
    EventSource E → List E → Prop
  | mk (pending : List E) {messages : List (Record NlMsgHdr)} {arrivals : List Arrival}
      (h : Batched messages arrivals) (hgood : ∀ m ∈ messages, Good m) :
      Holds events Good { pending := pending.reverse, arrivals, shutdown := false }
        (pending ++ messages.flatMap events)

/-- A call that hands out the first event and leaves a source that holds the others, or waits if
there is none. -/
def HandsOut (events : Record NlMsgHdr → List E) (Good : Record NlMsgHdr → Prop) (es : List E)
    (called : Option (Except NetlinkError (Option NetworkEvent) × EventSource E)) : Prop :=
  match es with
  | [] => called = none
  | e :: es => ∃ source, called = some (.ok (some (event e)), source) ∧ Holds events Good source es

omit [Native] in
/-- The event on top of the stack comes next, and nothing is received for it. -/
theorem next_cons (e : E) (pending : List E) (arrivals : List Arrival) (shutdown : Bool) :
    next turn event arrivals shutdown (e :: pending).reverse =
      some (.ok (some (event e)), { pending := pending.reverse, arrivals, shutdown }) := by
  have hlast : (e :: pending).reverse.getLast? = some e := by simp
  have hrest : (e :: pending).reverse.dropLast = pending.reverse := by simp
  unfold next
  rw [hlast, hrest]

/-- With an empty stack, buffers are received until one of them has an event. -/
theorem next_batched {messages : List (Record NlMsgHdr)} {arrivals : List Arrival}
    (hturn : ∀ batch, (∀ m ∈ batch, Good m) →
      turn (.ok (octets batch)) = .events (batch.flatMap events))
    (hretry : ∀ err, isRetry err = true → turn (.error err) = .retry)
    (h : Batched messages arrivals) (hgood : ∀ m ∈ messages, Good m) :
    HandsOut event events Good (messages.flatMap events) (next turn event arrivals false []) := by
  induction h with
  | nil => rfl
  | @buffer messages arrivals batch h ih =>
      obtain ⟨hbatch, hmessages⟩ := List.forall_mem_append.mp hgood
      have hnext : next turn event ({ received := .ok (octets batch), shutdown := false } ::
          arrivals) false [] = next turn event arrivals false (batch.flatMap events).reverse := by
        rw [next]
        simp only [List.getLast?_nil, Bool.false_eq_true, if_false, hturn batch hbatch]
      rw [hnext, List.flatMap_append]
      cases batch.flatMap events with
      | nil => exact ih hmessages
      | cons e pending => exact ⟨_, next_cons event e pending arrivals false, .mk pending h hmessages⟩
  | @again messages arrivals err herr h ih =>
      have hnext : next turn event ({ received := .error err, shutdown := false } :: arrivals)
          false [] = next turn event arrivals false [] := by
        rw [next]
        simp only [List.getLast?_nil, Bool.false_eq_true, if_false, hretry err herr]
      rw [hnext]
      exact ih hgood

/-- **A step.**  A source hands out the first event it holds, or waits if there is none. -/
theorem next_holds
    (hturn : ∀ batch, (∀ m ∈ batch, Good m) →
      turn (.ok (octets batch)) = .events (batch.flatMap events))
    (hretry : ∀ err, isRetry err = true → turn (.error err) = .retry)
    {source : EventSource E} {es : List E} (h : Holds events Good source es) :
    HandsOut event events Good es
      (next turn event source.arrivals source.shutdown source.pending) := by
  obtain ⟨pending, h, hgood⟩ := h
  cases pending with
  | nil => exact next_batched event hturn hretry h hgood
  | cons e pending => exact ⟨_, next_cons event e pending _ false, .mk pending h hgood⟩

/-- **A run.**  The results are the events, in order. -/
theorem results_holds
    (hturn : ∀ batch, (∀ m ∈ batch, Good m) →
      turn (.ok (octets batch)) = .events (batch.flatMap events))
    (hretry : ∀ err, isRetry err = true → turn (.error err) = .retry) (n : ℕ)
    {source : EventSource E} {es : List E} (h : Holds events Good source es) :
    results (fun source => next turn event source.arrivals source.shutdown source.pending) n
      source = (es.take n).map fun e => .ok (some (event e)) := by
  induction n generalizing source es with
  | zero => rfl
  | succ n ih =>
      have hnext := next_holds event hturn hretry h
      cases es with
      | nil =>
          have hwaits : next turn event source.arrivals source.shutdown source.pending = none := hnext
          rw [results, hwaits]
          rfl
      | cons e es =>
          obtain ⟨source', hnext, h'⟩ := hnext
          rw [results, hnext]
          exact congrArg _ (ih h')

/-- However the messages arrive, the results are their events. -/
theorem results_batched
    (hturn : ∀ batch, (∀ m ∈ batch, Good m) →
      turn (.ok (octets batch)) = .events (batch.flatMap events))
    (hretry : ∀ err, isRetry err = true → turn (.error err) = .retry) (n : ℕ)
    {messages : List (Record NlMsgHdr)} {arrivals : List Arrival} (h : Batched messages arrivals)
    (hgood : ∀ m ∈ messages, Good m) :
    results (fun source => next turn event source.arrivals source.shutdown source.pending) n
      (opened arrivals) =
        ((messages.flatMap events).take n).map fun e => .ok (some (event e)) :=
  results_holds event hturn hretry n (.mk [] h hgood)

end Runs

end EventSource

/-! ### The two sources -/

namespace RtnetlinkEventSource

/-- A message that parses alone reports one event or none. -/
theorem messageEvent_of_parse {m : Record NlMsgHdr} {l : List NetworkEvent}
    (hdone : m.header.nlmsgType ≠ nlmsgDone) (herror : m.header.nlmsgType ≠ nlmsgError)
    (h : parseNetworkEvents m.octets = .ok l) :
    ∃ e, messageEvent m.header m.body = .ok e ∧ l = e.toList := by
  have hone : octets [m] = m.octets := List.flatMap_singleton _ _
  rw [← hone] at h
  cases hevent : messageEvent m.header m.body with
  | error err =>
      have hstep : messageStep keepEvent [] m.header m.body = .error err := by
        rw [messageStep, if_neg hdone, if_neg herror, keepEvent, hevent]
        rfl
      rw [parseNetworkEvents, parseMessages, walk_octets, steps, hstep] at h
      cases h
  | ok e =>
      have hparse : parseNetworkEvents (octets [m]) = .ok ([m].flatMap fun _ => e.toList) :=
        parseNetworkEvents_octets (List.forall_mem_singleton.mpr hdone)
          (List.forall_mem_singleton.mpr herror) (List.forall_mem_singleton.mpr hevent)
      rw [List.flatMap_singleton] at hparse
      exact ⟨e, rfl, Except.ok.inj (h.symm.trans hparse)⟩

/-- Buffers parse message by message. -/
theorem parseNetworkEvents_batch {batch : List (Record NlMsgHdr)}
    {events : Record NlMsgHdr → List NetworkEvent}
    (hbatch : ∀ m ∈ batch, m.header.nlmsgType ≠ nlmsgDone ∧ m.header.nlmsgType ≠ nlmsgError ∧
      parseNetworkEvents m.octets = .ok (events m)) :
    parseNetworkEvents (octets batch) = .ok (batch.flatMap events) := by
  let event (m : Record NlMsgHdr) : Option NetworkEvent :=
    (messageEvent m.header m.body).toOption.join
  have hevent : ∀ m ∈ batch, messageEvent m.header m.body = .ok (event m) ∧
      events m = (event m).toList := by
    intro m hm
    obtain ⟨hdone, herror, hparse⟩ := hbatch m hm
    obtain ⟨e, he, hevents⟩ := messageEvent_of_parse hdone herror hparse
    have hsame : event m = e := by
      show (messageEvent m.header m.body).toOption.join = e
      rw [he]
      rfl
    rw [hsame]
    exact ⟨he, hevents⟩
  rw [parseNetworkEvents_octets (fun m hm => (hbatch m hm).1) (fun m hm => (hbatch m hm).2.1)
    fun m hm => (hevent m hm).1]
  refine congrArg Except.ok (List.flatMap_congr fun m hm => ?_)
  exact (hevent m hm).2.symm

/-- A batch without an end and without an error makes its events. -/
theorem turn_batch {batch : List (Record NlMsgHdr)}
    {events : Record NlMsgHdr → List NetworkEvent}
    (hbatch : ∀ m ∈ batch, m.header.nlmsgType ≠ nlmsgDone ∧ m.header.nlmsgType ≠ nlmsgError ∧
      parseNetworkEvents m.octets = .ok (events m)) :
    turn (.ok (octets batch)) = .events (batch.flatMap events) := by
  rw [turn]
  simp only [parseNetworkEvents_batch hbatch]

/-- A receive that may be retried is. -/
theorem turn_retry (err : NetlinkError) (h : isRetry err = true) :
    turn (.error err) = .retry := by
  rw [turn]
  simp only [h, if_true]

end RtnetlinkEventSource

namespace WifiEventSource

open Nl80211

/-- What a message that parses alone says. -/
theorem scanEvent_of_parse {m : Record NlMsgHdr} {l : List WifiEvent}
    (h : parseScanEvents m.octets = .ok l) :
    ∃ message e, genlMessage m.header m.body = .ok message ∧ scanEvent message = .ok e ∧
      l = e.toList := by
  have hone : octets [m] = m.octets := List.flatMap_singleton _ _
  rw [← hone, parseScanEvents, parseGenlMessages_octets] at h
  obtain ⟨messages, hmessages, h⟩ := Results.bind_eq_ok.mp h
  obtain ⟨events, hevents, h⟩ := Results.bind_eq_ok.mp h
  obtain rfl := Except.ok.inj h
  cases Results.mapM_eq_ok.mp hmessages with
  | cons hmessage hrest =>
      cases hrest
      cases Results.mapM_eq_ok.mp hevents with
      | @cons _ e _ _ he hrest =>
          cases hrest
          refine ⟨_, e, hmessage, he, ?_⟩
          cases e <;> rfl

/-- Buffers parse message by message. -/
theorem parseScanEvents_batch {batch : List (Record NlMsgHdr)}
    {events : Record NlMsgHdr → List WifiEvent}
    (hbatch : ∀ m ∈ batch, parseScanEvents m.octets = .ok (events m)) :
    parseScanEvents (octets batch) = .ok (batch.flatMap events) := by
  have hread : ∃ messages found, (batch.mapM fun m => genlMessage m.header m.body) = .ok messages ∧
      messages.mapM scanEvent = .ok found ∧ found.reduceOption = batch.flatMap events := by
    induction batch with
    | nil => exact ⟨[], [], rfl, rfl, rfl⟩
    | cons m batch ih =>
        obtain ⟨message, e, hmessage, he, hevents⟩ :=
          scanEvent_of_parse (hbatch m List.mem_cons_self)
        obtain ⟨messages, found, hmessages, hfound, hrest⟩ :=
          ih fun m hm => hbatch m (List.mem_cons_of_mem _ hm)
        refine ⟨message :: messages, e :: found, ?_, ?_, ?_⟩
        · rw [List.mapM_cons, hmessage, hmessages]
          rfl
        · rw [List.mapM_cons, he, hfound]
          rfl
        · rw [List.flatMap_cons, hevents, ← hrest]
          cases e <;> rfl
  obtain ⟨messages, found, hmessages, hfound, hevents⟩ := hread
  rw [parseScanEvents, parseGenlMessages_octets, hmessages]
  show messages.mapM scanEvent >>= _ = _
  rw [hfound, ← hevents]
  rfl

/-- A batch makes the events of its messages. -/
theorem turn_batch {batch : List (Record NlMsgHdr)} {events : Record NlMsgHdr → List WifiEvent}
    (hbatch : ∀ m ∈ batch, parseScanEvents m.octets = .ok (events m)) :
    turn (.ok (octets batch)) = .events (batch.flatMap events) := by
  rw [turn]
  show (match parseScanEvents (octets batch) with
    | .ok events => Turn.events events | .error err => _) = _
  rw [parseScanEvents_batch hbatch]

/-- A receive that may be retried is. -/
theorem turn_retry (err : NetlinkError) (h : isRetry err = true) :
    turn (.error err) = .retry := if_pos h

end WifiEventSource

/-- **Batching is invisible.**  However messages are spread over buffers, and whatever is retried
in between, the results of a source are the events of the messages, in their order. -/
theorem batching_invisible {messages : List (Record NlMsgHdr)} {arrivals : List Arrival}
    (h : Batched messages arrivals)
    (htype : ∀ m ∈ messages, m.header.nlmsgType ≠ nlmsgDone ∧ m.header.nlmsgType ≠ nlmsgError)
    (n : ℕ) :
    (∀ events : Record NlMsgHdr → List NetworkEvent,
      (∀ m ∈ messages, parseNetworkEvents m.octets = .ok (events m)) →
      results RtnetlinkEventSource.nextEvent n (opened arrivals) =
        ((messages.flatMap events).take n).map fun e => .ok (some e)) ∧
    ∀ events : Record NlMsgHdr → List WifiEvent,
      (∀ m ∈ messages, Nl80211.parseScanEvents m.octets = .ok (events m)) →
      results WifiEventSource.nextEvent n (opened arrivals) =
        ((messages.flatMap events).take n).map fun e => .ok (some (.wifi e)) := by
  constructor
  · intro events hparse
    exact results_batched id (fun _ => RtnetlinkEventSource.turn_batch)
      RtnetlinkEventSource.turn_retry n h fun m hm => ⟨(htype m hm).1, (htype m hm).2, hparse m hm⟩
  · intro events hparse
    exact results_batched .wifi (fun _ => WifiEventSource.turn_batch) WifiEventSource.turn_retry n
      h hparse

section Example

open Nl80211 Nl80211.Nl80211Connection

/-- A request that could be built is a message of the batch, with the type and the news it has. -/
theorem exists_newsRecord {request : Request} (events : List WifiEvent) (h : request.Buildable)
    (htype : (Layout.read request.octets : NlMsgHdr).nlmsgType ≠ nlmsgDone ∧
      (Layout.read request.octets : NlMsgHdr).nlmsgType ≠ nlmsgError)
    (hparse : parseScanEvents request.octets = .ok events) :
    ∃ m : Record NlMsgHdr, octets [m] = request.octets ∧
      (m.header.nlmsgType ≠ nlmsgDone ∧ m.header.nlmsgType ≠ nlmsgError) ∧
        parseScanEvents m.octets = .ok events := by
  obtain ⟨m, hoctets, -, -⟩ := exists_messageRecord h
  have hheader := m.read_octets []
  rw [List.append_nil, hoctets] at hheader
  rw [hheader] at htype
  exact ⟨m, (List.flatMap_singleton _ _).trans hoctets, htype, hoctets ▸ hparse⟩

omit [Native] in
/-- A scan that is done and one that is given up, in two buffers, with a message that is no news of
a scan and an interrupted receive in between. -/
theorem batching_invisible_twoScans :
    let _ : Native := littleMachine
    let interrupted : NetlinkError := .io { kind := .interrupted, message := "" }
    results WifiEventSource.nextEvent 9
      (opened [{ received := .ok (scanDone.octets ++ familyLookup.octets), shutdown := false },
        { received := .error interrupted, shutdown := false },
        { received := .ok scanGivenUp.octets, shutdown := false }]) =
      [.ok (some (.wifi { kind := .scanResults, interfaceIndex := 3, interfaceName := none
                          frequency := none })),
        .ok (some (.wifi { kind := .scanAborted, interfaceIndex := 4, interfaceName := none
                           frequency := none }))] := by
  intro machine interrupted
  let done : WifiEvent :=
    { kind := .scanResults, interfaceIndex := 3, interfaceName := none, frequency := none }
  let givenUp : WifiEvent :=
    { kind := .scanAborted, interfaceIndex := 4, interfaceName := none, frequency := none }
  obtain ⟨m₁, h₁, htype₁, hparse₁⟩ := exists_newsRecord [done]
    scanDone_buildable (by decide +kernel)
    (by rw [parseScanEvents, parseGenlMessages_request scanDone_buildable]; rfl)
  obtain ⟨m₂, h₂, htype₂, hparse₂⟩ := exists_newsRecord []
    familyLookup_buildable (by decide +kernel)
    (by rw [parseScanEvents, parseGenlMessages_request familyLookup_buildable]; rfl)
  obtain ⟨m₃, h₃, htype₃, hparse₃⟩ := exists_newsRecord [givenUp]
    scanGivenUp_buildable (by decide +kernel)
    (by rw [parseScanEvents, parseGenlMessages_request scanGivenUp_buildable]; rfl)
  have hpair : octets [m₁, m₂] = scanDone.octets ++ familyLookup.octets := by
    rw [← h₁, ← h₂]
    exact (List.flatMap_append : octets ([m₁] ++ [m₂]) = _)
  have hbatched : Batched [m₁, m₂, m₃]
      [{ received := .ok (scanDone.octets ++ familyLookup.octets), shutdown := false },
        { received := .error interrupted, shutdown := false },
        { received := .ok scanGivenUp.octets, shutdown := false }] := by
    rw [← hpair, ← h₃]
    exact .buffer [m₁, m₂] (.again rfl (.buffer [m₃] .nil))
  refine ((batching_invisible hbatched ?_ 9).2
    (fun m => (parseScanEvents m.octets).toOption.getD []) ?_).trans ?_
  · simp only [List.forall_mem_cons]
    exact ⟨htype₁, htype₂, htype₃, fun _ h => absurd h List.not_mem_nil⟩
  · simp [hparse₁, hparse₂, hparse₃, Except.toOption]
  · simp [hparse₁, hparse₂, hparse₃, Except.toOption, done, givenUp]

end Example

end NetworkManager
