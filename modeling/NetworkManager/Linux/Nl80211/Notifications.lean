import NetworkManager.Linux.Nl80211.RoundTrip
import NetworkManager.Support.Insertions
import NetworkManager.Support.Results

/-!
# Linux — Nl80211 — Notifications

The socket of a connection carries the answers to its requests and, between them, the
notifications of scans that anyone started.

* `Notifies`: a datagram that carries notifications only.
* `Reply.Alike`: two replies that differ in the notifications at most.
* `receiveDump_inserted`, `receiveAck_inserted`: notifications in between are passed over.
* `notifications_invisible`: so every request answers what it answers without them.
-/

namespace NetworkManager.Nl80211

open Records Octets Layout Netlink Insertions

variable [Native]

/-- A message about a scan, without an access point in it. -/
structure IsNotification (message : RawMsg) : Prop where
  cmd : message.cmd = some cmdTriggerScan ∨ message.cmd = some cmdNewScanResults ∨
    message.cmd = some cmdScanAborted
  bss : findAttr message.attrs attrBss = none

/-- What is received are notifications, and they are well-formed. -/
def Notifies (received : Except NetlinkError (List UInt8)) : Prop :=
  ∃ datagram messages, received = .ok datagram ∧ parseGenlMessages datagram = .ok messages ∧
    ∀ message ∈ messages, IsNotification message

/-! ### Messages -/

/-- Only a message that is neither the end of a dump nor an error has a command. -/
theorem nlmsgType_of_genlMessage {header : NlMsgHdr} {payload : List UInt8} {message : RawMsg}
    (h : genlMessage header payload = .ok message) (hcmd : message.cmd ≠ none) :
    message.nlmsgType ≠ nlmsgDone ∧ message.nlmsgType ≠ nlmsgError := by
  rw [genlMessage] at h
  split at h
  · obtain rfl := Except.ok.inj h
    exact (hcmd rfl).elim
  · rename_i htype
    split at h
    · cases h
    · obtain ⟨attrs, -, h⟩ := Results.bind_eq_ok.mp h
      obtain rfl := Except.ok.inj h
      exact not_or.mp htype

/-- A parsed message with a command is neither an end nor an error. -/
theorem nlmsgType_of_parse {buf : List UInt8} {messages : List RawMsg}
    (h : parseGenlMessages buf = .ok messages) :
    ∀ message ∈ messages, message.cmd ≠ none →
      message.nlmsgType ≠ nlmsgDone ∧ message.nlmsgType ≠ nlmsgError := by
  rw [parseGenlMessages] at h
  split at h
  · cases h
  · rename_i found offset hwalk
    split at h
    · cases h
    · obtain rfl := Except.ok.inj h
      refine walk_invariant (fun messages : List RawMsg => ∀ message ∈ messages,
        message.cmd ≠ none → message.nlmsgType ≠ nlmsgDone ∧ message.nlmsgType ≠ nlmsgError) ?_
        (List.forall_mem_nil _) hwalk
      intro messages header body messages' hs hstep
      obtain ⟨message, hmessage, hx⟩ := Results.bind_eq_ok.mp hstep
      obtain rfl := Sum.inl.inj (Except.ok.inj hx)
      rw [List.forall_mem_append, List.forall_mem_singleton]
      exact ⟨hs, nlmsgType_of_genlMessage hmessage⟩

omit [Native] in
/-- A notification has a command. -/
theorem IsNotification.cmd_ne_none {message : RawMsg} (h : IsNotification message) :
    message.cmd ≠ none := by
  intro hnone
  rcases h.cmd with hcmd | hcmd | hcmd <;> cases hnone.symm.trans hcmd

/-- Notifications neither complete nor fail a dump. -/
theorem takeDump_of_notifications {parsed : List RawMsg} (messages : List RawMsg)
    (htype : ∀ m ∈ parsed, m.nlmsgType ≠ nlmsgDone ∧ m.nlmsgType ≠ nlmsgError) :
    takeDump parsed messages = .inl (messages ++ parsed) := by
  induction parsed generalizing messages with
  | nil => rw [List.append_nil]; rfl
  | cons m parsed ih =>
      obtain ⟨hdone, herror⟩ := htype m List.mem_cons_self
      rw [takeDump, if_neg hdone, if_neg herror,
        ih _ fun m hm => htype m (List.mem_cons_of_mem _ hm), List.append_assoc]
      rfl

/-! ### Replies -/

/-- Two results that are the same failure, or two values that `R` relates. -/
inductive ResultRel {α β : Type} (R : α → β → Prop) :
    Except NetlinkError α → Except NetlinkError β → Prop
  | error (e : NetlinkError) : ResultRel R (.error e) (.error e)
  | ok {a : α} {b : β} (h : R a b) : ResultRel R (.ok a) (.ok b)

/-- Two requests that both wait, or have results that `R` relates and leave receives behind that
differ in the notifications at most. -/
def Reply.Alike {α β : Type} (R : α → β → Prop) (r : Reply α) (r' : Reply β) : Prop :=
  Option.Rel (fun x y => ResultRel R x.1 y.1 ∧ Inserted Notifies x.2 y.2) r r'

/-- The messages of a datagram, taken on top of messages that differ in the notifications. -/
theorem takeDump_inserted {messages messages' : List RawMsg}
    (h : Inserted IsNotification messages messages') (parsed : List RawMsg) :
    Sum.LiftRel (Inserted IsNotification) (ResultRel (Inserted IsNotification))
      (takeDump parsed messages) (takeDump parsed messages') := by
  induction parsed generalizing messages messages' with
  | nil => exact .inl h
  | cons m parsed ih =>
      rw [takeDump, takeDump]
      split
      · exact .inr (.ok h)
      · split
        · exact .inr (.error _)
        · exact ih (h.append (.refl [m]))

/-- A dump received with notifications inserted keeps them among its messages, and nothing else. -/
theorem receiveDump_inserted {inbox inbox' : Inbox} (hinbox : Inserted Notifies inbox inbox')
    {messages messages' : List RawMsg} (h : Inserted IsNotification messages messages') :
    Reply.Alike (Inserted IsNotification) (receiveDump inbox messages)
      (receiveDump inbox' messages') := by
  induction hinbox generalizing messages messages' with
  | nil => exact .none
  | keep received hinbox ih =>
      cases received with
      | error e => exact .some ⟨.error e, hinbox⟩
      | ok buf =>
          rw [receiveDump, receiveDump]
          cases parseGenlMessages buf with
          | error e => exact .some ⟨.error e, hinbox⟩
          | ok parsed =>
              have htake := takeDump_inserted h parsed
              simp only
              revert htake
              generalize takeDump parsed messages = taken, takeDump parsed messages' = taken'
              rintro (hmore | hresult)
              · exact ih hmore
              · exact .some ⟨hresult, hinbox⟩
  | insert hb _ ih =>
      -- the inserted datagram ends nothing, so receiving goes on behind it
      obtain ⟨datagram, parsed, rfl, hparse, hnotes⟩ := hb
      have htake := takeDump_of_notifications messages' fun m hm =>
        nlmsgType_of_parse hparse m hm (hnotes m hm).cmd_ne_none
      rw [receiveDump, hparse]
      simp only [htake]
      exact ih (h.add hnotes)

/-- Whether a request was acknowledged does not depend on notifications in between. -/
theorem receiveAck_inserted {inbox inbox' : Inbox} (hinbox : Inserted Notifies inbox inbox') :
    Reply.Alike Eq (receiveAck inbox) (receiveAck inbox') := by
  induction hinbox with
  | nil => exact .none
  | keep received hinbox ih =>
      cases received with
      | error e => exact .some ⟨.error e, hinbox⟩
      | ok buf =>
          rw [receiveAck, receiveAck]
          cases parseGenlMessages buf with
          | error e => exact .some ⟨.error e, hinbox⟩
          | ok parsed =>
              simp only
              cases parsed.find? fun message => message.nlmsgType == nlmsgError with
              | none => exact ih
              | some message =>
                  refine .some ⟨?_, hinbox⟩
                  cases parseAckError message.payload with
                  | error e => exact .error e
                  | ok _ => exact .ok rfl
  | insert hb _ ih =>
      -- the inserted datagram acknowledges nothing
      obtain ⟨datagram, parsed, rfl, hparse, hnotes⟩ := hb
      have hfind : (parsed.find? fun message => message.nlmsgType == nlmsgError) = none := by
        rw [List.find?_eq_none]
        intro m hm
        rw [beq_iff_eq]
        exact (nlmsgType_of_parse hparse m hm (hnotes m hm).cmd_ne_none).2
      rw [receiveAck, hparse]
      simp only [hfind]
      exact ih

/-- Replies to which the same is done, as long as it sees no difference. -/
theorem Reply.Alike.map {α β γ : Type} {R : α → β → Prop} {r : Reply α} {r' : Reply β}
    {f : Except NetlinkError α → Except NetlinkError γ}
    {g : Except NetlinkError β → Except NetlinkError γ} (h : Reply.Alike R r r')
    (hfg : ∀ x y, ResultRel R x y → f x = g y) :
    (r.map fun (x, inbox) => (f x, inbox)).map Prod.fst =
      (r'.map fun (y, inbox) => (g y, inbox)).map Prod.fst := by
  cases h with
  | none => rfl
  | some h => exact congrArg some (hfg _ _ h.1)

/-! ### Requests -/

namespace Nl80211Connection

/-- The connection, if it receives something else. -/
def receiving (connection : Nl80211Connection) (inbox : Inbox) : Nl80211Connection :=
  { connection with socket := { connection.socket with inbox } }

variable {T : Type} {get new : UInt8}
  {fromAttrs : List RawAttr → Except NetlinkError (Option T)}

omit [Native] in
/-- The items of a dump are found message by message. -/
theorem keepMessages_cons (m : RawMsg) (messages : List RawMsg) :
    keepMessages get new fromAttrs (m :: messages) =
      if m.cmd == some get || m.cmd == some new then do
        let kept ← fromAttrs m.attrs
        return kept.toList ++ (← keepMessages get new fromAttrs messages)
      else keepMessages get new fromAttrs messages := by
  rw [keepMessages, List.filter_cons]
  split
  · rw [List.mapM_cons]
    cases fromAttrs m.attrs with
    | error e => rfl
    | ok kept =>
        rw [keepMessages]
        generalize List.mapM (m := Except NetlinkError) _ _ = rest
        cases rest with
        | error e => rfl
        | ok rest => cases kept <;> rfl
  · rfl

omit [Native] in
/-- Messages of which nothing is kept make no difference to the ones that are. -/
theorem keepMessages_inserted
    (hskip : ∀ m, IsNotification m → (m.cmd == some get || m.cmd == some new) = true →
      fromAttrs m.attrs = .ok none)
    {messages messages' : List RawMsg} (h : Inserted IsNotification messages messages') :
    keepMessages get new fromAttrs messages = keepMessages get new fromAttrs messages' := by
  induction h with
  | nil => rfl
  | keep m h ih => rw [keepMessages_cons, keepMessages_cons, ih]
  | insert hb h ih =>
      rw [keepMessages_cons, ih]
      split
      · rename_i hcmd
        rw [hskip _ hb hcmd]
        cases keepMessages get new fromAttrs _ <;> rfl
      · rfl

variable (connection : Nl80211Connection) {inbox : Inbox}

/-- A whole dump keeps at most the notifications more. -/
theorem transactDump_inserted (h : Inserted Notifies connection.socket.inbox inbox) (cmd : UInt8)
    (attrs : List (UInt16 × List UInt8)) :
    Reply.Alike (Inserted IsNotification) (connection.transactDump cmd attrs)
      ((connection.receiving inbox).transactDump cmd attrs) := by
  unfold transactDump
  simp only [receiving]
  cases connection.socket.send
      (buildMessage connection.familyId cmd (nlmFRequest ||| nlmFDump) 1 attrs) with
  | error e => exact .some ⟨.error e, h⟩
  | ok _ => exact receiveDump_inserted h .nil

/-- An acknowledged request has the same outcome. -/
theorem transactAck_inserted (h : Inserted Notifies connection.socket.inbox inbox) (cmd : UInt8)
    (attrs : List (UInt16 × List UInt8)) :
    Reply.Alike Eq (connection.transactAck cmd attrs)
      ((connection.receiving inbox).transactAck cmd attrs) := by
  unfold transactAck
  simp only [receiving]
  cases connection.socket.send
      (buildMessage connection.familyId cmd (nlmFRequest ||| nlmFAck) 1 attrs) with
  | error e => exact .some ⟨.error e, h⟩
  | ok _ => exact receiveAck_inserted h

/-- A dump whose readers skip the notifications. -/
theorem dump_inserted {U : Type} (h : Inserted Notifies connection.socket.inbox inbox)
    (hskip : ∀ m, IsNotification m → (m.cmd == some get || m.cmd == some new) = true →
      fromAttrs m.attrs = .ok none)
    (cmd : UInt8) (attrs : List (UInt16 × List UInt8))
    (finish : Except NetlinkError (List T) → Except NetlinkError U) :
    (((connection.receiving inbox).transactDump cmd attrs).map fun (messages, inbox) =>
        (finish (messages.bind (keepMessages get new fromAttrs)), inbox)).map Prod.fst =
      ((connection.transactDump cmd attrs).map fun (messages, inbox) =>
        (finish (messages.bind (keepMessages get new fromAttrs)), inbox)).map Prod.fst := by
  have hkept : ∀ x y, ResultRel (Inserted IsNotification) x y →
      finish (x.bind (keepMessages get new fromAttrs)) =
        finish (y.bind (keepMessages get new fromAttrs)) := by
    rintro x y (e | hmessages)
    · rfl
    · exact congrArg finish (keepMessages_inserted hskip hmessages)
  exact ((transactDump_inserted connection h cmd attrs).map hkept).symm

/-- **Notifications are invisible.**  Wherever and however many of them come between the datagrams
of an answer, every dump lists what it lists without them, and every acknowledgement is the same. -/
theorem notifications_invisible (h : Inserted Notifies connection.socket.inbox inbox) :
    (∀ ifindex, ((connection.receiving inbox).dumpScan ifindex).map Prod.fst =
      (connection.dumpScan ifindex).map Prod.fst) ∧
    (connection.receiving inbox).dumpInterfaces.map Prod.fst =
      connection.dumpInterfaces.map Prod.fst ∧
    (connection.receiving inbox).dumpWiphys.map Prod.fst =
      connection.dumpWiphys.map Prod.fst ∧
    ∀ cmd attrs, ((connection.receiving inbox).transactAck cmd attrs).map Prod.fst =
      (connection.transactAck cmd attrs).map Prod.fst := by
  -- the commands of the dumps are none that a notification carries, except for scans
  have hother (a b : UInt8) (ha : a ∉ [cmdTriggerScan, cmdNewScanResults, cmdScanAborted])
      (hb : b ∉ [cmdTriggerScan, cmdNewScanResults, cmdScanAborted]) (m : RawMsg)
      (hm : IsNotification m) : ¬ (m.cmd == some a || m.cmd == some b) = true := by
    have hmem : ∀ c, m.cmd = some c →
        c ∈ [cmdTriggerScan, cmdNewScanResults, cmdScanAborted] := by
      intro c hc
      have hcmd := hm.cmd
      rw [hc] at hcmd
      simpa using hcmd
    rw [Bool.or_eq_true, beq_iff_eq, beq_iff_eq]
    rintro (hcmd | hcmd)
    · exact ha (hmem a hcmd)
    · exact hb (hmem b hcmd)
  refine ⟨fun ifindex => ?_, ?_, ?_, fun cmd attrs => ?_⟩
  -- a notification of a scan has no access point in it
  · refine dump_inserted connection h (fun m hm _ => ?_) cmdGetScan (ifindexAttrs ifindex) id
    rw [bssFromAttrs, hm.bss]
  · exact dump_inserted connection h
      (fun m hm hcmd => (hother _ _ (by decide) (by decide) m hm hcmd).elim) cmdGetInterface [] _
  · exact dump_inserted connection h
      (fun m hm hcmd => (hother _ _ (by decide) (by decide) m hm hcmd).elim) cmdGetWiphy [] _
  · have hack := (transactAck_inserted connection h cmd attrs).map
      (f := id) (g := id) (by rintro x y (e | rfl) <;> rfl)
    simpa using hack.symm

/-- The news that interface 3 has been scanned. -/
def scanDone : Request where
  familyId := 0x1c
  cmd := cmdNewScanResults
  flags := 0
  seq := 0
  attrs := [(attrIfindex, [3, 0, 0, 0])]

/-- The end of a scan can be put into a message. -/
theorem scanDone_buildable : scanDone.Buildable where
  familyId := by decide
  typ := by rintro a (_ | ⟨_, ⟨⟩⟩); decide
  payload := by rintro a (_ | ⟨_, ⟨⟩⟩); decide
  len := show 20 + (align (4 + 4) 4 + 0) < 2 ^ 32 by decide

/-- It is a notification. -/
theorem scanDone_notifies : Notifies (.ok scanDone.octets) := by
  refine ⟨_, _, rfl, parseGenlMessages_request scanDone_buildable, ?_⟩
  rw [List.forall_mem_singleton]
  exact ⟨.inr (.inl rfl), rfl⟩

/-- The news that a scan on interface 4 was given up. -/
def scanGivenUp : Request where
  familyId := 0x1c
  cmd := cmdScanAborted
  flags := 0
  seq := 0
  attrs := [(attrIfindex, [4, 0, 0, 0])]

/-- An aborted scan can be put into a message. -/
theorem scanGivenUp_buildable : scanGivenUp.Buildable where
  familyId := by decide
  typ := by rintro a (_ | ⟨_, ⟨⟩⟩); decide
  payload := by rintro a (_ | ⟨_, ⟨⟩⟩); decide
  len := show 20 + (align (4 + 4) 4 + 0) < 2 ^ 32 by decide

/-- It is a notification. -/
theorem scanGivenUp_notifies : Notifies (.ok scanGivenUp.octets) := by
  refine ⟨_, _, rfl, parseGenlMessages_request scanGivenUp_buildable, ?_⟩
  rw [List.forall_mem_singleton]
  exact ⟨.inr (.inr rfl), rfl⟩

/-- The message in which a scan dump lists the access point with this last octet of its BSSID. -/
def bssMessage (last : UInt8) : List UInt8 :=
  buildMessage 0x1c cmdNewScanResults 2 1 [(attrIfindex, [3, 0, 0, 0]),
    (attrBss, appendAttr (appendAttr [] bssBssid [2, 0, 0, 0, 0, last]) bssInformationElements
      [0, 4, 99, 97, 102, 101])]

/-- The end of a dump. -/
def endOfScan : List UInt8 :=
  write ({ nlmsgLen := 16, nlmsgType := nlmsgDone, nlmsgFlags := 2, nlmsgSeq := 1, nlmsgPid := 0 } :
    NlMsgHdr)

/-- A connection on which a dump lists two access points in two datagrams. -/
def cafeScan : Nl80211Connection where
  familyId := 0x1c
  socket :=
    { send := fun _ => .ok ()
      inbox := [.ok (bssMessage 1), .ok (bssMessage 2 ++ endOfScan)] }


/-- What a dump lists of it. -/
def cafePoint (last : UInt8) : AccessPoint where
  bssid := some ⟨⟨[2, 0, 0, 0, 0, last], rfl⟩⟩
  ssid := some ⟨[99, 97, 102, 101]⟩
  frequency := none
  channel := none
  signalDbm := none
  signalUnspecified := none
  capability := none
  security := {
    wep := false, wpa1 := false, wpa2 := false, wpa3 := false, enterprise := false
    managementFrameProtection := false, authSuites := [] }
  seenMillisAgo := none

omit [Native] in
/-- Notifications of scans in the middle of a dump of the access points change nothing. -/
theorem notifications_invisible_cafeScan :
    let _ : Native := littleMachine
    ((cafeScan.receiving [.ok scanDone.octets, .ok (bssMessage 1), .ok scanGivenUp.octets,
        .ok scanDone.octets, .ok (bssMessage 2 ++ endOfScan)]).dumpScan 3).map Prod.fst =
      some (.ok [cafePoint 1, cafePoint 2]) := by
  intro machine
  have hplain : (cafeScan.dumpScan 3).map Prod.fst = some (.ok [cafePoint 1, cafePoint 2]) := by
    decide +kernel
  rw [← hplain]
  exact (notifications_invisible cafeScan (.insert scanDone_notifies (.keep _
    (.insert scanGivenUp_notifies (.insert scanDone_notifies (.refl _)))))).1 3

end Nl80211Connection

end NetworkManager.Nl80211
