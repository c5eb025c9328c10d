import NetworkManager.Linux.Netlink.Requests

/-!
# Linux — Netlink — Dumps

The four walkers over a datagram agree: where `parse_network_events` makes events of it, the three
dump parsers list what those events report, and stop at the same place.

* `messageEvent_cases`: what the event of a message can be.
* `parseDump_of_events`: a dump parser beside the event parser, on any buffer.
* `dumps_agree_with_events`: the three of them.
-/

namespace NetworkManager.Netlink

open Records Octets

/-! ### What the events report -/

namespace NetworkEvent

/-- The link a dump would list. -/
def reportedLink : NetworkEvent → Option Link
  | .link { kind := .created, link := item } => some item
  | .link { kind := .changed, link := item } => some item
  | _ => none

/-- The address a dump would list. -/
def reportedAddress : NetworkEvent → Option Address
  | .address { kind := .added, address := item } => some item
  | _ => none

/-- The route a dump would list. -/
def reportedRoute : NetworkEvent → Option Route
  | .route { kind := .added, route := item } => some item
  | .route { kind := .changed, route := item } => some item
  | _ => none

end NetworkEvent

open NetworkEvent

variable [Native]

/-- What the event of a message can be. -/
inductive Reported (header : NlMsgHdr) (payload : List UInt8) : Option NetworkEvent → Prop where
  | newLink (item : Option Link) (kind : LinkEventKind) (htype : header.nlmsgType = rtmNewlink)
      (hparse : parseLink payload = .ok item) (hkind : kind ≠ .removed) :
      Reported header payload (item.map fun link => .link { kind, link })
  | delLink (item : Option Link) (htype : header.nlmsgType = rtmDellink) :
      Reported header payload (item.map fun link => .link { kind := .removed, link })
  | newAddr (item : Option Address) (htype : header.nlmsgType = rtmNewaddr)
      (hparse : parseAddress payload = .ok item) :
      Reported header payload (item.map fun address => .address { kind := .added, address })
  | delAddr (item : Option Address) (htype : header.nlmsgType = rtmDeladdr) :
      Reported header payload (item.map fun address => .address { kind := .removed, address })
  | newRoute (item : Option Route) (kind : RouteEventKind)
      (htype : header.nlmsgType = rtmNewroute) (hparse : parseRoute payload = .ok item)
      (hkind : kind ≠ .removed) :
      Reported header payload (item.map fun route => .route { kind, route })
  | delRoute (item : Option Route) (htype : header.nlmsgType = rtmDelroute) :
      Reported header payload (item.map fun route => .route { kind := .removed, route })
  | other (hlink : header.nlmsgType ≠ rtmNewlink) (haddr : header.nlmsgType ≠ rtmNewaddr)
      (hroute : header.nlmsgType ≠ rtmNewroute) : Reported header payload none

/-- The event of a message, or its absence, is the one that its type and its payload report. -/
theorem reported_of_ok {header : NlMsgHdr} {payload : List UInt8} {event : Option NetworkEvent}
    (h : messageEvent header payload = .ok event) : Reported header payload event := by
  unfold messageEvent at h
  by_cases hnewlink : header.nlmsgType = rtmNewlink
  · rw [if_pos hnewlink] at h
    obtain ⟨item, hitem, h⟩ := Results.bind_eq_ok.mp h
    cases h
    exact .newLink item _ hnewlink hitem (by split <;> simp)
  rw [if_neg hnewlink] at h
  by_cases hdellink : header.nlmsgType = rtmDellink
  · rw [if_pos hdellink] at h
    obtain ⟨item, -, h⟩ := Results.bind_eq_ok.mp h
    cases h
    exact .delLink item hdellink
  rw [if_neg hdellink] at h
  by_cases hnewaddr : header.nlmsgType = rtmNewaddr
  · rw [if_pos hnewaddr] at h
    obtain ⟨item, hitem, h⟩ := Results.bind_eq_ok.mp h
    cases h
    exact .newAddr item hnewaddr hitem
  rw [if_neg hnewaddr] at h
  by_cases hdeladdr : header.nlmsgType = rtmDeladdr
  · rw [if_pos hdeladdr] at h
    obtain ⟨item, -, h⟩ := Results.bind_eq_ok.mp h
    cases h
    exact .delAddr item hdeladdr
  rw [if_neg hdeladdr] at h
  by_cases hnewroute : header.nlmsgType = rtmNewroute
  · rw [if_pos hnewroute] at h
    obtain ⟨item, hitem, h⟩ := Results.bind_eq_ok.mp h
    cases h
    exact .newRoute item _ hnewroute hitem (by split <;> simp)
  rw [if_neg hnewroute] at h
  by_cases hdelroute : header.nlmsgType = rtmDelroute
  · rw [if_pos hdelroute] at h
    obtain ⟨item, -, h⟩ := Results.bind_eq_ok.mp h
    cases h
    exact .delRoute item hdelroute
  rw [if_neg hdelroute] at h
  cases h
  exact .other hnewlink hnewaddr hnewroute

/-- A dump parser lists what the events report, message by message. -/
def Reports {T : Type} (messageType : UInt16)
    (parse : List UInt8 → Except NetlinkError (Option T)) (select : NetworkEvent → Option T) :
    Prop :=
  ∀ header payload event, messageEvent header payload = .ok event →
    if header.nlmsgType = messageType then parse payload = .ok (event.bind select)
    else event.bind select = none

/-- The link parser keeps what the notification of a new link reports. -/
theorem parseLink_reports : Reports rtmNewlink parseLink reportedLink := by
  intro header payload event h
  cases reported_of_ok h with
  | newLink item kind htype hparse hkind =>
      rw [if_pos htype, hparse]
      cases item with
      | none => rfl
      | some link => cases kind <;> first | rfl | exact absurd rfl hkind
  | delLink item htype => rw [if_neg (by rw [htype]; decide)]; cases item <;> rfl
  | newAddr item htype => rw [if_neg (by rw [htype]; decide)]; cases item <;> rfl
  | delAddr item htype => rw [if_neg (by rw [htype]; decide)]; cases item <;> rfl
  | newRoute item kind htype => rw [if_neg (by rw [htype]; decide)]; cases item <;> rfl
  | delRoute item htype => rw [if_neg (by rw [htype]; decide)]; cases item <;> rfl
  | other hlink => rw [if_neg hlink]; rfl

/-- The address parser keeps what the notification of a new address reports. -/
theorem parseAddress_reports : Reports rtmNewaddr parseAddress reportedAddress := by
  intro header payload event h
  cases reported_of_ok h with
  | newLink item kind htype => rw [if_neg (by rw [htype]; decide)]; cases item <;> rfl
  | delLink item htype => rw [if_neg (by rw [htype]; decide)]; cases item <;> rfl
  | newAddr item htype hparse => rw [if_pos htype, hparse]; cases item <;> rfl
  | delAddr item htype => rw [if_neg (by rw [htype]; decide)]; cases item <;> rfl
  | newRoute item kind htype => rw [if_neg (by rw [htype]; decide)]; cases item <;> rfl
  | delRoute item htype => rw [if_neg (by rw [htype]; decide)]; cases item <;> rfl
  | other hlink haddr => rw [if_neg haddr]; rfl

/-- The route parser keeps what the notification of a new route reports. -/
theorem parseRoute_reports : Reports rtmNewroute parseRoute reportedRoute := by
  intro header payload event h
  cases reported_of_ok h with
  | newLink item kind htype => rw [if_neg (by rw [htype]; decide)]; cases item <;> rfl
  | delLink item htype => rw [if_neg (by rw [htype]; decide)]; cases item <;> rfl
  | newAddr item htype => rw [if_neg (by rw [htype]; decide)]; cases item <;> rfl
  | delAddr item htype => rw [if_neg (by rw [htype]; decide)]; cases item <;> rfl
  | newRoute item kind htype hparse hkind =>
      rw [if_pos htype, hparse]
      cases item with
      | none => rfl
      | some route => cases kind <;> first | rfl | exact absurd rfl hkind
  | delRoute item htype => rw [if_neg (by rw [htype]; decide)]; cases item <;> rfl
  | other hlink haddr hroute => rw [if_neg hroute]; rfl

/-! ### Whole datagrams -/

/-- Two walkers that keep related things of every message keep related things of a datagram, and
both stop at the same place. -/
theorem parseMessages_lift {σ τ : Type}
    {keep₁ : σ → NlMsgHdr → List UInt8 → Except NetlinkError σ}
    {keep₂ : τ → NlMsgHdr → List UInt8 → Except NetlinkError τ} (R : σ → τ → Prop)
    (hkeep : ∀ s t header payload s', R s t → keep₁ s header payload = .ok s' →
      ∃ t', keep₂ t header payload = .ok t' ∧ R s' t')
    {buf : List UInt8} {s : σ} {t : τ} {x : (σ × ℕ) ⊕ σ} (hst : R s t)
    (hx : parseMessages keep₁ buf s = .ok x) :
    ∃ y, parseMessages keep₂ buf t = .ok y ∧
      Sum.LiftRel (fun p q => R p.1 q.1 ∧ p.2 = q.2) R x y := by
  refine walk_lift _ _ R R ?_ buf 0 s t x hst hx
  intro s t header payload next hst hnext
  unfold messageStep at hnext ⊢
  by_cases hdone : header.nlmsgType = nlmsgDone
  · rw [if_pos hdone] at hnext ⊢
    cases hnext
    exact ⟨_, rfl, .inr hst⟩
  rw [if_neg hdone] at hnext ⊢
  by_cases herror : header.nlmsgType = nlmsgError
  · rw [if_pos herror] at hnext
    cases hnext
  rw [if_neg herror] at hnext ⊢
  cases hs' : keep₁ s header payload with
  | error e =>
      rw [hs'] at hnext
      cases hnext
  | ok s' =>
      obtain ⟨t', ht', hrel⟩ := hkeep s t header payload s' hst hs'
      rw [hs'] at hnext
      rw [ht']
      cases hnext
      exact ⟨_, rfl, .inl hrel⟩

/-- **A dump parser beside the event parser**: it succeeds too, keeps what the events report, and
says `true` exactly where the event parser met `NLMSG_DONE`. -/
theorem parseDump_of_events {T : Type} {messageType : UInt16}
    {parse : List UInt8 → Except NetlinkError (Option T)} {select : NetworkEvent → Option T}
    (hreports : Reports messageType parse select) {buf : List UInt8}
    {x : (List NetworkEvent × ℕ) ⊕ List NetworkEvent}
    (hx : parseMessages keepEvent buf [] = .ok x) (kept : List T) :
    parseDump messageType parse buf kept =
      .ok (kept ++ (x.elim Prod.fst id).filterMap select, x.isRight) := by
  -- what was kept is what the events so far report
  let R : List NetworkEvent → List T → Prop := fun events items =>
    items = kept ++ events.filterMap select
  have hkeep (events : List NetworkEvent) (items : List T) (header : NlMsgHdr)
      (payload : List UInt8) (events' : List NetworkEvent) (hR : R events items)
      (hevents' : keepEvent events header payload = .ok events') :
      ∃ items', keepItem messageType parse items header payload = .ok items' ∧
        R events' items' := by
    obtain ⟨event, hevent, hreturn⟩ := Results.bind_eq_ok.mp hevents'
    have hreport := hreports header payload event hevent
    cases hreturn
    have hselect : (event.toList).filterMap select = (event.bind select).toList := by
      cases event with
      | none => rfl
      | some event => simp [List.filterMap_cons]; cases select event <;> rfl
    by_cases htype : header.nlmsgType = messageType
    · rw [if_pos htype] at hreport
      rw [keepItem, if_pos htype, hreport]
      refine ⟨_, rfl, ?_⟩
      simp only [R, List.filterMap_append, hselect, hR, List.append_assoc]
    · rw [if_neg htype] at hreport
      rw [keepItem, if_neg htype]
      refine ⟨_, rfl, ?_⟩
      simp only [R, List.filterMap_append, hselect, hreport, hR, Option.toList_none,
        List.append_nil]
  have hstart : R [] kept := by simp [R]
  obtain ⟨y, hy, hrel⟩ := parseMessages_lift R hkeep hstart hx
  rw [parseDump, hy]
  cases hrel with
  | inl hkept => exact congrArg (fun items => Except.ok (items, false)) hkept.1
  | inr hkept => exact congrArg (fun items => Except.ok (items, true)) hkept

/-- **Dumps and events agree.** -/
theorem dumps_agree_with_events {buf : List UInt8} {events : List NetworkEvent}
    (h : parseNetworkEvents buf = .ok events) (links : List Link) (addresses : List Address)
    (routes : List Route) :
    ∃ done,
      parseLinkMessages buf links = .ok (links ++ events.filterMap reportedLink, done) ∧
      parseAddressMessages buf addresses =
        .ok (addresses ++ events.filterMap reportedAddress, done) ∧
      parseRouteMessages buf routes = .ok (routes ++ events.filterMap reportedRoute, done) := by
  obtain ⟨x, hx, h⟩ := Results.bind_eq_ok.mp h
  have hevents : x.elim Prod.fst id = events := by
    rcases x with ⟨kept, offset⟩ | kept
    · simp only at h
      split at h
      · cases h
      · exact Except.ok.inj h
    · exact Except.ok.inj h
  subst hevents
  exact ⟨x.isRight, parseDump_of_events parseLink_reports hx links,
    parseDump_of_events parseAddress_reports hx addresses,
    parseDump_of_events parseRoute_reports hx routes⟩

omit [Native] in
/-- A datagram with two routes, an address between them, and the end of the dump. -/
theorem dumps_agree_with_events_siteOfTen :
    let _ : Native := littleMachine
    let buf := buildRouteMessage rtmNewroute nlmFCreate siteOfTen ++
      (addAddressMessage 2 24 7 [10, 0, 0, 5] ++
      (buildRouteMessage rtmNewroute nlmFCreate gatewayOfTen ++
      Layout.write (requestHeader nlmsgDone 0 0)))
    ∃ done, parseAddressMessages buf [] = .ok ([⟨7, .v4 (.new 10 0 0 5), 24⟩], done) ∧
      parseRouteMessages buf [] = .ok ([siteOfTen, gatewayOfTen], done) := by
  intro machine buf
  have hevents : parseNetworkEvents buf = .ok [
      .route { kind := .added, route := siteOfTen },
      .address { kind := .added, address := ⟨7, .v4 (.new 10 0 0 5), 24⟩ },
      .route { kind := .added, route := gatewayOfTen }] := by decide +kernel
  obtain ⟨done, -, haddresses, hroutes⟩ := dumps_agree_with_events hevents [] [] []
  exact ⟨done, haddresses, hroutes⟩

end NetworkManager.Netlink
