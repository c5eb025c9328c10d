import NetworkManager.Linux.Nl80211

/-!
# Linux — Nl80211 — RoundTrip

What `build_message` writes, `parse_genl_messages` reads.

* `parseAttrs_octets`, `parseGenlMessages_octets`: lists of records are read one by one.
* `exists_attrRecords`: the attributes of a request are a list of records, as long as `attrLen`
  says.
* `built_messages_parse`: requests read back, alone and one after another.
-/

namespace NetworkManager.Nl80211

open Records Octets Layout Header Netlink

variable [Native]

/-! ### Reading records -/

/-- The attribute a record holds. -/
def rawAttr (r : Record NlAttr) : RawAttr where
  typ := r.header.nlaType &&& nlaTypeMask
  nested := r.header.nlaType &&& nlaFNested ≠ 0
  payload := r.body

/-- The attributes of a payload are read back record by record. -/
theorem parseAttrs_octets (records : List (Record NlAttr)) :
    parseAttrs (octets records) = .ok (records.map rawAttr) := by
  have hsteps (attrs : List RawAttr) : steps (ε := NetlinkError) (ρ := Empty)
      (fun attrs header payload => .ok (.inl (attrs ++ [{ typ := header.nlaType &&& nlaTypeMask
                                                          nested := header.nlaType &&& nlaFNested ≠ 0
                                                          payload }])))
      records attrs = .ok (.inl (attrs ++ records.map rawAttr)) := by
    induction records generalizing attrs with
    | nil => rw [List.map_nil, List.append_nil]; rfl
    | cons r records ih =>
        rw [steps, proceed_inl, ih, List.map_cons, List.append_assoc]
        rfl
  rw [parseAttrs, walk_octets, hsteps]
  rfl

/-- Messages are read one by one, and the first that cannot be read decides. -/
theorem parseGenlMessages_octets (records : List (Record NlMsgHdr)) :
    parseGenlMessages (octets records) =
      records.mapM fun r => genlMessage r.header r.body := by
  have hsteps (messages : List RawMsg) : steps (ρ := Empty)
      (fun messages header payload => do
        return .inl (messages ++ [← genlMessage header payload]))
      records messages =
        (records.mapM fun r => genlMessage r.header r.body).map (Sum.inl <| messages ++ ·) := by
    induction records generalizing messages with
    | nil => rw [List.mapM_nil]; exact congrArg (Except.ok ∘ Sum.inl) (List.append_nil _).symm
    | cons r records ih =>
        rw [List.mapM_cons, steps]
        cases genlMessage r.header r.body with
        | error e => rfl
        | ok message =>
            show steps _ records (messages ++ [message]) = _
            rw [ih]
            show _ = ((records.mapM fun r => genlMessage r.header r.body) >>= fun messages =>
              pure (message :: messages)).map _
            cases records.mapM fun r => genlMessage r.header r.body with
            | error e => rfl
            | ok rest => simp [Except.map, bind, Except.bind, pure, Except.pure]
  rw [parseGenlMessages, walk_octets, hsteps]
  cases records.mapM fun r => genlMessage r.header r.body with
  | error e => rfl
  | ok messages => exact if_neg (not_not_intro rfl)

/-! ### Attributes as records -/

/-- Attributes written one after another are a list of records, as long as `attrLen` says. -/
theorem exists_attrRecords {attrs : List (UInt16 × List UInt8)}
    (h : ∀ a ∈ attrs, a.2.length ≤ 65531) {buf : List UInt8} (hbuf : 4 ∣ buf.length) :
    ∃ records : List (Record NlAttr),
      records.map (fun r => (r.header.nlaType, r.body)) = attrs ∧
      attrs.foldl (fun buf (typ, payload) => appendAttr buf typ payload) buf =
        buf ++ octets records ∧
      (octets records).length = attrLen attrs := by
  induction attrs generalizing buf with
  | nil => exact ⟨[], rfl, (List.append_nil buf).symm, rfl⟩
  | cons a attrs ih =>
      obtain ⟨typ, payload⟩ := a
      have hpayload : payload.length ≤ 65531 := h (typ, payload) List.mem_cons_self
      have hspan : (UInt16.ofNat (4 + payload.length)).toNat = 4 + payload.length := by
        rw [UInt16.toNat_ofNat', Nat.mod_eq_of_lt (by omega)]
      let r : Record NlAttr :=
        .padded { nlaLen := .ofNat (4 + payload.length), nlaType := typ } payload hspan
      have hlength : r.octets.length = align (4 + payload.length) 4 :=
        r.length_octets.trans (congrArg (align · 4) hspan)
      -- the buffer has whole words, so the padding depends on the attribute only
      have happend : appendAttr buf typ payload = buf ++ r.octets := by
        have hpad : (buf ++ (native 2 (UInt16.ofNat (4 + payload.length)).toNat) ++
            (native 2 typ.toNat) ++ payload).length = buf.length + (4 + payload.length) := by
          simp only [List.length_append, length_native]
          omega
        show buf ++ _ ++ _ ++ _ ++ List.replicate (align (List.length _) 4 - List.length _) 0 =
          buf ++ (_ ++ _ ++ (payload ++ List.replicate
            (align (UInt16.ofNat (4 + payload.length)).toNat 4 -
              (UInt16.ofNat (4 + payload.length)).toNat) 0))
        have hpadding : align (buf.length + (4 + payload.length)) 4 -
            (buf.length + (4 + payload.length)) =
              align (4 + payload.length) 4 - (4 + payload.length) := by
          rw [align_add_of_dvd (by decide) hbuf, Nat.add_sub_add_left]
        have hnlAttr : size NlAttr = 4 := rfl
        rw [hnlAttr, hpad, hpadding, hspan]
        show _ = buf ++
          (native 2 (UInt16.ofNat (4 + payload.length)).toNat ++ (native 2 typ.toNat) ++ _)
        rw [hspan]
        simp only [List.append_assoc]
      have hwhole : 4 ∣ (buf ++ r.octets).length := by
        rw [List.length_append, hlength]
        exact Nat.dvd_add hbuf (dvd_align _ _)
      obtain ⟨records, hmap, hfold, hlen⟩ :=
        ih (fun a ha => h a (List.mem_cons_of_mem _ ha)) hwhole
      refine ⟨r :: records, by rw [List.map_cons, hmap]; rfl, ?_, ?_⟩
      · rw [List.foldl_cons]
        show attrs.foldl _ (appendAttr buf typ payload) = _
        rw [happend, hfold, octets, octets, List.flatMap_cons, List.append_assoc]
      · rw [octets, List.flatMap_cons, List.length_append, hlength]
        exact congrArg _ hlen

/-- The two high bits of a type say whether the attribute is nested. -/
theorem rawAttr_of_lt {r : Record NlAttr} (h : r.header.nlaType < 0x4000) :
    rawAttr r = { typ := r.header.nlaType, nested := false, payload := r.body } := by
  have hmask : r.header.nlaType &&& nlaTypeMask = r.header.nlaType := by
    apply UInt16.toNat_inj.mp
    have hlt : r.header.nlaType.toNat < 2 ^ 14 := h
    rw [UInt16.toNat_and]
    exact (Nat.and_two_pow_sub_one_eq_mod _ 14).trans (Nat.mod_eq_of_lt hlt)
  have hnested : r.header.nlaType &&& nlaFNested = 0 := by
    apply UInt16.toNat_inj.mp
    have hlt : r.header.nlaType.toNat < 2 ^ 14 := h
    rw [UInt16.toNat_and]
    have hbit : r.header.nlaType.toNat.testBit 15 = false :=
      Nat.testBit_lt_two_pow (hlt.trans (by decide))
    show r.header.nlaType.toNat &&& 2 ^ 15 = 0
    rw [Nat.and_two_pow, hbit]
    rfl
  rw [rawAttr, hmask, hnested]
  rfl

/-! ### Requests -/

/-- What `build_message` is called with. -/
structure Request where
  familyId : UInt16
  cmd : UInt8
  flags : UInt16
  seq : UInt32
  attrs : List (UInt16 × List UInt8)

namespace Request

/-- A request that a message can carry. -/
structure Buildable (request : Request) : Prop where
  familyId : request.familyId ≠ nlmsgError ∧ request.familyId ≠ nlmsgDone
  typ : ∀ a ∈ request.attrs, a.1 < 0x4000
  payload : ∀ a ∈ request.attrs, a.2.length ≤ 65531
  len : 20 + attrLen request.attrs < 2 ^ 32

/-- The octets of a request. -/
def octets (request : Request) : List UInt8 :=
  buildMessage request.familyId request.cmd request.flags request.seq request.attrs

/-- What the request says. -/
def message (request : Request) : RawMsg where
  nlmsgType := request.familyId
  nlmsgFlags := request.flags
  cmd := some request.cmd
  attrs := request.attrs.map fun (typ, payload) => { typ, nested := false, payload }
  payload := request.octets.drop (size NlMsgHdr)

end Request

/-- The attributes fill whole words. -/
theorem dvd_attrLen (attrs : List (UInt16 × List UInt8)) : 4 ∣ attrLen attrs := by
  refine List.dvd_sum fun n hn => ?_
  obtain ⟨a, -, rfl⟩ := List.mem_map.mp hn
  exact dvd_align _ _

/-- A request is one record, of the length its header says. -/
theorem exists_messageRecord {request : Request} (h : request.Buildable) :
    ∃ r : Record NlMsgHdr, r.octets = request.octets ∧ span r.header = request.octets.length ∧
      genlMessage r.header r.body = .ok request.message := by
  let front := native 4 (UInt32.ofNat (20 + attrLen request.attrs)).toNat ++
    (native 2 request.familyId.toNat) ++ (native 2 request.flags.toNat) ++
    (native 4 request.seq.toNat) ++ (native 4 0) ++ [request.cmd, 1, 0, 0]
  have hfront : front.length = 20 := by simp [front]
  have hwhole : 4 ∣ front.length := by rw [hfront]; decide
  obtain ⟨records, hmap, hfold, hlen⟩ := exists_attrRecords h.payload hwhole
  let genl : GenlHdr := { cmd := request.cmd, version := 1, reserved := 0 }
  let header : NlMsgHdr :=
    { nlmsgLen := .ofNat (20 + attrLen request.attrs)
      nlmsgType := request.familyId
      nlmsgFlags := request.flags
      nlmsgSeq := request.seq
      nlmsgPid := 0 }
  have hspan : span header = 20 + attrLen request.attrs := by
    show (UInt32.ofNat (20 + attrLen request.attrs)).toNat = _
    rw [UInt32.toNat_ofNat', Nat.mod_eq_of_lt h.len]
  have halign : align (span header) 4 = span header := by
    rw [hspan]
    exact align_of_dvd (by decide) (Nat.dvd_add (by decide) (dvd_attrLen _))
  let r : Record NlMsgHdr :=
    { header
      body := write genl ++ octets records
      padding := []
      span_eq := by
        rw [hspan, List.length_append, length_write, hlen, ← Nat.add_assoc]
        rfl
      length_padding := by
        show 0 = align (span header) 4 - span header
        rw [halign, Nat.sub_self] }
  -- the header and the generic header are the 20 octets in front
  have hoctets : r.octets = request.octets := by
    have hreserved : native 2 (0 : UInt16).toNat = [0, 0] := by
      unfold native
      cases Native.order <;> rfl
    have hgenl : write genl = [request.cmd, 1, 0, 0] :=
      congrArg (request.cmd :: 1 :: ·) hreserved
    have hwrite : write header ++ write genl = front := by
      show native 4 _ ++ (native 2 _ ++ (native 2 _ ++ (native 4 _ ++ (native 4 0)))) ++ _ = _
      rw [hgenl]
      simp only [front, header, List.append_assoc]
    show write header ++ (write genl ++ octets records ++ []) =
      request.attrs.foldl (fun buf (typ, payload) => appendAttr buf typ payload) front
    rw [hfold, List.append_nil, ← List.append_assoc, hwrite]
  have hbody : r.body = request.octets.drop (size NlMsgHdr) := by
    rw [← hoctets, Record.octets, List.drop_left' (length_write _)]
    exact (List.append_nil _).symm
  refine ⟨r, hoctets, ?_, ?_⟩
  · rw [← hoctets, r.length_octets]
    exact halign.symm
  -- the generic header is read back, and behind it attribute by attribute
  · have hshort : ¬ r.body.length < 4 := by
      rw [List.length_append, length_write, Nat.not_lt]
      exact Nat.le_add_right _ _
    have hread : read r.body = genl := read_write genl _
    have hdrop : r.body.drop 4 = octets records := List.drop_left' (length_write genl)
    have hattrs : records.map rawAttr = request.message.attrs := by
      show _ = request.attrs.map _
      rw [← hmap, List.map_map]
      refine List.map_congr_left fun r hr => rawAttr_of_lt (h.typ (_, r.body) ?_)
      rw [← hmap]
      exact List.mem_map_of_mem hr
    rw [genlMessage, if_neg (by rintro (h' | h'); exacts [h.familyId.2 h', h.familyId.1 h']),
      if_neg hshort, hdrop, parseAttrs_octets, hattrs, hread, hbody]
    rfl

/-- Requests one after another read back as their messages. -/
theorem parseGenlMessages_requests {requests : List Request} (h : ∀ r ∈ requests, r.Buildable) :
    parseGenlMessages (requests.flatMap Request.octets) = .ok (requests.map Request.message) := by
  have hrecords : ∃ records : List (Record NlMsgHdr),
      octets records = requests.flatMap Request.octets ∧
      (records.mapM fun r => genlMessage r.header r.body) = .ok (requests.map Request.message) := by
    induction requests with
    | nil => exact ⟨[], rfl, rfl⟩
    | cons request requests ih =>
        obtain ⟨r, hoctets, -, hmessage⟩ := exists_messageRecord (h request List.mem_cons_self)
        obtain ⟨records, hrest, hmessages⟩ := ih fun r hr => h r (List.mem_cons_of_mem _ hr)
        refine ⟨r :: records, ?_, ?_⟩
        · rw [octets, List.flatMap_cons, List.flatMap_cons, hoctets]
          exact congrArg _ hrest
        · rw [List.mapM_cons, hmessage, hmessages]
          rfl
  obtain ⟨records, hoctets, hmessages⟩ := hrecords
  rw [← hoctets, parseGenlMessages_octets, hmessages]

/-- A request is read back as the one message that it is. -/
theorem parseGenlMessages_request {request : Request} (h : request.Buildable) :
    parseGenlMessages request.octets = .ok [request.message] := by
  have hone : ∀ r ∈ [request], r.Buildable := by
    rintro r hr
    rwa [List.mem_singleton.mp hr]
  have hparse := parseGenlMessages_requests hone
  rwa [List.flatMap_singleton] at hparse

/-- **What is built is what is read.**  The length field of a request is the length of its octets;
alone it reads back as its one message, and requests one after another as their messages. -/
theorem built_messages_parse (requests : List Request) (h : ∀ r ∈ requests, r.Buildable) :
    (∀ r ∈ requests, (read r.octets : NlMsgHdr).nlmsgLen.toNat = r.octets.length ∧
      parseGenlMessages r.octets = .ok [r.message]) ∧
    parseGenlMessages (requests.flatMap Request.octets) = .ok (requests.map Request.message) := by
  refine ⟨fun request hrequest => ⟨?_, parseGenlMessages_request (h request hrequest)⟩,
    parseGenlMessages_requests h⟩
  obtain ⟨r, hoctets, hspan, -⟩ := exists_messageRecord (h request hrequest)
  have hread := r.read_octets []
  rw [List.append_nil, hoctets] at hread
  rw [hread]
  exact hspan

/-- The controller's lookup of a family by its name, of seven octets. -/
def familyLookup : Request where
  familyId := genlIdCtrl
  cmd := ctrlCmdGetfamily
  flags := nlmFRequest
  seq := 1
  attrs := [(ctrlAttrFamilyName, [110, 108, 56, 48, 50, 49, 49])]

/-- The lookup of the `nl80211` family can be put into a message. -/
theorem familyLookup_buildable : familyLookup.Buildable where
  familyId := by decide
  typ := by rintro a (_ | ⟨_, ⟨⟩⟩); decide
  payload := by rintro a (_ | ⟨_, ⟨⟩⟩); decide
  len := show 20 + (align (4 + 7) 4 + 0) < 2 ^ 32 by decide

omit [Native] in
/-- The family lookup is read back, on a little-endian machine. -/
theorem built_messages_parse_familyLookup :
    let _ : Native := littleMachine
    parseGenlMessages ([familyLookup, familyLookup].flatMap Request.octets) =
      .ok [familyLookup.message, familyLookup.message] := by
  intro machine
  have h : ∀ r ∈ [familyLookup, familyLookup], r.Buildable := by
    intro r hr
    rcases List.mem_pair.mp hr with rfl | rfl <;> exact familyLookup_buildable
  exact (built_messages_parse [familyLookup, familyLookup] h).2

end NetworkManager.Nl80211
