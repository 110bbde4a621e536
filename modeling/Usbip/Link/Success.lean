import Usbip.Link.Machine

/-!
# Successful givebacks

A URB that the vhci gives back with status 0 carries what the device returned: the status, the
actual length and the data of its RET_SUBMIT.  That is so unless the status 0 comes from a
RET_UNLINK, which has no data.  There are three ways to such a RET_UNLINK: a URB completes with
status 0 after the unlink has marked it (`giveback_without_data`), the RET_UNLINK overtakes the
RET_SUBMIT, or the CMD_UNLINK has overtaken the CMD_SUBMIT.  In every run without these,
`success_carries_data` holds.

The invariant is that of the vhci and that of the stub, with what the channel adds: the requests
that the stub has received are those that the vhci has written first, and no entry of the vhci is
left for a RET_SUBMIT that was read.
-/

namespace Usbip.Link

open Usbip.Core Usbip.Common

variable {s t : State} {a : Action} {c : BitVec 32}

/-! ## What the runs are about -/

/-- The allocation in `usbip_recv_iso` succeeds. -/
def StaysInStep : Vhci.Action → Prop
  | .rxPayload allocOk _ => allocOk = true
  | _ => True

instance (a : Vhci.Action) : Decidable (StaysInStep a) :=
  match a with
  | .rxPayload allocOk _ => inferInstanceAs (Decidable (allocOk = true))
  | .attach _ | .eventAdd | .otherSeqnum | .enqueue _ _ _ | .txUrb _ | .dequeue _
  | .dequeueFinish _ _ | .txTop | .tx _ | .rxTop | .rxPdu _ | .rxFail _ | .rxUnlink | .rxGiveback
  | .ehShutdown | .ehClose | .ehCleanup | .ehCleanupNext | .ehCleanupGiveback | .ehCleanupRelock
  | .ehReset | .ehUnusable | .ehFinish => isTrue trivial

/-- No send of the client fails and it stays in step with the connection, its numbers do not go
round, and the `vhci_priv` that `vhci_urb_dequeue` has read is not freed under it. -/
def Assumed (s : State) : Action → Prop
  | .client a => Vhci.InSequence s.client a ∧ s.client.issued < 2 ^ 32 ∧ StaysInStep a
  | .server _ => True

instance (s : State) (a : Action) : Decidable (Assumed s a) :=
  match a with
  | .client a => inferInstanceAs
      (Decidable (Vhci.InSequence s.client a ∧ s.client.issued < 2 ^ 32 ∧ StaysInStep a))
  | .server _ => isTrue trivial

/-- Neither a CMD_UNLINK nor a RET_UNLINK overtakes, and no URB completes with status 0 once an
unlink has marked it. -/
def Faultless (s : State) : Action → Prop
  | .client a => Vhci.NoEarlyUnlink s.client a
  | .server a => Stub.NoLateUnlink s.server a ∧ Stub.UnlinkedFails s.server a

instance (s : State) (a : Action) : Decidable (Faultless s a) :=
  match a with
  | .client a => inferInstanceAs (Decidable (Vhci.NoEarlyUnlink s.client a))
  | .server a => inferInstanceAs
      (Decidable (Stub.NoLateUnlink s.server a ∧ Stub.UnlinkedFails s.server a))

/-! ## What the server has received -/

/-- The requests that the server has received. -/
def State.taken (s : State) : List (Seqnum ⊕ Seqnum × Seqnum) := s.requests.take s.served

/-- The server has received the first requests that the client has written. -/
structure Served (s : State) : Prop where
  le : s.served ≤ s.requests.length
  submits : s.server.lists.submits = s.taken.filterMap Sum.getLeft?
  unlinks : s.server.lists.unlinks = s.taken.filterMap Sum.getRight?

/-- The next request follows those that were taken. -/
lemma State.nextRequest_eq_some {x : Seqnum ⊕ Seqnum × Seqnum} (h : s.nextRequest = some x) :
    s.served < s.requests.length ∧ s.requests.take (s.served + 1) = s.taken ++ [x] := by
  unfold nextRequest at h
  obtain ⟨hlt, -⟩ := List.getElem?_eq_some_iff.mp h
  exact ⟨hlt, by rw [List.take_add_one, h]; rfl⟩

/-- The server read the submits that it took. -/
lemma Served.mem_submits (h : Served s) {n : Seqnum} :
    n ∈ s.server.lists.submits ↔ .inl n ∈ s.taken := by
  rw [h.submits, List.mem_filterMap]
  simp [Sum.getLeft?_eq_some_iff]

/-- The server read the unlinks that it took. -/
lemma Served.mem_unlinks (h : Served s) {b : Seqnum × Seqnum} :
    b ∈ s.server.lists.unlinks ↔ .inr b ∈ s.taken := by
  rw [h.unlinks, List.mem_filterMap]
  simp [Sum.getRight?_eq_some_iff]

/-- What was taken is one of the requests. -/
lemma State.mem_requests_of_taken {x : Seqnum ⊕ Seqnum × Seqnum} (hx : x ∈ s.taken) :
    x ∈ s.requests :=
  List.take_subset _ _ hx

/-- The client writes more. -/
lemma Served.append (h : Served s) {more : List (Seqnum ⊕ Seqnum × Seqnum)}
    (hrequests : t.requests = s.requests ++ more) (hserved : t.served = s.served)
    (hserver : t.server = s.server) : Served t := by
  have htaken : t.taken = s.taken := by
    rw [State.taken, hrequests, hserved, List.take_append_of_le_length h.le]
    rfl
  refine ⟨?_, by rw [hserver, htaken, h.submits], by rw [hserver, htaken, h.unlinks]⟩
  rw [hrequests, hserved, List.length_append]
  exact Nat.le_add_right_of_le h.le

/-- The server receives the next request, or something happens there. -/
lemma Served.step {a : Stub.Action} {server : Stub.State} (h : Served s)
    (hreceives : ServerReceives s a) (hst : Stub.step s.server a = some server)
    (hserver : t.server = server) (hserved : t.served = (s.serves a).served)
    (hrequests : t.requests = s.requests) : Served t := by
  obtain ⟨hsubmits, hunlinks⟩ := Stub.received_of_step hst
  have htake : t.taken = s.requests.take (s.serves a).served := by
    rw [State.taken, hrequests, hserved]
  have hcases : (∃ n, a = .rxCmdSubmit n) ∨ (∃ u n, a = .rxCmdUnlink u n) ∨
      a.submits = [] ∧ a.unlinks = [] ∧ s.serves a = s := by
    cases a <;> simp [Stub.Action.submits, Stub.Action.unlinks, State.serves]
  obtain ⟨n, rfl⟩ | ⟨u, n, rfl⟩ | ⟨hsub, hunl, hserves⟩ := hcases
  · obtain ⟨hlt, htaken⟩ := State.nextRequest_eq_some hreceives
    have htaken : t.taken = s.taken ++ [.inl n] := htake.trans htaken
    refine ⟨?_, ?_, ?_⟩
    · rw [hrequests, hserved]
      exact hlt
    · rw [hserver, hsubmits, htaken, List.filterMap_append, h.submits]
      rfl
    · rw [hserver, hunlinks, htaken, List.filterMap_append, h.unlinks]
      rfl
  · obtain ⟨hlt, htaken⟩ := State.nextRequest_eq_some hreceives
    have htaken : t.taken = s.taken ++ [.inr (u, n)] := htake.trans htaken
    refine ⟨?_, ?_, ?_⟩
    · rw [hrequests, hserved]
      exact hlt
    · rw [hserver, hsubmits, htaken, List.filterMap_append, h.submits]
      rfl
    · rw [hserver, hunlinks, htaken, List.filterMap_append, h.unlinks]
      rfl
  · rw [hserves] at htake hserved
    refine ⟨?_, ?_, ?_⟩
    · rw [hrequests, hserved]
      exact h.le
    · rw [hserver, hsubmits, hsub, List.append_nil, htake, h.submits]
      rfl
    · rw [hserver, hunlinks, hunl, List.append_nil, htake, h.unlinks]
      rfl

/-- What the client's numbers give the server: the next request has a new number, and a CMD_UNLINK
names a request received before that no other has named. -/
lemma Served.conditions (h : Served s) (hdistinct : Vhci.Tracked c s.client)
    (htargets : Vhci.TargetsFirst s.requests) {a : Stub.Action} (hreceives : ServerReceives s a) :
    Stub.DistinctSeqnums s.server a ∧ Stub.NamesSubmit s.server a ∧
      Stub.DistinctTargets s.server a := by
  have hsub : ∀ x, s.nextRequest = some x → (s.taken ++ [x]).Subperm s.client.drain.items := by
    intro x hx
    have htake := (State.nextRequest_eq_some hx).2
    have hmore : s.requests.Sublist s.client.drain.items :=
      (List.sublist_append_left _ _).trans (List.sublist_append_left _ _)
    rw [← htake]
    exact ((List.take_sublist _ _).trans hmore).subperm
  have hnew : ∀ x, s.nextRequest = some x → Vhci.requestNumber x ∉ s.server.seqnums := by
    intro x hx hmem
    have hnodup := nodup_of_subperm (subperm_map (hsub x hx) Vhci.requestNumber)
      hdistinct.distinct.numbers
    rw [List.map_append, List.nodup_append] at hnodup
    refine hnodup.2.2 _ ?_ _ (List.mem_singleton_self _) rfl
    rcases List.mem_append.mp hmem with hmem | hmem
    · exact List.mem_map.mpr ⟨_, h.mem_submits.mp hmem, rfl⟩
    · obtain ⟨b, hb, hbx⟩ := List.mem_map.mp hmem
      exact List.mem_map.mpr ⟨_, h.mem_unlinks.mp hb, hbx⟩
  have hcases : (∃ n, a = .rxCmdSubmit n) ∨ (∃ u n, a = .rxCmdUnlink u n) ∨
      Stub.DistinctSeqnums s.server a ∧ Stub.NamesSubmit s.server a ∧
        Stub.DistinctTargets s.server a := by
    cases a <;> simp [Stub.DistinctSeqnums, Stub.NamesSubmit, Stub.DistinctTargets]
  obtain ⟨n, rfl⟩ | ⟨u, n, rfl⟩ | hother := hcases
  · exact ⟨hnew _ hreceives, trivial, trivial⟩
  · refine ⟨hnew _ hreceives, ?_, fun hmem => ?_⟩
    · have hsplit : s.requests = s.taken ++ Sum.inr (u, n) :: s.requests.drop (s.served + 1) := by
        have htake := List.take_append_drop (s.served + 1) s.requests
        rw [(State.nextRequest_eq_some hreceives).2, List.append_assoc] at htake
        exact htake.symm
      exact h.mem_submits.mpr (htargets _ _ _ hsplit)
    · have hnodup := hdistinct.distinct.targets
      have htargets : ((s.taken ++ [Sum.inr (u, n)]).filterMap Vhci.requestTarget).Nodup := by
        obtain ⟨l, hl, hsub⟩ := hsub _ hreceives
        exact nodup_of_subperm ⟨_, hl.filterMap _, hsub.filterMap _⟩ hnodup
      rw [List.filterMap_append, List.nodup_append] at htargets
      obtain ⟨b, hb, hbn⟩ := List.mem_map.mp hmem
      refine htargets.2.2 n ?_ n ?_ rfl
      · exact List.mem_filterMap.mpr ⟨_, h.mem_unlinks.mp hb, congrArg some hbn⟩
      · exact List.mem_filterMap.mpr ⟨_, List.mem_singleton_self _, rfl⟩
  · exact hother

/-! ## What the client makes of a reply -/

/-- A URB is as the device returned it: `received` is the URB before `usbip_pad_iso` moves the data
of isochronous packets, and of an IN transfer it has the data that the device returned. -/
structure Delivered (r : Stub.UrbResult) (urb : Urb) : Prop where
  status : urb.status = r.status
  actualLength : urb.actualLength = r.actualLength
  data : ∃ received, urb = usbipPadIso received ∧ (xbuffLength urb ≤ r.data.length →
    received.transferBuffer.take (xbuffLength urb) = r.data.take (xbuffLength urb))

/-- Streams that agree have the same first bytes. -/
lemma Agree.take_eq {l l' : List Byte} (h : Agree l l') {n : Nat} (hl : n ≤ l.length)
    (hl' : n ≤ l'.length) : l.take n = l'.take n := by
  have htake := congrArg (List.take n) h
  rwa [List.take_take, List.take_take, Nat.min_eq_left hl', Nat.min_eq_left hl] at htake

/-- A payload that the client accepts is the server's data. -/
lemma delivered_of_payload {client : Vhci.State} {p : Vhci.VhciPriv} {allocOk : Bool}
    {io : List Recvmsg} {r : Stub.UrbResult}
    (haccepted : (Vhci.recvPayload p allocOk io client).rx = .giveback p.urb (.retSubmit p))
    (hstatus : (client.urb p.urb).status = r.status)
    (hlength : (client.urb p.urb).actualLength = r.actualLength)
    (hagree : Agree (available io) r.data) :
    Delivered r ((Vhci.recvPayload p allocOk io client).urb p.urb) := by
  obtain ⟨hret, iso, hurb⟩ := Vhci.recvPayload_accepted haccepted
  obtain ⟨hav, hbuf⟩ := usbipRecvXbuff_transferBuffer hret
  obtain ⟨buf, hxbuff⟩ := usbipRecvXbuff_urb io (client.urb p.urb)
  rw [hxbuff] at hurb hbuf
  obtain ⟨padded, hpad⟩ :=
    usbipPadIso_urb { client.urb p.urb with transferBuffer := buf, isoFrameDesc := iso }
  have hsize : xbuffLength ((Vhci.recvPayload p allocOk io client).urb p.urb) =
      xbuffLength (client.urb p.urb) := by
    rw [hurb, hpad]
    rfl
  refine ⟨?_, ?_, _, hurb, fun hdata => ?_⟩
  · rw [hurb, hpad]
    exact hstatus
  · rw [hurb, hpad]
    exact hlength
  · rw [hsize] at hdata ⊢
    exact hbuf.trans (hagree.take_eq hav hdata)

/-- The device returned `r` for the entry, and its RET_SUBMIT was read. -/
def Answered (s : State) (p : Vhci.VhciPriv) (r : Stub.UrbResult) : Prop :=
  .submit p.wireSeqnum (some r) ∈ s.replies ∧ (p.wireSeqnum, r) ∈ s.completed

/-- After the header of its RET_SUBMIT. -/
def HeaderRead (s : State) (p : Vhci.VhciPriv) (urb : Urb) : Prop :=
  ∃ r, Answered s p r ∧ s.payload = r.data ∧ urb.status = r.status ∧
    urb.actualLength = r.actualLength

/-- After its payload. -/
def PayloadRead (s : State) (p : Vhci.VhciPriv) (urb : Urb) : Prop :=
  ∃ r, Answered s p r ∧ Delivered r urb

/-! ## The invariant -/

/-- The invariants of both sides, and what holds between them. -/
structure LinkInv (c : BitVec 32) (s : State) : Prop where
  client : Vhci.OrderInv c s.client
  tracked : Vhci.Tracked c s.client
  server : Stub.SuccessInv s.server
  returned : s.server.lists.Returned s.completed
  served : Served s
  read_le : s.read ≤ s.server.lists.wire.length
  inStep : s.inStep = true
  /-- No entry has the number of a RET_SUBMIT that was read. -/
  gone : ∀ n urb, .submit n urb ∈ s.replies → ∀ p ∈ s.client.privs, p.seqnum ≠ n.setWidth 64
  /-- A RET_UNLINK with status 0 was read after the RET_SUBMIT. -/
  unlinking : ∀ e status, s.client.rx = .unlink e status → .inr e.wireSeqnums ∈ s.requests ∧
    (status = 0 → ∃ urb, .submit (e.unlinkSeqnum.setWidth 32) urb ∈ s.replies)
  honest : Vhci.Honest (HeaderRead s) (PayloadRead s) s.client

/-- Nothing is under way at the start. -/
lemma linkInv_start {devid : BitVec 32} {client : Vhci.State}
    (h : Vhci.step { seqnum := c } (.attach devid) = some client) : LinkInv c { client } := by
  have hseq : Vhci.InSequence { seqnum := c } (.attach devid) := ⟨rfl, rfl, rfl⟩
  have horder := (Vhci.orderInv_start c).step hseq trivial trivial h
  simp only [Vhci.step] at h
  split at h <;> cases h
  refine ⟨horder, ?_, Stub.successInv_start, Stub.Session.returned_empty,
    ⟨Nat.zero_le _, rfl, rfl⟩, Nat.zero_le _, rfl, fun _ _ h => (by cases h),
    fun _ _ hrx => (by cases hrx), ?_⟩
  · refine (Vhci.tracked_start c).same ?_ rfl (Nat.le_refl _) (fun _ hp => hp) (fun _ he => he)
      fun _ _ hr => hr
    exact (Vhci.marked_start c).congr rfl rfl fun _ _ hl => hl
  · exact (Vhci.honest_start c).congr rfl (fun _ hp => hp) (fun _ hl => hl)
      (fun _ hp => (by cases hp)) (fun _ _ hu => (by cases hu)) (fun _ he => he)
      fun _ _ hg => Or.inl hg

/-! ## What a reply says -/

/-- The next reply is on the wire. -/
lemma State.mem_wire_of_nextReply {ret : Stub.Ret Stub.UrbResult (BitVec 32)}
    (h : s.nextReply = some ret) : ret ∈ s.server.lists.wire :=
  List.mem_of_getElem? h

/-- Reading a header takes the next reply. -/
lemma State.replies_reads {ret : Stub.Ret Stub.UrbResult (BitVec 32)} (h : s.nextReply = some ret)
    (pdu : Header) : (s.reads (.rxPdu pdu)).replies = s.replies ++ [ret] := by
  show s.server.lists.wire.take (s.read + 1) = _
  rw [List.take_add_one, show s.server.lists.wire[s.read]? = some ret from h]
  rfl

/-- Every RET_SUBMIT of the server answers a submit of the client. -/
lemma LinkInv.submit_known (h : LinkInv c s) {n : Seqnum} {urb : Option Stub.UrbResult}
    (hret : .submit n urb ∈ s.server.lists.wire) : .inl n ∈ s.requests :=
  State.mem_requests_of_taken (h.served.mem_submits.mp (h.server.known.1 n urb hret))

/-- Every RET_UNLINK of the server answers an unlink of the client. -/
lemma LinkInv.unlink_known (h : LinkInv c s) {b : Stub.StubUnlink (BitVec 32)}
    (hret : .unlink b ∈ s.server.lists.wire) :
    ∃ n, (b.seqnum, n) ∈ s.server.lists.unlinks ∧ .inr (b.seqnum, n) ∈ s.requests := by
  obtain ⟨⟨u, n⟩, hmem, rfl⟩ := List.mem_map.mp (h.server.known.2 b hret)
  exact ⟨n, hmem, State.mem_requests_of_taken (h.served.mem_unlinks.mp hmem)⟩

/-- A reply has the number of a request that was written. -/
lemma LinkInv.header_known (h : LinkInv c s) {ret : Stub.Ret Stub.UrbResult (BitVec 32)}
    {pdu : Header} (hret : s.nextReply = some ret) (hheader : IsHeaderOf pdu ret) :
    ∃ x ∈ s.requests, Vhci.requestNumber x = pdu.base.seqnum := by
  have hmem := State.mem_wire_of_nextReply hret
  cases ret with
  | submit n urb => exact ⟨_, h.submit_known hmem, hheader.2.1.symm⟩
  | unlink b =>
      obtain ⟨n, -, hx⟩ := h.unlink_known hmem
      exact ⟨_, hx, hheader.2.1.symm⟩

/-- A reply does not come before its request was written. -/
lemma LinkInv.noEarlyReply (h : LinkInv c s) {a : Vhci.Action} (hreceives : ClientReceives s a) :
    Vhci.NoEarlyReply s.client a := by
  cases a with
  | rxPdu pdu =>
      obtain ⟨ret, hret, hheader⟩ := hreceives h.inStep
      obtain ⟨x, hx, hxn⟩ := h.header_known hret hheader
      intro p hp
      rw [← hxn]
      exact h.tracked.sending_fresh hp hx
  | rxUnlink =>
      intro p hp e he
      cases hrx : s.client.rx with
      | unlink f status =>
          rw [hrx, Vhci.RxPc.unlinking, List.mem_singleton] at he
          subst he
          obtain ⟨pre, post, hsplit⟩ := List.append_of_mem (h.unlinking e status hrx).1
          have htarget : .inl e.wireSeqnums.2 ∈ s.requests := by
            rw [hsplit]
            exact List.mem_append_left _ (h.client.wire pre _ post hsplit)
          exact h.tracked.sending_fresh hp htarget
      | top | pdu | payload | giveback | stopped =>
          rw [hrx] at he
          cases he
  | attach | eventAdd | otherSeqnum | enqueue | txUrb | dequeue | dequeueFinish | txTop | tx | rxTop
  | rxFail | rxPayload | rxGiveback | ehShutdown | ehClose | ehCleanup | ehCleanupNext
  | ehCleanupGiveback | ehCleanupRelock | ehReset | ehUnusable | ehFinish => trivial

/-- What the replies make of the client's URBs. -/
lemma LinkInv.repliesFine (h : LinkInv c s) {a : Vhci.Action} (hreceives : ClientReceives s a) :
    Vhci.RepliesFine (HeaderRead (s.reads a)) (PayloadRead (s.reads a)) s.client a := by
  refine ⟨?_, ?_, ?_⟩
  · rintro pdu p s' rfl hcommand hp
    obtain ⟨ret, hret, hheader⟩ := hreceives h.inStep
    cases ret with
    | unlink b =>
        have hne : retSubmit ≠ retUnlink := by decide
        exact absurd (hcommand.symm.trans hheader.1) hne
    | submit n urb =>
        obtain ⟨-, hn, hfields⟩ := hheader
        obtain ⟨r, rfl, hcompleted⟩ := h.returned.wire n urb (State.mem_wire_of_nextReply hret)
        obtain ⟨hstatus, hlength⟩ := hfields r rfl
        have hpn : p.wireSeqnum = n := (Vhci.wireSeqnum_of_pickup hp).2.2.trans hn
        refine ⟨r, ⟨?_, hpn ▸ hcompleted⟩, ?_, hstatus, hlength⟩
        · rw [State.replies_reads hret, hpn]
          exact List.mem_append_right _ (List.mem_singleton_self _)
        · show s.nextReply.elim [] payloadOf = r.data
          rw [hret]
          rfl
  · rintro allocOk io p rfl - ⟨r, hanswered, hpayload, hstatus, hlength⟩ haccepted
    have hagree : Agree (available io) r.data := hpayload ▸ hreceives
    exact ⟨r, hanswered, delivered_of_payload haccepted hstatus hlength hagree⟩
  · rintro e status p s' rfl hrx hp rfl
    obtain ⟨urb, hurb⟩ := (h.unlinking e 0 hrx).2 rfl
    obtain ⟨hmem, hseq, -⟩ := Vhci.wireSeqnum_of_pickup hp
    exact h.gone _ urb hurb p (List.mem_append_right _ hmem) hseq

/-! ## The steps of the client -/

/-- What is said of a URB stays true when more is read and completed. -/
lemma Answered.mono {p : Vhci.VhciPriv} {r : Stub.UrbResult} (h : Answered s p r)
    (hreplies : s.replies ⊆ t.replies) (hcompleted : s.completed ⊆ t.completed) : Answered t p r :=
  ⟨hreplies h.1, hcompleted h.2⟩

/-- What was read honestly stays so as the connection goes on. -/
lemma LinkInv.honest_mono (h : LinkInv c s) (hreplies : s.replies ⊆ t.replies)
    (hcompleted : s.completed ⊆ t.completed)
    (hpayload : ∀ p, s.client.rx = .payload p → t.payload = s.payload) :
    Vhci.Honest (HeaderRead t) (PayloadRead t) s.client := by
  refine h.honest.mono ?_ ?_
  · rintro p urb hrx ⟨r, hr, hdata, hfields⟩
    exact ⟨r, hr.mono hreplies hcompleted, (hpayload p hrx).trans hdata, hfields⟩
  · rintro p urb ⟨r, hr, hdelivered⟩
    exact ⟨r, hr.mono hreplies hcompleted, hdelivered⟩

/-- A read changes only what the connection records of reads. -/
lemma State.reads_eq (s : State) (a : Vhci.Action) : s.reads a = { s with
    read := (s.reads a).read, payload := (s.reads a).payload, inStep := (s.reads a).inStep } := by
  cases a <;> rfl

/-- A read takes no reply back. -/
lemma State.replies_subset (s : State) (a : Vhci.Action) : s.replies ⊆ (s.reads a).replies := by
  have hread : s.read ≤ (s.reads a).read := by
    cases a with
    | rxPdu pdu => exact Nat.le_succ _
    | attach | eventAdd | otherSeqnum | enqueue | txUrb | dequeue | dequeueFinish | txTop | tx
    | rxTop | rxFail | rxPayload | rxUnlink | rxGiveback | ehShutdown | ehClose | ehCleanup
    | ehCleanupNext | ehCleanupGiveback | ehCleanupRelock | ehReset | ehUnusable | ehFinish =>
        exact Nat.le_refl _
  unfold replies
  rw [s.reads_eq a]
  exact List.take_subset_take_left _ hread

/-- The stream stays in step with a receive that takes its reply whole. -/
lemma State.inStep_reads {a : Vhci.Action} (h : s.inStep = true) (ha : StaysInStep a) :
    (s.reads a).inStep = true := by
  cases a with
  | rxPayload allocOk io =>
      show (s.inStep && allocOk) = true
      rw [h, show allocOk = true from ha]
      rfl
  | attach | eventAdd | otherSeqnum | enqueue | txUrb | dequeue | dequeueFinish | txTop | tx
  | rxTop | rxPdu | rxFail | rxUnlink | rxGiveback | ehShutdown | ehClose | ehCleanup
  | ehCleanupNext | ehCleanupGiveback | ehCleanupRelock | ehReset | ehUnusable | ehFinish => exact h

/-- The client reads the header of the next reply, or none. -/
lemma LinkInv.read_cases (h : LinkInv c s) {a : Vhci.Action} (hreceives : ClientReceives s a) :
    (∃ pdu ret, a = .rxPdu pdu ∧ s.nextReply = some ret ∧ IsHeaderOf pdu ret) ∨
      (s.reads a).read = s.read ∧ (s.reads a).payload = s.payload := by
  cases a with
  | rxPdu pdu =>
      obtain ⟨ret, hret, hheader⟩ := hreceives h.inStep
      exact Or.inl ⟨pdu, ret, rfl, hret, hheader⟩
  | attach | eventAdd | otherSeqnum | enqueue | txUrb | dequeue | dequeueFinish | txTop | tx
  | rxTop | rxFail | rxPayload | rxUnlink | rxGiveback | ehShutdown | ehClose | ehCleanup
  | ehCleanupNext | ehCleanupGiveback | ehCleanupRelock | ehReset | ehUnusable | ehFinish =>
      exact Or.inr ⟨rfl, rfl⟩

/-- A step of the client leaves no record behind for a submit that was answered. -/
lemma LinkInv.gone_client (h : LinkInv c s) {a : Vhci.Action} {client : Vhci.State}
    (hlt : s.client.issued < 2 ^ 32) (hreceives : ClientReceives s a)
    (hst : Vhci.step s.client a = some client) :
    ∀ n urb, .submit n urb ∈ (s.reads a).replies → ∀ p ∈ client.privs,
      p.seqnum ≠ n.setWidth 64 := by
  have hnumbered := h.client.inv.numbered
  have hold : ∀ n urb, .submit n urb ∈ s.replies → ∀ p ∈ client.privs,
      p.seqnum ≠ n.setWidth 64 := by
    intro n urb hr p hp
    rcases Vhci.privs_of_effect (Vhci.step_effect h.client.inv.control hst) p hp with hp | ⟨-, hnew⟩
    · exact h.gone n urb hr p hp
    · -- a new entry has a number that no request on the wire has
      intro hseq
      have hsent := Vhci.mem_items_of_wire (h.submit_known (List.take_subset _ _ hr))
      have hn : n = Vhci.wireSeqnumOf c s.client.issued := by
        rw [← Vhci.wireSeqnum_next hnumbered, ← hnew, hseq]
        simp
      exact (h.tracked.distinct.not_mem hlt).1 (List.mem_map.mpr ⟨_, hsent, hn⟩)
  intro n urb hr
  obtain ⟨pdu, ret, rfl, hret, hheader⟩ | ⟨hread, -⟩ := h.read_cases hreceives
  · rw [State.replies_reads hret] at hr
    rcases List.mem_append.mp hr with hr | hr
    · exact hold n urb hr
    · obtain rfl := List.mem_singleton.mp hr
      obtain ⟨hcommand, hn, -⟩ := hheader
      have hsent := h.submit_known (State.mem_wire_of_nextReply hret)
      rw [← hn] at hsent ⊢
      exact h.tracked.gone_of_retSubmit hnumbered (Nat.le_of_lt hlt) hcommand hsent hst
  · refine hold n urb ?_
    unfold State.replies at hr
    rw [hread, s.reads_eq a] at hr
    exact hr

/-- A RET_UNLINK that is read answers the unlink that is found for it; with status 0, it comes after
the RET_SUBMIT of the request the unlink names. -/
lemma LinkInv.retUnlink_read (h : LinkInv c s) {b : Stub.StubUnlink (BitVec 32)}
    (hret : s.nextReply = some (.unlink b)) {e : Vhci.VhciUnlink} {s' : Vhci.State}
    (hd : Vhci.dequeuePendingUnlink b.seqnum s.client = some (e, s')) :
    .inr e.wireSeqnums ∈ s.requests ∧ (b.status = 0 →
      ∃ urb, .submit (e.unlinkSeqnum.setWidth 32) urb ∈ s.replies) := by
  obtain ⟨hfind, -⟩ := Vhci.dequeuePendingUnlink_eq_some hd
  have hseq : e.seqnum = b.seqnum.setWidth 64 := of_decide_eq_true (List.find?_some hfind :)
  have hsent := h.tracked.unlinkRx e (List.mem_of_find?_eq_some hfind)
  obtain ⟨n, hunlink, hknown⟩ := h.unlink_known (State.mem_wire_of_nextReply hret)
  -- the number of the reply is that of one request
  have heq : e.wireSeqnums = (b.seqnum, n) := by
    refine Sum.inr.inj (h.tracked.eq_of_number (List.mem_append_left _ hsent)
      (Vhci.mem_items_of_wire hknown) ?_)
    show e.seqnum.setWidth 32 = b.seqnum
    rw [hseq]
    simp
  refine ⟨heq ▸ hknown, fun hzero => ?_⟩
  have hsplit : s.server.lists.wire =
      s.replies ++ .unlink b :: s.server.lists.wire.drop (s.read + 1) := by
    have hdrop := List.take_append_drop (s.read + 1) s.server.lists.wire
    rw [List.take_add_one, show s.server.lists.wire[s.read]? = some (.unlink b) from hret,
      List.append_assoc] at hdrop
    exact hdrop.symm
  rw [show e.unlinkSeqnum.setWidth 32 = n from congrArg Prod.snd heq]
  exact h.server.wire _ _ _ n hsplit ⟨hunlink, hzero⟩

/-- An unlink whose answer is handled was one of the requests. -/
lemma LinkInv.unlinking_client (h : LinkInv c s) {a : Vhci.Action} {client : Vhci.State}
    (hreceives : ClientReceives s a) (hst : Vhci.step s.client a = some client) :
    ∀ e status, client.rx = .unlink e status → .inr e.wireSeqnums ∈ s.requests ∧ (status = 0 →
      ∃ urb, .submit (e.unlinkSeqnum.setWidth 32) urb ∈ (s.reads a).replies) := by
  intro e status hrx
  have heffect := Vhci.step_effect h.client.inv.control hst
  suffices hsuff : .inr e.wireSeqnums ∈ s.requests ∧ (status = 0 →
      ∃ urb, .submit (e.unlinkSeqnum.setWidth 32) urb ∈ s.replies) by
    refine ⟨hsuff.1, fun hzero => ?_⟩
    obtain ⟨urb, hurb⟩ := hsuff.2 hzero
    exact ⟨urb, s.replies_subset a hurb⟩
  obtain hold | ⟨pdu, s', rfl, hcommand, rfl, hd⟩ := Vhci.unlinking_of_effect heffect hrx
  · exact h.unlinking e status hold
  · obtain ⟨ret, hret, hheader⟩ := hreceives h.inStep
    cases ret with
    | submit n urb =>
        have hne : retUnlink ≠ retSubmit := by decide
        exact absurd (hcommand.symm.trans hheader.1) hne
    | unlink b =>
        obtain ⟨-, hseqnum, hstatus⟩ := hheader
        rw [hseqnum] at hd
        rw [hstatus]
        exact h.retUnlink_read hret hd

/-- Every step of the client keeps the invariant. -/
theorem LinkInv.clientStep (h : LinkInv c s) {a : Vhci.Action} {client : Vhci.State}
    (hassumed : Assumed s (.client a)) (hfaultless : Faultless s (.client a))
    (hreceives : ClientReceives s a) (hst : Vhci.step s.client a = some client) :
    LinkInv c { s.reads a with client } := by
  obtain ⟨hseq, hlt, hinStep⟩ := hassumed
  have hattach : ∀ devid, a ≠ .attach devid := by
    rintro devid rfl
    exact hreceives
  have hclient := h.client.step hseq (h.noEarlyReply hreceives) hfaultless hst
  have htracked := h.tracked.step h.client hlt hseq hattach hst
  have hgone := h.gone_client hlt hreceives hst
  have hunlinking := h.unlinking_client hreceives hst
  have hpayload : ∀ p, s.client.rx = .payload p → (s.reads a).payload = s.payload := by
    intro p hrx
    obtain ⟨pdu, ret, rfl, -⟩ | ⟨-, hpayload⟩ := h.read_cases hreceives
    · simp [Vhci.step, hrx] at hst
    · exact hpayload
  have hreads := s.reads_eq a
  have hcompleted : s.completed ⊆ (s.reads a).completed := by
    rw [hreads]
    exact List.Subset.refl _
  have hhonest := (h.honest_mono (s.replies_subset a) hcompleted hpayload).step h.client.inv hseq
    (h.repliesFine hreceives) hst
  obtain ⟨more, hwire⟩ := Vhci.wire_of_step hattach hst
  have hrequests : State.requests { s.reads a with client } =
      s.requests ++ more.map Vhci.Pdu.request := by
    unfold State.requests
    dsimp only
    rw [hwire, List.map_append]
  refine ⟨hclient, htracked, ?_, ?_, h.served.append hrequests ?_ ?_, ?_, ?_, hgone, ?_, hhonest⟩
  · rw [hreads]
    exact h.server
  · rw [hreads]
    exact h.returned
  · rw [hreads]
  · rw [hreads]
  · rw [hreads]
    obtain ⟨pdu, ret, rfl, hret, -⟩ | ⟨hread, -⟩ := h.read_cases hreceives
    · exact (List.getElem?_eq_some_iff.mp hret).1
    · exact hread ▸ h.read_le
  · exact State.inStep_reads h.inStep hinStep
  · intro e status hrx
    obtain ⟨hknown, hzero⟩ := hunlinking e status hrx
    rw [hrequests]
    exact ⟨List.mem_append_left _ hknown, hzero⟩

/-! ## The steps of the server -/

/-- A read of the server changes only how many requests it has read. -/
lemma State.serves_eq (s : State) (a : Stub.Action) :
    s.serves a = { s with served := (s.serves a).served } := by
  cases a <;> rfl

/-- Every step of the server keeps the invariant. -/
theorem LinkInv.serverStep (h : LinkInv c s) {a : Stub.Action} {server : Stub.State}
    (hfaultless : Faultless s (.server a)) (hreceives : ServerReceives s a)
    (hst : Stub.step s.server a = some server) :
    LinkInv c { s.serves a with server, completed := s.completed ++ a.completes } := by
  obtain ⟨hlate, hfails⟩ := hfaultless
  obtain ⟨hnew, hnames, htargets⟩ := h.served.conditions h.tracked h.client.wire hreceives
  have hserver := h.server.step hnew hnames hlate htargets hfails hst
  have hreturned := Stub.returned_of_step h.returned h.server.order hst
  have hserved := h.served.step (t := { s.serves a with
    server, completed := s.completed ++ a.completes }) hreceives hst rfl rfl (by rw [s.serves_eq a]; rfl)
  rw [s.serves_eq a] at hserved ⊢
  set t : State := { { s with served := (s.serves a).served } with
    server, completed := s.completed ++ a.completes } with ht
  obtain ⟨more, hwire⟩ := Stub.wire_of_step hst
  have hreplies : t.replies = s.replies := by
    show server.lists.wire.take s.read = _
    rw [hwire, List.take_append_of_le_length h.read_le]
    rfl
  refine ⟨h.client, h.tracked, hserver, hreturned, hserved, ?_, h.inStep, ?_, ?_, ?_⟩
  · show s.read ≤ server.lists.wire.length
    rw [hwire, List.length_append]
    exact Nat.le_add_right_of_le h.read_le
  · rw [hreplies]
    exact h.gone
  · rw [hreplies]
    exact h.unlinking
  · exact h.honest_mono (hreplies ▸ List.Subset.refl _) (List.subset_append_left _ _) fun _ _ => rfl

/-- Every step of the connection keeps the invariant. -/
theorem LinkInv.step (h : LinkInv c s) (hassumed : Assumed s a) (hfaultless : Faultless s a)
    (hst : Link.step s a = some t) : LinkInv c t := by
  cases a with
  | client a =>
      obtain ⟨hreceives, client, hclient, rfl⟩ := step_client hst
      exact h.clientStep hassumed hfaultless hreceives hclient
  | server a =>
      obtain ⟨hreceives, server, hserver, rfl⟩ := step_server hst
      exact h.serverStep hfaultless hreceives hserver

/-! ## Successful givebacks -/

/-- In every run in which nothing overtakes and no marked URB completes with status 0, a URB that is
given back with status 0, and not by `vhci_urb_enqueue` itself, was answered by a RET_SUBMIT that
was read, and carries what the device returned. -/
theorem success_carries_data
    (h : (machine c).Reach (fun s a => Assumed s a ∧ Faultless s a) t) {u : Vhci.UrbId}
    {g : Vhci.Giveback} (hg : .returned u g ∈ t.client.log) (hzero : g.urb.status = 0)
    (hvia : g.via ≠ .enqueue) :
    ∃ p r, g.via = .retSubmit p ∧ p.urb = u ∧
      .submit p.wireSeqnum (some r) ∈ t.server.lists.wire.take t.read ∧
      (p.wireSeqnum, r) ∈ t.completed ∧ Delivered r g.urb := by
  have hinv : LinkInv c t := by
    refine h.invariant (I := LinkInv c) ?_ ?_
    · rintro s ⟨devid, client, hst, rfl⟩
      exact linkInv_start hst
    · rintro s a t hi ⟨hassumed, hfaultless⟩ hst
      exact hi.step hassumed hfaultless hst
  obtain hlocal | ⟨p, hp, hu, r, ⟨hreply, hcompleted⟩, hdelivered⟩ := hinv.honest.log u g hg hzero
  · exact absurd hlocal hvia
  · exact ⟨p, r, hp, hu, hreply, hcompleted, hdelivered⟩

/-- A port whose connection was just attached. -/
def attached : State :=
  { client := {
      seqnum := 0, status := .notassigned, devid := 1, tcpSocket := true, rx := .top, tx := .top
      connections := 1 } }

/-- An attached client is a start of the machine. -/
lemma init_attached : (machine 0).init attached :=
  ⟨1, _, rfl, rfl⟩

/-- A request for the first two bytes of a descriptor. -/
def shortDescriptorUrb : Urb :=
  { Vhci.getDescriptorUrb with transferBuffer := [0, 0], transferBufferLength := 2 }

/-- What the device returns for it. -/
def shortDescriptor : Stub.UrbResult := ⟨0, 2, [18, 1]⟩

/-- URB 0 is enqueued, and its CMD_SUBMIT is sent and received. -/
def submitRun : List Action :=
  [.client .txTop, .client (.enqueue 0 shortDescriptorUrb 0), .client (.txUrb true),
   .client (.tx true), .client (.tx true),
   .server .rxTop, .server (.rxCmdSubmit 1), .server .rxSubmitUrb]

/-- The URB completes, and its RET_SUBMIT is sent and received. -/
def deliveredRun : List Action := List.append submitRun
  [.server (.complete 1 shortDescriptor), .server .txTop, .server (.tx true), .server (.tx true),
   .client .rxTop,
   .client (.rxPdu { base := { command := retSubmit, seqnum := 1 }, u := { w₀ := 0, w₁ := 2 } }),
   .client (.rxPayload true [.bytes [18, 1]]), .client .rxGiveback]

/-- An IN request whose two bytes are delivered. -/
theorem success_carries_data_deliveredRun :
    ∃ t g, (machine 0).Reach (fun s a => Assumed s a ∧ Faultless s a) t ∧
      .returned 0 g ∈ t.client.log ∧ g.urb.status = 0 ∧ g.urb.transferBuffer = [18, 1] ∧
      ∃ p r, g.via = .retSubmit p ∧ p.urb = 0 ∧
        .submit p.wireSeqnum (some r) ∈ t.server.lists.wire.take t.read ∧
        (p.wireSeqnum, r) ∈ t.completed ∧ Delivered r g.urb := by
  have hrun : ∃ t, (machine 0).Reach (fun s a => Assumed s a ∧ Faultless s a) t ∧
      .returned 0 ⟨.retSubmit ⟨0, 1, 0⟩, { shortDescriptorUrb with
        status := 0, actualLength := 2, transferBuffer := [18, 1] }⟩ ∈ t.client.log := by
    apply Machine.Reach.of_perform deliveredRun init_attached
    exact ⟨_, rfl, by decide⟩
  obtain ⟨t, ht, hlog⟩ := hrun
  exact ⟨t, _, ht, hlog, rfl, rfl, success_carries_data ht hlog rfl (by simp)⟩

/-- URB 0 is dequeued and its CMD_UNLINK is received, and then the URB completes with status 0:
`usb_unlink_urb` did not come in time. -/
def unlinkedRun : List Action := List.append submitRun
  [.client (.dequeue 0), .client (.dequeueFinish true 0), .client (.tx true), .client (.tx true),
   .client (.tx true),
   .server .rxTop, .server (.rxCmdUnlink 2 1), .server (.complete 1 shortDescriptor),
   .server .txTop, .server (.tx true), .server (.tx true), .server (.tx true), .server (.tx true),
   .client .rxTop, .client (.rxPdu { base := { command := retUnlink, seqnum := 2 } }),
   .client .rxUnlink, .client .rxGiveback]

/-- The URB is given back with status 0 and without the two bytes, for which there is no
RET_SUBMIT. -/
theorem giveback_without_data :
    ∃ t, (machine 0).Reach Assumed t ∧ ∃ g, .returned 0 g ∈ t.client.log ∧ g.urb.status = 0 ∧
      g.via ≠ .enqueue ∧ g.urb.actualLength = 0 ∧ g.urb.transferBuffer = [0, 0] ∧
      (1, shortDescriptor) ∈ t.completed ∧ ¬ ∃ n urb, .submit n urb ∈ t.server.lists.wire := by
  have hrun : ∃ t, (machine 0).Reach Assumed t ∧
      (.returned 0 ⟨.retUnlink ⟨1, 2, 1⟩ ⟨0, 1, 0⟩, { shortDescriptorUrb with status := 0 }⟩ ∈
        t.client.log ∧ (1, shortDescriptor) ∈ t.completed ∧
        t.server.lists.wire = [.unlink ⟨2, 0, some 1⟩]) := by
    apply Machine.Reach.of_perform unlinkedRun init_attached
    exact ⟨_, rfl, by decide⟩
  obtain ⟨t, ht, hlog, hcompleted, hwire⟩ := hrun
  refine ⟨t, ht, _, hlog, rfl, by simp, rfl, rfl, hcompleted, ?_⟩
  rintro ⟨n, urb, hr⟩
  simp [hwire] at hr

end Usbip.Link
