import Usbip.Link.Success
import Usbip.Stub.Ownership
import Usbip.Vhci.Pending

/-!
# Every URB is given back

When a connection has come to rest, with everything that was written read, every list of the stub
empty and the device idle, nothing is left on the lists of the vhci: each CMD_SUBMIT was answered by
a RET_SUBMIT, or by the RET_UNLINK of the unlink that caught its URB, and either reply has ended the
custody of the URB (`all_given_back`).

That takes what the two sides cannot check: that the stub answers each number once, that the vhci
finds what a reply names, and that no number is used again.
-/

namespace Usbip.Link

open Usbip.Core Usbip.Common

variable {s t : State} {a : Action}

/-! ## What the runs are about -/

/-- No unlink is queued for an entry that is still on `priv_tx` while the sending thread of the
vhci is at `unlink_tx`. -/
def Orderly (s : State) : Action → Prop
  | .client a => Vhci.NoEarlyUnlink s.client a
  | .server _ => True

instance (s : State) : (a : Action) → Decidable (Orderly s a)
  | .client a => inferInstanceAs (Decidable (Vhci.NoEarlyUnlink s.client a))
  | .server _ => isTrue trivial

/-- Neither side has closed its socket. -/
def State.Open (s : State) : Prop :=
  s.client.tcpSocket = true ∧ s.server.tcpSocket = true

/-- What was written is read, both sending threads have nothing to send, both receiving threads
wait, and the device has no URB. -/
structure Rests (s : State) : Prop where
  clientLock : s.client.lock = .free
  clientTx : s.client.tx = .top
  clientPrivTx : s.client.privTx = []
  clientRx : s.client.rx = .pdu
  served : s.served = s.requests.length
  serverTx : s.server.lists.tx = .top
  serverPrivInit : s.server.lists.privInit = []
  serverPrivTx : s.server.lists.privTx = []
  serverUnlinkTx : s.server.lists.unlinkTx = []
  read : s.read = s.server.lists.wire.length

/-! ## The replies of the stub -/

/-- A CMD_UNLINK is answered once. -/
lemma unlink_once {lists : Stub.Session Stub.UrbResult (BitVec 32)} (h : lists.Answered)
    {pre post : List (Stub.Ret Stub.UrbResult (BitVec 32))} {b : Stub.StubUnlink (BitVec 32)}
    (hwire : lists.wire = pre ++ .unlink b :: post) :
    ∀ b', .unlink b' ∈ pre → b'.seqnum ≠ b.seqnum := by
  intro b' hb' hseq
  let q : Seqnum ⊕ Stub.StubUnlink (BitVec 32) → Bool :=
    fun x => Reply.settles b.seqnum (Stub.itemReply x)
  have hone : lists.drain.items.countP q ≤ 1 := by
    have hitem : .inr b ∈ lists.drain.items := by
      refine List.mem_append_left _ (List.mem_append_left _ ?_)
      exact List.mem_map.mpr ⟨.unlink b, by rw [hwire]; simp, rfl⟩
    obtain ⟨c, hc, hcb⟩ := List.mem_map.mp (h.item_known hitem)
    have hsettle := h.sound.one_settle c hc
    have hreplies : lists.ledger.replies.countP (Reply.settles c.1) =
        lists.drain.items.countP q := by
      show lists.queued.countP _ = _
      rw [h.queued_perm.countP_eq, List.countP_map, hcb]
      rfl
    omega
  have hsent : (lists.wire.map Stub.Ret.item).countP q ≤ lists.drain.items.countP q :=
    List.Sublist.countP_le
      ((List.sublist_append_left _ _).trans (List.sublist_append_left _ _))
  have hpre : 0 < (pre.map Stub.Ret.item).countP q := by
    refine List.countP_pos_iff.mpr ⟨.inr b', List.mem_map.mpr ⟨_, hb', rfl⟩, ?_⟩
    exact decide_eq_true hseq
  have hb : q (Stub.Ret.item (.unlink b : Stub.Ret Stub.UrbResult (BitVec 32))) = true :=
    decide_eq_true rfl
  rw [hwire, List.map_append, List.map_cons, List.countP_append, List.countP_cons, if_pos hb]
    at hsent
  omega

/-! ## The invariant -/

/-- What is sent and not answered is still on the lists, and what is answered is not. -/
structure Accounted (s : State) : Prop where
  client : Vhci.OrderInv 0 s.client
  tracked : Vhci.Tracked 0 s.client
  quiet : Stub.Quiet s.server
  answered : s.server.lists.Answered
  served : Served s
  read_le : s.read ≤ s.server.lists.wire.length
  inStep : s.inStep = true
  /-- No entry has the number of a RET_SUBMIT that was read. -/
  gone : ∀ n urb, .submit n urb ∈ s.replies → ∀ p ∈ s.client.privs, p.wireSeqnum ≠ n
  /-- A CMD_UNLINK was answered, or waits on `unlink_rx`. -/
  awaited : ∀ u n, .inr (u, n) ∈ s.requests → (∃ b, .unlink b ∈ s.replies ∧ b.seqnum = u) ∨
    ∃ e ∈ s.client.unlinkRx, e.wireSeqnums = (u, n)
  /-- One that was answered waits no more. -/
  once : ∀ b, .unlink b ∈ s.replies → ∀ e ∈ s.client.unlinkRx, e.wireSeqnums.1 ≠ b.seqnum
  sending : ∀ e, s.client.tx = .sendUnlink e → e ∈ s.client.unlinkRx
  unlinking : ∀ e status, s.client.rx = .unlink e status → .inr e.wireSeqnums ∈ s.requests
  /-- A URB that an unlink has caught has no entry left when the target of the RET_UNLINK was looked
  up. -/
  caught : ∀ b n, .unlink b ∈ s.replies → b.caught = some n →
    (∃ e status, s.client.rx = .unlink e status ∧ e.wireSeqnums.2 = n) ∨
      ∀ p ∈ s.client.privs, p.wireSeqnum ≠ n

namespace Accounted

/-- An attached client has nothing under way. -/
lemma start {devid : BitVec 32} {client : Vhci.State}
    (h : Vhci.step { seqnum := 0 } (.attach devid) = some client) : Accounted { client } := by
  have hinv : LinkInv 0 { client } := linkInv_start h
  simp only [Vhci.step] at h
  split at h <;> cases h
  exact
    { client := hinv.client
      tracked := hinv.tracked
      quiet := Stub.quiet_start
      answered := Stub.Session.answered_empty
      served := hinv.served
      read_le := hinv.read_le
      inStep := rfl
      gone := fun _ _ hr => by cases hr
      awaited := fun _ _ hr => by cases hr
      once := fun _ hr => by cases hr
      sending := fun _ htx => by cases htx
      unlinking := fun _ _ hrx => by cases hrx
      caught := fun _ _ hr => by cases hr }

/-- Every RET_SUBMIT of the server answers a submit of the client. -/
lemma submit_known (h : Accounted s) {n : Seqnum} {urb : Option Stub.UrbResult}
    (hret : .submit n urb ∈ s.server.lists.wire) : .inl n ∈ s.requests :=
  State.mem_requests_of_taken (h.served.mem_submits.mp (h.answered.repliesKnown.1 n urb hret))

/-- Every RET_UNLINK of the server answers an unlink of the client, of the request it caught. -/
lemma unlink_known (h : Accounted s) {b : Stub.StubUnlink (BitVec 32)}
    (hret : .unlink b ∈ s.server.lists.wire) :
    ∃ n, .inr (b.seqnum, n) ∈ s.requests ∧ ∀ m, b.caught = some m → m = n := by
  obtain ⟨n, hn, hcaught⟩ := h.answered.sound.cancelled_known b.seqnum b.caught
    (h.answered.mem_queued (x := .inr b) (List.mem_append_left _ (List.mem_append_left _
      (List.mem_map.mpr ⟨_, hret, rfl⟩))))
  exact ⟨n, State.mem_requests_of_taken (h.served.mem_unlinks.mp hn), fun m hm => (hcaught m hm).1⟩

/-- What a CMD_UNLINK names was sent before. -/
lemma target_known (h : Accounted s) {u n : Seqnum} (hx : .inr (u, n) ∈ s.requests) :
    .inl n ∈ s.requests := by
  obtain ⟨pre, post, hsplit⟩ := List.append_of_mem hx
  rw [hsplit]
  exact List.mem_append_left _ (h.client.wire pre _ post hsplit)

/-- The header that the client reads answers one of its requests. -/
lemma header_known (h : Accounted s) {ret : Stub.Ret Stub.UrbResult (BitVec 32)} {pdu : Header}
    (hret : s.nextReply = some ret) (hheader : IsHeaderOf pdu ret) :
    ∃ x ∈ s.requests, Vhci.requestNumber x = pdu.base.seqnum := by
  have hmem := State.mem_wire_of_nextReply hret
  cases ret with
  | submit n urb => exact ⟨_, h.submit_known hmem, hheader.2.1.symm⟩
  | unlink b =>
      obtain ⟨n, hx, -⟩ := h.unlink_known hmem
      exact ⟨_, hx, hheader.2.1.symm⟩

/-- No reply comes before its request was sent. -/
lemma noEarlyReply (h : Accounted s) {a : Vhci.Action} (hreceives : ClientReceives s a) :
    Vhci.NoEarlyReply s.client a := by
  cases a with
  | rxPdu pdu =>
      obtain ⟨ret, hret, hheader⟩ := hreceives h.inStep
      obtain ⟨x, hx, hxn⟩ := h.header_known hret hheader
      intro p hp
      rw [← hxn]
      exact h.tracked.sending_fresh hp hx
  | rxUnlink =>
      intro p hp e he
      cases hrx : s.client.rx with
      | unlink f status =>
          rw [hrx, Vhci.RxPc.unlinking, List.mem_singleton] at he
          subst he
          have htarget : .inl e.wireSeqnums.2 ∈ s.requests :=
            h.target_known (u := e.wireSeqnums.1) (h.unlinking e status hrx)
          exact h.tracked.sending_fresh hp htarget
      | top | pdu | payload | giveback | stopped =>
          rw [hrx] at he
          cases he
  | attach | eventAdd | otherSeqnum | enqueue | txUrb | dequeue | dequeueFinish | txTop | tx | rxTop
  | rxFail | rxPayload | rxGiveback | ehShutdown | ehClose | ehCleanup | ehCleanupNext
  | ehCleanupGiveback | ehCleanupRelock | ehReset | ehUnusable | ehFinish => trivial

/-- The client reads the header of the next reply, or none. -/
lemma read_cases (h : Accounted s) {a : Vhci.Action} (hreceives : ClientReceives s a) :
    (∃ pdu ret, a = .rxPdu pdu ∧ s.nextReply = some ret ∧ IsHeaderOf pdu ret ∧
      (s.reads a).replies = s.replies ++ [ret]) ∨
      (∀ pdu, a ≠ .rxPdu pdu) ∧ (s.reads a).read = s.read ∧ (s.reads a).replies = s.replies := by
  cases a with
  | rxPdu pdu =>
      obtain ⟨ret, hret, hheader⟩ := hreceives h.inStep
      exact Or.inl ⟨pdu, ret, rfl, hret, hheader, State.replies_reads hret pdu⟩
  | attach | eventAdd | otherSeqnum | enqueue | txUrb | dequeue | dequeueFinish | txTop | tx
  | rxTop | rxFail | rxPayload | rxUnlink | rxGiveback | ehShutdown | ehClose | ehCleanup
  | ehCleanupNext | ehCleanupGiveback | ehCleanupRelock | ehReset | ehUnusable | ehFinish =>
      exact Or.inr ⟨fun pdu heq => (by cases heq), rfl, rfl⟩

/-! ## The steps of the client -/

section client

variable {a : Vhci.Action} {client : Vhci.State} (h : Accounted s)
  (hissued : s.client.issued < 2 ^ 31) (hreceives : ClientReceives s a)
  (hst : Vhci.step s.client a = some client)

include h hissued hst in
/-- A new entry has a number that was not written. -/
lemma privs_old {n : Seqnum} (hsent : .inl n ∈ s.requests) {p : Vhci.VhciPriv}
    (hp : p ∈ client.privs) (hseq : p.wireSeqnum = n) : p ∈ s.client.privs := by
  rcases Vhci.privs_of_effect (Vhci.step_effect h.client.inv.control hst) p hp with hp | ⟨-, hnew⟩
  · exact hp
  · have hn : n = Vhci.wireSeqnumOf 0 s.client.issued := by
      rw [← hseq, ← Vhci.wireSeqnum_next h.client.inv.numbered, ← hnew]
      rfl
    have hfresh := (h.tracked.distinct.not_mem (by omega)).1
    exact absurd (List.mem_map.mpr ⟨_, Vhci.mem_items_of_wire hsent, hn⟩) hfresh

include h hissued hreceives hst in
/-- A step of the client leaves no record behind for a submit that was answered. -/
lemma gone_client : ∀ n urb, .submit n urb ∈ (s.reads a).replies → ∀ p ∈ client.privs,
    p.wireSeqnum ≠ n := by
  have hold : ∀ n urb, .submit n urb ∈ s.replies → ∀ p ∈ client.privs, p.wireSeqnum ≠ n := by
    intro n urb hr p hp hseq
    have hsent := h.submit_known (List.take_subset _ _ hr)
    exact h.gone n urb hr p (h.privs_old hissued hst hsent hp hseq) hseq
  obtain ⟨pdu, ret, rfl, hret, hheader, hreads⟩ | ⟨-, -, hreads⟩ := h.read_cases hreceives
  · intro n urb hr p hp hseq
    rw [hreads] at hr
    rcases List.mem_append.mp hr with hr | hr
    · exact hold n urb hr p hp hseq
    · obtain rfl := List.mem_singleton.mp hr
      obtain ⟨hcommand, hn, -⟩ := hheader
      have hsent := h.submit_known (State.mem_wire_of_nextReply hret)
      have hmem := h.privs_old hissued hst hsent hp hseq
      rw [← hn] at hsent
      refine h.tracked.gone_of_retSubmit h.client.inv.numbered (by omega) hcommand hsent hst p hp ?_
      rw [hn, ← hseq]
      exact h.client.inv.numbered.privs_setWidth hissued hmem
  · rw [hreads]
    exact hold

include h hissued in
/-- A RET_UNLINK finds the unlink that it answers. -/
lemma retUnlink_finds {b : Stub.StubUnlink (BitVec 32)} (hret : s.nextReply = some (.unlink b)) :
    ∃ e client, Vhci.dequeuePendingUnlink b.seqnum s.client = some (e, client) ∧
      .inr e.wireSeqnums ∈ s.requests ∧ e.wireSeqnums.1 = b.seqnum ∧
      ∀ n, b.caught = some n → e.wireSeqnums.2 = n := by
  obtain ⟨n, hx, hcaught⟩ := h.unlink_known (State.mem_wire_of_nextReply hret)
  have hsplit : s.server.lists.wire =
      s.replies ++ .unlink b :: s.server.lists.wire.drop (s.read + 1) := by
    have hdrop := List.take_append_drop (s.read + 1) s.server.lists.wire
    rw [List.take_add_one, show s.server.lists.wire[s.read]? = some (.unlink b) from hret,
      List.append_assoc] at hdrop
    exact hdrop.symm
  obtain ⟨b', hb', hseq⟩ | ⟨e, he, hwire⟩ := h.awaited _ _ hx
  · exact absurd hseq (unlink_once h.answered hsplit b' hb')
  have hmatches : e.seqnum = b.seqnum.setWidth 64 := by
    rw [h.client.inv.numbered.unlinkRx_setWidth hissued he, hwire]
  obtain ⟨f, hfind⟩ : ∃ f, s.client.unlinkRx.find? (fun e => e.seqnum = b.seqnum.setWidth 64) =
      some f := by
    rw [← Option.isSome_iff_exists, List.find?_isSome]
    exact ⟨e, he, decide_eq_true hmatches⟩
  have hf := List.mem_of_find?_eq_some hfind
  have hfseq : f.seqnum = b.seqnum.setWidth 64 := of_decide_eq_true (List.find?_some hfind :)
  have hfwire : f.wireSeqnums.1 = b.seqnum := by
    show f.seqnum.setWidth 32 = b.seqnum
    rw [hfseq]
    simp
  -- the numbers of the unlinks that were sent differ
  have heq : f.wireSeqnums = (b.seqnum, n) :=
    Sum.inr.inj (h.tracked.eq_of_number (List.mem_append_left _ (h.tracked.unlinkRx f hf))
      (Vhci.mem_items_of_wire hx) hfwire)
  refine ⟨f, _, by unfold Vhci.dequeuePendingUnlink; rw [hfind]; rfl, heq ▸ hx, hfwire,
    fun m hm => ?_⟩
  rw [heq, hcaught m hm]

include h hreceives in
/-- The reply that takes an entry off `unlink_rx` answers it. -/
lemma answered_of_takenBy {e : Vhci.VhciUnlink} (htaken : Vhci.TakenBy a s.client e) :
    ∃ b, s.nextReply = some (.unlink b) ∧ .unlink b ∈ (s.reads a).replies ∧
      b.seqnum = e.wireSeqnums.1 := by
  obtain ⟨pdu, s', rfl, hcommand, hd⟩ := htaken
  obtain ⟨ret, hret, hheader⟩ := hreceives h.inStep
  cases ret with
  | submit n urb =>
      have hne : retUnlink ≠ retSubmit := by decide
      exact absurd (hcommand.symm.trans hheader.1) hne
  | unlink b =>
      obtain ⟨-, hseqnum, -⟩ := hheader
      obtain ⟨hfind, -⟩ := Vhci.dequeuePendingUnlink_eq_some hd
      have hseq : e.seqnum = pdu.base.seqnum.setWidth 64 :=
        of_decide_eq_true (List.find?_some hfind :)
      refine ⟨b, hret, ?_, ?_⟩
      · rw [State.replies_reads hret]
        exact List.mem_append_right _ (List.mem_singleton_self _)
      · show b.seqnum = e.seqnum.setWidth 32
        rw [hseq, hseqnum]
        simp

include h hreceives in
/-- A step of the client leaves every unlink answered or awaited. -/
lemma awaited_client (hpass : Vhci.UnlinksPass s.client a client) {u n : Seqnum}
    (hx : .inr (u, n) ∈ s.requests ∨ .inr (u, n) ∈ s.client.tx.hand) :
    (∃ b, .unlink b ∈ (s.reads a).replies ∧ b.seqnum = u) ∨
      ∃ e ∈ client.unlinkRx, e.wireSeqnums = (u, n) := by
  have hkept {e : Vhci.VhciUnlink} (he : e ∈ s.client.unlinkRx) (hwire : e.wireSeqnums = (u, n)) :
      (∃ b, .unlink b ∈ (s.reads a).replies ∧ b.seqnum = u) ∨
        ∃ e ∈ client.unlinkRx, e.wireSeqnums = (u, n) := by
    rcases hpass.kept e he with he | htaken
    · exact Or.inr ⟨e, he, hwire⟩
    · obtain ⟨b, -, hb, hseq⟩ := h.answered_of_takenBy hreceives htaken
      exact Or.inl ⟨b, hb, by rw [hseq, hwire]⟩
  rcases hx with hx | hx
  · obtain ⟨b, hb, hseq⟩ | ⟨e, he, hwire⟩ := h.awaited u n hx
    · exact Or.inl ⟨b, s.replies_subset a hb, hseq⟩
    · exact hkept he hwire
  · cases htx : s.client.tx with
    | sendUnlink e =>
        rw [htx, Vhci.TxPc.hand, List.mem_singleton] at hx
        exact hkept (h.sending e htx) (Sum.inr.inj hx).symm
    | top | submit | sendSubmit p | unlink | stopped =>
        rw [htx] at hx
        simp [Vhci.TxPc.hand] at hx

include h hissued hreceives hst in
/-- A step of the client awaits no answer twice. -/
lemma once_client (hpass : Vhci.UnlinksPass s.client a client) :
    ∀ b, .unlink b ∈ (s.reads a).replies → ∀ e ∈ client.unlinkRx, e.wireSeqnums.1 ≠ b.seqnum := by
  have hfresh {b : Stub.StubUnlink (BitVec 32)} (hb : .unlink b ∈ s.server.lists.wire)
      {e : Vhci.VhciUnlink} (he : e ∈ s.client.unlinkTx) : e.wireSeqnums.1 ≠ b.seqnum := by
    obtain ⟨n, hx, -⟩ := h.unlink_known hb
    exact fun hseq => h.tracked.written_ne hx
      (Or.inr (Or.inr (List.mem_map_of_mem (List.mem_map_of_mem he)))) hseq.symm
  have hold {b : Stub.StubUnlink (BitVec 32)} (hb : .unlink b ∈ s.replies) {e : Vhci.VhciUnlink}
      (he : e ∈ client.unlinkRx) : e.wireSeqnums.1 ≠ b.seqnum := by
    rcases hpass.new e he with he | he
    · exact h.once b hb e he
    · exact hfresh (List.take_subset _ _ hb) he
  obtain ⟨pdu, ret, rfl, hret, hheader, hreads⟩ | ⟨-, -, hreads⟩ := h.read_cases hreceives
  · intro b hb e he
    rw [hreads] at hb
    rcases List.mem_append.mp hb with hb | hb
    · exact hold hb he
    · obtain rfl := List.mem_singleton.mp hb
      obtain ⟨hcommand, hseqnum, -⟩ := hheader
      have hn := h.client.inv.numbered
      rcases hpass.new e he with hrx | htx
      · intro hseq
        refine hn.gone_of_retUnlink (by omega) hcommand hst e he ?_
        rw [hseqnum, ← hseq]
        exact hn.unlinkRx_setWidth hissued hrx
      · exact hfresh (State.mem_wire_of_nextReply hret) htx
  · rw [hreads]
    exact fun b hb e he => hold hb he

include h hreceives in
/-- An unlink that is being sent is awaited already. -/
lemma sending_client (hpass : Vhci.UnlinksPass s.client a client) :
    ∀ e, client.tx = .sendUnlink e → e ∈ client.unlinkRx := by
  intro e htx
  rcases hpass.sending e htx with htx | he
  · rcases hpass.kept e (h.sending e htx) with he | htaken
    · exact he
    · -- its CMD_UNLINK was not written, so there is no reply to it
      obtain ⟨b, hret, -, hseq⟩ := h.answered_of_takenBy hreceives htaken
      obtain ⟨n, hx, -⟩ := h.unlink_known (State.mem_wire_of_nextReply hret)
      exact absurd hseq (h.tracked.written_ne hx (Or.inl (Vhci.mem_hand_of_sendUnlink htx)))
  · exact he

include h hissued hreceives hst in
/-- An unlink whose answer is handled was one of the requests. -/
lemma unlinking_client :
    ∀ e status, client.rx = .unlink e status → .inr e.wireSeqnums ∈ s.requests := by
  intro e status hrx
  obtain hold | ⟨pdu, s', rfl, hcommand, -, hd⟩ :=
    Vhci.unlinking_of_effect (Vhci.step_effect h.client.inv.control hst) hrx
  · exact h.unlinking e status hold
  · obtain ⟨b, hret, -, -⟩ := h.answered_of_takenBy hreceives ⟨pdu, s', rfl, hcommand, hd⟩
    obtain ⟨ret, hret', hheader⟩ := hreceives h.inStep
    obtain rfl : ret = .unlink b := Option.some.inj (hret'.symm.trans hret)
    obtain ⟨f, s'', hf, hx, -, -⟩ := h.retUnlink_finds hissued hret
    rw [hheader.2.1] at hd
    obtain ⟨rfl, -⟩ := Prod.mk.inj (Option.some.inj (hd.symm.trans hf))
    exact hx

include h hissued hreceives hst in
/-- A submit that an unlink caught is being given back or is gone. -/
lemma caught_client : ∀ b n, .unlink b ∈ (s.reads a).replies → b.caught = some n →
    (∃ e status, client.rx = .unlink e status ∧ e.wireSeqnums.2 = n) ∨
      ∀ p ∈ client.privs, p.wireSeqnum ≠ n := by
  have hold : ∀ b n, .unlink b ∈ s.replies → b.caught = some n →
      (∃ e status, client.rx = .unlink e status ∧ e.wireSeqnums.2 = n) ∨
        ∀ p ∈ client.privs, p.wireSeqnum ≠ n := by
    intro b n hb hcaught
    rcases h.caught b n hb hcaught with ⟨e, status, hrx, hn⟩ | hgone
    · have hknown := h.unlinking e status hrx
      by_cases ha : a = .rxUnlink
      · subst ha
        have hsent : .inl e.wireSeqnums.2 ∈ s.requests :=
          h.target_known (u := e.wireSeqnums.1) hknown
        right
        rw [← hn]
        exact h.tracked.gone_of_rxUnlink h.client.inv.numbered hissued hrx hsent hst
      · refine Or.inl ⟨e, status, Vhci.unlink_of_step hst hrx ha ?_, hn⟩
        rintro devid rfl
        exact hreceives
    · obtain ⟨m, hx, hm⟩ := h.unlink_known (List.take_subset _ _ hb)
      obtain rfl := hm n hcaught
      exact Or.inr fun p hp hseq =>
        hgone p (h.privs_old hissued hst (h.target_known hx) hp hseq) hseq
  obtain ⟨pdu, ret, rfl, hret, hheader, hreads⟩ | ⟨-, -, hreads⟩ := h.read_cases hreceives
  · intro b n hb hcaught
    rw [hreads] at hb
    rcases List.mem_append.mp hb with hb | hb
    · exact hold b n hb hcaught
    · obtain rfl := List.mem_singleton.mp hb
      obtain ⟨hcommand, hseqnum, -⟩ := hheader
      obtain ⟨e, s', hd, -, -, hn⟩ := h.retUnlink_finds hissued hret
      rw [← hseqnum] at hd
      exact Or.inl ⟨e, _, Vhci.found_of_retUnlink hcommand hd hst, hn n hcaught⟩
  · rw [hreads]
    exact hold

include h hissued hreceives hst in
/-- Every step of the client keeps the account. -/
theorem clientStep (hassumed : Assumed s (.client a)) (horderly : Orderly s (.client a))
    (hopen : s.client.tcpSocket = true) : Accounted { s.reads a with client } := by
  obtain ⟨hseq, hlt, hinStep⟩ := hassumed
  have hattach : ∀ devid, a ≠ .attach devid := by
    rintro devid rfl
    exact hreceives
  have hpass := Vhci.unlinksPass_of_step h.client hopen hattach hst
  obtain ⟨more, hwire⟩ := Vhci.wire_of_step hattach hst
  have hrequests : State.requests { s.reads a with client } =
      s.requests ++ more.map Vhci.Pdu.request := by
    unfold State.requests
    dsimp only
    rw [hwire, List.map_append]
  have hreads := s.reads_eq a
  refine
    { client := h.client.step hseq (h.noEarlyReply hreceives) horderly hst
      tracked := h.tracked.step h.client hlt hseq hattach hst
      quiet := ?_
      answered := ?_
      served := h.served.append hrequests ?_ ?_
      read_le := ?_
      inStep := State.inStep_reads h.inStep hinStep
      gone := h.gone_client hissued hreceives hst
      awaited := ?_
      once := h.once_client hissued hreceives hst hpass
      sending := h.sending_client hreceives hpass
      unlinking := ?_
      caught := h.caught_client hissued hreceives hst }
  · rw [hreads]
    exact h.quiet
  · rw [hreads]
    exact h.answered
  · rw [hreads]
  · rw [hreads]
  · rw [hreads]
    obtain ⟨pdu, ret, rfl, hret, -⟩ | ⟨-, hread, -⟩ := h.read_cases hreceives
    · exact (List.getElem?_eq_some_iff.mp hret).1
    · exact hread ▸ h.read_le
  · intro u n hx
    exact h.awaited_client hreceives hpass (Vhci.wire_unlink_of_step hattach hst hx)
  · intro e status hrx
    rw [hrequests]
    exact List.mem_append_left _ (h.unlinking_client hissued hreceives hst e status hrx)

end client

/-! ## The steps of the server -/

/-- Every step of the server keeps the account. -/
theorem serverStep (h : Accounted s) {a : Stub.Action} {server : Stub.State}
    (hreceives : ServerReceives s a) (hopen : s.server.tcpSocket = true)
    (hst : Stub.step s.server a = some server) :
    Accounted { s.serves a with server, completed := s.completed ++ a.completes } := by
  obtain ⟨hnew, hnames, -⟩ := h.served.conditions h.tracked h.client.wire hreceives
  have hanswered := Stub.answered_of_step h.quiet h.answered hnew
    (hnames.namesNoUnlink h.answered) hopen hst
  have hserved := h.served.step (t := { s.serves a with
    server, completed := s.completed ++ a.completes }) hreceives hst rfl rfl (by rw [s.serves_eq a]; rfl)
  obtain ⟨more, hwire⟩ := Stub.wire_of_step hst
  have hreplies : server.lists.wire.take s.read = s.replies := by
    rw [hwire, List.take_append_of_le_length h.read_le]
    rfl
  have hlength : s.read ≤ server.lists.wire.length := by
    rw [hwire, List.length_append]
    exact Nat.le_add_right_of_le h.read_le
  rw [s.serves_eq a] at hserved ⊢
  exact
    { client := h.client
      tracked := h.tracked
      quiet := h.quiet.step hst
      answered := hanswered
      served := hserved
      read_le := hlength
      inStep := h.inStep
      gone := fun n urb hr => h.gone n urb (hreplies ▸ hr)
      awaited := fun u n hx => (h.awaited u n hx).imp_left fun hb => by
        obtain ⟨b, hb, hseq⟩ := hb
        rw [← hreplies] at hb
        exact ⟨b, hb, hseq⟩
      once := fun b hb => h.once b (hreplies ▸ hb)
      sending := h.sending
      unlinking := h.unlinking
      caught := fun b n hb => h.caught b n (hreplies ▸ hb) }

end Accounted

/-- The sockets are closed once and for all. -/
lemma open_of_step (hst : step s a = some t) (hopen : t.Open) : s.Open := by
  cases a with
  | client a =>
      obtain ⟨hreceives, client, hclient, rfl⟩ := step_client hst
      obtain ⟨hc, hs⟩ := hopen
      rw [s.reads_eq a] at hs
      obtain ⟨devid, rfl⟩ | hc := Vhci.attach_or_open hclient hc
      · exact hreceives.elim
      · exact ⟨hc, hs⟩
  | server a =>
      obtain ⟨-, server, hserver, rfl⟩ := step_server hst
      obtain ⟨hc, hs⟩ := hopen
      rw [s.serves_eq a] at hc
      exact ⟨hc, Stub.tcpSocket_of_step hserver hs⟩

/-- The client issues no number back. -/
lemma issued_of_step (hst : step s a = some t) : s.client.issued ≤ t.client.issued := by
  cases a with
  | client a =>
      obtain ⟨-, client, hclient, rfl⟩ := step_client hst
      exact Vhci.issued_le_of_step hclient
  | server a =>
      obtain ⟨-, server, hserver, rfl⟩ := step_server hst
      rw [s.serves_eq a]

/-- While the connection is open the account is kept in every run. -/
theorem accounted_of_reach (h : (machine 0).Reach (fun s a => Assumed s a ∧ Orderly s a) t)
    (hopen : t.Open) (hissued : t.client.issued < 2 ^ 31) : Accounted t := by
  refine h.invariant (I := fun s => s.Open → s.client.issued < 2 ^ 31 → Accounted s) ?_ ?_
    hopen hissued
  · rintro s ⟨devid, client, hst, rfl⟩ - -
    exact .start hst
  · intro s a t hi ⟨hassumed, horderly⟩ hst hopen hissued
    have hopen' := open_of_step hst hopen
    have hissued' : s.client.issued < 2 ^ 31 := (issued_of_step hst).trans_lt hissued
    have h := hi hopen' hissued'
    cases a with
    | client a =>
        obtain ⟨hreceives, client, hclient, rfl⟩ := step_client hst
        exact h.clientStep hissued' hreceives hclient hassumed horderly hopen'.1
    | server a =>
        obtain ⟨hreceives, server, hserver, rfl⟩ := step_server hst
        exact h.serverStep hreceives hopen'.2 hserver

/-! ## At rest -/

/-- A URB whose CMD_SUBMIT was written is not on the lists of a connection at rest. -/
lemma Accounted.privRx_nil (h : Accounted t) (hopen : t.Open) (hrests : Rests t) :
    t.client.privRx = [] := by
  rw [List.eq_nil_iff_forall_not_mem]
  intro p hp
  have hprivs : p ∈ t.client.privs := List.mem_append_right _ hp
  have hsent : .inl p.wireSeqnum ∈ t.requests := by
    have hsent := (h.client.sending hopen.1).sent p hp
    simpa [State.requests, Vhci.State.drain, hrests.clientTx, Vhci.TxPc.hand] using hsent
  have hsubmit : p.wireSeqnum ∈ t.server.lists.submits := by
    rw [h.served.mem_submits, State.taken, hrests.served, List.take_length]
    exact hsent
  have hreplies : t.replies = t.server.lists.wire := by
    rw [State.replies, hrests.read, List.take_length]
  have hone := h.answered.request (by simp [hrests.serverTx]) hsubmit
  have hunanswered : t.server.lists.unanswered p.wireSeqnum = 0 := by
    simp [Stub.Session.unanswered, hrests.serverPrivInit, hrests.serverPrivTx, hrests.serverTx,
      Stub.TxPc.sendingSubmit]
  have hanswered : 0 < t.server.lists.answered p.wireSeqnum := by omega
  rcases Nat.add_pos_iff_pos_or_pos.mp hanswered with hret | hret
  · obtain ⟨ret, hmem, hn⟩ := List.mem_filterMap.mp (List.count_pos_iff.mp hret)
    cases ret with
    | submit n urb =>
        obtain rfl := Option.some.inj hn
        exact h.gone _ urb (hreplies ▸ hmem) p hprivs rfl
    | unlink b => cases hn
  · obtain ⟨b, hb, hcaught⟩ := List.countP_pos_iff.mp hret
    have hmem : .unlink b ∈ t.replies := by
      simp only [Stub.Session.retUnlinks, hrests.serverTx, hrests.serverUnlinkTx,
        Stub.TxPc.sendingUnlink, List.append_nil] at hb
      obtain ⟨ret, hmem, hn⟩ := List.mem_filterMap.mp hb
      cases ret with
      | submit n urb => cases hn
      | unlink b' =>
          obtain rfl := Option.some.inj hn
          exact hreplies ▸ hmem
    rcases h.caught b _ hmem (of_decide_eq_true hcaught) with ⟨e, status, hrx, -⟩ | hgone
    · rw [hrests.clientRx] at hrx
      cases hrx
    · exact hgone p hprivs rfl

/-- An unlink that was sent was answered. -/
lemma Accounted.unlinkRx_nil (h : Accounted t) (hrests : Rests t) : t.client.unlinkRx = [] := by
  rw [List.eq_nil_iff_forall_not_mem]
  intro e he
  have hsent : .inr e.wireSeqnums ∈ t.requests := by
    have hsent := h.tracked.unlinkRx e he
    simpa [State.requests, Vhci.State.drain, hrests.clientTx, Vhci.TxPc.hand] using hsent
  have hunlink : e.wireSeqnums ∈ t.server.lists.unlinks := by
    rw [h.served.mem_unlinks, State.taken, hrests.served, List.take_length]
    exact hsent
  have hone := h.answered.unlink (by simp [hrests.serverTx]) hunlink
  rw [Stub.Session.settled, hrests.serverPrivInit, List.countP_nil, Nat.zero_add] at hone
  obtain ⟨b, hb, hseq⟩ := List.countP_pos_iff.mp (hone ▸ Nat.one_pos)
  simp only [Stub.Session.retUnlinks, hrests.serverTx, hrests.serverUnlinkTx,
    Stub.TxPc.sendingUnlink, List.append_nil] at hb
  obtain ⟨ret, hmem, hn⟩ := List.mem_filterMap.mp hb
  cases ret with
  | submit n urb => cases hn
  | unlink b' =>
      obtain rfl := Option.some.inj hn
      have hreplies : t.replies = t.server.lists.wire := by
        rw [State.replies, hrests.read, List.take_length]
      exact h.once b' (hreplies ▸ hmem) e he (of_decide_eq_true hseq).symm

/-- A connection that has come to rest has answered everything: no request is left on the lists of
the vhci, and every URB that was accepted was given back, but for those that a function that failed
has dropped. -/
theorem all_given_back (h : (machine 0).Reach (fun s a => Assumed s a ∧ Orderly s a) t)
    (hopen : t.Open) (hissued : t.client.issued < 2 ^ 31) (hrests : Rests t) :
    t.client.privRx = [] ∧ t.client.unlinkRx = [] ∧
      ∀ u, Custody.Held t.client.log u ↔ u ∈ t.client.lost := by
  have hi := accounted_of_reach h hopen hissued
  have hprivRx := hi.privRx_nil hopen hrests
  refine ⟨hprivRx, hi.unlinkRx_nil hrests, fun u => ?_⟩
  have heh : t.client.eh.held = [] := by
    obtain he | he := (hi.client.sending hopen.1).eh <;> rw [he] <;> rfl
  rw [hi.client.inv.owned.sound.held_iff]
  simp [Vhci.State.places, Vhci.State.privs, hrests.clientPrivTx, hprivRx, hrests.clientLock,
    hrests.clientRx, heh, Vhci.Lock.held, Vhci.RxPc.held]

/-- URB 0 is dequeued and caught in flight, the RET_UNLINK gives it back, and everything comes to
rest. -/
def caughtRun : List Action :=
  List.flatten [
    submitRun,
    [.client (.dequeue 0), .client (.dequeueFinish true 0), .client (.tx true), .client (.tx true),
     .client (.tx true), .client (.tx true),
     .server .rxTop, .server (.rxCmdUnlink 2 1), .server (.complete 1 ⟨-ECONNRESET, 0, []⟩),
     .server .txTop, .server (.tx true), .server (.tx true), .server (.tx true), .server (.tx true),
     .server (.tx true), .server (.tx true), .server .rxTop,
     .client .rxTop,
     .client (.rxPdu { base := { command := retUnlink, seqnum := 2 }, u := { w₀ := -ECONNRESET } }),
     .client .rxUnlink, .client .rxGiveback, .client .rxTop]]

/-- A URB that an unlink catches is given back. -/
theorem all_given_back_caughtRun :
    ∃ t, (machine 0).Reach (fun s a => Assumed s a ∧ Orderly s a) t ∧
      t.client.log.countP (Custody.accepts 0) = 1 ∧ ¬ Custody.Held t.client.log 0 := by
  have hrun : ∃ t, (machine 0).Reach (fun s a => Assumed s a ∧ Orderly s a) t ∧
      (Rests t ∧ t.Open ∧ t.client.issued = 2 ∧ t.client.lost = [] ∧
        t.client.log.countP (Custody.accepts 0) = 1) := by
    apply Machine.Reach.of_perform caughtRun init_attached
    exact ⟨_, rfl, ⟨rfl, rfl, rfl, rfl, rfl, rfl, rfl, rfl, rfl, rfl⟩, ⟨rfl, rfl⟩, rfl, rfl, rfl⟩
  obtain ⟨t, h, hrests, hopen, hissued, hlost, haccepted⟩ := hrun
  obtain ⟨-, -, hheld⟩ := all_given_back h hopen (by omega) hrests
  refine ⟨t, h, haccepted, fun hmem => ?_⟩
  have hnone := (hheld 0).mp hmem
  rw [hlost] at hnone
  cases hnone

end Usbip.Link
