import Usbip.Vhci.Order

/-!
# Requests stay on their connection

`priv_tx` and `priv_rx` belong to the port.  `vhci_shutdown_connection` empties neither of them: it
leaves that to the USB core, which dequeues the URBs of the removed device when it gets to it.  If
the next connection is attached before, its sending thread sends what is left on `priv_tx`, and a
late dequeue finds a socket and queues an unlink for an old seqnum (`stale_request_sent`).  When
both lists are empty at every attach, and the `vhci_priv` that `vhci_urb_dequeue` reads is not freed
under it, every request written to a socket belongs to its connection (`requests_isolated`).
-/

namespace Usbip.Vhci

open Usbip.Core Usbip.Common

variable {s t : State} {a : Action} {c : BitVec 32} {past : History}

/-! ## The history of a connection -/

/-- A request that was written, with the entry it was made from. -/
inductive Sent
  | submit (p : VhciPriv) (pdu : Pdu)
  | unlink (e : VhciUnlink) (pdu : Pdu)

def Sent.pdu : Sent → Pdu
  | submit _ pdu | unlink _ pdu => pdu

/-- What has happened since the last `store_attach`. -/
structure History where
  /-- The length of the log when the connection was attached. -/
  mark : Nat := 0
  /-- The entries `vhci_tx_urb` has made. -/
  requests : List VhciPriv := []
  /-- The requests written to the socket. -/
  sent : List Sent := []

/-- What the sending thread writes in a step. -/
def State.sentBy (s : State) (sendOk : Bool) : List Sent :=
  if sendOk then
    match s.tx with
    | .sendSubmit p =>
        (s.hcpriv p.urb).toList.map fun q => .submit q (cmdSubmitPdu q s.devid (s.urb p.urb))
    | .sendUnlink e => [.unlink e (cmdUnlinkPdu e s.devid)]
    | .top | .submit | .unlink | .stopped => []
  else []

/-- The history after a step. -/
def record (s : State) (a : Action) (t : State) (past : History) : History :=
  match a with
  | .attach _ => { mark := s.log.length }
  | .txUrb _ => { past with requests := past.requests ++ t.privTx.drop s.privTx.length }
  | .tx sendOk => { past with sent := past.sent ++ s.sentBy sendOk }
  | _ => past

/-- A port with the history of its connection. -/
def port (c : BitVec 32) : Machine (State × History) Action :=
  (machine c).withHistory {} record

/-- Every CMD_SUBMIT on the wire is for a URB that was accepted, and got its entry, since the
connection was attached, and every CMD_UNLINK names the seqnum of such an entry. -/
structure Isolated (s : State) (past : History) : Prop where
  wire : s.wire = past.sent.map Sent.pdu
  submit : ∀ p pdu, .submit p pdu ∈ past.sent →
    p ∈ past.requests ∧ .accepted p.urb ∈ s.log.drop past.mark
  unlink : ∀ e pdu, .unlink e pdu ∈ past.sent → ∃ p ∈ past.requests, p.seqnum = e.unlinkSeqnum

/-- A step that sends nothing records nothing. -/
lemma record_eq (ha : a.isSender = false) (htxUrb : ∀ allocOk, a ≠ .txUrb allocOk) :
    record s a t past = past := by
  cases a with
  | attach | txTop | tx => cases ha
  | txUrb allocOk => exact absurd rfl (htxUrb allocOk)
  | _ => rfl

/-! ## The sending thread -/

/-- The transmit thread puts on the wire what it sends. -/
lemma txStep_wire {sendOk : Bool} (h : txStep sendOk s = some t) :
    t.wire = s.wire ++ (s.sentBy sendOk).map Sent.pdu := by
  unfold txStep at h
  unfold State.sentBy
  cases htx : s.tx with
  | top | stopped => simp [htx] at h
  | submit | unlink =>
      simp only [htx] at h
      split at h <;> cases h <;> simp
  | sendSubmit p =>
      simp only [htx] at h
      cases hq : s.hcpriv p.urb with
      | none =>
          rw [hq] at h
          cases h
          simp [hq]
      | some q =>
          rw [hq] at h
          cases sendOk <;> cases h <;> simp [hq, Sent.pdu]
  | sendUnlink e =>
      simp only [htx] at h
      cases sendOk <;> cases h
      · simp
      · simp [Sent.pdu]

/-- What is sent is the record or the unlink in hand. -/
lemma mem_sentBy {sendOk : Bool} {x : Sent} (h : x ∈ s.sentBy sendOk) :
    (∃ p q, s.tx = .sendSubmit p ∧ s.hcpriv p.urb = some q ∧
        x = .submit q (cmdSubmitPdu q s.devid (s.urb p.urb))) ∨
      ∃ e, s.tx = .sendUnlink e ∧ x = .unlink e (cmdUnlinkPdu e s.devid) := by
  unfold State.sentBy at h
  split at h
  · split at h
    · rename_i p htx
      obtain ⟨q, hq, rfl⟩ := List.mem_map.mp h
      exact Or.inl ⟨p, q, htx, Option.mem_toList.mp hq, rfl⟩
    · rename_i e htx
      exact Or.inr ⟨e, htx, List.mem_singleton.mp h⟩
    all_goals cases h
  · cases h

/-- What it has in hand was on `unlink_tx`. -/
lemma txStep_unlinkTx {sendOk : Bool} (h : txStep sendOk s = some t) :
    (∀ e ∈ t.unlinkTx, e ∈ s.unlinkTx) ∧ ∀ e, t.tx = .sendUnlink e → e ∈ s.unlinkTx := by
  unfold txStep at h
  cases htx : s.tx with
  | top | stopped => simp [htx] at h
  | submit =>
      simp only [htx] at h
      split at h <;> cases h <;> exact ⟨fun e he => he, fun e he => (by cases he)⟩
  | sendSubmit p =>
      simp only [htx] at h
      split at h
      · cases h
        exact ⟨fun e he => he, fun e he => (by cases he)⟩
      · split at h <;> cases h <;> exact ⟨fun e he => he, fun e he => (by cases he)⟩
  | unlink =>
      simp only [htx] at h
      split at h <;> cases h
      · rename_i e rest hrest
        rw [hrest]
        refine ⟨fun f hf => List.mem_cons_of_mem _ hf, fun f hf => ?_⟩
        cases hf
        exact List.mem_cons_self
      · exact ⟨fun e he => he, fun e he => (by cases he)⟩
  | sendUnlink e =>
      simp only [htx] at h
      split at h <;> cases h <;> exact ⟨fun e he => he, fun e he => (by cases he)⟩

/-! ## What belongs to the connection -/

/-- An unlink of a request of the connection. -/
def History.Names (past : History) (e : VhciUnlink) : Prop :=
  ∃ p ∈ past.requests, p.seqnum = e.unlinkSeqnum

/-- What is on the lists and with the sending thread belongs to the connection, and so does what
was sent. -/
structure OfConnection (s : State) (past : History) : Prop where
  mark : past.mark ≤ s.log.length
  requests : ∀ p ∈ past.requests, .accepted p.urb ∈ s.log.drop past.mark
  enqueuing : ∀ u, s.lock = .enqueue u → .accepted u ∈ s.log.drop past.mark
  privs : ∀ p ∈ s.privs, p ∈ past.requests
  unlinkTx : ∀ e ∈ s.unlinkTx, past.Names e
  sending : ∀ e, s.tx = .sendUnlink e → past.Names e
  wire : s.wire = past.sent.map Sent.pdu
  submit : ∀ p pdu, .submit p pdu ∈ past.sent → p ∈ past.requests
  unlink : ∀ e pdu, .unlink e pdu ∈ past.sent → past.Names e

namespace OfConnection

/-- Records of one connection isolate its requests. -/
lemma isolated (h : OfConnection s past) : Isolated s past where
  wire := h.wire
  submit p pdu hp := ⟨h.submit p pdu hp, h.requests p (h.submit p pdu hp)⟩
  unlink := h.unlink

/-- Nothing has been sent at the start. -/
lemma start (c : BitVec 32) : OfConnection { seqnum := c } {} := by
  constructor <;> simp [State.privs]

/-- A step of another context than the sending thread: the log grows, entries leave the lists, and
an unlink that is queued is for an entry of the connection. -/
lemma step_other (h : OfConnection s past) (htx : t.tx = s.tx) (hwire : t.wire = s.wire)
    (hlog : ∃ more, t.log = s.log ++ more)
    (hlock : ∀ u, t.lock = .enqueue u → s.lock = .enqueue u ∨ .accepted u ∈ t.log.drop s.log.length)
    (hprivs : ∀ p ∈ t.privs, p ∈ s.privs)
    (hunlinkTx : ∀ e ∈ t.unlinkTx, e ∈ s.unlinkTx ∨ past.Names e) : OfConnection t past := by
  obtain ⟨more, hlog⟩ := hlog
  have hkeep : ∀ {x}, x ∈ s.log.drop past.mark → x ∈ t.log.drop past.mark := by
    intro x hx
    rw [hlog, List.drop_append_of_le_length h.mark]
    exact List.mem_append_left _ hx
  refine ⟨?_, fun p hp => hkeep (h.requests p hp), fun u hu => ?_, fun p hp => h.privs p (hprivs p hp),
    fun e he => (hunlinkTx e he).elim (h.unlinkTx e) id, ?_, hwire.trans h.wire, h.submit, h.unlink⟩
  · rw [hlog, List.length_append]
    exact Nat.le_add_right_of_le h.mark
  · rcases hlock u hu with hu | hu
    · exact hkeep (h.enqueuing u hu)
    · rw [hlog, List.drop_left] at hu
      rw [hlog, List.drop_append_of_le_length h.mark]
      exact List.mem_append_right _ hu
  · rw [htx]
    exact h.sending

/-- `vhci_tx_urb` makes an entry for a URB that was accepted on this connection. -/
theorem txUrb (h : OfConnection s past) {u : UrbId} {allocOk : Bool} (hl : s.lock = .enqueue u) :
    OfConnection { vhciTxUrb u allocOk s with lock := .free } (record s (.txUrb allocOk)
      { vhciTxUrb u allocOk s with lock := .free } past) := by
  have hsame : ∀ lost event, OfConnection { s with lost, event, lock := .free } past := fun _ _ =>
    h.step_other rfl rfl ⟨[], by simp⟩ (fun u hu => (by cases hu)) (fun _ hp => hp)
      fun _ he => Or.inl he
  unfold vhciTxUrb
  split
  · simpa [record] using hsame _ _
  · split
    · simpa [record] using hsame _ _
    · have hrequests : ∀ p ∈ past.requests ++ [⟨s.issued, s.nextSeqnum, u⟩],
          .accepted p.urb ∈ s.log.drop past.mark := by
        intro p hp
        rcases List.mem_append.mp hp with hp | hp
        · exact h.requests p hp
        · rw [List.mem_singleton.mp hp]
          exact h.enqueuing u hl
      have hmono : ∀ e, past.Names e →
          History.Names { past with requests := past.requests ++ [⟨s.issued, s.nextSeqnum, u⟩] } e := by
        rintro e ⟨p, hp, hseq⟩
        exact ⟨p, List.mem_append_left _ hp, hseq⟩
      simp only [record, State.incSeqnum, List.drop_left]
      refine ⟨h.mark, hrequests, fun u hu => (by cases hu), fun p hp => ?_,
        fun e he => hmono e (h.unlinkTx e he), fun e he => hmono e (h.sending e he), h.wire,
        fun p pdu hp => List.mem_append_left _ (h.submit p pdu hp),
        fun e pdu he => hmono e (h.unlink e pdu he)⟩
      simp only [State.privs, List.append_assoc, List.mem_append, List.mem_singleton] at hp
      rcases hp with hp | rfl | hp
      · exact List.mem_append_left _ (h.privs p (List.mem_append_left _ hp))
      · exact List.mem_append_right _ (List.mem_singleton_self _)
      · exact List.mem_append_left _ (h.privs p (List.mem_append_right _ hp))

/-- The sending thread sends what is on the lists. -/
theorem tx (h : OfConnection s past) {sendOk : Bool} (ho : Owned s)
    (hst : txStep sendOk s = some t) :
    OfConnection t { past with sent := past.sent ++ s.sentBy sendOk } := by
  obtain ⟨ht, hprivs, -⟩ := txStep_frame hst
  have hlock : t.lock = s.lock := by rw [ht]
  have hlog : t.log = s.log := by rw [ht]
  obtain ⟨hunlinkTx, hsending⟩ := txStep_unlinkTx hst
  refine ⟨hlog ▸ h.mark, hlog ▸ h.requests, ?_, fun p hp => h.privs p (hprivs.mem_iff.mp hp),
    fun e he => h.unlinkTx e (hunlinkTx e he), fun e he => h.unlinkTx e (hsending e he), ?_,
    fun p pdu hp => ?_, fun e pdu he => ?_⟩
  · rw [hlock, hlog]
    exact h.enqueuing
  · rw [txStep_wire hst, h.wire, List.map_append]
  · rcases List.mem_append.mp hp with hp | hp
    · exact h.submit p pdu hp
    rcases mem_sentBy hp with ⟨q, r, -, hq, heq⟩ | ⟨e, -, heq⟩
    · obtain ⟨rfl, -⟩ := Sent.submit.inj heq
      exact h.privs p ((ho.linked.ptr_iff q.urb p).mp hq).1
    · cases heq
  · rcases List.mem_append.mp he with he | he
    · exact h.unlink e pdu he
    rcases mem_sentBy he with ⟨q, r, -, -, heq⟩ | ⟨f, hf, heq⟩
    · cases heq
    · obtain ⟨rfl, -⟩ := Sent.unlink.inj heq
      exact h.sending e hf

end OfConnection

/-! ## The socket and the unlinks -/

/-- The socket is closed in the middle of a shutdown, and from there until the next attach no
unlink is queued. -/
structure Socket (s : State) : Prop where
  opened : s.tcpSocket = true → s.eh = .idle ∨ s.eh = .stopping
  closed : s.tcpSocket = false → s.eh ≠ .closed → s.unlinkTx = []

/-- The runs consist of connections and shutdowns, one after the other; a connection is attached
when the port has no entries, and the `vhci_priv` that `vhci_urb_dequeue` has read is not freed
under it. -/
def CleanAttach (s : State) : Action → Prop
  | .attach _ => s.eh = .idle ∧ s.privTx = [] ∧ s.privRx = []
  | .dequeueFinish _ _ => ∀ x ∈ s.lock.dequeuing, s.hcpriv x.1 = some x.2
  | _ => True

instance (s : State) (a : Action) : Decidable (CleanAttach s a) :=
  match a with
  | .attach _ => inferInstanceAs (Decidable (s.eh = .idle ∧ s.privTx = [] ∧ s.privRx = []))
  | .dequeueFinish _ _ =>
      inferInstanceAs (Decidable (∀ x ∈ s.lock.dequeuing, s.hcpriv x.1 = some x.2))
  | .eventAdd | .otherSeqnum | .enqueue _ _ _ | .txUrb _ | .dequeue _ | .txTop | .tx _ | .rxTop
  | .rxPdu _ | .rxFail _ | .rxPayload _ _ | .rxUnlink | .rxGiveback | .ehShutdown | .ehClose
  | .ehCleanup | .ehCleanupNext | .ehCleanupGiveback | .ehCleanupRelock | .ehReset | .ehUnusable
  | .ehFinish => isTrue trivial

/-- Without a socket no unlink is queued. -/
lemma unlinkTx_of_closed (hc : Control s) (hs : s.tcpSocket = false) (hnil : s.unlinkTx = [])
    (he : Effect s a t) : t.unlinkTx = [] := by
  cases he with
  | frame hf => exact hf.unlinkTx.trans hnil
  | enqueue _ _ henq => cases henq <;> exact hnil
  | txUrb =>
      unfold vhciTxUrb
      split <;> [skip; split] <;> exact hnil
  | dequeueFinish =>
      unfold vhciUrbDequeueFinish
      rw [if_pos hs]
      exact hnil
  | tx htx => simp [txStep, (hc.stopped hs).2] at htx
  | retSubmit _ hp | rxUnlink _ hp | cleanupPickup _ _ hp =>
      obtain ⟨-, rfl⟩ := pickup_eq_some hp
      exact hnil
  | retUnlink _ he =>
      obtain ⟨-, rfl⟩ := dequeuePendingUnlink_eq_some he
      exact hnil
  | rxPayload =>
      obtain ⟨urb, event, hr | hr⟩ := recvPayload_cases _ _ _ s
      all_goals
        rw [hr]
        exact hnil
  | otherSeqnum | dequeue | rxGiveback | cleanupSkip | cleanupGiveback => exact hnil
  | cleanup => rfl

/-- Past the closing of the socket there is none. -/
lemma Socket.none_of_eh (h : Socket s) (hidle : s.eh ≠ .idle) (hstopping : s.eh ≠ .stopping) :
    s.tcpSocket = false := by
  cases hs : s.tcpSocket with
  | false => rfl
  | true => exact absurd (h.opened hs) (not_or.mpr ⟨hidle, hstopping⟩)

/-- A step of `vhci_device_unlink_cleanup`. -/
lemma Socket.cleanup (h : Socket s) (hidle : s.eh ≠ .idle) (hstopping : s.eh ≠ .stopping)
    (hsocket : t.tcpSocket = s.tcpSocket) (hunlinkTx : t.unlinkTx = []) : Socket t := by
  have hs := hsocket.trans (h.none_of_eh hidle hstopping)
  exact ⟨fun ht => (by rw [hs] at ht; cases ht), fun _ _ => hunlinkTx⟩

/-- Every step keeps unlinks off the queues from a shutdown to the next attach. -/
theorem Socket.step (h : Socket s) (hc : Control s) (hok : CleanAttach s a)
    (hst : Vhci.step s a = some t) : Socket t := by
  have heffect := step_effect hc hst
  cases ha : a.isHandler with
  | false =>
      have hl := local_of_step hst ha
      refine ⟨fun hs => hl.eh ▸ h.opened (hl.socket ▸ hs), fun hs heh => ?_⟩
      have hs' := hl.socket.symm.trans hs
      exact unlinkTx_of_closed hc hs' (h.closed hs' (hl.eh ▸ heh)) heffect
  | true =>
      cases a with
      | eventAdd | otherSeqnum | enqueue | txUrb | dequeue | dequeueFinish | txTop | tx | rxTop
      | rxPdu | rxFail | rxPayload | rxUnlink | rxGiveback => cases ha
      | attach devid =>
          simp only [Vhci.step] at hst
          split at hst <;> cases hst
          exact ⟨fun _ => Or.inl hok.1, fun h => (by cases h)⟩
      | ehShutdown =>
          simp only [Vhci.step] at hst
          split at hst <;> cases hst
          rename_i hidle
          exact ⟨fun _ => Or.inr rfl, fun hs _ => h.closed hs (by rw [hidle.1]; simp)⟩
      | ehClose =>
          simp only [Vhci.step] at hst
          split at hst <;> cases hst
          exact ⟨fun h => (by cases h), fun _ h => absurd rfl h⟩
      | ehCleanup =>
          simp only [Vhci.step] at hst
          split at hst <;> cases hst
          rename_i hclosed
          exact h.cleanup (by rw [hclosed.1]; simp) (by rw [hclosed.1]; simp) rfl rfl
      | ehCleanupNext =>
          simp only [Vhci.step] at hst
          split at hst <;> cases hst
          rename_i heh
          have hs := h.none_of_eh (by rw [heh]; simp) (by rw [heh]; simp)
          have hnil := h.closed hs (by rw [heh]; simp)
          refine h.cleanup (by rw [heh]; simp) (by rw [heh]; simp) ?_
            (unlinkTx_of_closed hc hs hnil heffect)
          unfold cleanupNext
          split
          · rfl
          · split
            · rfl
            · rename_i hp
              obtain ⟨-, rfl⟩ := pickup_eq_some hp
              rfl
      | ehCleanupGiveback =>
          simp only [Vhci.step] at hst
          split at hst <;> cases hst
          rename_i heh
          have hs := h.none_of_eh (by rw [heh]; simp) (by rw [heh]; simp)
          exact h.cleanup (by rw [heh]; simp) (by rw [heh]; simp) rfl
            (h.closed hs (by rw [heh]; simp))
      | ehCleanupRelock =>
          simp only [Vhci.step] at hst
          split at hst <;> cases hst
          rename_i heh
          have hs := h.none_of_eh (by rw [heh.1]; simp) (by rw [heh.1]; simp)
          exact h.cleanup (by rw [heh.1]; simp) (by rw [heh.1]; simp) rfl
            (h.closed hs (by rw [heh.1]; simp))
      | ehReset | ehUnusable | ehFinish =>
          simp only [Vhci.step] at hst
          split at hst <;> cases hst
          rename_i heh
          have hs := h.none_of_eh (by rw [heh]; simp) (by rw [heh]; simp)
          exact ⟨fun _ => Or.inl rfl, fun _ _ => h.closed hs (by rw [heh]; simp)⟩

/-- `vhci_device_reset` finds the socket closed. -/
lemma Socket.stopsFirst (h : Socket s) (hst : Vhci.step s a = some t) : StopsFirst s a := by
  by_cases ha : a = .ehReset
  · subst ha
    intro hs
    simp only [Vhci.step] at hst
    obtain he | he := h.opened hs <;> simp [he] at hst
  · cases a <;> trivial

/-! ## Every step -/

/-- The log only grows, and `vhci->lock` is taken by `vhci_urb_enqueue` for a URB it has just
accepted. -/
lemma log_of_effect (he : Effect s a t) : (∃ more, t.log = s.log ++ more) ∧
    ∀ u, t.lock = .enqueue u → s.lock = .enqueue u ∨ .accepted u ∈ t.log.drop s.log.length := by
  have hsame : t.log = s.log → (∀ u, t.lock = .enqueue u → s.lock = .enqueue u) →
      (∃ more, t.log = s.log ++ more) ∧
        ∀ u, t.lock = .enqueue u → s.lock = .enqueue u ∨ .accepted u ∈ t.log.drop s.log.length :=
    fun hlog hlock => ⟨⟨[], by simp [hlog]⟩, fun u hu => Or.inl (hlock u hu)⟩
  cases he with
  | frame hf => exact hsame hf.log fun u hu => hf.lock ▸ hu
  | otherSeqnum => exact hsame rfl fun _ hu => hu
  | enqueue _ _ henq =>
      cases henq with
      | refused => exact hsame rfl fun _ hu => hu
      | locally => exact ⟨⟨_, List.append_assoc _ _ _⟩, fun u hu => Or.inl hu⟩
      | sent =>
          refine ⟨⟨_, rfl⟩, ?_⟩
          rintro u ⟨⟩
          simp
  | txUrb =>
      refine hsame ?_ fun u hu => (by cases hu)
      unfold vhciTxUrb
      split <;> [skip; split] <;> rfl
  | dequeue => exact hsame rfl fun u hu => (by cases hu)
  | dequeueFinish =>
      refine ⟨?_, fun u hu => (by cases hu)⟩
      unfold vhciUrbDequeueFinish
      split
      · exact ⟨_, rfl⟩
      · split <;> exact ⟨[], by simp [State.incSeqnum]⟩
  | tx htx =>
      rw [(txStep_frame htx).1] at hsame ⊢
      exact hsame rfl fun _ hu => hu
  | retSubmit _ hp | rxUnlink _ hp | cleanupPickup _ _ hp =>
      obtain ⟨-, rfl⟩ := pickup_eq_some hp
      exact hsame rfl fun _ hu => hu
  | retUnlink _ he =>
      obtain ⟨-, rfl⟩ := dequeuePendingUnlink_eq_some he
      exact hsame rfl fun _ hu => hu
  | rxPayload =>
      obtain ⟨urb, event, hr | hr⟩ := recvPayload_cases _ _ _ s
      all_goals
        rw [hr] at hsame ⊢
        exact hsame rfl fun _ hu => hu
  | rxGiveback | cleanupGiveback => exact ⟨⟨_, rfl⟩, fun _ hu => Or.inl hu⟩
  | cleanup | cleanupSkip => exact hsame rfl fun _ hu => hu

/-- Unlinks are put on `unlink_tx` by `vhci_urb_dequeue` only, and name the entry it has read. -/
lemma unlinkTx_of_effect (ho : Owned s) (hok : CleanAttach s a) (he : Effect s a t) :
    ∀ e ∈ t.unlinkTx, e ∈ s.unlinkTx ∨ ∃ p ∈ s.privs, p.seqnum = e.unlinkSeqnum := by
  cases he with
  | frame hf =>
      rw [hf.unlinkTx]
      exact fun _ => Or.inl
  | enqueue _ _ henq => cases henq <;> exact fun _ => Or.inl
  | txUrb =>
      unfold vhciTxUrb
      split <;> [skip; split] <;> exact fun _ => Or.inl
  | @dequeueFinish u p _ _ hl =>
      have hp : s.hcpriv u = some p := hok (u, p) (by rw [hl]; exact List.mem_singleton_self _)
      unfold vhciUrbDequeueFinish
      split
      · exact fun _ => Or.inl
      · split
        · exact fun _ => Or.inl
        · intro e he
          rcases List.mem_append.mp he with he | he
          · exact Or.inl he
          · rw [List.mem_singleton.mp he]
            exact Or.inr ⟨p, ((ho.linked.ptr_iff u p).mp hp).1, by simp⟩
  | tx htx => exact fun e he => Or.inl ((txStep_unlinkTx htx).1 e he)
  | retSubmit _ hp | rxUnlink _ hp | cleanupPickup _ _ hp =>
      obtain ⟨-, rfl⟩ := pickup_eq_some hp
      exact fun _ => Or.inl
  | retUnlink _ he =>
      obtain ⟨-, rfl⟩ := dequeuePendingUnlink_eq_some he
      exact fun _ => Or.inl
  | rxPayload =>
      obtain ⟨urb, event, hr | hr⟩ := recvPayload_cases _ _ _ s
      all_goals
        rw [hr]
        exact fun _ => Or.inl
  | otherSeqnum | dequeue | rxGiveback | cleanupSkip | cleanupGiveback => exact fun _ => Or.inl
  | cleanup => exact fun e he => (by cases he)

/-- A connection starts with nothing. -/
lemma OfConnection.attach (hc : Control s) (hsocket : Socket s) {devid : BitVec 32}
    (hok : CleanAttach s (.attach devid)) (hst : Vhci.step s (.attach devid) = some t) :
    OfConnection t (record s (.attach devid) t past) := by
  obtain ⟨heh, hprivTx, hprivRx⟩ := hok
  simp only [Vhci.step] at hst
  split at hst <;> cases hst
  rename_i hcond
  have hunlinkTx := hsocket.closed (hc.null hcond.2) (by rw [heh]; simp)
  have hlock : s.lock = .free := hcond.1.1
  constructor <;> simp [record, hlock, hunlinkTx, State.privs, hprivTx, hprivRx]

/-- Every step keeps the lists to the last connection. -/
theorem OfConnection.step (h : OfConnection s past) (hi : Inv c s) (hsocket : Socket s)
    (hok : CleanAttach s a) (hst : Vhci.step s a = some t) : OfConnection t (record s a t past) := by
  have heffect := step_effect hi.control hst
  cases ha : a.isSender with
  | true =>
      cases a with
      | eventAdd | otherSeqnum | enqueue | txUrb | dequeue | dequeueFinish | rxTop | rxPdu | rxFail
      | rxPayload | rxUnlink | rxGiveback | ehShutdown | ehClose | ehCleanup | ehCleanupNext
      | ehCleanupGiveback | ehCleanupRelock | ehReset | ehUnusable | ehFinish => cases ha
      | attach devid => exact .attach hi.control hsocket hok hst
      | txTop =>
          simp only [Vhci.step] at hst
          split at hst <;> cases hst
          refine ⟨h.mark, h.requests, h.enqueuing, h.privs, h.unlinkTx, fun e he => ?_, h.wire,
            h.submit, h.unlink⟩
          cases hstop : s.shouldStop <;> simp [hstop] at he
      | tx sendOk => exact h.tx hi.owned hst
  | false =>
      by_cases htxUrb : ∃ allocOk, a = .txUrb allocOk
      · obtain ⟨allocOk, rfl⟩ := htxUrb
        simp only [Vhci.step] at hst
        split at hst <;> cases hst
        rename_i hl
        exact h.txUrb hl
      · have hnot : ∀ allocOk, a ≠ .txUrb allocOk := fun allocOk heq => htxUrb ⟨allocOk, heq⟩
        obtain ⟨htx, hwire⟩ := tx_wire_of_step hst ha
        obtain ⟨hlog, hlock⟩ := log_of_effect heffect
        rw [record_eq ha hnot]
        have hprivs : ∀ p ∈ t.privs, p ∈ s.privs := fun p hp =>
          (privs_of_effect heffect p hp).resolve_right fun hnew => htxUrb hnew.1
        refine h.step_other htx hwire hlog hlock hprivs fun e he => ?_
        refine (unlinkTx_of_effect hi.owned hok heffect e he).imp_right ?_
        rintro ⟨p, hp, hseq⟩
        exact ⟨p, h.privs p hp, hseq⟩

/-! ## No request goes to a later connection -/

/-- Over any number of connections of a port that are attached when it has no entries, every
CMD_SUBMIT is written to the connection that its URB was accepted on, and every CMD_UNLINK names
such a CMD_SUBMIT. -/
theorem requests_isolated {x : State × History}
    (h : (port c).Reach (fun x a => CleanAttach x.1 a) x) : Isolated x.1 x.2 := by
  have hinv : Inv c x.1 ∧ Socket x.1 ∧ OfConnection x.1 x.2 := by
    refine h.invariant (I := fun x => Inv c x.1 ∧ Socket x.1 ∧ OfConnection x.1 x.2) ?_ ?_
    · rintro ⟨s, past⟩ ⟨hs, hpast⟩
      obtain rfl : s = { seqnum := c } := hs
      obtain rfl : past = {} := hpast
      exact ⟨inv_start c, ⟨fun h => (by cases h), fun _ _ => rfl⟩, .start c⟩
    · rintro ⟨s, past⟩ a y ⟨hi, hsocket, hconn⟩ hok hst
      obtain ⟨hst, hpast⟩ := Machine.withHistory_step hst
      refine ⟨hi.step (hsocket.stopsFirst hst) hst, hsocket.step hi.control hok hst, ?_⟩
      rw [hpast]
      exact hconn.step hi hsocket hok hst
  exact hinv.2.2.isolated

/-- An idle port is a start of the machine. -/
lemma init_port (c : BitVec 32) : (port c).init ({ seqnum := c }, {}) :=
  ⟨rfl, rfl⟩

/-- The connection is shut down and the port reset. -/
def shutdown : List Action :=
  [.eventAdd, .rxTop, .ehShutdown, .txTop, .ehClose, .ehCleanup, .ehCleanupNext, .ehReset]

/-- A URB is enqueued and its CMD_SUBMIT sent. -/
def enqueueSent (u : UrbId) : List Action :=
  [.enqueue u getDescriptorUrb 0, .txUrb true, .txTop, .tx true, .tx true, .tx true]

/-- What a request is, and which URB or seqnum it is about. -/
def Sent.about : Sent → UrbId ⊕ BitVec 64
  | submit p _ => .inl p.urb
  | unlink e _ => .inr e.unlinkSeqnum

/-- URB 0 is sent on the first connection and dequeued after the shutdown; URB 1 is sent and
unlinked on the second. -/
theorem requests_isolated_reattached :
    ∃ x, (port 0).Reach (fun x a => CleanAttach x.1 a) x ∧
      (x.2.sent.map Sent.about = [.inl 1, .inr 2] ∧ x.1.connections = 2) ∧ Isolated x.1 x.2 := by
  have hrun : ∃ x, (port 0).Reach (fun x a => CleanAttach x.1 a) x ∧
      (x.2.sent.map Sent.about = [.inl 1, .inr 2] ∧ x.1.connections = 2) := by
    apply Machine.Reach.of_perform
      (List.flatten [[.attach 1], enqueueSent 0, [.tx true], shutdown,
        [.dequeue 0, .dequeueFinish true 0, .attach 2], enqueueSent 1,
        [.dequeue 1, .dequeueFinish true 0, .tx true, .tx true]])
      (init_port 0)
    exact ⟨_, rfl, by decide⟩
  obtain ⟨x, hx, hsent⟩ := hrun
  exact ⟨x, hx, hsent, requests_isolated hx⟩

/-- URB 0 is enqueued on the first connection, which is shut down before the sending thread has
looked at `priv_tx`.  The second connection sends it. -/
theorem stale_request_sent :
    ¬ ∀ x, (port 0).Reach (fun _ _ => True) x → Isolated x.1 x.2 := by
  intro hall
  have hrun : ∃ x, (port 0).Reach (fun _ _ => True) x ∧
      (x.2.sent.map Sent.about = [.inl 0] ∧ x.2.requests = [] ∧ x.1.connections = 2) := by
    apply Machine.Reach.of_perform
      (List.flatten [[.attach 1, .enqueue 0 getDescriptorUrb 0, .txUrb true], shutdown,
        [.attach 2, .txTop, .tx true, .tx true]])
      (init_port 0)
    exact ⟨_, rfl, by decide⟩
  obtain ⟨x, hx, hsent, hrequests, -⟩ := hrun
  have hsubmit := (hall x hx).submit
  rw [hrequests] at hsubmit
  cases hs : x.2.sent with
  | nil => simp [hs] at hsent
  | cons y rest =>
      rw [hs] at hsent hsubmit
      cases y with
      | submit p pdu =>
          obtain ⟨hp, -⟩ := hsubmit p pdu List.mem_cons_self
          cases hp
      | unlink e pdu => simp [Sent.about] at hsent

end Usbip.Vhci
