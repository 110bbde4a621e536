import Usbip.Vhci.Machine

/-!
# Steps of the vhci

What an action can do, said once.  `Control.step` is about the positions of the threads and the
socket: the socket is closed only while both threads have returned.  `step_effect` is about the
lists and the URBs: most actions leave them alone (`Frame`), and the others are the sections of
the source, each with the condition under which it runs.  The invariants of the machine are derived
from these two.
-/

namespace Usbip.Vhci

open Usbip.Core Usbip.Common

variable {s t : State} {a : Action}

/-! ## What the contexts hold -/

/-- URBs that are accepted, not on a list, and in the hands of a context. -/
def Lock.held : Lock → List UrbId
  | .enqueue u => [u]
  | .free | .dequeue _ _ => []

def RxPc.held : RxPc → List UrbId
  | .payload p => [p.urb]
  | .giveback u _ => [u]
  | .top | .pdu | .unlink _ _ | .stopped => []

/-- The receiving thread is between two replies. -/
def RxPc.idle : RxPc → Bool
  | .top | .pdu | .stopped => true
  | .payload _ | .unlink _ _ | .giveback _ _ => false

/-- A receive thread that is idle holds no URB. -/
lemma RxPc.held_of_idle {pc : RxPc} (h : pc.idle = true) : pc.held = [] := by
  cases pc with
  | top | pdu | stopped => rfl
  | payload | unlink | giveback => cases h

def EhPc.held : EhPc → List UrbId
  | .giveback u => [u]
  | .idle | .stopping | .closed | .cleanup | .relock | .done => []

/-! ## The sections of the source -/

namespace State

/-- The entries that have a URB. -/
def privs (s : State) : List VhciPriv := s.privTx ++ s.privRx

/-- The unlinks that wait to be sent or answered. -/
def unlinks (s : State) : List VhciUnlink := s.unlinkTx ++ s.unlinkRx

end State

/-- What `pickup_urb_and_free_priv` finds and takes off. -/
lemma pickup_eq_some {n : BitVec 32} {p : VhciPriv} (h : pickupUrbAndFreePriv n s = some (p, t)) :
    s.privRx.find? (fun p => p.seqnum = n.setWidth 64) = some p ∧
      t = { s with
        privRx := s.privRx.eraseP fun p => p.seqnum = n.setWidth 64
        hcpriv := Function.update s.hcpriv p.urb none } := by
  unfold pickupUrbAndFreePriv at h
  obtain ⟨q, hq, hpt⟩ := Option.map_eq_some_iff.mp h
  cases hpt
  exact ⟨hq, rfl⟩

/-- What `dequeue_pending_unlink` finds and takes off. -/
lemma dequeuePendingUnlink_eq_some {n : BitVec 32} {e : VhciUnlink}
    (h : dequeuePendingUnlink n s = some (e, t)) :
    s.unlinkRx.find? (fun e => e.seqnum = n.setWidth 64) = some e ∧
      t = { s with unlinkRx := s.unlinkRx.eraseP fun e => e.seqnum = n.setWidth 64 } := by
  unfold dequeuePendingUnlink at h
  obtain ⟨q, hq, hpt⟩ := Option.map_eq_some_iff.mp h
  cases hpt
  exact ⟨hq, rfl⟩

/-- The sending thread moves entries from the first lists to the second. -/
lemma txStep_frame {sendOk : Bool} (h : txStep sendOk s = some t) :
    t = { s with
      privTx := t.privTx, privRx := t.privRx, unlinkTx := t.unlinkTx, unlinkRx := t.unlinkRx
      tx := t.tx, wire := t.wire, event := t.event } ∧
      t.privs.Perm s.privs ∧ t.unlinks.Perm s.unlinks := by
  unfold txStep at h
  split at h
  · cases h
  · cases h
  · split at h <;> cases h
    · rename_i p rest hrest
      refine ⟨rfl, ?_, .refl _⟩
      simp only [State.privs, hrest, ← List.append_assoc]
      exact List.perm_append_singleton p _
    · exact ⟨rfl, .refl _, .refl _⟩
  · split at h <;> [skip; split at h] <;> cases h <;> exact ⟨rfl, .refl _, .refl _⟩
  · split at h <;> cases h
    · rename_i e rest hrest
      refine ⟨rfl, .refl _, ?_⟩
      simp only [State.unlinks, hrest, ← List.append_assoc]
      exact List.perm_append_singleton e _
    · exact ⟨rfl, .refl _, .refl _⟩
  · split at h <;> cases h <;> exact ⟨rfl, .refl _, .refl _⟩

/-- Picking up an entry takes it off the lists. -/
lemma perm_privs_of_pickup {n : BitVec 32} {p : VhciPriv}
    (h : pickupUrbAndFreePriv n s = some (p, t)) : s.privs.Perm (p :: t.privs) := by
  obtain ⟨hp, rfl⟩ := pickup_eq_some h
  simp only [State.privs]
  exact ((perm_cons_eraseP_of_find? hp).append_left _).trans List.perm_middle

/-- After its header, a RET_SUBMIT ends with its URB about to be given back, or dropped. -/
lemma recvPayload_cases (p : VhciPriv) (allocOk : Bool) (io : List Recvmsg) (s : State) :
    ∃ urb event, recvPayload p allocOk io s = { s with
        urb := Function.update s.urb p.urb urb, event
        rx := .giveback p.urb (.retSubmit p) } ∨
      recvPayload p allocOk io s = { s with
        urb := Function.update s.urb p.urb urb, event
        lost := s.lost ++ [p.urb], rx := .top } := by
  unfold recvPayload
  dsimp only [State.writeUrb]
  split
  · exact ⟨_, _, Or.inr rfl⟩
  · simp only [Function.update_idem]
    split
    · exact ⟨_, _, Or.inr rfl⟩
    · exact ⟨_, _, Or.inl rfl⟩

/-- What `vhci_urb_enqueue` does before it calls `vhci_tx_urb`: it refuses the URB, or gives it
back itself, or keeps the lock. -/
inductive Enqueued (u : UrbId) (urb : Urb) (s : State) : State → Prop
  | refused {unlinked dequeued : UrbId → Bool}
      (h : unlinked = s.unlinked ∧ dequeued = s.dequeued ∨
        unlinked = Function.update s.unlinked u false ∧
          dequeued = Function.update s.dequeued u false) :
      Enqueued u urb s { s with urb := Function.update s.urb u urb, unlinked, dequeued }
  | locally {urb' : Urb} {udev : Option Nat} (hs : s.status ≠ .null) :
      Enqueued u urb s { s with
        urb := Function.update s.urb u urb'
        unlinked := Function.update s.unlinked u false
        dequeued := Function.update s.dequeued u false
        udev
        status := .used
        log := s.log ++ [.accepted u] ++ [.returned u ⟨.enqueue, urb'⟩] }
  | sent {udev : Option Nat} (hs : s.status ≠ .null) (hurb : urb.status = -EINPROGRESS) :
      Enqueued u urb s { s with
        urb := Function.update s.urb u urb
        unlinked := Function.update s.unlinked u false
        dequeued := Function.update s.dequeued u false
        udev
        lock := .enqueue u
        log := s.log ++ [.accepted u] }

/-- What `vhci_urb_enqueue` does. -/
lemma vhciUrbEnqueue_enqueued (u : UrbId) (urb : Urb) (linkRet : Int) (s : State) :
    Enqueued u urb s (vhciUrbEnqueue u urb linkRet s) := by
  unfold vhciUrbEnqueue
  dsimp only [State.writeUrb]
  by_cases hurb : urb.status ≠ -EINPROGRESS
  · rw [if_pos hurb]
    exact .refused (Or.inl ⟨rfl, rfl⟩)
  rw [if_neg hurb]
  by_cases hs : s.status = .null ∨ s.status = .error
  · rw [if_pos hs]
    exact .refused (Or.inl ⟨rfl, rfl⟩)
  rw [if_neg hs]
  have hnull : s.status ≠ .null := fun h => hs (Or.inl h)
  by_cases hlink : linkRet ≠ 0
  · rw [if_pos hlink]
    exact .refused (Or.inl ⟨rfl, rfl⟩)
  rw [if_neg hlink]
  by_cases hdev : urb.pipe.device = 0
  · rw [if_pos hdev]
    unfold enqueueDevnum0
    dsimp only
    split
    · simp only [State.writeUrb, State.giveback, Function.update_idem, Function.update_self]
      exact .locally hnull
    · split
      · exact .sent hnull (not_not.mp hurb)
      · exact .refused (Or.inr ⟨rfl, rfl⟩)
  · rw [if_neg hdev]
    exact .sent hnull (not_not.mp hurb)

/-! ## The threads and the socket -/

/-- The threads have returned before `tcp_socket` becomes NULL.  `vhci_shutdown_connection` sees to
that itself; `vhci_device_reset` relies on it. -/
def StopsFirst (s : State) : Action → Prop
  | .ehReset => s.tcpSocket = true → s.rx = .stopped ∧ s.tx = .stopped
  | _ => True

instance (s : State) (a : Action) : Decidable (StopsFirst s a) :=
  match a with
  | .ehReset =>
      inferInstanceAs (Decidable (s.tcpSocket = true → s.rx = .stopped ∧ s.tx = .stopped))
  | .attach _ | .eventAdd | .otherSeqnum | .enqueue _ _ _ | .txUrb _ | .dequeue _
  | .dequeueFinish _ _ | .txTop | .tx _ | .rxTop | .rxPdu _ | .rxFail _ | .rxPayload _ _ | .rxUnlink
  | .rxGiveback | .ehShutdown | .ehClose | .ehCleanup | .ehCleanupNext | .ehCleanupGiveback
  | .ehCleanupRelock | .ehUnusable | .ehFinish => isTrue trivial

/-- Without a socket no thread runs, an unused port has no socket, and the lock is free when the
event handler takes it. -/
structure Control (s : State) : Prop where
  stopped : s.tcpSocket = false → s.rx = .stopped ∧ s.tx = .stopped
  null : s.status = .null → s.tcpSocket = false
  cleanup : s.eh = .cleanup → s.lock = .free

/-- No thread runs at the start. -/
lemma control_start (c : BitVec 32) : Control { seqnum := c } :=
  ⟨fun _ => ⟨rfl, rfl⟩, fun _ => rfl, fun h => (by cases h)⟩

/-- `store_attach` and the event handler. -/
def Action.isHandler : Action → Bool
  | .attach _ | .ehShutdown | .ehClose | .ehCleanup | .ehCleanupNext | .ehCleanupGiveback
  | .ehCleanupRelock | .ehReset | .ehUnusable | .ehFinish => true
  | .eventAdd | .otherSeqnum | .enqueue _ _ _ | .txUrb _ | .dequeue _ | .dequeueFinish _ _ | .txTop
  | .tx _ | .rxTop | .rxPdu _ | .rxFail _ | .rxPayload _ _ | .rxUnlink | .rxGiveback => false

/-- The other contexts leave the socket and the event handler alone, start no thread, and do not
take a lock that the event handler has. -/
structure Local (s t : State) : Prop where
  socket : t.tcpSocket = s.tcpSocket
  eh : t.eh = s.eh
  status : t.status = .null → s.status = .null
  rx : s.rx = .stopped → t.rx = .stopped
  tx : s.tx = .stopped → t.tx = .stopped
  lock : s.eh = .cleanup → s.lock = .free → t.lock = .free

/-- Nothing changed is local. -/
lemma Local.refl (s : State) : Local s s :=
  ⟨rfl, rfl, fun h => h, fun h => h, fun h => h, fun _ h => h⟩

/-- A local step keeps the control. -/
lemma Control.of_local (h : Control s) (hl : Local s t) : Control t := by
  refine ⟨fun hs => ?_, fun hn => hl.socket ▸ h.null (hl.status hn), fun he => ?_⟩
  · obtain ⟨hr, ht⟩ := h.stopped (hl.socket ▸ hs)
    exact ⟨hl.rx hr, hl.tx ht⟩
  · have he : s.eh = .cleanup := hl.eh ▸ he
    exact hl.lock he (h.cleanup he)

/-- A port that is free has its threads stopped. -/
lemma Control.attached (h : Control s) (hn : s.status = .null) : s.rx = .stopped ∧ s.tx = .stopped :=
  h.stopped (h.null hn)

/-- Enqueuing is local. -/
lemma Enqueued.toLocal {u : UrbId} {urb : Urb} (h : Enqueued u urb s t) (hl : s.unlocked) :
    Local s t := by
  cases h with
  | refused => exact { Local.refl s with }
  | locally => exact { Local.refl s with status := fun h => (by cases h) }
  | sent => exact { Local.refl s with lock := fun h => absurd h hl.2 }

/-- A step of the receive thread is local. -/
lemma local_of_rx (hrx : s.rx ≠ .stopped) (hsocket : t.tcpSocket = s.tcpSocket) (heh : t.eh = s.eh)
    (hstatus : t.status = s.status) (htx : t.tx = s.tx) (hlock : t.lock = s.lock) : Local s t :=
  ⟨hsocket, heh, fun h => hstatus ▸ h, fun h => absurd h hrx, fun h => htx ▸ h,
    fun _ h => hlock ▸ h⟩

/-- Receiving a PDU is local. -/
lemma vhciRxPdu_local (hrx : s.rx ≠ .stopped) (pdu : Header) : Local s (vhciRxPdu pdu s) := by
  unfold vhciRxPdu vhciRecvRetSubmit vhciRecvRetUnlink
  split
  · split
    · exact local_of_rx hrx rfl rfl rfl rfl rfl
    · rename_i h
      obtain ⟨-, rfl⟩ := pickup_eq_some h
      exact local_of_rx hrx rfl rfl rfl rfl rfl
  · split
    · split
      · exact local_of_rx hrx rfl rfl rfl rfl rfl
      · rename_i h
        obtain ⟨-, rfl⟩ := dequeuePendingUnlink_eq_some h
        exact local_of_rx hrx rfl rfl rfl rfl rfl
    · exact local_of_rx hrx rfl rfl rfl rfl rfl

/-- A step of the transmit thread is local. -/
lemma txStep_local {sendOk : Bool} (h : txStep sendOk s = some t) : Local s t := by
  have hlive : s.tx ≠ .stopped := by
    intro htx
    unfold txStep at h
    rw [htx] at h
    cases h
  rw [(txStep_frame h).1]
  exact { Local.refl s with tx := fun h => absurd h hlive }

/-- A step outside the handler is local. -/
lemma local_of_step (hst : step s a = some t) (ha : a.isHandler = false) : Local s t := by
  cases a with
  | attach | ehShutdown | ehClose | ehCleanup | ehCleanupNext | ehCleanupGiveback
  | ehCleanupRelock | ehReset | ehUnusable | ehFinish => cases ha
  | eventAdd | otherSeqnum =>
      obtain rfl := Option.some.inj hst
      exact { Local.refl s with }
  | enqueue u urb linkRet =>
      simp only [step] at hst
      split at hst <;> cases hst
      rename_i hl
      exact (vhciUrbEnqueue_enqueued u urb linkRet s).toLocal hl.1
  | txUrb allocOk =>
      simp only [step] at hst
      split at hst <;> cases hst
      unfold vhciTxUrb
      split <;> [skip; split] <;> exact { Local.refl s with lock := fun _ _ => rfl }
  | dequeue u =>
      simp only [step] at hst
      split at hst <;> cases hst
      rename_i hl
      unfold vhciUrbDequeue
      split
      · exact .refl s
      · split
        · exact .refl s
        · exact { Local.refl s with lock := fun h => absurd h hl.2 }
  | dequeueFinish allocOk stale =>
      simp only [step] at hst
      split at hst <;> cases hst
      unfold vhciUrbDequeueFinish
      split <;> [skip; split] <;> exact { Local.refl s with lock := fun _ _ => rfl }
  | txTop =>
      simp only [step] at hst
      split at hst <;> cases hst
      rename_i htx
      exact { Local.refl s with tx := fun h => (by cases (htx.symm.trans h)) }
  | tx sendOk => exact txStep_local hst
  | rxTop | rxFail addsEvent =>
      simp only [step] at hst
      split at hst <;> cases hst
      rename_i hrx
      exact local_of_rx (by rw [hrx]; simp) rfl rfl rfl rfl rfl
  | rxPdu pdu =>
      simp only [step] at hst
      split at hst <;> cases hst
      rename_i hrx
      exact vhciRxPdu_local (by rw [hrx]; simp) pdu
  | rxPayload allocOk io =>
      simp only [step] at hst
      split at hst <;> cases hst
      rename_i p hrx
      obtain ⟨urb, event, h | h⟩ := recvPayload_cases p allocOk io s
      all_goals
        rw [h]
        exact local_of_rx (by rw [hrx]; simp) rfl rfl rfl rfl rfl
  | rxUnlink =>
      simp only [step] at hst
      split at hst <;> cases hst
      rename_i e status hrx
      unfold recvUnlink
      split
      · exact local_of_rx (by rw [hrx]; simp) rfl rfl rfl rfl rfl
      · rename_i h
        obtain ⟨-, rfl⟩ := pickup_eq_some h
        exact local_of_rx (by rw [hrx]; simp) rfl rfl rfl rfl rfl
  | rxGiveback =>
      simp only [step] at hst
      split at hst
      · rename_i hrx
        split at hst <;> cases hst
        exact local_of_rx (by rw [hrx]; simp) rfl rfl rfl rfl rfl
      · cases hst

/-- Every step keeps the control. -/
theorem Control.step (hc : Control s) (hok : StopsFirst s a) (hst : Vhci.step s a = some t) :
    Control t := by
  cases ha : a.isHandler with
  | false => exact hc.of_local (local_of_step hst ha)
  | true =>
      cases a with
      | eventAdd | otherSeqnum | enqueue | txUrb | dequeue | dequeueFinish | txTop | tx | rxTop
      | rxPdu | rxFail | rxPayload | rxUnlink | rxGiveback => cases ha
      | attach devid =>
          simp only [Vhci.step] at hst
          split at hst <;> cases hst
          exact ⟨fun h => (by cases h), fun h => (by cases h), hc.cleanup⟩
      | ehShutdown =>
          simp only [Vhci.step] at hst
          split at hst <;> cases hst
          exact ⟨hc.stopped, hc.null, fun h => (by cases h)⟩
      | ehClose =>
          simp only [Vhci.step] at hst
          split at hst <;> cases hst
          rename_i h
          exact ⟨fun _ => h.2, fun _ => rfl, fun h => (by cases h)⟩
      | ehCleanup | ehCleanupRelock =>
          simp only [Vhci.step] at hst
          split at hst <;> cases hst
          rename_i h
          exact ⟨hc.stopped, hc.null, fun _ => h.2⟩
      | ehCleanupNext =>
          simp only [Vhci.step] at hst
          split at hst <;> cases hst
          unfold cleanupNext
          split
          · exact ⟨hc.stopped, hc.null, fun h => (by cases h)⟩
          · split
            · exact ⟨hc.stopped, hc.null, hc.cleanup⟩
            · rename_i h
              obtain ⟨-, rfl⟩ := pickup_eq_some h
              exact ⟨hc.stopped, hc.null, fun h => (by cases h)⟩
      | ehCleanupGiveback =>
          simp only [Vhci.step] at hst
          split at hst <;> cases hst
          exact ⟨hc.stopped, hc.null, fun h => (by cases h)⟩
      | ehReset =>
          simp only [Vhci.step] at hst
          split at hst <;> cases hst
          refine ⟨fun _ => ?_, fun _ => rfl, fun h => (by cases h)⟩
          cases hs : s.tcpSocket with
          | true => exact hok hs
          | false => exact hc.stopped hs
      | ehUnusable =>
          simp only [Vhci.step] at hst
          split at hst <;> cases hst
          exact ⟨hc.stopped, fun h => (by cases h), fun h => (by cases h)⟩
      | ehFinish =>
          simp only [Vhci.step] at hst
          split at hst <;> cases hst
          exact ⟨hc.stopped, hc.null, fun h => (by cases h)⟩

/-! ## What a step does to the lists and the URBs -/

/-- The lists, the URBs and what the contexts hold are the same. -/
structure Frame (s t : State) : Prop where
  seqnum : t.seqnum = s.seqnum
  issued : t.issued = s.issued
  lock : t.lock = s.lock
  privTx : t.privTx = s.privTx
  privRx : t.privRx = s.privRx
  unlinkTx : t.unlinkTx = s.unlinkTx
  unlinkRx : t.unlinkRx = s.unlinkRx
  urb : t.urb = s.urb
  hcpriv : t.hcpriv = s.hcpriv
  unlinked : t.unlinked = s.unlinked
  dequeued : t.dequeued = s.dequeued
  lost : t.lost = s.lost
  log : t.log = s.log
  rx : t.rx = s.rx ∨ s.rx.held = [] ∧ t.rx.idle = true
  eh : t.eh = s.eh ∨ s.eh.held = [] ∧ t.eh.held = []

/-- Nothing changed is framed. -/
lemma Frame.refl (s : State) : Frame s s :=
  ⟨rfl, rfl, rfl, rfl, rfl, rfl, rfl, rfl, rfl, rfl, rfl, rfl, rfl, Or.inl rfl, Or.inl rfl⟩

/-- A framed step leaves what the receive thread holds. -/
lemma Frame.rx_held (h : Frame s t) : t.rx.held = s.rx.held := by
  obtain hrx | ⟨hs, ht⟩ := h.rx
  · rw [hrx]
  · rw [hs, RxPc.held_of_idle ht]

/-- A framed step leaves what the cleanup holds. -/
lemma Frame.eh_held (h : Frame s t) : t.eh.held = s.eh.held := by
  obtain heh | ⟨hs, ht⟩ := h.eh
  · rw [heh]
  · rw [hs, ht]

/-- The effect of an action: none on the lists and the URBs, or that of a section of the source. -/
inductive Effect (s : State) : Action → State → Prop
  | frame {a : Action} {t : State} (h : Frame s t) : Effect s a t
  | otherSeqnum : Effect s .otherSeqnum s.incSeqnum
  | enqueue {u : UrbId} {urb : Urb} {linkRet : Int} {t : State} (hl : s.unlocked)
      (hu : ¬ Custody.Held s.log u) (h : Enqueued u urb s t) : Effect s (.enqueue u urb linkRet) t
  | txUrb {u : UrbId} {allocOk : Bool} (hl : s.lock = .enqueue u) :
      Effect s (.txUrb allocOk) { vhciTxUrb u allocOk s with lock := .free }
  | dequeue {u : UrbId} {p : VhciPriv} (hl : s.unlocked) (hp : s.hcpriv u = some p)
      (hu : s.unlinked u = false) :
      Effect s (.dequeue u)
        { s with unlinked := Function.update s.unlinked u true, lock := .dequeue u p }
  | dequeueFinish {u : UrbId} {p : VhciPriv} {allocOk : Bool} {stale : BitVec 64}
      (hl : s.lock = .dequeue u p) :
      Effect s (.dequeueFinish allocOk stale)
        { vhciUrbDequeueFinish u p allocOk stale s with lock := .free }
  | tx {sendOk : Bool} {t : State} (h : txStep sendOk s = some t) : Effect s (.tx sendOk) t
  | retSubmit {pdu : Header} {p : VhciPriv} {t : State} (hrx : s.rx = .pdu)
      (hp : pickupUrbAndFreePriv pdu.base.seqnum s = some (p, t))
      (hcommand : pdu.base.command = retSubmit) :
      Effect s (.rxPdu pdu)
        { t.writeUrb p.urb (unpackRetSubmit pdu.u (t.urb p.urb)) with rx := .payload p }
  | retUnlink {pdu : Header} {e : VhciUnlink} {t : State} (hrx : s.rx = .pdu)
      (he : dequeuePendingUnlink pdu.base.seqnum s = some (e, t))
      (hcommand : pdu.base.command = retUnlink) :
      Effect s (.rxPdu pdu) { t with rx := .unlink e pdu.u.w₀ }
  | rxPayload {p : VhciPriv} {allocOk : Bool} {io : List Recvmsg} (hrx : s.rx = .payload p) :
      Effect s (.rxPayload allocOk io) (recvPayload p allocOk io s)
  | rxUnlink {e : VhciUnlink} {status : BitVec 32} {p : VhciPriv} {t : State}
      (hrx : s.rx = .unlink e status)
      (hp : pickupUrbAndFreePriv (e.unlinkSeqnum.setWidth 32) s = some (p, t)) :
      Effect s .rxUnlink { t.writeUrb p.urb { t.urb p.urb with status } with
        rx := .giveback p.urb (.retUnlink e p) }
  | rxGiveback {u : UrbId} {via : Via} (hrx : s.rx = .giveback u via) (hl : s.unlocked) :
      Effect s .rxGiveback { s.giveback u via with rx := .top }
  | cleanup (he : s.eh = .closed) (hl : s.lock = .free) :
      Effect s .ehCleanup { s with unlinkTx := [], eh := .cleanup }
  | cleanupSkip {e : VhciUnlink} {rest : List VhciUnlink} (he : s.eh = .cleanup)
      (hrest : s.unlinkRx = e :: rest)
      (hp : pickupUrbAndFreePriv (e.unlinkSeqnum.setWidth 32) s = none) :
      Effect s .ehCleanupNext { s with unlinkRx := rest }
  | cleanupPickup {e : VhciUnlink} {rest : List VhciUnlink} {p : VhciPriv} {t : State}
      (he : s.eh = .cleanup) (hrest : s.unlinkRx = e :: rest)
      (hp : pickupUrbAndFreePriv (e.unlinkSeqnum.setWidth 32) s = some (p, t)) :
      Effect s .ehCleanupNext { t.writeUrb p.urb { t.urb p.urb with status := -ENODEV } with
        unlinkRx := rest, eh := .giveback p.urb }
  | cleanupGiveback {u : UrbId} (he : s.eh = .giveback u) :
      Effect s .ehCleanupGiveback { s.giveback u .cleanup with eh := .relock }

/-- Starting the receiving thread would take the URB out of its hands, if it had one. -/
lemma step_effect_of_idle (hidle : ∀ devid, a = .attach devid → s.status = .null → s.rx.held = [])
    (h : step s a = some t) : Effect s a t := by
  cases a with
  | attach devid =>
      simp only [step] at h
      split at h <;> cases h
      rename_i hl
      exact .frame { Frame.refl s with rx := Or.inr ⟨hidle devid rfl hl.2, rfl⟩ }
  | eventAdd =>
      obtain rfl := Option.some.inj h
      exact .frame { Frame.refl s with }
  | otherSeqnum =>
      obtain rfl := Option.some.inj h
      exact .otherSeqnum
  | enqueue u urb linkRet =>
      simp only [step] at h
      split at h <;> cases h
      rename_i hl
      exact .enqueue hl.1 hl.2 (vhciUrbEnqueue_enqueued u urb linkRet s)
  | txUrb allocOk =>
      simp only [step] at h
      split at h <;> cases h
      rename_i hl
      exact .txUrb hl
  | dequeue u =>
      simp only [step] at h
      split at h <;> cases h
      rename_i hl
      unfold vhciUrbDequeue
      split
      · exact .frame (.refl s)
      · rename_i p hp
        split
        · exact .frame (.refl s)
        · rename_i hu
          exact .dequeue hl hp (by simpa using hu)
  | dequeueFinish allocOk stale =>
      simp only [step] at h
      split at h <;> cases h
      rename_i hl
      exact .dequeueFinish hl
  | tx sendOk => exact .tx h
  | txTop =>
      simp only [step] at h
      split at h <;> cases h
      exact .frame { Frame.refl s with }
  | rxTop =>
      simp only [step] at h
      split at h <;> cases h
      rename_i hrx
      refine .frame { Frame.refl s with rx := Or.inr ⟨by rw [hrx]; rfl, ?_⟩ }
      dsimp only
      split <;> rfl
  | rxFail addsEvent =>
      simp only [step] at h
      split at h <;> cases h
      rename_i hrx
      exact .frame { Frame.refl s with rx := Or.inr ⟨by rw [hrx]; rfl, rfl⟩ }
  | rxPdu pdu =>
      simp only [step] at h
      split at h <;> cases h
      rename_i hrx
      have hidle : s.rx.held = [] := by rw [hrx]; rfl
      unfold vhciRxPdu vhciRecvRetSubmit vhciRecvRetUnlink
      split
      · rename_i hcommand
        split
        · exact .frame { Frame.refl s with rx := Or.inr ⟨hidle, rfl⟩ }
        · rename_i hp
          exact .retSubmit hrx hp hcommand
      · split
        · rename_i hcommand
          split
          · exact .frame { Frame.refl s with rx := Or.inr ⟨hidle, rfl⟩ }
          · rename_i he
            exact .retUnlink hrx he hcommand
        · exact .frame { Frame.refl s with rx := Or.inr ⟨hidle, rfl⟩ }
  | rxPayload allocOk io =>
      simp only [step] at h
      split at h <;> cases h
      rename_i p hrx
      exact .rxPayload hrx
  | rxUnlink =>
      simp only [step] at h
      split at h <;> cases h
      rename_i e status hrx
      unfold recvUnlink
      split
      · exact .frame { Frame.refl s with rx := Or.inr ⟨by rw [hrx]; rfl, rfl⟩ }
      · rename_i hp
        exact .rxUnlink hrx hp
  | rxGiveback =>
      simp only [step] at h
      split at h
      · rename_i hrx
        split at h <;> cases h
        rename_i hl
        exact .rxGiveback hrx hl
      · cases h
  | ehShutdown =>
      simp only [step] at h
      split at h <;> cases h
      rename_i he
      exact .frame { Frame.refl s with eh := Or.inr ⟨by rw [he.1]; rfl, rfl⟩ }
  | ehClose =>
      simp only [step] at h
      split at h <;> cases h
      rename_i he
      exact .frame { Frame.refl s with eh := Or.inr ⟨by rw [he.1]; rfl, rfl⟩ }
  | ehCleanup =>
      simp only [step] at h
      split at h <;> cases h
      rename_i he
      exact .cleanup he.1 he.2
  | ehCleanupNext =>
      simp only [step] at h
      split at h <;> cases h
      rename_i he
      unfold cleanupNext
      split
      · exact .frame { Frame.refl s with eh := Or.inr ⟨by rw [he]; rfl, rfl⟩ }
      · rename_i hrest
        split
        · rename_i hp
          exact .cleanupSkip he hrest hp
        · rename_i hp
          exact .cleanupPickup he hrest hp
  | ehCleanupGiveback =>
      simp only [step] at h
      split at h <;> cases h
      rename_i he
      exact .cleanupGiveback he
  | ehCleanupRelock =>
      simp only [step] at h
      split at h <;> cases h
      rename_i he
      exact .frame { Frame.refl s with eh := Or.inr ⟨by rw [he.1]; rfl, rfl⟩ }
  | ehReset | ehUnusable | ehFinish =>
      simp only [step] at h
      split at h <;> cases h
      rename_i he
      exact .frame { Frame.refl s with eh := Or.inr ⟨by rw [he]; rfl, rfl⟩ }

/-- What each step does to the records. -/
lemma step_effect (hc : Control s) (h : step s a = some t) : Effect s a t := by
  refine step_effect_of_idle (fun _ _ hnull => ?_) h
  rw [(hc.attached hnull).1]
  rfl

/-- Entries are put on the lists by `vhci_tx_urb` only. -/
lemma privs_of_effect (he : Effect s a t) : ∀ p ∈ t.privs,
    p ∈ s.privs ∨ (∃ allocOk, a = .txUrb allocOk) ∧ p.seqnum = s.nextSeqnum := by
  have hpicked : ∀ {n : BitVec 32} {p : VhciPriv} {s' : State},
      pickupUrbAndFreePriv n s = some (p, s') → ∀ q ∈ s'.privs, q ∈ s.privs := fun hp q hq =>
    (perm_privs_of_pickup hp).symm.subset (List.mem_cons_of_mem _ hq)
  cases he with
  | frame hf =>
      intro p hp
      rw [State.privs, hf.privTx, hf.privRx] at hp
      exact Or.inl hp
  | otherSeqnum | dequeue | rxGiveback | cleanup | cleanupSkip | cleanupGiveback =>
      exact fun p hp => Or.inl hp
  | enqueue _ _ henq => cases henq <;> exact fun p hp => Or.inl hp
  | txUrb =>
      unfold vhciTxUrb
      split
      · exact fun p hp => Or.inl hp
      · split
        · exact fun p hp => Or.inl hp
        · intro p hp
          simp only [State.privs, State.incSeqnum, List.mem_append, List.mem_singleton] at hp ⊢
          obtain (hp | rfl) | hp := hp
          · exact Or.inl (Or.inl hp)
          · exact Or.inr ⟨⟨_, rfl⟩, rfl⟩
          · exact Or.inl (Or.inr hp)
  | dequeueFinish =>
      unfold vhciUrbDequeueFinish
      split
      · exact fun p hp => Or.inl ((List.erase_sublist.append List.erase_sublist).subset hp)
      · split <;> exact fun p hp => Or.inl hp
  | tx hst => exact fun p hp => Or.inl ((txStep_frame hst).2.1.subset hp)
  | retSubmit _ hp =>
      have hprivs := hpicked hp
      obtain ⟨-, rfl⟩ := pickup_eq_some hp
      exact fun q hq => Or.inl (hprivs q hq)
  | retUnlink _ hd =>
      obtain ⟨-, rfl⟩ := dequeuePendingUnlink_eq_some hd
      exact fun p hp => Or.inl hp
  | rxPayload hrx =>
      obtain ⟨urb, event, hr | hr⟩ := recvPayload_cases _ _ _ s
      all_goals
        rw [hr]
        exact fun p hp => Or.inl hp
  | rxUnlink _ hp | cleanupPickup _ _ hp =>
      have hprivs := hpicked hp
      obtain ⟨-, rfl⟩ := pickup_eq_some hp
      exact fun q hq => Or.inl (hprivs q hq)

end Usbip.Vhci
