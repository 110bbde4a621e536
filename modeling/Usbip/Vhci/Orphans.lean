import Usbip.Vhci.Custody

/-!
# URBs that nobody holds

Two functions return after they have accepted a URB or taken it off its list, without finishing
it: `vhci_tx_urb`, when the device of the URB is not the one of the port any more (or memory is
short), and `vhci_recv_ret_submit`, when the payload of its RET_SUBMIT is not what it announces.
These URBs are in no place but `State.lost`.  In the runs in which this does not happen every URB
accepted and not given back has its entry or its context (`no_orphan`); `unfinished_urb` is a run
in which it happens.
-/

namespace Usbip.Vhci

open Usbip.Core Usbip.Common

variable {s t : State} {a : Action} {c : BitVec 32}

/-- The allocations of the driver succeed. -/
def AllocsSucceed : Action → Prop
  | .txUrb allocOk | .dequeueFinish allocOk _ | .rxPayload allocOk _ => allocOk = true
  | _ => True

instance (a : Action) : Decidable (AllocsSucceed a) :=
  match a with
  | .txUrb allocOk | .dequeueFinish allocOk _ | .rxPayload allocOk _ =>
      inferInstanceAs (Decidable (allocOk = true))
  | .attach _ | .eventAdd | .otherSeqnum | .enqueue _ _ _ | .dequeue _ | .txTop | .tx _ | .rxTop
  | .rxPdu _ | .rxFail _ | .rxUnlink | .rxGiveback | .ehShutdown | .ehClose | .ehCleanup
  | .ehCleanupNext | .ehCleanupGiveback | .ehCleanupRelock | .ehReset | .ehUnusable | .ehFinish =>
      isTrue trivial

/-- The entry whose payload is being received. -/
def RxPc.receiving : RxPc → List VhciPriv
  | .payload p => [p]
  | .top | .pdu | .unlink _ _ | .giveback _ _ | .stopped => []

/-- The port has the device of the URB when `vhci_tx_urb` looks for it, and the payload of a
RET_SUBMIT is complete. -/
def Finishes (s : State) : Action → Prop
  | .txUrb _ => ∀ u ∈ s.lock.held, s.udev = some (s.urb u).dev
  | .rxPayload _ io => ∀ p ∈ s.rx.receiving, PayloadComplete io (s.urb p.urb)
  | _ => True

instance (s : State) (a : Action) : Decidable (Finishes s a) :=
  match a with
  | .txUrb _ => inferInstanceAs (Decidable (∀ u ∈ s.lock.held, s.udev = some (s.urb u).dev))
  | .rxPayload _ io =>
      inferInstanceAs (Decidable (∀ p ∈ s.rx.receiving, PayloadComplete io (s.urb p.urb)))
  | .attach _ | .eventAdd | .otherSeqnum | .enqueue _ _ _ | .dequeue _ | .dequeueFinish _ _
  | .txTop | .tx _ | .rxTop | .rxPdu _ | .rxFail _ | .rxUnlink | .rxGiveback | .ehShutdown
  | .ehClose | .ehCleanup | .ehCleanupNext | .ehCleanupGiveback | .ehCleanupRelock | .ehReset
  | .ehUnusable | .ehFinish => isTrue trivial

/-- Every URB accepted and not given back has an entry on `priv_tx` or `priv_rx`, or is in the
hands of `vhci_urb_enqueue`, of the receiving thread or of the event handler. -/
def NoOrphan (s : State) : Prop :=
  ∀ u, Custody.Held s.log u →
    u ∈ s.privs.map VhciPriv.urb ∨ s.lock = .enqueue u ∨ u ∈ s.rx.held ∨ s.eh = .giveback u

/-- The lock holds the URB that is being enqueued. -/
lemma Lock.mem_held {l : Lock} {u : UrbId} : u ∈ l.held ↔ l = .enqueue u := by
  cases l with
  | free => simp [held]
  | enqueue v => simp [held, eq_comm]
  | dequeue v p => simp [held]

/-- The cleanup holds the URB that it gives back. -/
lemma EhPc.mem_held {pc : EhPc} {u : UrbId} : u ∈ pc.held ↔ pc = .giveback u := by
  cases pc with
  | giveback v => simp [held, eq_comm]
  | idle | stopping | closed | cleanup | relock | done => simp [held]

/-- Where nothing is lost there is no orphan. -/
lemma Owned.noOrphan (h : Owned s) (hlost : s.lost = []) : NoOrphan s := by
  intro u hu
  have hmem := h.sound.held_iff.mp hu
  simp only [State.places, hlost, List.append_nil, List.mem_append, Lock.mem_held,
    EhPc.mem_held] at hmem
  exact hmem

/-- A complete payload leads to a giveback, and any other drops the URB. -/
theorem recvPayload_lost (p : VhciPriv) (io : List Recvmsg) (s : State) :
    (PayloadComplete io (s.urb p.urb) → (recvPayload p true io s).lost = s.lost ∧
      (recvPayload p true io s).rx = .giveback p.urb (.retSubmit p)) ∧
    (¬ PayloadComplete io (s.urb p.urb) → (recvPayload p true io s).lost = s.lost ++ [p.urb] ∧
      (recvPayload p true io s).rx = .top) := by
  rw [payloadComplete_iff]
  unfold recvPayload
  dsimp only [State.writeUrb]
  refine ⟨fun ⟨h₁, h₂⟩ => ?_, fun h => ?_⟩
  · rw [if_neg (Int.not_lt.mpr h₁), if_neg (Int.not_lt.mpr h₂)]
    exact ⟨rfl, rfl⟩
  · split
    · exact ⟨rfl, rfl⟩
    · rename_i h₁
      rw [if_pos]
      · exact ⟨rfl, rfl⟩
      · by_contra h₂
        exact h ⟨Int.not_lt.mp h₁, Int.not_lt.mp h₂⟩

/-- No step but the two drops a URB. -/
lemma lost_of_step (hlost : s.lost = []) (ha : AllocsSucceed a)
    (hf : Finishes s a) (he : Effect s a t) : t.lost = [] := by
  cases he with
  | frame h => rw [h.lost, hlost]
  | otherSeqnum | dequeue | cleanup | cleanupSkip | cleanupGiveback | rxGiveback => exact hlost
  | enqueue _ _ h => cases h <;> exact hlost
  | @txUrb u allocOk hl =>
      have hudev : s.udev = some (s.urb u).dev := hf u (Lock.mem_held.mpr hl)
      obtain rfl : allocOk = true := ha
      unfold vhciTxUrb
      rw [if_neg (by simp [hudev]), if_neg (by simp)]
      exact hlost
  | dequeueFinish =>
      unfold vhciUrbDequeueFinish
      split
      · show s.lost.erase _ = []
        rw [hlost]
        rfl
      · split <;> exact hlost
  | tx h =>
      rw [(txStep_frame h).1]
      exact hlost
  | retUnlink _ he =>
      obtain ⟨-, rfl⟩ := dequeuePendingUnlink_eq_some he
      exact hlost
  | retSubmit _ hp | rxUnlink _ hp | cleanupPickup _ _ hp =>
      obtain ⟨-, rfl⟩ := pickup_eq_some hp
      exact hlost
  | @rxPayload p allocOk io hrx =>
      obtain rfl : allocOk = true := ha
      rw [((recvPayload_lost p io s).1 (hf p (by rw [hrx]; exact List.mem_singleton_self p))).1, hlost]

/-- In every run in which `vhci_tx_urb` finds the device of the URB and every RET_SUBMIT is followed
by a complete payload, no URB is orphaned. -/
theorem no_orphan
    (h : (machine c).Reach (fun s a => StopsFirst s a ∧ AllocsSucceed a ∧ Finishes s a) t) :
    NoOrphan t := by
  have hinv : Inv c t ∧ t.lost = [] := by
    refine h.invariant (I := fun s => Inv c s ∧ s.lost = []) ?_ ?_
    · rintro s rfl
      exact ⟨inv_start c, rfl⟩
    · rintro s a t ⟨hi, hlost⟩ ⟨hstops, halloc, hfin⟩ hst
      exact ⟨hi.step hstops hst,
        lost_of_step hlost halloc hfin (step_effect hi.control hst)⟩
  exact hinv.1.owned.noOrphan hinv.2

/-- URB 1 asks for eight bytes; `reply` is the header of its RET_SUBMIT, `data` what follows it. -/
def replyRun (reply : Header) (data : List Recvmsg) : List Action :=
  [.attach 1, .enqueue 0 getDescriptorUrb 0, .txUrb true,
   .enqueue 1 { bulkInUrb with transferBufferLength := 8 } 0, .txUrb true,
   .txTop, .tx true, .tx true, .tx true, .tx true,
   .rxTop, .rxPdu reply, .rxPayload true data]

def eightBytesReply : Header :=
  { base := { command := retSubmit, seqnum := 2 }, u := { w₁ := 8 } }

/-- A URB whose reply is being given back. -/
theorem no_orphan_replyRun :
    ∃ t, (machine 0).Reach (fun s a => StopsFirst s a ∧ AllocsSucceed a ∧ Finishes s a) t ∧
      t.rx = .giveback 1 (.retSubmit ⟨1, 2, 1⟩) ∧ NoOrphan t := by
  have hrun : ∃ t, (machine 0).Reach (fun s a => StopsFirst s a ∧ AllocsSucceed a ∧ Finishes s a) t ∧
      t.rx = .giveback 1 (.retSubmit ⟨1, 2, 1⟩) := by
    apply Machine.Reach.of_perform
      (replyRun eightBytesReply [.bytes [1, 2, 3], .bytes [4, 5, 6, 7, 8]]) (s := { seqnum := 0 }) rfl
    exact ⟨_, rfl, by decide⟩
  obtain ⟨t, ht, hrx⟩ := hrun
  exact ⟨t, ht, hrx, no_orphan ht⟩

/-- The connection is closed after three of the eight bytes: URB 1 is accepted and not given back,
and has neither an entry nor a context. -/
theorem unfinished_urb :
    ∃ t, (machine 0).Reach (fun s a => StopsFirst s a ∧ AllocsSucceed a) t ∧ ¬ NoOrphan t := by
  apply Machine.Reach.of_perform (replyRun eightBytesReply [.bytes [1, 2, 3], .fail 0])
    (s := { seqnum := 0 }) rfl
  refine ⟨_, rfl, fun h => ?_⟩
  obtain h | h | h | h := h 1 (by decide)
  · exact absurd h (by decide)
  · exact absurd h (by decide)
  · exact absurd h (by decide)
  · exact absurd h (by decide)

end Usbip.Vhci
