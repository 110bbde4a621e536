import Usbip.Vhci.Numbers

/-!
# The URBs in the custody of the vhci

A URB that was accepted is on `priv_tx` or `priv_rx` through its `vhci_priv`, or in the hands of a
context, or lost.  `State.places` lists them all, and the port is an instance of the custody
library: `Owned` says that the URBs in these places are those accepted and not given back, each in
one place, and that `urb->hcpriv` points to the entry of the URB.

Five paths end the custody of a URB.  Each first takes its entry off the lists, under `priv_lock`,
so that no other path finds it.
-/

namespace Usbip.Vhci

open Usbip.Core Usbip.Common

variable {s t : State} {a : Action} {c : BitVec 32}

/-- Where the URBs are that were accepted and not given back. -/
def State.places (s : State) : List UrbId :=
  s.privs.map VhciPriv.urb ++ (s.lock.held ++ (s.rx.held ++ (s.eh.held ++ s.lost)))

/-- The URBs accepted and not given back are in their places, and those on the lists have a
pointer to their entry.  While `vhci_urb_dequeue` is under way the entry it has read may be freed,
but the URB is not given back. -/
structure Owned (s : State) : Prop where
  sound : Custody.Sound s.places s.log
  linked : Linked VhciPriv.urb s.hcpriv s.privs
  dequeuing : ∀ u p, s.lock = .dequeue u p → p.urb = u ∧
    (s.hcpriv u = some p ∨ s.hcpriv u = none ∧ u ∈ s.rx.held ++ s.lost)

/-- Nothing is owned at the start. -/
lemma owned_start (c : BitVec 32) : Owned { seqnum := c } :=
  ⟨Custody.sound_empty, Linked.empty, fun _ _ h => (by cases h)⟩

/-- Only the places of a record matter. -/
lemma Owned.congr (h : Owned s) (hprivTx : t.privTx = s.privTx) (hprivRx : t.privRx = s.privRx)
    (hhcpriv : t.hcpriv = s.hcpriv) (hlost : t.lost = s.lost) (hlog : t.log = s.log)
    (hlock : t.lock = s.lock) (hrx : t.rx.held = s.rx.held) (heh : t.eh.held = s.eh.held) :
    Owned t := by
  have hprivs : t.privs = s.privs := by
    unfold State.privs
    rw [hprivTx, hprivRx]
  have hplaces : t.places = s.places := by
    unfold State.places
    rw [hprivs, hlock, hrx, heh, hlost]
  refine ⟨?_, ?_, ?_⟩
  · rw [hplaces, hlog]
    exact h.sound
  · rw [hprivs, hhcpriv]
    exact h.linked
  · rw [hlock, hhcpriv, hrx, hlost]
    exact h.dequeuing

/-- `vhci_urb_enqueue` accepts a new URB. -/
theorem Owned.enqueue {u : UrbId} {urb : Urb} (h : Owned s) (hl : s.unlocked)
    (hu : ¬ Custody.Held s.log u) (he : Enqueued u urb s t) : Owned t := by
  have hu : u ∉ s.places := fun hmem => hu (h.sound.held_iff.mpr hmem)
  cases he with
  | refused => exact ⟨h.sound, h.linked, h.dequeuing⟩
  | locally =>
      exact ⟨(h.sound.accept hu).return (.refl _) _, h.linked, h.dequeuing⟩
  | sent =>
      refine ⟨(h.sound.accept hu).perm ?_, h.linked, fun _ _ h => (by cases h)⟩
      simp only [State.places, hl.1, Lock.held, List.nil_append, List.singleton_append]
      exact List.perm_middle.symm

/-- `vhci_tx_urb` gives the URB its record. -/
theorem Owned.txUrb {u : UrbId} {allocOk : Bool} (h : Owned s) (hl : s.lock = .enqueue u) :
    Owned { vhciTxUrb u allocOk s with lock := .free } := by
  have hlost : ∀ event, Owned { s with lost := s.lost ++ [u], event, lock := .free } := by
    intro event
    refine ⟨h.sound.perm ?_, h.linked, fun _ _ h => (by cases h)⟩
    rw [List.perm_iff_count]
    intro v
    simp only [State.places, State.privs, hl, Lock.held, List.count_append, List.count_nil]
    omega
  unfold vhciTxUrb
  split
  · exact hlost _
  · split
    · exact hlost _
    · have hu : u ∉ s.privs.map VhciPriv.urb := by
        have hnodup := h.sound.nodup
        unfold State.places at hnodup
        rw [hl] at hnodup
        intro hmem
        exact (List.nodup_append.mp hnodup).2.2 u hmem u (by simp [Lock.held]) rfl
      refine ⟨h.sound.perm ?_, (h.linked.insert (p := ⟨s.issued, s.nextSeqnum, u⟩) hu).perm ?_,
        fun _ _ h => (by cases h)⟩
      · rw [List.perm_iff_count]
        intro v
        simp only [State.places, State.privs, hl, Lock.held, List.count_append, List.count_nil,
          List.map_append, List.map_cons, List.map_nil, State.incSeqnum]
        omega
      · simp only [State.privs, State.incSeqnum, List.append_assoc, List.singleton_append]
        exact List.perm_middle.symm

/-- `vhci_urb_dequeue` takes the lock. -/
theorem Owned.dequeue {u : UrbId} {p : VhciPriv} (h : Owned s) (hl : s.unlocked)
    (hp : s.hcpriv u = some p) {unlinked : UrbId → Bool} :
    Owned { s with unlinked, lock := .dequeue u p } := by
  refine ⟨h.sound.perm ?_, h.linked, ?_⟩
  · simp only [State.places, hl.1, Lock.held]
    exact .refl _
  · rintro v q ⟨⟩
    exact ⟨((h.linked.ptr_iff u p).mp hp).2, Or.inl hp⟩

/-- `vhci_urb_dequeue` gives the URB back or queues its unlink. -/
theorem Owned.dequeueFinish {u : UrbId} {p : VhciPriv} {allocOk : Bool} {stale : BitVec 64}
    (h : Owned s) (hc : Control s) (hl : s.lock = .dequeue u p) :
    Owned { vhciUrbDequeueFinish u p allocOk stale s with lock := .free } := by
  unfold vhciUrbDequeueFinish
  split
  · rename_i hs
    have hrx : s.rx.held = [] := by
      rw [(hc.stopped hs).1]
      rfl
    obtain ⟨rfl, hp | ⟨hnone, hlost⟩⟩ := h.dequeuing u p hl
    · -- the entry is on a list
      have hmem : p ∈ s.privTx ++ s.privRx := ((h.linked.ptr_iff _ _).mp hp).1
      have hperm := perm_cons_erase_erase h.linked.nodup.of_map hmem
      have hnot : p.urb ∉ s.lost := by
        have hnodup := h.sound.nodup
        unfold State.places at hnodup
        intro hlost
        exact (List.nodup_append.mp hnodup).2.2 _ (List.mem_map_of_mem hmem) _ (by simp [hlost]) rfl
      refine ⟨h.sound.return ?_ _, h.linked.remove hperm, fun _ _ h => (by cases h)⟩
      simp only [State.places, State.privs, State.giveback, hl, Lock.held,
        List.erase_of_not_mem hnot]
      exact (hperm.map _).append_right _
    · -- the entry was freed after it was read, and its URB dropped
      rw [hrx, List.nil_append] at hlost
      have hnot : p ∉ s.privTx ++ s.privRx := fun hmem => by
        rw [h.linked.ptr_of_mem hmem] at hnone
        cases hnone
      rw [List.mem_append, not_or] at hnot
      refine ⟨h.sound.return ?_ _, ?_, fun _ _ h => (by cases h)⟩
      · have hcons := List.perm_cons_erase hlost
        rw [List.perm_iff_count]
        intro v
        have hv := hcons.count_eq v
        simp only [State.places, State.privs, State.giveback, hl, Lock.held, List.count_append,
          List.erase_of_not_mem hnot.1, List.erase_of_not_mem hnot.2, List.count_cons] at hv ⊢
        omega
      · rw [show Function.update s.hcpriv p.urb none = s.hcpriv by
          rw [← hnone, Function.update_eq_self]]
        simp only [State.privs, State.giveback, List.erase_of_not_mem hnot.1,
          List.erase_of_not_mem hnot.2]
        exact h.linked
  · have hsound := h.sound
    have hsame : s.places = (s.privs.map VhciPriv.urb ++
        (Lock.free.held ++ (s.rx.held ++ (s.eh.held ++ s.lost)))) := by
      simp only [State.places, hl, Lock.held]
    rw [hsame] at hsound
    split
    · exact ⟨hsound, h.linked, fun _ _ h => (by cases h)⟩
    · exact ⟨hsound, h.linked, fun _ _ h => (by cases h)⟩

/-- The transmit thread moves its records. -/
theorem Owned.tx {sendOk : Bool} (h : Owned s) (hst : txStep sendOk s = some t) : Owned t := by
  obtain ⟨ht, hprivs, -⟩ := txStep_frame hst
  have hrest : t.lock = s.lock ∧ t.rx = s.rx ∧ t.eh = s.eh ∧ t.lost = s.lost ∧ t.log = s.log ∧
      t.hcpriv = s.hcpriv := by
    rw [ht]
    exact ⟨rfl, rfl, rfl, rfl, rfl, rfl⟩
  obtain ⟨hlock, hrx, heh, hlost, hlog, hcpriv⟩ := hrest
  refine ⟨?_, ?_, ?_⟩
  · rw [hlog]
    refine h.sound.perm ?_
    unfold State.places
    rw [hlock, hrx, heh, hlost]
    exact (hprivs.symm.map _).append_right _
  · rw [hcpriv]
    exact h.linked.perm hprivs.symm
  · rw [hlock, hcpriv, hrx, hlost]
    exact h.dequeuing

/-- A receiving thread that holds nothing picks an entry up. -/
theorem Owned.pickup {n : BitVec 32} {p : VhciPriv} {s' : State} {pc : RxPc}
    (h : Owned s) (hp : pickupUrbAndFreePriv n s = some (p, s')) (hrx : s.rx.held = [])
    (hpc : pc.held = [p.urb]) {urb : UrbId → Urb} : Owned { s' with urb, rx := pc } := by
  have hperm := perm_privs_of_pickup hp
  obtain ⟨-, rfl⟩ := pickup_eq_some hp
  refine ⟨h.sound.perm ?_, h.linked.remove hperm, ?_⟩
  · have hmap := hperm.map VhciPriv.urb
    rw [List.perm_iff_count]
    intro v
    have hv := hmap.count_eq v
    simp only [State.places, State.privs, hrx, hpc, List.map_cons, List.count_cons,
      List.count_append, List.count_nil] at hv ⊢
    omega
  · intro u q hl
    obtain ⟨hown, hq | ⟨-, hlost⟩⟩ := h.dequeuing u q hl
    · refine ⟨hown, ?_⟩
      by_cases hu : u = p.urb
      · subst hu
        exact Or.inr ⟨Function.update_self .., by simp [hpc]⟩
      · left
        show Function.update s.hcpriv p.urb none u = some q
        rw [Function.update_of_ne hu, hq]
    · rw [hrx, List.nil_append] at hlost
      refine ⟨hown, Or.inr ⟨?_, by simp [hlost]⟩⟩
      -- a URB that was dropped has no entry
      have hnot : u ∉ s.privs.map VhciPriv.urb := by
        have hnodup := h.sound.nodup
        unfold State.places at hnodup
        intro hmem
        exact (List.nodup_append.mp hnodup).2.2 u hmem u (by simp [hlost]) rfl
      have hne : u ≠ p.urb := by
        rintro rfl
        exact hnot ((hperm.map _).mem_iff.mpr List.mem_cons_self)
      show Function.update s.hcpriv p.urb none u = none
      rw [Function.update_of_ne hne, h.linked.ptr_eq_none_iff]
      exact hnot

/-- A payload turns the record into a giveback. -/
theorem Owned.payload {p : VhciPriv} {allocOk : Bool} {io : List Recvmsg} (h : Owned s)
    (hrx : s.rx = .payload p) : Owned (recvPayload p allocOk io s) := by
  obtain ⟨urb, event, heq | heq⟩ := recvPayload_cases p allocOk io s
  · rw [heq]
    refine ⟨h.sound.perm ?_, h.linked, ?_⟩
    · simp only [State.places, hrx, RxPc.held]
      exact .refl _
    · have hdeq := h.dequeuing
      rw [hrx] at hdeq
      exact hdeq
  · rw [heq]
    refine ⟨h.sound.perm ?_, h.linked, ?_⟩
    · rw [List.perm_iff_count]
      intro v
      simp only [State.places, State.privs, hrx, RxPc.held, List.count_append, List.count_nil]
      omega
    · intro u q hl
      obtain ⟨hown, hq | ⟨hnone, hmem⟩⟩ := h.dequeuing u q hl
      · exact ⟨hown, Or.inl hq⟩
      · rw [hrx] at hmem
        refine ⟨hown, Or.inr ⟨hnone, ?_⟩⟩
        simp only [RxPc.held, List.mem_append, List.mem_singleton, List.nil_append] at hmem ⊢
        exact hmem.symm

/-- The receive thread gives its URB back. -/
theorem Owned.rxGiveback {u : UrbId} {via : Via} (h : Owned s) (hrx : s.rx = .giveback u via)
    (hl : s.unlocked) : Owned { s.giveback u via with rx := .top } := by
  refine ⟨h.sound.return ?_ _, h.linked, fun v q hv => absurd (hl.1.symm.trans hv) (by simp)⟩
  rw [List.perm_iff_count]
  intro v
  simp only [State.places, State.privs, State.giveback, hrx, RxPc.held, List.count_append,
    List.count_cons, List.count_nil]
  omega

/-- The event handler picks an entry up. -/
theorem Owned.cleanupPickup {n : BitVec 32} {p : VhciPriv} {s' : State} (h : Owned s)
    (hc : Control s) (he : s.eh = .cleanup) (hp : pickupUrbAndFreePriv n s = some (p, s'))
    (urb : UrbId → Urb) (unlinkRx : List VhciUnlink) :
    Owned { s' with urb, unlinkRx, eh := .giveback p.urb } := by
  have hperm := perm_privs_of_pickup hp
  obtain ⟨-, rfl⟩ := pickup_eq_some hp
  refine ⟨h.sound.perm ?_, h.linked.remove hperm,
    fun v q hv => absurd ((hc.cleanup he).symm.trans hv) (by simp)⟩
  have hmap := hperm.map VhciPriv.urb
  rw [List.perm_iff_count]
  intro v
  have hv := hmap.count_eq v
  simp only [State.places, State.privs, he, EhPc.held, List.map_cons, List.count_cons,
    List.count_append, List.count_nil] at hv ⊢
  omega

/-- The cleanup gives its URB back. -/
theorem Owned.cleanupGiveback {u : UrbId} (h : Owned s) (he : s.eh = .giveback u) :
    Owned { s.giveback u .cleanup with eh := .relock } := by
  refine ⟨h.sound.return ?_ _, h.linked, h.dequeuing⟩
  rw [List.perm_iff_count]
  intro v
  simp only [State.places, State.privs, State.giveback, he, EhPc.held, List.count_append,
    List.count_cons, List.count_nil]
  omega

/-- Every step keeps the ownership. -/
theorem Owned.step (h : Owned s) (hc : Control s) (he : Effect s a t) : Owned t := by
  cases he with
  | frame hf =>
      exact h.congr hf.privTx hf.privRx hf.hcpriv hf.lost hf.log hf.lock hf.rx_held hf.eh_held
  | otherSeqnum => exact ⟨h.sound, h.linked, h.dequeuing⟩
  | enqueue hl hu henq => exact h.enqueue hl hu henq
  | txUrb hl => exact h.txUrb hl
  | dequeue hl hp => exact h.dequeue hl hp
  | dequeueFinish hl => exact h.dequeueFinish hc hl
  | tx hst => exact h.tx hst
  | retSubmit hrx hp => exact h.pickup hp (by rw [hrx]; rfl) rfl
  | retUnlink hrx he =>
      obtain ⟨-, rfl⟩ := dequeuePendingUnlink_eq_some he
      exact h.congr rfl rfl rfl rfl rfl rfl (by rw [hrx]; rfl) rfl
  | rxPayload hrx => exact h.payload hrx
  | rxUnlink hrx hp => exact h.pickup hp (by rw [hrx]; rfl) rfl
  | rxGiveback hrx hl => exact h.rxGiveback hrx hl
  | cleanup he => exact h.congr rfl rfl rfl rfl rfl rfl rfl (by rw [he]; rfl)
  | cleanupSkip => exact ⟨h.sound, h.linked, h.dequeuing⟩
  | cleanupPickup he _ hp =>
      have hpicked := h.cleanupPickup hc he hp
      exact hpicked _ _
  | cleanupGiveback he => exact h.cleanupGiveback he

/-! ## At most one giveback -/

/-- What holds of every state of a port. -/
structure Inv (c : BitVec 32) (s : State) : Prop where
  control : Control s
  owned : Owned s
  numbered : Numbered c s

/-- The invariant holds at the start. -/
lemma inv_start (c : BitVec 32) : Inv c { seqnum := c } :=
  ⟨control_start c, owned_start c, numbered_start c⟩

/-- Every step keeps the invariant. -/
theorem Inv.step (h : Inv c s) (hok : StopsFirst s a) (hst : Vhci.step s a = some t) : Inv c t := by
  have he := step_effect h.control hst
  exact ⟨h.control.step hok hst, h.owned.step h.control he,
    h.numbered.step (numbering_of_effect he)⟩

/-- The invariant holds of every state reached with the threads stopped first. -/
theorem inv_of_reach {ok : State → Action → Prop} (hok : ∀ s a, ok s a → StopsFirst s a)
    (h : (machine c).Reach ok t) : Inv c t := by
  refine h.invariant (I := Inv c) ?_ fun s a t hi ha hst => hi.step (hok s a ha) hst
  rintro s rfl
  exact inv_start c

/-- In every state of a port: the seqnums of the entries on `priv_tx` and `priv_rx` differ, a URB
has at most one entry there, `urb->hcpriv` is its entry and NULL without one, and up to any
moment the URB has been given back at most as often as it was accepted. -/
theorem one_giveback (h : (machine c).Reach StopsFirst t) (hissued : t.issued < 2 ^ 31) :
    (t.privs.map VhciPriv.seqnum).Nodup ∧ (t.privs.map VhciPriv.urb).Nodup ∧
      (∀ u p, t.hcpriv u = some p ↔ p ∈ t.privs ∧ p.urb = u) ∧
      (∀ u, t.hcpriv u = none ↔ u ∉ t.privs.map VhciPriv.urb) ∧
      ∀ pre post, t.log = pre ++ post → ∀ u,
        pre.countP (Custody.returns u) ≤ pre.countP (Custody.accepts u) ∧
          pre.countP (Custody.accepts u) ≤ pre.countP (Custody.returns u) + 1 := by
  have hi := inv_of_reach (fun _ _ h => h) h
  refine ⟨hi.numbered.privs_seqnum_nodup (by omega), hi.owned.linked.nodup,
    hi.owned.linked.ptr_iff, fun u => hi.owned.linked.ptr_eq_none_iff, fun pre post hlog u => ?_⟩
  have hbalanced := hi.owned.sound.balanced
  rw [hlog] at hbalanced
  exact Custody.Balanced.returns_le (Justified.of_append hbalanced) u

/-- The first request to a device, which makes it the device of its port. -/
def getDescriptorUrb : Urb where
  pipe := ⟨.control, true, 0, 0⟩
  status := -EINPROGRESS
  setupPacket := some [0x80, 6, 0, 1, 0, 0, 18, 0]

def bulkInUrb : Urb where
  pipe := ⟨.bulk, true, 1, 1⟩
  status := -EINPROGRESS

/-- URB 0 completes normally, and URB 1 is dequeued and ends in `vhci_device_unlink_cleanup`; then
URB 0 is enqueued again and dequeued without a connection. -/
def shutdownRun : List Action :=
  [.attach 1,
   .enqueue 0 getDescriptorUrb 0, .txUrb true, .enqueue 1 bulkInUrb 0, .txUrb true,
   .txTop, .tx true, .tx true, .tx true, .tx true, .tx true,
   .dequeue 1, .dequeueFinish true 0,
   .rxTop, .rxPdu { base := { command := retSubmit, seqnum := 1 } }, .rxPayload true [], .rxGiveback,
   .tx true, .tx true, .tx true, .eventAdd, .rxTop, .ehShutdown, .txTop, .ehClose, .ehCleanup,
   .ehCleanupNext, .ehCleanupGiveback, .ehCleanupRelock, .ehCleanupNext,
   .enqueue 0 bulkInUrb 0, .txUrb true, .dequeue 0, .dequeueFinish true 0]

/-- A session that is shut down with URBs in several places. -/
theorem one_giveback_shutdownRun :
    ∃ t, (machine 0).Reach StopsFirst t ∧
      t.log.countP (Custody.returns 0) = 2 ∧ t.log.countP (Custody.accepts 0) = 2 ∧
      t.log.countP (Custody.returns 1) = 1 ∧ (t.privs.map VhciPriv.seqnum).Nodup := by
  have hrun : ∃ t, (machine 0).Reach StopsFirst t ∧
      (t.log.countP (Custody.returns 0) = 2 ∧ t.log.countP (Custody.accepts 0) = 2 ∧
        t.log.countP (Custody.returns 1) = 1 ∧ t.issued < 2 ^ 31) := by
    apply Machine.Reach.of_perform shutdownRun (s := { seqnum := 0 }) rfl
    exact ⟨_, rfl, by decide⟩
  obtain ⟨t, ht, h₀, h₀', h₁, hissued⟩ := hrun
  exact ⟨t, ht, h₀, h₀', h₁, (one_giveback ht hissued).1⟩

end Usbip.Vhci
