import Usbip.Vhci.Custody

/-!
# The unlinks that a shutdown finds

When a connection is shut down, `vhci_device_unlink_cleanup` is to give back the URBs whose unlink
was not answered.  It drops the entries of `unlink_tx`, and for an entry of `unlink_rx` it looks on
`priv_rx` only.  `cleanup_gives_back` says which URBs it gives back: those whose entry is on
`priv_rx` while an unlink of theirs is on `unlink_rx`.  The other contexts may come between whenever
the lock is free.
-/

namespace Usbip.Vhci

open Usbip.Core Usbip.Common

variable {s t : State} {a : Action} {c : BitVec 32} {u : UrbId}

/-! ## URBs that are being unlinked -/

/-- A URB whose unlink was queued cannot be dequeued again. -/
structure Marked (s : State) : Prop where
  dequeued : ∀ u, s.dequeued u = true → s.unlinked u = true ∧ ∀ p, s.lock ≠ .dequeue u p
  dequeuing : ∀ u p, s.lock = .dequeue u p → s.unlinked u = true

/-- No unlink has been queued at the start. -/
lemma marked_start (c : BitVec 32) : Marked { seqnum := c } :=
  ⟨fun _ h => (by cases h), fun _ _ h => (by cases h)⟩

/-- Only the marks, the dequeued URBs and the lock matter. -/
lemma Marked.congr (h : Marked s) (hunl : t.unlinked = s.unlinked) (hdeq : t.dequeued = s.dequeued)
    (hlock : ∀ u p, t.lock = .dequeue u p → s.lock = .dequeue u p) : Marked t := by
  refine ⟨fun u hu => ?_, fun u p hl => ?_⟩
  · obtain ⟨hun, hnot⟩ := h.dequeued u (hdeq ▸ hu)
    exact ⟨hunl ▸ hun, fun p hl => hnot p (hlock u p hl)⟩
  · rw [hunl]
    exact h.dequeuing u p (hlock u p hl)

/-- A URB that is handed over again is not unlinked any more. -/
lemma Marked.reset (h : Marked s)
    (hunl : t.unlinked = Function.update s.unlinked u false)
    (hdeq : t.dequeued = Function.update s.dequeued u false)
    (hlock : ∀ v p, t.lock ≠ .dequeue v p) : Marked t := by
  refine ⟨fun v hv => ⟨?_, hlock v⟩, fun v p hv => absurd hv (hlock v p)⟩
  rw [hdeq] at hv
  by_cases hvu : v = u
  · subst hvu
    rw [Function.update_self] at hv
    cases hv
  · rw [Function.update_of_ne hvu] at hv
    rw [hunl, Function.update_of_ne hvu]
    exact (h.dequeued v hv).1

/-- Every step keeps a URB whose unlink was queued from being dequeued again. -/
theorem Marked.step (h : Marked s) (he : Effect s a t) : Marked t := by
  cases he with
  | frame hf => exact h.congr hf.unlinked hf.dequeued fun _ _ hl => hf.lock ▸ hl
  | otherSeqnum | cleanup | cleanupSkip | cleanupGiveback | rxGiveback =>
      exact h.congr rfl rfl fun _ _ hl => hl
  | enqueue hl _ henq =>
      have hfree : ∀ v p, s.lock ≠ .dequeue v p := fun v p hv => (by cases (hl.1.symm.trans hv))
      cases henq with
      | refused hr =>
          obtain ⟨rfl, rfl⟩ | ⟨rfl, rfl⟩ := hr
          · exact h.congr rfl rfl fun _ _ hl => hl
          · exact h.reset rfl rfl hfree
      | locally => exact h.reset rfl rfl hfree
      | sent => exact h.reset rfl rfl fun _ _ hv => (by cases hv)
  | txUrb hl =>
      unfold vhciTxUrb
      split <;> [skip; split] <;> exact h.congr rfl rfl fun _ _ hv => (by cases hv)
  | @dequeue u p hl hp hu =>
      have hnot : s.dequeued u ≠ true := fun hd => by
        rw [(h.dequeued u hd).1] at hu
        cases hu
      refine ⟨fun v hv => ?_, ?_⟩
      · have hne : v ≠ u := fun hvu => hnot (hvu ▸ hv)
        refine ⟨?_, fun q hq => ?_⟩
        · show Function.update s.unlinked u true v = true
          rw [Function.update_of_ne hne]
          exact (h.dequeued v hv).1
        · cases hq
          exact hne rfl
      · rintro v q ⟨⟩
        exact Function.update_self ..
  | @dequeueFinish u p _ _ hl =>
      unfold vhciUrbDequeueFinish
      split
      · exact h.congr rfl rfl fun _ _ hv => (by cases hv)
      · split
        · exact h.congr rfl rfl fun _ _ hv => (by cases hv)
        · refine ⟨fun v hv => ⟨?_, fun _ hq => (by cases hq)⟩, fun _ _ hv => (by cases hv)⟩
          by_cases hvu : v = u
          · rw [hvu]
            exact h.dequeuing u p hl
          · have hv : Function.update s.dequeued u true v = true := hv
            rw [Function.update_of_ne hvu] at hv
            exact (h.dequeued v hv).1
  | tx hst =>
      rw [(txStep_frame hst).1]
      exact h.congr rfl rfl fun _ _ hl => hl
  | retUnlink _ he =>
      obtain ⟨-, rfl⟩ := dequeuePendingUnlink_eq_some he
      exact h.congr rfl rfl fun _ _ hl => hl
  | retSubmit _ hp | rxUnlink _ hp | cleanupPickup _ _ hp =>
      obtain ⟨-, rfl⟩ := pickup_eq_some hp
      exact h.congr rfl rfl fun _ _ hl => hl
  | rxPayload hrx =>
      obtain ⟨urb, event, heq | heq⟩ := recvPayload_cases _ _ _ s
      all_goals
        rw [heq]
        exact h.congr rfl rfl fun _ _ hl => hl

/-! ## The run of the cleanup -/

/-- The comparison in `pickup_urb_and_free_priv`, when it is called for an unlink. -/
def VhciUnlink.names (e : VhciUnlink) (p : VhciPriv) : Prop :=
  p.seqnum = (e.unlinkSeqnum.setWidth 32).setWidth 64

/-- The entry of the URB is on `priv_rx`, and an unlink of it on `unlink_rx`. -/
def Pending (s : State) (u : UrbId) : Prop :=
  ∃ p ∈ s.privRx, p.urb = u ∧ ∃ e ∈ s.unlinkRx, e.names p

/-- `vhci_device_unlink_cleanup` has given the URB back. -/
def givenByCleanup (u : UrbId) : Event UrbId Giveback → Bool
  | .returned v ⟨.cleanup, _⟩ => v = u
  | _ => false

/-- The event handler is past closing the socket and has not left the shutdown. -/
def EhPc.cleaning : EhPc → Bool
  | .closed | .cleanup | .giveback _ | .relock | .done => true
  | .idle | .stopping => false

instance (e : VhciUnlink) (p : VhciPriv) : Decidable (e.names p) :=
  inferInstanceAs (Decidable (_ = _))

instance (s : State) (u : UrbId) : Decidable (Pending s u) :=
  inferInstanceAs (Decidable (∃ p ∈ s.privRx, p.urb = u ∧ ∃ e ∈ s.unlinkRx, e.names p))

/-- How often the cleanup has given the URB back, holds it, or will find it. -/
def cleanupTotal (s : State) (u : UrbId) : Nat :=
  s.log.countP (givenByCleanup u) + s.eh.held.count u + if Pending s u then 1 else 0

/-- While the cleanup runs: the socket of the port is closed and cannot be replaced, a URB that the
cleanup will find is not dequeued by others, and `cleanupTotal` does not change. -/
structure Cleaning (u : UrbId) (total : Nat) (s : State) : Prop where
  control : Control s
  owned : Owned s
  socket : s.tcpSocket = false
  attached : s.status ≠ .null
  stage : s.eh.cleaning = true
  finished : s.eh = .done → s.unlinkRx = []
  distinct : (s.privRx.map VhciPriv.seqnum).Nodup
  marked : Pending s u → s.unlinked u = true ∧ ∀ p, s.lock ≠ .dequeue u p
  total : cleanupTotal s u = total

variable {total : Nat}

/-- During the cleanup every step finds the threads stopped. -/
lemma Cleaning.stopsFirst (h : Cleaning u total s) (a : Action) : StopsFirst s a := by
  cases a with
  | ehReset => exact fun hs => absurd (h.socket.symm.trans hs) (by simp)
  | attach | eventAdd | otherSeqnum | enqueue | txUrb | dequeue | dequeueFinish | txTop | tx | rxTop
  | rxPdu | rxFail | rxPayload | rxUnlink | rxGiveback | ehShutdown | ehClose | ehCleanup
  | ehCleanupNext | ehCleanupGiveback | ehCleanupRelock | ehUnusable | ehFinish => trivial

/-- Until the shutdown returns, nothing opens the socket or takes the event handler elsewhere. -/
lemma Cleaning.shut (h : Cleaning u total s) (hdone : s.eh ≠ .done) (hst : step s a = some t) :
    t.tcpSocket = false ∧ t.status ≠ .null ∧ t.eh.cleaning = true ∧
      (t.eh = .done → t.unlinkRx = []) := by
  cases ha : a.isHandler with
  | false =>
      have hl := local_of_step hst ha
      refine ⟨hl.socket.trans h.socket, fun hn => h.attached (hl.status hn), ?_, fun he => ?_⟩
      · rw [hl.eh]
        exact h.stage
      · exact absurd (hl.eh.symm.trans he) hdone
  | true =>
      have hstage := h.stage
      cases a with
      | eventAdd | otherSeqnum | enqueue | txUrb | dequeue | dequeueFinish | txTop | tx | rxTop
      | rxPdu | rxFail | rxPayload | rxUnlink | rxGiveback => cases ha
      | attach devid =>
          simp only [step] at hst
          split at hst <;> cases hst
          rename_i hnull
          exact absurd hnull.2 h.attached
      | ehShutdown | ehClose =>
          simp only [step] at hst
          split at hst <;> cases hst
          rename_i he
          rw [he.1] at hstage
          cases hstage
      | ehCleanup | ehCleanupRelock =>
          simp only [step] at hst
          split at hst <;> cases hst
          exact ⟨h.socket, h.attached, rfl, fun he => (by cases he)⟩
      | ehCleanupNext =>
          simp only [step] at hst
          split at hst <;> cases hst
          unfold cleanupNext
          split
          · rename_i hnil
            exact ⟨h.socket, h.attached, rfl, fun _ => hnil⟩
          · split
            · exact ⟨h.socket, h.attached, hstage, fun he => absurd he hdone⟩
            · rename_i hp
              obtain ⟨-, rfl⟩ := pickup_eq_some hp
              exact ⟨h.socket, h.attached, rfl, fun he => (by cases he)⟩
      | ehCleanupGiveback =>
          simp only [step] at hst
          split at hst <;> cases hst
          exact ⟨h.socket, h.attached, rfl, fun he => (by cases he)⟩
      | ehReset | ehUnusable | ehFinish =>
          simp only [step] at hst
          split at hst <;> cases hst
          rename_i he
          exact absurd he hdone

/-- A pending URB is in one of its places. -/
lemma Pending.mem_places (h : Pending s u) : u ∈ s.places := by
  obtain ⟨p, hp, rfl, -⟩ := h
  unfold State.places State.privs
  simp only [List.map_append, List.mem_append]
  exact Or.inl (Or.inr (List.mem_map_of_mem hp))

/-- The total depends on the log, the handler and what is pending. -/
lemma cleanupTotal_congr (hlog : t.log.countP (givenByCleanup u) = s.log.countP (givenByCleanup u))
    (heh : t.eh.held = s.eh.held) (hpending : Pending t u ↔ Pending s u) :
    cleanupTotal t u = cleanupTotal s u := by
  simp only [cleanupTotal, hlog, heh, hpending]

/-- What a step of the run leaves to show. -/
structure Cleaned (u : UrbId) (s t : State) : Prop where
  privRx : t.privRx.Sublist s.privRx
  marked : Pending t u → t.unlinked u = true ∧ ∀ p, t.lock ≠ .dequeue u p
  total : cleanupTotal t u = cleanupTotal s u

/-- A step that leaves `priv_rx` and `unlink_rx` alone. -/
lemma Cleaning.same (h : Cleaning u total s) (hprivRx : t.privRx = s.privRx)
    (hunlinkRx : t.unlinkRx = s.unlinkRx)
    (hlog : t.log.countP (givenByCleanup u) = s.log.countP (givenByCleanup u))
    (heh : t.eh.held = s.eh.held) (hunl : Pending s u → t.unlinked u = s.unlinked u)
    (hlock : Pending s u → ∀ p, t.lock = .dequeue u p → s.lock = .dequeue u p) :
    Cleaned u s t := by
  have hpending : Pending t u ↔ Pending s u := by
    unfold Pending
    rw [hprivRx, hunlinkRx]
  refine ⟨hprivRx ▸ List.Sublist.refl _, fun hp => ?_, cleanupTotal_congr hlog heh hpending⟩
  have hp := hpending.mp hp
  obtain ⟨hun, hnot⟩ := h.marked hp
  exact ⟨(hunl hp).trans hun, fun p hl => hnot p (hlock hp p hl)⟩

/-- During the cleanup another URB may come. -/
lemma Cleaning.enqueue {v : UrbId} {urb : Urb} (h : Cleaning u total s)
    (hv : ¬ Custody.Held s.log v) (he : Enqueued v urb s t) : Cleaned u s t := by
  have hne : Pending s u → u ≠ v := by
    rintro hp rfl
    exact hv (h.owned.sound.held_iff.mpr hp.mem_places)
  cases he with
  | refused hr =>
      refine h.same rfl rfl rfl rfl (fun hp => ?_) fun _ _ hl => hl
      obtain ⟨rfl, -⟩ | ⟨rfl, -⟩ := hr
      · rfl
      · exact Function.update_of_ne (hne hp) ..
  | locally =>
      refine h.same rfl rfl ?_ rfl (fun hp => Function.update_of_ne (hne hp) ..) fun _ _ hl => hl
      simp [givenByCleanup]
  | sent =>
      refine h.same rfl rfl ?_ rfl (fun hp => Function.update_of_ne (hne hp) ..)
        fun _ _ hl => (by cases hl)
      simp [givenByCleanup]

/-- A dequeue under way ends during the cleanup. -/
lemma Cleaning.dequeueFinish {v : UrbId} {p : VhciPriv} {allocOk : Bool} {stale : BitVec 64}
    (h : Cleaning u total s) (hl : s.lock = .dequeue v p) :
    Cleaned u s { vhciUrbDequeueFinish v p allocOk stale s with lock := .free } := by
  unfold vhciUrbDequeueFinish
  rw [if_pos h.socket]
  have hsub : (s.privRx.erase p).Sublist s.privRx := List.erase_sublist
  have hback : ∀ q ∈ s.privRx, q.urb = u → Pending s u → q ∈ s.privRx.erase p := by
    rintro q hq rfl hp
    apply (List.mem_erase_of_ne _).mpr hq
    rintro rfl
    have hown := (h.owned.dequeuing v q hl).1
    exact (h.marked hp).2 q (hown ▸ hl)
  refine ⟨hsub, fun hp => ?_, cleanupTotal_congr ?_ rfl ⟨?_, ?_⟩⟩
  · obtain ⟨q, hq, hu, hnames⟩ := hp
    exact ⟨(h.marked ⟨q, hsub.subset hq, hu, hnames⟩).1, fun _ hl => (by cases hl)⟩
  · simp [State.giveback, givenByCleanup]
  · rintro ⟨q, hq, hu, hnames⟩
    exact ⟨q, hsub.subset hq, hu, hnames⟩
  · rintro ⟨q, hq, hu, hnames⟩
    exact ⟨q, hback q hq hu ⟨q, hq, hu, hnames⟩, hu, hnames⟩

/-- An entry of `unlink_rx` whose URB is not on `priv_rx` is of no use. -/
lemma Cleaning.skip {e : VhciUnlink} {rest : List VhciUnlink} (h : Cleaning u total s)
    (hrest : s.unlinkRx = e :: rest)
    (hp : pickupUrbAndFreePriv (e.unlinkSeqnum.setWidth 32) s = none) :
    Cleaned u s { s with unlinkRx := rest } := by
  have hnone : ∀ q ∈ s.privRx, ¬ e.names q := by
    have hfind := Option.map_eq_none_iff.mp hp
    intro q hq hnames
    have := List.find?_eq_none.mp hfind q hq
    exact this (decide_eq_true hnames)
  have hpending : Pending { s with unlinkRx := rest } u ↔ Pending s u := by
    constructor
    · rintro ⟨q, hq, hu, f, hf, hnames⟩
      exact ⟨q, hq, hu, f, hrest ▸ List.mem_cons_of_mem e hf, hnames⟩
    · rintro ⟨q, hq, hu, f, hf, hnames⟩
      rw [hrest] at hf
      rcases List.mem_cons.mp hf with rfl | hf
      · exact absurd hnames (hnone q hq)
      · exact ⟨q, hq, hu, f, hf, hnames⟩
  exact ⟨List.Sublist.refl _, fun hp => h.marked (hpending.mp hp),
    cleanupTotal_congr rfl rfl hpending⟩

/-- An entry of `unlink_rx` whose URB is on `priv_rx`. -/
lemma Cleaning.pickup {e : VhciUnlink} {rest : List VhciUnlink} {p : VhciPriv} {s' : State}
    (h : Cleaning u total s) (he : s.eh = .cleanup) (hrest : s.unlinkRx = e :: rest)
    (hp : pickupUrbAndFreePriv (e.unlinkSeqnum.setWidth 32) s = some (p, s')) :
    Cleaned u s { s'.writeUrb p.urb { s'.urb p.urb with status := -ENODEV } with
      unlinkRx := rest, eh := .giveback p.urb } := by
  have hfind := (pickup_eq_some hp).1
  have hmem : ∀ q, q ∈ s.privRx ↔ q = p ∨ q ∈ s'.privRx := by
    obtain ⟨-, rfl⟩ := pickup_eq_some hp
    exact fun q => mem_iff_of_find? hfind
  have hnames : e.names p := by
    have h := List.find?_some hfind
    exact of_decide_eq_true h
  have hpmem : p ∈ s.privRx := (hmem p).mpr (Or.inl rfl)
  obtain ⟨-, rfl⟩ := pickup_eq_some hp
  have hsub : (s.privRx.eraseP fun q => q.seqnum = (e.unlinkSeqnum.setWidth 32).setWidth 64).Sublist
      s.privRx := List.eraseP_sublist
  have hurbs : (s.privRx.map VhciPriv.urb).Nodup := by
    have hnodup := h.owned.linked.nodup
    rw [State.privs, List.map_append] at hnodup
    exact (List.nodup_append.mp hnodup).2.1
  have hperm := perm_cons_eraseP_of_find? hfind
  set t : State := { State.writeUrb p.urb _ _ with unlinkRx := rest, eh := .giveback p.urb } with ht
  have hback : Pending t u → Pending s u := by
    rintro ⟨q, hq, hu, f, hf, hfq⟩
    exact ⟨q, hsub.subset hq, hu, f, hrest ▸ List.mem_cons_of_mem e hf, hfq⟩
  refine ⟨hsub, fun hpt => h.marked (hback hpt), ?_⟩
  by_cases hu : p.urb = u
  · -- it is the URB's own entry, and the only one
    have hs : Pending s u := ⟨p, hpmem, hu, e, hrest ▸ List.mem_cons_self, hnames⟩
    have hnot : ¬ Pending t u := by
      rintro ⟨q, hq, hqu, -⟩
      have hnodup := (hperm.map VhciPriv.urb).nodup_iff.mp hurbs
      rw [List.map_cons, List.nodup_cons] at hnodup
      exact hnodup.1 (hu.trans hqu.symm ▸ List.mem_map_of_mem hq)
    unfold cleanupTotal
    rw [if_pos hs, if_neg hnot]
    simp [ht, State.writeUrb, he, EhPc.held, hu]
  · have hpending : Pending t u ↔ Pending s u := by
      refine ⟨hback, ?_⟩
      rintro ⟨q, hq, hqu, f, hf, hfq⟩
      have hqp : q ≠ p := fun hqp => hu (hqp ▸ hqu)
      refine ⟨q, ((hmem q).mp hq).resolve_left hqp, hqu, f, ?_, hfq⟩
      rw [hrest] at hf
      rcases List.mem_cons.mp hf with rfl | hf
      · -- then both entries have its number
        have hseq : q.seqnum = p.seqnum := hfq.trans hnames.symm
        exact absurd (eq_of_nodup_map h.distinct hq hpmem hseq) hqp
      · exact hf
    unfold cleanupTotal
    simp only [hpending]
    simp [ht, State.writeUrb, he, EhPc.held, hu]

/-- Every step of the cleanup keeps each URB's total. -/
lemma Cleaning.cleaned (h : Cleaning u total s) (he : Effect s a t) : Cleaned u s t := by
  obtain ⟨hrx, htx⟩ := h.control.stopped h.socket
  cases he with
  | frame hf =>
      exact h.same hf.privRx hf.unlinkRx (by rw [hf.log]) hf.eh_held (fun _ => by rw [hf.unlinked])
        fun _ _ hl => hf.lock ▸ hl
  | otherSeqnum => exact h.same rfl rfl rfl rfl (fun _ => rfl) fun _ _ hl => hl
  | enqueue _ hv henq => exact h.enqueue hv henq
  | txUrb =>
      unfold vhciTxUrb
      split <;> [skip; split] <;>
        exact h.same rfl rfl rfl rfl (fun _ => rfl) fun _ _ hl => (by cases hl)
  | @dequeue v p _ _ hv =>
      have hne : Pending s u → u ≠ v := by
        rintro hp rfl
        rw [(h.marked hp).1] at hv
        cases hv
      refine h.same rfl rfl rfl rfl (fun hp => Function.update_of_ne (hne hp) ..) ?_
      rintro hp q ⟨⟩
      exact absurd rfl (hne hp)
  | dequeueFinish hl => exact h.dequeueFinish hl
  | tx hst =>
      unfold txStep at hst
      rw [htx] at hst
      cases hst
  | retSubmit hr | retUnlink hr | rxPayload hr | rxUnlink hr | rxGiveback hr =>
      exact (by cases (hrx.symm.trans hr))
  | cleanup he =>
      refine h.same rfl rfl rfl ?_ (fun _ => rfl) fun _ _ hl => hl
      rw [he]
      rfl
  | cleanupSkip _ hrest hp => exact h.skip hrest hp
  | cleanupPickup he hrest hp => exact h.pickup he hrest hp
  | @cleanupGiveback v he =>
      refine ⟨List.Sublist.refl _, h.marked, ?_⟩
      have hpending : Pending { s.giveback v .cleanup with eh := .relock } u ↔ Pending s u :=
        Iff.rfl
      unfold cleanupTotal
      simp only [hpending]
      by_cases hu : v = u
      · simp [State.giveback, givenByCleanup, he, EhPc.held, hu]
      · simp [State.giveback, givenByCleanup, he, EhPc.held, hu]

/-- The cleanup goes on until it is done. -/
theorem Cleaning.step (h : Cleaning u total s) (hdone : s.eh ≠ .done)
    (hst : Vhci.step s a = some t) : Cleaning u total t := by
  have he := step_effect h.control hst
  obtain ⟨hsocket, hattached, hstage, hfinished⟩ := h.shut hdone hst
  obtain ⟨hsub, hmarked, htotal⟩ := h.cleaned he
  exact ⟨h.control.step (h.stopsFirst a) hst, h.owned.step h.control he, hsocket, hattached, hstage,
    hfinished, h.distinct.sublist (hsub.map _), hmarked, htotal.trans h.total⟩

/-! ## Which URBs are given back -/

/-- The marks hold in every state reached. -/
lemma marked_of_reach (h : (machine c).Reach StopsFirst t) : Marked t := by
  have hinv : Control t ∧ Marked t := by
    refine h.invariant (I := fun s => Control s ∧ Marked s) ?_ ?_
    · rintro s rfl
      exact ⟨control_start c, marked_start c⟩
    · rintro s a t ⟨hc, hm⟩ hok hst
      exact ⟨hc.step hok hst, hm.step (step_effect hc hst)⟩
  exact hinv.2

/-- Let the shutdown of an attached port have closed the socket while the seqnums on `priv_rx` were
distinct, and let `u` be a URB that was dequeued before.  In every run up to the return of
`vhci_device_unlink_cleanup`, however it is interleaved, the cleanup gives `u` back once if and
only if the entry of `u` is on `priv_rx` and an unlink of it on `unlink_rx`. -/
theorem cleanup_gives_back (h : (machine c).Reach StopsFirst s)
    (hdistinct : (s.privRx.map VhciPriv.seqnum).Nodup)
    (hclosed : s.eh = .closed) (hsocket : s.tcpSocket = false) (hattached : s.status ≠ .null)
    (hdequeued : s.dequeued u = true)
    (hrun : (machine c).Run (fun s _ => s.eh ≠ .done) s t) (hdone : t.eh = .done) :
    t.log.countP (givenByCleanup u) = s.log.countP (givenByCleanup u) + 1 ↔ Pending s u := by
  have hi := inv_of_reach (fun _ _ h => h) h
  have hmarked := (marked_of_reach h).dequeued u hdequeued
  have hstart : Cleaning u (cleanupTotal s u) s := by
    refine ⟨hi.control, hi.owned, hsocket, hattached, ?_, ?_, hdistinct, fun _ => hmarked, rfl⟩
    · rw [hclosed]
      rfl
    · rw [hclosed]
      exact fun he => (by cases he)
  have hend := hrun.preserves (I := Cleaning u (cleanupTotal s u))
    (fun s a t hs hnot hst => hs.step hnot hst) hstart
  have hnot : ¬ Pending t u := by
    rintro ⟨-, -, -, e, he, -⟩
    rw [hend.finished hdone] at he
    cases he
  have htotal := hend.total
  simp only [cleanupTotal, hdone, hclosed, hnot, EhPc.held, List.count_nil, if_false] at htotal
  split at htotal
  · rename_i hs
    exact iff_of_true (by omega) hs
  · rename_i hs
    exact iff_of_false (by omega) hs

/-- The cleanup returns: with its locks, after one iteration for each entry. -/
lemma cleanup_returns_of_lock : ∀ (n : Nat) (s : State), s.unlinkRx.length = n → s.eh = .cleanup →
    s.lock = .free → ∃ t, (machine c).Run (fun s _ => s.eh ≠ .done) s t ∧ t.eh = .done := by
  intro n
  induction n with
  | zero =>
      intro s hn he hl
      have hnil : s.unlinkRx = [] := List.length_eq_zero_iff.mp hn
      have hst : (machine c).step s .ehCleanupNext = some { s with eh := .done } := by
        show step s .ehCleanupNext = _
        simp only [step, if_pos he, cleanupNext, hnil]
      exact ⟨_, .single (by rw [he]; simp) hst, rfl⟩
  | succ n ih =>
      intro s hn he hl
      obtain ⟨e, rest, hrest⟩ := List.exists_cons_of_length_eq_add_one hn
      have hlen : rest.length = n := by simpa [hrest] using hn
      cases hp : pickupUrbAndFreePriv (e.unlinkSeqnum.setWidth 32) s with
      | none =>
          have hst : (machine c).step s .ehCleanupNext = some { s with unlinkRx := rest } := by
            show step s .ehCleanupNext = _
            simp only [step, if_pos he, cleanupNext, hrest, hp]
          obtain ⟨t, hrun, ht⟩ := ih { s with unlinkRx := rest } hlen he hl
          exact ⟨t, (Machine.Run.single (by rw [he]; simp) hst).trans hrun, ht⟩
      | some r =>
          obtain ⟨p, s'⟩ := r
          let s₁ : State := { s'.writeUrb p.urb { s'.urb p.urb with status := -ENODEV } with
            unlinkRx := rest, eh := .giveback p.urb }
          have hst : (machine c).step s .ehCleanupNext = some s₁ := by
            show step s .ehCleanupNext = _
            simp only [step, if_pos he, cleanupNext, hrest, hp]
            rfl
          have hl₁ : s₁.lock = .free := by
            obtain ⟨-, hs'⟩ := pickup_eq_some hp
            show s'.lock = .free
            rw [hs', hl]
          let s₂ : State := { s₁.giveback p.urb .cleanup with eh := .relock }
          obtain ⟨t, hrun, ht⟩ := ih { s₂ with eh := .cleanup } hlen rfl hl₁
          refine ⟨t, ?_, ht⟩
          refine (Machine.Run.single (by rw [he]; simp) hst).trans ?_
          refine (Machine.Run.single (t := s₂) (a := .ehCleanupGiveback) (by simp [s₁]) rfl).trans ?_
          refine (Machine.Run.single (a := .ehCleanupRelock) (by simp [s₂]) ?_).trans hrun
          exact if_pos ⟨rfl, hl₁⟩

/-- From a closed socket some run leads to the return of the cleanup. -/
theorem cleanup_returns (hclosed : s.eh = .closed) :
    ∃ t, (machine c).Run (fun s _ => s.eh ≠ .done) s t ∧ t.eh = .done := by
  have hfree : ∀ s : State, s.eh = .closed → s.lock = .free →
      ∃ t, (machine c).Run (fun s _ => s.eh ≠ .done) s t ∧ t.eh = .done := by
    intro s he hl
    have hst : (machine c).step s .ehCleanup = some { s with unlinkTx := [], eh := .cleanup } :=
      if_pos ⟨he, hl⟩
    obtain ⟨t, hrun, ht⟩ := cleanup_returns_of_lock (c := c) _ { s with unlinkTx := [], eh := .cleanup }
      rfl rfl hl
    exact ⟨t, (Machine.Run.single (by rw [he]; simp) hst).trans hrun, ht⟩
  -- whoever has the lock gives it back first
  cases hl : s.lock with
  | free => exact hfree s hclosed hl
  | enqueue v =>
      have hst : (machine c).step s (.txUrb true) =
          some { vhciTxUrb v true s with lock := .free } := by
        show step s (.txUrb true) = _
        simp only [step, hl]
      obtain ⟨t, hrun, ht⟩ := hfree _ ((local_of_step (a := .txUrb true) hst rfl).eh.trans hclosed) rfl
      exact ⟨t, (Machine.Run.single (by rw [hclosed]; simp) hst).trans hrun, ht⟩
  | dequeue v p =>
      have hst : (machine c).step s (.dequeueFinish true 0) =
          some { vhciUrbDequeueFinish v p true 0 s with lock := .free } := by
        show step s (.dequeueFinish true 0) = _
        simp only [step, hl]
      obtain ⟨t, hrun, ht⟩ := hfree _ ((local_of_step (a := .dequeueFinish true 0) hst rfl).eh.trans hclosed) rfl
      exact ⟨t, (Machine.Run.single (by rw [hclosed]; simp) hst).trans hrun, ht⟩

/-- URB 1 has been sent; `between` is what happens between its unlink and the shutdown. -/
def unlinkedRun (between : List Action) : List Action := List.flatten [
  [.attach 1, .enqueue 0 getDescriptorUrb 0, .txUrb true, .enqueue 1 bulkInUrb 0, .txUrb true,
   .txTop, .tx true, .tx true, .tx true, .tx true, .tx true, .tx true,
   .dequeue 1, .dequeueFinish true 0],
  between,
  [.eventAdd, .ehShutdown, .rxTop, .txTop, .ehClose]]

/-- A URB that was unlinked before the cleanup. -/
theorem cleanup_gives_back_unlinkedRun :
    ∃ s t, (machine 0).Reach StopsFirst s ∧ (machine 0).Run (fun s _ => s.eh ≠ .done) s t ∧
      t.eh = .done ∧ Pending s 1 ∧
      t.log.countP (givenByCleanup 1) = s.log.countP (givenByCleanup 1) + 1 := by
  have hrun : ∃ s, (machine 0).Reach StopsFirst s ∧
      ((s.privRx.map VhciPriv.seqnum).Nodup ∧ s.eh = .closed ∧ s.tcpSocket = false ∧ s.status ≠ .null ∧
        s.dequeued 1 = true ∧ Pending s 1) := by
    -- the CMD_UNLINK has been sent
    apply Machine.Reach.of_perform (unlinkedRun [.txTop, .tx true, .tx true, .tx true, .tx true])
      (s := { seqnum := 0 }) rfl
    exact ⟨_, rfl, by decide⟩
  obtain ⟨s, hs, hdistinct, hclosed, hsocket, hattached, hdequeued, hpending⟩ := hrun
  obtain ⟨t, hst, hdone⟩ := cleanup_returns (c := 0) hclosed
  exact ⟨s, t, hs, hst, hdone, hpending, (cleanup_gives_back hs hdistinct hclosed hsocket hattached
    hdequeued hst hdone).mpr hpending⟩

/-- The shutdown comes before the CMD_UNLINK is sent: when it returns, URB 1, for which
`vhci_urb_dequeue` has returned 0 over an open socket, is still not given back. -/
theorem unlinked_urb_not_given_back :
    ∃ t, (machine 0).Reach StopsFirst t ∧
      (t.eh = .done ∧ t.dequeued 1 = true ∧ Custody.Held t.log 1 ∧
        t.log.countP (givenByCleanup 1) = 0) := by
  apply Machine.Reach.of_perform (unlinkedRun [] ++ [.ehCleanup, .ehCleanupNext])
    (s := { seqnum := 0 }) rfl
  exact ⟨_, rfl, by decide⟩

end Usbip.Vhci
