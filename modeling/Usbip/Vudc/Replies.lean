import Usbip.Vudc.Machine

/-!
# One reply for each request of the vudc, in order

`urb_queue` with `tx_queue` is a request ledger: receiving a CMD_SUBMIT accepts, receiving a
CMD_UNLINK cancels, and the label `return_urb` in `v_timer` finishes, on whichever branch it was
reached.  Everything else that `v_timer` does leaves the ledger alone (`Touch`).  Since `tx_queue`
is a single queue, the order of the ledger's answers is the order on the wire, and no hypothesis
about the moment of an unlink is needed (`vudc_one_reply`).
-/

namespace Usbip.Vudc

open Usbip.Core Usbip.Common

/-! ## The queues as a ledger -/

def Urbp.entry (p : Urbp) : Entry Seqnum :=
  ⟨p.origin, p.seqnum, decide (p.unlinked ≠ 0)⟩

def TxItem.reply : TxItem → Reply Seqnum
  | submit p => .done p.seqnum
  | unlink u => .cancelled u.seqnum u.caught

def Ret.reply : Ret → Reply Seqnum
  | submit n _ _ => .done n
  | unlink u => .cancelled u.seqnum u.caught

/-- The item the sending thread has dequeued and not yet written. -/
def TxPc.hand : TxPc → List TxItem
  | sending x => [x]
  | stopped (some x) => [x]
  | top | send | stopped none => []

/-- Every item ever put on `tx_queue`, in order: those sent, the one being sent, those waiting. -/
def State.put (s : State) : List (Reply Seqnum) :=
  s.wire.map Ret.reply ++ (s.tx.hand ++ s.txQueue).map TxItem.reply

def State.ledger (s : State) : Ledger Seqnum where
  pending := s.urbQueue.map Urbp.entry
  replies := s.put
  reqs := s.submits
  cancels := s.unlinks

/-- The reply on the wire is the item's. -/
lemma TxItem.reply_ret (x : TxItem) : x.ret.reply = x.reply := by
  cases x <;> rfl

variable {s t r : State} {a : Action}

/-! ## Steps of `v_timer` that do not end a URB -/

/-- `t` differs from `s` in what `v_timer` does before it ends a URB. -/
structure Touch (s t : State) : Prop where
  entries : t.urbQueue.map Urbp.entry = s.urbQueue.map Urbp.entry
  txQueue : t.txQueue = s.txQueue
  tx : t.tx = s.tx
  rx : t.rx = s.rx
  wire : t.wire = s.wire
  allocs : t.allocs = s.allocs
  submits : t.submits = s.submits
  unlinks : t.unlinks = s.unlinks
  freed : t.freed = s.freed

namespace Touch

/-- Nothing changed is a touch. -/
lemma refl (s : State) : Touch s s := by
  constructor <;> rfl

/-- Touches compose. -/
lemma trans (h : Touch s t) (h' : Touch t r) : Touch s r := by
  obtain ⟨h₁, h₂, h₃, h₄, h₅, h₆, h₇, h₈, h₉⟩ := h
  obtain ⟨g₁, g₂, g₃, g₄, g₅, g₆, g₇, g₈, g₉⟩ := h'
  exact ⟨g₁.trans h₁, g₂.trans h₂, g₃.trans h₃, g₄.trans h₄, g₅.trans h₅, g₆.trans h₆,
    g₇.trans h₇, g₈.trans h₈, g₉.trans h₉⟩

/-- Touching the URBs leaves their entries. -/
lemma map (f : Urbp → Urbp) (hf : ∀ p, (f p).entry = p.entry) (s : State) :
    Touch s { s with urbQueue := s.urbQueue.map f } := by
  refine ⟨?_, rfl, rfl, rfl, rfl, rfl, rfl, rfl, rfl⟩
  rw [List.map_map]
  exact List.map_congr_left fun p _ => hf p

/-- Moving data touches a URB. -/
lemma writeUrb (n : Seqnum) (w : Progress) (s : State) : Touch s (writeUrb n w s) := by
  apply Touch.map
  intro p
  split <;> rfl

/-- Clearing its `new` touches a URB. -/
lemma clearNew (n : Seqnum) (s : State) : Touch s (clearNew n s) := by
  apply Touch.map
  intro p
  split <;> rfl

/-- Changing an endpoint touches no URB. -/
lemma updateEp (i : Nat) (f : Vep → Vep) (s : State) : Touch s (updateEp i f s) := by
  constructor <;> rfl

/-- Kicking the timer touches no URB. -/
lemma vKickTimer (s : State) : Touch s (vKickTimer s) := by
  unfold Vudc.vKickTimer
  split <;> constructor <;> rfl

/-- A touch leaves the ledger. -/
lemma ledger_eq (h : Touch s t) : t.ledger = s.ledger := by
  unfold State.ledger State.put
  rw [h.entries, h.txQueue, h.tx, h.wire, h.submits, h.unlinks]

/-- A touch leaves the requests that are queued. -/
lemma origins_eq (h : Touch s t) : t.urbQueue.map Urbp.origin = s.urbQueue.map Urbp.origin := by
  have hmap := congrArg (List.map Entry.req) h.entries
  simpa only [List.map_map, Function.comp_def, Urbp.entry] using hmap

end Touch

/-! ## The label `return_urb` -/

/-- What `return_urb` does: the entry leaves the queue, and its reply is put on `tx_queue`; a
marked one is freed at once. -/
lemma returnUrb_cases {n : Seqnum} {total : Int} (h : returnUrb n total s = some t) :
    ∃ p, s.urbQueue.find? (fun p => p.origin = n) = some p ∧ p.origin = n ∧
      t.urbQueue = s.urbQueue.eraseP (fun p => p.origin = n) ∧
      t.txQueue = s.txQueue ++ [if p.unlinked = 0 then .submit p
        else .unlink ⟨p.seqnum, p.unlinked, some n⟩] ∧
      t.freed = s.freed ++ (if p.unlinked = 0 then [] else [n]) ∧
      t.tx = s.tx ∧ t.rx = s.rx ∧ t.wire = s.wire ∧ t.allocs = s.allocs ∧
      t.submits = s.submits ∧ t.unlinks = s.unlinks ∧
      t.timer = .visit (t.urbQueue.head?.map Urbp.origin) total := by
  unfold returnUrb at h
  cases hf : s.urbQueue.find? (fun p => p.origin = n) with
  | none => simp [hf] at h
  | some p =>
      have hp : p.origin = n := by simpa using List.find?_some hf
      rw [hf] at h
      refine ⟨p, rfl, hp, ?_⟩
      obtain rfl := Option.some.inj h
      have hforget : forgetEp p.ep s = { s with ep := (forgetEp p.ep s).ep } := by
        cases p.ep <;> rfl
      rw [hforget]
      unfold queueReply
      by_cases hu : p.unlinked = 0
      · simp only [if_pos hu]
        simp [vEnqueueRetSubmit]
      · simp only [if_neg hu]
        simp [vEnqueueRetUnlink, hp]

/-- A URB that no unlink has marked is answered under its own seqnum. -/
lemma ledger_returnUrb (hs : s.ledger.Sound) {n : Seqnum} {total : Int}
    (h : returnUrb n total s = some t) : t.ledger = s.ledger.finish n := by
  obtain ⟨p, hf, hp, hqueue, htxq, -, htx, -, hwire, -, hsub, hunl, -⟩ := returnUrb_cases h
  have hfind : (s.urbQueue.map Urbp.entry).find? (fun e => e.req = n) = some p.entry := by
    rw [List.find?_map]
    exact congrArg (Option.map Urbp.entry) hf
  have herase : (s.urbQueue.map Urbp.entry).eraseP (fun e => e.req = n)
      = (s.urbQueue.eraseP (fun p => p.origin = n)).map Urbp.entry := by
    rw [List.eraseP_map]
    rfl
  have hkey : p.unlinked = 0 → p.seqnum = n := fun hu => by
    have hmem : p.entry ∈ s.ledger.pending := List.mem_map_of_mem (List.mem_of_find?_eq_some hf)
    exact (hs.pending_key p.entry hmem (by simp [Urbp.entry, hu])).trans hp
  have hput : t.put = s.put ++ [p.entry.reply] := by
    unfold State.put
    rw [hwire, htx, htxq, ← List.append_assoc, List.map_append, ← List.append_assoc]
    by_cases hu : p.unlinked = 0
    · simp [hu, TxItem.reply, Entry.reply, Urbp.entry, hkey hu, hp]
    · rw [if_neg hu]
      simp [Entry.reply, Urbp.entry, hp, show ¬ p.unlinked = 0#32 from hu, TxItem.reply]
  unfold Ledger.finish
  simp only [State.ledger, hfind, herase, hqueue, hput, hsub, hunl]

/-- One iteration of the loop ends a URB, possibly after having written to it, or does not. -/
lemma visitUrbp_cases {p : Urbp} {total : Int} {ret : Int} {w : Progress}
    (h : visitUrbp p total ret w s = some t) :
    Touch s t ∨ ∃ s', Touch s s' ∧ returnUrb p.origin total s' = some t := by
  have hgo : ∀ {s' : State} {pc : TimerPc}, Touch s s' → some { s' with timer := pc } = some t →
      Touch s t := by
    intro s' pc htouch heq
    obtain rfl := Option.some.inj heq
    exact htouch.trans ⟨rfl, rfl, rfl, rfl, rfl, rfl, rfl, rfl, rfl⟩
  unfold visitUrbp at h
  dsimp only at h
  split at h
  · exact Or.inr ⟨s, .refl s, h⟩
  split at h
  · exact Or.inl (hgo (.refl s) h)
  cases hep : p.ep with
  | none =>
      rw [hep] at h
      exact Or.inr ⟨_, .writeUrb _ _ s, h⟩
  | some i =>
      rw [hep] at h
      dsimp only at h
      split at h
      · exact Or.inl (hgo (.refl s) h)
      split at h
      · exact Or.inl (hgo (.refl s) h)
      -- the endpoint has been marked as seen, and perhaps as being in its setup stage
      generalize hs₁ : (if i = 0 ∧ p.new = true then _ else _ : State) = s₁ at h
      have htouch : Touch s s₁ := by
        rw [← hs₁]
        split
        · exact (Touch.updateEp _ _ s).trans ((Touch.updateEp _ _ _).trans (.clearNew _ _))
        · exact .updateEp _ _ s
      split at h
      · exact Or.inr ⟨_, htouch.trans (.writeUrb _ _ _), h⟩
      split at h
      · unfold controlRequest at h
        dsimp only at h
        have hctl := htouch.trans ((Touch.updateEp 0
          (fun e => { e with setupStage := false, halted := false }) s₁).trans
          (.writeUrb p.origin w _))
        split at h
        · exact Or.inl (hgo hctl h)
        split at h
        · exact Or.inl (hgo hctl h)
        · exact Or.inr ⟨_, hctl.trans (.writeUrb _ _ _), h⟩
      · split at h
        · exact Or.inr ⟨_, htouch.trans (.writeUrb _ _ _), h⟩
        all_goals exact Or.inl (hgo htouch h)

/-! ## The invariant -/

/-- The `urbp` that `v_recv_cmd_submit` has allocated and not yet queued. -/
def RxPc.held : RxPc → List Seqnum
  | .submit p => [p.origin]
  | _ => []

/-- The `urbp` of the item being sent, if it is a RET_SUBMIT. -/
def TxPc.held : TxPc → List Seqnum
  | .sending x => x.frees
  | _ => []

/-- Where the allocated `urbp`s are: with the receiving thread, on `urb_queue`, with the sending
thread, on `tx_queue`, or freed. -/
def State.entries (s : State) : List Seqnum :=
  s.rx.held ++ s.urbQueue.map Urbp.origin ++ s.tx.held ++ s.txQueue.flatMap TxItem.frees ++ s.freed

/-- The queues are a sound and ordered ledger, and every `urbp` is in one place. -/
structure Inv (s : State) : Prop where
  sound : s.ledger.Sound
  ordered : s.ledger.Ordered
  seqnums_nodup : s.seqnums.Nodup
  submits_sub : ∀ n ∈ s.submits, n ∈ s.allocs
  receiving : ∀ p, s.rx = .submit p → p.seqnum = p.origin ∧ p.unlinked = 0 ∧
    p.origin ∈ s.allocs ∧ p.origin ∉ s.submits
  entries : s.entries.Perm s.allocs

/-- Nothing is under way at the start. -/
lemma inv_start {ep : Nat → Vep} {speed : Speed} : Inv { ep, speed } := by
  refine ⟨Ledger.sound_empty, Ledger.ordered_empty, List.nodup_nil, by simp,
    fun p hp => (by cases hp), List.Perm.refl _⟩

/-- A touch keeps the invariant. -/
theorem Inv.touch (hi : Inv s) (h : Touch s t) : Inv t := by
  have hledger := h.ledger_eq
  refine ⟨hledger ▸ hi.sound, hledger ▸ hi.ordered, ?_, ?_, ?_, ?_⟩
  · unfold State.seqnums
    rw [h.allocs, h.unlinks]
    exact hi.seqnums_nodup
  · rw [h.submits, h.allocs]
    exact hi.submits_sub
  · rw [h.rx, h.submits, h.allocs]
    exact hi.receiving
  · unfold State.entries
    rw [h.rx, h.origins_eq, h.tx, h.txQueue, h.freed, h.allocs]
    exact hi.entries

/-- A number counts as often as it is in the places. -/
lemma count_entries (s : State) (n : Seqnum) :
    s.entries.count n = s.rx.held.count n + (s.urbQueue.map Urbp.origin).count n +
      s.tx.held.count n + (s.txQueue.flatMap TxItem.frees).count n + s.freed.count n := by
  simp only [State.entries, List.count_append]

/-- `v_timer` returns a URB to the queue of replies. -/
theorem Inv.returnUrb (hi : Inv s) {n : Seqnum} {total : Int}
    (h : returnUrb n total s = some t) : Inv t := by
  have hledger := ledger_returnUrb hi.sound h
  obtain ⟨p, hf, hp, hqueue, htxq, hfreed, htx, hrx, -, hallocs, hsub, hunl, -⟩ :=
    returnUrb_cases h
  refine ⟨hledger ▸ hi.sound.finish n, hledger ▸ hi.ordered.finish hi.sound n, ?_, ?_, ?_, ?_⟩
  · unfold State.seqnums
    rw [hallocs, hunl]
    exact hi.seqnums_nodup
  · rw [hsub, hallocs]
    exact hi.submits_sub
  · rw [hrx, hsub, hallocs]
    exact hi.receiving
  · rw [hallocs]
    refine List.Perm.trans (List.perm_iff_count.mpr fun m => ?_) hi.entries
    have hinit := ((perm_cons_eraseP_of_find? hf).map Urbp.origin).count_eq m
    rw [List.map_cons, hp, List.count_cons] at hinit
    rw [count_entries, count_entries, hrx, hqueue, htx, htxq, hfreed, hinit]
    by_cases hu : p.unlinked = 0
    · simp only [if_pos hu, List.flatMap_append, List.flatMap_cons, List.flatMap_nil,
        List.count_append, TxItem.frees, hp, List.append_nil, List.count_cons, List.count_nil]
      omega
    · simp only [if_neg hu, List.flatMap_append, List.flatMap_cons, List.flatMap_nil,
        List.count_append, TxItem.frees, List.append_nil, List.count_cons, List.count_nil]
      omega

/-! ## The receiving thread -/

/-- An unlink cancels its target in the ledger. -/
lemma ledger_vRecvCmdUnlink (u n : Seqnum) (s : State) :
    (vRecvCmdUnlink u n s).ledger = s.ledger.cancel u n := by
  have hmap : updateFirst (fun e => e.key = n) (Entry.catch u) (s.urbQueue.map Urbp.entry)
      = (updateFirst (fun p => p.seqnum = n) (Urbp.unlink u) s.urbQueue).map
          (List.map Urbp.entry) := by
    apply updateFirst_map
    · exact fun _ => rfl
    · intro p _
      rfl
  unfold vRecvCmdUnlink Ledger.cancel
  cases hup : updateFirst (fun p => p.seqnum = n) (Urbp.unlink u) s.urbQueue with
  | none => simp [State.ledger, State.put, vEnqueueRetUnlink, hmap, hup, TxItem.reply]
  | some q =>
      rw [(Touch.vKickTimer _).ledger_eq]
      simp [State.ledger, State.put, hmap, hup]

/-- An unlink leaves the requests that are queued. -/
lemma origins_vRecvCmdUnlink (u n : Seqnum) (s : State) :
    (vRecvCmdUnlink u n s).urbQueue.map Urbp.origin = s.urbQueue.map Urbp.origin := by
  unfold vRecvCmdUnlink
  split
  · rename_i q hup
    obtain ⟨l₁, p, l₂, hq, -, -, rfl⟩ := updateFirst_eq_some hup
    rw [(Touch.vKickTimer _).origins_eq, hq]
    simp [Urbp.unlink]
  · rfl

/-- What a CMD_UNLINK leaves alone. -/
lemma frame_vRecvCmdUnlink (u n : Seqnum) (s : State) :
    (vRecvCmdUnlink u n s).txQueue.flatMap TxItem.frees = s.txQueue.flatMap TxItem.frees ∧
      (vRecvCmdUnlink u n s).tx = s.tx ∧ (vRecvCmdUnlink u n s).freed = s.freed ∧
      (vRecvCmdUnlink u n s).allocs = s.allocs ∧ (vRecvCmdUnlink u n s).submits = s.submits := by
  unfold vRecvCmdUnlink
  split
  · rename_i q _
    have hk := Touch.vKickTimer { s with urbQueue := q, unlinks := s.unlinks ++ [(u, n)] }
    exact ⟨by rw [hk.txQueue], hk.tx, hk.freed, hk.allocs, hk.submits⟩
  · simp [vEnqueueRetUnlink, TxItem.frees]

/-- A new unlink keeps the invariant. -/
theorem Inv.vRecvCmdUnlink (hi : Inv s) (hrx : s.rx = .pdu) {u n : Seqnum}
    (hu : u ∉ s.seqnums) (hn : n ∈ s.submits) :
    Inv { vRecvCmdUnlink u n s with rx := .top } := by
  have hledger := ledger_vRecvCmdUnlink u n s
  have hunlinks : (Vudc.vRecvCmdUnlink u n s).unlinks = s.unlinks ++ [(u, n)] := by
    have h := congrArg Ledger.cancels hledger
    unfold Ledger.cancel at h
    split at h <;> exact h
  obtain ⟨hfrees, htx, hfreed, hallocs, hsub⟩ := frame_vRecvCmdUnlink u n s
  have hnum : u ∉ s.ledger.numbers := by
    intro hmem
    rcases List.mem_append.mp hmem with hmem | hmem
    · exact hu (List.mem_append_left _ (hi.submits_sub u hmem))
    · exact hu (List.mem_append_right _ hmem)
  have hnot : n ∉ s.unlinks.map Prod.fst := fun hmem =>
    (List.nodup_append.mp hi.sound.numbers_nodup).2.2 n hn n hmem rfl
  refine ⟨?_, ?_, ?_, ?_, fun p hp => (by cases hp), ?_⟩
  · show (Vudc.vRecvCmdUnlink u n s).ledger.Sound
    rw [hledger]
    exact hi.sound.cancel hnum hnot
  · show (Vudc.vRecvCmdUnlink u n s).ledger.Ordered
    rw [hledger]
    exact hi.ordered.cancel hi.sound hnum hn
  · show ((Vudc.vRecvCmdUnlink u n s).allocs ++
      (Vudc.vRecvCmdUnlink u n s).unlinks.map Prod.fst).Nodup
    rw [hallocs, hunlinks, List.map_append, ← List.append_assoc]
    exact (List.perm_append_singleton u s.seqnums).nodup_iff.mpr
      (List.nodup_cons.mpr ⟨hu, hi.seqnums_nodup⟩)
  · show ∀ m ∈ (Vudc.vRecvCmdUnlink u n s).submits, m ∈ (Vudc.vRecvCmdUnlink u n s).allocs
    rw [hsub, hallocs]
    exact hi.submits_sub
  · have hentries := hi.entries
    unfold State.entries at hentries ⊢
    simp only [origins_vRecvCmdUnlink, hfrees, htx, hfreed, hallocs]
    rwa [hrx] at hentries

/-- The receiving thread moves without a `urbp`. -/
lemma Inv.setRx (hi : Inv s) {pc : RxPc} (hrx : s.rx.held = []) (hpc : pc.held = [])
    (event : Bool) : Inv { s with rx := pc, event } := by
  refine ⟨hi.sound, hi.ordered, hi.seqnums_nodup, hi.submits_sub, ?_, ?_⟩
  · rintro p rfl
    cases hpc
  · have hentries := hi.entries
    unfold State.entries at hentries ⊢
    rw [hrx] at hentries
    rwa [hpc]

/-- A new submit keeps the invariant. -/
theorem Inv.alloc (hi : Inv s) (hrx : s.rx = .pdu) {n : Seqnum} (hn : n ∉ s.seqnums) {p : Urbp}
    (hp : p.origin = n ∧ p.seqnum = n ∧ p.unlinked = 0) :
    Inv { s with rx := .submit p, allocs := s.allocs ++ [n] } := by
  obtain ⟨horigin, hseq, hunl⟩ := hp
  refine ⟨hi.sound, hi.ordered, ?_, ?_, ?_, ?_⟩
  · show ((s.allocs ++ [n]) ++ s.unlinks.map Prod.fst).Nodup
    rw [List.append_assoc]
    exact (List.perm_middle (a := n)).nodup_iff.mpr (List.nodup_cons.mpr ⟨hn, hi.seqnums_nodup⟩)
  · exact fun m hm => List.mem_append_left _ (hi.submits_sub m hm)
  · rintro q ⟨⟩
    refine ⟨hseq.trans horigin.symm, hunl, by simp [horigin], fun hmem => hn ?_⟩
    exact List.mem_append_left _ (hi.submits_sub n (horigin ▸ hmem))
  · refine List.perm_iff_count.mpr fun m => ?_
    have hcount := hi.entries.count_eq m
    rw [count_entries] at hcount
    rw [count_entries, List.count_append]
    simp only [hrx, RxPc.held, List.count_nil, horigin] at hcount ⊢
    omega

/-- `v_queue_urbp` moves the request to the queue. -/
theorem Inv.vQueueUrbp (hi : Inv s) {p : Urbp} (hrx : s.rx = .submit p) :
    Inv { vQueueUrbp p s with rx := .top } := by
  obtain ⟨hseq, hunl, halloc, hnot⟩ := hi.receiving p hrx
  have hk := Touch.vKickTimer s
  have hik := hi.touch hk
  have hnum : p.origin ∉ s.ledger.numbers := by
    intro hmem
    rcases List.mem_append.mp hmem with hmem | hmem
    · exact hnot hmem
    · exact (List.nodup_append.mp hi.seqnums_nodup).2.2 _ halloc _ hmem rfl
  have hledger : (Vudc.vQueueUrbp p s).ledger = s.ledger.accept p.origin := by
    have heq := hk.ledger_eq
    unfold State.ledger State.put at heq
    simp only [Ledger.mk.injEq] at heq
    obtain ⟨h₁, h₂, h₃, h₄⟩ := heq
    simp only [Vudc.vQueueUrbp, State.ledger, State.put, Ledger.accept, List.map_append, h₁,
      h₃, h₄, List.map_cons, List.map_nil]
    simp only [hk.wire, hk.tx, hk.txQueue, Urbp.entry, hseq, hunl]
    rfl
  refine ⟨?_, ?_, ?_, ?_, fun q hq => (by cases hq), ?_⟩
  · show (Vudc.vQueueUrbp p s).ledger.Sound
    rw [hledger]
    exact hi.sound.accept hnum
  · show (Vudc.vQueueUrbp p s).ledger.Ordered
    rw [hledger]
    exact hi.ordered.accept hnum
  · exact hik.seqnums_nodup
  · intro m hm
    show m ∈ (vKickTimer s).allocs
    rw [hk.allocs]
    rcases List.mem_append.mp hm with hm | hm
    · exact hi.submits_sub m (hk.submits ▸ hm)
    · exact List.mem_singleton.mp hm ▸ halloc
  · refine List.perm_iff_count.mpr fun m => ?_
    have hcount := hi.entries.count_eq m
    rw [count_entries, hrx] at hcount
    rw [count_entries]
    show _ = (vKickTimer s).allocs.count m
    simp only [Vudc.vQueueUrbp, hk.allocs, hk.tx, hk.txQueue, hk.freed, hk.origins_eq,
      List.map_append, List.map_cons, List.map_nil, List.count_append, RxPc.held,
      List.count_nil] at hcount ⊢
    omega

/-- A CMD_SUBMIT that is not accepted: its `urbp` is freed. -/
theorem Inv.dropUrbp (hi : Inv s) {p : Urbp} (hrx : s.rx = .submit p) (event : Bool) :
    Inv { s with rx := .stopped, freed := s.freed ++ [p.origin], event } := by
  refine ⟨hi.sound, hi.ordered, hi.seqnums_nodup, hi.submits_sub, fun q hq => (by cases hq), ?_⟩
  refine List.perm_iff_count.mpr fun m => ?_
  have hcount := hi.entries.count_eq m
  rw [count_entries, hrx] at hcount
  rw [count_entries]
  simp only [RxPc.held, List.count_nil, List.count_append] at hcount ⊢
  omega

/-! ## The sending thread -/

/-- The transmit thread takes a reply. -/
theorem Inv.dequeue (hi : Inv s) {x : TxItem} {rest : List TxItem} (htx : s.tx = .send)
    (hq : s.txQueue = x :: rest) : Inv { s with txQueue := rest, tx := .sending x } := by
  have hledger : State.ledger { s with txQueue := rest, tx := .sending x } = s.ledger := by
    simp [State.ledger, State.put, htx, hq, TxPc.hand]
  refine ⟨hledger ▸ hi.sound, hledger ▸ hi.ordered, hi.seqnums_nodup, hi.submits_sub,
    hi.receiving, ?_⟩
  refine List.perm_iff_count.mpr fun m => ?_
  have hcount := hi.entries.count_eq m
  rw [count_entries] at hcount ⊢
  simp only [htx, hq, TxPc.held, List.flatMap_cons, List.count_append, List.count_nil] at hcount ⊢
  omega

/-- The item in hand is written, or given up, and its `urbp` freed either way. -/
theorem Inv.send (hi : Inv s) {x : TxItem} (htx : s.tx = .sending x) {wire : List Ret} {pc : TxPc}
    (hput : wire.map Ret.reply ++ (pc.hand ++ s.txQueue).map TxItem.reply = s.put)
    (hpc : pc.held = []) (event : Bool) :
    Inv { s with wire, tx := pc, freed := s.freed ++ x.frees, event } := by
  have hledger : State.ledger { s with wire, tx := pc, freed := s.freed ++ x.frees, event }
      = s.ledger :=
    congrArg (fun put => Ledger.mk (s.urbQueue.map Urbp.entry) put s.submits s.unlinks) hput
  refine ⟨hledger ▸ hi.sound, hledger ▸ hi.ordered, hi.seqnums_nodup, hi.submits_sub,
    hi.receiving, ?_⟩
  refine List.perm_iff_count.mpr fun m => ?_
  have hcount := hi.entries.count_eq m
  rw [count_entries] at hcount ⊢
  rw [hpc]
  simp only [htx, TxPc.held, List.count_append, List.count_nil] at hcount ⊢
  omega

/-- At the head of its loop and at an empty queue the thread holds nothing. -/
lemma Inv.setTx (hi : Inv s) {pc : TxPc} (htx : s.tx.hand = [] ∧ s.tx.held = [])
    (hpc : pc.hand = [] ∧ pc.held = []) : Inv { s with tx := pc } := by
  have hledger : State.ledger { s with tx := pc } = s.ledger := by
    simp [State.ledger, State.put, htx.1, hpc.1]
  refine ⟨hledger ▸ hi.sound, hledger ▸ hi.ordered, hi.seqnums_nodup, hi.submits_sub,
    hi.receiving, ?_⟩
  have hentries := hi.entries
  unfold State.entries at hentries ⊢
  rw [htx.2] at hentries
  rwa [hpc.2]

/-! ## Every step -/

/-- What a client does: no seqnum is used twice on a connection, and a CMD_UNLINK names a
CMD_SUBMIT received before it. -/
def WellNumbered (s : State) : Action → Prop
  | .rxCmdSubmit n _ _ => n ∉ s.seqnums
  | .rxCmdUnlink u n => u ∉ s.seqnums ∧ n ∈ s.submits
  | _ => True

instance (s : State) (a : Action) : Decidable (WellNumbered s a) :=
  match a with
  | .rxCmdSubmit n _ _ => inferInstanceAs (Decidable (n ∉ s.seqnums))
  | .rxCmdUnlink u n => inferInstanceAs (Decidable (u ∉ s.seqnums ∧ n ∈ s.submits))
  | .eventAdd | .gadget _ | .startTimer _ | .rxTop | .rxFail _ | .rxQueue | .rxSubmitFail _
  | .timerStart _ | .timerVisit _ _ | .timerSetup _ | .timerGiveback _ | .timerResume
  | .timerTransferred _ _ | .txTop | .txSend _ => isTrue trivial

/-- Moving the timer is a touch. -/
lemma touch_of_pc (s : State) (pc : TimerPc) : Touch s { s with timer := pc } :=
  ⟨rfl, rfl, rfl, rfl, rfl, rfl, rfl, rfl, rfl⟩

/-- The steps of `v_timer`. -/
lemma timer_cases (h : step s a = some t)
    (ha : (∃ now, a = .timerStart now) ∨ (∃ ret w, a = .timerVisit ret w) ∨
      (∃ ret, a = .timerSetup ret) ∨ (∃ w, a = .timerGiveback w) ∨ a = .timerResume ∨
      ∃ sent w, a = .timerTransferred sent w) :
    Touch s t ∨ ∃ s' n total, Touch s s' ∧ returnUrb n total s' = some t := by
  rcases ha with ⟨now, rfl⟩ | ⟨ret, w, rfl⟩ | ⟨ret, rfl⟩ | ⟨w, rfl⟩ | rfl | ⟨sent, w, rfl⟩
  · left
    simp only [step] at h
    split at h
    · split at h
      · obtain rfl := Option.some.inj h
        unfold vTimerStart
        dsimp only
        split <;> exact ⟨rfl, rfl, rfl, rfl, rfl, rfl, rfl, rfl, rfl⟩
      · cases h
    · cases h
  · simp only [step] at h
    split at h
    · obtain rfl := Option.some.inj h
      left
      unfold vTimerEnd
      split <;> exact ⟨rfl, rfl, rfl, rfl, rfl, rfl, rfl, rfl, rfl⟩
    · split at h
      · rcases visitUrbp_cases h with h | ⟨s', htouch, h⟩
        · exact Or.inl h
        · exact Or.inr ⟨s', _, _, htouch, h⟩
      · cases h
    · cases h
  · simp only [step] at h
    split at h
    · split at h
      · obtain rfl := Option.some.inj h
        exact Or.inl (touch_of_pc s _)
      · exact Or.inr ⟨_, _, _, .writeUrb _ _ s, h⟩
    · cases h
  · simp only [step] at h
    split at h
    · obtain rfl := Option.some.inj h
      exact Or.inl ((Touch.writeUrb _ _ s).trans (touch_of_pc _ _))
    · cases h
  · simp only [step] at h
    split at h
    · obtain rfl := Option.some.inj h
      exact Or.inl (touch_of_pc s _)
    · cases h
  · simp only [step] at h
    split at h
    · split at h
      · obtain rfl := Option.some.inj h
        exact Or.inl ((Touch.writeUrb _ _ s).trans (touch_of_pc _ _))
      · exact Or.inr ⟨_, _, _, .writeUrb _ _ s, h⟩
    · cases h

/-- The timer touches the URBs, or returns one. -/
theorem Inv.timer (hi : Inv s)
    (h : Touch s t ∨ ∃ s' n total, Touch s s' ∧ Vudc.returnUrb n total s' = some t) : Inv t := by
  rcases h with h | ⟨s', n, total, htouch, h⟩
  · exact hi.touch h
  · exact (hi.touch htouch).returnUrb h

/-- Every step keeps the invariant. -/
theorem Inv.step (hi : Inv s) (hok : WellNumbered s a) (hst : Vudc.step s a = some t) : Inv t := by
  cases a with
  | timerStart now => exact hi.timer (timer_cases hst (.inl ⟨now, rfl⟩))
  | timerVisit ret w => exact hi.timer (timer_cases hst (.inr (.inl ⟨ret, w, rfl⟩)))
  | timerSetup ret => exact hi.timer (timer_cases hst (.inr (.inr (.inl ⟨ret, rfl⟩))))
  | timerGiveback w => exact hi.timer (timer_cases hst (.inr (.inr (.inr (.inl ⟨w, rfl⟩)))))
  | timerResume => exact hi.timer (timer_cases hst (.inr (.inr (.inr (.inr (.inl rfl))))))
  | timerTransferred sent w =>
      exact hi.timer (timer_cases hst (.inr (.inr (.inr (.inr (.inr ⟨sent, w, rfl⟩))))))
  | eventAdd =>
      obtain rfl := Option.some.inj hst
      exact hi.touch ⟨rfl, rfl, rfl, rfl, rfl, rfl, rfl, rfl, rfl⟩
  | gadget ep =>
      simp only [Vudc.step] at hst
      split at hst <;> cases hst
      exact hi.touch ⟨rfl, rfl, rfl, rfl, rfl, rfl, rfl, rfl, rfl⟩
  | startTimer now =>
      simp only [Vudc.step] at hst
      split at hst <;> cases hst
      apply hi.touch
      unfold vStartTimer
      split
      · exact .refl s
      · exact .vKickTimer s
      · refine Touch.trans ?_ (.vKickTimer _)
        exact ⟨rfl, rfl, rfl, rfl, rfl, rfl, rfl, rfl, rfl⟩
  | rxTop =>
      simp only [Vudc.step] at hst
      split at hst <;> cases hst
      rename_i hrx
      refine hi.setRx (by rw [hrx]; rfl) ?_ s.event
      split <;> rfl
  | rxFail addsEvent =>
      simp only [Vudc.step] at hst
      split at hst <;> cases hst
      rename_i hrx
      exact hi.setRx (by rw [hrx]; rfl) rfl _
  | rxCmdUnlink u n =>
      simp only [Vudc.step] at hst
      split at hst
      · rename_i hrx
        split at hst <;> cases hst
        exact hi.vRecvCmdUnlink hrx hok.1 hok.2
      · cases hst
  | rxCmdSubmit n i len =>
      simp only [Vudc.step] at hst
      split at hst <;> cases hst
      rename_i hrx
      exact hi.alloc hrx hok ⟨rfl, rfl, rfl⟩
  | rxQueue =>
      simp only [Vudc.step] at hst
      split at hst
      · rename_i p hrx
        split at hst <;> cases hst
        exact hi.vQueueUrbp hrx
      · cases hst
  | rxSubmitFail addsEvent =>
      simp only [Vudc.step] at hst
      split at hst <;> cases hst
      rename_i p hrx
      exact hi.dropUrbp hrx _
  | txTop =>
      simp only [Vudc.step] at hst
      split at hst <;> cases hst
      rename_i htx
      refine hi.setTx (by rw [htx]; exact ⟨rfl, rfl⟩) ?_
      split <;> exact ⟨rfl, rfl⟩
  | txSend sendOk =>
      simp only [Vudc.step] at hst
      split at hst
      · rename_i htx
        split at hst <;> cases hst
        · rename_i hq
          exact hi.dequeue htx hq
        · exact hi.setTx (by rw [htx]; exact ⟨rfl, rfl⟩) ⟨rfl, rfl⟩
      · rename_i x htx
        split at hst <;> cases hst
        · refine hi.send htx ?_ rfl s.event
          simp [State.put, htx, TxPc.hand, TxItem.reply_ret]
        · refine hi.send htx ?_ rfl true
          simp [State.put, htx, TxPc.hand]
      · cases hst

/-! ## Every request and every unlink is answered once, in order -/

/-- No RET_SUBMIT is on the wire behind a RET_UNLINK for an unlink that names it. -/
def RepliesInOrder (s : State) : Prop :=
  ∀ pre n status len post b, s.wire = pre ++ .submit n status len :: post → .unlink b ∈ pre →
    (b.seqnum, n) ∉ s.unlinks

/-- The replies are in order. -/
lemma Inv.repliesInOrder (hi : Inv s) : RepliesInOrder s := by
  intro pre n status len post b hwire hb hunlink
  have hput : s.put = pre.map Ret.reply ++
      .done n :: (post.map Ret.reply ++ (s.tx.hand ++ s.txQueue).map TxItem.reply) := by
    simp [State.put, hwire, Ret.reply]
  exact hi.ordered.order _ _ _ hput n rfl b.seqnum hunlink b.caught (List.mem_map_of_mem hb)

/-- Over any interleaving of receipts, runs of `v_timer` and sending: each accepted request is on
`urb_queue` or answered by one item put on `tx_queue`; each unlink has one marked `urbp` on
`urb_queue` or one RET_UNLINK put on `tx_queue`; a RET_UNLINK that answers a request is for an
unlink that names it; no `urbp` is freed twice; and the replies are in order. -/
theorem vudc_one_reply (h : machine.Reach WellNumbered t) :
    (∀ n ∈ t.submits,
      (t.urbQueue.map Urbp.origin).count n + t.put.countP (Reply.answers n) = 1) ∧
    (∀ c ∈ t.unlinks, t.urbQueue.countP (fun p => p.unlinked ≠ 0 && p.seqnum = c.1) +
      t.put.countP (Reply.settles c.1) = 1) ∧
    (∀ u n, Reply.cancelled u (some n) ∈ t.put → (u, n) ∈ t.unlinks) ∧
    t.freed.Nodup ∧ RepliesInOrder t := by
  have hi : Inv t := by
    refine h.invariant ?_ fun s a t hi hok hst => hi.step hok hst
    rintro s ⟨ep, speed, rfl⟩
    exact inv_start
  refine ⟨fun n hn => ?_, fun c hc => ?_, fun u n hu => ?_, ?_, hi.repliesInOrder⟩
  · have hone := hi.sound.one_answer n hn
    simp only [State.ledger, List.countP_map, Function.comp_def, Urbp.entry] at hone
    have hqueue : (t.urbQueue.map Urbp.origin).count n =
        t.urbQueue.countP (fun p => p.origin = n) := by
      rw [List.count, List.countP_map]
      rfl
    rw [hqueue, ← hone]
    rfl
  · have hone := hi.sound.one_settle c hc
    simp only [State.ledger, List.countP_map, Function.comp_def, Urbp.entry,
      Entry.caughtBy] at hone
    rw [← hone]
    congr 2
  · obtain ⟨m, hm, hcaught⟩ := hi.sound.cancelled_known u _ hu
    rw [(hcaught n rfl).1]
    exact hm
  · have hallocs : t.allocs.Nodup := (List.nodup_append.mp hi.seqnums_nodup).1
    have hentries : t.entries.Nodup := hi.entries.nodup_iff.mpr hallocs
    exact (List.nodup_append.mp hentries).2.1

/-- Request 2 is received while the timer serves request 1, and then unlinked by CMD_UNLINK 3;
CMD_UNLINK 4 comes too late for request 1. -/
def servedRun : List Action :=
  [.startTimer 0, .rxTop, .rxCmdSubmit 1 1 8, .rxQueue,
   .timerStart 5, .timerVisit 0 ⟨0, 0⟩, .timerGiveback ⟨0, 8⟩,
   .rxTop, .rxCmdSubmit 2 2 8, .rxQueue, .rxTop,
   .timerResume, .timerTransferred 8 ⟨0, 8⟩, .timerVisit 0 ⟨0, 0⟩,
   .timerTransferred 0 ⟨-EINPROGRESS, 0⟩, .timerVisit 0 ⟨0, 0⟩,
   .rxCmdUnlink 3 2, .rxTop, .rxCmdUnlink 4 1,
   .timerStart 9, .timerVisit 0 ⟨0, 0⟩, .timerVisit 0 ⟨0, 0⟩,
   .txTop, .txSend true, .txSend true, .txSend true, .txSend true, .txSend true, .txSend true]

/-- The run starts with bulk endpoints and ends with an answer to each request and unlink. -/
theorem vudc_one_reply_servedRun :
    ∃ t, machine.Reach WellNumbered t ∧
      t.wire = [.submit 1 0 8, .unlink ⟨4, 0, none⟩, .unlink ⟨3, -ECONNRESET, some 2⟩] ∧
      t.submits = [1, 2] ∧ t.freed.Nodup ∧ RepliesInOrder t := by
  have hrun : ∃ t, machine.Reach WellNumbered t ∧
      (t.wire = [.submit 1 0 8, .unlink ⟨4, 0, none⟩, .unlink ⟨3, -ECONNRESET, some 2⟩] ∧
        t.submits = [1, 2]) := by
    have hinit : machine.init { ep := fun _ => { type := .bulk }, speed := .high } :=
      ⟨_, _, rfl⟩
    apply Machine.Reach.of_perform servedRun hinit
    exact ⟨_, rfl, by decide⟩
  obtain ⟨t, ht, hwire, hsubmits⟩ := hrun
  obtain ⟨-, -, -, hfreed, horder⟩ := vudc_one_reply ht
  exact ⟨t, ht, hwire, hsubmits, hfreed, horder⟩

end Usbip.Vudc
