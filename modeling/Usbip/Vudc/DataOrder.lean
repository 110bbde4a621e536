import Usbip.Vudc.Stream

/-!
# The data of an endpoint is delivered in order

The URBs of an endpoint that is always enabled in one direction are served in the order in which
they were queued (`Lined`).  Of them only the first has moved data, and of the requests only the
first.  For an endpoint to the host, what the URBs have received and what the requests still hold is
together what the gadget driver has queued; for one from the host, what the requests have received
and what the URBs still hold is together what the host has sent (`Bytes`).

So what has been delivered is a prefix of what was offered (`data_in_order`), as long as the
endpoint does not stall, and neither an overflow nor an unlink or a dequeue takes data away
(`Undisturbed`).
-/

namespace Usbip.Vudc.Flow

open Usbip.Core Usbip.Common

variable {e : Nat} {type : XferType} {toHost : Bool} {s t : State} {a : Action} {d : Device.State}

/-! ## What is offered and what is delivered -/

/-- The `urbp`s of endpoint `e` among these. -/
def mine (e : Nat) (s : State) (l : List Nat) : List Nat := l.filter fun n => s.epOf n = e

/-- The data in the requests that the gadget driver has queued. -/
def inputOffered (e : Nat) (s : State) : List Byte :=
  (s.queued.filter fun x => x.1 = e).flatMap fun x => x.2.buf

/-- The data in the URBs that the host has sent. -/
def outputOffered (e : Nat) (s : State) : List Byte :=
  (mine e s s.dev.accepted).flatMap fun n => (s.urb n).transferBuffer

/-- The data in the requests that have completed. -/
def outputDelivered (e : Nat) (s : State) : List Byte :=
  (s.given.filter fun x => x.1 = e).flatMap fun x => x.2.1.done

/-- Endpoint `e` is not stalled, none of its URBs is unlinked or freed, and none of its URBs and
requests has ended with an overflow or was taken off its queue. -/
structure Undisturbed (e : Nat) (s : State) : Prop where
  halted : (s.dev.ep e).halted = false
  linked : ∀ p ∈ s.dev.urbQueue, p.ep = some e → p.unlinked = 0
  kept : ∀ n ∈ s.dev.stopped, s.epOf n ≠ e
  urbs : ∀ n ∈ s.dev.accepted, s.epOf n = e → (s.urb n).status ≠ -EOVERFLOW
  requests : ∀ x ∈ s.given, x.1 = e →
    x.2.2 ≠ -EOVERFLOW ∧ x.2.2 ≠ -ECONNRESET ∧ x.2.2 ≠ -ESHUTDOWN

instance (e : Nat) (s : State) : Decidable (Undisturbed e s) :=
  decidable_of_iff ((s.dev.ep e).halted = false ∧
      (∀ p ∈ s.dev.urbQueue, p.ep = some e → p.unlinked = 0) ∧
      (∀ n ∈ s.dev.stopped, s.epOf n ≠ e) ∧
      (∀ n ∈ s.dev.accepted, s.epOf n = e → (s.urb n).status ≠ -EOVERFLOW) ∧
      ∀ x ∈ s.given, x.1 = e → x.2.2 ≠ -EOVERFLOW ∧ x.2.2 ≠ -ECONNRESET ∧ x.2.2 ≠ -ESHUTDOWN)
    ⟨fun h => ⟨h.1, h.2.1, h.2.2.1, h.2.2.2.1, h.2.2.2.2⟩,
      fun h => ⟨h.halted, h.linked, h.kept, h.urbs, h.requests⟩⟩

/-- A step that leaves endpoint `e` undisturbed, which is only ever enabled with this type and
direction. -/
def Plain (e : Nat) (type : XferType) (toHost : Bool) (s : State) (a : Action) : Prop :=
  (match a with
    | .enable i type' _ toHost' => i = e → enables i s = true → type' = type ∧ toHost' = toHost
    | _ => True) ∧ ∀ t ∈ step s a, Undisturbed e t

instance (e : Nat) (type : XferType) (toHost : Bool) (s : State) (a : Action) :
    Decidable (Plain e type toHost s a) :=
  match a with
  | .enable i type' _ toHost' => inferInstanceAs (Decidable
      ((i = e → enables i s = true → type' = type ∧ toHost' = toHost) ∧
        ∀ t ∈ step s (.enable i type' _ toHost'), Undisturbed e t))
  | .eventAdd | .connect _ | .bind _ | .pullup _ | .disable _ | .disableNuke _ | .setHalt _ _
  | .allocRequest | .queue _ _ _ _ | .dequeue _ _ | .start _ | .visit _ _ _ | .setup _ _ | .pass
  | .resume | .transferred _ | .cmdSubmit _ _ _ _ _ | .rx _ | .tx _ | .nuke _ | .eh _ =>
      inferInstanceAs (Decidable (True ∧ ∀ t ∈ step s _, Undisturbed e t))

/-! ## The order of the URBs -/

/-- The URBs of endpoint `e`: they have the direction of the endpoint, and are served in order. -/
structure Lined (e : Nat) (type : XferType) (toHost : Bool) (s : State) : Prop where
  old : ∀ n, n ∈ s.dev.accepted ∨ n ∈ s.dev.taken → n < s.dev.allocs
  sorted : s.dev.accepted.Pairwise (· < ·)
  eps : ∀ x ∈ line s.dev, x.2 = some (s.epOf x.1)
  held : ∀ p, s.dev.rx = .submit p →
    p.ep = some (s.epOf p.ticket) ∧ ∀ n ∈ s.dev.accepted, n < p.ticket
  enabled : ∀ b, s.desc e = some b → b = toHost ∧ (s.dev.ep e).type = type
  dir : ∀ n, s.epOf n = e → (s.urb n).toHost = toHost ∧ (s.dev.ep e).type = type
  order : mine e s s.dev.accepted = mine e s s.dev.taken ++ mine e s s.dev.tickets
  /-- A URB that `v_timer` works on is on the queue. -/
  serving : ∀ n, s.dev.timer.cur = some n → working s.dev.timer = true → s.epOf n = e →
    n ∈ s.dev.tickets ∧ type ≠ .isoc ∧ ∀ next total, s.dev.timer ≠ .setup n next total

/-- Only the endpoints of the listed URBs matter. -/
lemma mine_congr {l : List Nat} (h : ∀ n ∈ l, t.epOf n = s.epOf n) : mine e t l = mine e s l :=
  List.filter_congr fun n hn => by rw [h n hn]

/-- The URBs of an endpoint in two lists, one after the other. -/
lemma mine_append (l₁ l₂ : List Nat) : mine e s (l₁ ++ l₂) = mine e s l₁ ++ mine e s l₂ :=
  List.filter_append l₁ l₂

/-- One URB is the endpoint's or not. -/
lemma mine_singleton {n : Nat} : mine e s [n] = if s.epOf n = e then [n] else [] := by
  unfold mine
  by_cases h : s.epOf n = e
  · rw [if_pos h, List.filter_cons_of_pos (by simpa using h), List.filter_nil]
  · rw [if_neg h, List.filter_cons_of_neg (by simpa using h), List.filter_nil]

/-- No URB is the endpoint's. -/
lemma mine_eq_nil {l : List Nat} (h : ∀ n ∈ l, s.epOf n ≠ e) : mine e s l = [] :=
  List.filter_eq_nil_iff.mpr fun n hn => by simpa using h n hn

/-- The timer changes only the endpoints of the device it runs on. -/
lemma Timed.dev_eq {allocOk : Bool} (h : Timed e s t allocOk d) : ∃ ep, t.dev = { d with ep } := by
  rcases h.dev with hdev | ⟨c, hdev⟩
  · exact ⟨d.ep, hdev⟩
  · obtain ⟨ep, hep, -⟩ := c.setHalted_eq d
    exact ⟨ep, hdev.trans hep⟩

namespace Lined

/-- On a plain endpoint every step is a steady one. -/
lemma steady (hl : Lined e type toHost s) (hok : Plain e type toHost s a) : SteadyType e s a := by
  cases a with
  | enable j type' maxp toHost' =>
      rintro henables rfl hbulk
      obtain ⟨rfl, -⟩ := hok.1 rfl henables
      unfold Skipped
      rw [Bool.and_eq_false_iff]
      by_cases htype : (s.dev.ep j).type = .bulk
      swap
      · left
        simp [htype]
      right
      cases hcur : s.dev.timer.cur with
      | none => rfl
      | some n =>
          rw [Option.any_some, List.any_eq_false]
          intro x hx hxj
          have hep := hl.eps x ((List.takeWhile_sublist _).subset hx)
          have hxj' : x.2 = some j := by simpa using hxj
          exact hbulk ((hl.dir x.1 (Option.some.inj (hep.symm.trans hxj'))).2.symm.trans htype)
  | _ => trivial

/-- The first URB of the endpoint on the queue, where nothing of it stands in front. -/
lemma mine_split (hl : Lined e type toHost s) {l₁ l₂ : List (Nat × Option Nat)} {n : Nat}
    (hline : line s.dev = l₁ ++ (n, some e) :: l₂) (hfirst : ∀ x ∈ l₁, x.2 ≠ some e) :
    mine e s s.dev.tickets = n :: mine e s (l₂.map Prod.fst) ∧
      mine e s ((l₁ ++ l₂).map Prod.fst) = mine e s (l₂.map Prod.fst) := by
  have hnone : mine e s (l₁.map Prod.fst) = [] := by
    refine mine_eq_nil fun m hm => ?_
    obtain ⟨x, hx, rfl⟩ := List.mem_map.mp hm
    intro hxe
    have hep := hl.eps x (by rw [hline]; exact List.mem_append_left _ hx)
    rw [hxe] at hep
    exact hfirst x hx hep
  have hn : s.epOf n = e := by
    have hep := hl.eps (n, some e) (by rw [hline]; exact List.mem_append_right _ List.mem_cons_self)
    exact (Option.some.inj hep).symm
  refine ⟨?_, ?_⟩
  · rw [← map_fst_line, hline, List.map_append, List.map_cons, mine_append, hnone, List.nil_append,
      ← List.singleton_append, mine_append, mine_singleton, if_pos hn, List.singleton_append]
  · rw [List.map_append, mine_append, hnone, List.nil_append]

/-- A step of `v_timer` takes no URB of the endpoint off the queue, or the first. -/
lemma taken (hl : Lined e type toHost s) (hcalm : Undisturbed e s) {allocOk : Bool}
    (hs : Step e allocOk s.dev d) :
    (mine e s d.tickets = mine e s s.dev.tickets ∧ mine e s d.taken = mine e s s.dev.taken) ∨
      ∃ n, mine e s s.dev.tickets = n :: mine e s d.tickets ∧
        mine e s d.taken = mine e s s.dev.taken ++ [n] ∧ d.taken = s.dev.taken ++ [n] := by
  rcases hs.queue with ⟨hline, -, htaken⟩ | ⟨p, l₁, l₂, hline, hline', htaken, -, hkey, hfirst⟩
  · left
    rw [← map_fst_line, ← map_fst_line, hline, htaken]
    exact ⟨rfl, rfl⟩
  have hp : p.ep = some (s.epOf p.ticket) :=
    hl.eps (p.ticket, p.ep) (by rw [hline]; exact List.mem_append_right _ List.mem_cons_self)
  by_cases hmine : s.epOf p.ticket = e
  · right
    have hep : p.ep = some e := hmine ▸ hp
    have hunlinked : p.unlinked = 0 := by
      obtain ⟨q, hq, hqp⟩ := List.mem_map.mp hkey
      obtain ⟨hticket, hrest⟩ := Prod.mk.inj hqp
      have hqep : q.ep = some (s.epOf q.ticket) := hl.eps (q.ticket, q.ep) (List.mem_map_of_mem hq)
      rw [hticket, hmine] at hqep
      rw [← (Prod.mk.inj hrest).2]
      exact hcalm.linked q hq hqep
    rw [hep] at hline
    obtain ⟨htickets, hrest⟩ := hl.mine_split hline (hfirst hunlinked hep)
    refine ⟨p.ticket, ?_, ?_, htaken⟩
    · rw [← map_fst_line d, hline', hrest, htickets]
    · rw [htaken, mine_append, mine_singleton, if_pos hmine]
  · left
    refine ⟨?_, ?_⟩
    · rw [← map_fst_line, ← map_fst_line, hline, hline', List.map_append, List.map_append,
        List.map_cons, mine_append, mine_append, ← List.singleton_append, mine_append,
        mine_singleton, if_neg hmine, List.nil_append]
    · rw [htaken, mine_append, mine_singleton, if_neg hmine, List.append_nil]

/-- The steps of `v_timer`. -/
lemma timed (hl : Lined e type toHost s) (hcalm : Undisturbed e s) (hscan : Scan e s.dev)
    {allocOk : Bool} (htimed : Timed e s t allocOk d) (hepOf : t.epOf = s.epOf)
    (hdesc : t.desc = s.desc)
    (hdir : ∀ n, s.epOf n = e → (t.urb n).toHost = (s.urb n).toHost)
    (htype : (t.dev.ep e).type = (s.dev.ep e).type)
    (hserving : ∀ n, t.dev.timer.cur = some n → working t.dev.timer = true → s.epOf n = e →
      n ∈ t.dev.tickets ∧ type ≠ .isoc ∧ ∀ next total, t.dev.timer ≠ .setup n next total) :
    Lined e type toHost t := by
  have hs := htimed.step
  obtain ⟨ep, hdev⟩ := htimed.dev_eq
  have hmine : ∀ l, mine e t l = mine e s l := fun l => mine_congr fun n _ => by rw [hepOf]
  have hsub : ∀ x ∈ line d, x ∈ line s.dev := fun x hx => hs.sublist.subset hx
  refine ⟨?_, ?_, ?_, ?_, ?_, ?_, ?_, by rw [hepOf]; exact hserving⟩
  · rw [hdev]
    show ∀ n, n ∈ d.accepted ∨ n ∈ d.taken → n < d.allocs
    rw [hs.accepted, hs.allocs]
    rcases hs.queue with ⟨-, -, htaken⟩ | ⟨p, l₁, l₂, hline, -, htaken, -⟩
    · rw [htaken]
      exact hl.old
    · intro n hn
      rw [htaken, List.mem_append, List.mem_singleton, ← or_assoc] at hn
      rcases hn with hn | rfl
      · exact hl.old n hn
      · refine hscan.below _ ?_
        rw [← map_fst_line, hline]
        simp
  · rw [htimed.accepted]
    exact hl.sorted
  · rw [hdev, hepOf]
    exact fun x hx => hl.eps x (hsub x hx)
  · rw [htimed.accepted, hdev, hepOf]
    intro p hp
    exact hl.held p (hs.rx ▸ hp)
  · rw [hdesc, htype]
    exact hl.enabled
  · rw [hepOf, htype]
    intro n hn
    rw [hdir n hn]
    exact hl.dir n hn
  · rw [hdev]
    show mine e t d.accepted = mine e t d.taken ++ mine e t d.tickets
    rw [hmine, hmine, hmine, hs.accepted, hl.order]
    rcases hl.taken hcalm hs with ⟨htickets, htaken⟩ | ⟨n, htickets, htaken, -⟩
    · rw [htickets, htaken]
    · rw [htickets, htaken, List.append_assoc, List.singleton_append]

/-- The steps outside `v_timer` that change no URB. -/
lemma other (hl : Lined e type toHost s) (hscan : Scan e s.dev) (hcalm : Undisturbed e t)
    (h : Other s.dev t.dev) (hrx : NoSubmit s.dev t.dev) (hepOf : t.epOf = s.epOf)
    (hurb : t.urb = s.urb) (hdesc : ∀ b, t.desc e = some b → s.desc e = some b) :
    Lined e type toHost t := by
  have hmine : ∀ l, mine e t l = mine e s l := fun l => mine_congr fun n _ => by rw [hepOf]
  have htickets : (line t.dev).map Prod.fst = t.dev.tickets := map_fst_line t.dev
  have henabled : ∀ b, t.desc e = some b → b = toHost ∧ (t.dev.ep e).type = type := by
    rw [h.ep]
    exact fun b hb => hl.enabled b (hdesc b hb)
  have hdir : ∀ n, t.epOf n = e → (t.urb n).toHost = toHost ∧ (t.dev.ep e).type = type := by
    rw [hepOf, hurb, h.ep]
    exact hl.dir
  have hserves : (∀ n, n ∈ s.dev.tickets → s.epOf n = e → n ∈ t.dev.tickets) →
      ∀ n, t.dev.timer.cur = some n → working t.dev.timer = true → t.epOf n = e →
        n ∈ t.dev.tickets ∧ type ≠ .isoc ∧ ∀ next total, t.dev.timer ≠ .setup n next total := by
    intro hkeeps n hcur hworking hn
    rw [h.timer] at hcur hworking ⊢
    rw [hepOf] at hn
    obtain ⟨hmem, hrest⟩ := hl.serving n hcur hworking hn
    exact ⟨hkeeps n hmem hn, hrest⟩
  -- the queue is as it was
  have hsame : line t.dev = line s.dev → t.dev.accepted = s.dev.accepted →
      s.dev.allocs ≤ t.dev.allocs → Lined e type toHost t := by
    intro hline haccepted hallocs
    have hqueue : t.dev.tickets = s.dev.tickets := by
      rw [← htickets, hline, map_fst_line]
    refine ⟨?_, haccepted ▸ hl.sorted, ?_, ?_, henabled, hdir, ?_,
      hserves fun n hn _ => by rwa [hqueue]⟩
    · rw [haccepted, h.taken]
      exact fun n hn => Nat.lt_of_lt_of_le (hl.old n hn) hallocs
    · rw [hline, hepOf]
      exact hl.eps
    · rw [haccepted, hepOf]
      exact fun p hp => hl.held p (hrx p hp)
    · rw [hmine, hmine, hmine, hqueue, haccepted, h.taken, hl.order]
  rcases h.moves with ⟨hline, haccepted, -, hallocs⟩ | ⟨hline, haccepted, -, hallocs⟩ |
    ⟨k, i, hline, haccepted, hk, hnone, hallocs, p, hp, rfl, rfl⟩ |
    ⟨hline, haccepted, -, hallocs, hstopped⟩
  · exact hsame hline haccepted hallocs
  · exact hsame hline haccepted (by omega)
  · obtain ⟨hep, hnewest⟩ := hl.held p hp
    refine ⟨?_, ?_, ?_, ?_, henabled, hdir, ?_, hserves ?_⟩
    · intro n hn
      rw [haccepted, h.taken, List.mem_append, List.mem_singleton] at hn
      rw [hallocs]
      rcases hn with (hn | rfl) | hn
      · exact hl.old n (Or.inl hn)
      · refine hscan.below p.ticket ?_
        rw [hk]
        simp
      · exact hl.old n (Or.inr hn)
    · rw [haccepted]
      refine List.pairwise_append.mpr ⟨hl.sorted, List.pairwise_singleton _ _, ?_⟩
      intro n hn m hm
      obtain rfl := List.mem_singleton.mp hm
      exact hnewest n hn
    · intro x hx
      rw [hline] at hx
      rw [hepOf]
      rcases List.mem_append.mp hx with hx | hx
      · exact hl.eps x hx
      · obtain rfl := List.mem_singleton.mp hx
        exact hep
    · intro q hq
      rw [hq] at hnone
      cases hnone
    · rw [hmine, hmine, hmine, haccepted, h.taken, ← htickets, hline, List.map_append,
        map_fst_line, mine_append, mine_append, hl.order, List.append_assoc]
      rfl
    · intro n hn _
      rw [← htickets, hline, List.map_append, map_fst_line]
      exact List.mem_append_left _ hn
  · -- `stop_activity` has freed no URB of the endpoint
    have hgone : ∀ n ∈ s.dev.tickets, s.epOf n ≠ e := by
      intro n hn
      rw [← hepOf]
      exact hcalm.kept n (by rw [hstopped]; exact List.mem_append_right _ hn)
    refine ⟨?_, haccepted ▸ hl.sorted, ?_, ?_, henabled, hdir, ?_,
      hserves fun n hn hne => absurd hne (hgone n hn)⟩
    · rw [haccepted, h.taken, hallocs]
      exact hl.old
    · rw [hline]
      exact fun x hx => absurd hx List.not_mem_nil
    · rw [haccepted, hepOf]
      exact fun p hp => hl.held p (hrx p hp)
    · have hempty : mine e s s.dev.tickets = [] := mine_eq_nil hgone
      rw [hmine, hmine, hmine, haccepted, h.taken, ← htickets, hline, hl.order, hempty]
      rfl

/-- A new URB. -/
lemma submit (hl : Lined e type toHost s) (hscan : Scan e s.dev) (he : e ≠ 0) {n : Seqnum} {i : Nat}
    {dir zeroPacket : Bool} {data : List Byte}
    (hd : Device.stepRx s.dev (.cmdSubmit n i (BitVec.ofNat 32 data.length)) = some d)
    (hfinds : finds i dir s = true) : Lined e type toHost { s with
      dev := d
      urb := Function.update s.urb s.dev.allocs
        ⟨dir, data, 0, zeroPacket, -EINPROGRESS, Nat.zero_le _⟩
      epOf := Function.update s.epOf s.dev.allocs i } := by
  simp only [Device.stepRx] at hd
  split at hd <;> cases hd
  have hkeep : ∀ n, n < s.dev.allocs → Function.update s.epOf s.dev.allocs i n = s.epOf n :=
    fun n hn => Function.update_of_ne (Nat.ne_of_lt hn) _ _
  have htickets : ∀ n ∈ s.dev.tickets, n < s.dev.allocs := fun n hn =>
    hscan.below n (List.mem_append_left _ (List.mem_append_left _ hn))
  refine ⟨fun n hn => Nat.lt_succ_of_lt (hl.old n hn), hl.sorted, ?_, ?_, hl.enabled, ?_, ?_, ?_⟩
  · intro x hx
    show x.2 = some (Function.update s.epOf s.dev.allocs i x.1)
    rw [hkeep _ (htickets _ (by rw [← map_fst_line]; exact List.mem_map_of_mem hx))]
    exact hl.eps x hx
  · intro p hp
    obtain rfl := Device.RxPc.submit.inj hp
    refine ⟨?_, fun n hn => hl.old n (Or.inl hn)⟩
    show some i = some (Function.update s.epOf s.dev.allocs i s.dev.allocs)
    rw [Function.update_self]
  · intro m hm
    show (Function.update s.urb s.dev.allocs _ m).toHost = toHost ∧ (s.dev.ep e).type = type
    by_cases hnew : m = s.dev.allocs
    · subst hnew
      obtain rfl : i = e := (Function.update_self s.dev.allocs i s.epOf).symm.trans hm
      rw [Function.update_self]
      exact hl.enabled dir (by simpa [finds, he] using hfinds)
    · rw [Function.update_of_ne hnew]
      exact hl.dir m ((Function.update_of_ne hnew i s.epOf).symm.trans hm)
  · show mine e _ s.dev.accepted = mine e _ s.dev.taken ++ mine e _ s.dev.tickets
    rw [mine_congr fun n hn => hkeep n (hl.old n (Or.inl hn)),
      mine_congr fun n hn => hkeep n (hl.old n (Or.inr hn)),
      mine_congr fun n hn => hkeep n (htickets n hn)]
    exact hl.order
  · intro m hcur hworking hm
    refine hl.serving m hcur hworking ?_
    rw [← hkeep m (hscan.below m (List.mem_append_right _ (mem_urbps_of_cur hcur)))]
    exact hm

/-- Every step outside `v_timer`. -/
lemma quiet (hl : Lined e type toHost s) (hscan : Scan e s.dev) (he : e ≠ 0)
    (hok : Plain e type toHost s a) (hcalm : Undisturbed e t) (h : Quiet a s t) :
    Lined e type toHost t := by
  cases h with
  | device d moved frameSpeed maxpacket driver hother hrx =>
      exact hl.other hscan hcalm hother hrx rfl rfl fun _ h => h
  | submit d n i dir data zeroPacket _ hd hfinds => exact hl.submit hscan he hd hfinds
  | requests d queue desc disabling udc requests oops queued given dequeued hother hrx hdesc =>
      refine hl.other hscan hcalm hother hrx rfl rfl ?_
      rcases hdesc with rfl | ⟨i, rfl, rfl⟩
      · exact fun _ h => h
      · intro b hb
        by_cases hie : e = i
        · subst hie
          cases (Function.update_self e none s.desc).symm.trans hb
        · exact (Function.update_of_ne hie none s.desc).symm.trans hb
  | endpoint i f maxpacket desc _ _ _ htype =>
      obtain ⟨henabled, hkeeps⟩ : (∀ b, desc e = some b → b = toHost ∧
          ((setEp i f s.dev).ep e).type = type) ∧
            ((s.dev.ep e).type = type → ((setEp i f s.dev).ep e).type = type) := by
        by_cases hie : e = i
        swap
        · have hep : (setEp i f s.dev).ep e = s.dev.ep e := Function.update_of_ne hie _ _
          rw [hep]
          refine ⟨fun b hb => hl.enabled b ?_, id⟩
          rcases htype with ⟨-, rfl⟩ | ⟨_, dir, -, -, rfl⟩
          · exact hb
          · exact (Function.update_of_ne hie (some dir) s.desc).symm.trans hb
        subst hie
        have hep : (setEp e f s.dev).ep e = f (s.dev.ep e) := Function.update_self _ _ _
        rw [hep]
        rcases htype with ⟨hsame, rfl⟩ | ⟨_, dir, rfl, henables, rfl⟩
        · rw [hsame]
          exact ⟨hl.enabled, id⟩
        · obtain ⟨htype, rfl⟩ := hok.1 rfl henables
          refine ⟨fun b hb => ⟨?_, htype⟩, fun _ => htype⟩
          exact (Option.some.inj ((Function.update_self e (some dir) s.desc).symm.trans hb)).symm
      refine ⟨hl.old, hl.sorted, hl.eps, hl.held, henabled, ?_, hl.order, hl.serving⟩
      intro n hn
      obtain ⟨hdir, htype'⟩ := hl.dir n hn
      exact ⟨hdir, hkeeps htype'⟩

end Lined

/-! ## The steps of `v_timer` -/

/-- A step of `v_timer` takes no URB off the queue, or the one it works on. -/
lemma taken_stepTimer {b : Device.TimerAction} (hnodup : s.dev.tickets.Nodup)
    (h : Device.stepTimer s.dev b = some d) :
    d.taken = s.dev.taken ∧ d.tickets = s.dev.tickets ∨
      ∃ n, s.dev.timer.cur = some n ∧ d.taken = s.dev.taken ++ [n] ∧ Returned s.dev d := by
  rcases Device.stepTimer_cases hnodup h with ⟨hframe, -⟩ | ⟨d', n, total, hframe, -, hcur, hret⟩
  · exact Or.inl ⟨hframe.taken, hframe.tickets⟩
  · obtain ⟨_, -, -, -, -, htaken, -⟩ := Device.returnUrb_cases hret
    refine Or.inr ⟨n, hcur, ?_, returned_of_returnUrb hframe.tickets hret⟩
    rw [htaken, hframe.taken]

/-- Behind a return the timer works on no URB. -/
lemma Returned.not_working (h : Returned s.dev d) : working d.timer = false := by
  obtain ⟨cur, total, hpc⟩ := h.visit
  rw [hpc]
  rfl

/-- A step that leaves the queue alone takes no URB off it. -/
lemma taken_of_tickets {b : Device.TimerAction} (hnodup : s.dev.tickets.Nodup)
    (h : Device.stepTimer s.dev b = some d) (htickets : d.tickets = s.dev.tickets) :
    d.taken = s.dev.taken := by
  rcases taken_stepTimer hnodup h with ⟨htaken, -⟩ | ⟨n, -, -, hreturned⟩
  · exact htaken
  · have hlen := hreturned.length
    rw [htickets] at hlen
    exact absurd hlen (Nat.succ_ne_self _)

/-- The URB that is taken is the one visited. -/
lemma eq_of_taken {b : Device.TimerAction} {m n : Nat} (hnodup : s.dev.tickets.Nodup)
    (h : Device.stepTimer s.dev b = some d) (hcur : s.dev.timer.cur = some m)
    (htaken : d.taken = s.dev.taken ++ [n]) : m = n := by
  rcases taken_stepTimer hnodup h with ⟨hsame, -⟩ | ⟨k, hk, htaken', -⟩
  · exact absurd (hsame.symm.trans htaken) (by simp)
  · obtain rfl : k = n := by simpa using htaken'.symm.trans htaken
    exact Option.some.inj (hcur.symm.trans hk)

/-- The URB visited is the one worked on. -/
lemma Visited.cur {n : Nat} {total : Int} {goto : Device.Next} {d d' : Device.State}
    (h : Visited n total d d' goto) (hworking : working d'.timer = true) :
    d'.timer.cur = some n := by
  cases h with
  | returned hreturned =>
      obtain ⟨cur, total, hpc⟩ := hreturned.visit
      rw [hpc] at hworking
      cases hworking
  | skipped _ hpc =>
      rw [hpc] at hworking
      cases hworking
  | setup _ hpc | transfer _ hpc =>
      rw [hpc]
      rfl

/-- A step of `v_timer` that moves no data of endpoint `e`. -/
structure Rounds (e : Nat) (type : XferType) (s t : State) : Prop where
  epOf : t.epOf = s.epOf
  desc : t.desc = s.desc
  queue : t.queue e = s.queue e
  queued : t.queued = s.queued
  given : (t.given.filter fun x => x.1 = e) = s.given.filter fun x => x.1 = e
  urbs : ∀ n, s.epOf n = e → t.urb n = s.urb n
  types : (t.dev.ep e).type = (s.dev.ep e).type
  /-- A URB that is taken off the queue has ended, or is isochronous. -/
  ends : ∀ n, t.dev.taken = s.dev.taken ++ [n] → s.epOf n = e →
    (s.urb n).status ≠ -EINPROGRESS ∨ type = .isoc
  serving : ∀ n, t.dev.timer.cur = some n → working t.dev.timer = true → s.epOf n = e →
    n ∈ t.dev.tickets ∧ type ≠ .isoc ∧ ∀ next total, t.dev.timer ≠ .setup n next total

/-- `v_timer` comes to a URB. -/
lemma rounds_visit {allocOk : Bool} {ret : Int} {c : Control} (hl : Lined e type toHost s)
    (hscan : Scan e s.dev) (hcalm : Undisturbed e s) (he : e ≠ 0)
    (h : visit allocOk ret c s = some t) : Rounds e type s t := by
  obtain ⟨w, d, hd, hcases⟩ := visit_cases h
  have hnodup := hscan.tickets_nodup
  have htype := type_stepTimer hd e
  obtain ⟨ep, hdev, hep⟩ : ∃ ep, t.dev = { d with ep } ∧ (ep e).type = (d.ep e).type := by
    rcases hcases with ⟨rfl, -⟩ | ⟨_, _, _, -, -, ⟨-, rfl⟩ | ⟨-, -, rfl⟩⟩
    · exact ⟨d.ep, rfl, rfl⟩
    · exact ⟨d.ep, rfl, rfl⟩
    · obtain ⟨ep, heq, hsame⟩ := c.setHalted_eq d
      exact ⟨ep, heq, (hsame e).2⟩
  have hdata : t.epOf = s.epOf ∧ t.desc = s.desc ∧ t.queue = s.queue ∧ t.queued = s.queued ∧
      t.given = s.given := by
    rcases hcases with ⟨rfl, -⟩ | ⟨_, _, _, -, -, ⟨-, rfl⟩ | ⟨-, -, rfl⟩⟩ <;>
      exact ⟨rfl, rfl, rfl, rfl, rfl⟩
  obtain ⟨hepOf, hdesc, hqueue, hqueued, hgiven⟩ := hdata
  have hfind : ∀ {n p}, s.dev.urbQueue.find? (fun p => p.ticket = n) = some p →
      p.ep = some (s.epOf n) := by
    intro n p hf
    have hp : p.ticket = n := by simpa using List.find?_some hf
    rw [← hp]
    exact hl.eps (p.ticket, p.ep) (List.mem_map_of_mem (List.mem_of_find?_eq_some hf))
  have hurbs : ∀ m, s.epOf m = e → t.urb m = s.urb m := by
    intro m hm
    rcases hcases with ⟨rfl, -⟩ | ⟨n, total, p, -, hf, ⟨-, rfl⟩ | ⟨hctl, -, rfl⟩⟩
    · rfl
    · rfl
    · refine Function.update_of_ne ?_ _ _
      rintro rfl
      simp only [handlesControl, Bool.decide_and, Bool.and_eq_true, decide_eq_true_eq] at hctl
      have hzero := (hfind hf).symm.trans hctl.2.2.1
      exact he (hm.symm.trans (Option.some.inj hzero))
  suffices hgoes : (∀ n, d.taken = s.dev.taken ++ [n] → s.epOf n = e →
      type = .isoc) ∧ ∀ n, d.timer.cur = some n → working d.timer = true →
        s.epOf n = e → n ∈ d.tickets ∧ type ≠ .isoc ∧
          ∀ next total, d.timer ≠ .setup n next total by
    refine ⟨hepOf, hdesc, by rw [hqueue], hqueued, by rw [hgiven], hurbs, ?_, ?_, ?_⟩
    · rw [hdev]
      exact hep.trans htype
    · rw [hdev]
      exact fun n htaken hn => Or.inr (hgoes.1 n htaken hn)
    · rw [hdev]
      exact hgoes.2
  cases htimer : s.dev.timer with
  | idle | setup | transfer | giveback => simp [Device.stepTimer, htimer] at hd
  | visit cur total =>
      cases cur with
      | none =>
          obtain ⟨htickets, hidle⟩ := visit_end htimer hd
          refine ⟨fun n htaken => ?_, fun n _ hworking => ?_⟩
          · rw [taken_of_tickets hnodup hd htickets] at htaken
            exact absurd htaken (by simp)
          · rw [hidle] at hworking
            cases hworking
      | some m =>
          obtain ⟨p, hf, hgoes⟩ := visit_device htimer hd
          have hcur : s.dev.timer.cur = some m := by
            rw [htimer]
            rfl
          by_cases hm : s.epOf m = e
          swap
          · refine ⟨fun n htaken hn => ?_, fun n hcur' hworking hn => ?_⟩
            · rw [eq_of_taken hnodup hd hcur htaken] at hm
              exact absurd hn hm
            · rw [hgoes.cur hworking] at hcur'
              exact absurd (Option.some.inj hcur' ▸ hn) hm
          have hpe : p.ep = some e := hm ▸ hfind hf
          have hunlinked : p.unlinked = 0 := hcalm.linked p (List.mem_of_find?_eq_some hf) hpe
          have hmem := Device.mem_tickets_of_find? hf
          have hsametype := (hl.dir m hm).2
          rcases @visitUrbp_of_running (s.dev.trState = .running) total ret w s.dev.ep p.toUrbp e he
            hpe hunlinked hcalm.halted with hnext | ⟨hnext, hisoc⟩ | ⟨hnext, hisoc⟩
          · rw [hnext] at hgoes
            cases hgoes with
            | skipped htickets hpc =>
                refine ⟨fun n htaken => ?_, fun n _ hworking => ?_⟩
                · rw [taken_of_tickets hnodup hd htickets] at htaken
                  exact absurd htaken (by simp)
                · rw [hpc] at hworking
                  cases hworking
          · rw [hnext] at hgoes
            cases hgoes with
            | returned hreturned =>
                refine ⟨fun _ _ _ => hsametype ▸ hisoc, fun n _ hworking => ?_⟩
                rw [hreturned.not_working] at hworking
                cases hworking
          · rw [hnext] at hgoes
            have hsame := fun n hworking (hcur' : d.timer.cur = some n) =>
              Option.some.inj ((hgoes.cur hworking).symm.trans hcur')
            cases hgoes with
            | transfer htickets hpc =>
                refine ⟨fun n htaken => ?_, fun n hcur' hworking _ => ?_⟩
                · rw [taken_of_tickets hnodup hd htickets] at htaken
                  exact absurd htaken (by simp)
                · rw [← hsame n hworking hcur', htickets, hpc]
                  exact ⟨hmem, hsametype ▸ hisoc, fun _ _ h => (by cases h)⟩

/-- A new timer keeps the rounds. -/
lemma rounds_start {now : Int} (h : start now s = some t) : Rounds e type s t := by
  obtain ⟨d, hd, rfl⟩ := Option.map_eq_some_iff.mp h
  have htype := type_stepTimer hd e
  have hrest : d.taken = s.dev.taken ∧ working d.timer = false := by
    simp only [Device.stepTimer] at hd
    split at hd
    · rename_i hidle
      split at hd <;> cases hd
      unfold Device.vTimerStart
      dsimp only
      split
      · exact ⟨rfl, by rw [hidle]; rfl⟩
      · exact ⟨rfl, rfl⟩
    · cases hd
  refine ⟨rfl, rfl, rfl, rfl, rfl, fun _ _ => rfl, htype, fun n htaken => ?_,
    fun n _ hworking => ?_⟩
  · exact absurd (hrest.1.symm.trans htaken) (by simp)
  · exact absurd (hrest.2.symm.trans hworking) (by decide)

/-- The setup stage keeps the rounds. -/
lemma rounds_setup {allocOk : Bool} {ret : Int} (hl : Lined e type toHost s) (hscan : Scan e s.dev)
    (h : setup allocOk ret s = some t) : Rounds e type s t := by
  obtain ⟨d, hd, rfl⟩ := Option.map_eq_some_iff.mp h
  have htype := type_stepTimer hd e
  have htaken := fun m n => @eq_of_taken s d (.setup allocOk ret) m n hscan.tickets_nodup hd
  simp only [Device.stepTimer] at hd
  split at hd
  · rename_i n next total hpc
    have hcur : s.dev.timer.cur = some n := by
      rw [hpc]
      rfl
    have hn : s.epOf n ≠ e := fun hn =>
      (hl.serving n hcur (by rw [hpc]; rfl) hn).2.2 next total hpc
    refine ⟨rfl, rfl, rfl, rfl, rfl, fun _ _ => rfl, htype, fun m hm => ?_, fun m hcur' hworking => ?_⟩
    · rw [← htaken n m hcur hm]
      exact fun h => absurd h hn
    · split at hd
      · cases hd
      split at hd
      · cases hd
        obtain rfl : n = m := Option.some.inj hcur'
        exact fun h => absurd h hn
      · have hreturned : Returned s.dev d :=
          returned_of_returnUrb (tickets_writeUrbp n (Device.writeProgress ⟨-EPIPE, 0⟩) s.dev) hd
        exact absurd (hreturned.not_working.symm.trans hworking) (by decide)
  · cases hd

/-- Going on keeps the rounds. -/
lemma rounds_resume (hl : Lined e type toHost s) (h : resume s = some t) : Rounds e type s t := by
  obtain ⟨d, hd, rfl⟩ := Option.map_eq_some_iff.mp h
  simp only [Device.stepTimer] at hd
  split at hd
  · rename_i n next total hpc
    split at hd <;> cases hd
    refine ⟨rfl, rfl, rfl, rfl, rfl, fun _ _ => rfl, rfl, fun m hm => absurd hm (by simp),
      fun m hcur _ hm => ?_⟩
    obtain rfl : n = m := Option.some.inj hcur
    obtain ⟨hmem, hisoc, -⟩ := hl.serving n (by rw [hpc]; rfl) (by rw [hpc]; rfl) hm
    exact ⟨hmem, hisoc, fun _ _ h => (by cases h)⟩
  · cases hd

/-- The end of a transfer keeps the rounds. -/
lemma rounds_transferred {allocOk : Bool} (hscan : Scan e s.dev)
    (h : transferred allocOk s = some t) : Rounds e type s t := by
  obtain ⟨n, next, total, d, hpc, -, hd, rfl⟩ := transferred_cases h
  have htype := type_stepTimer hd e
  have hcur : s.dev.timer.cur = some n := by
    rw [hpc]
    rfl
  have htaken := fun m => @eq_of_taken s d
    (.transferred allocOk s.sent (progress (s.urb n))) n m hscan.tickets_nodup hd hcur
  simp only [Device.stepTimer, hpc] at hd
  split at hd
  · cases hd
    refine ⟨rfl, rfl, rfl, rfl, rfl, fun _ _ => rfl, htype, fun m hm => ?_,
      fun m _ hworking => (by cases hworking)⟩
    have hsame : s.dev.taken = s.dev.taken ++ [m] := hm
    exact absurd hsame (by simp)
  · rename_i hends
    have hreturned : Returned s.dev d :=
      returned_of_returnUrb (tickets_writeUrbp n (Device.writeProgress (progress (s.urb n))) s.dev) hd
    refine ⟨rfl, rfl, rfl, rfl, rfl, fun _ _ => rfl, htype, fun m hm _ => Or.inl ?_,
      fun m _ hworking => ?_⟩
    · rw [← htaken m hm]
      exact hends
    · exact absurd (hreturned.not_working.symm.trans hworking) (by decide)

/-- A pass leaves `v_timer` with the URB. -/
lemma pass_device {n : Nat} {next : Option Nat} {total : Int} {w : Progress} {b : BitVec 32}
    (hpc : s.dev.timer = .transfer n next total)
    (h : b = -EINPROGRESS ∧ d = s.dev ∨
      b ≠ -EINPROGRESS ∧ Device.stepTimer s.dev (.giveback w) = some d) :
    d.tickets = s.dev.tickets ∧ d.taken = s.dev.taken ∧ d.accepted = s.dev.accepted ∧
      d.rx = s.dev.rx ∧ d.ep = s.dev.ep ∧ d.timer.cur = some n ∧
        ∀ next total, d.timer ≠ .setup n next total := by
  rcases h with ⟨-, rfl⟩ | ⟨-, hd⟩
  · refine ⟨rfl, rfl, rfl, rfl, rfl, by rw [hpc]; rfl, fun next' total' => ?_⟩
    rw [hpc]
    exact fun h => (by cases h)
  · simp only [Device.stepTimer, hpc] at hd
    cases hd
    exact ⟨tickets_writeUrbp n (Device.writeProgress w) s.dev, rfl, rfl, rfl, rfl, rfl,
      fun _ _ h => (by cases h)⟩

/-- A pass of `transfer` for the URB `n` of endpoint `e`. -/
structure Passes (e : Nat) (s t : State) (n : Nat) (r : VRequest) (rest : List VRequest)
    (b : Exchanged) : Prop where
  working : working s.dev.timer = true
  cur : s.dev.timer.cur = some n
  mine : s.epOf n = e
  epOf : t.epOf = s.epOf
  desc : t.desc = s.desc
  queued : t.queued = s.queued
  tickets : t.dev.tickets = s.dev.tickets
  accepted : t.dev.accepted = s.dev.accepted
  rx : t.dev.rx = s.dev.rx
  ep : t.dev.ep = s.dev.ep
  moved : b = (batch (s.maxpacket e) (s.urb n) r).1
  urb : t.urb = Function.update s.urb n b.urb
  queue : s.queue e = r :: rest
  /-- The request stays, or is given back. -/
  requests : b.reqStatus = -EINPROGRESS ∧ t.queue e = b.req :: rest ∧ t.given = s.given ∨
    b.reqStatus ≠ -EINPROGRESS ∧ t.queue e = rest ∧
      t.given = s.given ++ [(e, b.req, b.reqStatus)]
  goesOn : t.dev.timer.cur = some n ∧ ∀ next total, t.dev.timer ≠ .setup n next total

/-- A pass moves data between the URB and the first request. -/
lemma passes_of_pass (h : pass s = some t) {n : Nat} {next : Option Nat} {total : Int}
    (hpc : s.dev.timer = .transfer n next total) : ∃ r rest b, Passes (s.epOf n) s t n r rest b := by
  obtain ⟨n', next', total', r, rest, hpc', -, hqueue, b, hb, dev, queue, given, rfl, hdev⟩ :=
    pass_cases h
  obtain rfl : n = n' := by
    rw [hpc] at hpc'
    cases hpc'
    rfl
  have hdevice : b.reqStatus = -EINPROGRESS ∧ dev = s.dev ∨ b.reqStatus ≠ -EINPROGRESS ∧
      Device.stepTimer s.dev (.giveback (progress b.urb)) = some dev :=
    hdev.imp (fun h => ⟨h.1, h.2.1⟩) fun h => ⟨h.1, h.2.1⟩
  obtain ⟨htickets, -, haccepted, hrx, hep, hgoesOn⟩ := pass_device hpc hdevice
  refine ⟨r, rest, b, by rw [hpc]; rfl, by rw [hpc]; rfl, rfl, rfl, rfl, rfl, htickets, haccepted,
    hrx, hep, hb, rfl, hqueue, ?_, hgoesOn⟩
  have hqueue' : Function.update s.queue (s.epOf n) queue (s.epOf n) = queue :=
    Function.update_self _ _ _
  rcases hdev with ⟨hstatus, -, rfl, rfl⟩ | ⟨hstatus, -, rfl, rfl⟩
  · exact Or.inl ⟨hstatus, hqueue', rfl⟩
  · exact Or.inr ⟨hstatus, hqueue', rfl⟩

/-- A pass that serves another endpoint. -/
lemma rounds_pass (h : pass s = some t)
    (hother : ∀ n next total, s.dev.timer = .transfer n next total → s.epOf n ≠ e) :
    Rounds e type s t := by
  obtain ⟨n, next, total, r, rest, hpc, -, hqueue, b, hb, dev, queue, given, rfl, hdev⟩ :=
    pass_cases h
  have hn := hother n next total hpc
  have hdevice : b.reqStatus = -EINPROGRESS ∧ dev = s.dev ∨ b.reqStatus ≠ -EINPROGRESS ∧
      Device.stepTimer s.dev (.giveback (progress b.urb)) = some dev :=
    hdev.imp (fun h => ⟨h.1, h.2.1⟩) fun h => ⟨h.1, h.2.1⟩
  obtain ⟨-, htaken, -, -, hep, hcur, -⟩ := pass_device hpc hdevice
  have hgiven : (given.filter fun x => x.1 = e) = s.given.filter fun x => x.1 = e := by
    rcases hdev with ⟨-, -, -, rfl⟩ | ⟨-, -, -, rfl⟩
    · rfl
    · rw [List.filter_append, List.filter_cons_of_neg (by simpa using hn), List.filter_nil,
        List.append_nil]
  refine ⟨rfl, rfl, Function.update_of_ne (Ne.symm hn) _ _, rfl, hgiven, fun m hm => ?_, ?_,
    fun m hm => ?_, fun m hcur' _ hm => ?_⟩
  · refine Function.update_of_ne ?_ _ _
    rintro rfl
    exact hn hm
  · rw [hep]
  · have hsame : s.dev.taken = s.dev.taken ++ [m] := htaken.symm.trans hm
    exact absurd hsame (by simp)
  · obtain rfl : n = m := Option.some.inj (hcur.symm.trans hcur')
    exact absurd hm hn

/-- Every step of `v_timer` but a pass of `transfer`. -/
lemma rounds_step (hl : Lined e type toHost s) (hscan : Scan e s.dev) (hcalm : Undisturbed e s)
    (he : e ≠ 0) (ha : a.timer = true) (hpass : a ≠ .pass) (h : step s a = some t) :
    Rounds e type s t := by
  cases a with
  | start now => exact rounds_start h
  | visit allocOk ret c => exact rounds_visit hl hscan hcalm he h
  | setup allocOk ret => exact rounds_setup hl hscan h
  | pass => exact absurd rfl hpass
  | resume => exact rounds_resume hl h
  | transferred allocOk => exact rounds_transferred hscan h
  | _ => cases ha

/-! ## The data -/

/-- What was delivered, and what the URBs and the requests hold, is what was offered.  Only the
first URB and the first request have moved data. -/
structure Bytes (e : Nat) (type : XferType) (toHost : Bool) (s : State) : Prop where
  fresh : ∀ p, s.dev.rx = .submit p → s.epOf p.ticket = e →
    (s.urb p.ticket).actualLength = 0 ∧ (s.urb p.ticket).status = -EINPROGRESS
  behind : ∀ n ∈ (mine e s s.dev.tickets).tail, (s.urb n).actualLength = 0
  /-- A URB from the host that has ended is used up. -/
  used : toHost = false → ∀ n ∈ mine e s s.dev.tickets, (s.urb n).status ≠ -EINPROGRESS →
    (s.urb n).left = 0
  waiting : ∀ r ∈ (s.queue e).tail, r.actual = 0
  input : toHost = true → ((mine e s s.dev.accepted).flatMap fun n => (s.urb n).done) ++
    (s.queue e).flatMap VRequest.rest = inputOffered e s
  output : toHost = false → type ≠ .isoc → outputDelivered e s ++
    ((s.queue e).flatMap VRequest.done ++
      (mine e s s.dev.tickets).flatMap fun n => (s.urb n).rest) = outputOffered e s
  /-- No data is moved from isochronous URBs. -/
  unserved : type = .isoc → (s.given.filter fun x => x.1 = e) = []

/-- What is behind the first is behind it, or is the last. -/
lemma mem_tail_concat {α : Type} {l : List α} {x y : α} (h : x ∈ (l ++ [y]).tail) :
    x ∈ l.tail ∨ x = y := by
  cases l with
  | nil => exact absurd h List.not_mem_nil
  | cons z l => exact (List.mem_append.mp h).imp id List.mem_singleton.mp

/-- The URBs of an endpoint in a list. -/
lemma mem_mine {n : Nat} {l : List Nat} : n ∈ mine e s l ↔ n ∈ l ∧ s.epOf n = e := by
  rw [mine, List.mem_filter, decide_eq_true_eq]

/-- A pass for a URB of the endpoint. -/
lemma Lined.passes (hl : Lined e type toHost s) (hcalm : Undisturbed e s) (hscan : Scan e s.dev)
    {allocOk : Bool} (htimed : Timed e s t allocOk d) {n : Nat} {r : VRequest}
    {rest : List VRequest} {b : Exchanged} (h : Passes e s t n r rest b) :
    Lined e type toHost t := by
  obtain ⟨hmem, hisoc, -⟩ := hl.serving n h.cur h.working h.mine
  refine hl.timed hcalm hscan htimed h.epOf h.desc ?_ (by rw [h.ep]) ?_
  · intro m _
    rw [h.urb]
    by_cases hmn : m = n
    · rw [hmn, Function.update_self, h.moved]
      exact (batch_moved _ _ _).toHost
    · rw [Function.update_of_ne hmn]
  · intro m hcur _ _
    obtain rfl : n = m := Option.some.inj (h.goesOn.1.symm.trans hcur)
    rw [h.tickets]
    exact ⟨hmem, hisoc, h.goesOn.2⟩

namespace Bytes

/-- Nothing of the endpoint has changed. -/
lemma congr (hb : Bytes e type toHost s)
    (hfresh : ∀ p, t.dev.rx = .submit p → t.epOf p.ticket = e →
      (t.urb p.ticket).actualLength = 0 ∧ (t.urb p.ticket).status = -EINPROGRESS)
    (haccepted : mine e t t.dev.accepted = mine e s s.dev.accepted)
    (htickets : mine e t t.dev.tickets = mine e s s.dev.tickets)
    (hurbs : ∀ n, n ∈ mine e s s.dev.accepted ∨ n ∈ mine e s s.dev.tickets → t.urb n = s.urb n)
    (hqueue : t.queue e = s.queue e)
    (hqueued : (t.queued.filter fun x => x.1 = e) = s.queued.filter fun x => x.1 = e)
    (hgiven : (t.given.filter fun x => x.1 = e) = s.given.filter fun x => x.1 = e) :
    Bytes e type toHost t := by
  have hqueued' : ∀ n ∈ mine e s s.dev.tickets, t.urb n = s.urb n := fun n hn => hurbs n (Or.inr hn)
  have haccepted' : ∀ n ∈ mine e s s.dev.accepted, t.urb n = s.urb n := fun n hn =>
    hurbs n (Or.inl hn)
  refine ⟨hfresh, ?_, ?_, hqueue ▸ hb.waiting, ?_, ?_, hgiven ▸ hb.unserved⟩
  · rw [htickets]
    intro n hn
    rw [hqueued' n (List.mem_of_mem_tail hn)]
    exact hb.behind n hn
  · rw [htickets]
    intro hdir n hn
    rw [hqueued' n hn]
    exact hb.used hdir n hn
  · intro hdir
    rw [haccepted, hqueue, inputOffered, hqueued,
      List.flatMap_congr fun n hn => congrArg HostUrb.done (haccepted' n hn)]
    exact hb.input hdir
  · intro hdir hisoc
    rw [htickets, hqueue, outputDelivered, outputOffered, haccepted, hgiven,
      List.flatMap_congr fun n hn => congrArg HostUrb.rest (hqueued' n hn),
      List.flatMap_congr fun n hn => congrArg HostUrb.transferBuffer (haccepted' n hn)]
    exact hb.output hdir hisoc

/-- The steps outside `v_timer` that change no URB and no request: a URB may be queued. -/
lemma other (hb : Bytes e type toHost s) (hkept : ∀ n ∈ t.dev.stopped, s.epOf n ≠ e)
    (h : Other s.dev t.dev) (hrx : NoSubmit s.dev t.dev) (hepOf : t.epOf = s.epOf)
    (hurb : t.urb = s.urb) (hqueue : t.queue = s.queue) (hqueued : t.queued = s.queued)
    (hgiven : t.given = s.given) : Bytes e type toHost t := by
  have hmine : ∀ l, mine e t l = mine e s l := fun l => mine_congr fun n _ => by rw [hepOf]
  have hfresh : ∀ p, t.dev.rx = .submit p → t.epOf p.ticket = e →
      (t.urb p.ticket).actualLength = 0 ∧ (t.urb p.ticket).status = -EINPROGRESS := by
    rw [hepOf, hurb]
    exact fun p hp => hb.fresh p (hrx p hp)
  have htickets : t.dev.tickets = (line t.dev).map Prod.fst := (map_fst_line t.dev).symm
  have hsame : mine e s t.dev.accepted = mine e s s.dev.accepted →
      mine e s t.dev.tickets = mine e s s.dev.tickets → Bytes e type toHost t := by
    intro haccepted htickets
    exact hb.congr hfresh ((hmine _).trans haccepted) ((hmine _).trans htickets)
      (fun _ _ => by rw [hurb]) (by rw [hqueue]) (by rw [hqueued]) (by rw [hgiven])
  rcases h.moves with ⟨hline, haccepted, -, -⟩ | ⟨hline, haccepted, -, -⟩ |
    ⟨k, i, hline, haccepted, -, -, -, p, hp, rfl, rfl⟩ | ⟨hline, haccepted, -, -, hstopped⟩
  · exact hsame (by rw [haccepted]) (by rw [htickets, hline, map_fst_line])
  · exact hsame (by rw [haccepted]) (by rw [htickets, hline, map_fst_line])
  · have haccepted' : mine e s t.dev.accepted =
        mine e s s.dev.accepted ++ mine e s [p.ticket] := by
      rw [haccepted, mine_append]
    have htickets' : mine e s t.dev.tickets = mine e s s.dev.tickets ++ mine e s [p.ticket] := by
      rw [htickets, hline, List.map_append, mine_append, map_fst_line]
      rfl
    by_cases hmine' : s.epOf p.ticket = e
    swap
    · rw [mine_singleton, if_neg hmine', List.append_nil] at haccepted' htickets'
      exact hsame haccepted' htickets'
    rw [mine_singleton, if_pos hmine', ← hmine] at haccepted' htickets'
    obtain ⟨hactual, hstatus⟩ := hb.fresh p hp hmine'
    refine ⟨hfresh, ?_, ?_, hqueue ▸ hb.waiting, ?_, ?_, hgiven ▸ hb.unserved⟩
    · rw [htickets', hurb]
      intro n hn
      rcases mem_tail_concat hn with hn | rfl
      · exact hb.behind n hn
      · exact hactual
    · rw [htickets', hurb]
      intro hdir n hn hends
      rcases List.mem_append.mp hn with hn | hn
      · exact hb.used hdir n hn hends
      · obtain rfl := List.mem_singleton.mp hn
        exact absurd hstatus hends
    · intro hdir
      rw [haccepted', hurb, hqueue, inputOffered, hqueued, List.flatMap_append,
        List.flatMap_singleton, HostUrb.done_of_fresh hactual, List.append_nil]
      exact hb.input hdir
    · intro hdir hisoc
      have hout := hb.output hdir hisoc
      rw [outputDelivered, outputOffered] at hout
      rw [outputDelivered, outputOffered, hgiven, hqueue, hurb, haccepted', htickets',
        List.flatMap_append, List.flatMap_append, List.flatMap_singleton, List.flatMap_singleton,
        HostUrb.rest_of_fresh hactual, ← hout]
      simp only [List.append_assoc]
  · refine hsame (by rw [haccepted]) ?_
    have hgone : ∀ n ∈ s.dev.tickets, s.epOf n ≠ e := by
      intro n hn
      exact hkept n (by rw [hstopped]; exact List.mem_append_right _ hn)
    have hempty : mine e s s.dev.tickets = [] := mine_eq_nil hgone
    rw [htickets, hline, hempty]
    rfl

/-- A request is queued, or one of another endpoint is given back. -/
lemma served (hb : Bytes e type toHost s) (hcalm : Undisturbed e t)
    (h : Served a s t) (hdev : t.dev = s.dev) (hurb : t.urb = s.urb) (hepOf : t.epOf = s.epOf) :
    Bytes e type toHost t := by
  have hmine : ∀ l, mine e t l = mine e s l := fun l => mine_congr fun n _ => by rw [hepOf]
  have hfresh : ∀ p, t.dev.rx = .submit p → t.epOf p.ticket = e →
      (t.urb p.ticket).actualLength = 0 ∧ (t.urb p.ticket).status = -EINPROGRESS := by
    rw [hdev, hurb, hepOf]
    exact hb.fresh
  have hbehind : ∀ n ∈ (mine e t t.dev.tickets).tail, (t.urb n).actualLength = 0 := by
    rw [hmine, hdev, hurb]
    exact hb.behind
  have hused : toHost = false → ∀ n ∈ mine e t t.dev.tickets, (t.urb n).status ≠ -EINPROGRESS →
      (t.urb n).left = 0 := by
    rw [hmine, hdev, hurb]
    exact hb.used
  have hsame : t.queue e = s.queue e →
      (t.queued.filter fun x => x.1 = e) = (s.queued.filter fun x => x.1 = e) →
      (t.given.filter fun x => x.1 = e) = (s.given.filter fun x => x.1 = e) →
      Bytes e type toHost t := by
    refine hb.congr hfresh ?_ ?_ fun _ _ => by rw [hurb]
    · rw [hmine, hdev]
    · rw [hmine, hdev]
  cases h with
  | keeps hqueue hqueued hgiven => exact hsame (by rw [hqueue]) (by rw [hqueued]) (by rw [hgiven])
  | queues i r _ hr hqueue hqueued hgiven =>
      by_cases hie : e = i
      swap
      · refine hsame ?_ ?_ (by rw [hgiven])
        · rw [hqueue, Function.update_of_ne hie]
        · rw [hqueued, List.filter_append, List.filter_cons_of_neg (by simpa using Ne.symm hie),
            List.filter_nil, List.append_nil]
      subst hie
      have hqueue' : t.queue e = s.queue e ++ [r] := by rw [hqueue, Function.update_self]
      have hoffered : inputOffered e t = inputOffered e s ++ r.buf := by
        rw [inputOffered, hqueued, List.filter_append, List.filter_cons_of_pos (by simp),
          List.filter_nil, List.flatMap_append, List.flatMap_singleton]
        rfl
      refine ⟨hfresh, hbehind, hused, ?_, ?_, ?_, hgiven ▸ hb.unserved⟩
      · rw [hqueue']
        intro q hq
        rcases mem_tail_concat hq with hq | rfl
        · exact hb.waiting q hq
        · exact hr
      · intro hdir
        rw [hoffered, ← hb.input hdir, hqueue', hmine, hdev, hurb, List.flatMap_append,
          List.flatMap_singleton, VRequest.rest_of_fresh hr, List.append_assoc]
      · intro hdir hisoc
        rw [hqueue', List.flatMap_append, List.flatMap_singleton, VRequest.done_of_fresh hr,
          List.append_nil, outputDelivered, outputOffered, hgiven, hmine, hmine, hdev, hurb]
        exact hb.output hdir hisoc
  | gives i q₁ q₂ r status _ _ hstatus hqueue hqueued hgiven =>
      have hie : e ≠ i := by
        rintro rfl
        have hcalm' := hcalm.requests (e, r, status)
          (by rw [hgiven]; exact List.mem_append_right _ List.mem_cons_self) rfl
        rcases hstatus with hreset | ⟨hshutdown, -⟩
        · exact hcalm'.2.1 hreset
        · exact hcalm'.2.2 hshutdown
      refine hsame ?_ (by rw [hqueued]) ?_
      · rw [hqueue, Function.update_of_ne hie]
      · rw [hgiven, List.filter_append, List.filter_cons_of_neg (by simpa using Ne.symm hie),
          List.filter_nil, List.append_nil]

/-- A new URB. -/
lemma submit (hb : Bytes e type toHost s) (hl : Lined e type toHost s) (hscan : Scan e s.dev)
    {n : Seqnum} {i : Nat} {dir zeroPacket : Bool} {data : List Byte}
    (hd : Device.stepRx s.dev (.cmdSubmit n i (BitVec.ofNat 32 data.length)) = some d) :
    Bytes e type toHost { s with
      dev := d
      urb := Function.update s.urb s.dev.allocs
        ⟨dir, data, 0, zeroPacket, -EINPROGRESS, Nat.zero_le _⟩
      epOf := Function.update s.epOf s.dev.allocs i } := by
  simp only [Device.stepRx] at hd
  split at hd <;> cases hd
  have htickets : ∀ n ∈ s.dev.tickets, n < s.dev.allocs := fun n hn =>
    hscan.below n (List.mem_append_left _ (List.mem_append_left _ hn))
  have haccepted : ∀ n ∈ s.dev.accepted, n < s.dev.allocs := fun n hn => hl.old n (Or.inl hn)
  have hkeep : ∀ n, n < s.dev.allocs → Function.update s.epOf s.dev.allocs i n = s.epOf n :=
    fun n hn => Function.update_of_ne (Nat.ne_of_lt hn) _ _
  refine hb.congr ?_ (mine_congr fun n hn => hkeep n (haccepted n hn))
    (mine_congr fun n hn => hkeep n (htickets n hn)) ?_ rfl rfl rfl
  · intro p hp _
    obtain rfl := Device.RxPc.submit.inj hp
    show (Function.update s.urb s.dev.allocs _ s.dev.allocs).actualLength = 0 ∧
      (Function.update s.urb s.dev.allocs _ s.dev.allocs).status = -EINPROGRESS
    rw [Function.update_self]
    exact ⟨rfl, rfl⟩
  · intro n hn
    refine Function.update_of_ne (Nat.ne_of_lt ?_) _ _
    rcases hn with hn | hn
    · exact haccepted n (mem_mine.mp hn).1
    · exact htickets n (mem_mine.mp hn).1

/-- Every step outside `v_timer`. -/
lemma quiet (hb : Bytes e type toHost s) (hl : Lined e type toHost s) (hscan : Scan e s.dev)
    (hcalm : Undisturbed e t) (h : Quiet a s t) : Bytes e type toHost t := by
  cases h with
  | device d moved frameSpeed maxpacket driver hother hrx =>
      exact hb.other hcalm.kept hother hrx rfl rfl rfl rfl rfl
  | submit d n i dir data zeroPacket _ hd => exact hb.submit hl hscan hd
  | endpoint i f maxpacket desc =>
      exact hb.congr hb.fresh rfl rfl (fun _ _ => rfl) rfl rfl rfl
  | requests d queue desc disabling udc requests oops queued given dequeued hother hrx _ _ hserved =>
      have hdev : Bytes e type toHost { s with dev := d } :=
        hb.other hcalm.kept hother hrx rfl rfl rfl rfl rfl
      have hserved' : Served a { s with dev := d } { s with
          dev := d, queue, desc, disabling, udc, requests, oops, queued, given, dequeued } := by
        cases hserved with
        | keeps hqueue hqueued hgiven => exact .keeps hqueue hqueued hgiven
        | queues i r ha hr hqueue hqueued hgiven => exact .queues i r ha hr hqueue hqueued hgiven
        | gives i q₁ q₂ r status ha hq hstatus hqueue hqueued hgiven =>
            exact .gives i q₁ q₂ r status ha hq hstatus hqueue hqueued hgiven
      exact hdev.served hcalm hserved' rfl rfl rfl

/-- The steps of `v_timer` that move no data: the first URB may be taken off the queue. -/
lemma rounds (hb : Bytes e type toHost s) (hl : Lined e type toHost s) (hcalm : Undisturbed e s)
    {allocOk : Bool} (htimed : Timed e s t allocOk d) (h : Rounds e type s t) :
    Bytes e type toHost t := by
  have hs := htimed.step
  obtain ⟨ep, hdev⟩ := htimed.dev_eq
  have hmine : ∀ l, mine e t l = mine e s l := fun l => mine_congr fun n _ => by rw [h.epOf]
  have htickets : t.dev.tickets = d.tickets := by
    rw [hdev]
    rfl
  have hfresh : ∀ p, t.dev.rx = .submit p → t.epOf p.ticket = e →
      (t.urb p.ticket).actualLength = 0 ∧ (t.urb p.ticket).status = -EINPROGRESS := by
    intro p hp hpe
    rw [h.epOf] at hpe
    rw [h.urbs _ hpe]
    refine hb.fresh p ?_ hpe
    rw [← hs.rx, ← hp, hdev]
  have hurbs : ∀ l, ∀ n ∈ mine e s l, t.urb n = s.urb n := fun l n hn => h.urbs n (mem_mine.mp hn).2
  rcases hl.taken hcalm hs with ⟨hqueue, -⟩ | ⟨n, hqueue, -, htaken⟩
  · refine hb.congr hfresh ?_ ?_ (fun n hn => hn.elim (hurbs _ n) (hurbs _ n)) h.queue
      (by rw [h.queued]) h.given
    · rw [hmine, htimed.accepted]
    · rw [hmine, htickets, hqueue]
  · have hends : (s.urb n).status ≠ -EINPROGRESS ∨ type = .isoc := by
      refine h.ends n ?_ (mem_mine.mp (hqueue ▸ List.mem_cons_self)).2
      rw [hdev]
      exact htaken
    have hqueue' : mine e s s.dev.tickets = n :: mine e t t.dev.tickets := by
      rw [hmine, htickets, hqueue]
    refine ⟨hfresh, ?_, ?_, h.queue ▸ hb.waiting, ?_, ?_, h.given ▸ hb.unserved⟩
    · intro m hm
      rw [hmine] at hm
      rw [hurbs _ m (List.mem_of_mem_tail hm)]
      refine hb.behind m ?_
      rw [hqueue', hmine]
      exact List.mem_of_mem_tail hm
    · intro hdir m hm
      have hm' : m ∈ mine e s s.dev.tickets := by
        rw [hqueue']
        exact List.mem_cons_of_mem n hm
      rw [hurbs _ m hm']
      exact hb.used hdir m hm'
    · intro hdir
      have hin := hb.input hdir
      rw [inputOffered] at hin
      rw [inputOffered, h.queued, h.queue, hmine, htimed.accepted,
        List.flatMap_congr fun m hm => congrArg HostUrb.done (hurbs _ m hm)]
      exact hin
    · intro hdir hisoc
      have hout := hb.output hdir hisoc
      have hrest : (s.urb n).rest = [] :=
        HostUrb.rest_of_left
          (hb.used hdir n (by rw [hqueue']; exact List.mem_cons_self) (hends.resolve_right hisoc))
      rw [outputDelivered, outputOffered, hqueue', List.flatMap_cons, hrest, List.nil_append] at hout
      rw [outputDelivered, outputOffered, h.given, h.queue, hmine t.dev.accepted, htimed.accepted,
        List.flatMap_congr fun m hm => congrArg HostUrb.transferBuffer (hurbs _ m hm), ← hout,
        List.flatMap_congr fun m hm => congrArg HostUrb.rest (hurbs t.dev.tickets m (hmine _ ▸ hm))]

/-- The data of the URBs after one of them has changed. -/
lemma flatMap_update {l₁ l₂ : List Nat} {n : Nat} {g : Nat → HostUrb} {u : HostUrb}
    (f : HostUrb → List Byte) (h₁ : n ∉ l₁) (h₂ : n ∉ l₂) :
    ((l₁ ++ n :: l₂).flatMap fun m => f (Function.update g n u m)) =
      (l₁.flatMap fun m => f (g m)) ++ (f u ++ l₂.flatMap fun m => f (g m)) := by
  have hsame : ∀ l : List Nat, n ∉ l → (l.flatMap fun m => f (Function.update g n u m)) =
      l.flatMap fun m => f (g m) := by
    intro l hn
    refine List.flatMap_congr fun m hm => ?_
    rw [Function.update_of_ne (ne_of_mem_of_not_mem hm hn)]
  rw [List.flatMap_append, List.flatMap_cons, Function.update_self, hsame l₁ h₁, hsame l₂ h₂]

/-- The URB that a pass serves is the first of its endpoint. -/
lemma first (hl : Lined e type toHost s) (hscan : Scan e s.dev) {n : Nat} {r : VRequest}
    {rest : List VRequest} {b : Exchanged} (h : Passes e s t n r rest b) :
    ∃ l, mine e s s.dev.tickets = n :: l ∧
      mine e s s.dev.accepted = mine e s s.dev.taken ++ n :: l ∧
        n ∉ mine e s s.dev.taken ∧ n ∉ l := by
  obtain ⟨hmem, -⟩ := hl.serving n h.cur h.working h.mine
  obtain ⟨l, hqueue⟩ : ∃ l, mine e s s.dev.tickets = n :: l := by
    rw [← map_fst_line] at hmem
    obtain ⟨x, hx, rfl⟩ := List.mem_map.mp hmem
    obtain ⟨l₁, l₂, hline⟩ := List.append_of_mem hx
    have hx' : x = (x.1, some e) := Prod.ext rfl (h.mine ▸ hl.eps x hx)
    rw [hx'] at hline
    exact ⟨_, (hl.mine_split hline (hscan.first h.working x.1 l₁ l₂ h.cur hline).2).1⟩
  have haccepted : mine e s s.dev.accepted = mine e s s.dev.taken ++ n :: l := by
    rw [hl.order, hqueue]
  have hnodup : (mine e s s.dev.taken ++ n :: l).Nodup := by
    rw [← haccepted]
    exact (hl.sorted.filter _).imp Nat.ne_of_lt
  obtain ⟨-, hrest, hdisjoint⟩ := List.nodup_append.mp hnodup
  exact ⟨l, hqueue, haccepted, fun hn => hdisjoint n hn n List.mem_cons_self rfl,
    (List.nodup_cons.mp hrest).1⟩

/-- A pass moves data between the first URB and the first request of the endpoint. -/
lemma passes (hb : Bytes e type toHost s) (hl : Lined e type toHost s) (hscan : Scan e s.dev)
    (hcalm : Undisturbed e t) {n : Nat} {r : VRequest} {rest : List VRequest} {b : Exchanged}
    (h : Passes e s t n r rest b) : Bytes e type toHost t := by
  obtain ⟨l, hqueue, haccepted, hbefore, hbehind⟩ := first hl hscan h
  have hmine : ∀ l, mine e t l = mine e s l := fun l => mine_congr fun n _ => by rw [h.epOf]
  have hmem : n ∈ s.dev.tickets := (hl.serving n h.cur h.working h.mine).1
  have hdir : (s.urb n).toHost = toHost := (hl.dir n h.mine).1
  have hmoved : Moved (s.urb n) b.urb r b.req := h.moved ▸ batch_moved _ _ _
  have hfreshUrbs : ∀ m ∈ l, (s.urb m).actualLength = 0 := by
    intro m hm
    exact hb.behind m (by rw [hqueue]; exact hm)
  have hfreshReqs : ∀ q ∈ rest, q.actual = 0 := by
    intro q hq
    exact hb.waiting q (by rw [h.queue]; exact hq)
  refine ⟨?_, ?_, ?_, ?_, ?_, ?_, fun hisoc => ?_⟩
  · intro p hp _
    rw [h.rx] at hp
    have hlt : n < p.ticket := by
      refine (List.pairwise_append.mp hscan.sorted).2.2 n hmem p.ticket ?_
      rw [hp]
      exact List.mem_singleton_self _
    rw [h.urb, Function.update_of_ne (Nat.ne_of_gt hlt)]
    exact hb.fresh p hp (by rwa [← h.epOf])
  · rw [hmine, h.tickets, hqueue, h.urb]
    intro m hm
    rw [Function.update_of_ne (ne_of_mem_of_not_mem hm hbehind)]
    exact hfreshUrbs m hm
  · rw [hmine, h.tickets, hqueue, h.urb]
    intro hto m hm hends
    have hm' : m ∈ mine e s s.dev.tickets := by rwa [hqueue]
    rcases List.mem_cons.mp hm with rfl | hm
    swap
    · rw [Function.update_of_ne (ne_of_mem_of_not_mem hm hbehind)] at hends ⊢
      exact hb.used hto m hm' hends
    rw [Function.update_self, h.moved] at hends ⊢
    by_cases hstatus : (s.urb m).status = -EINPROGRESS
    · refine batch_urb_used (hdir.trans hto) hstatus hends ?_
      rw [← h.moved]
      rcases h.requests with ⟨hreq, -⟩ | ⟨-, -, hgiven⟩
      · rw [hreq]
        decide
      · refine (hcalm.requests (e, b.req, b.reqStatus) ?_ rfl).1
        rw [hgiven]
        exact List.mem_append_right _ List.mem_cons_self
    · have hle := batch_left_le (s.maxpacket e) (s.urb m) r
      have hleft := hb.used hto m hm' hstatus
      omega
  · rcases h.requests with ⟨-, hkeeps, -⟩ | ⟨-, hkeeps, -⟩
    · rw [hkeeps]
      exact hfreshReqs
    · rw [hkeeps]
      exact fun q hq => hfreshReqs q (List.mem_of_mem_tail hq)
  · intro hto
    have hnone : (l.flatMap fun m => (s.urb m).done) = [] :=
      List.flatMap_eq_nil_iff.mpr fun m hm => HostUrb.done_of_fresh (hfreshUrbs m hm)
    have hleft : (t.queue e).flatMap VRequest.rest = b.req.rest ++ rest.flatMap VRequest.rest := by
      rcases h.requests with ⟨-, hkeeps, -⟩ | ⟨hends, hkeeps, -⟩
      · rw [hkeeps, List.flatMap_cons]
      · have hover : b.urb.status ≠ -EOVERFLOW := by
          have hcalm' := hcalm.urbs n
          rw [h.accepted, h.epOf, h.urb, Function.update_self] at hcalm'
          have hmem' : n ∈ mine e s s.dev.accepted := by
            rw [haccepted]
            exact List.mem_append_right _ List.mem_cons_self
          exact hcalm' (mem_mine.mp hmem').1 h.mine
        rw [h.moved] at hends hover
        have hused : b.req.left = 0 := by
          rw [h.moved]
          exact batch_req_used (hdir.trans hto) hends hover
        rw [hkeeps, VRequest.rest_of_left hused, List.nil_append]
    have hin := hb.input hto
    rw [inputOffered, haccepted, List.flatMap_append, List.flatMap_cons, hnone, h.queue,
      List.flatMap_cons] at hin
    rw [inputOffered, h.queued, hmine, h.accepted, haccepted, h.urb,
      flatMap_update HostUrb.done hbefore hbehind, hnone, hleft, ← hin]
    have hpair := hmoved.input (hdir.trans hto)
    simp only [List.append_nil, List.append_assoc]
    rw [← List.append_assoc b.urb.done, hpair, List.append_assoc]
  · intro hto hisoc
    have hnone : rest.flatMap VRequest.done = [] :=
      List.flatMap_eq_nil_iff.mpr fun q hq => VRequest.done_of_fresh (hfreshReqs q hq)
    obtain ⟨hpair, hbuffer⟩ := hmoved.output (hdir.trans hto)
    have hserved : outputDelivered e t ++ (t.queue e).flatMap VRequest.done =
        outputDelivered e s ++ b.req.done := by
      rcases h.requests with ⟨-, hkeeps, hgiven⟩ | ⟨-, hkeeps, hgiven⟩
      · rw [outputDelivered, hgiven, hkeeps, List.flatMap_cons, hnone, List.append_nil]
        rfl
      · rw [outputDelivered, hgiven, hkeeps, hnone, List.append_nil, List.filter_append,
          List.filter_cons_of_pos (by simp), List.filter_nil, List.flatMap_append,
          List.flatMap_singleton]
        rfl
    have hoffered : outputOffered e t = outputOffered e s := by
      rw [outputOffered, outputOffered, hmine, h.accepted, haccepted, h.urb,
        flatMap_update HostUrb.transferBuffer hbefore hbehind, hbuffer, List.flatMap_append,
        List.flatMap_cons]
    have hout := hb.output hto hisoc
    rw [h.queue, List.flatMap_cons, hnone, List.append_nil, hqueue, List.flatMap_cons] at hout
    have hrest := @flatMap_update [] l n s.urb b.urb HostUrb.rest List.not_mem_nil hbehind
    rw [List.nil_append, List.flatMap_nil, List.nil_append] at hrest
    rw [hoffered, ← hout, ← List.append_assoc, hserved, hmine, h.tickets, hqueue, h.urb, hrest]
    rw [List.append_assoc, ← List.append_assoc b.req.done, hpair, List.append_assoc]
  · exact absurd hisoc (hl.serving n h.cur h.working h.mine).2.1

end Bytes

/-! ## The runs -/

/-- What holds in a run that leaves endpoint `e` undisturbed. -/
structure Streamed (e : Nat) (type : XferType) (toHost : Bool) (s : State) : Prop where
  scan : Scan e s.dev
  replied : Replied e s
  calm : Undisturbed e s
  lined : Lined e type toHost s
  bytes : Bytes e type toHost s

/-- Every step keeps it. -/
lemma Streamed.step (hs : Streamed e type toHost s) (he : e ≠ 0) (hok : Plain e type toHost s a)
    (h : step s a = some t) : Streamed e type toHost t := by
  obtain ⟨hscan, hreplied, hcalm, hl, hb⟩ := hs
  obtain ⟨hscan', hreplied'⟩ := ordered_step hscan hreplied (hl.steady hok) h
  have hcalm' : Undisturbed e t := hok.2 t h
  suffices hdata : Lined e type toHost t ∧ Bytes e type toHost t from
    ⟨hscan', hreplied', hcalm', hdata.1, hdata.2⟩
  cases htimer : a.timer
  · have hquiet := quiet_step htimer h
    exact ⟨hl.quiet hscan he hok hcalm' hquiet, hb.quiet hl hscan hcalm' hquiet⟩
  obtain ⟨allocOk, d, htimed⟩ := timer_step hscan htimer h
  -- a pass for the endpoint, or a step that moves none of its data
  have hcases : (∃ n r rest b, Passes e s t n r rest b) ∨ Rounds e type s t := by
    by_cases hpass : a = .pass
    swap
    · exact Or.inr (rounds_step hl hscan hcalm he htimer hpass h)
    subst hpass
    by_cases hmine : ∃ n next total, s.dev.timer = .transfer n next total ∧ s.epOf n = e
    · obtain ⟨n, next, total, hpc, rfl⟩ := hmine
      exact Or.inl ⟨n, passes_of_pass h hpc⟩
    · exact Or.inr (rounds_pass h fun n next total hpc hn => hmine ⟨n, next, total, hpc, hn⟩)
  rcases hcases with ⟨n, r, rest, b, hpasses⟩ | hrounds
  · exact ⟨hl.passes hcalm hscan htimed hpasses, hb.passes hl hscan hcalm' hpasses⟩
  · exact ⟨hl.timed hcalm hscan htimed hrounds.epOf hrounds.desc
      (fun n hn => by rw [hrounds.urbs n hn]) hrounds.types hrounds.serving,
      hb.rounds hl hcalm htimed hrounds⟩

end Usbip.Vudc.Flow
