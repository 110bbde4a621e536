import Usbip.Vudc.Order

/-!
# The loops of `v_timer` end

A run of `v_timer` starts its scan again after each URB that ends, and `transfer` starts its loop
again after each pass.  `rank` bounds the steps that are left: a URB that ends leaves the queue,
within a scan the URBs behind the current one are left, and within `transfer` the bytes of the URB.
Every step of `v_timer` decreases it, and the other contexts, whatever they do while the lock is
free, do not increase it as long as they queue no URB (`rank_timer`, `rank_quiet`).
-/

namespace Usbip.Vudc.Flow

open Usbip.Core Usbip.Common

variable {s t : State} {a : Action}

/-! ## The rank -/

/-- The steps that a URB may take in one scan. -/
def cost (s : State) (n : Nat) : Nat := 2 * (s.urb n).transferBuffer.length + 5

def costs (s : State) (q : List Nat) : Nat := (q.map (cost s)).sum

/-- The steps that the URBs from `next` on may take in this scan. -/
def ahead (s : State) : Option Nat → Nat
  | some n => costs s (s.dev.tickets.dropWhile fun m => m ≠ n)
  | none => 0

/-- The steps that are left in this scan. -/
def inScan (s : State) : Nat :=
  match s.dev.timer with
  | .idle => 0
  | .visit cur _ => ahead s cur + 1
  | .setup n next _ => cost s n + ahead s next
  | .transfer n next _ => (if s.ended then 1 else 2 * (s.urb n).left + 3) + ahead s next + 1
  | .giveback n next _ => (if s.ended then 2 else 2 * (s.urb n).left + 4) + ahead s next + 1

/-- The steps that are left in this run of `v_timer`: after each URB that ends there is a scan. -/
def rank (s : State) : Nat :=
  s.dev.tickets.length * (costs s s.dev.tickets + 1) + inScan s

/-- The cost of a URB depends on its length. -/
lemma cost_congr {n : Nat} (h : (t.urb n).transferBuffer.length = (s.urb n).transferBuffer.length) :
    cost t n = cost s n := by
  rw [cost, h, cost]

/-- The costs depend on the URBs'. -/
lemma costs_congr {q : List Nat} (h : ∀ n ∈ q, cost t n = cost s n) : costs t q = costs s q := by
  rw [costs, List.map_congr_left h, costs]

/-- Fewer URBs cost no more. -/
lemma costs_le_of_sublist {q q' : List Nat} (h : q'.Sublist q) : costs s q' ≤ costs s q :=
  (h.map _).sum_le_sum fun _ _ => Nat.zero_le _

/-- What is ahead costs no more than the queue. -/
lemma ahead_le (next : Option Nat) : ahead s next ≤ costs s s.dev.tickets := by
  cases next with
  | none => exact Nat.zero_le _
  | some n => exact costs_le_of_sublist (List.dropWhile_sublist _)

/-- What is ahead depends on the queue and the costs. -/
lemma ahead_congr (hcost : ∀ n ∈ s.dev.tickets, cost t n = cost s n)
    (htickets : t.dev.tickets = s.dev.tickets) (next : Option Nat) :
    ahead t next = ahead s next := by
  cases next with
  | none => rfl
  | some n =>
      unfold ahead
      rw [htickets]
      exact costs_congr fun m hm => hcost m ((List.dropWhile_sublist _).subset hm)

/-- A batch leaves the URB's length. -/
lemma batch_length {maxpacket : Nat} {u : HostUrb} {r : VRequest} :
    (batch maxpacket u r).1.urb.transferBuffer.length = u.transferBuffer.length := by
  have hfinish : ∀ (v : HostUrb) (ends : Bool) (status : BitVec 32),
      (v.finish ends status).transferBuffer = v.transferBuffer := by
    intro v ends status
    cases ends <;> rfl
  unfold batch
  dsimp only
  split_ifs <;> simp only [wholePackets, hfinish, HostUrb.length_move]

/-- No more is left than the URB has. -/
lemma left_le (u : HostUrb) : u.left ≤ u.transferBuffer.length := Nat.sub_le _ _

/-- What stands behind `n`. -/
lemma dropWhile_split {l l₁ l₂ : List Nat} {n : Nat} (hnodup : l.Nodup) (h : l = l₁ ++ n :: l₂) :
    (l.dropWhile fun m => m ≠ n) = n :: l₂ := by
  rw [h] at hnodup ⊢
  have hne : ∀ m ∈ l₁, decide (m ≠ n) = true := by
    intro m hm
    exact decide_eq_true ((List.nodup_append.mp hnodup).2.2 m hm n List.mem_cons_self)
  rw [List.dropWhile_append_of_pos hne, List.dropWhile_cons_of_neg (by simp)]

/-- Ahead of a URB are its own cost and that of those behind it. -/
lemma ahead_split {l₁ l₂ : List Nat} {n : Nat} (hnodup : s.dev.tickets.Nodup)
    (h : s.dev.tickets = l₁ ++ n :: l₂) : ahead s (some n) = cost s n + costs s l₂ := by
  show costs s (s.dev.tickets.dropWhile fun m => m ≠ n) = _
  rw [dropWhile_split hnodup h, costs, List.map_cons, List.sum_cons, costs]

/-- The URB that a scan has come to and those behind it. -/
lemma ahead_next {n : Nat} (hnodup : s.dev.tickets.Nodup) (hn : n ∈ s.dev.tickets) :
    cost s n + ahead s (Device.nextUrbp n s.dev.urbQueue) ≤ ahead s (some n) := by
  cases hnext : Device.nextUrbp n s.dev.urbQueue with
  | none =>
      obtain ⟨l₁, l₂, hl⟩ := List.append_of_mem hn
      rw [ahead_split hnodup hl]
      exact Nat.le_add_right _ _
  | some m =>
      obtain ⟨q₁, p, q, q₂, hq, rfl, rfl⟩ := nextUrbp_split hnext
      have hl : s.dev.tickets = q₁.map Device.Allocated.ticket ++
          p.ticket :: q.ticket :: q₂.map Device.Allocated.ticket := by
        rw [Device.State.tickets, hq, List.map_append]
        rfl
      have hl' : s.dev.tickets = (q₁.map Device.Allocated.ticket ++ [p.ticket]) ++
          q.ticket :: q₂.map Device.Allocated.ticket := by
        rw [hl, List.append_assoc]
        rfl
      rw [ahead_split hnodup hl, ahead_split hnodup hl']
      exact le_rfl

/-- A URB has left the queue, and a new scan begins. -/
lemma rank_returned (hcost : ∀ n, cost t n = cost s n)
    (hsub : t.dev.tickets.Sublist s.dev.tickets)
    (hlen : t.dev.tickets.length + 1 = s.dev.tickets.length)
    (hpc : ∃ cur total, t.dev.timer = .visit cur total) (hscan : 0 < inScan s) :
    rank t < rank s := by
  obtain ⟨cur, total, hpc⟩ := hpc
  have hcosts : costs t t.dev.tickets ≤ costs s s.dev.tickets := by
    rw [costs_congr fun n _ => hcost n]
    exact costs_le_of_sublist hsub
  have hahead := @ahead_le t cur
  have hmul : t.dev.tickets.length * (costs t t.dev.tickets + 1) ≤
      t.dev.tickets.length * (costs s s.dev.tickets + 1) :=
    Nat.mul_le_mul_left _ (Nat.succ_le_succ hcosts)
  have hstart : inScan t = ahead t cur + 1 := by
    unfold inScan
    rw [hpc]
  unfold rank
  rw [hstart, ← hlen, Nat.succ_mul]
  omega

/-- The queue is as it was, and the scan goes on. -/
lemma rank_goes (hcost : ∀ n, cost t n = cost s n) (htickets : t.dev.tickets = s.dev.tickets)
    (hscan : inScan t < inScan s) : rank t < rank s := by
  unfold rank
  rw [htickets, costs_congr fun n _ => hcost n]
  omega

/-! ## The steps of `v_timer` -/

/-- A visit lowers the rank. -/
lemma rank_visit {allocOk : Bool} {ret : Int} {c : Control} (hnodup : s.dev.tickets.Nodup)
    (h : visit allocOk ret c s = some t) : rank t < rank s := by
  obtain ⟨w, d, hd, hcases⟩ := visit_cases h
  have hlen : ∀ n, (t.urb n).transferBuffer.length = (s.urb n).transferBuffer.length := by
    intro n
    rcases hcases with ⟨rfl, -⟩ | ⟨m, _, _, -, -, ⟨-, rfl⟩ | ⟨-, hlen, rfl⟩⟩
    · rfl
    · rfl
    · by_cases hn : n = m
      · subst hn
        show (Function.update s.urb n c.urb n).transferBuffer.length = _
        rw [Function.update_self, hlen]
      · show (Function.update s.urb m c.urb n).transferBuffer.length = _
        rw [Function.update_of_ne hn]
  have hcost : ∀ n, cost t n = cost s n := fun n => cost_congr (hlen n)
  rcases hcases with ⟨rfl, hpc⟩ | ⟨n, total, _, hpc, -, hctl⟩
  · cases htimer : s.dev.timer with
    | visit cur total =>
        cases cur with
        | some n => exact absurd htimer (hpc n total)
        | none =>
            obtain ⟨htickets, hidle⟩ := visit_end htimer hd
            refine rank_goes hcost htickets ?_
            have hzero : inScan (record d s) = 0 := by
              unfold inScan
              rw [show (record d s).dev.timer = .idle from hidle]
            have hone : inScan s = ahead s none + 1 := by
              unfold inScan
              rw [htimer]
            omega
    | idle | setup | transfer | giveback => simp [Device.stepTimer, htimer] at hd
  · obtain ⟨p, hf, hgoes⟩ := visit_device hpc hd
    have hn := Device.mem_tickets_of_find? hf
    have hscan : inScan s = ahead s (some n) + 1 := by
      unfold inScan
      rw [hpc]
    have hnext := ahead_next hnodup hn
    have hurb : 2 * (t.urb n).left + 5 ≤ cost s n := by
      have hleft := left_le (t.urb n)
      rw [cost, ← hlen n]
      omega
    obtain ⟨htickets, htimer, hended⟩ : t.dev.tickets = d.tickets ∧ t.dev.timer = d.timer ∧
        t.ended = false := by
      rcases hctl with ⟨-, rfl⟩ | ⟨-, -, rfl⟩
      · exact ⟨rfl, rfl, rfl⟩
      · obtain ⟨_, hep, -⟩ := c.setHalted_eq d
        exact ⟨by rw [hep]; rfl, by rw [hep], rfl⟩
    have hgoOn : ∀ hsame : d.tickets = s.dev.tickets, inScan t < inScan s → rank t < rank s :=
      fun hsame => rank_goes hcost (htickets.trans hsame)
    have hahead : ∀ hsame : d.tickets = s.dev.tickets,
        ahead t (Device.nextUrbp n s.dev.urbQueue) = ahead s (Device.nextUrbp n s.dev.urbQueue) :=
      fun hsame => ahead_congr (fun m _ => hcost m) (htickets.trans hsame) _
    generalize (Device.visitUrbp _ _ _ _ _ _).2.2 = goto at hgoes
    cases hgoes with
    | returned hreturned =>
        refine rank_returned hcost ?_ ?_ ?_ (by omega)
        · rw [htickets]
          exact hreturned.sublist
        · rw [htickets]
          exact hreturned.length
        · rw [htimer]
          exact hreturned.visit
    | skipped hsame hpc' =>
        have hthere : inScan t = ahead t (Device.nextUrbp n s.dev.urbQueue) + 1 := by
          unfold inScan
          rw [htimer, hpc']
        have hsameAhead := hahead hsame
        exact hgoOn hsame (by omega)
    | setup hsame hpc' =>
        have hthere : inScan t = cost t n + ahead t (Device.nextUrbp n s.dev.urbQueue) := by
          unfold inScan
          rw [htimer, hpc']
        have hsameAhead := hahead hsame
        have hsameCost := hcost n
        exact hgoOn hsame (by omega)
    | transfer hsame hpc' =>
        have hthere : inScan t = 2 * (t.urb n).left + 3 +
            ahead t (Device.nextUrbp n s.dev.urbQueue) + 1 := by
          unfold inScan
          rw [htimer, hpc', hended]
          rfl
        have hsameAhead := hahead hsame
        exact hgoOn hsame (by omega)

/-- The setup stage lowers the rank. -/
lemma rank_setup {allocOk : Bool} {ret : Int} (h : setup allocOk ret s = some t) :
    rank t < rank s := by
  obtain ⟨d, hd, rfl⟩ := Option.map_eq_some_iff.mp h
  have hcost : ∀ n, cost (record d s) n = cost s n := fun _ => rfl
  simp only [Device.stepTimer] at hd
  split at hd
  · rename_i n next total hpc
    have hscan : inScan s = cost s n + ahead s next := by
      unfold inScan
      rw [hpc]
    have hpos : 0 < cost s n := Nat.succ_pos _
    split at hd
    · cases hd
    split at hd
    · have htickets : d.tickets = s.dev.tickets := by rw [← Option.some.inj hd]; rfl
      have htimer : d.timer = .transfer n next total := by rw [← Option.some.inj hd]
      refine rank_goes hcost htickets ?_
      have hahead := ahead_congr (fun m _ => hcost m) htickets next
      have hthere : inScan (record d s) = (if s.ended then 1 else 2 * (s.urb n).left + 3) +
          ahead (record d s) next + 1 := by
        unfold inScan
        rw [show (record d s).dev.timer = .transfer n next total from htimer]
        rfl
      have hleft := left_le (s.urb n)
      have hfull : cost s n = 2 * (s.urb n).transferBuffer.length + 5 := rfl
      split_ifs at hthere
      · omega
      · omega
    · have hreturned := returned_of_returnUrb (tickets_writeUrbp n _ s.dev) hd
      exact rank_returned hcost hreturned.sublist hreturned.length hreturned.visit (by omega)
  · cases hd

/-- A pass lowers the rank. -/
lemma rank_pass (h : pass s = some t) : rank t < rank s := by
  obtain ⟨n, next, total, r, rest, hpc, hended, -, e, he, dev, _, _, rfl, hreq⟩ := pass_cases h
  generalize ht : ({ s with
    dev, queue := _, given := _, urb := _, sent := _, ended := _, moved := _ } : State) = t
  have hlen : ∀ m, (t.urb m).transferBuffer.length = (s.urb m).transferBuffer.length := by
    intro m
    rw [← ht]
    show (Function.update s.urb n e.urb m).transferBuffer.length = _
    by_cases hm : m = n
    · subst hm
      rw [Function.update_self, he]
      exact batch_length
    · rw [Function.update_of_ne hm]
  have hcost : ∀ m, cost t m = cost s m := fun m => cost_congr (hlen m)
  have hscan : inScan s = 2 * (s.urb n).left + 3 + ahead s next + 1 := by
    unfold inScan
    rw [hpc, hended]
    rfl
  have hurb : t.urb n = e.urb := by
    rw [← ht]
    exact Function.update_self _ _ _
  have hdev : t.dev.tickets = s.dev.tickets ∧ (t.dev.timer = .transfer n next total ∨
      t.dev.timer = .giveback n next total) := by
    rw [← ht]
    rcases hreq with ⟨-, rfl, -⟩ | ⟨-, hd, -⟩
    · exact ⟨rfl, Or.inl hpc⟩
    · simp only [Device.stepTimer, hpc] at hd
      cases hd
      exact ⟨tickets_writeUrbp n _ s.dev, Or.inr rfl⟩
  obtain ⟨htickets, htimer⟩ := hdev
  have hahead := ahead_congr (fun m _ => hcost m) htickets next
  have hleft : t.ended = true ∨ t.ended = false ∧ (t.urb n).left < (s.urb n).left := by
    by_cases hstatus : e.urb.status = -EINPROGRESS
    · refine Or.inr ⟨?_, ?_⟩
      · rw [← ht]
        simpa using hstatus
      · rw [hurb, he]
        exact batch_progress (s.maxpacket (s.epOf n)).2 (he ▸ hstatus)
    · left
      rw [← ht]
      simpa using hstatus
  refine rank_goes hcost htickets ?_
  rcases htimer with htimer | htimer
  · have hthere : inScan t = (if t.ended then 1 else 2 * (t.urb n).left + 3) + ahead t next + 1 := by
      unfold inScan
      rw [htimer]
    rcases hleft with hend | ⟨hend, hlt⟩
    · rw [hend, if_pos rfl] at hthere
      omega
    · rw [hend, if_neg (by decide)] at hthere
      omega
  · have hthere : inScan t = (if t.ended then 2 else 2 * (t.urb n).left + 4) + ahead t next + 1 := by
      unfold inScan
      rw [htimer]
    rcases hleft with hend | ⟨hend, hlt⟩
    · rw [hend, if_pos rfl] at hthere
      omega
    · rw [hend, if_neg (by decide)] at hthere
      omega

/-- Going on lowers the rank. -/
lemma rank_resume (h : resume s = some t) : rank t < rank s := by
  obtain ⟨d, hd, rfl⟩ := Option.map_eq_some_iff.mp h
  simp only [Device.stepTimer] at hd
  split at hd
  · rename_i n next total hpc
    split at hd <;> cases hd
    refine rank_goes (fun _ => rfl) rfl ?_
    unfold inScan
    rw [hpc]
    show (if s.ended then 1 else 2 * (s.urb n).left + 3) + ahead s next + 1 < _
    dsimp only
    split_ifs
    · omega
    · omega
  · cases hd

/-- The end of a transfer lowers the rank. -/
lemma rank_transferred {allocOk : Bool} (h : transferred allocOk s = some t) : rank t < rank s := by
  obtain ⟨n, next, total, d, hpc, -, hd, rfl⟩ := transferred_cases h
  have hcost : ∀ m, cost (record d s) m = cost s m := fun _ => rfl
  have hscan : ahead s next + 1 < inScan s := by
    unfold inScan
    rw [hpc]
    dsimp only
    split_ifs
    · omega
    · omega
  simp only [Device.stepTimer, hpc] at hd
  split at hd
  · cases hd
    have htickets := tickets_writeUrbp n
      (Device.writeProgress (progress (s.urb n))) s.dev
    refine rank_goes hcost htickets ?_
    have hahead := ahead_congr (fun m _ => hcost m) htickets next
    exact Nat.lt_of_le_of_lt (Nat.succ_le_succ hahead.le) hscan
  · have hreturned := returned_of_returnUrb (tickets_writeUrbp n _ s.dev) hd
    exact rank_returned hcost hreturned.sublist hreturned.length hreturned.visit (by omega)

/-- The other steps of `v_timer` decrease the rank. -/
theorem rank_timer (hnodup : s.dev.tickets.Nodup) (ha : a.timer = true)
    (hstart : ∀ now, a ≠ .start now) (h : step s a = some t) : rank t < rank s := by
  cases a with
  | start now => exact absurd rfl (hstart now)
  | visit => exact rank_visit hnodup h
  | setup => exact rank_setup h
  | pass => exact rank_pass h
  | resume => exact rank_resume h
  | transferred => exact rank_transferred h
  | _ => cases ha

/-! ## The other steps -/

/-- A step that leaves `v_timer` where it is, and its URBs as they are, unless they are freed. -/
lemma rank_le (hurb : ∀ n ∈ s.dev.tickets ++ s.dev.timer.urbps, t.urb n = s.urb n)
    (htimer : t.dev.timer = s.dev.timer) (hended : t.ended = s.ended)
    (htickets : t.dev.tickets = s.dev.tickets ∨ t.dev.tickets = []) : rank t ≤ rank s := by
  have hcost : ∀ n ∈ s.dev.tickets, cost t n = cost s n := by
    intro n hn
    rw [cost, hurb n (List.mem_append_left _ hn), cost]
  have hahead : ∀ next, ahead t next ≤ ahead s next := by
    intro next
    rcases htickets with htickets | htickets
    · exact (ahead_congr hcost htickets next).le
    · cases next with
      | none => exact le_rfl
      | some n =>
          unfold ahead
          rw [htickets]
          exact Nat.zero_le _
  have hscan : inScan t ≤ inScan s := by
    unfold inScan
    rw [htimer, hended]
    cases hpc : s.dev.timer with
    | idle => exact le_rfl
    | visit cur total => exact Nat.succ_le_succ (hahead cur)
    | setup n next total =>
        have hn : t.urb n = s.urb n := hurb n (by simp [hpc, Device.TimerPc.urbps])
        have hsame : cost t n = cost s n := by rw [cost, hn, cost]
        exact Nat.add_le_add hsame.le (hahead next)
    | transfer n next total | giveback n next total =>
        have hn : t.urb n = s.urb n := hurb n (by simp [hpc, Device.TimerPc.urbps])
        dsimp only
        rw [hn]
        exact Nat.succ_le_succ (Nat.add_le_add_left (hahead next) _)
  unfold rank
  rcases htickets with htickets | htickets
  · rw [htickets, costs_congr hcost]
    exact Nat.add_le_add_left hscan _
  · rw [htickets, List.length_nil, Nat.zero_mul]
    omega

/-- The same line has the same queue. -/
lemma tickets_eq_of_line {d d' : Device.State} (h : line d' = line d) : d'.tickets = d.tickets := by
  rw [← map_fst_line, h, map_fst_line]

/-- Outside `v_timer` URBs are queued at the end or freed. -/
lemma Other.tickets {d d' : Device.State} (h : Other d d') (hadded : d'.accepted = d.accepted) :
    d'.tickets = d.tickets ∨ d'.tickets = [] := by
  rcases h.moves with ⟨hl, -⟩ | ⟨hl, -⟩ | ⟨k, e, -, hacc, -⟩ | ⟨hl, -⟩
  · exact Or.inl (tickets_eq_of_line hl)
  · exact Or.inl (tickets_eq_of_line hl)
  · rw [hacc] at hadded
    exact absurd hadded (by simp)
  · right
    rw [← map_fst_line, hl, List.map_nil]

/-- The steps outside `v_timer` do not increase the rank, unless they queue a URB. -/
theorem rank_quiet (hbelow : ∀ n ∈ s.dev.tickets ++ s.dev.timer.urbps, n < s.dev.allocs)
    (hadded : t.dev.accepted = s.dev.accepted) (h : Quiet a s t) : rank t ≤ rank s := by
  cases h with
  | device d _ _ _ _ hother =>
      exact rank_le (fun _ _ => rfl) hother.timer rfl (hother.tickets hadded)
  | submit d n i toHost data zeroPacket _ hd =>
      have hother := other_stepRx hd
      refine rank_le (fun m hm => ?_) hother.timer rfl (hother.tickets hadded)
      exact Function.update_of_ne (Nat.ne_of_lt (hbelow m hm)) _ _
  | endpoint => exact rank_le (fun _ _ => rfl) rfl rfl (Or.inl rfl)
  | requests d _ _ _ _ _ _ _ _ _ hother =>
      exact rank_le (fun _ _ => rfl) hother.timer rfl (hother.tickets hadded)

/-! ## Progress -/

/-- A URB that is queued is found. -/
lemma find?_of_mem_tickets {d : Device.State} {n : Nat} (hn : n ∈ d.tickets) :
    ∃ p, d.urbQueue.find? (fun p => p.ticket = n) = some p := by
  obtain ⟨p, hp, rfl⟩ := List.mem_map.mp hn
  cases hf : d.urbQueue.find? (fun q => q.ticket = p.ticket) with
  | none => exact absurd (decide_eq_true rfl) (List.find?_eq_none.mp hf p hp)
  | some q => exact ⟨q, rfl⟩

/-- A URB that is queued can be returned. -/
lemma returnUrb_isSome {d : Device.State} {n : Nat} (hn : n ∈ d.tickets) (allocOk : Bool)
    (total : Int) : ∃ t, Device.returnUrb allocOk n total d = some t := by
  obtain ⟨p, hf⟩ := find?_of_mem_tickets hn
  unfold Device.returnUrb
  rw [hf]
  exact ⟨_, rfl⟩

/-- A URB that is queued can be visited. -/
lemma stepTimer_visit_isSome {d : Device.State} {n : Nat} {total : Int}
    (hpc : d.timer = .visit (some n) total) (hn : n ∈ d.tickets) (allocOk : Bool) (ret : Int)
    (w : Progress) : ∃ t, Device.stepTimer d (.visit allocOk ret w) = some t := by
  obtain ⟨p, hf⟩ := find?_of_mem_tickets hn
  simp only [Device.stepTimer, hpc]
  unfold Device.vTimerVisit
  rw [hf]
  dsimp only
  generalize Device.visitUrbp _ total ret w d.ep p.toUrbp = v
  obtain ⟨ep, q, goto⟩ := v
  cases goto with
  | skip | setup | transfer => exact ⟨_, rfl⟩
  | returnUrb =>
      refine returnUrb_isSome ?_ allocOk total
      rwa [tickets_writeUrbp n _ { d with ep }]

/-- While `v_timer` runs it can go on, once it has the lock, unless the URB that it has come to was
freed. -/
lemma timer_goes_on (hpc : s.dev.timer ≠ .idle)
    (hfree : s.dev.timer.unlocked = true → s.dev.lockFree = true)
    (hcur : ∀ n ∈ s.dev.timer.cur, n ∈ s.dev.tickets) :
    ∃ a t, a.timer = true ∧ (∀ now, a ≠ .start now) ∧ step s a = some t := by
  cases htimer : s.dev.timer with
  | idle => exact absurd htimer hpc
  | visit cur total =>
      cases cur with
      | none =>
          refine ⟨.visit true 0 ⟨s.urb 0, none⟩, record (Device.vTimerEnd s.dev) s, rfl,
            fun _ h => (by cases h), ?_⟩
          simp only [step, visit, htimer, Device.stepTimer, Option.map_some]
      | some n =>
          have hn : n ∈ s.dev.tickets := hcur n (by rw [htimer]; rfl)
          obtain ⟨p, hf⟩ := find?_of_mem_tickets hn
          have hvisit : ∃ t, visit true 0 ⟨s.urb n, none⟩ s = some t := by
            unfold visit
            rw [htimer]
            dsimp only
            rw [hf]
            dsimp only
            split
            · rw [if_pos rfl]
              obtain ⟨d, hd⟩ := stepTimer_visit_isSome htimer hn true 0 (progress (s.urb n))
              exact ⟨_, by rw [hd]; rfl⟩
            · obtain ⟨d, hd⟩ := stepTimer_visit_isSome htimer hn true 0 (progress (s.urb n))
              exact ⟨_, by rw [hd]; rfl⟩
          obtain ⟨t, ht⟩ := hvisit
          exact ⟨.visit true 0 ⟨s.urb n, none⟩, t, rfl, fun _ h => (by cases h), ht⟩
  | setup n next total =>
      have hlock : s.dev.lockFree = true := hfree (by rw [htimer]; rfl)
      refine ⟨.setup true 0, record { s.dev with timer := .transfer n next total } s, rfl,
        fun _ h => (by cases h), ?_⟩
      simp only [step, setup, Device.stepTimer, htimer, hlock, not_true_eq_false, if_false, le_refl,
        if_true, Option.map_some]
  | transfer n next total =>
      have hn : n ∈ s.dev.tickets := hcur n (by rw [htimer]; rfl)
      by_cases hdone : s.ended = true ∨ s.queue (s.epOf n) = []
      · have hreturn : ∃ d, Device.stepTimer s.dev
            (.transferred true s.sent (progress (s.urb n))) = some d := by
          simp only [Device.stepTimer, htimer]
          split
          · exact ⟨_, rfl⟩
          · refine returnUrb_isSome ?_ true _
            rwa [tickets_writeUrbp]
        obtain ⟨d, hd⟩ := hreturn
        refine ⟨.transferred true, record d s, rfl, fun _ h => (by cases h), ?_⟩
        simp only [step, transferred, htimer, if_pos hdone, hd, Option.map_some]
      · obtain ⟨hended, hqueue⟩ := not_or.mp hdone
        obtain ⟨r, rest, hqueue⟩ := List.exists_cons_of_ne_nil hqueue
        have hpass : ∃ t, pass s = some t := by
          unfold pass
          rw [htimer]
          dsimp only
          rw [Bool.eq_false_of_not_eq_true hended, hqueue]
          dsimp only
          unfold afterPass
          split
          · exact ⟨_, rfl⟩
          · simp only [Device.stepTimer, htimer, Option.map_some]
            exact ⟨_, rfl⟩
        obtain ⟨t, ht⟩ := hpass
        exact ⟨.pass, t, rfl, fun _ h => (by cases h), ht⟩
  | giveback n next total =>
      have hlock : s.dev.lockFree = true := hfree (by rw [htimer]; rfl)
      refine ⟨.resume, { s with dev := { s.dev with timer := .transfer n next total } }, rfl,
        fun _ h => (by cases h), ?_⟩
      simp only [step, resume, Device.stepTimer, htimer, hlock, if_true, Option.map_some]

/-! ## The runs -/

/-- A step of a run of `v_timer` or of the other contexts during it, in which no URB is queued. -/
def SameRun (s : State) : Action → Prop
  | .start _ => False
  | a => ∀ t ∈ step s a, t.dev.accepted = s.dev.accepted

instance (s : State) (a : Action) : Decidable (SameRun s a) :=
  match a with
  | .start _ => isFalse id
  | .eventAdd | .connect _ | .bind _ | .pullup _ | .enable _ _ _ _ | .disable _ | .disableNuke _
  | .setHalt _ _ | .allocRequest | .queue _ _ _ _ | .dequeue _ _ | .visit _ _ _ | .setup _ _
  | .pass | .resume | .transferred _ | .cmdSubmit _ _ _ _ _ | .rx _ | .tx _ | .nuke _ | .eh _ =>
      inferInstanceAs (Decidable (∀ t ∈ step s _, t.dev.accepted = s.dev.accepted))

/-- A run does not start within itself. -/
lemma not_start_of_sameRun (h : SameRun s a) (now : Int) : a ≠ .start now := by
  rintro rfl
  exact h

/-- A run accepts no URB within itself. -/
lemma accepted_of_sameRun (h : SameRun s a) (hstep : step s a = some t) :
    t.dev.accepted = s.dev.accepted := by
  cases a with
  | start => exact h.elim
  | _ => exact h t hstep

/-- The scan of the control endpoint, whose type no step changes, keeps its invariant in every
run. -/
lemma scan_of_reachable (h : machine.Reachable s) : Scan 0 s.dev := by
  have hsteady : machine.Reach (SteadyType 0) s := by
    refine h.mono fun s a _ => ?_
    cases a with
    | enable j type maxp toHost =>
        rintro henables rfl
        simp [enables] at henables
    | _ => trivial
  have hinv : Scan 0 s.dev ∧ Replied 0 s := by
    refine hsteady.invariant (I := fun s => Scan 0 s.dev ∧ Replied 0 s) ?_ ?_
    · exact fun s hs => ordered_start hs
    · intro s a t hI hok hstep
      exact ordered_step hI.1 hI.2 hok hstep
  exact hinv.1

/-- Every step of a run lowers the rank, and no other raises it. -/
lemma rank_step (hs : machine.Reachable s) (ha : SameRun s a) (h : machine.step s a = some t) :
    machine.Reachable t ∧ (if a.timer then 1 else 0) + rank t ≤ rank s := by
  refine ⟨hs.next trivial h, ?_⟩
  have hscan := scan_of_reachable hs
  cases htimer : a.timer
  · rw [if_neg (by decide), Nat.zero_add]
    refine rank_quiet (fun n hn => hscan.below n ?_) (accepted_of_sameRun ha h)
      (quiet_step htimer h)
    rcases List.mem_append.mp hn with hn | hn
    · exact List.mem_append_left _ (List.mem_append_left _ hn)
    · exact List.mem_append_right _ hn
  · have hlt := rank_timer hscan.tickets_nodup htimer (not_start_of_sameRun ha) h
    rw [if_pos rfl]
    omega

/-- Both loops end.  `transfer` ends whatever the completion callbacks do, and its cursor never
moves on.  From each state there is a bound on the steps that `v_timer` takes before a URB is
queued or it ends, whatever the other contexts do; and until it ends it can take a step when it has
the lock and the URB that it has come to was not freed. -/
theorem loops_end :
    (∀ (γ : Type) (g : Gadget γ) (maxpacket : Nat) (x : Xfer γ), 0 < maxpacket →
      ∃ fuel y, transfer g maxpacket fuel x = some y ∧ y.advanced = x.advanced) ∧
    ∀ s, machine.Reachable s →
      (∃ bound, ∀ as t, machine.perform SameRun s as = some t →
        as.countP Action.timer ≤ bound) ∧
      (s.dev.timer ≠ .idle → (s.dev.timer.unlocked = true → s.dev.lockFree = true) →
        (∀ n ∈ s.dev.timer.cur, n ∈ s.dev.tickets) →
        ∃ a t, a.timer = true ∧ SameRun s a ∧ machine.step s a = some t) := by
  refine ⟨fun γ g maxpacket x hpos => ⟨_, transfer_ends hpos x⟩, fun s hs => ⟨⟨rank s, ?_⟩, ?_⟩⟩
  · intro as t h
    have hcount : as.countP Action.timer + rank t ≤ rank s :=
      Machine.countP_add_le_of_perform (I := machine.Reachable)
        (fun s a t hs ha hstep => rank_step hs ha hstep) as hs h
    exact (Nat.le_add_right _ _).trans hcount
  · intro hpc hfree hcur
    obtain ⟨a, t, ha, hstart, hstep⟩ := timer_goes_on hpc hfree hcur
    refine ⟨a, t, ha, ?_, hstep⟩
    obtain ⟨_, _, htimed⟩ := timer_step (scan_of_reachable hs) ha hstep
    cases a with
    | start now => exact absurd rfl (hstart now)
    | _ =>
        intro t' ht'
        obtain rfl : t = t' := Option.some.inj (hstep.symm.trans ht')
        exact htimed.accepted

/-- `v_timer` has started, with one URB on the queue. -/
def startedRun : List Action :=
  connectedRun ++ received 1 1 2 ++ [.queue 1 0 [7, 8] false, .start 0]

/-- A run of the timer that ends. -/
theorem loops_end_startedRun :
    (∃ fuel y, transfer idleGadget 4 fuel sampleXfer = some y ∧ y.advanced = 0) ∧
      ∃ s : State, (s.dev.timer ≠ .idle ∧ s.dev.tickets = [0]) ∧
        (∃ bound, ∀ as t, machine.perform SameRun s as = some t → as.countP Action.timer ≤ bound) ∧
        ∃ a t, a.timer = true ∧ SameRun s a ∧ machine.step s a = some t := by
  refine ⟨loops_end.1 Unit idleGadget 4 sampleXfer (by decide), ?_⟩
  have hrun : ∃ s : State, machine.Reachable s ∧ s.dev.timer = .visit (some 0) 96 ∧
      s.dev.tickets = [0] :=
    Machine.Reach.of_perform startedRun init_new (by decide +kernel)
  obtain ⟨s, hs, htimer, htickets⟩ := hrun
  have hpc : s.dev.timer ≠ .idle := by
    rw [htimer]
    exact fun h => (by cases h)
  obtain ⟨hbound, hgoes⟩ := loops_end.2 s hs
  refine ⟨s, ⟨hpc, htickets⟩, hbound, hgoes hpc ?_ ?_⟩
  · rw [htimer]
    exact fun h => (by cases h)
  · rw [htimer, htickets]
    decide

end Usbip.Vudc.Flow
