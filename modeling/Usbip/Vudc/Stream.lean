import Usbip.Vudc.Order

/-!
# The data of a URB and a request

URBs and requests have boundaries that have nothing to do with each other; each side is used up in
its own order, and `transfer` moves bytes from the first one of one side to the first one of the
other.  A pass loses no byte and doubles none (`Moved`), and what ends without an overflow on the
sending side is used up (`batch_req_used`, `batch_urb_used`).
-/

namespace Usbip.Vudc

open Usbip.Core Usbip.Common

/-! ## What a pass does to the data -/

/-- The part of the buffer that data was moved to or from. -/
def HostUrb.done (u : HostUrb) : List Byte := u.transferBuffer.take u.actualLength

def HostUrb.rest (u : HostUrb) : List Byte := u.transferBuffer.drop u.actualLength

/-- The part of the buffer that data was moved to or from. -/
def VRequest.done (r : VRequest) : List Byte := r.buf.take r.actual

def VRequest.rest (r : VRequest) : List Byte := r.buf.drop r.actual

variable {u : HostUrb} {r : VRequest} {m : Nat}

/-- With nothing left there is no rest. -/
lemma HostUrb.rest_of_left (h : u.left = 0) : u.rest = [] :=
  List.drop_eq_nil_of_le (Nat.sub_eq_zero_iff_le.mp h)

/-- With nothing left there is no rest. -/
lemma VRequest.rest_of_left (h : r.left = 0) : r.rest = [] :=
  List.drop_eq_nil_of_le (Nat.sub_eq_zero_iff_le.mp h)

/-- A new URB has nothing done. -/
lemma HostUrb.done_of_fresh (h : u.actualLength = 0) : u.done = [] := by
  rw [HostUrb.done, h, List.take_zero]

/-- A new URB is all rest. -/
lemma HostUrb.rest_of_fresh (h : u.actualLength = 0) : u.rest = u.transferBuffer := by
  rw [HostUrb.rest, h, List.drop_zero]

/-- A new request has nothing done. -/
lemma VRequest.done_of_fresh (h : r.actual = 0) : r.done = [] := by
  rw [VRequest.done, h, List.take_zero]

/-- A new request is all rest. -/
lemma VRequest.rest_of_fresh (h : r.actual = 0) : r.rest = r.buf := by
  rw [VRequest.rest, h, List.drop_zero]

/-- To the host, what a URB has received and what the request still holds stays the same. -/
lemma move_input (hdir : u.toHost = true) (hm : m ≤ min u.left r.left) :
    (u.move r m hm).done ++ (VRequest.move u r m hm).rest = u.done ++ r.rest := by
  have hu := u.add_left
  have hr := r.add_left
  have hdone : (u.move r m hm).done = u.done ++ slice r.actual m r.buf := by
    unfold HostUrb.done HostUrb.move
    simp only [hdir, if_true]
    exact take_copy (by omega) (by omega)
  have hrest : (VRequest.move u r m hm).rest = r.buf.drop (r.actual + m) := by
    unfold VRequest.rest VRequest.move
    simp only [hdir, if_true]
  rw [hdone, hrest, List.append_assoc, slice_append_drop]
  rfl

/-- From the host, what the request has received and what a URB still holds stays the same. -/
lemma move_output (hdir : u.toHost = false) (hm : m ≤ min u.left r.left) :
    (VRequest.move u r m hm).done ++ (u.move r m hm).rest = r.done ++ u.rest := by
  have hu := u.add_left
  have hr := r.add_left
  have hdone : (VRequest.move u r m hm).done = r.done ++ slice u.actualLength m u.transferBuffer := by
    unfold VRequest.done VRequest.move
    simp only [hdir, Bool.false_eq_true, if_false]
    exact take_copy (by omega) (by omega)
  have hrest : (u.move r m hm).rest = u.transferBuffer.drop (u.actualLength + m) := by
    unfold HostUrb.rest HostUrb.move
    simp only [hdir, Bool.false_eq_true, if_false]
  rw [hdone, hrest, List.append_assoc, slice_append_drop]
  rfl

/-- A pass moves some data, and then sets statuses. -/
lemma batch_moves (maxpacket : Nat) (u : HostUrb) (r : VRequest) :
    ∃ m, ∃ hm : m ≤ min u.left r.left, ∃ ends status,
      (batch maxpacket u r).1.urb = (u.move r m hm).finish ends status ∧
        (batch maxpacket u r).1.req = VRequest.move u r m hm := by
  by_cases hshort : min u.left r.left = 0 ∨ min u.left r.left < maxpacket
  · refine ⟨min u.left r.left, le_rfl, true, ?_⟩
    unfold batch
    rw [if_pos hshort]
    dsimp only
    split_ifs
    · exact ⟨0, rfl, rfl⟩
    · exact ⟨-EOVERFLOW, rfl, rfl⟩
    · exact ⟨0, rfl, rfl⟩
    · exact ⟨0, rfl, rfl⟩
    · exact ⟨0, rfl, rfl⟩
  · rw [batch_of_whole hshort]
    exact ⟨_, _, _, 0, rfl, rfl⟩

/-- Finishing a URB moves no data. -/
lemma HostUrb.finish_eq (u : HostUrb) (ends : Bool) (status : BitVec 32) :
    (u.finish ends status).toHost = u.toHost ∧ (u.finish ends status).done = u.done ∧
      (u.finish ends status).rest = u.rest ∧
      (u.finish ends status).transferBuffer = u.transferBuffer := by
  cases ends <;> exact ⟨rfl, rfl, rfl, rfl⟩

/-- A batch leaves no more than before. -/
lemma batch_left_le (maxpacket : Nat) (u : HostUrb) (r : VRequest) :
    (batch maxpacket u r).1.urb.left ≤ u.left := by
  obtain ⟨m, hm, ends, status, hurb, -⟩ := batch_moves maxpacket u r
  rw [hurb, HostUrb.left_finish, HostUrb.left_move]
  exact Nat.sub_le _ _

/-- What a pass leaves of the data. -/
structure Moved (u u' : HostUrb) (r r' : VRequest) : Prop where
  toHost : u'.toHost = u.toHost
  input : u.toHost = true → u'.done ++ r'.rest = u.done ++ r.rest
  output : u.toHost = false → r'.done ++ u'.rest = r.done ++ u.rest ∧
    u'.transferBuffer = u.transferBuffer

/-- A batch moves data from one side to the other. -/
lemma batch_moved (maxpacket : Nat) (u : HostUrb) (r : VRequest) :
    Moved u (batch maxpacket u r).1.urb r (batch maxpacket u r).1.req := by
  obtain ⟨m, hm, ends, status, hurb, hreq⟩ := batch_moves maxpacket u r
  obtain ⟨hdir, hdone, hrest, hbuffer⟩ := (u.move r m hm).finish_eq ends status
  rw [hurb, hreq]
  refine ⟨hdir, fun h => ?_, fun h => ⟨?_, ?_⟩⟩
  · rw [hdone, move_input h hm]
  · rw [hrest, move_output h hm]
  · rw [hbuffer]
    unfold HostUrb.move
    simp only [h, Bool.false_eq_true, if_false]

/-- To the host, a request that ends without an overflow is used up. -/
lemma batch_req_used {maxpacket : Nat} (hdir : u.toHost = true)
    (hends : (batch maxpacket u r).1.reqStatus ≠ -EINPROGRESS)
    (hover : (batch maxpacket u r).1.urb.status ≠ -EOVERFLOW) :
    (batch maxpacket u r).1.req.left = 0 := by
  by_cases hshort : min u.left r.left = 0 ∨ min u.left r.left < maxpacket
  · unfold batch at hover ⊢
    rw [if_pos hshort] at hover ⊢
    dsimp only at hover ⊢
    split_ifs at hover ⊢ with heq hlt
    · rw [VRequest.left_move]
      omega
    · exact (hover rfl).elim
    · rw [VRequest.left_move]
      omega
  · rw [batch_of_whole hshort] at hends ⊢
    by_contra hleft
    refine hends ?_
    unfold wholePackets
    dsimp only
    rw [if_neg]
    simp only [Bool.and_eq_true, decide_eq_true_eq, not_and]
    exact fun h => absurd h hleft

/-- From the host, a URB that ends without an overflow is used up. -/
lemma batch_urb_used {maxpacket : Nat} (hdir : u.toHost = false)
    (hurb : u.status = -EINPROGRESS)
    (hends : (batch maxpacket u r).1.urb.status ≠ -EINPROGRESS)
    (hover : (batch maxpacket u r).1.reqStatus ≠ -EOVERFLOW) :
    (batch maxpacket u r).1.urb.left = 0 := by
  by_cases hshort : min u.left r.left = 0 ∨ min u.left r.left < maxpacket
  · unfold batch at hover ⊢
    rw [if_pos hshort] at hover ⊢
    dsimp only at hover ⊢
    by_cases heq : u.left = r.left
    · rw [if_pos heq]
      dsimp only
      rw [HostUrb.left_finish, HostUrb.left_move]
      omega
    · rw [if_neg heq, if_neg (by rw [hdir]; decide)] at hover ⊢
      by_cases hlt : r.left < u.left
      · rw [if_pos hlt] at hover
        exact (hover rfl).elim
      · dsimp only
        rw [HostUrb.left_finish, HostUrb.left_move]
        omega
  · rw [batch_of_whole hshort] at hends ⊢
    by_contra hleft
    refine hends ?_
    unfold wholePackets at hleft ⊢
    dsimp only at hleft ⊢
    rw [HostUrb.left_finish] at hleft
    rw [HostUrb.status_finish, if_neg]
    · exact hurb
    · simp only [Bool.and_eq_true, decide_eq_true_eq, not_and]
      exact fun h => absurd h hleft

namespace Flow

/-! ## The types of the endpoints -/

section Types

variable {d t : Device.State} {allocOk : Bool}

/-- No step of `v_timer` changes the type of an endpoint. -/
lemma type_stepTimer {a : Device.TimerAction} (h : Device.stepTimer d a = some t) (j : Nat) :
    (t.ep j).type = (d.ep j).type :=
  (Unwritten.mk (f := Vep.type) (fun _ _ _ => rfl) (fun _ _ _ => rfl)).stepTimer h

/-- Where an iteration leads for a URB of an endpoint that does not stall. -/
lemma visitUrbp_of_running {running : Bool} {total ret : Int} {w : Progress} {ep : Nat → Vep}
    {p : Urbp} {e : Nat} (he : e ≠ 0) (hep : p.ep = some e) (hunlinked : p.unlinked = 0)
    (hhalted : (ep e).halted = false) :
    (Device.visitUrbp running total ret w ep p).2.2 = .skip ∨
      ((Device.visitUrbp running total ret w ep p).2.2 = .returnUrb ∧ (ep e).type = .isoc) ∨
      ((Device.visitUrbp running total ret w ep p).2.2 = .transfer ∧ (ep e).type ≠ .isoc) := by
  unfold Device.visitUrbp
  rw [if_neg (not_not.mpr hunlinked)]
  split
  · exact Or.inl rfl
  rw [hep]
  dsimp only
  split
  · exact Or.inl rfl
  split
  · exact Or.inl rfl
  simp only [he, false_and, if_false, hhalted, Bool.false_eq_true]
  cases (ep e).type with
  | isoc => exact Or.inr (Or.inl ⟨rfl, rfl⟩)
  | int | bulk | control => exact Or.inr (Or.inr ⟨rfl, fun h => (by cases h)⟩)

end Types

end Flow

end Usbip.Vudc
