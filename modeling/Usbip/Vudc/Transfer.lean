import Usbip.Common.Urb
import Usbip.Core.Copy

/-!
# `transfer`

`transfer` moves data between one URB and the requests that the gadget driver has queued on its
endpoint.  It moves as many whole packets at once as it can, gives back each request that ends,
with the lock dropped, and starts over at the head of the queue, since the completion callback may
have changed it.

What it does is the same as moving one packet after the other: `Packets` is this reference, written
from what a packet on the bus does, and `transfer_refines_packets` is the equality.  The loop ends
for any behaviour of the callbacks, and its cursor never moves on (`transfer_ends`).

A request is `-EINPROGRESS` as long as it is on a queue: `vep_queue` makes it so, and every other
status is written by the function that takes it off.  The status is therefore a result of `batch`
and not a field.
-/

namespace Usbip.Vudc

open Usbip.Core Usbip.Common

def EOVERFLOW : BitVec 32 := 75

/-! ## URBs and requests -/

/-- What `transfer` reads and writes of a URB.
Source: `<linux/usb.h>`, `struct urb`. -/
@[ext]
structure HostUrb where
  /-- `usb_pipein`. -/
  toHost : Bool
  transferBuffer : List Byte
  actualLength : Nat := 0
  /-- `URB_ZERO_PACKET`. -/
  zeroPacket : Bool := false
  status : BitVec 32 := -EINPROGRESS
  actualLength_le : actualLength ≤ transferBuffer.length
  deriving DecidableEq

/-- A request on a queue.  `id` stands for its address.
Source: `vudc.h`, `struct vrequest`, with its `struct usb_request`. -/
@[ext]
structure VRequest where
  id : Nat
  buf : List Byte
  actual : Nat := 0
  zero : Bool := false
  actual_le : actual ≤ buf.length
  deriving DecidableEq

/-- `host_len`. -/
def HostUrb.left (u : HostUrb) : Nat := u.transferBuffer.length - u.actualLength

/-- `dev_len`. -/
def VRequest.left (r : VRequest) : Nat := r.buf.length - r.actual

variable {u u' : HostUrb} {r r' : VRequest}

/-- What is done and what is left are the whole URB. -/
lemma HostUrb.add_left (u : HostUrb) : u.actualLength + u.left = u.transferBuffer.length :=
  Nat.add_sub_cancel' u.actualLength_le

/-- What is done and what is left are the whole request. -/
lemma VRequest.add_left (r : VRequest) : r.actual + r.left = r.buf.length :=
  Nat.add_sub_cancel' r.actual_le

/-- The URB after `len` bytes were moved. -/
def HostUrb.move (u : HostUrb) (r : VRequest) (len : Nat) (h : len ≤ min u.left r.left) :
    HostUrb where
  toHost := u.toHost
  transferBuffer :=
    if u.toHost then copy u.transferBuffer u.actualLength r.buf r.actual len
    else u.transferBuffer
  actualLength := u.actualLength + len
  zeroPacket := u.zeroPacket
  status := u.status
  actualLength_le := by
    have hu := u.add_left
    have hr := r.add_left
    split_ifs
    · rw [length_copy (by omega) (by omega)]
      omega
    · omega

/-- The request after `len` bytes were moved. -/
def VRequest.move (u : HostUrb) (r : VRequest) (len : Nat) (h : len ≤ min u.left r.left) :
    VRequest where
  id := r.id
  buf :=
    if u.toHost then r.buf
    else copy r.buf r.actual u.transferBuffer u.actualLength len
  actual := r.actual + len
  zero := r.zero
  actual_le := by
    have hu := u.add_left
    have hr := r.add_left
    split_ifs
    · omega
    · rw [length_copy (by omega) (by omega)]
      omega

section Move

variable {m n : Nat} (hm : m ≤ min u.left r.left)

/-- Moving data leaves the URB's length. -/
lemma HostUrb.length_move : (u.move r m hm).transferBuffer.length = u.transferBuffer.length := by
  have hu := u.add_left
  have hr := r.add_left
  unfold HostUrb.move
  dsimp only
  split_ifs
  · exact length_copy (by omega) (by omega)
  · rfl

/-- Moving data leaves the request's length. -/
lemma VRequest.length_move : (VRequest.move u r m hm).buf.length = r.buf.length := by
  have hu := u.add_left
  have hr := r.add_left
  unfold VRequest.move
  dsimp only
  split_ifs
  · rfl
  · exact length_copy (by omega) (by omega)

/-- Moving data leaves so much less in the URB. -/
lemma HostUrb.left_move : (u.move r m hm).left = u.left - m := by
  unfold HostUrb.left
  rw [HostUrb.length_move hm, Nat.sub_sub]
  rfl

/-- Moving data leaves so much less in the request. -/
lemma VRequest.left_move : (VRequest.move u r m hm).left = r.left - m := by
  unfold VRequest.left
  rw [VRequest.length_move hm, Nat.sub_sub]
  rfl

/-- Data may be moved in two parts. -/
lemma HostUrb.move_move (hn : n ≤ min (u.move r m hm).left (VRequest.move u r m hm).left)
    (hmn : m + n ≤ min u.left r.left) :
    (u.move r m hm).move (VRequest.move u r m hm) n hn = u.move r (m + n) hmn := by
  have hu := u.add_left
  have hr := r.add_left
  refine HostUrb.ext rfl ?_ (Nat.add_assoc _ _ _) rfl rfl
  cases hdir : u.toHost
  · simp only [HostUrb.move, hdir, Bool.false_eq_true, if_false]
  · simp only [HostUrb.move, VRequest.move, hdir, if_true]
    exact copy_copy (by omega) (by omega)

/-- Two moves are one of both lengths. -/
lemma VRequest.move_move (hn : n ≤ min (u.move r m hm).left (VRequest.move u r m hm).left)
    (hmn : m + n ≤ min u.left r.left) :
    VRequest.move (u.move r m hm) (VRequest.move u r m hm) n hn = VRequest.move u r (m + n) hmn := by
  have hu := u.add_left
  have hr := r.add_left
  refine VRequest.ext rfl ?_ (Nat.add_assoc _ _ _) rfl
  cases hdir : u.toHost
  · simp only [HostUrb.move, VRequest.move, hdir, Bool.false_eq_true, if_false]
    exact copy_copy (by omega) (by omega)
  · simp only [HostUrb.move, VRequest.move, hdir, if_true]

end Move

/-! ## One pass of the loop -/

/-- What a stretch of data leaves: the URB, the request and its status, and the number of bytes
moved. -/
@[ext]
structure Exchanged where
  urb : HostUrb
  req : VRequest
  reqStatus : BitVec 32
  len : Nat
  deriving DecidableEq

/-- The URB after data was moved, with its status set when it ends. -/
def HostUrb.finish (u : HostUrb) (ends : Bool) (status : BitVec 32) : HostUrb :=
  if ends then { u with status } else u

/-- The end of a pass that has moved whole packets: what is used up ends, unless a packet of length
zero has to follow. -/
def wholePackets (u : HostUrb) (r : VRequest) (moved : Nat) (h : moved ≤ min u.left r.left) :
    Exchanged :=
  let urb := u.move r moved h
  let req := VRequest.move u r moved h
  ⟨urb.finish (urb.left = 0 && !(u.zeroPacket && !u.toHost)) 0, req,
    if req.left = 0 && !(r.zero && u.toHost) then 0 else -EINPROGRESS, moved⟩

/-- One pass of the loop, with the variable `rescan` as it is before the request is given back.
Source: `vudc_transfer.c`, `transfer`. -/
def batch (maxpacket : Nat) (u : HostUrb) (r : VRequest) : Exchanged × Bool :=
  let hostLen := u.left
  let devLen := r.left
  let len := min hostLen devLen
  if len = 0 ∨ len < maxpacket then
    let urb := u.move r len (Nat.le_refl _)
    let req := VRequest.move u r len (Nat.le_refl _)
    if hostLen = devLen then (⟨urb.finish true 0, req, 0, len⟩, false)
    else if u.toHost then
      (⟨urb.finish true (if hostLen < devLen then -EOVERFLOW else 0), req, 0, len⟩, false)
    else
      (⟨urb.finish true 0, req, if devLen < hostLen then -EOVERFLOW else 0, len⟩, false)
  else
    let e := wholePackets u r (len - len % maxpacket) (Nat.sub_le _ _)
    (e, decide (0 < len % maxpacket) || e.req.left = 0 && (r.zero && u.toHost) ||
      e.urb.left = 0 && (u.zeroPacket && !u.toHost))

/-- The gadget driver as `transfer` meets it: the completion callback, and whatever else takes the
lock in the meantime, finds the queue of the endpoint and leaves another. -/
structure Gadget (γ : Type) where
  complete : γ → VRequest → BitVec 32 → List VRequest → γ × List VRequest

/-- The state of `transfer`: the URB, the queue of the endpoint, the gadget driver, the variable
`sent`, and the requests that were given back.  `advanced` counts how often the cursor of the loop
moved to a next request. -/
structure Xfer (γ : Type) where
  urb : HostUrb
  queue : List VRequest
  gadget : γ
  sent : Nat := 0
  given : List (VRequest × BitVec 32) := []
  advanced : Nat := 0

variable {γ : Type}

/-- The end of a pass for the request at `pos`: when it has ended it leaves the queue and is given
back. -/
def Xfer.after (g : Gadget γ) (pos : Nat) (x : Xfer γ) (e : Exchanged) : Xfer γ :=
  let x := { x with urb := e.urb, sent := x.sent + e.len }
  if e.reqStatus = -EINPROGRESS then { x with queue := x.queue.set pos e.req }
  else
    let (gadget, queue) := g.complete x.gadget e.req e.reqStatus (x.queue.eraseIdx pos)
    { x with gadget, queue, given := x.given ++ [(e.req, e.reqStatus)] }

/-- The loop, with the cursor at `pos`; `none` when `fuel` passes were not enough.
Source: `vudc_transfer.c`, `transfer`. -/
def transferLoop (g : Gadget γ) (maxpacket : Nat) : Nat → Nat → Xfer γ → Option (Xfer γ)
  | 0, _, _ => none
  | fuel + 1, pos, x =>
      match x.queue[pos]? with
      | none => some x
      | some r =>
          let (e, rescan) := batch maxpacket x.urb r
          let x := x.after g pos e
          if e.urb.status ≠ -EINPROGRESS then some x
          else if rescan || e.reqStatus ≠ -EINPROGRESS then transferLoop g maxpacket fuel 0 x
          else transferLoop g maxpacket fuel (pos + 1) { x with advanced := x.advanced + 1 }

/-- Source: `vudc_transfer.c`, `transfer`. -/
def transfer (g : Gadget γ) (maxpacket : Nat) (fuel : Nat) (x : Xfer γ) : Option (Xfer γ) :=
  transferLoop g maxpacket fuel 0 x

/-! ## The reference -/

/-- One packet.  A short one ends the URB and the request, with an error for the side that had
less room than the other had data; a full one ends what it uses up, unless a packet of length zero
is owed. -/
def packet (maxpacket : Nat) (u : HostUrb) (r : VRequest) : Exchanged :=
  let len := min maxpacket (min u.left r.left)
  let urb := u.move r len (Nat.min_le_right _ _)
  let req := VRequest.move u r len (Nat.min_le_right _ _)
  if len < maxpacket then
    ⟨urb.finish true (if u.toHost ∧ u.left < r.left then -EOVERFLOW else 0), req,
      if ¬ u.toHost ∧ r.left < u.left then -EOVERFLOW else 0, len⟩
  else
    ⟨urb.finish (urb.left = 0 ∧ ¬ (u.zeroPacket ∧ ¬ u.toHost)) 0, req,
      if req.left = 0 ∧ ¬ (r.zero ∧ u.toHost) then 0 else -EINPROGRESS, len⟩

/-- Packet after packet, while the URB is in progress and a request is queued. -/
inductive Packets (g : Gadget γ) (maxpacket : Nat) : Xfer γ → Xfer γ → Prop
  | urbDone {x : Xfer γ} : x.urb.status ≠ -EINPROGRESS → Packets g maxpacket x x
  | noRequest {x : Xfer γ} : x.queue = [] → Packets g maxpacket x x
  | packet {x y : Xfer γ} {r : VRequest} {rest : List VRequest} :
      x.urb.status = -EINPROGRESS → x.queue = r :: rest →
      Packets g maxpacket (x.after g 0 (packet maxpacket x.urb r)) y → Packets g maxpacket x y

/-! ## A batch is some packets -/

variable {maxpacket : Nat}

/-- Whole packets behind a move are whole packets of both. -/
lemma wholePackets_move {m n : Nat} (hm : m ≤ min u.left r.left)
    (hn : n ≤ min (u.move r m hm).left (VRequest.move u r m hm).left)
    (hmn : m + n ≤ min u.left r.left) :
    wholePackets (u.move r m hm) (VRequest.move u r m hm) n hn =
      { wholePackets u r (m + n) hmn with len := n } := by
  unfold wholePackets
  rw [HostUrb.move_move hm hn hmn, VRequest.move_move hm hn hmn]
  rfl

/-- A batch shorter than a packet is one packet. -/
lemma batch_eq_packet_of_lt (h : min u.left r.left < maxpacket) :
    (batch maxpacket u r).1 = packet maxpacket u r := by
  have hlen : min maxpacket (min u.left r.left) = min u.left r.left := Nat.min_eq_right h.le
  unfold batch packet
  simp only [hlen, h, or_true, if_true]
  by_cases heq : u.left = r.left
  · simp [heq]
  · cases hdir : u.toHost
    · simp [heq]
    · simp [heq]

/-- The largest multiple of `maxpacket` is one packet. -/
lemma batch_eq_packet (hpos : 0 < maxpacket) (h : maxpacket ≤ min u.left r.left)
    (h' : min u.left r.left - maxpacket < maxpacket) :
    (batch maxpacket u r).1 = packet maxpacket u r := by
  have hlen : min maxpacket (min u.left r.left) = maxpacket := Nat.min_eq_left h
  have hmod : min u.left r.left - min u.left r.left % maxpacket = maxpacket := by
    rw [Nat.mod_eq_sub_mod h, Nat.mod_eq_of_lt h']
    omega
  have hshort : ¬ (min u.left r.left = 0 ∨ min u.left r.left < maxpacket) := by omega
  unfold batch packet
  simp only [hlen, hmod, hshort, if_false, Nat.lt_irrefl]
  unfold wholePackets
  simp only [Bool.and_eq_true, Bool.not_eq_true', decide_eq_true_eq, ← Bool.not_eq_true,
    Bool.decide_and, decide_not, Bool.decide_eq_true]

/-- A packet that leaves more than another one to do ends nothing. -/
lemma packet_of_le (hpos : 0 < maxpacket) (h : maxpacket ≤ min u.left r.left)
    (h' : maxpacket ≤ min u.left r.left - maxpacket) :
    packet maxpacket u r = ⟨u.move r maxpacket h, VRequest.move u r maxpacket h,
      -EINPROGRESS, maxpacket⟩ := by
  have hlen : min maxpacket (min u.left r.left) = maxpacket := Nat.min_eq_left h
  have hurb : (u.move r maxpacket h).left ≠ 0 := by
    rw [HostUrb.left_move]
    omega
  have hreq : (VRequest.move u r maxpacket h).left ≠ 0 := by
    rw [VRequest.left_move]
    omega
  unfold packet
  simp only [hlen, Nat.lt_irrefl, if_false, hurb, hreq, false_and]
  rfl

/-- A batch starts with a packet and goes on as the batch of what is left. -/
lemma batch_of_le (hpos : 0 < maxpacket) (h : maxpacket ≤ min u.left r.left)
    (h' : maxpacket ≤ min u.left r.left - maxpacket) :
    (batch maxpacket u r).1 =
      let e := (batch maxpacket (u.move r maxpacket h) (VRequest.move u r maxpacket h)).1
      { e with len := maxpacket + e.len } := by
  have hleft : min (u.move r maxpacket h).left (VRequest.move u r maxpacket h).left =
      min u.left r.left - maxpacket := by
    rw [HostUrb.left_move, VRequest.left_move]
    omega
  have hmod : (min u.left r.left - maxpacket) % maxpacket = min u.left r.left % maxpacket :=
    (Nat.mod_eq_sub_mod h).symm
  have hmodle : (min u.left r.left - maxpacket) % maxpacket ≤ min u.left r.left - maxpacket :=
    Nat.mod_le _ _
  have hmoved : maxpacket + (min u.left r.left - maxpacket -
      (min u.left r.left - maxpacket) % maxpacket) =
        min u.left r.left - min u.left r.left % maxpacket := by
    rw [← hmod]
    omega
  have hshort : ¬ (min u.left r.left = 0 ∨ min u.left r.left < maxpacket) := by omega
  have hshort' : ¬ (min u.left r.left - maxpacket = 0 ∨
      min u.left r.left - maxpacket < maxpacket) := by omega
  unfold batch
  simp only [hleft, hshort, hshort', if_false]
  rw [wholePackets_move h _ (by omega)]
  simp only [hmoved]
  rfl

/-! ## The loop -/

/-- Finishing sets the status. -/
@[simp] lemma HostUrb.status_finish (u : HostUrb) (ends : Bool) (status : BitVec 32) :
    (u.finish ends status).status = if ends then status else u.status := by
  cases ends <;> rfl

/-- Finishing moves no data. -/
@[simp] lemma HostUrb.left_finish (u : HostUrb) (ends : Bool) (status : BitVec 32) :
    (u.finish ends status).left = u.left := by
  cases ends <;> rfl

/-- A short packet ends the URB. -/
lemma batch_of_short (h : min u.left r.left = 0 ∨ min u.left r.left < maxpacket) :
    (batch maxpacket u r).1.urb.status ≠ -EINPROGRESS := by
  unfold batch
  rw [if_pos h]
  split_ifs <;> simp only [HostUrb.status_finish, if_true] <;> decide

/-- A batch of a packet or more moves the whole packets. -/
lemma batch_of_whole (h : ¬ (min u.left r.left = 0 ∨ min u.left r.left < maxpacket)) :
    batch maxpacket u r =
      let e := wholePackets u r (min u.left r.left - min u.left r.left % maxpacket) (Nat.sub_le _ _)
      (e, decide (0 < min u.left r.left % maxpacket) || e.req.left = 0 && (r.zero && u.toHost) ||
        e.urb.left = 0 && (u.zeroPacket && !u.toHost)) :=
  if_neg h

/-- A pass after which the URB is still in progress has moved at least one byte. -/
lemma batch_progress (hpos : 0 < maxpacket)
    (h : (batch maxpacket u r).1.urb.status = -EINPROGRESS) :
    (batch maxpacket u r).1.urb.left < u.left := by
  by_cases hshort : min u.left r.left = 0 ∨ min u.left r.left < maxpacket
  · exact absurd h (batch_of_short hshort)
  · rw [batch_of_whole hshort]
    have hmod : min u.left r.left % maxpacket < maxpacket := Nat.mod_lt _ hpos
    simp only [wholePackets, HostUrb.left_finish, HostUrb.left_move]
    omega

/-- After a pass that ends neither the URB nor the request the loop starts over: what is used up
has ended, or a packet of length zero has to follow. -/
lemma batch_rescan (h : (batch maxpacket u r).1.urb.status = -EINPROGRESS)
    (h' : (batch maxpacket u r).1.reqStatus = -EINPROGRESS) : (batch maxpacket u r).2 = true := by
  by_cases hshort : min u.left r.left = 0 ∨ min u.left r.left < maxpacket
  · exact absurd h (batch_of_short hshort)
  rw [batch_of_whole hshort] at h h' ⊢
  by_cases hmod : 0 < min u.left r.left % maxpacket
  · simp [hmod]
  · have hzero : min u.left r.left % maxpacket = 0 := by omega
    simp only [wholePackets, HostUrb.left_finish, HostUrb.left_move, VRequest.left_move, hzero,
      Nat.sub_zero, HostUrb.status_finish] at h h' ⊢
    rcases Nat.le_total u.left r.left with hle | hle
    · have hused : u.left - min u.left r.left = 0 := by omega
      cases hzlp : (u.zeroPacket && !u.toHost)
      · simp [hused, hzlp] at h
        exact absurd h (by decide)
      · simp [hused]
    · have hused : r.left - min u.left r.left = 0 := by omega
      cases hzlp : (r.zero && u.toHost)
      · simp [hused, hzlp] at h'
        exact absurd h' (by decide)
      · simp [hused]

variable {g : Gadget γ} {x y z : Xfer γ} {rest : List VRequest}

/-- A URB that is done exchanges no packet. -/
lemma Packets.eq_of_urbDone (hurb : x.urb.status ≠ -EINPROGRESS) :
    Packets g maxpacket x z ↔ z = x := by
  constructor
  · intro h
    cases h with
    | urbDone => rfl
    | noRequest => rfl
    | packet hurb' => exact absurd hurb' hurb
  · rintro rfl
    exact .urbDone hurb

/-- Without a request there is no packet. -/
lemma Packets.eq_of_noRequest (hqueue : x.queue = []) : Packets g maxpacket x z ↔ z = x := by
  constructor
  · intro h
    cases h with
    | urbDone => rfl
    | noRequest => rfl
    | packet _ hqueue' => exact absurd (hqueue.symm.trans hqueue') (List.cons_ne_nil _ _).symm
  · rintro rfl
    exact .noRequest hqueue

/-- Otherwise the first packet goes before the others. -/
lemma Packets.iff_packet (hurb : x.urb.status = -EINPROGRESS) (hqueue : x.queue = r :: rest) :
    Packets g maxpacket x z ↔
      Packets g maxpacket (x.after g 0 (Vudc.packet maxpacket x.urb r)) z := by
  constructor
  · intro h
    cases h with
    | urbDone hurb' => exact absurd hurb hurb'
    | noRequest hqueue' => exact absurd (hqueue'.symm.trans hqueue) (List.cons_ne_nil _ _).symm
    | packet _ hqueue' hrest =>
        obtain ⟨rfl, -⟩ := List.cons_eq_cons.mp (hqueue.symm.trans hqueue')
        exact hrest
  · exact .packet hurb hqueue

/-- The URB behind an exchange. -/
@[simp] lemma Xfer.urb_after (pos : Nat) (e : Exchanged) : (x.after g pos e).urb = e.urb := by
  unfold Xfer.after
  split_ifs <;> rfl

/-- A pass that ends nothing, and then another one. -/
lemma Xfer.after_after (hqueue : x.queue = r :: rest) {u : HostUrb} {len : Nat} {e : Exchanged} :
    (x.after g 0 ⟨u, r', -EINPROGRESS, len⟩).after g 0 e =
      x.after g 0 { e with len := len + e.len } := by
  unfold Xfer.after
  by_cases hreq : e.reqStatus = -EINPROGRESS
  · simp [hreq, hqueue, Nat.add_assoc]
  · simp [hreq, hqueue, Nat.add_assoc]

/-- The reference gets to where a batch leads. -/
lemma Packets.iff_batch (hpos : 0 < maxpacket) (hurb : x.urb.status = -EINPROGRESS)
    (hqueue : x.queue = r :: rest) :
    Packets g maxpacket x z ↔
      Packets g maxpacket (x.after g 0 (batch maxpacket x.urb r).1) z := by
  induction hn : min x.urb.left r.left using Nat.strong_induction_on generalizing x r with
  | _ n ih =>
      rw [Packets.iff_packet hurb hqueue]
      by_cases hshort : n < maxpacket
      · rw [batch_eq_packet_of_lt (hn ▸ hshort)]
      by_cases hone : n - maxpacket < maxpacket
      · rw [batch_eq_packet hpos (by omega) (by omega)]
      · have hle : maxpacket ≤ min x.urb.left r.left := by omega
        rw [packet_of_le hpos hle (by omega), batch_of_le hpos hle (by omega)]
        have hqueue' : (x.after g 0 ⟨x.urb.move r maxpacket hle, VRequest.move x.urb r maxpacket hle,
            -EINPROGRESS, maxpacket⟩).queue = VRequest.move x.urb r maxpacket hle :: rest := by
          rw [Xfer.after, if_pos rfl, hqueue]
          rfl
        have hmin : min (x.urb.move r maxpacket hle).left
            (VRequest.move x.urb r maxpacket hle).left = n - maxpacket := by
          rw [HostUrb.left_move, VRequest.left_move]
          omega
        rw [ih (n - maxpacket) (by omega) (x := x.after g 0 ⟨x.urb.move r maxpacket hle,
          VRequest.move x.urb r maxpacket hle, -EINPROGRESS, maxpacket⟩) hurb hqueue' hmin,
          Xfer.after_after hqueue]
        rfl

/-- The loop ends with the URB or starts over at the head of the queue. -/
lemma transferLoop_cons {fuel : Nat} (hqueue : x.queue = r :: rest) :
    transferLoop g maxpacket (fuel + 1) 0 x =
      if (batch maxpacket x.urb r).1.urb.status ≠ -EINPROGRESS then
        some (x.after g 0 (batch maxpacket x.urb r).1)
      else transferLoop g maxpacket fuel 0 (x.after g 0 (batch maxpacket x.urb r).1) := by
  have hhead : x.queue[0]? = some r := by rw [hqueue]; rfl
  rw [transferLoop, hhead]
  dsimp only
  by_cases hend : (batch maxpacket x.urb r).1.urb.status = -EINPROGRESS
  · rw [if_neg (not_not.mpr hend), if_neg (not_not.mpr hend), if_pos ?_]
    by_cases hreq : (batch maxpacket x.urb r).1.reqStatus = -EINPROGRESS
    · simp [batch_rescan hend hreq]
    · simp [hreq]
  · rw [if_pos hend, if_pos hend]

/-- An exchange that is not over adds nothing advanced. -/
@[simp] lemma Xfer.advanced_after (pos : Nat) (e : Exchanged) :
    (x.after g pos e).advanced = x.advanced := by
  unfold Xfer.after
  split_ifs <;> rfl

/-- Whatever the completion callbacks do, the loop ends before it has made more passes than the URB
has bytes left and one, and its cursor does not move on. -/
lemma transfer_ends (hpos : 0 < maxpacket) (x : Xfer γ) :
    ∃ y, transfer g maxpacket (x.urb.left + 1) x = some y ∧ y.advanced = x.advanced := by
  suffices hfuel : ∀ fuel, x.urb.left < fuel →
      ∃ y, transferLoop g maxpacket fuel 0 x = some y ∧ y.advanced = x.advanced from
    hfuel _ (Nat.lt_succ_self _)
  intro fuel hlt
  induction fuel generalizing x with
  | zero => exact absurd hlt (Nat.not_lt_zero _)
  | succ fuel ih =>
      cases hqueue : x.queue with
      | nil => exact ⟨x, by rw [transferLoop, hqueue]; rfl, rfl⟩
      | cons r rest =>
          rw [transferLoop_cons hqueue, ← Xfer.advanced_after 0 (batch maxpacket x.urb r).1]
          by_cases hend : (batch maxpacket x.urb r).1.urb.status = -EINPROGRESS
          · rw [if_neg (not_not.mpr hend)]
            refine ih _ ?_
            rw [Xfer.urb_after]
            have hprogress := batch_progress hpos hend
            omega
          · exact ⟨_, if_pos hend, rfl⟩

/-- What `transfer` makes of a URB and the requests of its endpoint is what the packets one by one
make of them, whatever the completion callbacks do. -/
theorem transfer_refines_packets (hpos : 0 < maxpacket) (hurb : x.urb.status = -EINPROGRESS) :
    ∃ y, transfer g maxpacket (x.urb.left + 1) x = some y ∧
      ∀ z, Packets g maxpacket x z ↔ z = y := by
  suffices hfuel : ∀ fuel, x.urb.left < fuel → ∃ y, transferLoop g maxpacket fuel 0 x = some y ∧
      ∀ z, Packets g maxpacket x z ↔ z = y from hfuel _ (Nat.lt_succ_self _)
  intro fuel hlt
  induction fuel generalizing x with
  | zero => exact absurd hlt (Nat.not_lt_zero _)
  | succ fuel ih =>
      cases hqueue : x.queue with
      | nil => exact ⟨x, by rw [transferLoop, hqueue]; rfl, fun z => Packets.eq_of_noRequest hqueue⟩
      | cons r rest =>
          have hloop : transferLoop g maxpacket (fuel + 1) 0 x =
              if (batch maxpacket x.urb r).1.urb.status ≠ -EINPROGRESS then
                some (x.after g 0 (batch maxpacket x.urb r).1)
              else transferLoop g maxpacket fuel 0 (x.after g 0 (batch maxpacket x.urb r).1) :=
            transferLoop_cons hqueue
          simp only [hloop, Packets.iff_batch hpos hurb hqueue]
          by_cases hend : (batch maxpacket x.urb r).1.urb.status = -EINPROGRESS
          · rw [if_neg (not_not.mpr hend)]
            refine ih (by rw [Xfer.urb_after, hend]) ?_
            rw [Xfer.urb_after]
            have hprogress := batch_progress hpos hend
            omega
          · refine ⟨_, if_pos hend, fun z => Packets.eq_of_urbDone ?_⟩
            rwa [Xfer.urb_after]

/-- A gadget driver that does nothing in its callback. -/
def idleGadget : Gadget Unit where
  complete _ _ _ queue := ((), queue)

/-- A URB of ten bytes, with packets of four, and requests of eight bytes and a zero-length packet
and of four bytes. -/
def sampleXfer : Xfer Unit where
  urb := ⟨true, .replicate 10 0, 0, false, -EINPROGRESS, Nat.zero_le _⟩
  queue := [⟨0, [1, 2, 3, 4, 5, 6, 7, 8], 0, true, Nat.zero_le _⟩,
    ⟨1, [9, 10, 11, 12], 0, false, Nat.zero_le _⟩]
  gadget := ()

/-- A transfer of the witness, packet by packet. -/
theorem transfer_refines_packets_sampleXfer :
    ∃ y, transfer idleGadget 4 (sampleXfer.urb.left + 1) sampleXfer = some y ∧
      ∀ z, Packets idleGadget 4 sampleXfer z ↔ z = y :=
  transfer_refines_packets (by decide) rfl

/-- The zero-length packet ends the URB. -/
example : (transfer idleGadget 4 11 sampleXfer).map
    (fun x => (x.urb.actualLength, x.urb.status, x.given.map fun c => c.1.id, x.sent)) =
      some (8, 0, [0], 8) := by
  decide

end Usbip.Vudc
