import Usbip.Common.Accesses
import Usbip.Vhci.Receive

/-!
# What a server can make the client write

The length, the count and the offsets that `vhci_recv_ret_submit` goes by come from the server.
Nothing compares the count with the descriptors that the URB was submitted with, or an offset with
the length of its buffer.  `ret_submit_safe_iff` says for which replies the client stays inside the
objects of the URB all the same, and answers.
-/

namespace Usbip.Vhci

open Usbip.Core Usbip.Common

/-- The accesses of a receipt, through the pointers of the pending URB.
Source: `vhci_rx.c`, `vhci_recv_ret_submit`. -/
def retSubmitAccesses (env : Env) (pdu : Header) (io : List Recvmsg) : List Access :=
  match env.pending pdu.base.seqnum with
  | none => []
  | some urb =>
      let urb := unpackRetSubmit pdu.u urb
      let r := Common.recvPayload .vhci env.kz io urb
      recvPayloadAccesses .vhci env.kz io urb ++ if r.ret < 0 then [] else usbipPadIsoAccesses r.urb

/-- The transfer buffer has its length, `iso_frame_desc` the entries that the submitter allocated,
and `buff` the size that `usbip_recv_iso` asks for. -/
def objectSize (pdu : Header) (urb : Urb) : Object → Nat
  | .transferBuffer => urb.transferBufferLength.toNat
  | .isoFrameDesc => urb.isoFrameDesc.length
  | .buff => (pdu.u.w₃ * 16).toNat

/-- Nothing outside the objects of the URB is touched, and the URB is given back unless there is an
event. -/
structure Safe (env : Env) (pdu : Header) (io : List Recvmsg) (urb : Urb) : Prop where
  inBounds : ∀ a ∈ retSubmitAccesses env pdu io, a.InBounds (objectSize pdu urb)
  answered : (takeRetSubmit env pdu io).giveback.isSome = true ∨
    (takeRetSubmit env pdu io).event = true

/-- The descriptors that follow in `b` can be received into the URB and its data moved to where
they say. -/
def DescriptorsFit (b : List Byte) (urb : Urb) : Prop :=
  let size := urb.numberOfPackets * 16
  let iso := isoReceived urb.numberOfPackets (b.take size.toNat)
  0 < size.toInt → size.toNat ≤ b.length →
    urb.numberOfPackets.toInt < 2 ^ 27 ∧ urb.numberOfPackets.toInt ≤ urb.isoFrameDesc.length ∧
      (totalLength iso = urb.actualLength → urb.actualLength ≠ 0 →
        urb.actualLength ≠ urb.transferBufferLength → PacketsFit urb.transferBufferLength.toNat iso)

/-- A reply, unpacked to `urb`, is harmless when it is refused for its data, or has no descriptors,
or when these can be allocated and fit. -/
def Harmless (kz : Kzalloc) (io : List Recvmsg) (urb : Urb) : Prop :=
  (urb.pipe.isIn = true → 0 < urb.actualLength.toInt →
    urb.actualLength ≤ urb.transferBufferLength ∧
      urb.actualLength.toNat ≤ (available io).length) →
    urb.pipe.type = .isochronous → urb.numberOfPackets ≠ 0 →
      kz.ok .recvIso (sizeT (urb.numberOfPackets * 16).toInt) = true ∧
        DescriptorsFit ((available io).drop (xbuffLength urb)) urb

/-! ## The descriptors -/

section Descriptors

variable {size : Object → Nat} {io : List Recvmsg} {urb : Urb}

/-- What is received of the descriptors, and what is touched by it. -/
lemma descriptors_safe_iff (hbuffer : size .transferBuffer = urb.transferBufferLength.toNat)
    (hdesc : size .isoFrameDesc = urb.isoFrameDesc.length)
    (hbuff : size .buff = (urb.numberOfPackets * 16).toNat)
    (hisoc : urb.pipe.type = .isochronous) (hnp : urb.numberOfPackets ≠ 0)
    (hpos : 0 ≤ (urb.numberOfPackets * 16).toInt) :
    let r := usbipRecvIso true io urb
    ((∀ a ∈ usbipRecvIsoAccesses true io urb ++
        (if r.ret < 0 then [] else usbipPadIsoAccesses r.urb), a.InBounds size) ∧
        (¬ r.ret < 0 ∨ r.event = true)) ↔ DescriptorsFit (available io) urb := by
  have hskip : ¬ (urb.pipe.type ≠ .isochronous ∨ urb.numberOfPackets = 0) := by
    rw [not_or, not_not]
    exact ⟨hisoc, hnp⟩
  have halloc : ¬ ((urb.numberOfPackets * 16).toInt < 0 ∨ ¬ true = true) := by
    simpa using hpos
  have hwhole : (⟨.buff, 0, (urb.numberOfPackets * 16).toNat⟩ : Access).InBounds size :=
    (Access.inBounds_natCast (i := 0)).mpr (by omega)
  have hrecv := usbipRecv_ret_eq_toInt_iff io hpos
  unfold usbipRecvIso usbipRecvIsoAccesses DescriptorsFit
  dsimp only
  rw [if_neg hskip, if_neg hskip, if_neg halloc, if_neg halloc]
  by_cases hall : 0 < (urb.numberOfPackets * 16).toInt ∧
      (urb.numberOfPackets * 16).toNat ≤ (available io).length
  · have hret := hrecv.mpr hall
    have hnat := toInt_eq_toNat_of_nonneg hpos
    obtain ⟨-, hbuf, -⟩ := usbipRecv_of_le (by omega) hall.2
    have hloop : (∀ a ∈ (⟨.buff, 0, (urb.numberOfPackets * 16).toNat⟩ : Access) ::
          (List.range urb.numberOfPackets.toInt.toNat).flatMap fun i =>
            [⟨.buff, (i * 16 : Nat), 16⟩, ⟨.isoFrameDesc, i, 1⟩], a.InBounds size) ↔
        urb.numberOfPackets.toInt < 2 ^ 27 ∧
          urb.numberOfPackets.toInt ≤ urb.isoFrameDesc.length := by
      rw [List.forall_mem_cons, inBounds_packets_iff, hbuff, mul_le_size_iff hall.1, hdesc,
        and_iff_right hwhole, Int.toNat_le]
    rw [if_neg (not_not_intro hret), if_neg (not_not_intro hret), hbuf]
    generalize hiso : isoReceived urb.numberOfPackets
      ((available io).take (urb.numberOfPackets * 16).toNat) = iso
    by_cases htotal : totalLength iso = urb.actualLength
    · rw [if_neg (not_not_intro htotal)]
      dsimp only
      rw [if_neg (by omega), List.forall_mem_append, hloop]
      have hpad : urb.numberOfPackets.toInt < 2 ^ 27 →
          urb.numberOfPackets.toInt ≤ urb.isoFrameDesc.length →
          ((∀ a ∈ usbipPadIsoAccesses
              { urb with isoFrameDesc := iso ++ urb.isoFrameDesc.drop iso.length },
              a.InBounds size) ↔
            (urb.actualLength ≠ 0 → urb.actualLength ≠ urb.transferBufferLength →
              PacketsFit urb.transferBufferLength.toNat iso)) := by
        intro hlt hle
        have hlen : iso.length = urb.numberOfPackets.toInt.toNat := by
          have hmul := (mul_le_size_iff hall.1).mpr hlt
          rw [← hiso]
          apply length_isoReceived
          rw [List.length_take, Nat.min_eq_left hall.2]
          exact hmul
        exact inBounds_usbipPadIso_iff (by exact hbuffer) rfl hlen.symm (by omega) htotal hisoc hnp
      constructor
      · rintro ⟨⟨⟨hlt, hle⟩, hmoves⟩, -⟩ - -
        exact ⟨hlt, hle, fun _ => (hpad hlt hle).mp hmoves⟩
      · intro h
        obtain ⟨hlt, hle, hfit⟩ := h hall.1 hall.2
        exact ⟨⟨⟨hlt, hle⟩, (hpad hlt hle).mpr (hfit htotal)⟩, Or.inl (by omega)⟩
    · rw [if_pos htotal]
      dsimp only
      rw [if_pos (show -EPIPE.toInt < 0 by decide), List.append_nil, hloop]
      constructor
      · rintro ⟨⟨hlt, hle⟩, -⟩ - -
        exact ⟨hlt, hle, fun h => absurd h htotal⟩
      · intro h
        obtain ⟨hlt, hle, -⟩ := h hall.1 hall.2
        exact ⟨⟨hlt, hle⟩, Or.inr rfl⟩
  · have hshort := mt hrecv.mp hall
    rw [if_pos hshort, if_pos hshort]
    refine iff_of_true ⟨?_, Or.inr rfl⟩ fun h₁ h₂ => absurd ⟨h₁, h₂⟩ hall
    intro a ha
    rw [if_pos (show -EPIPE.toInt < 0 by decide), List.append_nil] at ha
    rwa [List.mem_singleton.mp ha]

/-- The same when the allocation may fail, or there may be nothing to receive. -/
lemma received_safe_iff (kz : Kzalloc)
    (hbuffer : size .transferBuffer = urb.transferBufferLength.toNat)
    (hdesc : size .isoFrameDesc = urb.isoFrameDesc.length)
    (hbuff : size .buff = (urb.numberOfPackets * 16).toNat) :
    let allocOk := kz.ok .recvIso (sizeT (urb.numberOfPackets * 16).toInt)
    let r := usbipRecvIso allocOk io urb
    ((∀ a ∈ usbipRecvIsoAccesses allocOk io urb ++
        (if r.ret < 0 then [] else usbipPadIsoAccesses r.urb), a.InBounds size) ∧
        (¬ r.ret < 0 ∨ r.event = true)) ↔
      (urb.pipe.type = .isochronous → urb.numberOfPackets ≠ 0 →
        allocOk = true ∧ DescriptorsFit (available io) urb) := by
  intro allocOk r
  by_cases hskip : urb.pipe.type ≠ .isochronous ∨ urb.numberOfPackets = 0
  · have hr : r = ⟨0, false, urb, io⟩ := if_pos hskip
    have hpad : usbipPadIsoAccesses urb = [] := if_pos (by tauto)
    have haccesses : usbipRecvIsoAccesses allocOk io urb = [] := if_pos hskip
    rw [hr, haccesses, hpad]
    refine iff_of_true (by simp) fun hisoc hnp => ?_
    exact absurd hskip (not_or.mpr ⟨not_not_intro hisoc, hnp⟩)
  · obtain ⟨hisoc, hnp⟩ := not_or.mp hskip
    rw [forall_prop_of_true (not_not.mp hisoc), forall_prop_of_true hnp]
    by_cases halloc : allocOk = true
    · have hpos : 0 ≤ (urb.numberOfPackets * 16).toInt := Kzalloc.nonneg_of_ok halloc
      have hr : r = usbipRecvIso true io urb := by
        show usbipRecvIso allocOk io urb = _
        rw [halloc]
      have haccesses : usbipRecvIsoAccesses allocOk io urb = usbipRecvIsoAccesses true io urb := by
        rw [halloc]
      rw [and_iff_right halloc, haccesses, hr]
      exact descriptors_safe_iff hbuffer hdesc hbuff (not_not.mp hisoc) hnp hpos
    · have hr : r = ⟨-ENOMEM.toInt, false, urb, io⟩ := by
        show usbipRecvIso allocOk io urb = _
        unfold usbipRecvIso
        dsimp only
        rw [if_neg hskip, if_pos (Or.inr halloc)]
      have herr : -ENOMEM.toInt < 0 := by decide
      rw [hr]
      refine iff_of_false ?_ fun h => halloc h.1
      rintro ⟨-, h | h⟩
      · exact h herr
      · cases h

end Descriptors

/-! ## The reply -/

section Reply

variable {env : Env} {pdu : Header} {io : List Recvmsg} {urb : Urb}

/-- An error of `usbip_recv_xbuff` is an event, and only an error is. -/
lemma usbipRecvXbuff_event (io : List Recvmsg) (urb : Urb) :
    (usbipRecvXbuff .vhci io urb).event = true ↔ (usbipRecvXbuff .vhci io urb).ret < 0 := by
  have herr : -EPIPE.toInt < 0 := by decide
  unfold usbipRecvXbuff
  simp only [if_true, reduceCtorEq, if_false]
  split
  · simp
  · split
    · simp
    · split
      · simpa using herr
      · split
        · rename_i hpos _ hret
          refine iff_of_false (by simp) ?_
          dsimp only
          omega
        · simpa using herr

/-- The client is safe from a reply exactly when the reply is harmless. -/
theorem ret_submit_safe_iff (hpending : env.pending pdu.base.seqnum = some urb) :
    Safe env pdu io urb ↔ Harmless env.kz io (unpackRetSubmit pdu.u urb) := by
  have hsafe : Safe env pdu io urb ↔
      (∀ a ∈ retSubmitAccesses env pdu io, a.InBounds (objectSize pdu urb)) ∧
        ((takeRetSubmit env pdu io).giveback.isSome = true ∨
          (takeRetSubmit env pdu io).event = true) :=
    ⟨fun h => ⟨h.inBounds, h.answered⟩, fun h => ⟨h.1, h.2⟩⟩
  have hxbuff : ∀ a ∈ usbipRecvXbuffAccesses .vhci (unpackRetSubmit pdu.u urb),
      a.InBounds (objectSize pdu urb) := inBounds_usbipRecvXbuff fun _ => Nat.le_refl _
  have hevent := usbipRecvXbuff_event io (unpackRetSubmit pdu.u urb)
  rw [hsafe]
  unfold retSubmitAccesses takeRetSubmit Common.recvPayload recvPayloadAccesses Harmless
  rw [hpending]
  dsimp only
  rw [← usbipRecvXbuff_ret_nonneg_iff, List.append_assoc, List.forall_mem_append,
    and_iff_right hxbuff]
  by_cases hret : (usbipRecvXbuff .vhci io (unpackRetSubmit pdu.u urb)).ret < 0
  · simp only [if_pos hret, hevent.mpr hret]
    exact iff_of_true ⟨by simp, Or.inr trivial⟩ fun h => absurd hret (by omega)
  · have hav := available_usbipRecvXbuff (Int.not_lt.mp hret)
    obtain ⟨buf, hurb⟩ := usbipRecvXbuff_urb io (unpackRetSubmit pdu.u urb)
    have hquiet : (usbipRecvXbuff .vhci io (unpackRetSubmit pdu.u urb)).event = false :=
      Bool.eq_false_iff.mpr (mt hevent.mp hret)
    simp only [if_neg hret]
    rw [forall_prop_of_true (Int.not_lt.mp hret), hurb, hquiet, ← hav]
    have hsome : ∀ {p : Prop} [Decidable p] {u : Urb},
        (if p then none else some u).isSome = true ↔ ¬ p := by
      intro p _ u
      split <;> simp_all
    rw [Bool.false_or, hsome]
    exact received_safe_iff env.kz rfl rfl rfl

end Reply

/-- The reply to an isochronous URB, with four bytes of data in two packets. -/
def packetsPdu : Header where
  base := { command := retSubmit, seqnum := 5 }
  u := { w₁ := 4, w₃ := 2 }

def packetsIo : List Recvmsg :=
  [.bytes ([1, 2, 3, 4] ++
    ([⟨0, 2, 2, 0⟩, ⟨4, 2, 2, 0⟩] : List IsoPacketDescriptor).flatMap IsoPacketDescriptor.wire)]

/-- A URB of eight bytes and `n` packets. -/
def packetsUrb (n : Nat) : Urb where
  pipe := ⟨.isochronous, true, 1, 3⟩
  transferBuffer := List.replicate 8 0
  transferBufferLength := 8
  numberOfPackets := BitVec.ofNat 32 n
  isoFrameDesc := List.replicate n ⟨0, 4, 0, -EXDEV⟩

def packetsEnv (n : Nat) : Env := ⟨.all, false, fun _ => some (packetsUrb n), fun _ => none⟩

/-- A reply with two packets. -/
theorem ret_submit_safe_iff_two : Safe (packetsEnv 2) packetsPdu packetsIo (packetsUrb 2) := by
  have hfit : PacketsFit 8 [⟨0, 2, 2, 0⟩, ⟨4, 2, 2, 0⟩] := by
    intro i d hpos hi
    obtain rfl : i = 1 := by
      have hlt := (List.getElem?_eq_some_iff.mp hi).1
      simp only [List.length_cons, List.length_nil] at hlt
      omega
    cases hi
    decide
  exact (ret_submit_safe_iff rfl).mpr fun _ _ _ =>
    ⟨by decide, fun _ _ => ⟨by decide, by decide, fun _ _ _ => hfit⟩⟩

/-- The second packet is written behind the descriptor of a URB that has one. -/
theorem ret_submit_overflows : ¬ Safe (packetsEnv 1) packetsPdu packetsIo (packetsUrb 1) := by
  intro h
  have hwrite := h.inBounds ⟨.isoFrameDesc, 1, 1⟩ (by decide)
  exact absurd hwrite (by decide)

end Usbip.Vhci
