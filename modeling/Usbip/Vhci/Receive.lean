import Usbip.Common.Stream
import Usbip.Core.Framing
import Usbip.Vhci.Machine

/-!
# What the receiving thread takes from its socket

`vhci_rx_pdu` as a function of the bytes it receives and of what it finds pending: `takePdu`.  The
machine reads a PDU in two steps or three, between which others may act; `recvPayload_eq` and
`recvUnlink_eq` say that they leave the URB and the event that `takePdu` does.
-/

namespace Usbip.Vhci

open Usbip.Core Usbip.Common

def EAGAIN : Nat := 11

/-- What a pass of the loop leaves: whether it added an event, the URB it gives back, and the
socket. -/
structure Taken where
  event : Bool
  giveback : Option Urb
  io : List Recvmsg

/-- What the receiving thread finds when it looks: whether `priv_rx` is empty, the URB of a seqnum,
the seqnum that a pending unlink names, and what can be allocated. -/
structure Env where
  kz : Kzalloc
  idle : Bool
  pending : Seqnum → Option Urb
  unlinking : Seqnum → Option Seqnum

/-- Source: `vhci_rx.c`, `vhci_recv_ret_submit`. -/
def takeRetSubmit (env : Env) (pdu : Header) (io : List Recvmsg) : Taken :=
  match env.pending pdu.base.seqnum with
  | none => ⟨true, none, io⟩
  | some urb =>
      let r := Common.recvPayload .vhci env.kz io (unpackRetSubmit pdu.u urb)
      ⟨r.event, if r.ret < 0 then none else some (usbipPadIso r.urb), r.io⟩

/-- Source: `vhci_rx.c`, `vhci_recv_ret_unlink`. -/
def takeRetUnlink (env : Env) (pdu : Header) (io : List Recvmsg) : Taken :=
  let urb := (env.unlinking pdu.base.seqnum).bind env.pending
  ⟨false, urb.map fun urb => { urb with status := pdu.u.w₀ }, io⟩

/-- Source: `vhci_rx.c`, `vhci_rx_pdu`. -/
def takePdu (e : Endian) (env : Env) (io : List Recvmsg) : Taken :=
  match recvHeader e io with
  | none =>
      let r := usbipRecv 48 io
      ⟨¬ (r.ret = -EAGAIN ∧ env.idle), none, r.io⟩
  | some (pdu, io) =>
      if pdu.base.command = retSubmit then takeRetSubmit env pdu io
      else if pdu.base.command = retUnlink then takeRetUnlink env pdu io
      else ⟨true, none, io⟩

/-- Source: `vhci_rx.c`, `vhci_rx_loop`. -/
def rxLoop (e : Endian) : RxLoop Env (List Recvmsg) Taken where
  rx := takePdu e
  rest := Taken.io
  stops := Taken.event

/-! ## The machine takes the same -/

/-- What the receiving thread finds in a state of the machine. -/
def State.env (kz : Kzalloc) (s : State) : Env where
  kz
  idle := s.privRx.isEmpty
  pending n := (pickupUrbAndFreePriv n s).map fun x => s.urb x.1.urb
  unlinking n := (dequeuePendingUnlink n s).map fun x => x.1.unlinkSeqnum.setWidth 32

/-- The URB that the receiving thread is about to give back. -/
def State.toGiveback (s : State) : Option Urb :=
  match s.rx with
  | .giveback u _ => some (s.urb u)
  | _ => none

variable {kz : Kzalloc} {pdu : Header} {s s' : State}

/-- What the header of a RET_SUBMIT leads to. -/
lemma vhciRecvRetSubmit_payload (kz : Kzalloc) {p : VhciPriv} (h : vhciRecvRetSubmit pdu s = s')
    (hrx : s'.rx = .payload p) :
    (s.env kz).pending pdu.base.seqnum = some (s.urb p.urb) ∧
      s'.urb p.urb = unpackRetSubmit pdu.u (s.urb p.urb) ∧ s'.event = s.event := by
  unfold vhciRecvRetSubmit at h
  split at h
  · rw [← h] at hrx
    cases hrx
  · rename_i q t hpick
    have hurb : t.urb = s.urb ∧ t.event = s.event := by
      obtain ⟨r, -, hr⟩ := Option.map_eq_some_iff.mp hpick
      obtain ⟨-, rfl⟩ := Prod.mk.inj hr
      exact ⟨rfl, rfl⟩
    rw [← h] at hrx ⊢
    obtain rfl : q = p := by
      cases hrx
      rfl
    refine ⟨?_, ?_, hurb.2⟩
    · show (pickupUrbAndFreePriv pdu.base.seqnum s).map _ = _
      rw [hpick]
      rfl
    · show Function.update t.urb q.urb _ q.urb = _
      rw [Function.update_self, hurb.1]

/-- The header of a RET_SUBMIT and its payload. -/
theorem recvPayload_eq {p : VhciPriv} (h : vhciRecvRetSubmit pdu s = s')
    (hrx : s'.rx = .payload p) (io : List Recvmsg) :
    let t := takeRetSubmit (s.env kz) pdu io
    let s'' := recvPayload p (kz.ok .recvIso (sizeT ((s'.urb p.urb).numberOfPackets * 16).toInt)) io s'
    s''.event = (s.event || t.event) ∧ s''.toGiveback = t.giveback := by
  obtain ⟨hpending, hurb, hevent⟩ := vhciRecvRetSubmit_payload kz h hrx
  obtain ⟨buf, hbuf⟩ := usbipRecvXbuff_urb io (unpackRetSubmit pdu.u (s.urb p.urb))
  have hnp : (usbipRecvXbuff .vhci io (unpackRetSubmit pdu.u (s.urb p.urb))).urb.numberOfPackets =
      (unpackRetSubmit pdu.u (s.urb p.urb)).numberOfPackets := by rw [hbuf]
  unfold takeRetSubmit recvPayload Common.recvPayload
  rw [hpending, hurb]
  dsimp only
  rw [hnp, show (s.env kz).kz = kz from rfl]
  generalize usbipRecvXbuff .vhci io (unpackRetSubmit pdu.u (s.urb p.urb)) = r₁
  by_cases h₁ : r₁.ret < 0
  · simp only [if_pos h₁]
    exact ⟨congrArg (· || _) hevent, rfl⟩
  · simp only [if_neg h₁]
    generalize usbipRecvIso _ r₁.io r₁.urb = r₂
    by_cases h₂ : r₂.ret < 0
    · simp only [if_pos h₂]
      exact ⟨by rw [← Bool.or_assoc, ← hevent], rfl⟩
    · simp only [if_neg h₂]
      exact ⟨by rw [← Bool.or_assoc, ← hevent]; rfl, congrArg some (Function.update_self ..)⟩

/-- The header of a RET_UNLINK and the lookup of its target. -/
theorem recvUnlink_eq {u : VhciUnlink} {status : BitVec 32} (h : vhciRecvRetUnlink pdu s = s')
    (hrx : s'.rx = .unlink u status) (io : List Recvmsg) :
    let t := takeRetUnlink (s.env kz) pdu io
    (recvUnlink u status s').event = (s.event || t.event) ∧
      (recvUnlink u status s').toGiveback = t.giveback := by
  unfold vhciRecvRetUnlink at h
  split at h
  · rw [← h] at hrx
    cases hrx
  · rename_i q t hdequeue
    obtain ⟨r, hfind, hr⟩ := Option.map_eq_some_iff.mp hdequeue
    obtain ⟨rfl, rfl⟩ := Prod.mk.inj hr
    rw [← h] at hrx ⊢
    cases hrx
    have hunlinking : (s.env kz).unlinking pdu.base.seqnum = some (u.unlinkSeqnum.setWidth 32) := by
      show (dequeuePendingUnlink pdu.base.seqnum s).map _ = _
      rw [hdequeue]
      rfl
    dsimp only [takeRetUnlink]
    rw [hunlinking, Option.bind_some]
    unfold recvUnlink State.env pickupUrbAndFreePriv
    dsimp only
    generalize List.find? _ s.privRx = found
    rcases found with _ | p
    · exact ⟨(Bool.or_false _).symm, rfl⟩
    · exact ⟨(Bool.or_false _).symm, congrArg some (Function.update_self ..)⟩

end Usbip.Vhci
