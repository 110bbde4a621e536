import Usbip.Stub.Receive
import Usbip.Vhci.Machine
import Usbip.Vudc.Receive

/-!
# The requests in their stream

The vhci writes requests one after the other, and the kernel stub or the vudc reads them.  Whether
data and descriptors follow a header is decided three times: by the client from the pipe of the URB,
by the stub from the type of its endpoint and the direction in the header, and by the vudc from the
endpoint it finds.  `recvPayload_of_request` says when they decide alike, for one request;
`requests_consumed` says it for a whole stream and both servers.
-/

namespace Usbip.Link

open Usbip.Core Usbip.Common

/-! ## What the client writes -/

inductive Request
  | submit (p : Vhci.VhciPriv) (urb : Urb)
  | unlink (x : Vhci.VhciUnlink)

/-- What is written for a URB, or `none` with an event.
Source: `vhci_tx.c`, `vhci_send_cmd_submit`. -/
def vhciSendCmdSubmit (kz : Kzalloc) (beyond : Nat → Byte) (e : Endian) (devid : BitVec 32)
    (p : Vhci.VhciPriv) (urb : Urb) : Option (List Byte) :=
  let header := (correctEndianSend e (Vhci.setupCmdSubmitPdu p devid urb)).bytes e
  let data :=
    if ¬ urb.pipe.isIn ∧ 0 < urb.transferBufferLength.toNat then
      iovec beyond urb.transferBuffer 0 urb.transferBufferLength.toNat
    else []
  if urb.pipe.type = .isochronous then
    (usbipAllocIsoDescPdu kz urb).map fun iso => header ++ data ++ iso
  else some (header ++ data)

/-- Source: `vhci_tx.c`, `vhci_send_cmd_unlink`. -/
def vhciSendCmdUnlink (e : Endian) (devid : BitVec 32) (x : Vhci.VhciUnlink) : List Byte :=
  (correctEndianSend e (Vhci.cmdUnlinkPdu x devid).header).bytes e

/-- What is written for a request, or `none` with an event. -/
def Request.send (kz : Kzalloc) (beyond : Nat → Byte) (e : Endian) (devid : BitVec 32) :
    Request → Option (List Byte)
  | .submit p urb => vhciSendCmdSubmit kz beyond e devid p urb
  | .unlink x => some (vhciSendCmdUnlink e devid x)

/-- A URB as `usb_submit_urb` lets it through. -/
structure Submitted (urb : Urb) : Prop where
  setup : ∀ b ∈ urb.setupPacket, b.length = 8
  length : urb.transferBufferLength.toNat < 2 ^ 31
  packets : urb.pipe.type = .isochronous →
    urb.numberOfPackets.toInt.toNat ≤ urb.isoFrameDesc.length
  zeroed : urb.pipe.type = .isochronous → ∀ d ∈ urb.isoFrameDesc, d.actualLength = 0

/-- The descriptors that travel. -/
def packetsOf (urb : Urb) : List IsoPacketDescriptor :=
  if urb.pipe.type = .isochronous then urb.isoFrameDesc.take urb.numberOfPackets.toInt.toNat else []

/-- The data that travels. -/
def outData (beyond : Nat → Byte) (urb : Urb) : List Byte :=
  if urb.pipe.isIn then [] else iovec beyond urb.transferBuffer 0 urb.transferBufferLength.toNat

/-- The length of a request: the header, the data of an OUT transfer and the descriptors. -/
def Request.length : Request → Nat
  | .submit _ urb => 48 + (if urb.pipe.isIn then 0 else urb.transferBufferLength.toNat) +
      if urb.pipe.type = .isochronous then urb.numberOfPackets.toNat * 16 else 0
  | .unlink _ => 48

section Send

variable {kz : Kzalloc} {beyond : Nat → Byte} {e : Endian} {devid : BitVec 32} {p : Vhci.VhciPriv}
  {urb : Urb} {bytes : List Byte}

/-- CMD_SUBMIT leaves no byte of its header unset. -/
lemma clean_setupCmdSubmitPdu (p : Vhci.VhciPriv) (devid : BitVec 32) (h : Submitted urb) :
    (Vhci.setupCmdSubmitPdu p devid urb).Clean := by
  refine ⟨?_, Or.inl (Or.inl rfl)⟩
  show (urb.setupPacket.getD (List.replicate 8 0)).length = 8
  cases hsetup : urb.setupPacket with
  | none => rfl
  | some b => exact h.setup b hsetup

/-- CMD_UNLINK leaves no byte of its header unset. -/
lemma clean_cmdUnlinkPdu (x : Vhci.VhciUnlink) (devid : BitVec 32) :
    (Vhci.cmdUnlinkPdu x devid).header.Clean :=
  ⟨rfl, Or.inr ⟨Or.inl rfl, rfl, rfl, rfl, rfl⟩⟩

/-- What is written for a URB: the header, the data and the descriptors. -/
lemma vhciSendCmdSubmit_eq (hsend : vhciSendCmdSubmit kz beyond e devid p urb = some bytes) :
    bytes = (correctEndianSend e (Vhci.setupCmdSubmitPdu p devid urb)).bytes e ++
        (outData beyond urb ++ (packetsOf urb).flatMap IsoPacketDescriptor.wire) ∧
      (urb.pipe.type = .isochronous →
        urb.numberOfPackets.toInt = urb.numberOfPackets.toNat ∧
          urb.numberOfPackets.toNat * 16 < 2 ^ 31) := by
  have hdata : (if ¬ urb.pipe.isIn ∧ 0 < urb.transferBufferLength.toNat then
      iovec beyond urb.transferBuffer 0 urb.transferBufferLength.toNat else []) =
      outData beyond urb := by
    unfold outData
    cases hin : urb.pipe.isIn with
    | true => simp
    | false =>
        by_cases hpos : 0 < urb.transferBufferLength.toNat
        · simp [hpos]
        · have hzero : urb.transferBufferLength.toNat = 0 := by omega
          simp [hzero, iovec]
  unfold vhciSendCmdSubmit at hsend
  rw [hdata] at hsend
  unfold packetsOf
  by_cases hisoc : urb.pipe.type = .isochronous
  · rw [if_pos hisoc] at hsend ⊢
    obtain ⟨iso, hiso, rfl⟩ := Option.map_eq_some_iff.mp hsend
    obtain ⟨hok, hwire⟩ := Option.ite_none_right_eq_some.mp hiso
    refine ⟨?_, fun _ => Kzalloc.toInt_of_ok hok⟩
    rw [← Option.some.inj hwire, List.append_assoc]
  · rw [if_neg hisoc] at hsend ⊢
    refine ⟨?_, fun h => absurd h hisoc⟩
    rw [← Option.some.inj hsend, List.flatMap_nil, List.append_nil]

/-- An OUT request carries its buffer and an IN request nothing. -/
lemma length_outData :
    (outData beyond urb).length =
      if urb.pipe.isIn then 0 else urb.transferBufferLength.toNat := by
  unfold outData
  split
  · rfl
  · exact length_iovec _ _ _ _

/-- A request carries its descriptors when it is isochronous. -/
lemma length_packetsOf (h : Submitted urb)
    (hnp : urb.pipe.type = .isochronous → urb.numberOfPackets.toInt = urb.numberOfPackets.toNat) :
    (packetsOf urb).length =
      if urb.pipe.type = .isochronous then urb.numberOfPackets.toNat else 0 := by
  unfold packetsOf
  by_cases hisoc : urb.pipe.type = .isochronous
  · have hle := h.packets hisoc
    rw [hnp hisoc, Int.toNat_natCast] at hle
    rw [if_pos hisoc, if_pos hisoc, hnp hisoc, Int.toNat_natCast, List.length_take,
      Nat.min_eq_left hle]
  · rw [if_neg hisoc, if_neg hisoc]
    rfl

end Send

/-! ## What a server makes of it -/

/-- What a server expects of a request: the URB that it receives it in has the direction and the
type of the client's endpoint, and the length and the count of the header. -/
structure Expects (urb recv : Urb) : Prop where
  isIn : recv.pipe.isIn = urb.pipe.isIn
  type : recv.pipe.type = urb.pipe.type
  length : recv.transferBufferLength = urb.transferBufferLength
  packets : recv.numberOfPackets = urb.numberOfPackets
  actual : recv.actualLength = 0

/-- Packets that have received nothing. -/
lemma totalLength_eq_zero {iso : List IsoPacketDescriptor} (h : ∀ d ∈ iso, d.actualLength = 0) :
    totalLength iso = 0 := by
  induction iso with
  | nil => rfl
  | cons d iso ih =>
      have hd := h d List.mem_cons_self
      have hrest := ih fun d' hd' => h d' (List.mem_cons_of_mem d hd')
      unfold totalLength at hrest ⊢
      rw [List.map_cons, List.sum_cons, hd, hrest]
      rfl

section Payload

variable {kz : Kzalloc} {beyond : Nat → Byte} {urb recv : Urb} {io : List Recvmsg}
  {rest : List Byte}

/-- A server stores the data and the descriptors of a request, and takes nothing more. -/
theorem recvPayload_eq_of_request (side : Side) (hside : side ≠ .vhci) (hurb : Submitted urb)
    (hexpects : Expects urb recv)
    (hnp : urb.pipe.type = .isochronous → urb.numberOfPackets.toInt = urb.numberOfPackets.toNat)
    (halloc : urb.pipe.type = .isochronous → urb.numberOfPackets ≠ 0 →
      kz.ok .recvIso (urb.numberOfPackets.toNat * 16) = true)
    (hav : available io = outData beyond urb ++
      ((packetsOf urb).flatMap IsoPacketDescriptor.wire ++ rest)) :
    ∃ io', recvPayload side kz io recv = ⟨((packetsOf urb).length * 16 : Nat), false,
        (recv.withData (outData beyond urb)).withIso (packetsOf urb), io'⟩ ∧
      available io' = rest := by
  have hlength := length_packetsOf hurb hnp
  have hdata : (outData beyond urb).length = xbuffExpected side recv := by
    have hint : urb.transferBufferLength.toInt = urb.transferBufferLength.toNat :=
      BitVec.toInt_eq_toNat_of_lt (by have := hurb.length; omega)
    have hsize : xbuffSize side recv = urb.transferBufferLength :=
      (if_neg hside).trans hexpects.length
    rw [length_outData, xbuffExpected, hsize, hint, hexpects.isIn, decide_eq_false hside]
    cases urb.pipe.isIn with
    | true => simp
    | false =>
        by_cases hpos : 0 < urb.transferBufferLength.toNat
        · rw [if_neg (by simp), if_pos ⟨rfl, by exact_mod_cast hpos⟩]
        · rw [if_neg (by simp), if_neg (by rintro ⟨-, h⟩; omega)]
          omega
  have hfit : (outData beyond urb).length ≤ recv.transferBufferLength.toNat := by
    rw [length_outData, hexpects.length]
    split
    · exact Nat.zero_le _
    · exact Nat.le_refl _
  have hiso : (packetsOf urb).length = isoExpected recv := by
    rw [hlength, isoExpected, hexpects.type, hexpects.packets]
  have hisoc (hne : packetsOf urb ≠ []) : urb.pipe.type = .isochronous := by
    by_contra hnot
    exact hne (if_neg hnot)
  have hdesc (hne : packetsOf urb ≠ []) : kz.ok .recvIso ((packetsOf urb).length * 16) = true := by
    rw [hlength, if_pos (hisoc hne)]
    refine halloc (hisoc hne) fun hzero => hne ?_
    rw [← List.length_eq_zero_iff, hlength, if_pos (hisoc hne), hzero]
    rfl
  have htotal (hne : packetsOf urb ≠ []) : totalLength (packetsOf urb) = recv.actualLength := by
    rw [hexpects.actual]
    apply totalLength_eq_zero
    intro d hd
    have hmem : d ∈ urb.isoFrameDesc := by
      rw [packetsOf, if_pos (hisoc hne)] at hd
      exact List.mem_of_mem_take hd
    exact hurb.zeroed (hisoc hne) d hmem
  exact recvPayload_of_wire hav hdata hfit hiso hdesc htotal

/-- A server takes exactly the payload of the request. -/
theorem recvPayload_of_request (side : Side) (hside : side ≠ .vhci) (hurb : Submitted urb)
    (hexpects : Expects urb recv)
    (hnp : urb.pipe.type = .isochronous → urb.numberOfPackets.toInt = urb.numberOfPackets.toNat)
    (halloc : urb.pipe.type = .isochronous → urb.numberOfPackets ≠ 0 →
      kz.ok .recvIso (urb.numberOfPackets.toNat * 16) = true)
    (hav : available io = outData beyond urb ++
      ((packetsOf urb).flatMap IsoPacketDescriptor.wire ++ rest)) :
    0 ≤ (recvPayload side kz io recv).ret ∧ (recvPayload side kz io recv).event = false ∧
      available (recvPayload side kz io recv).io = rest := by
  obtain ⟨io', hrecv, hrest⟩ := recvPayload_eq_of_request side hside hurb hexpects hnp halloc hav
  rw [hrecv]
  exact ⟨Int.natCast_nonneg _, rfl, hrest⟩

end Payload

/-! ## The stub -/

/-- The stub can take a request: it is exported to this client, has the endpoint with the type the
client takes it for, can allocate what it needs, and the USB core takes the URB. -/
structure StubAccepts (env : Stub.Env) (devid : BitVec 32) (p : Vhci.VhciPriv) (urb : Urb) :
    Prop where
  endpoint : ∃ d, (if urb.pipe.isIn then env.udev.epIn else env.udev.epOut)
    urb.pipe.endpoint.toFin = some d ∧ d.type = urb.pipe.type
  alloc : env.Allocates (Vhci.setupCmdSubmitPdu p devid urb)
    (if urb.pipe.type = .isochronous then urb.numberOfPackets.toInt else 0)
  descriptors : urb.pipe.type = .isochronous → urb.numberOfPackets ≠ 0 →
    env.kz.ok .recvIso (urb.numberOfPackets.toNat * 16) = true
  submit : ∀ u, env.submit u = true

section Stub

variable {env : Stub.Env} {devid : BitVec 32} {p : Vhci.VhciPriv} {urb : Urb}

/-- The pipe that the stub finds for a request. -/
lemma getPipe_of_accepts (h : StubAccepts env devid p urb) :
    Stub.getPipe env.udev (urb.pipe.endpoint.setWidth 32)
        (if urb.pipe.isIn then dirIn else dirOut) =
      .ok (Stub.usbPipe urb.pipe.type (!urb.pipe.isIn) env.udev
        (urb.pipe.endpoint.setWidth 32)) := by
  obtain ⟨d, hd, htype⟩ := h.endpoint
  have hmask : (urb.pipe.endpoint.setWidth 32 &&& 0x7f).toNat = urb.pipe.endpoint.toNat := by
    have hlt := urb.pipe.endpoint.isLt
    rw [BitVec.toNat_and, BitVec.toNat_setWidth, Nat.mod_eq_of_lt (by omega),
      show (0x7f : BitVec 32).toNat = 2 ^ 7 - 1 from rfl, Nat.and_two_pow_sub_one_eq_mod]
    exact Nat.mod_eq_of_lt (by omega)
  have hlt : (urb.pipe.endpoint.setWidth 32 &&& 0x7f).toNat < 16 :=
    hmask ▸ urb.pipe.endpoint.isLt
  have hfin : (⟨(urb.pipe.endpoint.setWidth 32 &&& 0x7f).toNat, hlt⟩ : Fin 16) =
      urb.pipe.endpoint.toFin := Fin.ext hmask
  unfold Stub.getPipe
  dsimp only
  rw [dif_pos hlt, hfin]
  cases hin : urb.pipe.isIn with
  | true =>
      rw [hin] at hd
      simp only [if_true] at hd ⊢
      rw [hd]
      simp [htype, dirIn, dirOut]
  | false =>
      rw [hin] at hd
      simp only [Bool.false_eq_true, if_false] at hd ⊢
      rw [if_neg (by decide), hd]
      simp [htype]

/-- The stub comes to the payload of a request that it can take, with a URB like the client's. -/
lemma stubRecvCmdSubmit_of_accepts (io : List Recvmsg) (h : StubAccepts env devid p urb) :
    ∃ pipe room, Stub.stubRecvCmdSubmit env (Vhci.setupCmdSubmitPdu p devid urb) io =
        .ok (Stub.stubRecvPayload env (Vhci.setupCmdSubmitPdu p devid urb) pipe room io) ∧
      Expects urb (Stub.stubUrb (Vhci.setupCmdSubmitPdu p devid urb) pipe room) := by
  have hpipe := getPipe_of_accepts h
  have hbits := Stub.pipeOfBits_usbPipe urb.pipe.type (!urb.pipe.isIn) env.udev urb.pipe.endpoint
  generalize Stub.usbPipe urb.pipe.type (!urb.pipe.isIn) env.udev
    (urb.pipe.endpoint.setWidth 32) = pipe at hpipe hbits
  have hpackets : Stub.packetsOn (Vhci.setupCmdSubmitPdu p devid urb) pipe =
      if urb.pipe.type = .isochronous then urb.numberOfPackets.toInt else 0 := by
    rw [Stub.packetsOn, hbits]
    rfl
  obtain ⟨room, -, hrecv⟩ := Stub.stubRecvOnPipe_of_allocates io (hpackets ▸ h.alloc)
  refine ⟨pipe, room, ?_, ?_, ?_, rfl, rfl, rfl⟩
  · unfold Stub.stubRecvCmdSubmit
    have hget : Stub.getPipe env.udev (Vhci.setupCmdSubmitPdu p devid urb).base.ep
        (Vhci.setupCmdSubmitPdu p devid urb).base.direction = .ok pipe := hpipe
    rw [hget]
    exact congrArg Except.ok hrecv
  · change (Stub.pipeOfBits pipe).isIn = _
    rw [hbits, Bool.not_not]
  · change (Stub.pipeOfBits pipe).type = _
    rw [hbits]

/-- The stub reads a CMD_SUBMIT exactly. -/
lemma stub_takes_submit {kz : Kzalloc} {beyond : Nat → Byte} (e : Endian) {e' : Endian}
    {bytes rest : List Byte} {io : List Recvmsg} (hdevid : env.devid = devid)
    (hused : env.used = true) (hurb : Submitted urb) (h : StubAccepts env devid p urb)
    (hsend : vhciSendCmdSubmit kz beyond e' devid p urb = some bytes)
    (hav : available io = bytes ++ rest) :
    ∃ t, Stub.stubRxPdu e env io = .ok t ∧ t.event = false ∧ available t.io = rest := by
  obtain ⟨rfl, hnp⟩ := vhciSendCmdSubmit_eq hsend
  rw [List.append_assoc, List.append_assoc] at hav
  obtain ⟨io₁, hheader, hav₁⟩ := recvHeader_of_wire e e' (clean_setupCmdSubmitPdu p devid hurb) hav
  obtain ⟨pipe, room, hrecv, hexpects⟩ := stubRecvCmdSubmit_of_accepts io₁ h
  obtain ⟨hret, hevent, hrest⟩ := recvPayload_of_request .stub (by decide) hurb
    hexpects (fun hisoc => (hnp hisoc).1) h.descriptors hav₁
  have hvalid : Stub.validRequest env (Vhci.setupCmdSubmitPdu p devid urb) = true := by
    simp [Stub.validRequest, Vhci.setupCmdSubmitPdu, hdevid, hused]
  have hcommand : (Vhci.setupCmdSubmitPdu p devid urb).base.command = cmdSubmit := rfl
  have hpayload : ∀ t, Stub.stubRecvPayload env (Vhci.setupCmdSubmitPdu p devid urb) pipe room io₁ =
      t → t.event = false ∧ available t.io = rest := by
    rintro t rfl
    unfold Stub.stubRecvPayload
    dsimp only
    rw [if_neg (Int.not_lt.mpr hret)]
    refine ⟨?_, hrest⟩
    dsimp only
    rw [hevent, h.submit]
    rfl
  refine ⟨_, ?_, hpayload _ rfl⟩
  unfold Stub.stubRxPdu
  rw [hheader]
  dsimp only
  rw [if_neg (not_not_intro hvalid), if_neg (hcommand ▸ by decide), if_pos hcommand]
  exact hrecv

/-- A CMD_UNLINK is its header. -/
lemma stub_takes_unlink (e : Endian) {e' : Endian} {x : Vhci.VhciUnlink} {rest : List Byte}
    {io : List Recvmsg} (hdevid : env.devid = devid) (hused : env.used = true)
    (hok : env.pending (x.unlinkSeqnum.setWidth 32) = true ∨ env.unlinkOk = true)
    (hav : available io = vhciSendCmdUnlink e' devid x ++ rest) :
    ∃ t, Stub.stubRxPdu e env io = .ok t ∧ t.event = false ∧ available t.io = rest := by
  obtain ⟨io₁, hheader, hav₁⟩ := recvHeader_of_wire e e' (clean_cmdUnlinkPdu x devid) hav
  have hvalid : Stub.validRequest env (Vhci.cmdUnlinkPdu x devid).header = true := by
    simp [Stub.validRequest, Vhci.cmdUnlinkPdu, hdevid, hused]
  refine ⟨Stub.stubRecvCmdUnlink env (Vhci.cmdUnlinkPdu x devid).header io₁, ?_, ?_, hav₁⟩
  · unfold Stub.stubRxPdu
    rw [hheader]
    dsimp only
    rw [if_neg (not_not_intro hvalid), if_pos (show (Vhci.cmdUnlinkPdu x devid).header.base.command =
      cmdUnlink from rfl)]
  · apply decide_eq_false
    rintro ⟨hpending, hunlink⟩
    exact hok.elim hpending hunlink

end Stub

/-! ## The vudc -/

/-- The vudc can take a request: it has the endpoint with the type the client takes it for, and can
allocate what it needs. -/
structure VudcAccepts (env : Vudc.Env) (devid : BitVec 32) (p : Vhci.VhciPriv) (urb : Urb) :
    Prop where
  endpoint : ∃ i, Vudc.vudcFindEndpoint env.ep
      (Vudc.requestAddress (Vhci.setupCmdSubmitPdu p devid urb)) = some i ∧
    (env.ep i).type.pipeType = urb.pipe.type
  alloc : env.Allocates (Vhci.setupCmdSubmitPdu p devid urb)
    (if urb.pipe.type = .isochronous then urb.numberOfPackets.toInt else 0)
  descriptors : urb.pipe.type = .isochronous → urb.numberOfPackets ≠ 0 →
    env.kz.ok .recvIso (urb.numberOfPackets.toNat * 16) = true

section Vudc

variable {env : Vudc.Env} {devid : BitVec 32} {p : Vhci.VhciPriv} {urb : Urb}

/-- The vudc reads a CMD_SUBMIT exactly. -/
lemma vudc_takes_submit {kz : Kzalloc} {beyond : Nat → Byte} (e : Endian) {e' : Endian}
    {bytes rest : List Byte} {io : List Recvmsg} (hused : env.used = true) (hurb : Submitted urb)
    (h : VudcAccepts env devid p urb)
    (hsend : vhciSendCmdSubmit kz beyond e' devid p urb = some bytes)
    (hav : available io = bytes ++ rest) :
    (Vudc.rxLoop e).stops (Vudc.takePdu e env io) = false ∧
      available (Vudc.takePdu e env io).io = rest := by
  obtain ⟨rfl, hnp⟩ := vhciSendCmdSubmit_eq hsend
  rw [List.append_assoc, List.append_assoc] at hav
  obtain ⟨io₁, hheader, hav₁⟩ := recvHeader_of_wire e e' (clean_setupCmdSubmitPdu p devid hurb) hav
  obtain ⟨i, hfind, htype⟩ := h.endpoint
  have hpackets : Vudc.packetsOn (Vhci.setupCmdSubmitPdu p devid urb) (env.ep i).type =
      if urb.pipe.type = .isochronous then urb.numberOfPackets.toInt else 0 := by
    rw [← htype]
    cases hep : (env.ep i).type with
    | isoc => rfl
    | control | bulk | int => rfl
  obtain ⟨room, -, hrecv⟩ := Vudc.takeCmdSubmit_of_allocates io₁ hfind (hpackets ▸ h.alloc)
  have hexpects : Expects urb
      (Vudc.vudcUrb (Vhci.setupCmdSubmitPdu p devid urb) (env.ep i).type room) := by
    refine ⟨?_, htype, rfl, rfl, rfl⟩
    change decide ((if urb.pipe.isIn then dirIn else dirOut) = dirIn) = _
    cases urb.pipe.isIn with
    | true => rfl
    | false => rfl
  obtain ⟨hret, hevent, hrest⟩ := recvPayload_of_request .vudc (by decide) hurb
    hexpects (fun hisoc => (hnp hisoc).1) h.descriptors hav₁
  have hcommand : (Vhci.setupCmdSubmitPdu p devid urb).base.command = cmdSubmit := rfl
  have htake : Vudc.takePdu e env io =
      Vudc.takeCmdSubmit env (Vhci.setupCmdSubmitPdu p devid urb) io₁ := by
    unfold Vudc.takePdu
    rw [hheader]
    dsimp only
    rw [if_neg (not_not_intro hused), if_neg (hcommand ▸ by decide), if_pos hcommand]
  rw [htake, hrecv]
  dsimp only
  rw [if_neg (Int.not_lt.mpr hret)]
  exact ⟨by simp [Vudc.rxLoop, hevent], hrest⟩

/-- A CMD_UNLINK is its header. -/
lemma vudc_takes_unlink (e : Endian) {e' : Endian} {x : Vhci.VhciUnlink} {rest : List Byte}
    {io : List Recvmsg} (hused : env.used = true)
    (hok : env.queued (x.unlinkSeqnum.setWidth 32) = true ∨ env.unlinkOk = true)
    (hav : available io = vhciSendCmdUnlink e' devid x ++ rest) :
    (Vudc.rxLoop e).stops (Vudc.takePdu e env io) = false ∧
      available (Vudc.takePdu e env io).io = rest := by
  obtain ⟨io₁, hheader, hav₁⟩ := recvHeader_of_wire e e' (clean_cmdUnlinkPdu x devid) hav
  have htake : Vudc.takePdu e env io =
      Vudc.takeCmdUnlink env (Vhci.cmdUnlinkPdu x devid).header io₁ := by
    unfold Vudc.takePdu
    rw [hheader]
    dsimp only
    rw [if_neg (not_not_intro hused), if_pos (show (Vhci.cmdUnlinkPdu x devid).header.base.command =
      cmdUnlink from rfl)]
  rw [htake]
  refine ⟨?_, hav₁⟩
  have hevent : (Vudc.takeCmdUnlink env (Vhci.cmdUnlinkPdu x devid).header io₁).event = false := by
    apply decide_eq_false
    rintro ⟨hqueued, hunlink⟩
    exact hok.elim hqueued hunlink
  simp only [Vudc.rxLoop, hevent, Bool.false_or]
  exact decide_eq_false (Int.lt_irrefl 0)

end Vudc

/-! ## The stream -/

/-- A request, the bytes written for it, and what the server finds when it reads them. -/
structure Sent (ε : Type*) where
  request : Request
  bytes : List Byte
  env : ε

/-- The client has written the bytes of a URB or of an unlink. -/
structure Sent.Written {ε : Type*} (kz : Kzalloc) (beyond : Nat → Byte) (e : Endian)
    (devid : BitVec 32) (x : Sent ε) : Prop where
  send : x.request.send kz beyond e devid = some x.bytes
  submitted : ∀ p urb, x.request = .submit p urb → Submitted urb

/-- The stub can take the request. -/
structure Sent.StubTakes (devid : BitVec 32) (x : Sent Stub.Env) : Prop where
  exported : x.env.devid = devid
  used : x.env.used = true
  submit : ∀ p urb, x.request = .submit p urb → StubAccepts x.env devid p urb
  unlink : ∀ u, x.request = .unlink u →
    x.env.pending (u.unlinkSeqnum.setWidth 32) = true ∨ x.env.unlinkOk = true

/-- The vudc can take the request. -/
structure Sent.VudcTakes (devid : BitVec 32) (x : Sent Vudc.Env) : Prop where
  used : x.env.used = true
  submit : ∀ p urb, x.request = .submit p urb → VudcAccepts x.env devid p urb
  unlink : ∀ u, x.request = .unlink u →
    x.env.queued (u.unlinkSeqnum.setWidth 32) = true ∨ x.env.unlinkOk = true

section Stream

variable {kz : Kzalloc} {beyond : Nat → Byte} {e e' : Endian} {devid : BitVec 32}

/-- A request is as long as its kind says. -/
lemma length_sent {ε : Type*} {x : Sent ε} (h : x.Written kz beyond e devid) :
    x.bytes.length = x.request.length := by
  obtain ⟨hsend, hsubmitted⟩ := h
  cases hx : x.request with
  | submit p urb =>
      rw [hx] at hsend
      have hurb := hsubmitted p urb hx
      obtain ⟨hbytes, hnp⟩ := vhciSendCmdSubmit_eq hsend
      have hheader :
          ((correctEndianSend e (Vhci.setupCmdSubmitPdu p devid urb)).bytes e).length = 48 := by
        rw [Header.bytes_correctEndianSend e (clean_setupCmdSubmitPdu p devid hurb)]
        exact (clean_setupCmdSubmitPdu p devid hurb).length_wire
      rw [hbytes, List.length_append, List.length_append, hheader, length_outData,
        length_flatMap_wire, length_packetsOf hurb fun hisoc => (hnp hisoc).1, Request.length,
        Nat.add_assoc, ite_mul, Nat.zero_mul]
  | unlink u =>
      rw [hx] at hsend
      rw [← Option.some.inj hsend, vhciSendCmdUnlink,
        Header.bytes_correctEndianSend e (clean_cmdUnlinkPdu u devid)]
      exact (clean_cmdUnlinkPdu u devid).length_wire

/-- The stub takes each request whole. -/
lemma stub_reads {x : Sent Stub.Env} (hwritten : x.Written kz beyond e' devid)
    (htakes : x.StubTakes devid) : (Stub.rxLoop e).Reads available (x.env, x.bytes) := by
  intro io tail hav
  have htake : ∃ t, Stub.stubRxPdu e x.env io = .ok t ∧ t.event = false ∧ available t.io = tail := by
    cases hx : x.request with
    | submit p urb =>
        have hsend := hwritten.send
        rw [hx] at hsend
        exact stub_takes_submit e htakes.exported htakes.used (hwritten.submitted p urb hx)
          (htakes.submit p urb hx) hsend hav
    | unlink u =>
        have hsend := hwritten.send
        rw [hx] at hsend
        rw [← Option.some.inj hsend] at hav
        exact stub_takes_unlink e htakes.exported htakes.used (htakes.unlink u hx) hav
  obtain ⟨t, ht, hevent, hrest⟩ := htake
  change (Stub.rxLoop e).stops (Stub.stubRxPdu e x.env io) = false ∧
    available ((Stub.rxLoop e).rest (Stub.stubRxPdu e x.env io)) = tail
  rw [ht]
  exact ⟨hevent, hrest⟩

/-- The vudc takes each request whole. -/
lemma vudc_reads {x : Sent Vudc.Env} (hwritten : x.Written kz beyond e' devid)
    (htakes : x.VudcTakes devid) : (Vudc.rxLoop e).Reads available (x.env, x.bytes) := by
  intro io tail hav
  cases hx : x.request with
  | submit p urb =>
      have hsend := hwritten.send
      rw [hx] at hsend
      exact vudc_takes_submit e htakes.used (hwritten.submitted p urb hx)
        (htakes.submit p urb hx) hsend hav
  | unlink u =>
      have hsend := hwritten.send
      rw [hx] at hsend
      rw [← Option.some.inj hsend] at hav
      exact vudc_takes_unlink e htakes.used (htakes.unlink u hx) hav

/-- Every request in a stream is read exactly: by the stub, and by the vudc. -/
theorem requests_consumed {xs : List (Sent Stub.Env)} {ys : List (Sent Vudc.Env)}
    (hx : ∀ x ∈ xs, x.Written kz beyond e' devid ∧ x.StubTakes devid)
    (hy : ∀ y ∈ ys, y.Written kz beyond e' devid ∧ y.VudcTakes devid)
    {io₁ io₂ : List Recvmsg} {rest₁ rest₂ : List Byte}
    (hav₁ : available io₁ = xs.flatMap Sent.bytes ++ rest₁)
    (hav₂ : available io₂ = ys.flatMap Sent.bytes ++ rest₂) :
    ((∃ io', (Stub.rxLoop e).Consumes available (xs.map fun x => (x.env, x.bytes)) io₁ io' ∧
        available io' = rest₁) ∧ ∀ x ∈ xs, x.bytes.length = x.request.length) ∧
      (∃ io', (Vudc.rxLoop e).Consumes available (ys.map fun y => (y.env, y.bytes)) io₂ io' ∧
        available io' = rest₂) ∧ ∀ y ∈ ys, y.bytes.length = y.request.length := by
  refine ⟨⟨?_, fun x hmem => length_sent (hx x hmem).1⟩, ?_,
    fun y hmem => length_sent (hy y hmem).1⟩
  · apply RxLoop.consumes_of_reads
    · intro f hf
      obtain ⟨x, hmem, rfl⟩ := List.mem_map.mp hf
      exact stub_reads (hx x hmem).1 (hx x hmem).2
    · rw [hav₁, List.flatMap_map]
  · apply RxLoop.consumes_of_reads
    · intro f hf
      obtain ⟨y, hmem, rfl⟩ := List.mem_map.mp hf
      exact vudc_reads (hy y hmem).1 (hy y hmem).2
    · rw [hav₂, List.flatMap_map]

end Stream

/-! ## A stream of two requests -/

/-- An isochronous OUT URB of two packets. -/
def isocOutUrb : Urb where
  pipe := ⟨.isochronous, false, 1, 2⟩
  transferBuffer := [1, 2, 3]
  transferBufferLength := 3
  numberOfPackets := 2
  isoFrameDesc := [⟨0, 2, 0, 0⟩, ⟨2, 1, 0, 0⟩]

def isocPriv : Vhci.VhciPriv := ⟨0, 1, 7⟩

/-- Its CMD_SUBMIT, and an unlink for it. -/
def requests : List Request := [.submit isocPriv isocOutUrb, .unlink ⟨1, 2, 1⟩]

/-- The requests as they are written, to a server that finds `env`. -/
def sentRequests {ε : Type*} (env : ε) : List (Sent ε) :=
  requests.map fun r => ⟨r, (r.send .all (fun _ => 0) .little 3).getD [], env⟩

/-- A device with an isochronous OUT endpoint 2. -/
def isocStub : Stub.Env where
  kz := .all
  allocUrb := .all
  privOk := true
  unlinkOk := true
  udev := { devnum := 5, epIn := fun _ => none, epOut := fun _ => some ⟨2, .isochronous⟩ }
  devid := 3
  used := true
  pending := fun _ => true
  submit := fun _ => true

/-- A gadget that has enabled one. -/
def isocVudc : Vudc.Env where
  kz := .all
  allocUrb := .all
  urbpOk := true
  unlinkOk := true
  used := true
  ep i := if i = 3 then ⟨some 2, .isoc⟩ else ⟨none, .control⟩
  queued := fun _ => true

/-- The URB of the witness can be submitted. -/
lemma submitted_isocOutUrb : Submitted isocOutUrb where
  setup := by simp [isocOutUrb]
  length := by decide
  packets _ := by decide
  zeroed _ := by simp [isocOutUrb]

/-- The requests of the witness are what the client writes. -/
lemma written_sentRequests {ε : Type*} (env : ε) :
    ∀ x ∈ sentRequests env, x.Written .all (fun _ => 0) .little 3 := by
  unfold sentRequests requests
  simp only [List.map_cons, List.map_nil, List.forall_mem_cons]
  refine ⟨⟨rfl, ?_⟩, ⟨rfl, ?_⟩, by simp⟩
  · intro p urb h
    obtain ⟨-, rfl⟩ := Request.submit.inj h
    exact submitted_isocOutUrb
  · intro p urb h
    cases h

/-- The stub takes the requests of the witness. -/
lemma stubTakes_sentRequests : ∀ x ∈ sentRequests isocStub, x.StubTakes 3 := by
  have haccepts : StubAccepts isocStub 3 isocPriv isocOutUrb := by
    refine ⟨⟨_, rfl, rfl⟩, ⟨rfl, rfl, fun _ => rfl, rfl⟩, fun _ _ => rfl, fun _ => rfl⟩
  unfold sentRequests requests
  simp only [List.map_cons, List.map_nil, List.forall_mem_cons]
  refine ⟨⟨rfl, rfl, ?_, ?_⟩, ⟨rfl, rfl, ?_, fun _ _ => .inl rfl⟩, by simp⟩
  · intro p urb h
    obtain ⟨rfl, rfl⟩ := Request.submit.inj h
    exact haccepts
  · intro u h
    cases h
  · intro p urb h
    cases h

/-- The vudc takes the requests of the witness. -/
lemma vudcTakes_sentRequests : ∀ y ∈ sentRequests isocVudc, y.VudcTakes 3 := by
  have haccepts : VudcAccepts isocVudc 3 isocPriv isocOutUrb := by
    refine ⟨⟨3, rfl, rfl⟩, ⟨rfl, rfl, fun _ => rfl, rfl⟩, fun _ _ => rfl⟩
  unfold sentRequests requests
  simp only [List.map_cons, List.map_nil, List.forall_mem_cons]
  refine ⟨⟨rfl, ?_, ?_⟩, ⟨rfl, ?_, fun _ _ => .inl rfl⟩, by simp⟩
  · intro p urb h
    obtain ⟨rfl, rfl⟩ := Request.submit.inj h
    exact haccepts
  · intro u h
    cases h
  · intro p urb h
    cases h

/-- An isochronous submit and an unlink, which both servers consume. -/
theorem requests_consumed_isoc :
    ((∃ io', (Stub.rxLoop .big).Consumes available
          ((sentRequests isocStub).map fun x => (x.env, x.bytes))
          [.bytes ((sentRequests isocStub).flatMap Sent.bytes)] io' ∧ available io' = []) ∧
        ∀ x ∈ sentRequests isocStub, x.bytes.length = x.request.length) ∧
      (∃ io', (Vudc.rxLoop .big).Consumes available
          ((sentRequests isocVudc).map fun y => (y.env, y.bytes))
          [.bytes ((sentRequests isocVudc).flatMap Sent.bytes)] io' ∧ available io' = []) ∧
        ∀ y ∈ sentRequests isocVudc, y.bytes.length = y.request.length :=
  requests_consumed
    (fun x hx => ⟨written_sentRequests isocStub x hx, stubTakes_sentRequests x hx⟩)
    (fun y hy => ⟨written_sentRequests isocVudc y hy, vudcTakes_sentRequests y hy⟩) rfl rfl

end Usbip.Link
