import Usbip.LibusbStub.Replies
import Usbip.Link.Requests

/-!
# The offsets of isochronous packets through the libusb stub

The client says where each packet lies in its buffer.  The kernel's stub hands the offsets on and
sends them back; the libusb stub has no place for them and makes up others from the lengths.
`offsets_kept_iff` says that the client gets its own offsets back, and its data with them, just
when it has left no gap: for the layouts that can be told from the lengths alone.
-/

namespace Usbip.Link

open Usbip.Core Usbip.Common
open Usbip.LibusbStub (LibusbTransfer TransferStatus Malloc rooms)

/-! ## From the client to the device -/

/-- An isochronous URB of a client, its packets one behind the other in its buffer. -/
structure IsocClient (client : Urb) : Prop where
  submitted : Submitted client
  type : client.pipe.type = .isochronous
  packets : client.isoFrameDesc.length = client.numberOfPackets.toNat
  separated : Separated 0 (rooms client.isoFrameDesc) client.transferBufferLength.toNat
  buffer : client.transferBuffer.length = client.transferBufferLength.toNat

/-- The client sends a URB, and the libusb stub, which has received the header of 48 bytes, submits
a transfer for it. -/
def ReceivedAs (env : LibusbStub.Env) (client : Urb) (trx : LibusbTransfer) : Prop :=
  ∃ (kz : Kzalloc) (beyond : Nat → Byte) (e : Endian) (devid : BitVec 32) (p : Vhci.VhciPriv)
    (header payload rest : List Byte) (io : List Recvmsg) (t : LibusbStub.Taken),
    vhciSendCmdSubmit kz beyond e devid p client = some (header ++ payload) ∧
      header.length = 48 ∧ available io = payload ++ rest ∧
      LibusbStub.stubRecvCmdSubmit env (Vhci.setupCmdSubmitPdu p devid client) io = .ok t ∧
      t.submitted = some trx

/-- The transfer as the device leaves it: it has filled packets, none of them beyond its length. -/
structure Completes (trx done : LibusbTransfer) : Prop where
  type : done.type = trx.type
  length : done.length = trx.length
  buffer : done.buffer.length = trx.buffer.length
  packets : done.numIsoPackets = trx.numIsoPackets
  lengths : done.isoPacketDesc.map LibusbStub.LibusbIsoPacketDescriptor.length =
    trx.isoPacketDesc.map LibusbStub.LibusbIsoPacketDescriptor.length
  actual : ∀ d ∈ done.isoPacketDesc, d.actualLength ≤ d.length

/-- What the device has of the client's URB. -/
structure Carries (client : Urb) (trx : LibusbTransfer) : Prop where
  type : trx.type = .isochronous
  length : trx.length = client.transferBufferLength
  buffer : trx.buffer.length = client.transferBufferLength.toNat
  packets : trx.numIsoPackets = client.numberOfPackets
  count : client.numberOfPackets.toInt = client.numberOfPackets.toNat ∧
    client.numberOfPackets.toNat * 16 < 2 ^ 31
  lengths : trx.packets.map LibusbStub.LibusbIsoPacketDescriptor.length =
    client.isoFrameDesc.map IsoPacketDescriptor.length

section Carries

variable {env : LibusbStub.Env} {client : Urb} {trx done : LibusbTransfer}

/-- What the client writes behind the header, and how many packets a stub can be told of. -/
lemma IsocClient.payload_eq {kz : Kzalloc} {beyond : Nat → Byte} {e : Endian} {devid : BitVec 32}
    {p : Vhci.VhciPriv} {header payload : List Byte} (h : IsocClient client)
    (hsend : vhciSendCmdSubmit kz beyond e devid p client = some (header ++ payload))
    (hheader : header.length = 48) :
    payload = outData beyond client ++ client.isoFrameDesc.flatMap IsoPacketDescriptor.wire ∧
      client.numberOfPackets.toInt = client.numberOfPackets.toNat ∧
      client.numberOfPackets.toNat * 16 < 2 ^ 31 := by
  obtain ⟨hbytes, hcount⟩ := vhciSendCmdSubmit_eq hsend
  have hclean := clean_setupCmdSubmitPdu p devid h.submitted
  have hlen : ((correctEndianSend e (Vhci.setupCmdSubmitPdu p devid client)).bytes e).length =
      48 := by
    rw [Header.bytes_correctEndianSend e hclean]
    exact hclean.length_wire
  have hpackets : packetsOf client = client.isoFrameDesc := by
    rw [packetsOf, if_pos h.type, (hcount h.type).1, Int.toNat_natCast, ← h.packets,
      List.take_length]
  obtain ⟨-, hpayload⟩ := List.append_inj hbytes (hheader.trans hlen.symm)
  rw [hpackets] at hpayload
  exact ⟨hpayload, hcount h.type⟩

section Request

variable (h : IsocClient client) (devid : BitVec 32) (p : Vhci.VhciPriv)

include h

/-- The length of an isochronous URB is not negative. -/
lemma IsocClient.toInt_length :
    client.transferBufferLength.toInt = client.transferBufferLength.toNat := by
  have hlt := h.submitted.length
  exact BitVec.toInt_eq_toNat_of_lt (by omega)

/-- The stub expects the data that is sent. -/
lemma IsocClient.outLength_eq (beyond : Nat → Byte) :
    LibusbStub.outLength (Vhci.setupCmdSubmitPdu p devid client) =
      (outData beyond client).length := by
  rw [length_outData]
  show (if (if client.pipe.isIn then dirIn else dirOut) = dirIn then 0
    else client.transferBufferLength.toInt.toNat) = _
  cases client.pipe.isIn with
  | true => rfl
  | false =>
      rw [h.toInt_length]
      rfl

/-- The stub allocates the length of the URB. -/
lemma IsocClient.buflen_eq :
    LibusbStub.buflen (Vhci.setupCmdSubmitPdu p devid client) .isochronous =
      client.transferBufferLength := by
  have hint := h.toInt_length
  show 0 + (if 0 < client.transferBufferLength.toInt then client.transferBufferLength else 0) = _
  rw [zero_add]
  split
  · rfl
  · have hzero : (0 : BitVec 32).toNat = client.transferBufferLength.toNat := by
      rw [show (0 : BitVec 32).toNat = 0 from rfl]
      omega
    exact BitVec.eq_of_toNat_eq hzero

/-- The stub takes the descriptors that were sent. -/
lemma IsocClient.isoReceived_eq (rest : List Byte)
    (hcount : client.numberOfPackets.toInt = client.numberOfPackets.toNat ∧
      client.numberOfPackets.toNat * 16 < 2 ^ 31) :
    isoReceived client.numberOfPackets
        ((client.isoFrameDesc.flatMap IsoPacketDescriptor.wire ++ rest).take
          (client.numberOfPackets * 16).toNat) = client.isoFrameDesc := by
  have hsize : (client.numberOfPackets * 16).toNat =
      (client.isoFrameDesc.flatMap IsoPacketDescriptor.wire).length := by
    rw [length_flatMap_wire, h.packets, BitVec.toNat_mul,
      show (16 : BitVec 32).toNat = 16 from rfl]
    exact Nat.mod_eq_of_lt (by omega)
  rw [hsize, List.take_left]
  exact isoReceived_flatMap_wire (hcount.1.trans (by rw [h.packets]))

end Request

/-- The transfer that is submitted has the lengths of the client's packets; their offsets are
gone. -/
lemma ReceivedAs.carries (h : ReceivedAs env client trx) (hclient : IsocClient client)
    (hendpoint : LibusbStub.stubGetTransferType env.eps (client.pipe.endpoint.setWidth 8) =
      some .isochronous) : Carries client trx := by
  obtain ⟨kz, beyond, e, devid, p, header, payload, rest, io, t, hsend, hheader, hav, hrun, hsub⟩ :=
    h
  obtain ⟨rfl, hcount⟩ := hclient.payload_eq hsend hheader
  have hout := hclient.outLength_eq devid p beyond
  rw [List.append_assoc] at hav
  have hle : LibusbStub.outLength (Vhci.setupCmdSubmitPdu p devid client) ≤
      (available io).length := by
    rw [hav, hout, List.length_append]
    exact Nat.le_add_right _ _
  have hsome : t.submitted ≠ none := by
    rw [hsub]
    exact Option.some_ne_none trx
  have hnumber : LibusbStub.epNumber (Vhci.setupCmdSubmitPdu p devid client) =
      client.pipe.endpoint.setWidth 8 := BitVec.setWidth_setWidth_of_le _ (by decide)
  rw [← hnumber] at hendpoint
  obtain ⟨-, room, hpayload⟩ := LibusbStub.stubRecvCmdSubmit_submitted hendpoint hrun hsome
  obtain ⟨-, hfollow⟩ := (LibusbStub.stubRecvPayload_submitted hpayload hsome).resolve_right
    fun htrunc => absurd htrunc.1 (Nat.not_lt.mpr hle)
  obtain ⟨io', hok, -⟩ := @LibusbStub.stubRecvPayload_of_le env _ _ io room hle hfollow
  cases hok.symm.trans hpayload
  obtain ⟨flags, hflags⟩ := LibusbStub.maskingBogusFlags_eq env.eps _
  cases (congrArg some hflags).symm.trans hsub
  refine ⟨rfl, hclient.buflen_eq devid p, ?_, rfl, hcount, ?_⟩
  · have hbuffer := @LibusbStub.length_buffer (Vhci.setupCmdSubmitPdu p devid client) .isochronous
      (clean_setupCmdSubmitPdu p devid hclient.submitted).setup room
    have hdata : (outData beyond client).length ≤ client.transferBufferLength.toNat := by
      rw [length_outData]
      split <;> omega
    have hint := hclient.toInt_length
    change _ = 0 + client.transferBufferLength.toInt.toNat at hbuffer
    rw [hav, hout, List.take_left]
    show (List.take 0 _ ++ outData beyond client ++
      List.drop (0 + (outData beyond client).length) _).length = _
    rw [List.take_zero, List.nil_append, List.length_append, List.length_drop, hbuffer]
    omega
  · have hnp : (LibusbStub.stubTrx (Vhci.setupCmdSubmitPdu p devid client) .isochronous
        room).numIsoPackets = client.numberOfPackets := rfl
    rw [hav, hout, List.drop_left, hnp]
    show (List.take client.numberOfPackets.toInt.toNat
      (List.map _ (isoReceived client.numberOfPackets _) ++ _)).map _ = _
    rw [hclient.isoReceived_eq rest hcount, List.take_left']
    · rw [List.map_map]
      rfl
    · rw [List.length_map, hclient.packets, hcount.1, Int.toNat_natCast]

/-- The completed transfer carries the packets as the submitted one did. -/
lemma Carries.completes (h : Carries client trx) (hdone : Completes trx done) :
    Carries client done where
  type := hdone.type.trans h.type
  length := hdone.length.trans h.length
  buffer := hdone.buffer.trans h.buffer
  packets := hdone.packets.trans h.packets
  count := h.count
  lengths := by
    rw [LibusbTransfer.packets, List.map_take, hdone.lengths, hdone.packets, ← List.map_take]
    exact h.lengths

end Carries

/-! ## From the device to the client -/

section Served

variable {client : Urb} {done : LibusbTransfer} (hcarries : Carries client done)
  (hclient : IsocClient client) (hactual : ∀ d ∈ done.isoPacketDesc, d.actualLength ≤ d.length)

include hcarries

/-- The packets that come back have the lengths of those sent. -/
lemma Carries.map_length_rooms :
    (rooms (LibusbStub.packIsoLoop 0 done.packets)).map Extent.length =
      (rooms client.isoFrameDesc).map Extent.length := by
  have hlengths := congrArg (List.map BitVec.toNat)
    ((@LibusbStub.map_length_packIsoLoop 0 done.packets).trans hcarries.lengths)
  rw [List.map_map, List.map_map] at hlengths
  rw [rooms, rooms, List.map_map, List.map_map]
  exact hlengths

include hclient

/-- The packets fit into the buffer together. -/
lemma Carries.volume_le :
    volume (rooms (LibusbStub.packIsoLoop 0 done.packets)) ≤
      client.transferBufferLength.toNat := by
  have hle := hclient.separated.le
  rw [Nat.zero_add] at hle
  exact (congrArg List.sum hcarries.map_length_rooms).le.trans hle

/-- The places that the stub makes up are one directly behind the other. -/
lemma Carries.contiguous : Contiguous 0 (rooms (LibusbStub.packIsoLoop 0 done.packets)) := by
  have hle := hcarries.volume_le hclient
  have hlt := hclient.submitted.length
  exact @LibusbStub.contiguous_packIsoLoop 0 done.packets
    (by rw [show (0 : BitVec 32).toNat = 0 from rfl]; omega)

/-- The stub takes the data where the rebuilt descriptors place it. -/
lemma Carries.isoPlaces_eq :
    LibusbStub.isoPlaces 0 done.packets = extents (LibusbStub.packIsoLoop 0 done.packets) := by
  have hle := hcarries.volume_le hclient
  have hlt := hclient.submitted.length
  exact @LibusbStub.isoPlaces_eq 0 done.packets
    (by rw [show (0 : BitVec 32).toNat = 0 from rfl]; omega)

/-- They are the client's own when the client has left no gap, and then only. -/
lemma Carries.offsets_eq_iff :
    (LibusbStub.packIsoLoop 0 done.packets).map IsoPacketDescriptor.offset =
        client.isoFrameDesc.map IsoPacketDescriptor.offset ↔
      Contiguous 0 (rooms client.isoFrameDesc) := by
  have hcontiguous := hcarries.contiguous hclient
  constructor
  · intro hoffsets
    rw [LibusbStub.rooms_eq_zipWith, hoffsets,
      LibusbStub.map_length_packIsoLoop.trans hcarries.lengths,
      ← LibusbStub.rooms_eq_zipWith] at hcontiguous
    exact hcontiguous
  · intro hclientContiguous
    have hrooms := hcontiguous.eq_of_lengths hclientContiguous hcarries.map_length_rooms
    have hoffsets := congrArg (List.map Extent.offset) hrooms
    rw [rooms, rooms, List.map_map, List.map_map] at hoffsets
    apply List.map_injective_iff.mpr fun _ _ => BitVec.eq_of_toNat_eq
    rw [List.map_map, List.map_map]
    exact hoffsets

include hactual

/-- The rebuilt packets do not overlap. -/
lemma Carries.separated :
    Separated 0 (extents (LibusbStub.packIsoLoop 0 done.packets))
      client.transferBufferLength.toNat := by
  have hle := hcarries.volume_le hclient
  refine ((hcarries.contiguous hclient).separated (by omega)).shrink fun d hd => ⟨rfl, ?_⟩
  have hpackets : ∀ x ∈ done.packets, x.actualLength ≤ x.length :=
    fun x hx => hactual x (List.mem_of_mem_take hx)
  exact BitVec.le_def.mp (LibusbStub.actualLength_le_packIsoLoop hpackets d hd)

/-- The URB that the reply is written for has been completed. -/
lemma Carries.completed (isIn : Bool) (status : TransferStatus) :
    Completed .all true (done.toUrb isIn status) := by
  have hlt := hclient.submitted.length
  have hle := (hcarries.separated hclient hactual).le
  have htotal : volume (extents (LibusbStub.packIsoLoop 0 done.packets)) =
      (done.toUrb isIn status).actualLength.toNat := by
    show _ = ((done.packets.map _).sum : BitVec 32).toNat
    rw [@LibusbStub.sum_actualLength 0, BitVec.toNat_ofNat, Nat.mod_eq_of_lt (by omega)]
  constructor
  · intro _
    show decide (done.length.toNat < 2 ^ 31) = true
    rw [hcarries.length]
    exact decide_eq_true hlt
  · show _ ≤ done.length
    rw [hcarries.length, BitVec.le_def, ← htotal]
    omega
  · intro _
    show (LibusbStub.packIsoLoop 0 done.packets).length = done.numIsoPackets.toNat
    have hlengths := congrArg List.length hcarries.lengths
    rw [List.length_map, List.length_map] at hlengths
    rw [LibusbStub.length_packIsoLoop, hlengths, hclient.packets, hcarries.packets]
  · exact fun _ => htotal

/-- The client can restore the padding of what is sent. -/
lemma Carries.restorable (isIn : Bool) (status : TransferStatus) :
    Restorable (done.toUrb isIn status) client where
  type := hclient.type
  lt := by
    have hcompleted := (hcarries.completed hclient hactual isIn status).packets rfl
    have hcount := hcarries.count.2
    rw [hcompleted]
    show done.numIsoPackets.toNat < 2 ^ 31
    rw [hcarries.packets]
    omega
  start := by
    intro d hd
    have hhead : (LibusbStub.packIsoLoop 0 done.packets).head? = some d := hd
    rcases hpackets : done.packets with _ | ⟨x, xs⟩
    · rw [hpackets] at hhead
      cases hhead
    · rw [hpackets] at hhead
      cases hhead
      rfl
  separated := by
    show Separated 0 (extents (LibusbStub.packIsoLoop 0 done.packets)) done.length.toNat
    rw [hcarries.length]
    exact hcarries.separated hclient hactual
  buffer := by
    show done.buffer.length = done.length.toNat
    rw [hcarries.buffer, hcarries.length]
  length := hcarries.length.symm
  clientBuffer := hclient.buffer
  clientPackets := by
    have hlengths := congrArg List.length hcarries.lengths
    rw [List.length_map, List.length_map] at hlengths
    exact hlengths.symm.trans LibusbStub.length_packIsoLoop.symm

end Served

/-- The client gets the offsets back that it submitted; and what each IN packet received, which the
device has put where libusb has the packet, is at the packet's own offset in the client's buffer. -/
structure OffsetsKept (client : Urb) (done : LibusbTransfer) (u : Urb) : Prop where
  offsets : u.isoFrameDesc.map IsoPacketDescriptor.offset =
    client.isoFrameDesc.map IsoPacketDescriptor.offset
  data : client.pipe.isIn = true →
    ∀ (i : Nat) (d : IsoPacketDescriptor) (x : Extent), client.isoFrameDesc[i]? = some d →
      (LibusbStub.isoPlaces 0 done.packets)[i]? = some x →
        slice d.offset.toNat x.length u.transferBuffer = slice x.offset x.length done.buffer

/-- Offsets and data come back to the client as it has laid them out just when its packets leave no
gap. -/
theorem offsets_kept_iff {env : LibusbStub.Env} {malloc : Malloc} {beyond : Nat → Byte}
    {e e' : Endian} {cenv : Vhci.Env} {n : Seqnum} {client : Urb} {trx done : LibusbTransfer}
    {status : TransferStatus} {b rest : List Byte} {io : List Recvmsg} (hclient : IsocClient client)
    (hendpoint : LibusbStub.stubGetTransferType env.eps (client.pipe.endpoint.setWidth 8) =
      some .isochronous)
    (hreceived : ReceivedAs env client trx) (hdone : Completes trx done)
    (hsend : LibusbStub.stubSendRetSubmit malloc beyond e n client.pipe.isIn status done = some b)
    (hpending : cenv.pending n = some client)
    (halloc : client.isoFrameDesc ≠ [] → cenv.kz.ok .recvIso (client.isoFrameDesc.length * 16) = true)
    (hav : available io = b ++ rest) :
    ∃ u io', Vhci.takePdu e' cenv io = ⟨false, some u, io'⟩ ∧ available io' = rest ∧
      (OffsetsKept client done u ↔ Contiguous 0 (rooms client.isoFrameDesc)) := by
  have hcarries := (hreceived.carries hclient hendpoint).completes hdone
  have hcompleted := hcarries.completed hclient hdone.actual client.pipe.isIn status
  have hrestorable := hcarries.restorable hclient hdone.actual client.pipe.isIn status
  have hlength : (done.toUrb client.pipe.isIn status).isoFrameDesc.length =
      client.isoFrameDesc.length := hrestorable.clientPackets.symm
  have hawaits : Awaits cenv n .isochronous (done.toUrb client.pipe.isIn status) client := by
    refine ⟨hpending, hclient.type, rfl, hrestorable.length, fun _ hne => ?_⟩
    rw [hlength]
    exact halloc fun hnil => hne (List.length_eq_zero_iff.mp (by rw [hlength, hnil]; rfl))
  rw [LibusbStub.stubSendRetSubmit_eq hcarries.type hsend, List.append_assoc,
    List.append_assoc] at hav
  obtain ⟨io', htake, hrest⟩ := takePdu_of_payload e' hcompleted hawaits rfl hav
  obtain ⟨buf, hpad⟩ := usbipPadIso_urb
    (filled beyond true (done.toUrb client.pipe.isIn status) client)
  have hoffsets := hcarries.offsets_eq_iff hclient
  have hiso : (usbipPadIso (filled beyond true
      (done.toUrb client.pipe.isIn status) client)).isoFrameDesc =
      LibusbStub.packIsoLoop 0 done.packets := by
    rw [hpad]
    exact hrestorable.isoFrameDesc_eq beyond
  refine ⟨_, io', htake, hrest, ?_⟩
  constructor
  · rintro ⟨hkept, -⟩
    rw [hiso] at hkept
    exact hoffsets.mp hkept
  · intro hcontiguous
    have hkept := hoffsets.mpr hcontiguous
    refine ⟨by rw [hiso]; exact hkept, fun hin i d x hd hx => ?_⟩
    rw [hcarries.isoPlaces_eq hclient, extents, List.getElem?_map] at hx
    obtain ⟨d', hd', rfl⟩ := Option.map_eq_some_iff.mp hx
    have hoffset : d'.offset = d.offset := by
      have hi := congrArg (·[i]?) hkept
      rw [List.getElem?_map, List.getElem?_map, hd, hd'] at hi
      exact Option.some.inj hi
    rw [← hoffset]
    exact hrestorable.slice_eq beyond hcompleted hin d' (List.mem_of_getElem? hd')

/-! ## Two packets -/

/-- Two packets of four bytes in a buffer of twelve, the second of them at `offset`. -/
def twoPackets (offset : BitVec 32) : Urb where
  pipe := ⟨.isochronous, true, 1, 3⟩
  transferBuffer := List.replicate 12 0
  transferBufferLength := 12
  numberOfPackets := 2
  isoFrameDesc := [⟨0, 4, 0, 0⟩, ⟨offset, 4, 0, 0⟩]

/-- A device that has the endpoint. -/
def isocEnv : LibusbStub.Env where
  malloc := .all
  allocTransfer := .all
  privOk := true
  unlinkOk := true
  eps := [⟨3, 0x80, .isochronous⟩]
  devid := 7
  used := true
  pending _ := false
  submitOk := true

/-- The transfer that is submitted for them, wherever the second packet is. -/
def twoPacketsTrx : LibusbTransfer where
  flags := 0
  endpoint := 0x83
  type := .isochronous
  length := 12
  buffer := List.replicate 12 0
  numIsoPackets := 2
  isoPacketDesc := [⟨4, 0, .completed⟩, ⟨4, 0, .completed⟩]

/-- Both packets have been filled. -/
def twoPacketsDone : LibusbTransfer :=
  { twoPacketsTrx with
    buffer := [1, 2, 3, 4, 5, 6, 7, 8, 0, 0, 0, 0]
    isoPacketDesc := [⟨4, 4, .completed⟩, ⟨4, 4, .completed⟩] }

def twoPacketsReply : List Byte :=
  (LibusbStub.stubSendRetSubmit .all (fun _ => 0) .little 9 true .completed twoPacketsDone).getD []

/-- The client has the URB pending. -/
def twoPacketsEnv (offset : BitVec 32) : Vhci.Env where
  kz := .all
  idle := false
  pending _ := some (twoPackets offset)
  unlinking _ := none

/-- Two packets with or without a gap are an isochronous URB. -/
lemma isocClient_twoPackets {offset : BitVec 32} (hle : 4 ≤ offset.toNat) (hlt : offset.toNat ≤ 8) :
    IsocClient (twoPackets offset) where
  submitted := by
    refine ⟨?_, ?_, ?_, ?_⟩
    · intro b hb
      cases hb
    · exact (by decide : 12 < 2 ^ 31)
    · exact fun _ => Nat.le_refl 2
    · exact fun _ => by simp [twoPackets]
  type := rfl
  packets := rfl
  separated := ⟨Nat.le_refl _, hle, Nat.add_le_add_right hlt 4⟩
  buffer := rfl

/-- Both packets are filled. -/
lemma completes_twoPackets : Completes twoPacketsTrx twoPacketsDone :=
  ⟨rfl, rfl, rfl, rfl, rfl, by decide⟩

/-- The request for two packets. -/
def twoPacketsRequest (offset : BitVec 32) : List Byte :=
  (vhciSendCmdSubmit .all (fun _ => 0) .little 7 ⟨0, 9, 0⟩ (twoPackets offset)).getD []

/-- The request as the stub receives it, whatever the gap. -/
lemma receivedAs_twoPackets {offset : BitVec 32}
    (hsend : vhciSendCmdSubmit .all (fun _ => 0) .little 7 ⟨0, 9, 0⟩ (twoPackets offset) =
      some ((twoPacketsRequest offset).take 48 ++ (twoPacketsRequest offset).drop 48))
    (hlen : ((twoPacketsRequest offset).take 48).length = 48)
    (hrun : ∃ t, LibusbStub.stubRecvCmdSubmit isocEnv
        (Vhci.setupCmdSubmitPdu ⟨0, 9, 0⟩ 7 (twoPackets offset))
        [.bytes ((twoPacketsRequest offset).drop 48)] = .ok t ∧
      t.submitted = some twoPacketsTrx) :
    ReceivedAs isocEnv (twoPackets offset) twoPacketsTrx := by
  obtain ⟨t, hrun, hsub⟩ := hrun
  exact ⟨_, _, _, _, _, _, _, [], _, t, hsend, hlen, rfl, hrun, hsub⟩

/-- Two packets without a gap keep their offsets. -/
theorem offsets_kept_iff_twoPackets :
    ∃ u io', Vhci.takePdu .big (twoPacketsEnv 4) [.bytes twoPacketsReply] =
        ⟨false, some u, io'⟩ ∧ available io' = [] ∧
      (OffsetsKept (twoPackets 4) twoPacketsDone u ↔
        Contiguous 0 (rooms (twoPackets 4).isoFrameDesc)) := by
  refine @offsets_kept_iff isocEnv .all (fun _ => 0) .little .big (twoPacketsEnv 4) 9 (twoPackets 4)
    twoPacketsTrx twoPacketsDone .completed twoPacketsReply [] _
    (isocClient_twoPackets (by decide) (by decide)) (by decide) ?_ completes_twoPackets
    (by decide +kernel) rfl (fun _ => by decide) (List.append_nil _).symm
  exact receivedAs_twoPackets (by decide +kernel) (by decide +kernel)
    ⟨⟨false, some twoPacketsTrx, []⟩, by decide +kernel, rfl⟩

/-- With a gap before the second packet, its descriptor comes back with another offset. -/
theorem offsets_lost_of_gap :
    IsocClient (twoPackets 8) ∧
      LibusbStub.stubGetTransferType isocEnv.eps ((twoPackets 8).pipe.endpoint.setWidth 8) =
        some .isochronous ∧
      ReceivedAs isocEnv (twoPackets 8) twoPacketsTrx ∧
      Completes twoPacketsTrx twoPacketsDone ∧
      LibusbStub.stubSendRetSubmit .all (fun _ => 0) .little 9 true .completed twoPacketsDone =
        some twoPacketsReply ∧
      ∃ u io', Vhci.takePdu .big (twoPacketsEnv 8) [.bytes twoPacketsReply] =
          ⟨false, some u, io'⟩ ∧
        u.isoFrameDesc.map IsoPacketDescriptor.offset = [0, 4] ∧
        slice 8 4 u.transferBuffer = [0, 0, 0, 0] ∧
        ¬ OffsetsKept (twoPackets 8) twoPacketsDone u := by
  refine ⟨isocClient_twoPackets (by decide) (by decide), by decide, ?_, completes_twoPackets,
    by decide +kernel, ?_⟩
  · exact receivedAs_twoPackets (by decide +kernel) (by decide +kernel)
      ⟨⟨false, some twoPacketsTrx, []⟩, by decide +kernel, rfl⟩
  · have htake : ∃ u io', Vhci.takePdu .big (twoPacketsEnv 8) [.bytes twoPacketsReply] =
          ⟨false, some u, io'⟩ ∧
        u.isoFrameDesc.map IsoPacketDescriptor.offset = [0, 4] ∧
        slice 8 4 u.transferBuffer = [0, 0, 0, 0] :=
      ⟨{ twoPackets 8 with
          transferBuffer := [1, 2, 3, 4, 5, 6, 7, 8, 0, 0, 0, 0]
          actualLength := 8
          isoFrameDesc := [⟨0, 4, 4, 0⟩, ⟨4, 4, 4, 0⟩] }, [], by rfl, rfl, rfl⟩
    obtain ⟨u, io', htake, hoffsets, hdata⟩ := htake
    refine ⟨u, io', htake, hoffsets, hdata, fun hkept => ?_⟩
    have hoffsets' := hkept.offsets
    rw [hoffsets] at hoffsets'
    exact absurd hoffsets' (by decide)

end Usbip.Link
