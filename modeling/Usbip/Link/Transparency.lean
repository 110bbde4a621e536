import Usbip.Link.Replies
import Usbip.Link.Requests

/-!
# A URB executed over the network

A URB that is submitted to the vhci is executed elsewhere: by the device behind a kernel stub, or by
the gadget of a vudc.  What it asks for (`transferOf`) travels in a CMD_SUBMIT and what came of it
(`outcomeOf`) in a RET_SUBMIT, and both are taken apart and put together again by two hosts with
byte orders of their own.

* `requests_preserved`: the server's URB asks for the same as the client's.
* `execution_transparent`: the client's URB is given back with the outcome that the device has for
  what the client's URB asks for, as if the device were there.
-/

namespace Usbip.Link

open Usbip.Core Usbip.Common

/-! ## What a URB says, apart from where it is -/

/-- What a URB asks of an endpoint. -/
@[ext]
structure Transfer where
  type : PipeType
  isIn : Bool
  length : BitVec 32
  startFrame : BitVec 32
  interval : BitVec 32
  packets : BitVec 32
  /-- The offset and the length of each isochronous packet. -/
  iso : List (BitVec 32 × BitVec 32)
  /-- The setup packet of a control transfer. -/
  setup : Option (List Byte)
  /-- The data of an OUT transfer. -/
  data : List Byte
  deriving DecidableEq

/-- What came of it. -/
@[ext]
structure Outcome where
  status : BitVec 32
  actualLength : BitVec 32
  startFrame : BitVec 32
  errorCount : BitVec 32
  packets : BitVec 32
  iso : List IsoPacketDescriptor
  /-- The data of an IN transfer, that of isochronous packets closed up. -/
  data : List Byte
  deriving DecidableEq

def transferOf (urb : Urb) : Transfer where
  type := urb.pipe.type
  isIn := urb.pipe.isIn
  length := urb.transferBufferLength
  startFrame := urb.startFrame
  interval := urb.interval
  packets := urb.numberOfPackets
  iso := (packetsOf urb).map fun d => (d.offset, d.length)
  setup := if urb.pipe.type = .control then urb.setupPacket else none
  data := if urb.pipe.isIn then [] else urb.transferBuffer.take urb.transferBufferLength.toNat

def outcomeOf (urb : Urb) : Outcome where
  status := urb.status
  actualLength := urb.actualLength
  startFrame := urb.startFrame
  errorCount := urb.errorCount
  packets := urb.numberOfPackets
  iso := isoOf (urb.pipe.type = .isochronous) urb
  data :=
    if ¬ urb.pipe.isIn then []
    else if urb.pipe.type = .isochronous then gather (extents urb.isoFrameDesc) urb.transferBuffer
    else urb.transferBuffer.take urb.actualLength.toNat

/-! ## The request -/

/-- A URB with the buffer and the setup packet that its endpoint needs. -/
structure Ready (urb : Urb) : Prop extends Submitted urb where
  outBuffer : urb.pipe.isIn = false → urb.transferBufferLength.toNat ≤ urb.transferBuffer.length
  control : urb.pipe.type = .control → urb.setupPacket.isSome = true

/-- The server has filled in the rest of the header. -/
structure Copies (urb recv : Urb) : Prop extends Expects urb recv where
  startFrame : recv.startFrame = urb.startFrame
  interval : recv.interval = urb.interval
  setup : recv.setupPacket = some (urb.setupPacket.getD (List.replicate 8 0))

section Request

variable {beyond : Nat → Byte} {urb recv : Urb}

/-- The data sent is that of the transfer. -/
lemma outData_eq (h : Ready urb) :
    outData beyond urb = (transferOf urb).data := by
  unfold outData transferOf
  cases hin : urb.pipe.isIn with
  | true => rfl
  | false =>
      have hle : 0 + urb.transferBufferLength.toNat ≤ urb.transferBuffer.length := by
        have := h.outBuffer hin
        omega
      simp only [Bool.false_eq_true, if_false]
      rw [iovec_eq_slice hle, slice, List.drop_zero]

/-- The URB that a server has received asks for the same. -/
lemma transferOf_received (beyond : Nat → Byte) (hurb : Ready urb) (hcopies : Copies urb recv)
    (hnp : urb.pipe.type = .isochronous → urb.numberOfPackets.toInt = urb.numberOfPackets.toNat) :
    transferOf ((recv.withData (outData beyond urb)).withIso (packetsOf urb)) = transferOf urb := by
  have hpackets : packetsOf ((recv.withData (outData beyond urb)).withIso (packetsOf urb)) =
      packetsOf urb := by
    have hlength := length_packetsOf hurb.toSubmitted hnp
    show (if recv.pipe.type = .isochronous then
      (packetsOf urb ++ recv.isoFrameDesc.drop (packetsOf urb).length).take
        recv.numberOfPackets.toInt.toNat else []) = _
    rw [hcopies.type, hcopies.packets]
    by_cases hisoc : urb.pipe.type = .isochronous
    · rw [if_pos hisoc] at hlength ⊢
      rw [hnp hisoc, Int.toNat_natCast, List.take_left' hlength]
    · rw [if_neg hisoc, packetsOf, if_neg hisoc]
  have hdata : (if recv.pipe.isIn then [] else
      (outData beyond urb ++ recv.transferBuffer.drop (outData beyond urb).length).take
        recv.transferBufferLength.toNat) = (transferOf urb).data := by
    rw [hcopies.isIn, hcopies.length]
    cases hin : urb.pipe.isIn with
    | true => simp [transferOf, hin]
    | false =>
        have hlength : (outData beyond urb).length = urb.transferBufferLength.toNat := by
          rw [length_outData, hin]
          rfl
        simp only [Bool.false_eq_true, if_false]
        rw [List.take_left' hlength, outData_eq hurb]
  have hsetup : (if recv.pipe.type = .control then recv.setupPacket else none) =
      (transferOf urb).setup := by
    rw [hcopies.type, hcopies.setup, transferOf]
    dsimp only
    by_cases hcontrol : urb.pipe.type = .control
    · obtain ⟨b, hb⟩ := Option.isSome_iff_exists.mp (hurb.control hcontrol)
      rw [if_pos hcontrol, if_pos hcontrol, hb]
      rfl
    · rw [if_neg hcontrol, if_neg hcontrol]
  refine Transfer.ext hcopies.type hcopies.isIn hcopies.length hcopies.startFrame hcopies.interval
    hcopies.packets ?_ hsetup hdata
  show (packetsOf _).map _ = (packetsOf urb).map _
  rw [hpackets]

end Request

/-- A server as it finds itself when it reads a request. -/
inductive Host
  | stub (env : Stub.Env)
  | vudc (env : Vudc.Env)

namespace Host

def server : Host → Server
  | .stub _ => .stub
  | .vudc _ => .vudc

/-- It can take a request for a URB. -/
def Accepts (devid : BitVec 32) (p : Vhci.VhciPriv) (urb : Urb) : Host → Prop
  | .stub env => env.devid = devid ∧ env.used = true ∧ StubAccepts env devid p urb
  | .vudc env => env.used = true ∧ VudcAccepts env devid p urb

/-- The URB that it hands on, to `usb_submit_urb` or to the timer, and what is left to read. -/
def handsOn (e : Endian) (io : List Recvmsg) : Host → Option (Urb × List Recvmsg)
  | .stub env =>
      match Stub.stubRxPdu e env io with
      | .ok t => t.submitted.map fun u => (u, t.io)
      | .error _ => none
  | .vudc env => (Vudc.takePdu e env io).queued.map fun u => (u, (Vudc.takePdu e env io).io)

end Host

/-- No flag is set that the client has not set, and the one for mapped memory is not. -/
def FlagsFrom (urb u : Urb) : Prop :=
  u.transferFlags &&& tweakTransferFlags urb.transferFlags = u.transferFlags

section Hosts

variable {kz : Kzalloc} {beyond : Nat → Byte} {e e' : Endian} {devid : BitVec 32}
  {p : Vhci.VhciPriv} {urb : Urb} {io : List Recvmsg} {bytes rest : List Byte}

/-- Only flags are masked. -/
lemma maskingBogusFlags_eq (udev : Stub.UsbDevice) (u : Urb) : ∃ allowed,
    Stub.maskingBogusFlags udev u = { u with transferFlags := u.transferFlags &&& allowed } := by
  have hid : u = { u with transferFlags := u.transferFlags &&& BitVec.allOnes 32 } := by
    rw [BitVec.and_allOnes]
  unfold Stub.maskingBogusFlags
  split
  · exact ⟨_, hid⟩
  · split
    · exact ⟨_, hid⟩
    · split
      · exact ⟨_, hid⟩
      · exact ⟨_, rfl⟩

/-- Masking twice is masking once. -/
lemma and_and_self (x y : BitVec 32) : x &&& y &&& x = x &&& y := by
  rw [BitVec.and_comm (x &&& y) x, ← BitVec.and_assoc, BitVec.and_self]

/-- The stub submits a URB that asks for the same. -/
lemma stub_handsOn {env : Stub.Env} (hurb : Ready urb)
    (hsend : vhciSendCmdSubmit kz beyond e' devid p urb = some bytes)
    (haccepts : (Host.stub env).Accepts devid p urb) (hav : available io = bytes ++ rest) :
    ∃ u io', (Host.stub env).handsOn e io = some (u, io') ∧ available io' = rest ∧
      transferOf u = transferOf urb ∧ FlagsFrom urb u := by
  obtain ⟨hdevid, hused, h⟩ := haccepts
  obtain ⟨rfl, hnp⟩ := vhciSendCmdSubmit_eq hsend
  rw [List.append_assoc, List.append_assoc] at hav
  obtain ⟨io₁, hheader, hav₁⟩ :=
    recvHeader_of_wire e e' (clean_setupCmdSubmitPdu p devid hurb.toSubmitted) hav
  obtain ⟨pipe, room, hrecv, hexpects⟩ := stubRecvCmdSubmit_of_accepts io₁ h
  obtain ⟨io₂, hpayload, hrest⟩ := recvPayload_eq_of_request .stub (by decide) hurb.toSubmitted
    hexpects (fun hisoc => (hnp hisoc).1) h.descriptors hav₁
  have hcopies : Copies urb (Stub.stubUrb (Vhci.setupCmdSubmitPdu p devid urb) pipe room) :=
    { hexpects with startFrame := rfl, interval := rfl, setup := rfl }
  have htransfer := transferOf_received beyond hurb hcopies fun hisoc => (hnp hisoc).1
  have hflags : (((Stub.stubUrb (Vhci.setupCmdSubmitPdu p devid urb) pipe room).withData
      (outData beyond urb)).withIso (packetsOf urb)).transferFlags =
        tweakTransferFlags urb.transferFlags := rfl
  have hvalid : Stub.validRequest env (Vhci.setupCmdSubmitPdu p devid urb) = true := by
    simp [Stub.validRequest, Vhci.setupCmdSubmitPdu, hdevid, hused]
  have hcommand : (Vhci.setupCmdSubmitPdu p devid urb).base.command = cmdSubmit := rfl
  have htake : Stub.stubRxPdu e env io = .ok (Stub.stubRecvPayload env
      (Vhci.setupCmdSubmitPdu p devid urb) pipe room io₁) := by
    unfold Stub.stubRxPdu
    rw [hheader]
    dsimp only
    rw [if_neg (not_not_intro hvalid), if_neg (hcommand ▸ by decide), if_pos hcommand]
    exact hrecv
  generalize ((Stub.stubUrb (Vhci.setupCmdSubmitPdu p devid urb) pipe room).withData
    (outData beyond urb)).withIso (packetsOf urb) = u at hpayload htransfer hflags
  obtain ⟨allowed, hmask⟩ := maskingBogusFlags_eq env.udev u
  refine ⟨{ u with transferFlags := u.transferFlags &&& allowed }, io₂, ?_, hrest, htransfer, ?_⟩
  · unfold Host.handsOn
    dsimp only
    rw [htake]
    dsimp only
    unfold Stub.stubRecvPayload
    dsimp only
    rw [hpayload]
    dsimp only
    rw [if_neg (by omega), hmask]
    rfl
  · show u.transferFlags &&& allowed &&& tweakTransferFlags urb.transferFlags = _
    rw [hflags]
    exact and_and_self _ _

/-- The vudc queues a URB that asks for the same. -/
lemma vudc_handsOn {env : Vudc.Env} (hurb : Ready urb)
    (hsend : vhciSendCmdSubmit kz beyond e' devid p urb = some bytes)
    (haccepts : (Host.vudc env).Accepts devid p urb) (hav : available io = bytes ++ rest) :
    ∃ u io', (Host.vudc env).handsOn e io = some (u, io') ∧ available io' = rest ∧
      transferOf u = transferOf urb ∧ FlagsFrom urb u := by
  obtain ⟨hused, h⟩ := haccepts
  obtain ⟨rfl, hnp⟩ := vhciSendCmdSubmit_eq hsend
  rw [List.append_assoc, List.append_assoc] at hav
  obtain ⟨io₁, hheader, hav₁⟩ :=
    recvHeader_of_wire e e' (clean_setupCmdSubmitPdu p devid hurb.toSubmitted) hav
  obtain ⟨i, hfind, htype⟩ := h.endpoint
  have hpackets : Vudc.packetsOn (Vhci.setupCmdSubmitPdu p devid urb) (env.ep i).type =
      if urb.pipe.type = .isochronous then urb.numberOfPackets.toInt else 0 := by
    rw [← htype]
    cases hep : (env.ep i).type with
    | isoc => rfl
    | control | bulk | int => rfl
  obtain ⟨room, -, hrecv⟩ := Vudc.takeCmdSubmit_of_allocates io₁ hfind (hpackets ▸ h.alloc)
  have hexpects : Expects urb
      (Vudc.vudcUrb (Vhci.setupCmdSubmitPdu p devid urb) (env.ep i).type room) := by
    refine ⟨?_, htype, rfl, rfl, rfl⟩
    change decide ((if urb.pipe.isIn then dirIn else dirOut) = dirIn) = _
    cases urb.pipe.isIn with
    | true => rfl
    | false => rfl
  have hcopies : Copies urb
      (Vudc.vudcUrb (Vhci.setupCmdSubmitPdu p devid urb) (env.ep i).type room) :=
    { hexpects with startFrame := rfl, interval := rfl, setup := rfl }
  obtain ⟨io₂, hpayload, hrest⟩ := recvPayload_eq_of_request .vudc (by decide) hurb.toSubmitted
    hexpects (fun hisoc => (hnp hisoc).1) h.descriptors hav₁
  have hcommand : (Vhci.setupCmdSubmitPdu p devid urb).base.command = cmdSubmit := rfl
  have htake : Vudc.takePdu e env io =
      Vudc.takeCmdSubmit env (Vhci.setupCmdSubmitPdu p devid urb) io₁ := by
    unfold Vudc.takePdu
    rw [hheader]
    dsimp only
    rw [if_neg (not_not_intro hused), if_neg (hcommand ▸ by decide), if_pos hcommand]
  refine ⟨_, io₂, ?_, hrest,
    transferOf_received beyond hurb hcopies fun hisoc => (hnp hisoc).1, ?_⟩
  · unfold Host.handsOn
    dsimp only
    rw [htake, hrecv]
    dsimp only
    rw [hpayload]
    dsimp only
    rw [if_neg (by omega)]
    rfl
  · exact BitVec.and_self

/-- Whatever a URB asks of an endpoint, the server hands on a URB that asks for the same, and reads
nothing of what follows. -/
theorem requests_preserved (host : Host) (e : Endian) (hurb : Ready urb)
    (hsend : vhciSendCmdSubmit kz beyond e' devid p urb = some bytes)
    (haccepts : host.Accepts devid p urb) (hav : available io = bytes ++ rest) :
    ∃ u io', host.handsOn e io = some (u, io') ∧ available io' = rest ∧
      transferOf u = transferOf urb ∧ FlagsFrom urb u := by
  cases host with
  | stub env => exact stub_handsOn hurb hsend haccepts hav
  | vudc env => exact vudc_handsOn hurb hsend haccepts hav

end Hosts

/-! ## The reply -/

/-- What a device makes of a URB of a server: its outcome is the one that the device has for what
the URB asks for, it leaves the packets where they are, and what it has received fits. -/
structure Executes (device : Transfer → Outcome) (kz : Kzalloc) (u c : Urb) : Prop where
  outcome : outcomeOf c = device (transferOf u)
  pipe : c.pipe = u.pipe
  length : c.transferBufferLength = u.transferBufferLength
  buffer : c.transferBuffer.length = c.transferBufferLength.toNat
  bufferOk : c.transferBufferLength ≠ 0 → kz.ok .buffer c.transferBufferLength.toNat = true
  actual : c.actualLength ≤ c.transferBufferLength
  packets : c.pipe.type = .isochronous → c.isoFrameDesc.length = c.numberOfPackets.toNat ∧
    c.isoFrameDesc.map (fun d => (d.offset, d.length)) = (transferOf u).iso
  received : c.pipe.type = .isochronous → ∀ d ∈ c.isoFrameDesc, d.actualLength ≤ d.length
  total : c.pipe.type = .isochronous → volume (extents c.isoFrameDesc) = c.actualLength.toNat

/-- The client's URB has a buffer of its length, and the packets that it says, one behind the
other. -/
structure Laid (urb : Urb) : Prop where
  buffer : urb.transferBuffer.length = urb.transferBufferLength.toNat
  packets : urb.pipe.type = .isochronous → urb.isoFrameDesc.length = urb.numberOfPackets.toNat
  layout : urb.pipe.type = .isochronous → IsoLayout urb

section Reply

variable {device : Transfer → Outcome} {kz kz' : Kzalloc} {beyond : Nat → Byte} {u c urb : Urb}

/-- A URB that a device has executed is completed. -/
lemma Executes.completed (h : Executes device kz u c) :
    Completed kz (c.pipe.type = .isochronous) c where
  buffer := h.bufferOk
  actual := h.actual
  packets hisoc := (h.packets (of_decide_eq_true hisoc)).1
  total hisoc := h.total (of_decide_eq_true hisoc)

/-- The layout of packets is one of their offsets and lengths. -/
lemma isoLayout_of_map_eq (hlayout : IsoLayout urb)
    (hmap : c.isoFrameDesc.map (fun d => (d.offset, d.length)) =
      urb.isoFrameDesc.map fun d => (d.offset, d.length))
    (hlength : c.transferBufferLength = urb.transferBufferLength)
    (hactual : ∀ d ∈ c.isoFrameDesc, d.actualLength ≤ d.length) : IsoLayout c where
  first d hd := by
    have hhead := congrArg List.head? hmap
    rw [List.head?_map, List.head?_map, Option.mem_def.mp hd] at hhead
    obtain ⟨d', hd', heq⟩ := Option.map_eq_some_iff.mp hhead.symm
    have hfirst := hlayout.first d' hd'
    rw [(Prod.mk.injEq _ _ _ _).mp heq |>.1] at hfirst
    exact hfirst
  next := by
    have hchain : (urb.isoFrameDesc.map fun d => (d.offset, d.length)).IsChain
        fun d d' => d.1.toNat + d.2.toNat ≤ d'.1.toNat :=
      (List.isChain_map _).mpr hlayout.next
    rw [← hmap] at hchain
    exact (List.isChain_map _).mp hchain
  last d hd := by
    have hlast := congrArg List.getLast? hmap
    rw [List.getLast?_map, List.getLast?_map, Option.mem_def.mp hd] at hlast
    obtain ⟨d', hd', heq⟩ := Option.map_eq_some_iff.mp hlast.symm
    have hend := hlayout.last d' hd'
    obtain ⟨hoffset, hlen⟩ := (Prod.mk.injEq _ _ _ _).mp heq
    rw [hoffset, hlen] at hend
    rwa [hlength]
  actual := hactual

/-- The packets of a laid out URB are those of its transfer. -/
lemma iso_transferOf (hlaid : Laid urb) (hisoc : urb.pipe.type = .isochronous)
    (hnp : urb.numberOfPackets.toInt = urb.numberOfPackets.toNat) :
    (transferOf urb).iso = urb.isoFrameDesc.map fun d => (d.offset, d.length) := by
  unfold transferOf packetsOf
  dsimp only
  rw [if_pos hisoc, hnp, Int.toNat_natCast, ← hlaid.packets hisoc, List.take_length]

/-- The packets of a completed URB can be restored in the client's. -/
lemma Executes.restorable (h : Executes device kz u c) (hlaid : Laid urb)
    (htransfer : transferOf u = transferOf urb) (hisoc : urb.pipe.type = .isochronous)
    (hpipe : urb.pipe.type = c.pipe.type)
    (hnp : urb.numberOfPackets.toInt = urb.numberOfPackets.toNat)
    (hlt : c.isoFrameDesc.length < 2 ^ 31) : Restorable c urb := by
  obtain ⟨-, hmap⟩ := h.packets (hpipe ▸ hisoc)
  rw [htransfer, iso_transferOf hlaid hisoc hnp] at hmap
  have hlength : c.transferBufferLength = urb.transferBufferLength :=
    h.length.trans (congrArg Transfer.length htransfer)
  have hlayout :=
    isoLayout_of_map_eq (hlaid.layout hisoc) hmap hlength (h.received (hpipe ▸ hisoc))
  exact
    { type := hisoc
      lt := hlt
      start := hlayout.first
      separated := hlayout.separated
      buffer := h.buffer
      length := hlength.symm
      clientBuffer := hlaid.buffer
      clientPackets := by simpa using (congrArg List.length hmap).symm }

/-- The data of an IN URB arrives. -/
lemma Executes.data_filled (h : Executes device kz u c) (hin : c.pipe.isIn = true)
    (hpipe : urb.pipe.type = c.pipe.type)
    (hrestorable : c.pipe.type = .isochronous → Restorable c urb) :
    (if c.pipe.type = .isochronous then
        gather (extents (filled beyond (c.pipe.type = .isochronous) c urb).isoFrameDesc)
          (usbipPadIso (filled beyond (c.pipe.type = .isochronous) c urb)).transferBuffer
      else (usbipPadIso (filled beyond (c.pipe.type = .isochronous) c urb)).transferBuffer.take
        c.actualLength.toNat) =
      if c.pipe.type = .isochronous then gather (extents c.isoFrameDesc) c.transferBuffer
      else c.transferBuffer.take c.actualLength.toNat := by
  have hcompleted := h.completed
  by_cases hisoc : c.pipe.type = .isochronous
  · have hrest := hrestorable hisoc
    rw [if_pos hisoc, if_pos hisoc]
    rw [decide_eq_true hisoc] at hcompleted ⊢
    rw [hrest.isoFrameDesc_eq]
    apply List.flatMap_congr
    intro x hx
    obtain ⟨d, hd, rfl⟩ := List.mem_map.mp hx
    exact hrest.slice_eq beyond hcompleted hin d hd
  · have hskips : PadSkips (filled beyond (c.pipe.type = .isochronous) c urb) := by
      refine Or.inl ?_
      show urb.pipe.type ≠ _
      rwa [hpipe]
    have hle : 0 + c.actualLength.toNat ≤ c.transferBuffer.length := by
      have hactual := BitVec.le_def.mp h.actual
      rw [h.buffer]
      omega
    have hdata : dataOf beyond (c.pipe.type = .isochronous) c =
        c.transferBuffer.take c.actualLength.toNat := by
      rw [decide_eq_false hisoc, dataOf, if_neg (not_not_intro hin), if_neg (by decide),
        iovec_eq_slice hle, slice, List.drop_zero]
    have hlen : (dataOf beyond (c.pipe.type = .isochronous) c).length = c.actualLength.toNat := by
      rw [length_dataOf hcompleted, if_pos hin]
    rw [if_neg hisoc, if_neg hisoc, usbipPadIso_of_skips hskips, ← hdata]
    exact List.take_left' hlen

/-- What the client's URB says is what the server's has come to. -/
lemma Executes.outcomeOf_filled (h : Executes device kz u c) (hin : urb.pipe.isIn = c.pipe.isIn)
    (hpipe : urb.pipe.type = c.pipe.type)
    (hrestorable : c.pipe.type = .isochronous → Restorable c urb) :
    outcomeOf (usbipPadIso (filled beyond (c.pipe.type = .isochronous) c urb)) = outcomeOf c := by
  have hiso : isoOf (urb.pipe.type = .isochronous)
      (filled beyond (c.pipe.type = .isochronous) c urb) =
        isoOf (c.pipe.type = .isochronous) c := by
    rw [hpipe]
    by_cases hisoc : c.pipe.type = .isochronous
    · rw [decide_eq_true hisoc]
      exact (hrestorable hisoc).isoFrameDesc_eq beyond
    · rw [decide_eq_false hisoc]
      rfl
  obtain ⟨buf, hpad⟩ := usbipPadIso_urb (filled beyond (c.pipe.type = .isochronous) c urb)
  have hdata : (outcomeOf (usbipPadIso (filled beyond (c.pipe.type = .isochronous) c urb))).data =
      (outcomeOf c).data := by
    have hfields : (outcomeOf (usbipPadIso
        (filled beyond (c.pipe.type = .isochronous) c urb))).data =
          if ¬ urb.pipe.isIn then [] else if urb.pipe.type = .isochronous then
            gather (extents (filled beyond (c.pipe.type = .isochronous) c urb).isoFrameDesc)
              (usbipPadIso (filled beyond (c.pipe.type = .isochronous) c urb)).transferBuffer
          else (usbipPadIso (filled beyond (c.pipe.type = .isochronous) c urb)).transferBuffer.take
            c.actualLength.toNat := by
      rw [hpad]
      rfl
    rw [hfields, hin, hpipe]
    unfold outcomeOf
    dsimp only
    cases hc : c.pipe.isIn with
    | false => rfl
    | true =>
        exact (if_neg (not_not_intro rfl)).trans ((h.data_filled hc hpipe hrestorable).trans
          (if_neg (not_not_intro rfl)).symm)
  rw [hpad] at hdata ⊢
  exact Outcome.ext rfl rfl rfl rfl rfl hiso hdata

end Reply

/-! ## There and back -/

/-- The client's URB as its driver has submitted it, and what its side allocates for the reply. -/
structure Pending (env : Vhci.Env) (n : Seqnum) (urb : Urb) : Prop where
  ready : Ready urb
  laid : Laid urb
  pending : env.pending n = some urb
  alloc : urb.pipe.type = .isochronous → urb.isoFrameDesc ≠ [] →
    env.kz.ok .recvIso (urb.isoFrameDesc.length * 16) = true

section Execution

variable {kz kz' : Kzalloc} {beyond beyond' : Nat → Byte} {e₁ e₂ e₃ e₄ : Endian}
  {devid : BitVec 32} {p : Vhci.VhciPriv} {urb : Urb} {io : List Recvmsg} {bytes rest : List Byte}

/-- The reply that a server has for an executed URB brings its outcome to the client. -/
lemma outcome_returned {device : Transfer → Outcome} {v : Server} {env : Vhci.Env} {n : Seqnum}
    {u c : Urb} {reply rest' : List Byte} {io' : List Recvmsg} (hpending : Pending env n urb)
    (hnp : urb.pipe.type = .isochronous → urb.numberOfPackets.toInt = urb.numberOfPackets.toNat)
    (htransfer : transferOf u = transferOf urb) (hexecutes : Executes device kz u c)
    (hreply : v.send kz beyond' e₃ (.submit n c.pipe.type c) = some reply)
    (hav : available io' = reply ++ rest') :
    ∃ given io'', Vhci.takePdu e₄ env io' = ⟨false, some given, io''⟩ ∧ available io'' = rest' ∧
      outcomeOf given = device (transferOf urb) := by
  have htypeOf : v.typeOf c.pipe.type c = c.pipe.type := by
    cases v <;> rfl
  have hpipe : urb.pipe.type = c.pipe.type := by
    rw [hexecutes.pipe]
    exact (congrArg Transfer.type htransfer).symm
  have hin : urb.pipe.isIn = c.pipe.isIn := by
    rw [hexecutes.pipe]
    exact (congrArg Transfer.isIn htransfer).symm
  have hlt : c.pipe.type = .isochronous → c.isoFrameDesc.length < 2 ^ 31 := by
    intro hisoc
    rw [Server.send_submit, htypeOf] at hreply
    obtain ⟨payload, hpayload, -⟩ := Option.map_eq_some_iff.mp hreply
    have := (retSubmitPayload_eq hexecutes.completed hpayload).2 (decide_eq_true hisoc)
    omega
  have hrestorable : c.pipe.type = .isochronous → Restorable c urb := fun hisoc =>
    hexecutes.restorable hpending.laid htransfer (hpipe.trans hisoc) hpipe
      (hnp (hpipe.trans hisoc)) (hlt hisoc)
  have hawaits : Awaits env n (v.typeOf c.pipe.type c) c urb := by
    refine ⟨hpending.pending, hpipe.trans htypeOf.symm, hin, ?_, ?_⟩
    · exact (hexecutes.length.trans (congrArg Transfer.length htransfer)).symm
    · intro htype hne
      have hisoc := htypeOf.symm.trans htype
      have hcount := (hrestorable hisoc).clientPackets
      rw [← hcount]
      refine hpending.alloc (hpipe.trans hisoc) fun hnil => hne ?_
      rw [← List.length_eq_zero_iff, ← hcount, hnil]
      rfl
  have hcompleted : Completed kz (v.typeOf c.pipe.type c = .isochronous) c := by
    rw [htypeOf]
    exact hexecutes.completed
  obtain ⟨io'', htake, hrest⟩ := takePdu_of_send hcompleted hawaits hreply hav
  refine ⟨_, io'', htake, hrest, ?_⟩
  rw [htypeOf, hexecutes.outcomeOf_filled hin hpipe hrestorable, hexecutes.outcome, htransfer]

/-- A URB that is executed over the network, by a device behind the stub or by the gadget of a
vudc, is given back with the outcome that the device has for what the client's URB asks for. -/
theorem execution_transparent (host : Host) (device : Transfer → Outcome) {env : Vhci.Env}
    {n : Seqnum} (hpending : Pending env n urb)
    (hsend : vhciSendCmdSubmit kz' beyond e₁ devid p urb = some bytes)
    (haccepts : host.Accepts devid p urb) (hav : available io = bytes ++ rest) :
    ∃ u io', host.handsOn e₂ io = some (u, io') ∧ available io' = rest ∧
      ∀ c reply rest' io', Executes device kz u c →
        host.server.send kz beyond' e₃ (.submit n c.pipe.type c) = some reply →
        available io' = reply ++ rest' →
        ∃ given io'', Vhci.takePdu e₄ env io' = ⟨false, some given, io''⟩ ∧
          available io'' = rest' ∧ outcomeOf given = device (transferOf urb) := by
  have hnp : urb.pipe.type = .isochronous →
      urb.numberOfPackets.toInt = urb.numberOfPackets.toNat := fun hisoc =>
    ((vhciSendCmdSubmit_eq hsend).2 hisoc).1
  cases host with
  | stub senv =>
      obtain ⟨u, io', hhands, hrest, htransfer, -⟩ :=
        stub_handsOn (e := e₂) hpending.ready hsend haccepts hav
      exact ⟨u, io', hhands, hrest, fun c reply rest' io' hexecutes hreply hav' =>
        outcome_returned hpending hnp htransfer hexecutes hreply hav'⟩
  | vudc venv =>
      obtain ⟨u, io', hhands, hrest, htransfer, -⟩ :=
        vudc_handsOn (e := e₂) hpending.ready hsend haccepts hav
      exact ⟨u, io', hhands, hrest, fun c reply rest' io' hexecutes hreply hav' =>
        outcome_returned hpending hnp htransfer hexecutes hreply hav'⟩

end Execution

/-! ## An isochronous OUT URB -/

/-- A device that takes all it is sent. -/
def sink (r : Transfer) : Outcome where
  status := 0
  actualLength := r.length
  startFrame := r.startFrame
  errorCount := 0
  packets := r.packets
  iso := r.iso.map fun x => ⟨x.1, x.2, x.2, 0⟩
  data := []

/-- A client that has the URB pending as number 1. -/
def isocVhci : Vhci.Env where
  kz := .all
  idle := false
  pending n := if n = 1 then some isocOutUrb else none
  unlinking _ := none

/-- Its CMD_SUBMIT. -/
def isocBytes : List Byte :=
  (vhciSendCmdSubmit .all (fun _ => 0) .little 3 isocPriv isocOutUrb).getD []

/-- The bytes of the witness's request. -/
lemma send_isocOutUrb :
    vhciSendCmdSubmit .all (fun _ => 0) .little 3 isocPriv isocOutUrb = some isocBytes := rfl

/-- The URB of the witness is ready. -/
lemma ready_isocOutUrb : Ready isocOutUrb :=
  { submitted_isocOutUrb with
    outBuffer := fun _ => by decide
    control := fun h => absurd h (by decide) }

/-- The stub accepts the witness's request. -/
lemma accepts_isocStub : (Host.stub isocStub).Accepts 3 isocPriv isocOutUrb :=
  ⟨rfl, rfl, ⟨⟨_, rfl, rfl⟩, ⟨rfl, rfl, fun _ => rfl, rfl⟩, fun _ _ => rfl, fun _ => rfl⟩⟩

/-- The client waits for the witness's reply. -/
lemma pending_isocOutUrb : Pending isocVhci 1 isocOutUrb where
  ready := ready_isocOutUrb
  laid := by
    refine ⟨rfl, fun _ => rfl, fun _ => ⟨?_, ?_, ?_, ?_⟩⟩
    · simp [isocOutUrb]
    · simp [isocOutUrb]
    · simp [isocOutUrb]
    · decide
  pending := rfl
  alloc _ _ := rfl

/-- An isochronous OUT request through the stub. -/
theorem requests_preserved_isocOutUrb :
    ∃ u io', (Host.stub isocStub).handsOn .big [.bytes isocBytes] = some (u, io') ∧
      available io' = [] ∧ transferOf u = transferOf isocOutUrb ∧ FlagsFrom isocOutUrb u :=
  requests_preserved (.stub isocStub) .big ready_isocOutUrb send_isocOutUrb accepts_isocStub
    (List.append_nil _).symm

/-- The URB that the stub hands to the device. -/
def isocServed : Urb :=
  ((Host.stub isocStub).handsOn .big [.bytes isocBytes]).elim default Prod.fst

/-- What the device makes of it. -/
def isocDone : Urb :=
  { isocServed with actualLength := 3, isoFrameDesc := [⟨0, 2, 2, 0⟩, ⟨2, 1, 1, 0⟩] }

/-- The URB that the stub submits for it. -/
lemma handsOn_isocBytes :
    (Host.stub isocStub).handsOn .big [.bytes isocBytes] = some (isocServed, []) := by
  decide +kernel

/-- A device that takes all the data. -/
lemma executes_isocDone : Executes sink .all isocServed isocDone where
  outcome := by decide +kernel
  pipe := rfl
  length := rfl
  buffer := by decide +kernel
  bufferOk _ := rfl
  actual := by decide +kernel
  packets _ := by decide +kernel
  received _ := by decide +kernel
  total _ := by decide +kernel

/-- An isochronous OUT URB of two packets goes to a device, and comes back with what the device has
made of it. -/
theorem execution_transparent_isocOutUrb :
    ∃ reply given io'',
      (Host.stub isocStub).server.send .all (fun _ => 0) .big
        (.submit 1 isocDone.pipe.type isocDone) = some reply ∧
      Vhci.takePdu .little isocVhci [.bytes reply] = ⟨false, some given, io''⟩ ∧
      available io'' = [] ∧ outcomeOf given = sink (transferOf isocOutUrb) := by
  obtain ⟨u, io', hhands, -, hreturned⟩ :=
    @execution_transparent _ _ _ (fun _ => 0) _ _ .big .little _ _ _ _ _ _ (.stub isocStub) sink _ _
      pending_isocOutUrb send_isocOutUrb accepts_isocStub
      (show available [.bytes isocBytes] = isocBytes ++ [] from (List.append_nil _).symm)
  obtain ⟨rfl, -⟩ := Prod.mk.inj (Option.some.inj (handsOn_isocBytes.symm.trans hhands))
  have hsome : ((Host.stub isocStub).server.send .all (fun _ => 0) .big
      (.submit 1 isocDone.pipe.type isocDone)).isSome = true := by decide +kernel
  obtain ⟨reply, hreply⟩ := Option.isSome_iff_exists.mp hsome
  have hav : available [.bytes reply] = reply ++ [] := by cases reply <;> simp [available]
  obtain ⟨given, io'', htake, hrest, houtcome⟩ :=
    hreturned isocDone reply [] [.bytes reply] executes_isocDone hreply hav
  exact ⟨reply, given, io'', hreply, htake, hrest, houtcome⟩

end Usbip.Link
