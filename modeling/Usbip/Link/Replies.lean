import Usbip.Vhci.Receive

/-!
# The replies in their stream

The kernel stub and the vudc write replies one after the other, and the vhci reads them.  Each side
decides for itself what follows a header: the server by its own URB, the client by the URB it has
pending, after the fields of the reply were unpacked to it.  `takePdu_of_send` says that they
decide alike, for one reply; `replies_consumed` says it for a whole stream, and
`isoc_in_data_arrives` what becomes of the data of an isochronous URB.
-/

namespace Usbip.Link

open Usbip.Core Usbip.Common

/-! ## What a server writes -/

inductive Server
  | stub
  | vudc
  deriving DecidableEq

/-- What a server has to report; `type` is what the vudc keeps beside the URB. -/
inductive Reply
  | submit (seqnum : Seqnum) (type : PipeType) (urb : Urb)
  | unlink (seqnum : Seqnum) (status : BitVec 32)

/-- The type of the endpoint as the server decides by it. -/
def Server.typeOf (type : PipeType) (urb : Urb) : Server → PipeType
  | .stub => urb.pipe.type
  | .vudc => type

/-- What is written for a reply, or `none` with an event. -/
def Server.send (kz : Kzalloc) (beyond : Nat → Byte) (e : Endian) :
    Server → Reply → Option (List Byte)
  | .stub, .submit n _ urb => stubSendRetSubmit kz beyond e n urb
  | .vudc, .submit n type urb => vSendRetSubmit kz beyond e n type urb
  | .stub, .unlink n status | .vudc, .unlink n status => some (sendRetUnlink e n status)

/-- Both servers send the payload of a reply alike. -/
lemma Server.send_submit (kz : Kzalloc) (beyond : Nat → Byte) (e : Endian) (v : Server)
    (n : Seqnum) (type : PipeType) (urb : Urb) :
    v.send kz beyond e (.submit n type urb) =
      (retSubmitPayload kz beyond (v.typeOf type urb = .isochronous) urb).map
        ((correctEndianSend e (setupRetSubmitPdu n urb)).bytes e ++ ·) := by
  cases v <;> rfl

/-- A completed URB: its buffer could be allocated and holds the data, and when it is isochronous
its packets do. -/
structure Completed (kz : Kzalloc) (isoc : Bool) (urb : Urb) : Prop where
  buffer : urb.transferBufferLength ≠ 0 → kz.ok .buffer urb.transferBufferLength.toNat = true
  actual : urb.actualLength ≤ urb.transferBufferLength
  packets : isoc = true → urb.isoFrameDesc.length = urb.numberOfPackets.toNat
  total : isoc = true → volume (extents urb.isoFrameDesc) = urb.actualLength.toNat

/-- The descriptors that travel. -/
def isoOf (isoc : Bool) (urb : Urb) : List IsoPacketDescriptor :=
  if isoc then urb.isoFrameDesc else []

/-- The data that travels. -/
def dataOf (beyond : Nat → Byte) (isoc : Bool) (urb : Urb) : List Byte :=
  if ¬ urb.pipe.isIn then []
  else if isoc then
    (extents urb.isoFrameDesc).flatMap fun p => iovec beyond urb.transferBuffer p.offset p.length
  else iovec beyond urb.transferBuffer 0 urb.actualLength.toNat

/-- The pieces of the packets take as much as the packets. -/
lemma length_flatMap_iovec (beyond : Nat → Byte) (buf : List Byte) (es : List Extent) :
    (es.flatMap fun p => iovec beyond buf p.offset p.length).length = volume es := by
  induction es with
  | nil => rfl
  | cons e es ih => rw [List.flatMap_cons, List.length_append, length_iovec, ih, volume_cons]

section Send

variable {kz : Kzalloc} {beyond : Nat → Byte} {isoc : Bool} {urb : Urb} {payload : List Byte}

/-- The data of a reply is as long as the server says. -/
lemma length_dataOf (h : Completed kz isoc urb) :
    (dataOf beyond isoc urb).length = if urb.pipe.isIn then urb.actualLength.toNat else 0 := by
  unfold dataOf
  by_cases hin : urb.pipe.isIn = true
  · rw [if_neg (not_not_intro hin), if_pos hin]
    by_cases hisoc : isoc = true
    · rw [if_pos hisoc, length_flatMap_iovec, h.total hisoc]
    · rw [if_neg hisoc, length_iovec]
  · rw [if_pos hin, if_neg hin]
    rfl

/-- What is written after the header. -/
lemma retSubmitPayload_eq (h : Completed kz isoc urb)
    (hsend : retSubmitPayload kz beyond isoc urb = some payload) :
    payload = dataOf beyond isoc urb ++ (isoOf isoc urb).flatMap IsoPacketDescriptor.wire ∧
      (isoc = true → urb.isoFrameDesc.length * 16 < 2 ^ 31) := by
  unfold retSubmitPayload at hsend
  obtain ⟨-, hsend⟩ := Option.ite_none_left_eq_some.mp hsend
  obtain ⟨-, hsend⟩ := Option.ite_none_left_eq_some.mp hsend
  unfold dataOf isoOf
  by_cases hisoc : isoc = true
  · rw [if_pos hisoc] at hsend
    obtain ⟨desc, hdesc, hpayload⟩ := Option.map_eq_some_iff.mp hsend
    obtain ⟨hok, hwire⟩ := Option.ite_none_right_eq_some.mp hdesc
    obtain ⟨hnp, hlt⟩ := Kzalloc.toInt_of_ok hok
    have htake : urb.isoFrameDesc.take urb.numberOfPackets.toInt.toNat = urb.isoFrameDesc := by
      rw [hnp, Int.toNat_natCast, ← h.packets hisoc, List.take_length]
    rw [htake, Option.some.injEq] at hwire
    rw [htake] at hpayload
    rw [if_pos hisoc, if_pos hisoc, hwire]
    rw [if_pos hisoc] at hpayload
    exact ⟨hpayload.symm, fun _ => by rw [h.packets hisoc]; exact hlt⟩
  · rw [if_neg hisoc, Option.some.injEq] at hsend
    rw [if_neg hisoc, if_neg hisoc, List.flatMap_nil, List.append_nil]
    rw [if_neg hisoc] at hsend
    exact ⟨hsend.symm, fun h => absurd h hisoc⟩

end Send

/-! ## What the client makes of it -/

/-- The client has a URB pending for a reply, on an endpoint of the same type and direction and
with a buffer of the same length, and can allocate what it needs for the descriptors. -/
structure Awaits (env : Vhci.Env) (n : Seqnum) (type : PipeType) (urb client : Urb) : Prop where
  pending : env.pending n = some client
  endpoint : client.pipe.type = type
  isIn : client.pipe.isIn = urb.pipe.isIn
  length : client.transferBufferLength = urb.transferBufferLength
  alloc : type = .isochronous → urb.isoFrameDesc ≠ [] →
    env.kz.ok .recvIso (urb.isoFrameDesc.length * 16) = true

/-- The URB of the client when data and descriptors have been received. -/
def filled (beyond : Nat → Byte) (isoc : Bool) (urb client : Urb) : Urb :=
  ((unpackRetSubmit (packRetSubmit urb {}) client).withData (dataOf beyond isoc urb)).withIso
    (isoOf isoc urb)

section Take

variable {kz : Kzalloc} {beyond : Nat → Byte} {urb client : Urb} {n : Seqnum} {type : PipeType}
  {env : Vhci.Env}

/-- The client expects the data that is sent. -/
lemma xbuffExpected_eq (beyond : Nat → Byte) {isoc : Bool} (h : Completed kz isoc urb)
    (hin : client.pipe.isIn = urb.pipe.isIn) :
    (dataOf beyond isoc urb).length =
      xbuffExpected .vhci (unpackRetSubmit (packRetSubmit urb {}) client) := by
  have hlt : urb.actualLength.toNat < 2 ^ 31 := by
    have hle := BitVec.le_def.mp h.actual
    by_cases hzero : urb.transferBufferLength = 0
    · rw [hzero] at hle
      exact Nat.lt_of_le_of_lt hle (by decide)
    · exact Nat.lt_of_le_of_lt hle (kz.lt_of_ok _ _ (h.buffer hzero))
  have hint : urb.actualLength.toInt = urb.actualLength.toNat :=
    BitVec.toInt_eq_toNat_of_lt (by omega)
  rw [length_dataOf h]
  show _ = if client.pipe.isIn = true ∧ 0 < urb.actualLength.toInt then urb.actualLength.toNat
    else 0
  rw [hin, hint]
  by_cases hdir : urb.pipe.isIn = true
  · rw [if_pos hdir]
    split_ifs with hpos
    · rfl
    · have hnot : ¬ 0 < (urb.actualLength.toNat : Int) := fun h => hpos ⟨hdir, h⟩
      omega
  · rw [if_neg hdir, if_neg fun h => hdir h.1]

/-- The payload that follows the header of a RET_SUBMIT. -/
lemma takeRetSubmit_of_payload {isoc : Bool} {io : List Recvmsg} {rest : List Byte}
    (h : Completed kz isoc urb) (hawaits : Awaits env n type urb client)
    (hisoc : isoc = decide (type = .isochronous))
    (hav : available io = dataOf beyond isoc urb ++
      ((isoOf isoc urb).flatMap IsoPacketDescriptor.wire ++ rest)) :
    ∃ io', Vhci.takeRetSubmit env (setupRetSubmitPdu n urb) io =
        ⟨false, some (usbipPadIso (filled beyond isoc urb client)), io'⟩ ∧
      available io' = rest := by
  have hdata := xbuffExpected_eq beyond h hawaits.isIn
  have hfit : (dataOf beyond isoc urb).length ≤ client.transferBufferLength.toNat := by
    have hle := BitVec.le_def.mp h.actual
    rw [length_dataOf h, hawaits.length]
    split <;> omega
  have hexpected : (isoOf isoc urb).length =
      isoExpected (unpackRetSubmit (packRetSubmit urb {}) client) := by
    show (if isoc = true then urb.isoFrameDesc else []).length =
      if client.pipe.type = .isochronous then urb.numberOfPackets.toNat else 0
    rw [hawaits.endpoint]
    by_cases htype : type = .isochronous
    · have htrue : isoc = true := hisoc.trans (decide_eq_true htype)
      rw [if_pos htrue, if_pos htype, h.packets htrue]
    · have hfalse : isoc = false := hisoc.trans (decide_eq_false htype)
      rw [hfalse, if_neg (by decide), if_neg htype]
      rfl
  have htrue : isoOf isoc urb ≠ [] → isoc = true := by
    intro hne
    by_contra hfalse
    exact hne (if_neg hfalse)
  have halloc : isoOf isoc urb ≠ [] → env.kz.ok .recvIso ((isoOf isoc urb).length * 16) = true := by
    intro hne
    have hiso : isoOf isoc urb = urb.isoFrameDesc := if_pos (htrue hne)
    rw [hiso]
    exact hawaits.alloc (of_decide_eq_true (hisoc ▸ htrue hne)) (hiso ▸ hne)
  have htotal : isoOf isoc urb ≠ [] → totalLength (isoOf isoc urb) = urb.actualLength := by
    intro hne
    have hiso : isoOf isoc urb = urb.isoFrameDesc := if_pos (htrue hne)
    rw [hiso, totalLength_eq, h.total (htrue hne), BitVec.ofNat_toNat, BitVec.setWidth_eq]
  obtain ⟨io', hrecv, hav'⟩ := recvPayload_of_wire hav hdata hfit hexpected halloc htotal
  refine ⟨io', ?_, hav'⟩
  unfold Vhci.takeRetSubmit
  rw [show (setupRetSubmitPdu n urb).base.seqnum = n from rfl,
    show (setupRetSubmitPdu n urb).u = packRetSubmit urb {} from rfl, hawaits.pending]
  dsimp only
  rw [hrecv]
  dsimp only
  rw [if_neg (by omega)]
  rfl

/-- A reply whose header and payload are there is taken exactly. -/
lemma takePdu_of_payload (e : Endian) {e' : Endian} {isoc : Bool} {io : List Recvmsg}
    {rest : List Byte} (h : Completed kz isoc urb) (hawaits : Awaits env n type urb client)
    (hisoc : isoc = decide (type = .isochronous))
    (hav : available io = (correctEndianSend e' (setupRetSubmitPdu n urb)).bytes e' ++
      (dataOf beyond isoc urb ++ ((isoOf isoc urb).flatMap IsoPacketDescriptor.wire ++ rest))) :
    ∃ io', Vhci.takePdu e env io =
        ⟨false, some (usbipPadIso (filled beyond isoc urb client)), io'⟩ ∧
      available io' = rest := by
  obtain ⟨io₁, hheader, hav₁⟩ := recvHeader_of_wire e e' (clean_setupRetSubmitPdu n urb) hav
  obtain ⟨io₂, htake, hav₂⟩ := takeRetSubmit_of_payload h hawaits hisoc hav₁
  refine ⟨io₂, ?_, hav₂⟩
  rw [← htake, Vhci.takePdu, hheader]
  rfl

/-- A reply that the client has a URB for is taken exactly, whatever the byte orders of the two
hosts. -/
theorem takePdu_of_send {e e' : Endian} {v : Server} {b rest : List Byte} {io : List Recvmsg}
    (h : Completed kz (v.typeOf type urb = .isochronous) urb)
    (hawaits : Awaits env n (v.typeOf type urb) urb client)
    (hsend : v.send kz beyond e' (.submit n type urb) = some b) (hav : available io = b ++ rest) :
    ∃ io', Vhci.takePdu e env io = ⟨false,
        some (usbipPadIso (filled beyond (v.typeOf type urb = .isochronous) urb client)), io'⟩ ∧
      available io' = rest := by
  rw [Server.send_submit] at hsend
  obtain ⟨payload, hpayload, rfl⟩ := Option.map_eq_some_iff.mp hsend
  obtain ⟨rfl, -⟩ := retSubmitPayload_eq h hpayload
  rw [List.append_assoc, List.append_assoc] at hav
  exact takePdu_of_payload e h hawaits rfl hav

/-- A reply to an unlink is its header, whatever the client makes of it. -/
lemma takePdu_of_unlink {e e' : Endian} {status : BitVec 32} {rest : List Byte}
    {io : List Recvmsg} (hav : available io = sendRetUnlink e' n status ++ rest) :
    (Vhci.takePdu e env io).event = false ∧ available (Vhci.takePdu e env io).io = rest := by
  obtain ⟨io', hheader, hav'⟩ :=
    recvHeader_of_wire e e' (clean_setupRetUnlinkPdu n status) hav
  unfold Vhci.takePdu
  rw [hheader]
  exact ⟨rfl, hav'⟩

end Take

/-! ## The stream -/

/-- A reply, the bytes written for it, and what the client finds when it reads them. -/
structure Exchange where
  reply : Reply
  bytes : List Byte
  env : Vhci.Env

/-- The server has written the bytes of a completed URB or of an unlink reply, and the client still
has the URB pending. -/
def Exchange.Fair (kz : Kzalloc) (beyond : Nat → Byte) (e : Endian) (v : Server)
    (x : Exchange) : Prop :=
  v.send kz beyond e x.reply = some x.bytes ∧
    ∀ n type urb, x.reply = .submit n type urb →
      Completed kz (v.typeOf type urb = .isochronous) urb ∧
        ∃ client, Awaits x.env n (v.typeOf type urb) urb client

/-- The length of a reply: the header, the data of an IN transfer and the descriptors. -/
def Reply.length (v : Server) : Reply → Nat
  | .submit _ type urb => 48 + (if urb.pipe.isIn then urb.actualLength.toNat else 0) +
      if v.typeOf type urb = .isochronous then urb.numberOfPackets.toNat * 16 else 0
  | .unlink _ _ => 48

section Stream

variable {kz : Kzalloc} {beyond : Nat → Byte} {e e' : Endian} {v : Server} {x : Exchange}

/-- A reply is as long as its kind says. -/
lemma length_bytes (h : x.Fair kz beyond e v) : x.bytes.length = x.reply.length v := by
  obtain ⟨reply, bytes, env⟩ := x
  obtain ⟨hsend, hsubmit⟩ := h
  rcases reply with ⟨n, type, urb⟩ | ⟨n, status⟩
  · obtain ⟨hcompleted, -⟩ := hsubmit n type urb rfl
    rw [Server.send_submit] at hsend
    obtain ⟨payload, hpayload, rfl⟩ := Option.map_eq_some_iff.mp hsend
    obtain ⟨rfl, -⟩ := retSubmitPayload_eq hcompleted hpayload
    have hheader : ((correctEndianSend e (setupRetSubmitPdu n urb)).bytes e).length = 48 := by
      rw [Header.bytes_correctEndianSend e (clean_setupRetSubmitPdu n urb)]
      exact (clean_setupRetSubmitPdu n urb).length_wire
    have hiso : (isoOf (v.typeOf type urb = .isochronous) urb).length * 16 =
        if v.typeOf type urb = .isochronous then urb.numberOfPackets.toNat * 16 else 0 := by
      by_cases htype : v.typeOf type urb = .isochronous
      · rw [if_pos htype, ← hcompleted.packets (decide_eq_true htype), isoOf,
          if_pos (decide_eq_true htype)]
      · rw [if_neg htype, isoOf, decide_eq_false htype]
        rfl
    dsimp only
    rw [List.length_append, List.length_append, hheader, length_dataOf hcompleted,
      length_flatMap_wire, hiso, Reply.length, Nat.add_assoc]
  · have hbytes : sendRetUnlink e n status = bytes := by
      cases v <;> exact Option.some.inj hsend
    rw [← hbytes, sendRetUnlink,
      Header.bytes_correctEndianSend e (clean_setupRetUnlinkPdu n status)]
    exact (clean_setupRetUnlinkPdu n status).length_wire

/-- Every reply in a stream is read exactly. -/
theorem replies_consumed {xs : List Exchange} (h : ∀ x ∈ xs, x.Fair kz beyond e' v)
    {io : List Recvmsg} {rest : List Byte}
    (hav : available io = xs.flatMap Exchange.bytes ++ rest) :
    ∃ io', (Vhci.rxLoop e).Consumes available (xs.map fun x => (x.env, x.bytes)) io io' ∧
      available io' = rest ∧ ∀ x ∈ xs, x.bytes.length = x.reply.length v := by
  have hreads : ∀ f ∈ xs.map fun x => (x.env, x.bytes), (Vhci.rxLoop e).Reads available f := by
    intro f hf io tail hio
    obtain ⟨x, hx, rfl⟩ := List.mem_map.mp hf
    obtain ⟨hsend, hsubmit⟩ := h x hx
    obtain ⟨reply, bytes, env⟩ := x
    rcases reply with ⟨n, type, urb⟩ | ⟨n, status⟩
    · obtain ⟨hcompleted, client, hawaits⟩ := hsubmit n type urb rfl
      obtain ⟨io', htake, hav'⟩ := takePdu_of_send hcompleted hawaits hsend hio
      show (Vhci.takePdu e env io).event = false ∧ available (Vhci.takePdu e env io).io = tail
      rw [htake]
      exact ⟨rfl, hav'⟩
    · have hbytes : sendRetUnlink e' n status = bytes := by
        cases v <;> exact Option.some.inj hsend
      exact takePdu_of_unlink (hbytes ▸ hio)
  have hstream : available io =
      (xs.map fun x => (x.env, x.bytes)).flatMap Prod.snd ++ rest := by
    rw [hav, List.flatMap_map]
  obtain ⟨io', hcons, hrest⟩ := RxLoop.consumes_of_reads hreads hstream
  exact ⟨io', hcons, hrest, fun x hx => length_bytes (h x hx)⟩

end Stream

/-- A bulk IN URB that has received two bytes. -/
def bulkUrb : Urb :=
  { pipe := ⟨.bulk, true, 1, 2⟩, transferBuffer := [0xA5, 0x5A], transferBufferLength := 2
    actualLength := 2 }

/-- A client that has a URB for it. -/
def bulkEnv : Vhci.Env where
  kz := .all
  idle := false
  pending _ := some { bulkUrb with transferBuffer := [0, 0], actualLength := 0 }
  unlinking _ := none

/-- The reply to `bulkUrb`, and one to an unlink behind it. -/
def bulkExchanges : List Exchange :=
  [⟨.submit 1 .bulk bulkUrb, (stubSendRetSubmit .all (fun _ => 0) .little 1 bulkUrb).getD [],
      bulkEnv⟩,
    ⟨.unlink 2 0, sendRetUnlink .little 2 0, bulkEnv⟩]

/-- The exchanges of the run are fair. -/
lemma fair_bulkExchanges :
    ∀ x ∈ bulkExchanges, x.Fair .all (fun _ => 0) .little .stub := by
  have hcompleted : Completed .all (bulkUrb.pipe.type = .isochronous) bulkUrb :=
    ⟨fun _ => by decide, by decide, fun h => absurd h (by decide), fun h => absurd h (by decide)⟩
  have hawaits : Awaits bulkEnv 1 bulkUrb.pipe.type bulkUrb
      { bulkUrb with transferBuffer := [0, 0], actualLength := 0 } :=
    ⟨rfl, rfl, rfl, rfl, fun h => absurd h (by decide)⟩
  unfold bulkExchanges
  simp only [List.forall_mem_cons]
  refine ⟨⟨rfl, ?_⟩, ⟨rfl, ?_⟩, by simp⟩
  · intro n type urb h
    cases h
    exact ⟨hcompleted, _, hawaits⟩
  · intro n type urb h
    cases h

/-- A bulk URB and an unlink, whose replies are consumed. -/
theorem replies_consumed_bulk :
    ∃ io', (Vhci.rxLoop .big).Consumes available (bulkExchanges.map fun x => (x.env, x.bytes))
        [.bytes (bulkExchanges.flatMap Exchange.bytes)] io' ∧ available io' = [] ∧
      ∀ x ∈ bulkExchanges, x.bytes.length = x.reply.length .stub :=
  replies_consumed fair_bulkExchanges rfl

/-! ## The data of isochronous packets -/

/-- The packets as a driver lays them out: the first at the start of the buffer, each behind the
one before it, the last inside the buffer; and none of them received more than it expected. -/
structure IsoLayout (urb : Urb) : Prop where
  first : ∀ d ∈ urb.isoFrameDesc.head?, d.offset = 0
  next : urb.isoFrameDesc.IsChain fun d d' => d.offset.toNat + d.length.toNat ≤ d'.offset.toNat
  last : ∀ d ∈ urb.isoFrameDesc.getLast?,
    d.offset.toNat + d.length.toNat ≤ urb.transferBufferLength.toNat
  actual : ∀ d ∈ urb.isoFrameDesc, d.actualLength ≤ d.length

/-- Packets that follow one another do not overlap. -/
lemma separated_of_isChain {d : IsoPacketDescriptor} {iso : List IsoPacketDescriptor} {n : Nat}
    (hnext : (d :: iso).IsChain fun d d' => d.offset.toNat + d.length.toNat ≤ d'.offset.toNat)
    (hlast : ∀ d' ∈ (d :: iso).getLast?, d'.offset.toNat + d'.length.toNat ≤ n)
    (hactual : ∀ d' ∈ d :: iso, d'.actualLength ≤ d'.length) :
    Separated d.offset.toNat (extents (d :: iso)) n := by
  refine ⟨Nat.le_refl _, ?_⟩
  have hd := BitVec.le_def.mp (hactual d List.mem_cons_self)
  induction iso generalizing d with
  | nil =>
      have hend := hlast d rfl
      show d.offset.toNat + d.actualLength.toNat ≤ n
      omega
  | cons d' iso ih =>
      obtain ⟨hle, hchain⟩ := List.isChain_cons_cons.mp hnext
      have hrest := ih hchain (by rwa [List.getLast?_cons_cons] at hlast)
        (fun x hx => hactual x (List.mem_cons_of_mem _ hx))
        (BitVec.le_def.mp (hactual d' (List.mem_cons_of_mem _ List.mem_cons_self)))
      exact ⟨by show d.offset.toNat + d.actualLength.toNat ≤ d'.offset.toNat; omega, hrest⟩

/-- The packets of a laid out URB do not overlap. -/
lemma IsoLayout.separated {urb : Urb} (h : IsoLayout urb) :
    Separated 0 (extents urb.isoFrameDesc) urb.transferBufferLength.toNat := by
  obtain ⟨-, hnext, hlast, hactual⟩ := h
  rcases hiso : urb.isoFrameDesc with _ | ⟨d, iso⟩
  · exact Nat.zero_le _
  · rw [hiso] at hnext hlast hactual
    exact (separated_of_isChain hnext hlast hactual).mono (Nat.zero_le _)

/-- A completed isochronous IN URB of the stub, and what the stub needs to send it. -/
structure IsocIn (kz : Kzalloc) (urb : Urb) : Prop where
  type : urb.pipe.type = .isochronous
  isIn : urb.pipe.isIn = true
  layout : IsoLayout urb
  packets : urb.isoFrameDesc.length = urb.numberOfPackets.toNat
  total : volume (extents urb.isoFrameDesc) = urb.actualLength.toNat
  buffer : urb.transferBuffer.length = urb.transferBufferLength.toNat
  bufferOk : urb.transferBufferLength ≠ 0 → kz.ok .buffer urb.transferBufferLength.toNat = true
  iovOk : kz.ok .iov ((urb.isoFrameDesc.length + 2) * 16) = true
  descOk : kz.ok .isoDesc (urb.isoFrameDesc.length * 16) = true

/-- The packets of a URB lie in its buffer so that the client, whose URB is as large, can restore
the padding between them. -/
structure Restorable (urb client : Urb) : Prop where
  type : client.pipe.type = .isochronous
  lt : urb.isoFrameDesc.length < 2 ^ 31
  start : ∀ d ∈ urb.isoFrameDesc.head?, d.offset = 0
  separated : Separated 0 (extents urb.isoFrameDesc) urb.transferBufferLength.toNat
  buffer : urb.transferBuffer.length = urb.transferBufferLength.toNat
  length : client.transferBufferLength = urb.transferBufferLength
  clientBuffer : client.transferBuffer.length = client.transferBufferLength.toNat
  clientPackets : client.isoFrameDesc.length = urb.isoFrameDesc.length

section Restorable

variable {kz : Kzalloc} {urb client : Urb}

/-- The pieces of separated packets are their gathered data. -/
lemma flatMap_iovec_eq_gather {beyond : Nat → Byte} {es : List Extent} {buf : List Byte} {lo : Nat}
    (h : Separated lo es buf.length) :
    (es.flatMap fun p => iovec beyond buf p.offset p.length) = gather es buf :=
  List.flatMap_congr fun _ hp => iovec_eq_slice (h.mem hp).2

/-- What is sent of the data. -/
lemma Restorable.dataOf_eq (h : Restorable urb client) (beyond : Nat → Byte)
    (hin : urb.pipe.isIn = true) :
    dataOf beyond true urb = gather (extents urb.isoFrameDesc) urb.transferBuffer := by
  have hsep := h.separated
  rw [← h.buffer] at hsep
  rw [dataOf, if_neg (not_not_intro hin), if_pos rfl, flatMap_iovec_eq_gather hsep]

/-- The descriptors of the client's URB are those that were sent. -/
lemma Restorable.isoFrameDesc_eq (h : Restorable urb client) (beyond : Nat → Byte) :
    (filled beyond true urb client).isoFrameDesc = urb.isoFrameDesc := by
  show urb.isoFrameDesc ++ client.isoFrameDesc.drop urb.isoFrameDesc.length = _
  rw [← h.clientPackets, List.drop_length, List.append_nil]

/-- The client's URB is ready for its padding to be restored. -/
lemma Restorable.padded (h : Restorable urb client) (beyond : Nat → Byte)
    (hcompleted : Completed kz true urb) : Padded (filled beyond true urb client) := by
  have hiso := h.isoFrameDesc_eq beyond
  have hdata : (dataOf beyond true urb).length ≤ urb.transferBufferLength.toNat := by
    have hle := BitVec.le_def.mp hcompleted.actual
    rw [length_dataOf hcompleted]
    split <;> omega
  constructor
  · rw [hiso]
    exact hcompleted.packets rfl
  · rw [hiso]
    exact h.lt
  · show (dataOf beyond true urb ++ client.transferBuffer.drop _).length = _
    rw [List.length_append, List.length_drop, h.clientBuffer]
    show _ = client.transferBufferLength.toNat
    rw [h.length]
    omega
  · rw [hiso]
    exact h.start
  · rw [hiso]
    show Separated 0 _ client.transferBufferLength.toNat
    rw [h.length]
    exact h.separated
  · rw [hiso]
    exact hcompleted.total rfl

/-- Each packet's data arrives in its place. -/
lemma Restorable.slice_eq (h : Restorable urb client) (beyond : Nat → Byte)
    (hcompleted : Completed kz true urb) (hin : urb.pipe.isIn = true) :
    ∀ d ∈ urb.isoFrameDesc, slice d.offset.toNat d.actualLength.toNat
        (usbipPadIso (filled beyond true urb client)).transferBuffer =
      slice d.offset.toNat d.actualLength.toNat urb.transferBuffer := by
  intro d hd
  have hpadded := h.padded beyond hcompleted
  have hsep := h.separated
  rw [← h.buffer] at hsep
  have hgather : gather (extents urb.isoFrameDesc) urb.transferBuffer =
      gather (extents urb.isoFrameDesc)
        (usbipPadIso (filled beyond true urb client)).transferBuffer := by
    have hfilled : (filled beyond true urb client).pipe.type = .isochronous := h.type
    have hpad := gather_usbipPadIso hfilled hpadded
    rw [h.isoFrameDesc_eq] at hpad
    rw [hpad, ← h.dataOf_eq beyond hin]
    have hlen : (dataOf beyond true urb).length =
        (filled beyond true urb client).actualLength.toNat := by
      rw [length_dataOf hcompleted, if_pos hin]
      rfl
    exact (List.take_left' hlen).symm
  have hlen : (usbipPadIso (filled beyond true urb client)).transferBuffer.length =
      urb.transferBuffer.length := by
    rw [length_usbipPadIso hpadded, hpadded.buffer, h.buffer]
    exact congrArg BitVec.toNat h.length
  have hmem : (⟨d.offset.toNat, d.actualLength.toNat⟩ : Extent) ∈ extents urb.isoFrameDesc :=
    List.mem_map.mpr ⟨d, hd, rfl⟩
  exact (slice_eq_of_gather_eq hsep hlen hgather hmem).symm

end Restorable

section IsocIn

variable {kz : Kzalloc} {beyond : Nat → Byte} {urb client : Urb}

/-- A completed isochronous IN URB. -/
lemma IsocIn.completed (h : IsocIn kz urb) : Completed kz true urb where
  buffer := h.bufferOk
  actual := by
    have hle := h.layout.separated.le
    rw [Nat.zero_add, h.total] at hle
    exact BitVec.le_def.mpr hle
  packets _ := h.packets
  total _ := h.total

/-- The client can put the data of such a URB back. -/
lemma IsocIn.restorable (h : IsocIn kz urb) (htype : client.pipe.type = .isochronous)
    (hlength : client.transferBufferLength = urb.transferBufferLength)
    (hbuffer : client.transferBuffer.length = client.transferBufferLength.toNat)
    (hpackets : client.isoFrameDesc.length = urb.isoFrameDesc.length) : Restorable urb client where
  type := htype
  lt := by
    have hlt := kz.lt_of_ok _ _ h.descOk
    omega
  start := h.layout.first
  separated := h.layout.separated
  buffer := h.buffer
  length := hlength
  clientBuffer := hbuffer
  clientPackets := hpackets

/-- The stub reports no error. -/
lemma IsocIn.send (h : IsocIn kz urb) (beyond : Nat → Byte) (e : Endian) (n : Seqnum) :
    ∃ b, stubSendRetSubmit kz beyond e n urb = some b := by
  have hlt := kz.lt_of_ok _ _ h.descOk
  have hpackets := h.packets
  have hnp : urb.numberOfPackets.toInt = urb.isoFrameDesc.length := by
    rw [BitVec.toInt_eq_toNat_of_lt (by omega), hpackets]
  have hiov : sizeT (2 + urb.numberOfPackets).toInt * 16 = (urb.isoFrameDesc.length + 2) * 16 := by
    have htwo : (2 + urb.numberOfPackets).toNat = urb.isoFrameDesc.length + 2 := by
      rw [BitVec.toNat_add, show (2 : BitVec 32).toNat = 2 from rfl, ← hpackets]
      omega
    rw [BitVec.toInt_eq_toNat_of_lt (by omega), htwo, sizeT_natCast (by omega)]
  have hdesc : sizeT (urb.numberOfPackets.toInt * 16) = urb.isoFrameDesc.length * 16 := by
    rw [hnp]
    exact sizeT_natCast hlt
  have htake : urb.isoFrameDesc.take urb.numberOfPackets.toInt.toNat = urb.isoFrameDesc := by
    rw [hnp, Int.toNat_natCast, List.take_length]
  have hpayload : ∃ p, retSubmitPayload kz beyond true urb = some p := by
    unfold retSubmitPayload usbipAllocIsoDescPdu
    simp only [if_true, htake, hiov, hdesc, h.iovOk, h.descOk, h.total]
    simp
  obtain ⟨p, hp⟩ := hpayload
  rw [stubSendRetSubmit, decide_eq_true h.type, hp]
  exact ⟨_, rfl⟩

/-- The data of an isochronous IN URB arrives in the places where the device put it, and with it
all that the descriptors say; neither side adds an event. -/
theorem isoc_in_data_arrives {e e' : Endian} {env : Vhci.Env} {n : Seqnum} (h : IsocIn kz urb)
    (hawaits : Awaits env n .isochronous urb client)
    (hbuffer : client.transferBuffer.length = client.transferBufferLength.toNat)
    (hpackets : client.isoFrameDesc.length = urb.isoFrameDesc.length) :
    ∃ b, stubSendRetSubmit kz beyond e' n urb = some b ∧
      ∀ io rest, available io = b ++ rest →
        ∃ u io', Vhci.takePdu e env io = ⟨false, some u, io'⟩ ∧ available io' = rest ∧
          u.isoFrameDesc = urb.isoFrameDesc ∧
          ∀ d ∈ urb.isoFrameDesc, slice d.offset.toNat d.actualLength.toNat u.transferBuffer =
            slice d.offset.toNat d.actualLength.toNat urb.transferBuffer := by
  have htrue : decide (Server.stub.typeOf .isochronous urb = .isochronous) = true :=
    decide_eq_true h.type
  have hcompleted : Completed kz (Server.stub.typeOf .isochronous urb = .isochronous) urb := by
    rw [htrue]
    exact h.completed
  have hstub : Awaits env n (Server.stub.typeOf .isochronous urb) urb client := by
    show Awaits env n urb.pipe.type urb client
    rwa [h.type]
  obtain ⟨b, hsend⟩ := h.send beyond e' n
  have hrestorable := h.restorable hawaits.endpoint hawaits.length hbuffer hpackets
  refine ⟨b, hsend, fun io rest hav => ?_⟩
  obtain ⟨io', htake, hrest⟩ := takePdu_of_send (v := .stub) hcompleted hstub hsend hav
  rw [htrue] at htake
  refine ⟨_, io', htake, hrest, ?_, hrestorable.slice_eq beyond h.completed h.isIn⟩
  obtain ⟨buf, hpad⟩ := usbipPadIso_urb (filled beyond true urb client)
  rw [hpad]
  exact hrestorable.isoFrameDesc_eq beyond

end IsocIn

/-- Three packets of four bytes, of which the first received two, the second none and the third
three. -/
def isocUrb : Urb where
  pipe := ⟨.isochronous, true, 1, 3⟩
  transferBuffer := [1, 2, 0, 0, 0, 0, 0, 0, 3, 4, 5, 0]
  transferBufferLength := 12
  actualLength := 5
  numberOfPackets := 3
  isoFrameDesc := [⟨0, 4, 2, 0⟩, ⟨4, 4, 0, -EXDEV⟩, ⟨8, 4, 3, 0⟩]

/-- The client's URB for it. -/
def isocClient : Urb where
  pipe := ⟨.isochronous, true, 1, 3⟩
  transferBuffer := List.replicate 12 0
  transferBufferLength := 12
  numberOfPackets := 3
  isoFrameDesc := [⟨0, 4, 0, -EXDEV⟩, ⟨4, 4, 0, -EXDEV⟩, ⟨8, 4, 0, -EXDEV⟩]

/-- The URB of the witness is one. -/
lemma isocIn_isocUrb : IsocIn .all isocUrb where
  type := rfl
  isIn := rfl
  layout := by
    refine ⟨?_, ?_, ?_, ?_⟩
    · intro d hd
      cases hd
      rfl
    · simp [isocUrb]
    · intro d hd
      cases hd
      decide
    · decide
  packets := rfl
  total := rfl
  buffer := rfl
  bufferOk _ := by decide
  iovOk := by decide
  descOk := by decide

/-- The data of an isochronous URB arrives in place. -/
theorem isoc_in_data_arrives_isocUrb :
    ∃ b, stubSendRetSubmit .all (fun _ => 0) .big 9 isocUrb = some b ∧
      ∀ io rest, available io = b ++ rest →
        ∃ u io', Vhci.takePdu .little ⟨.all, false, fun _ => some isocClient, fun _ => none⟩ io =
            ⟨false, some u, io'⟩ ∧
          available io' = rest ∧ u.isoFrameDesc = isocUrb.isoFrameDesc ∧
          ∀ d ∈ isocUrb.isoFrameDesc,
            slice d.offset.toNat d.actualLength.toNat u.transferBuffer =
              slice d.offset.toNat d.actualLength.toNat isocUrb.transferBuffer :=
  isoc_in_data_arrives isocIn_isocUrb ⟨rfl, rfl, rfl, rfl, fun _ _ => by decide⟩ rfl rfl

end Usbip.Link
