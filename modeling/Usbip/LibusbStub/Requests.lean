import Usbip.LibusbStub.Payload

/-!
# Requests that the libusb stub drops

A CMD_SUBMIT is settled when it is submitted and exactly its payload taken from the socket, or when
an event ends the connection.  `stub_recv_cmd_submit` has exits that do neither: an endpoint that
the device does not have, and a `malloc` for the descriptors that fails.  With numbers that have
wrapped around it does not come back at all, and when the client and the stub take the endpoint for
different types it takes another payload than was sent.  `settles_iff` says that these are all.
-/

namespace Usbip.LibusbStub

open Usbip.Core Usbip.Common Usbip.Stub

/-- How many bytes follow the header of a CMD_SUBMIT; `isoc` is whether the client takes the
endpoint for an isochronous one. -/
def payloadLength (isoc : Bool) (pdu : Header) : Nat :=
  outLength pdu + if isoc then pdu.u.w₃.toInt.toNat * 16 else 0

/-- The request is submitted and its payload taken, or there is an event. -/
def Settles (isoc : Bool) (pdu : Header) (io : List Recvmsg) : Except Fault Taken → Prop
  | .error _ => False
  | .ok t => t.event = true ∨ t.submitted ≠ none ∧ payloadLength isoc pdu ≤ (available io).length ∧
      available t.io = (available io).drop (payloadLength isoc pdu)

instance (isoc : Bool) (pdu : Header) (io : List Recvmsg) (x : Except Fault Taken) :
    Decidable (Settles isoc pdu io x) :=
  match x with
  | .error _ => isFalse id
  | .ok t => inferInstanceAs (Decidable (t.event = true ∨ t.submitted ≠ none ∧
      payloadLength isoc pdu ≤ (available io).length ∧
      available t.io = (available io).drop (payloadLength isoc pdu)))

/-- What goes wrong with the payload of a request, once everything is allocated. -/
inductive DropsPayload (env : Env) (isoc : Bool) (pdu : Header) (type : PipeType)
    (io : List Recvmsg) : Prop
  /-- There is no memory for the descriptors. -/
  | memory (hle : outLength pdu ≤ (available io).length) (hnp : packetsOn pdu type ≠ 0)
      (halloc : env.malloc.ok .recvIso (sizeT (packetsOn pdu type * 16).toInt) = false)
  /-- The loop over the descriptors goes behind their buffer. -/
  | overrun (hle : outLength pdu ≤ (available io).length)
      (h : Overruns env.malloc ((available io).drop (outLength pdu)) (packetsOn pdu type))
  /-- It does so after the data has ended too early with a 0. -/
  | lateOverrun (hlt : (available io).length < outLength pdu) (hcut : (cut io).1 = 0)
      (h : Overruns env.malloc (available (cut io).2) (packetsOn pdu type))
  /-- Other descriptors are taken than the client has sent. -/
  | framing (hle : outLength pdu ≤ (available io).length)
      (h : DescriptorsFollow env.malloc ((available io).drop (outLength pdu)) (packetsOn pdu type))
      (hsubmit : env.submitOk = true)
      (hne : (packetsOn pdu type * 16).toNat ≠ if isoc then pdu.u.w₃.toInt.toNat * 16 else 0)

/-- A request that is neither settled nor refused. -/
inductive Drops (env : Env) (isoc : Bool) (pdu : Header) (io : List Recvmsg) : Prop
  /-- The device does not have the endpoint. -/
  | unknown (h : stubGetTransferType env.eps (epNumber pdu) = none)
  /-- The length of a control transfer has become negative with its setup packet. -/
  | setup (h : stubGetTransferType env.eps (epNumber pdu) = some .control)
      (hpriv : env.privOk = true)
      (htransfer : (env.allocTransfer.room (packetsOn pdu .control).toInt).isSome = true)
      (hbuflen : ¬ 0 < (buflen pdu .control).toInt)
  | payload {type : PipeType} (h : stubGetTransferType env.eps (epNumber pdu) = some type)
      (halloc : env.Allocates pdu type) (hpayload : DropsPayload env isoc pdu type io)

section Settles

variable {env : Env} {isoc : Bool} {pdu : Header} {type : PipeType} {io : List Recvmsg} {room : Nat}

/-- Dropping leaves the same only if as much is dropped. -/
lemma drop_eq_drop_iff {α : Type*} {l : List α} {m n : Nat} (hm : m ≤ l.length) :
    (n ≤ l.length ∧ l.drop m = l.drop n) ↔ m = n := by
  constructor
  · rintro ⟨hn, h⟩
    have := congrArg List.length h
    simp only [List.length_drop] at this
    omega
  · rintro rfl
    exact ⟨hm, rfl⟩

/-- Descriptors that follow are not behind their buffer, and there is memory for them. -/
lemma DescriptorsFollow.not_overruns {malloc : Malloc} {b : List Byte} {np : BitVec 32}
    (h : DescriptorsFollow malloc b np) : ¬ Overruns malloc b np := by
  rintro ⟨-, hpos, -, hwrap⟩
  by_cases hnp : np = 0
  · rw [hnp] at hpos
    exact absurd hpos (by decide)
  · obtain ⟨-, -, -, hle, -⟩ := h hnp
    omega

/-- Descriptors that follow are in the stream. -/
lemma DescriptorsFollow.size_le {malloc : Malloc} {b : List Byte} {np : BitVec 32}
    (h : DescriptorsFollow malloc b np) : (np * 16).toNat ≤ b.length := by
  by_cases hnp : np = 0
  · rw [hnp]
    exact Nat.zero_le _
  · exact (h hnp).2.2.1

/-- A payload that is as the stub expects it is the one that was sent, or it is not. -/
lemma settles_of_follow (hle : outLength pdu ≤ (available io).length)
    (hfollow : DescriptorsFollow env.malloc ((available io).drop (outLength pdu))
      (packetsOn pdu type)) :
    Settles isoc pdu io (stubRecvPayload env pdu (stubTrx pdu type room) io) ↔
      (env.submitOk = true →
        (packetsOn pdu type * 16).toNat = if isoc then pdu.u.w₃.toInt.toNat * 16 else 0) := by
  obtain ⟨io', hrun, hav⟩ := @stubRecvPayload_of_le env pdu type io room hle hfollow
  have hsize := hfollow.size_le
  rw [List.length_drop] at hsize
  have hiff : (payloadLength isoc pdu ≤ (available io).length ∧
      available io' = (available io).drop (payloadLength isoc pdu)) ↔
        (packetsOn pdu type * 16).toNat = if isoc then pdu.u.w₃.toInt.toNat * 16 else 0 := by
    rw [hav, List.drop_drop, drop_eq_drop_iff (by omega), payloadLength]
    omega
  rw [hrun]
  unfold Settles
  dsimp only
  rw [hiff]
  cases env.submitOk <;> simp

section Received

variable {x : Received} (hx : recvData pdu io (stubTrx pdu type room) = x) (hret : 0 ≤ x.ret)
  (hactual : x.trx.actualLength = 0)

include hx hret

/-- A fault of the descriptors is one of the payload. -/
lemma stubRecvPayload_of_error {f : Fault} (h : usbipRecvIso env.malloc x.io x.trx = .error f) :
    stubRecvPayload env pdu (stubTrx pdu type room) io = .error f := by
  unfold stubRecvPayload
  rw [hx]
  dsimp only
  rw [if_neg (Int.not_lt.mpr hret), h]

/-- A failed receive of the descriptors drops the request. -/
lemma stubRecvPayload_of_neg {r : Received} (h : usbipRecvIso env.malloc x.io x.trx = .ok r)
    (hneg : r.ret < 0) : stubRecvPayload env pdu (stubTrx pdu type room) io =
      .ok { event := x.event || r.event, io := r.io } := by
  unfold stubRecvPayload
  rw [hx]
  dsimp only
  rw [if_neg (Int.not_lt.mpr hret), h]
  dsimp only
  rw [if_pos hneg]

include hactual

/-- An event for the data stays. -/
lemma stubRecvPayload_event (hevent : x.event = true)
    (hover : ¬ Overruns env.malloc (available x.io) x.trx.numIsoPackets) :
    ∃ t, stubRecvPayload env pdu (stubTrx pdu type room) io = .ok t ∧ t.event = true := by
  obtain ⟨r, hr⟩ := usbipRecvIso_returns hactual hover
  unfold stubRecvPayload
  rw [hx]
  dsimp only
  rw [if_neg (Int.not_lt.mpr hret), hr, hevent]
  dsimp only
  split
  · exact ⟨_, rfl, rfl⟩
  · exact ⟨_, rfl, rfl⟩

/-- What becomes of a request whose descriptors do not follow. -/
lemma settles_of_not_follow (hevent : x.event = false)
    (hfollow : ¬ DescriptorsFollow env.malloc (available x.io) x.trx.numIsoPackets) :
    Settles isoc pdu io (stubRecvPayload env pdu (stubTrx pdu type room) io) ↔
      env.malloc.ok .recvIso (sizeT (x.trx.numIsoPackets * 16).toInt) = true ∧
        ¬ Overruns env.malloc (available x.io) x.trx.numIsoPackets := by
  have hnp : x.trx.numIsoPackets ≠ 0 := fun hzero => hfollow fun hne => absurd hzero hne
  by_cases halloc : env.malloc.ok .recvIso (sizeT (x.trx.numIsoPackets * 16).toInt) = true
  · by_cases hover : Overruns env.malloc (available x.io) x.trx.numIsoPackets
    · rw [stubRecvPayload_of_error hx hret (usbipRecvIso_of_overruns hover)]
      exact iff_of_false id fun h => h.2 hover
    · obtain ⟨r, hr, hneg, hr'⟩ := usbipRecvIso_of_refused hactual halloc hover hfollow
      rw [stubRecvPayload_of_neg hx hret hr hneg, hr', Bool.or_true]
      exact iff_of_true (.inl rfl) ⟨halloc, hover⟩
  · have hr := @usbipRecvIso_of_no_memory x.io _ _ hnp (Bool.eq_false_iff.mpr halloc)
    rw [stubRecvPayload_of_neg hx hret hr (by decide : (-1 : Int) < 0), hevent]
    refine iff_of_false ?_ fun h => halloc h.1
    rintro (hor | ⟨hsub, -⟩)
    · cases hor
    · exact hsub rfl

end Received

/-- A payload is settled exactly when it is not dropped. -/
theorem settles_payload_iff :
    Settles isoc pdu io (stubRecvPayload env pdu (stubTrx pdu type room) io) ↔
      ¬ DropsPayload env isoc pdu type io := by
  by_cases hle : outLength pdu ≤ (available io).length
  · by_cases hfollow : DescriptorsFollow env.malloc ((available io).drop (outLength pdu))
        (packetsOn pdu type)
    · rw [settles_of_follow hle hfollow]
      constructor
      · rintro h (⟨-, hnp, halloc⟩ | ⟨-, hover⟩ | ⟨hlt, -, -⟩ | ⟨-, -, hsubmit, hne⟩)
        · exact absurd ((hfollow hnp).1.symm.trans halloc) (by decide)
        · exact hfollow.not_overruns hover
        · omega
        · exact hne (h hsubmit)
      · exact fun h hsubmit => not_not.mp fun hne => h (.framing hle hfollow hsubmit hne)
    · obtain ⟨io', hdata, hav⟩ := @recvData_of_le pdu type io room hle
      have hnp : packetsOn pdu type ≠ 0 := fun hzero => hfollow fun hne => absurd hzero hne
      rw [settles_of_not_follow hdata (Int.natCast_nonneg _) rfl rfl (by rw [hav]; exact hfollow),
        hav]
      constructor
      · rintro ⟨halloc, hover⟩ (⟨-, -, hmemory⟩ | ⟨-, hover'⟩ | ⟨hlt, -, -⟩ | ⟨-, hfollow', -, -⟩)
        · exact absurd (halloc.symm.trans hmemory) (by decide)
        · exact hover hover'
        · omega
        · exact hfollow hfollow'
      · refine fun h => ⟨not_not.mp fun halloc => h ?_, fun hover => h (.overrun hle hover)⟩
        exact .memory hle hnp (Bool.eq_false_iff.mpr halloc)
  · have hlt := Nat.not_le.mp hle
    have hdata := @recvData_of_lt pdu type io room hlt
    by_cases hcut : (cut io).1 = 0
    · by_cases hover : Overruns env.malloc (available (cut io).2) (packetsOn pdu type)
      · rw [stubRecvPayload_of_error hdata hcut.symm.le (usbipRecvIso_of_overruns hover)]
        exact iff_of_false id (not_not_intro (.lateOverrun hlt hcut hover))
      · obtain ⟨t, ht, hevent⟩ := stubRecvPayload_event hdata hcut.symm.le rfl rfl hover
        rw [ht]
        refine iff_of_true (.inl hevent) ?_
        rintro (⟨hle', -⟩ | ⟨hle', -⟩ | ⟨-, -, hover'⟩ | ⟨hle', -⟩)
        · exact hle hle'
        · exact hle hle'
        · exact hover hover'
        · exact hle hle'
    · have hnonpos := cut_nonpos io
      unfold stubRecvPayload
      rw [hdata]
      dsimp only
      rw [if_pos (by omega)]
      refine iff_of_true (.inl rfl) ?_
      rintro (⟨hle', -⟩ | ⟨hle', -⟩ | ⟨-, hcut', -⟩ | ⟨hle', -⟩)
      · exact hle hle'
      · exact hle hle'
      · exact hcut hcut'
      · exact hle hle'

/-- A control transfer without room for its setup packet writes through NULL. -/
lemma stubRecvOnType_of_setup (io : List Recvmsg) (hpriv : env.privOk = true)
    (hroom : (env.allocTransfer.room (packetsOn pdu .control).toInt).isSome = true)
    (hbuflen : ¬ 0 < (buflen pdu .control).toInt) :
    stubRecvOnType env pdu .control io = .error .nullBuffer := by
  obtain ⟨room, hsome⟩ := Option.isSome_iff_exists.mp hroom
  unfold stubRecvOnType
  rw [if_neg (not_not_intro hpriv), hsome]
  dsimp only
  rw [if_neg fun hfail => hbuflen hfail.1, if_pos ⟨rfl, hbuflen⟩]

/-- A request is settled exactly when it is not dropped. -/
theorem settles_iff (env : Env) (isoc : Bool) (pdu : Header) (io : List Recvmsg) :
    Settles isoc pdu io (stubRecvCmdSubmit env pdu io) ↔ ¬ Drops env isoc pdu io := by
  unfold stubRecvCmdSubmit
  cases htype : stubGetTransferType env.eps (epNumber pdu) with
  | none =>
      refine iff_of_false ?_ (not_not_intro (.unknown htype))
      rintro (hevent | ⟨hsub, -⟩)
      · cases hevent
      · exact hsub rfl
  | some type =>
      dsimp only
      by_cases halloc : env.Allocates pdu type
      · obtain ⟨room, -, hrun⟩ := stubRecvOnType_of_allocates io halloc
        rw [hrun, settles_payload_iff]
        constructor
        · rintro h (hnone | ⟨hcontrol, -, -, hbuflen⟩ | ⟨htype', -, hpayload⟩)
          · cases htype.symm.trans hnone
          · cases htype.symm.trans hcontrol
            exact hbuflen (halloc.setup rfl)
          · cases htype.symm.trans htype'
            exact h hpayload
        · exact fun h hpayload => h (.payload htype halloc hpayload)
      · rcases stubRecvOnType_of_not_allocates io halloc with hrun | ⟨hrun, hpriv, hroom, rfl, hbuflen⟩
        · rw [hrun]
          refine iff_of_true (.inl rfl) ?_
          rintro (hnone | ⟨hcontrol, hpriv, hroom, hbuflen⟩ | ⟨htype', halloc', -⟩)
          · cases htype.symm.trans hnone
          · cases htype.symm.trans hcontrol
            cases (stubRecvOnType_of_setup io hpriv hroom hbuflen).symm.trans hrun
          · cases htype.symm.trans htype'
            exact halloc halloc'
        · rw [hrun]
          exact iff_of_false id (not_not_intro (.setup htype hpriv hroom hbuflen))

instance (env : Env) (isoc : Bool) (pdu : Header) (io : List Recvmsg) :
    Decidable (Drops env isoc pdu io) :=
  decidable_of_iff (¬ Settles isoc pdu io (stubRecvCmdSubmit env pdu io)) <| by
    rw [settles_iff, not_not]

end Settles

end Usbip.LibusbStub
