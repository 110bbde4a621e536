import Usbip.Common.Truncation
import Usbip.LibusbStub.Receive

/-!
# What the libusb stub takes for a payload

`usbip_recv_xbuff` and `usbip_recv_iso` of the port to user space, from every socket.  As in the
kernel, data that ends with a 0 is an event and nothing more: the transfer is submitted with what
came (`stubRecvCmdSubmit_whole_iff`).
-/

namespace Usbip.LibusbStub

open Usbip.Core Usbip.Common Usbip.Stub

variable {env : Env} {pdu : Header} {type : PipeType} {io : List Recvmsg}

/-! ## Bytes -/

/-- A receive that the stream covers takes exactly its size. -/
lemma usbipRecv_of_le {size : Nat} (hpos : 0 < size) (h : size ≤ (available io).length) :
    (usbipRecv size io).ret = size ∧ (usbipRecv size io).buf = (available io).take size ∧
      available (usbipRecv size io).io = (available io).drop size := by
  rw [usbipRecv, if_neg (by omega)]
  simpa using usbipRecvLoop_of_le size [] hpos h

/-- A receive that the stream does not cover takes what there is. -/
lemma usbipRecv_of_lt {size : Nat} (h : (available io).length < size) :
    usbipRecv size io = ⟨(cut io).1, available io, (cut io).2⟩ := by
  rw [usbipRecv, if_neg (by omega), usbipRecvLoop_of_short h, List.nil_append]

/-- A size is received, or there is an error. -/
lemma usbipRecv_ret_eq_iff {n : BitVec 32} (hpos : 0 ≤ n.toInt) :
    (usbipRecv n.toNat io).ret = n.toInt ↔ 0 < n.toInt ∧ n.toNat ≤ (available io).length := by
  have hnat := toInt_eq_toNat_of_nonneg hpos
  by_cases hzero : n.toNat = 0
  · refine iff_of_false ?_ (by omega)
    rw [hnat, hzero]
    exact fun h => absurd (show (-1 : Int) = 0 from h) (by decide)
  · by_cases hle : n.toNat ≤ (available io).length
    · exact iff_of_true ((usbipRecv_of_le (by omega) hle).1.trans hnat.symm) ⟨by omega, hle⟩
    · have hnonpos := cut_nonpos io
      rw [usbipRecv_of_lt (by omega)]
      exact iff_of_false (by dsimp only; omega) fun h => hle h.2

/-! ## The data -/

/-- How many bytes of data follow the header of a request. -/
def outLength (pdu : Header) : Nat :=
  if pdu.base.direction = dirIn then 0 else pdu.u.w₁.toInt.toNat

/-- Data stored behind the setup packet. -/
def LibusbTransfer.withData (trx : LibusbTransfer) (data : List Byte) : LibusbTransfer :=
  { trx with buffer := trx.buffer.take (xbuffOffset trx.type).toNat ++ data ++
      trx.buffer.drop ((xbuffOffset trx.type).toNat + data.length) }

/-- Behind the room for the setup packet is the transfer's own length. -/
lemma buflen_sub_xbuffOffset (pdu : Header) (type : PipeType) :
    buflen pdu type - xbuffOffset type = if 0 < pdu.u.w₁.toInt then pdu.u.w₁ else 0 := by
  rw [buflen, BitVec.add_comm, BitVec.add_sub_cancel]

section Data

variable {room : Nat}

/-- Nothing is received when there is no data. -/
lemma recvData_of_zero (h : outLength pdu = 0) :
    recvData pdu io (stubTrx pdu type room) = ⟨0, false, stubTrx pdu type room, io⟩ := by
  unfold recvData outLength at *
  by_cases hin : pdu.base.direction = dirIn
  · rw [if_neg (not_not_intro hin)]
  · rw [if_neg hin] at h
    rw [if_pos hin, usbipRecvXbuff]
    have hsize : (stubTrx pdu type room).length - xbuffOffset (stubTrx pdu type room).type = 0 := by
      show buflen pdu type - xbuffOffset type = 0
      rw [buflen_sub_xbuffOffset, if_neg (by omega)]
    dsimp only
    rw [hsize]
    rfl

/-- The receipt of data. -/
lemma recvData_of_pos (h : 0 < outLength pdu) :
    recvData pdu io (stubTrx pdu type room) =
      let r := usbipRecv (outLength pdu) io
      ⟨r.ret, r.ret ≠ (outLength pdu : Int), (stubTrx pdu type room).withData r.buf, r.io⟩ := by
  unfold outLength at h ⊢
  split at h
  · omega
  · rename_i hout
    have hpos : 0 < pdu.u.w₁.toInt := by omega
    have hnat := toInt_eq_toNat_of_nonneg (Int.le_of_lt hpos)
    have hsize : (stubTrx pdu type room).length - xbuffOffset (stubTrx pdu type room).type =
        pdu.u.w₁ := by
      show buflen pdu type - xbuffOffset type = _
      rw [buflen_sub_xbuffOffset, if_pos hpos]
    rw [if_neg hout, recvData, if_pos hout, usbipRecvXbuff]
    dsimp only
    rw [hsize, if_neg (not_not_intro hpos), hnat, Int.toNat_natCast]
    rfl

/-- No data leaves the transfer as it was allocated. -/
lemma withData_nil (pdu : Header) (type : PipeType) (room : Nat) :
    (stubTrx pdu type room).withData [] = stubTrx pdu type room := by
  simp [LibusbTransfer.withData]

/-- All of the data is taken when it is there. -/
lemma recvData_of_le (h : outLength pdu ≤ (available io).length) :
    ∃ io', recvData pdu io (stubTrx pdu type room) = ⟨outLength pdu, false,
        (stubTrx pdu type room).withData ((available io).take (outLength pdu)), io'⟩ ∧
      available io' = (available io).drop (outLength pdu) := by
  by_cases hzero : outLength pdu = 0
  · refine ⟨io, ?_, by rw [hzero, List.drop_zero]⟩
    rw [recvData_of_zero hzero, hzero, List.take_zero, withData_nil]
    rfl
  · obtain ⟨hret, hbuf, hio⟩ := usbipRecv_of_le (Nat.pos_of_ne_zero hzero) h
    refine ⟨_, ?_, hio⟩
    rw [recvData_of_pos (Nat.pos_of_ne_zero hzero)]
    dsimp only
    rw [hret, hbuf]
    simp

/-- Otherwise there is an event, and what `recv` returned. -/
lemma recvData_of_lt (h : (available io).length < outLength pdu) :
    recvData pdu io (stubTrx pdu type room) =
      ⟨(cut io).1, true, (stubTrx pdu type room).withData (available io), (cut io).2⟩ := by
  have hnonpos := cut_nonpos io
  have hne : (cut io).1 ≠ (outLength pdu : Int) := by omega
  rw [recvData_of_pos (by omega), usbipRecv_of_lt h]
  simp [hne]

end Data

/-! ## The descriptors -/

/-- The descriptors of `np` packets follow in `b`, their size can be allocated and has not wrapped
around, and their lengths add up to 0. -/
def DescriptorsFollow (malloc : Malloc) (b : List Byte) (np : BitVec 32) : Prop :=
  np ≠ 0 → malloc.ok .recvIso (sizeT (np * 16).toInt) = true ∧ 0 < (np * 16).toInt ∧
    (np * 16).toNat ≤ b.length ∧ np.toInt * 16 ≤ (np * 16).toInt ∧
    totalLength (isoReceived np (b.take (np * 16).toNat)) = 0

/-- The descriptors of `np` packets do not fit into the buffer that they are received in. -/
def Overruns (malloc : Malloc) (b : List Byte) (np : BitVec 32) : Prop :=
  malloc.ok .recvIso (sizeT (np * 16).toInt) = true ∧ 0 < (np * 16).toInt ∧ (np * 16).toNat ≤ b.length ∧
    (np * 16).toInt < np.toInt * 16

/-- Descriptors stored at the start of the array. -/
def LibusbTransfer.withIso (trx : LibusbTransfer) (iso : List IsoPacketDescriptor) :
    LibusbTransfer :=
  { trx with isoPacketDesc := iso.map usbipPackIso ++ trx.isoPacketDesc.drop iso.length }

/-- A negative `int` cannot be allocated. -/
lemma Malloc.nonneg_of_ok {malloc : Malloc} {a : Allocation} {n : BitVec 32}
    (h : malloc.ok a (sizeT n.toInt) = true) : 0 ≤ n.toInt := by
  have hlt := malloc.lt_of_ok _ _ h
  have hmin : -2 ^ 31 ≤ n.toInt := BitVec.le_toInt n
  have hmax : n.toInt < 2 ^ 31 := BitVec.toInt_lt
  unfold sizeT at hlt
  omega

section Descriptors

variable {malloc : Malloc} {trx : LibusbTransfer}

/-- Descriptors that follow are taken, and nothing more. -/
lemma usbipRecvIso_of_follow (hactual : trx.actualLength = 0)
    (h : DescriptorsFollow malloc (available io) trx.numIsoPackets) :
    ∃ ret io', usbipRecvIso malloc io trx = .ok ⟨ret, false, trx.withIso
        (isoReceived trx.numIsoPackets ((available io).take (trx.numIsoPackets * 16).toNat)), io'⟩ ∧
      0 ≤ ret ∧ available io' = (available io).drop (trx.numIsoPackets * 16).toNat := by
  unfold usbipRecvIso
  dsimp only
  by_cases hnp : trx.numIsoPackets = 0
  · refine ⟨0, io, ?_, Int.le_refl 0, by rw [hnp]; rfl⟩
    rw [if_pos hnp, hnp]
    rfl
  · obtain ⟨halloc, hpos, hall, hwrap, htotal⟩ := h hnp
    have hret := (usbipRecv_ret_eq_iff (Int.le_of_lt hpos)).mpr ⟨hpos, hall⟩
    have hnat := toInt_eq_toNat_of_nonneg (Int.le_of_lt hpos)
    obtain ⟨-, hbuf, hio⟩ := usbipRecv_of_le (by omega) hall
    refine ⟨_, _, ?_, Int.le_of_lt hpos, hio⟩
    rw [if_neg hnp, if_neg (not_not_intro halloc), if_neg (not_not_intro hret),
      if_neg (by omega), hbuf, if_neg (not_not_intro (htotal.trans hactual.symm)), hret]
    rfl

/-- Without memory for the descriptors the receive fails and adds no event. -/
lemma usbipRecvIso_of_no_memory (hnp : trx.numIsoPackets ≠ 0)
    (halloc : malloc.ok .recvIso (sizeT (trx.numIsoPackets * 16).toInt) = false) :
    usbipRecvIso malloc io trx = .ok ⟨-1, false, trx, io⟩ := by
  unfold usbipRecvIso
  dsimp only
  rw [if_neg hnp, if_pos fun hok => absurd (hok.symm.trans halloc) (by decide)]

/-- Descriptors beyond the transfer's room are written out of bounds. -/
lemma usbipRecvIso_of_overruns (h : Overruns malloc (available io) trx.numIsoPackets) :
    usbipRecvIso malloc io trx = .error .outOfBounds := by
  obtain ⟨halloc, hpos, hall, hwrap⟩ := h
  have hret := (usbipRecv_ret_eq_iff (Int.le_of_lt hpos)).mpr ⟨hpos, hall⟩
  have hnp : trx.numIsoPackets ≠ 0 := by
    intro hzero
    rw [hzero] at hpos
    exact absurd hpos (by decide)
  unfold usbipRecvIso
  dsimp only
  rw [if_neg hnp, if_neg (not_not_intro halloc), if_neg (not_not_intro hret), if_pos hwrap]

/-- Any other descriptors are refused with an event. -/
lemma usbipRecvIso_of_refused (hactual : trx.actualLength = 0)
    (halloc : malloc.ok .recvIso (sizeT (trx.numIsoPackets * 16).toInt) = true)
    (hover : ¬ Overruns malloc (available io) trx.numIsoPackets)
    (h : ¬ DescriptorsFollow malloc (available io) trx.numIsoPackets) :
    ∃ r, usbipRecvIso malloc io trx = .ok r ∧ r.ret < 0 ∧ r.event = true := by
  have hneg : (-1 : Int) < 0 := by decide
  have hnp : trx.numIsoPackets ≠ 0 := fun hzero => h fun hne => absurd hzero hne
  have hiff := @usbipRecv_ret_eq_iff io _ (Malloc.nonneg_of_ok halloc)
  unfold usbipRecvIso
  dsimp only
  rw [if_neg hnp, if_neg (not_not_intro halloc)]
  by_cases hret : (usbipRecv (trx.numIsoPackets * 16).toNat io).ret =
      (trx.numIsoPackets * 16).toInt
  · obtain ⟨hpos, hall⟩ := hiff.mp hret
    have hnat := toInt_eq_toNat_of_nonneg (Int.le_of_lt hpos)
    obtain ⟨-, hbuf, -⟩ := usbipRecv_of_le (by omega) hall
    have hwrap : ¬ (trx.numIsoPackets * 16).toInt < trx.numIsoPackets.toInt * 16 :=
      fun hwrap => hover ⟨halloc, hpos, hall, hwrap⟩
    rw [if_neg (not_not_intro hret), if_neg hwrap, hbuf]
    split
    · exact ⟨_, rfl, hneg, rfl⟩
    · rename_i htotal
      refine absurd (fun _ => ⟨halloc, hpos, hall, by omega, ?_⟩) h
      exact (not_not.mp htotal).trans hactual
  · rw [if_pos hret]
    exact ⟨_, rfl, hneg, rfl⟩

/-- Only descriptors behind the buffer keep the function from returning. -/
lemma usbipRecvIso_returns (hactual : trx.actualLength = 0)
    (hover : ¬ Overruns malloc (available io) trx.numIsoPackets) :
    ∃ r, usbipRecvIso malloc io trx = .ok r := by
  by_cases hfollow : DescriptorsFollow malloc (available io) trx.numIsoPackets
  · obtain ⟨ret, io', hr, -⟩ := usbipRecvIso_of_follow hactual hfollow
    exact ⟨_, hr⟩
  · have hnp : trx.numIsoPackets ≠ 0 := fun hzero => hfollow fun hne => absurd hzero hne
    by_cases halloc : malloc.ok .recvIso (sizeT (trx.numIsoPackets * 16).toInt) = true
    · obtain ⟨r, hr, -⟩ := usbipRecvIso_of_refused hactual halloc hover hfollow
      exact ⟨r, hr⟩
    · exact ⟨_, usbipRecvIso_of_no_memory hnp (Bool.eq_false_iff.mpr halloc)⟩

/-- Descriptors that do not follow are not taken. -/
lemma usbipRecvIso_ret_neg (hactual : trx.actualLength = 0)
    (h : ¬ DescriptorsFollow malloc (available io) trx.numIsoPackets) {r : Received}
    (hr : usbipRecvIso malloc io trx = .ok r) : r.ret < 0 := by
  have hnp : trx.numIsoPackets ≠ 0 := fun hzero => h fun hne => absurd hzero hne
  by_cases halloc : malloc.ok .recvIso (sizeT (trx.numIsoPackets * 16).toInt) = true
  · by_cases hover : Overruns malloc (available io) trx.numIsoPackets
    · cases (usbipRecvIso_of_overruns hover).symm.trans hr
    · obtain ⟨r', hr', hneg, -⟩ := usbipRecvIso_of_refused hactual halloc hover h
      cases hr'.symm.trans hr
      exact hneg
  · cases (usbipRecvIso_of_no_memory hnp (Bool.eq_false_iff.mpr halloc)).symm.trans hr
    exact (by decide : (-1 : Int) < 0)

end Descriptors

/-! ## The payload -/

/-- Everything that is allocated before the payload is received; a control transfer needs a length
that has not become negative. -/
structure Env.Allocates (env : Env) (pdu : Header) (type : PipeType) : Prop where
  priv : env.privOk = true
  transfer : (env.allocTransfer.room (packetsOn pdu type).toInt).isSome = true
  buffer : 0 < (buflen pdu type).toInt → env.malloc.ok .buffer (buflen pdu type).toNat = true
  setup : type = .control → 0 < (buflen pdu type).toInt

/-- With its memory allocated a submit goes on to its payload. -/
lemma stubRecvOnType_of_allocates (io : List Recvmsg) (h : env.Allocates pdu type) :
    ∃ room, env.allocTransfer.room (packetsOn pdu type).toInt = some room ∧
      stubRecvOnType env pdu type io = stubRecvPayload env pdu (stubTrx pdu type room) io := by
  obtain ⟨room, hroom⟩ := Option.isSome_iff_exists.mp h.transfer
  refine ⟨room, hroom, ?_⟩
  unfold stubRecvOnType
  rw [if_neg (not_not_intro h.priv), hroom]
  dsimp only
  rw [if_neg fun hfail => hfail.2 (h.buffer hfail.1), if_neg fun hfail => hfail.2 (h.setup hfail.1)]

/-- Otherwise there is an event, or the setup packet is copied to NULL. -/
lemma stubRecvOnType_of_not_allocates (io : List Recvmsg) (h : ¬ env.Allocates pdu type) :
    stubRecvOnType env pdu type io = .ok { event := true, io } ∨
      stubRecvOnType env pdu type io = .error .nullBuffer ∧ env.privOk = true ∧
        (env.allocTransfer.room (packetsOn pdu type).toInt).isSome = true ∧ type = .control ∧
        ¬ 0 < (buflen pdu type).toInt := by
  unfold stubRecvOnType
  split
  · exact .inl rfl
  · rename_i hpriv
    split
    · exact .inl rfl
    · rename_i room hroom
      have hsome : (env.allocTransfer.room (packetsOn pdu type).toInt).isSome = true := by
        rw [hroom]
        rfl
      split
      · exact .inl rfl
      · rename_i hbuffer
        split
        · rename_i hsetup
          exact .inr ⟨rfl, not_not.mp hpriv, hsome, hsetup⟩
        · rename_i hsetup
          refine absurd ⟨not_not.mp hpriv, hsome, fun hpos => ?_, fun htype => ?_⟩ h
          · exact not_not.mp fun hfail => hbuffer ⟨hpos, hfail⟩
          · exact not_not.mp fun hfail => hsetup ⟨htype, hfail⟩

/-- The transfer as it is submitted, with its payload. -/
def filled (env : Env) (trx : LibusbTransfer) (data rest : List Byte) : LibusbTransfer :=
  maskingBogusFlags env.eps ((trx.withData data).withIso
    (isoReceived trx.numIsoPackets (rest.take (trx.numIsoPackets * 16).toNat)))

section Payload

variable {room : Nat}

/-- A payload that is there is taken, and nothing more. -/
lemma stubRecvPayload_of_le (h : outLength pdu ≤ (available io).length)
    (hfollow : DescriptorsFollow env.malloc ((available io).drop (outLength pdu))
      (packetsOn pdu type)) :
    ∃ io', stubRecvPayload env pdu (stubTrx pdu type room) io = .ok
        { event := ¬ env.submitOk
          submitted := some (filled env (stubTrx pdu type room)
            ((available io).take (outLength pdu)) ((available io).drop (outLength pdu)))
          io := io' } ∧
      available io' = ((available io).drop (outLength pdu)).drop (packetsOn pdu type * 16).toNat := by
  obtain ⟨io₁, hdata, hav₁⟩ := @recvData_of_le pdu type io room h
  rw [← hav₁] at hfollow ⊢
  have hactual : ((stubTrx pdu type room).withData
      ((available io).take (outLength pdu))).actualLength = 0 := rfl
  obtain ⟨ret, io₂, hiso, hret, hav₂⟩ := usbipRecvIso_of_follow hactual hfollow
  refine ⟨io₂, ?_, hav₂⟩
  unfold stubRecvPayload
  rw [hdata]
  dsimp only
  rw [if_neg (by omega), hiso]
  dsimp only
  rw [if_neg (by omega)]
  rfl

/-- Data that ends too early with a 0 is taken all the same, when the descriptors follow. -/
lemma stubRecvPayload_of_lt (h : (available io).length < outLength pdu) (hcut : (cut io).1 = 0)
    (hfollow : DescriptorsFollow env.malloc (available (cut io).2) (packetsOn pdu type)) :
    ∃ t, stubRecvPayload env pdu (stubTrx pdu type room) io = .ok t ∧
      t.submitted = some (filled env (stubTrx pdu type room) (available io)
        (available (cut io).2)) ∧ t.event = true := by
  have hactual : ((stubTrx pdu type room).withData (available io)).actualLength = 0 := rfl
  obtain ⟨ret, io₂, hiso, hret, -⟩ := usbipRecvIso_of_follow hactual hfollow
  unfold stubRecvPayload
  rw [recvData_of_lt h]
  dsimp only
  rw [if_neg (by omega), hiso]
  dsimp only
  rw [if_neg (by omega)]
  exact ⟨_, rfl, rfl, rfl⟩

/-- A transfer is submitted in these two cases only. -/
lemma stubRecvPayload_submitted {t : Taken}
    (h : stubRecvPayload env pdu (stubTrx pdu type room) io = .ok t)
    (hsub : t.submitted ≠ none) :
    outLength pdu ≤ (available io).length ∧ DescriptorsFollow env.malloc
        ((available io).drop (outLength pdu)) (packetsOn pdu type) ∨
      (available io).length < outLength pdu ∧ (cut io).1 = 0 ∧
        DescriptorsFollow env.malloc (available (cut io).2) (packetsOn pdu type) := by
  have hsubmits : ∀ x : Received, x.trx.actualLength = 0 → x.trx.numIsoPackets = packetsOn pdu type →
      recvData pdu io (stubTrx pdu type room) = x →
      0 ≤ x.ret ∧ DescriptorsFollow env.malloc (available x.io) (packetsOn pdu type) := by
    intro x hactual hnp hx
    unfold stubRecvPayload at h
    rw [hx] at h
    dsimp only at h
    split at h
    · cases h
      exact absurd rfl hsub
    · rename_i hret
      refine ⟨by omega, ?_⟩
      by_contra hfollow
      rw [← hnp] at hfollow
      cases hr : usbipRecvIso env.malloc x.io x.trx with
      | error f =>
          rw [hr] at h
          cases h
      | ok r =>
          rw [hr] at h
          dsimp only at h
          rw [if_pos (usbipRecvIso_ret_neg hactual hfollow hr)] at h
          cases h
          exact hsub rfl
  by_cases hle : outLength pdu ≤ (available io).length
  · obtain ⟨io₁, hdata, hav⟩ := @recvData_of_le pdu type io room hle
    rw [← hav]
    exact .inl ⟨hle, (hsubmits _ rfl rfl hdata).2⟩
  · obtain ⟨hret, hfollow⟩ := hsubmits _ rfl rfl (recvData_of_lt (Nat.not_le.mp hle))
    have hnonpos := cut_nonpos io
    dsimp only at hret
    exact .inr ⟨Nat.not_le.mp hle, by omega, hfollow⟩

end Payload

/-! ## What is submitted -/

/-- All of a payload is in the transfer: the data of an OUT request, and the descriptors of the
isochronous packets behind it. -/
structure WholeTransfer (pdu : Header) (io : List Recvmsg) (trx : LibusbTransfer) : Prop where
  data : pdu.base.direction ≠ dirIn → outLength pdu ≤ (available io).length ∧
    trx.buffer.drop (xbuffOffset trx.type).toNat = (available io).take (outLength pdu)
  descriptors : trx.type = .isochronous →
    let n := pdu.u.w₃.toInt.toNat
    let b := (available io).drop (outLength pdu)
    n * 16 ≤ b.length ∧ trx.isoPacketDesc.take n = (isoDescriptors (b.take (n * 16))).map usbipPackIso

/-- A payload that is taken although its data ends too early. -/
def Truncates (env : Env) (pdu : Header) (type : PipeType) (io : List Recvmsg) : Prop :=
  (available io).length < outLength pdu ∧ (cut io).1 = 0 ∧
    DescriptorsFollow env.malloc (available (cut io).2) (packetsOn pdu type)

/-- Masking leaves all but the flags. -/
lemma maskingBogusFlags_eq (eps : List StubEndpoint) (trx : LibusbTransfer) :
    ∃ flags, maskingBogusFlags eps trx = { trx with flags } := by
  unfold maskingBogusFlags
  split
  · exact ⟨trx.flags, rfl⟩
  · exact ⟨_, rfl⟩

/-- Masking the flags leaves the payload whole. -/
lemma WholeTransfer.masked {eps : List StubEndpoint} {trx : LibusbTransfer}
    (h : WholeTransfer pdu io trx) : WholeTransfer pdu io (maskingBogusFlags eps trx) := by
  obtain ⟨flags, hflags⟩ := maskingBogusFlags_eq eps trx
  rw [hflags]
  exact ⟨h.data, h.descriptors⟩

/-- The size allocated, as a number. -/
lemma toNat_buflen (pdu : Header) (type : PipeType) :
    (buflen pdu type).toNat = (xbuffOffset type).toNat + pdu.u.w₁.toInt.toNat := by
  have hnat := BitVec.toInt_eq_toNat_cond pdu.u.w₁
  have hoffset : (xbuffOffset type).toNat ≤ 8 := by cases type <;> decide
  rw [buflen, BitVec.toNat_add]
  split
  · split at hnat <;> omega
  · rw [show (0 : BitVec 32).toNat = 0 from rfl]
    split at hnat <;> omega

/-- The setup packet and the data fill the buffer. -/
lemma length_buffer (hsetup : pdu.u.setup.length = 8) (room : Nat) :
    (stubTrx pdu type room).buffer.length =
      (xbuffOffset type).toNat + pdu.u.w₁.toInt.toNat := by
  have hbuflen := toNat_buflen pdu type
  by_cases hcontrol : type = .control
  · have hoffset : (xbuffOffset type).toNat = 8 := by rw [hcontrol]; rfl
    have hbuffer : (stubTrx pdu type room).buffer =
        pdu.u.setup ++ List.replicate ((buflen pdu type).toNat - 8) 0 := if_pos hcontrol
    rw [hbuffer, List.length_append, List.length_replicate]
    omega
  · have hbuffer : (stubTrx pdu type room).buffer =
        List.replicate (buflen pdu type).toNat 0 := if_neg hcontrol
    rw [hbuffer, List.length_replicate]
    exact hbuflen

/-- A loop that stays in its buffer takes as many descriptors as there are. -/
lemma isoReceived_take {np : BitVec 32} {b : List Byte} (hpos : 0 < (np * 16).toInt)
    (hwrap : np.toInt * 16 ≤ (np * 16).toInt) (hle : (np * 16).toNat ≤ b.length) :
    np.toInt.toNat * 16 ≤ b.length ∧
      isoReceived np (b.take (np * 16).toNat) = isoDescriptors (b.take (np.toInt.toNat * 16)) := by
  have hlt : (np * 16).toInt < 2 ^ 31 := BitVec.toInt_lt
  exact Common.isoReceived_take hpos (by omega) hle

/-- A transfer that is filled from the stream is whole. -/
lemma whole_filled (hsetup : pdu.u.setup.length = 8) (room : Nat)
    (hle : outLength pdu ≤ (available io).length)
    (hfollow : DescriptorsFollow env.malloc ((available io).drop (outLength pdu))
      (packetsOn pdu type)) :
    WholeTransfer pdu io (filled env (stubTrx pdu type room)
      ((available io).take (outLength pdu)) ((available io).drop (outLength pdu))) := by
  refine WholeTransfer.masked ?_
  have hbuffer := @length_buffer pdu type hsetup room
  constructor
  · intro hout
    have hlength : outLength pdu = pdu.u.w₁.toInt.toNat := if_neg hout
    have htake : ((available io).take (outLength pdu)).length = outLength pdu := by
      rw [List.length_take, Nat.min_eq_left hle]
    have hrest : (stubTrx pdu type room).buffer.drop
        ((xbuffOffset type).toNat + ((available io).take (outLength pdu)).length) = [] := by
      rw [List.drop_eq_nil_iff, hbuffer, htake, hlength]
    have hhead : ((stubTrx pdu type room).buffer.take (xbuffOffset type).toNat).length =
        (xbuffOffset type).toNat := by
      rw [List.length_take, hbuffer]
      omega
    refine ⟨hle, ?_⟩
    show ((stubTrx pdu type room).buffer.take (xbuffOffset type).toNat ++
      (available io).take (outLength pdu) ++ (stubTrx pdu type room).buffer.drop
        ((xbuffOffset type).toNat + ((available io).take (outLength pdu)).length)).drop
          (xbuffOffset type).toNat = _
    rw [hrest, List.append_nil, List.drop_left' hhead]
  · intro (hisoc : type = .isochronous)
    have hnp : (stubTrx pdu type room).numIsoPackets = pdu.u.w₃ := if_pos hisoc
    rw [packetsOn, if_pos hisoc] at hfollow
    show pdu.u.w₃.toInt.toNat * 16 ≤ _ ∧
      ((isoReceived (stubTrx pdu type room).numIsoPackets _).map usbipPackIso ++ _).take _ = _
    rw [hnp]
    by_cases hzero : pdu.u.w₃ = 0
    · rw [hzero, show (0 : BitVec 32).toInt.toNat = 0 from rfl, Nat.zero_mul, List.take_zero,
        List.take_zero]
      exact ⟨Nat.zero_le _, rfl⟩
    · obtain ⟨-, hpos, hall, hwrap, -⟩ := hfollow hzero
      obtain ⟨hmul, hreceived⟩ := isoReceived_take hpos hwrap hall
      refine ⟨hmul, ?_⟩
      rw [hreceived, List.take_left']
      rw [List.length_map, length_isoDescriptors, List.length_take, Nat.min_eq_left hmul]
      omega

/-- What is submitted comes from the payload of a request that everything was allocated for. -/
lemma stubRecvCmdSubmit_submitted {t : Taken}
    (htype : stubGetTransferType env.eps (epNumber pdu) = some type)
    (hrun : stubRecvCmdSubmit env pdu io = .ok t) (hsub : t.submitted ≠ none) :
    env.Allocates pdu type ∧
      ∃ room, stubRecvPayload env pdu (stubTrx pdu type room) io = .ok t := by
  unfold stubRecvCmdSubmit at hrun
  rw [htype] at hrun
  dsimp only at hrun
  by_cases halloc : env.Allocates pdu type
  · obtain ⟨room, -, heq⟩ := stubRecvOnType_of_allocates io halloc
    exact ⟨halloc, room, heq.symm.trans hrun⟩
  · rcases stubRecvOnType_of_not_allocates io halloc with heq | ⟨heq, -⟩
    · cases heq.symm.trans hrun
      exact absurd rfl hsub
    · cases heq.symm.trans hrun

/-- A transfer that is submitted has its whole payload, unless the payload is truncated and taken
all the same. -/
theorem stubRecvCmdSubmit_whole_iff (env : Env) (pdu : Header) (io : List Recvmsg)
    (hsetup : pdu.u.setup.length = 8) :
    (∀ t trx, stubRecvCmdSubmit env pdu io = .ok t → t.submitted = some trx →
        WholeTransfer pdu io trx) ↔
      ∀ type, stubGetTransferType env.eps (epNumber pdu) = some type → env.Allocates pdu type →
        ¬ Truncates env pdu type io := by
  constructor
  · rintro hwhole type htype halloc ⟨hlt, hcut, hfollow⟩
    obtain ⟨room, -, hrun⟩ := stubRecvOnType_of_allocates io halloc
    obtain ⟨t, ht, hsub, -⟩ := @stubRecvPayload_of_lt env pdu type io room hlt hcut hfollow
    unfold stubRecvCmdSubmit at hwhole
    rw [htype] at hwhole
    have hdata := (hwhole t _ (hrun.trans ht) hsub).data
    by_cases hin : pdu.base.direction = dirIn
    · have hzero : outLength pdu = 0 := if_pos hin
      omega
    · exact absurd (hdata hin).1 (Nat.not_le.mpr hlt)
  · intro htruncates t trx hrun hsub
    have hsome : t.submitted ≠ none := by rw [hsub]; exact Option.some_ne_none trx
    cases htype : stubGetTransferType env.eps (epNumber pdu) with
    | none =>
        unfold stubRecvCmdSubmit at hrun
        rw [htype] at hrun
        cases hrun
        cases hsub
    | some type =>
        obtain ⟨halloc, room, hpayload⟩ := stubRecvCmdSubmit_submitted htype hrun hsome
        rcases stubRecvPayload_submitted hpayload hsome with ⟨hle, hfollow⟩ | htrunc
        · obtain ⟨io', hok, -⟩ := @stubRecvPayload_of_le env pdu type io room hle hfollow
          cases hok.symm.trans hpayload
          cases hsub
          exact whole_filled hsetup room hle hfollow
        · exact absurd htrunc (htruncates type htype halloc)

end Usbip.LibusbStub
