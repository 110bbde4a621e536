import Usbip.Common.Wire
import Usbip.Core.Codec

/-!
# What the tools send and receive

`usbip_net_send` and `usbip_net_recv` carry a block of memory over a socket, in a loop, since each
call moves as many bytes as it likes; the words in it are converted in place, before or after.
Both are programs over the socket: `Writes` and `Decodes` say what a stream has to do with them.
-/

namespace Usbip.Tools

open Usbip.Core Usbip.Common

/-! ## Half words -/

/-- The bytes of a half word on the wire. -/
def be16Bytes (x : BitVec 16) : List Byte := [x.extractLsb' 8 8, x.extractLsb' 0 8]

/-- The bytes of a half word in the memory of a host. -/
def halfBytes : Endian → BitVec 16 → List Byte
  | .little, x => (be16Bytes x).reverse
  | .big, x => be16Bytes x

/-- The half word that has these bytes in the memory of a host. -/
def halfOf : Endian → List Byte → BitVec 16
  | .little, [b₀, b₁] => b₁ ++ b₀
  | .big, [b₀, b₁] => b₀ ++ b₁
  | _, _ => 0

/-- Source: `<linux/swab.h>`, `swab16`. -/
def swab16 (x : BitVec 16) : BitVec 16 := x.extractLsb' 0 8 ++ x.extractLsb' 8 8

/-- Source: `<arpa/inet.h>`, `htons`. -/
def htons : Endian → BitVec 16 → BitVec 16
  | .little, x => swab16 x
  | .big, x => x

/-- Source: `<arpa/inet.h>`, `ntohs`. -/
def ntohs : Endian → BitVec 16 → BitVec 16
  | .little, x => swab16 x
  | .big, x => x

/-- Source: `usbip_network.c`, `usbip_net_pack_uint32_t`. -/
def usbipNetPackUint32T (e : Endian) (pack : Bool) (num : BitVec 32) : BitVec 32 :=
  if pack then cpuToBe32 e num else be32ToCpu e num

/-- Source: `usbip_network.c`, `usbip_net_pack_uint16_t`. -/
def usbipNetPackUint16T (e : Endian) (pack : Bool) (num : BitVec 16) : BitVec 16 :=
  if pack then htons e num else ntohs e num

/-- A word is its two bytes. -/
lemma append_extractLsb' (x : BitVec 16) : x.extractLsb' 8 8 ++ x.extractLsb' 0 8 = x := by
  rw [BitVec.extractLsb'_append_extractLsb'_eq_extractLsb' (by decide)]
  exact BitVec.extractLsb'_eq_self

/-- Two bytes are those of their word. -/
lemma extractLsb'_append (b₀ b₁ : Byte) : be16Bytes (b₀ ++ b₁) = [b₀, b₁] := by
  have hhigh : (b₀ ++ b₁).extractLsb' 8 8 = b₀ := by
    rw [BitVec.extractLsb'_append_eq_of_le (by decide)]
    exact BitVec.extractLsb'_eq_self
  have hlow : (b₀ ++ b₁).extractLsb' 0 8 = b₁ := by
    rw [BitVec.extractLsb'_append_eq_of_add_le (by decide), BitVec.extractLsb'_eq_self]
  rw [be16Bytes, hhigh, hlow]

/-- Swapping twice changes nothing. -/
lemma swab16_swab16 (x : BitVec 16) : swab16 (swab16 x) = x := by
  have hswab : be16Bytes (swab16 x) = [x.extractLsb' 0 8, x.extractLsb' 8 8] :=
    extractLsb'_append _ _
  obtain ⟨hhigh, hlow⟩ := List.cons_eq_cons.mp hswab
  rw [swab16, hhigh, (List.cons_eq_cons.mp hlow).1, append_extractLsb']

/-- A packed half word is its bytes on the wire. -/
lemma halfBytes_pack (e : Endian) (x : BitVec 16) :
    halfBytes e (usbipNetPackUint16T e true x) = be16Bytes x := by
  cases e
  · show (be16Bytes (swab16 x)).reverse = be16Bytes x
    rw [swab16, extractLsb'_append]
    rfl
  · rfl

/-- The half word that a host finds, and what it makes of it. -/
lemma unpack_halfOf (e : Endian) (x : BitVec 16) :
    usbipNetPackUint16T e false (halfOf e (be16Bytes x)) = x := by
  cases e
  · exact swab16_swab16 x
  · exact append_extractLsb' x

/-- A packed word is in the order of the wire. -/
lemma wordBytes_pack (e : Endian) (x : BitVec 32) :
    wordBytes e (usbipNetPackUint32T e true x) = be32Bytes x :=
  wordBytes_cpuToBe32 e x

/-- A word is read from the order of the wire. -/
lemma unpack_wordOf (e : Endian) (x : BitVec 32) :
    usbipNetPackUint32T e false (wordOf e (be32Bytes x)) = x :=
  be32ToCpu_wordOf e x

/-! ## Sockets -/

/-- A socket of the tools: what its calls of `recv` will give, how many bytes its calls of `send`
will take at most, with 0 for a call that fails, and what was sent. -/
structure UsbipSock where
  recvs : List Recvmsg := []
  sends : List Nat := []
  sent : List Byte := []
  deriving DecidableEq

/-- The loop of `usbip_net_xmit` that receives, with `buff` stored and `bufflen` bytes to go.
Source: `usbip_network.c`, `usbip_net_xmit`. -/
def usbipNetRecvLoop (bufflen : Nat) (buff : List Byte) :
    List Recvmsg → Option (List Byte × List Recvmsg)
  | .bytes b :: recvs =>
      if b = [] then none
      else if b.length < bufflen then usbipNetRecvLoop (bufflen - b.length) (buff ++ b) recvs
      else some (buff ++ b.take bufflen,
        if b.length = bufflen then recvs else .bytes (b.drop bufflen) :: recvs)
  | .fail _ :: _ | [] => none

/-- The loop of `usbip_net_xmit` that sends, with `buff` to go.
Source: `usbip_network.c`, `usbip_net_xmit`. -/
def usbipNetSendLoop (buff : List Byte) (sent : List Byte) : List Nat → Option (List Nat × List Byte)
  | nbytes :: sends =>
      if nbytes = 0 then none
      else if nbytes < buff.length then
        usbipNetSendLoop (buff.drop nbytes) (sent ++ buff.take nbytes) sends
      else some (sends, sent ++ buff)
  | [] => none

/-- The loop returns what it was asked for. -/
lemma length_usbipNetRecvLoop {bufflen : Nat} {buff b : List Byte} {recvs recvs' : List Recvmsg}
    (h : usbipNetRecvLoop bufflen buff recvs = some (b, recvs')) :
    b.length = buff.length + bufflen := by
  induction recvs generalizing bufflen buff with
  | nil => simp [usbipNetRecvLoop] at h
  | cons r recvs ih =>
      cases r with
      | fail e => simp [usbipNetRecvLoop] at h
      | bytes a =>
          rw [usbipNetRecvLoop] at h
          split_ifs at h with hnil hlt heq
          · rw [ih h, List.length_append]
            omega
          all_goals
            obtain ⟨rfl, -⟩ := Prod.mk.inj (Option.some.inj h)
            rw [List.length_append, List.length_take]
            omega

/-- Source: `usbip_network.c`, `usbip_net_recv`. -/
def usbipNetRecv (bufflen : Nat) : Program UsbipSock {b : List Byte // b.length = bufflen} :=
  fun s =>
    if hzero : bufflen = 0 then some (⟨[], hzero.symm⟩, s)
    else match h : usbipNetRecvLoop bufflen [] s.recvs with
      | none => none
      | some (b, recvs) =>
          some (⟨b, (length_usbipNetRecvLoop h).trans (Nat.zero_add bufflen)⟩,
            { s with recvs := recvs })

/-- Source: `usbip_network.c`, `usbip_net_send`. -/
def usbipNetSend (buff : List Byte) : Program UsbipSock PUnit := fun s =>
  if buff = [] then some (PUnit.unit, s)
  else (usbipNetSendLoop buff s.sent s.sends).map fun r =>
    (PUnit.unit, { s with sends := r.1, sent := r.2 })

/-- The bytes that a socket still holds. -/
def UsbipSock.avail (s : UsbipSock) : List Byte := available s.recvs

/-- The calls of `send` before the first that fails. -/
def UsbipSock.room (s : UsbipSock) : Nat := (s.sends.takeWhile (0 < ·)).length

/-- The two loops over a socket are the same, but for what they return when it breaks off. -/
lemma usbipNetRecvLoop_eq {bufflen : Nat} {buff : List Byte} {recvs : List Recvmsg}
    (hpos : 0 < bufflen) :
    usbipNetRecvLoop bufflen buff recvs =
      if 0 < (usbipRecvLoop bufflen buff recvs).ret then
        some ((usbipRecvLoop bufflen buff recvs).buf, (usbipRecvLoop bufflen buff recvs).io)
      else none := by
  induction recvs generalizing bufflen buff with
  | nil => rfl
  | cons r recvs ih =>
      cases r with
      | fail e =>
          have hret : ¬ (0 : Int) < (usbipRecvLoop bufflen buff (.fail e :: recvs)).ret := by
            show ¬ (0 : Int) < -(e : Int)
            omega
          rw [if_neg hret, usbipNetRecvLoop]
      | bytes b =>
          rw [usbipNetRecvLoop, usbipRecvLoop]
          by_cases hnil : b = []
          · simp only [if_pos hnil]
            exact (if_neg (Int.lt_irrefl 0)).symm
          · have hlen : 0 < b.length := List.length_pos_iff.mpr hnil
            simp only [if_neg hnil]
            by_cases hlt : b.length < bufflen
            · simp only [if_pos hlt]
              exact ih (by omega)
            · simp only [if_neg hlt]
              refine (if_pos ?_).symm
              simp only [List.length_append, List.length_take]
              omega

/-- A receive reads its bytes. -/
lemma decodes_usbipNetRecv {bufflen : Nat} (b : {b : List Byte // b.length = bufflen}) :
    Decodes UsbipSock.avail (usbipNetRecv bufflen) b.1 b := by
  intro s rest h
  obtain ⟨b, hb⟩ := b
  by_cases hzero : bufflen = 0
  · obtain rfl : b = [] := List.length_eq_zero_iff.mp (hb.trans hzero)
    refine ⟨s, ?_, h⟩
    rw [StateT.run, usbipNetRecv, dif_pos hzero]
  · have hpos : 0 < bufflen := Nat.pos_of_ne_zero hzero
    have hle : bufflen ≤ (available s.recvs).length := by
      show bufflen ≤ s.avail.length
      rw [h, List.length_append, hb]
      exact Nat.le_add_right _ _
    obtain ⟨hret, hbuf, hio⟩ := usbipRecvLoop_of_le bufflen [] hpos hle
    have havail : available s.recvs = b ++ rest := h
    rw [havail, List.nil_append, List.take_left' hb] at hbuf
    rw [havail, List.drop_left' hb] at hio
    have hloop : usbipNetRecvLoop bufflen [] s.recvs =
        some (b, (usbipRecvLoop bufflen [] s.recvs).io) := by
      rw [usbipNetRecvLoop_eq hpos, if_pos (by rw [hret, List.length_nil]; omega), hbuf]
    refine ⟨{ s with recvs := (usbipRecvLoop bufflen [] s.recvs).io }, ?_, hio⟩
    rw [StateT.run, usbipNetRecv, dif_neg hzero]
    split
    · rename_i hnone
      rw [hloop] at hnone
      cases hnone
    · rename_i b' recvs hsome
      rw [hloop] at hsome
      cases hsome
      rfl

/-- The loop that succeeds has sent the whole buffer. -/
lemma usbipNetSendLoop_eq_some {buff sent sent' : List Byte} {sends sends' : List Nat}
    (h : usbipNetSendLoop buff sent sends = some (sends', sent')) : sent' = sent ++ buff := by
  induction sends generalizing buff sent with
  | nil => simp [usbipNetSendLoop] at h
  | cons n sends ih =>
      rw [usbipNetSendLoop] at h
      split_ifs at h with hzero hlt
      · rw [ih h, List.append_assoc, List.take_append_drop]
      · exact (Prod.mk.inj (Option.some.inj h)).2.symm

/-- The loop succeeds while the socket takes a byte at least each time. -/
lemma usbipNetSendLoop_completes {buff : List Byte} (sent : List Byte) {sends : List Nat}
    (hpos : 0 < buff.length) (h : buff.length ≤ (sends.takeWhile (0 < ·)).length) :
    ∃ r, usbipNetSendLoop buff sent sends = some r ∧
      (sends.takeWhile (0 < ·)).length ≤ (r.1.takeWhile (0 < ·)).length + buff.length := by
  induction sends generalizing buff sent with
  | nil => exact absurd hpos (Nat.not_lt.mpr h)
  | cons n sends ih =>
      by_cases hn : n = 0
      · rw [List.takeWhile_cons_of_neg (by simpa using hn)] at h
        exact absurd hpos (Nat.not_lt.mpr h)
      · rw [List.takeWhile_cons_of_pos (by simpa using Nat.pos_of_ne_zero hn),
          List.length_cons] at h ⊢
        rw [usbipNetSendLoop, if_neg hn]
        by_cases hlt : n < buff.length
        · rw [if_pos hlt]
          have hdrop : (buff.drop n).length = buff.length - n := List.length_drop
          have hpos' : 0 < (buff.drop n).length := by omega
          obtain ⟨r, hr, hroom⟩ := ih _ hpos' (by omega)
          exact ⟨r, hr, by omega⟩
        · rw [if_neg hlt]
          refine ⟨_, rfl, ?_⟩
          show _ ≤ (sends.takeWhile (0 < ·)).length + buff.length
          omega

/-- A send writes its buffer. -/
lemma writes_usbipNetSend (buff : List Byte) :
    Writes UsbipSock.sent (usbipNetSend buff) buff := by
  intro s s' h
  rw [StateT.run, usbipNetSend] at h
  split_ifs at h with hnil
  · obtain rfl : s = s' := congrArg Prod.snd (Option.some.inj h)
    rw [hnil, List.append_nil]
  · obtain ⟨⟨sends, sent⟩, hloop, hr⟩ := Option.map_eq_some_iff.mp h
    obtain rfl : _ = s' := congrArg Prod.snd hr
    exact usbipNetSendLoop_eq_some hloop

/-- A send needs as many takes as it has bytes. -/
lemma completes_usbipNetSend (buff : List Byte) :
    Completes UsbipSock.room (usbipNetSend buff) buff.length := by
  intro s h
  by_cases hnil : buff = []
  · refine ⟨s, ?_, Nat.le_add_right _ _⟩
    rw [StateT.run, usbipNetSend, if_pos hnil]
  · obtain ⟨⟨sends, sent⟩, hloop, hroom⟩ :=
      usbipNetSendLoop_completes s.sent (List.length_pos_iff.mpr hnil) h
    refine ⟨{ s with sends := sends, sent := sent }, ?_, hroom⟩
    rw [StateT.run, usbipNetSend, if_neg hnil, hloop]
    rfl

/-! ## Headers -/

/-- Source: `usbip_network.h`, `struct op_common`. -/
structure OpCommon where
  version : BitVec 16
  code : BitVec 16
  status : BitVec 32
  deriving DecidableEq

def halfAt (e : Endian) (offset : Nat) (b : List Byte) : BitVec 16 := halfOf e (slice offset 2 b)

/-- The header as it lies in the memory of a host. -/
def OpCommon.bytes (e : Endian) (op : OpCommon) : List Byte :=
  halfBytes e op.version ++ halfBytes e op.code ++ wordBytes e op.status

def OpCommon.ofBytes (e : Endian) (b : List Byte) : OpCommon :=
  ⟨halfAt e 0 b, halfAt e 2 b, wordAt e 4 b⟩

/-- Source: `usbip_network.h`, `PACK_OP_COMMON`. -/
def packOpCommon (e : Endian) (pack : Bool) (op : OpCommon) : OpCommon where
  version := usbipNetPackUint16T e pack op.version
  code := usbipNetPackUint16T e pack op.code
  status := usbipNetPackUint32T e pack op.status

def USBIP_VERSION : BitVec 16 := 0x0111
def OP_UNSPEC : BitVec 16 := 0
def OP_REQ_DEVLIST : BitVec 32 := 0x8005
def OP_REP_DEVLIST : BitVec 32 := 0x0005
def ST_OK : BitVec 32 := 0

/-- Source: `usbip_network.c`, `usbip_net_send_op_common`. -/
def usbipNetSendOpCommon (e : Endian) (code status : BitVec 32) : Program UsbipSock PUnit :=
  usbipNetSend
    ((packOpCommon e true ⟨USBIP_VERSION, code.setWidth 16, status⟩).bytes e)

/-- Source: `usbip_network.c`, `usbip_net_recv_op_common`. -/
def usbipNetRecvOpCommon (e : Endian) (code : BitVec 16) : Program UsbipSock (BitVec 16) := do
  let b ← usbipNetRecv 8
  let op := packOpCommon e false (OpCommon.ofBytes e b.1)
  if op.version ≠ USBIP_VERSION then failure
  else if code ≠ OP_UNSPEC ∧ op.code ≠ code then failure
  else if op.status ≠ ST_OK then failure
  else pure op.code

def OpCommon.wire (op : OpCommon) : List Byte := op.bytes .big

/-- A packed header is its wire format. -/
lemma OpCommon.bytes_pack (e : Endian) (op : OpCommon) :
    (packOpCommon e true op).bytes e = op.wire := by
  simp only [OpCommon.bytes, packOpCommon, halfBytes_pack, wordBytes_pack]
  rfl

/-- A header is read from its wire format. -/
lemma OpCommon.unpack_wire (e : Endian) (op : OpCommon) :
    packOpCommon e false (OpCommon.ofBytes e op.wire) = op := by
  have hhalf : ∀ x, usbipNetPackUint16T e false (halfOf e (be16Bytes x)) = x := unpack_halfOf e
  have hword : usbipNetPackUint32T e false (wordOf e (be32Bytes op.status)) = op.status :=
    unpack_wordOf e op.status
  have hop : packOpCommon e false (OpCommon.ofBytes e op.wire) =
      ⟨usbipNetPackUint16T e false (halfOf e (be16Bytes op.version)),
        usbipNetPackUint16T e false (halfOf e (be16Bytes op.code)),
        usbipNetPackUint32T e false (wordOf e (be32Bytes op.status))⟩ := rfl
  rw [hop, hhalf, hhalf, hword]

/-- A header is written. -/
lemma writes_sendOpCommon (e : Endian) (code status : BitVec 32) :
    Writes UsbipSock.sent (usbipNetSendOpCommon e code status)
      (OpCommon.wire ⟨USBIP_VERSION, code.setWidth 16, status⟩) := by
  rw [usbipNetSendOpCommon, OpCommon.bytes_pack]
  exact writes_usbipNetSend _

/-- The socket needs the room of a header. -/
lemma completes_sendOpCommon (e : Endian) (code status : BitVec 32) :
    Completes UsbipSock.room (usbipNetSendOpCommon e code status)
      (OpCommon.wire ⟨USBIP_VERSION, code.setWidth 16, status⟩).length := by
  rw [usbipNetSendOpCommon, OpCommon.bytes_pack]
  exact completes_usbipNetSend _

/-- Sending a header receives nothing. -/
lemma recvs_sendOpCommon {e : Endian} {code status : BitVec 32} {s s' : UsbipSock}
    (h : (usbipNetSendOpCommon e code status).run s = some (PUnit.unit, s')) :
    s'.recvs = s.recvs := by
  rw [StateT.run, usbipNetSendOpCommon, usbipNetSend] at h
  split_ifs at h with hnil
  · obtain rfl : s = s' := congrArg Prod.snd (Option.some.inj h)
    rfl
  · obtain ⟨r, -, hr⟩ := Option.map_eq_some_iff.mp h
    obtain rfl : _ = s' := congrArg Prod.snd hr
    rfl

/-- A header with the code and no error is read. -/
lemma decodes_recvOpCommon (e : Endian) (code : BitVec 16) :
    Decodes UsbipSock.avail (usbipNetRecvOpCommon e code)
      (OpCommon.wire ⟨USBIP_VERSION, code, ST_OK⟩) code := by
  have h := (decodes_usbipNetRecv ⟨OpCommon.wire ⟨USBIP_VERSION, code, ST_OK⟩, rfl⟩).bind
    (f := fun b =>
      let op := packOpCommon e false (OpCommon.ofBytes e b.1)
      if op.version ≠ USBIP_VERSION then failure
      else if code ≠ OP_UNSPEC ∧ op.code ≠ code then failure
      else if op.status ≠ ST_OK then failure
      else pure op.code) (y := code) (c := []) ?_
  · rwa [List.append_nil] at h
  · rw [OpCommon.unpack_wire]
    simp only [ne_eq, not_true_eq_false, and_false, if_false]
    exact Decodes.pure code

end Usbip.Tools
