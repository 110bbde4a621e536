import Usbip.Common.Wire

/-!
# The header of a PDU, three times

The kernel drivers and the libusb stub each have a `usbip_header_correct_endian` of their own, and
the protocol document has a table of the fields.  `header_codec` says that the three agree, and
that what is sent is what is received.

The libusb stub is modelled on the bytes of the union, which its four structures overlay: a
structure is loaded from them, converted and stored back.
-/

namespace Usbip.LibusbStub

open Usbip.Core Usbip.Common

/-! ## The structures -/

/-- Source: `stub_common.h`, `struct usbip_header_cmd_submit`. -/
structure CmdSubmit where
  transferFlags : BitVec 32
  transferBufferLength : BitVec 32
  startFrame : BitVec 32
  numberOfPackets : BitVec 32
  interval : BitVec 32
  setup : List Byte

def CmdSubmit.load (e : Endian) (u : List Byte) : CmdSubmit :=
  ⟨wordAt e 0 u, wordAt e 4 u, wordAt e 8 u, wordAt e 12 u, wordAt e 16 u, slice 20 8 u⟩

def CmdSubmit.store (e : Endian) (p : CmdSubmit) (u : List Byte) : List Byte :=
  wordBytes e p.transferFlags ++ wordBytes e p.transferBufferLength ++ wordBytes e p.startFrame ++
    wordBytes e p.numberOfPackets ++ wordBytes e p.interval ++ p.setup ++ u.drop 28

/-- Source: `stub_common.h`, `struct usbip_header_ret_submit`. -/
structure RetSubmit where
  status : BitVec 32
  actualLength : BitVec 32
  startFrame : BitVec 32
  numberOfPackets : BitVec 32
  errorCount : BitVec 32

def RetSubmit.load (e : Endian) (u : List Byte) : RetSubmit :=
  ⟨wordAt e 0 u, wordAt e 4 u, wordAt e 8 u, wordAt e 12 u, wordAt e 16 u⟩

def RetSubmit.store (e : Endian) (p : RetSubmit) (u : List Byte) : List Byte :=
  wordBytes e p.status ++ wordBytes e p.actualLength ++ wordBytes e p.startFrame ++
    wordBytes e p.numberOfPackets ++ wordBytes e p.errorCount ++ u.drop 20

/-- Source: `stub_common.h`, `struct usbip_header_cmd_unlink`. -/
structure CmdUnlink where
  seqnum : BitVec 32

def CmdUnlink.load (e : Endian) (u : List Byte) : CmdUnlink := ⟨wordAt e 0 u⟩

def CmdUnlink.store (e : Endian) (p : CmdUnlink) (u : List Byte) : List Byte :=
  wordBytes e p.seqnum ++ u.drop 4

/-- Source: `stub_common.h`, `struct usbip_header_ret_unlink`. -/
structure RetUnlink where
  status : BitVec 32

def RetUnlink.load (e : Endian) (u : List Byte) : RetUnlink := ⟨wordAt e 0 u⟩

def RetUnlink.store (e : Endian) (p : RetUnlink) (u : List Byte) : List Byte :=
  wordBytes e p.status ++ u.drop 4

/-! ## `usbip_header_correct_endian` -/

/-- `htonl` or `ntohl`. -/
def convert (e : Endian) (send : Bool) : BitVec 32 → BitVec 32 :=
  if send then cpuToBe32 e else be32ToCpu e

section Convert

variable (e : Endian) (send : Bool)

/-- Source: `stub_common.c`, `correct_endian_basic`. -/
def correctEndianBasic (b : HeaderBasic) : HeaderBasic :=
  let f := convert e send
  ⟨f b.command, f b.seqnum, f b.devid, f b.direction, f b.ep⟩

/-- Source: `stub_common.c`, `correct_endian_cmd_submit`. -/
def correctEndianCmdSubmit (p : CmdSubmit) : CmdSubmit :=
  let f := convert e send
  ⟨f p.transferFlags, f p.transferBufferLength, f p.startFrame, f p.numberOfPackets,
    f p.interval, p.setup⟩

/-- Source: `stub_common.c`, `correct_endian_ret_submit`. -/
def correctEndianRetSubmit (p : RetSubmit) : RetSubmit :=
  let f := convert e send
  ⟨f p.status, f p.actualLength, f p.startFrame, f p.numberOfPackets, f p.errorCount⟩

/-- Source: `stub_common.c`, `correct_endian_cmd_unlink`. -/
def correctEndianCmdUnlink (p : CmdUnlink) : CmdUnlink := ⟨convert e send p.seqnum⟩

/-- Source: `stub_common.c`, `correct_endian_ret_unlink`. -/
def correctEndianRetUnlink (p : RetUnlink) : RetUnlink := ⟨convert e send p.status⟩

/-- The switch over the command; `USBIP_NOP` and any other leave the union alone.
Source: `stub_common.c`, `usbip_header_correct_endian`. -/
def correctEndianUnion (cmd : BitVec 32) (u : List Byte) : List Byte :=
  if cmd = cmdSubmit then (correctEndianCmdSubmit e send (.load e u)).store e u
  else if cmd = retSubmit then (correctEndianRetSubmit e send (.load e u)).store e u
  else if cmd = cmdUnlink then (correctEndianCmdUnlink e send (.load e u)).store e u
  else if cmd = retUnlink then (correctEndianRetUnlink e send (.load e u)).store e u
  else u

/-- The bytes that the function leaves.
Source: `stub_common.c`, `usbip_header_correct_endian`. -/
def usbipHeaderCorrectEndian (pdu : Frame) : List Byte :=
  let base : HeaderBasic := ⟨wordAt e 0 pdu.bytes, wordAt e 4 pdu.bytes, wordAt e 8 pdu.bytes,
    wordAt e 12 pdu.bytes, wordAt e 16 pdu.bytes⟩
  let cmd := if send then base.command else 0
  let base := correctEndianBasic e send base
  let cmd := if send then cmd else base.command
  base.bytes e ++ correctEndianUnion e send cmd (pdu.bytes.drop 20)

end Convert

/-! ## The kernel's and the stub's agree -/

section Agree

variable (e : Endian) (send : Bool) (u : HeaderUnion)

/-- The words that the structures find in a union. -/
lemma wordAt_union :
    wordAt e 0 (u.bytes e) = u.w₀ ∧ wordAt e 4 (u.bytes e) = u.w₁ ∧
      wordAt e 8 (u.bytes e) = u.w₂ ∧ wordAt e 12 (u.bytes e) = u.w₃ ∧
      wordAt e 16 (u.bytes e) = u.w₄ := by
  have hword : ∀ {n x}, slice n 4 (u.bytes e) = wordBytes e x → wordAt e n (u.bytes e) = x := by
    intro n x hx
    rw [wordAt, hx, wordOf_wordBytes]
  refine ⟨hword ?_, hword ?_, hword ?_, hword ?_, hword ?_⟩ <;> cases e <;> rfl

/-- The setup packet is behind the five words. -/
lemma drop_union : (u.bytes e).drop 20 = u.setup := by
  cases e <;> rfl

/-- The setup packet is where the words end. -/
lemma slice_union (hsetup : u.setup.length = 8) : slice 20 8 (u.bytes e) = u.setup := by
  rw [slice, drop_union, ← hsetup, List.take_length]

/-- The conversion of the union on its bytes is that on its fields. -/
lemma correctEndianUnion_bytes (cmd : BitVec 32) (hsetup : u.setup.length = 8) :
    correctEndianUnion e send cmd (u.bytes e) =
      (Common.correctEndianUnion (convert e send) cmd u).bytes e := by
  obtain ⟨h₀, h₁, h₂, h₃, h₄⟩ := wordAt_union e u
  have hrest : (u.bytes e).drop 28 = [] := by
    rw [show 28 = 20 + 8 from rfl, ← List.drop_drop, drop_union, ← hsetup, List.drop_length]
  unfold correctEndianUnion Common.correctEndianUnion
  by_cases hcs : cmd = cmdSubmit
  · rw [if_pos hcs, if_pos (Or.inl hcs)]
    simp only [CmdSubmit.store, correctEndianCmdSubmit, CmdSubmit.load, h₀, h₁, h₂, h₃, h₄,
      slice_union e u hsetup, hrest, List.append_nil]
    rfl
  by_cases hrs : cmd = retSubmit
  · rw [if_neg hcs, if_pos hrs, if_pos (Or.inr hrs)]
    simp only [RetSubmit.store, correctEndianRetSubmit, RetSubmit.load, h₀, h₁, h₂, h₃, h₄,
      drop_union]
    rfl
  rw [if_neg hcs, if_neg hrs, if_neg (not_or_intro hcs hrs)]
  by_cases hcu : cmd = cmdUnlink
  · rw [if_pos hcu, if_pos (Or.inl hcu)]
    simp only [CmdUnlink.store, correctEndianCmdUnlink, CmdUnlink.load, h₀, HeaderUnion.drop_bytes,
      ← List.append_assoc]
    rfl
  by_cases hru : cmd = retUnlink
  · rw [if_neg hcu, if_pos hru, if_pos (Or.inr hru)]
    simp only [RetUnlink.store, correctEndianRetUnlink, RetUnlink.load, h₀, HeaderUnion.drop_bytes,
      ← List.append_assoc]
    rfl
  · rw [if_neg hcu, if_neg hru, if_neg (not_or_intro hcu hru)]

end Agree

/-- The conversion on the bytes is the one of the kernel on the frame. -/
lemma bytes_usbipHeaderCorrectEndian (e : Endian) (send : Bool) (pdu : Frame) :
    usbipHeaderCorrectEndian e send pdu =
      (Common.usbipHeaderCorrectEndian e pdu send).bytes := by
  have hunion : pdu.bytes.drop 20 = (pdu.header e).u.bytes e := by
    have hbytes : pdu.bytes = (pdu.header e).base.bytes e ++ (pdu.header e).u.bytes e :=
      (Header.bytes_ofBytes e pdu.length_bytes).symm
    conv_lhs => rw [hbytes]
    exact List.drop_left' (HeaderBasic.length_bytes e _)
  unfold usbipHeaderCorrectEndian
  rw [hunion]
  dsimp only
  rw [correctEndianUnion_bytes e send _ _ (pdu.length_setup e)]
  cases send <;> rfl

/-! ## The protocol document -/

def IsCommand (cmd : BitVec 32) : Prop :=
  cmd = cmdSubmit ∨ cmd = cmdUnlink ∨ cmd = retSubmit ∨ cmd = retUnlink

/-- A field of a PDU, with what it holds. -/
structure Field where
  offset : Nat
  bytes : List Byte

/-- The fields of a header by the tables of the document.
Source: `usbip_protocol.txt`, `USBIP_CMD_SUBMIT` to `USBIP_RET_UNLINK`. -/
def documentedFields (h : Header) : List Field :=
  [⟨0x00, be32Bytes h.base.command⟩, ⟨0x04, be32Bytes h.base.seqnum⟩,
    ⟨0x08, be32Bytes h.base.devid⟩, ⟨0x0C, be32Bytes h.base.direction⟩,
    ⟨0x10, be32Bytes h.base.ep⟩] ++
  if h.base.command = cmdSubmit ∨ h.base.command = retSubmit then
    -- transfer_flags, transfer_buffer_length, start_frame, number_of_packets, interval, setup;
    -- status, actual_length, start_frame, number_of_packets, error_count, setup
    [⟨0x14, be32Bytes h.u.w₀⟩, ⟨0x18, be32Bytes h.u.w₁⟩, ⟨0x1C, be32Bytes h.u.w₂⟩,
      ⟨0x20, be32Bytes h.u.w₃⟩, ⟨0x24, be32Bytes h.u.w₄⟩, ⟨0x28, h.u.setup⟩]
  else
    -- seqnum or status
    [⟨0x14, be32Bytes h.u.w₀⟩]

/-- Where the fields end. -/
def documentedLength (h : Header) : Nat :=
  if h.base.command = cmdSubmit ∨ h.base.command = retSubmit then 0x30 else 0x18

/-- A frame sent has the documented fields in their places, and what is between them and the end of
the header as it was in memory. -/
def Documented (e : Endian) (pdu sent : Frame) : Prop :=
  (∀ f ∈ documentedFields (pdu.header e), slice f.offset f.bytes.length sent.bytes = f.bytes) ∧
    sent.bytes.drop (documentedLength (pdu.header e)) =
      pdu.bytes.drop (documentedLength (pdu.header e))

/-- The fields that all commands have. -/
lemma slice_base (b : HeaderBasic) (l : List Byte) :
    ∀ f ∈ [(⟨0x00, be32Bytes b.command⟩ : Field), ⟨0x04, be32Bytes b.seqnum⟩,
      ⟨0x08, be32Bytes b.devid⟩, ⟨0x0C, be32Bytes b.direction⟩, ⟨0x10, be32Bytes b.ep⟩],
      slice f.offset f.bytes.length (b.bytes .big ++ l) = f.bytes := by
  simp only [List.forall_mem_cons]
  exact ⟨rfl, rfl, rfl, rfl, rfl, by simp⟩

/-- What is sent is laid out as documented. -/
theorem documented_send (e : Endian) (pdu : Frame) (h : IsCommand (pdu.header e).base.command) :
    Documented e pdu (Common.usbipHeaderCorrectEndian e pdu true) := by
  have hsent : (Common.usbipHeaderCorrectEndian e pdu true).bytes =
      (pdu.header e).base.bytes .big ++ (Common.correctEndianUnion (cpuToBe32 e)
        (pdu.header e).base.command (pdu.header e).u).bytes e := by
    rw [← HeaderBasic.bytes_correctEndianBasic e]
    rfl
  unfold Documented documentedFields documentedLength
  by_cases hsubmit : (pdu.header e).base.command = cmdSubmit ∨
      (pdu.header e).base.command = retSubmit
  · have hend : ∀ f : Frame, f.bytes.drop 0x30 = [] := fun f =>
      List.drop_eq_nil_of_le (Nat.le_of_eq f.length_bytes)
    rw [if_pos hsubmit, if_pos hsubmit, hend, hend, hsent, HeaderUnion.bytes_of_submit e _ hsubmit]
    refine ⟨List.forall_mem_append.mpr ⟨slice_base _ _, ?_⟩, rfl⟩
    simp only [List.forall_mem_cons]
    refine ⟨rfl, rfl, rfl, rfl, rfl, ?_, by simp⟩
    exact List.take_length
  · have hunlink : (pdu.header e).base.command = cmdUnlink ∨
        (pdu.header e).base.command = retUnlink := by
      rcases h with h | h | h | h
      · exact absurd (Or.inl h) hsubmit
      · exact Or.inl h
      · exact absurd (Or.inr h) hsubmit
      · exact Or.inr h
    rw [if_neg hsubmit, if_neg hsubmit, hsent, HeaderUnion.bytes_of_unlink e _ hunlink]
    refine ⟨List.forall_mem_append.mpr ⟨slice_base _ _, ?_⟩, ?_⟩
    · intro f hf
      rw [List.mem_singleton.mp hf]
      rfl
    · have hpdu : pdu.bytes = (pdu.header e).base.bytes e ++ (pdu.header e).u.bytes e :=
        (Header.bytes_ofBytes e pdu.length_bytes).symm
      rw [hpdu, show 0x18 = 0x14 + 4 from rfl, ← List.drop_drop, ← List.drop_drop,
        List.drop_left' (HeaderBasic.length_bytes e _),
        List.drop_left' (HeaderBasic.length_bytes .big _)]
      rfl

/-! ## What two hosts make of a frame -/

/-- Converting back and forth changes nothing. -/
lemma cpuToBe32_be32ToCpu (e : Endian) (x : BitVec 32) : cpuToBe32 e (be32ToCpu e x) = x := by
  cases e
  · exact swab32_swab32 x
  · rfl

/-- The command as the direction of the conversion reads it. -/
def commandRead (e : Endian) (pdu : Frame) (send : Bool) : BitVec 32 :=
  if send then (pdu.header e).base.command else wordAt .big 0 pdu.bytes

/-- The command of a header that was read, in the order of the wire. -/
lemma be32ToCpu_commandRead (e : Endian) (pdu : Frame) :
    be32ToCpu e (pdu.header e).base.command = wordAt .big 0 pdu.bytes := by
  have hlen : (slice 0 4 pdu.bytes).length = 4 := length_slice (by rw [pdu.length_bytes]; decide)
  have hbytes : be32Bytes (wordAt .big 0 pdu.bytes) = slice 0 4 pdu.bytes :=
    wordBytes_wordOf .big hlen
  show be32ToCpu e (wordOf e (slice 0 4 pdu.bytes)) = _
  rw [← hbytes, be32ToCpu_wordOf]

/-- What is received is what is sent again. -/
lemma correctEndianSend_correctEndianRecv (e : Endian) (h : Header) :
    correctEndianSend e (correctEndianRecv e h) = h := by
  have hbase : Common.correctEndianBasic (cpuToBe32 e)
      (Common.correctEndianBasic (be32ToCpu e) h.base) = h.base := by
    simp [Common.correctEndianBasic, cpuToBe32_be32ToCpu]
  unfold correctEndianRecv correctEndianSend
  simp only [hbase]
  unfold Common.correctEndianUnion
  split_ifs <;> simp [cpuToBe32_be32ToCpu]

/-- A header of no known command keeps its union. -/
lemma correctEndianUnion_of_unknown (f : BitVec 32 → BitVec 32) {cmd : BitVec 32}
    (u : HeaderUnion) (h : ¬ IsCommand cmd) : Common.correctEndianUnion f cmd u = u := by
  unfold Common.correctEndianUnion
  split_ifs with hsubmit hunlink
  · exact absurd (hsubmit.elim Or.inl fun h => Or.inr (Or.inr (Or.inl h))) h
  · exact absurd (Or.inr (hunlink.imp id fun h => Or.inr h)) h
  · rfl

/-- What a peer unpacks is what was packed, whatever the byte orders of the two hosts. -/
lemma header_received (e e' : Endian) (pdu : Frame) (urb : Urb) {cmd : BitVec 32}
    (hcmd : (pdu.header e).base.command = cmd) (h : cmd = cmdSubmit ∨ cmd = retSubmit) :
    ((Common.usbipHeaderCorrectEndian e' (Common.usbipHeaderCorrectEndian e
      (usbipPackPdu e pdu urb cmd) true) false).header e').u =
      packPdu cmd urb (pdu.header e).u := by
  have hclean : Header.Clean ⟨(pdu.header e).base, packPdu cmd urb (pdu.header e).u⟩ := by
    refine ⟨?_, Or.inl (hcmd ▸ h)⟩
    rw [setup_packPdu]
    exact pdu.length_setup e
  have hsent : (Common.usbipHeaderCorrectEndian e (usbipPackPdu e pdu urb cmd) true).bytes =
      Header.wire ⟨(pdu.header e).base, packPdu cmd urb (pdu.header e).u⟩ := by
    have hheader : (usbipPackPdu e pdu urb cmd).header e =
        ⟨(pdu.header e).base, packPdu cmd urb (pdu.header e).u⟩ := Frame.header_ofHeader e _
    rw [← Header.bytes_correctEndianSend e hclean, ← hheader]
    rfl
  rw [header_usbipHeaderCorrectEndian, if_neg (by decide), Frame.header, hsent,
    correctEndianRecv_ofBytes_wire e' hclean]

/-- The codec of a header: the two directions undo each other, a frame sent is as documented, an
unknown command has only its base converted, a peer unpacks what was packed, and the libusb stub
does the same as the kernel. -/
theorem header_codec (e e' : Endian) :
    (∀ pdu : Frame, IsCommand (pdu.header e).base.command →
      Common.usbipHeaderCorrectEndian e (Common.usbipHeaderCorrectEndian e pdu true) false =
        pdu) ∧
    (∀ pdu : Frame, IsCommand (wordAt .big 0 pdu.bytes) →
      Common.usbipHeaderCorrectEndian e (Common.usbipHeaderCorrectEndian e pdu false) true =
        pdu) ∧
    (∀ pdu : Frame, IsCommand (pdu.header e).base.command →
      Documented e pdu (Common.usbipHeaderCorrectEndian e pdu true)) ∧
    (∀ (pdu : Frame) (send : Bool), ¬ IsCommand (commandRead e pdu send) →
      (Common.usbipHeaderCorrectEndian e pdu send).header e =
        ⟨correctEndianBasic e send (pdu.header e).base, (pdu.header e).u⟩) ∧
    (∀ (pdu : Frame) (urb peer : Urb), (pdu.header e).base.command = cmdSubmit →
      unpackPdu cmdSubmit ((Common.usbipHeaderCorrectEndian e' (Common.usbipHeaderCorrectEndian e
        (usbipPackPdu e pdu urb cmdSubmit) true) false).header e').u peer =
        { peer with
          transferFlags := urb.transferFlags &&& ~~~urbNoTransferDmaMap
          transferBufferLength := urb.transferBufferLength
          startFrame := urb.startFrame
          numberOfPackets := urb.numberOfPackets
          interval := urb.interval }) ∧
    (∀ (pdu : Frame) (urb peer : Urb), (pdu.header e).base.command = retSubmit →
      unpackPdu retSubmit ((Common.usbipHeaderCorrectEndian e' (Common.usbipHeaderCorrectEndian e
        (usbipPackPdu e pdu urb retSubmit) true) false).header e').u peer =
        { peer with
          status := urb.status
          actualLength := urb.actualLength
          startFrame := urb.startFrame
          numberOfPackets := urb.numberOfPackets
          errorCount := urb.errorCount }) ∧
    (∀ (pdu : Frame) (send : Bool),
      usbipHeaderCorrectEndian e send pdu =
        (Common.usbipHeaderCorrectEndian e pdu send).bytes) := by
  refine ⟨fun pdu _ => ?_, fun pdu _ => ?_, documented_send e, fun pdu send h => ?_,
    fun pdu urb peer h => ?_, fun pdu urb peer h => ?_,
    fun pdu send => bytes_usbipHeaderCorrectEndian e send pdu⟩
  · apply Frame.ext_header
    rw [header_usbipHeaderCorrectEndian, header_usbipHeaderCorrectEndian, if_pos rfl,
      if_neg (by decide), correctEndianRecv_correctEndianSend]
  · apply Frame.ext_header
    rw [header_usbipHeaderCorrectEndian, header_usbipHeaderCorrectEndian, if_pos rfl,
      if_neg (by decide), correctEndianSend_correctEndianRecv]
  · rw [header_usbipHeaderCorrectEndian]
    cases send
    · have hcmd : ¬ IsCommand (be32ToCpu e (pdu.header e).base.command) := by
        rwa [be32ToCpu_commandRead]
      exact congrArg (Header.mk _) (correctEndianUnion_of_unknown (be32ToCpu e) (pdu.header e).u hcmd)
    · exact congrArg (Header.mk _) (correctEndianUnion_of_unknown (cpuToBe32 e) (pdu.header e).u h)
  · rw [header_received e e' pdu urb h (Or.inl rfl)]
    rfl
  · rw [header_received e e' pdu urb h (Or.inr rfl)]
    rfl

/-- A CMD_SUBMIT of a GET_DESCRIPTOR in the memory of a little-endian host. -/
def submitFrame : Frame :=
  ⟨[1, 0, 0, 0, 7, 0, 0, 0] ++ List.replicate 32 0 ++ [0x80, 6, 0, 1, 0, 0, 18, 0], rfl⟩

/-- A submit through both conversions. -/
theorem header_codec_submitFrame :
    (submitFrame.header .little).base.command = cmdSubmit ∧
      Common.usbipHeaderCorrectEndian .little
        (Common.usbipHeaderCorrectEndian .little submitFrame true) false = submitFrame :=
  ⟨by decide, (header_codec .little .big).1 submitFrame (Or.inl (by decide))⟩

end Usbip.LibusbStub
