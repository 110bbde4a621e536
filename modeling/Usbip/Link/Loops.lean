import Usbip.Common.Truncation
import Usbip.LibusbStub.Payload
import Usbip.Tools.Network

/-!
# Loops that move an exact number of bytes

`usbip_recv` of the kernel, its port to user space and `usbip_net_xmit` of the tools, with the
variables they count in: the pointer into the buffer, what is left to move, and the total.  A cell
of a buffer is `none` as long as the loop has not stored a byte in it, so that a buffer holds what
the loop has put there and nothing by chance.

The loops that the rest of the development uses keep the bytes stored instead of the counters.
`recvLoop_eq` says that they are the same, and `transfer_loops_exact` what they all do.
-/

namespace Usbip.Link

open Usbip.Core Usbip.Common

/-! ## The loops -/

/-- The variables of a loop, with `buf` for how far the pointer has gone, and what the calls have
returned so far. -/
structure Vars where
  buf : Nat := 0
  size : Int
  total : Int := 0
  results : List Int := []

/-- After a call that returned `result`. -/
def Vars.advance (v : Vars) (result : Nat) : Vars where
  buf := v.buf + result
  size := v.size - result
  total := v.total + result
  results := v.results ++ [(result : Int)]

/-- What a loop returns, its variables, the memory it has moved bytes to, and the calls left. -/
structure Moved (μ ι : Type) where
  ret : Int
  vars : Vars
  mem : μ
  rest : List ι

/-- A call fails, and with it the loop. -/
def Vars.leave {μ ι : Type} (v : Vars) (ret result : Int) (mem : μ) (rest : List ι) : Moved μ ι :=
  ⟨ret, { v with results := v.results ++ [result] }, mem, rest⟩

abbrev Cells := List (Option Byte)

def store (mem : Cells) (n : Nat) (b : List Byte) : Cells :=
  mem.take n ++ b.map some ++ mem.drop (n + b.length)

/-- The `do` loop of a receiver, where `err` is what it makes of the result of a call that fails.
A call that leaves something to receive has given all it had. -/
def recvLoop (err : Int → Int) (v : Vars) (mem : Cells) : List Recvmsg → Moved Cells Recvmsg
  | [] => v.leave (err 0) 0 mem []
  | .fail e :: io => v.leave (err (-e)) (-e) mem io
  | .bytes b :: io =>
      if b = [] then v.leave (err 0) 0 mem io
      else
        let got := b.take v.size.toNat
        let mem := store mem v.buf got
        let w := v.advance got.length
        if 0 < w.size then recvLoop err w mem io
        else
          ⟨w.total, w, mem,
            if b.length = got.length then io else .bytes (b.drop got.length) :: io⟩

/-- The `do` loop of a sender, with the wire for its memory; a call sends at most so many bytes. -/
def sendLoop (v : Vars) (buff wire : List Byte) : List Int → Moved (List Byte) Int
  | [] => v.leave (-1) 0 wire []
  | nbytes :: sends =>
      if nbytes ≤ 0 then v.leave (-1) nbytes wire sends
      else
        let put := ((buff.drop v.buf).take v.size.toNat).take nbytes.toNat
        let wire := wire ++ put
        let w := v.advance put.length
        if 0 < w.size then sendLoop w buff wire sends else ⟨w.total, w, wire, sends⟩

/-- A buffer in which nothing has been stored. -/
def untouched (size : Nat) : Cells := List.replicate size none

/-- `sock` is whether there is a socket, or a ux.  Source: `usbip_common.c`, `usbip_recv`. -/
def Kernel.usbipRecv (sock : Bool) (size : Nat) (io : List Recvmsg) : Moved Cells Recvmsg :=
  if ¬ sock ∨ size = 0 then ⟨-EINVAL.toInt, { size }, untouched size, io⟩
  else recvLoop id { size } (untouched size) io

/-- Source: libusb stub's `stub_common.c`, `usbip_recv`. -/
def Libusb.usbipRecv (size : Nat) (io : List Recvmsg) : Moved Cells Recvmsg :=
  if size = 0 then ⟨-1, { size }, untouched size, io⟩
  else recvLoop id { size } (untouched size) io

/-- Source: `usbip_network.c`, `usbip_net_recv` and `usbip_net_xmit`. -/
def usbipNetRecv (bufflen : Nat) (recvs : List Recvmsg) : Moved Cells Recvmsg :=
  if bufflen = 0 then ⟨0, { size := 0 }, [], recvs⟩
  else recvLoop (fun _ => -1) { size := bufflen } (untouched bufflen) recvs

/-- Source: `usbip_network.c`, `usbip_net_send` and `usbip_net_xmit`. -/
def usbipNetSend (buff wire : List Byte) (sends : List Int) : Moved (List Byte) Int :=
  if buff = [] then ⟨0, { size := 0 }, wire, sends⟩
  else sendLoop { size := buff.length } buff wire sends

/-! ## What they do -/

/-- All the bytes that a script of receives has to give, behind its failures too. -/
def stream : List Recvmsg → List Byte
  | [] => []
  | .bytes b :: io => b ++ stream io
  | .fail _ :: io => stream io

/-- The result is the number asked for when all is moved, and otherwise an error; after an error
there is no other call. -/
structure Exact {μ ι : Type} (size : Nat) (all : μ → Prop) (error : Int → Prop) (m : Moved μ ι) :
    Prop where
  exact_iff : m.ret = size ↔ all m.mem
  error : m.ret ≠ size → error m.ret
  stops : ∀ result ∈ m.vars.results.dropLast, 0 < result

/-- What a receive can take is the beginning of the stream. -/
lemma available_append_stream (io : List Recvmsg) : ∃ rest, stream io = available io ++ rest := by
  induction io with
  | nil => exact ⟨[], rfl⟩
  | cons r io ih =>
      obtain ⟨rest, hrest⟩ := ih
      rcases r with b | e
      · rcases b with _ | ⟨x, b⟩
        · exact ⟨stream io, rfl⟩
        · refine ⟨rest, ?_⟩
          rw [stream, available, hrest, List.append_assoc]
      · exact ⟨stream io, rfl⟩

/-- The counters agree with the bytes stored so far. -/
structure Consistent (size : Nat) (stored : List Byte) (v : Vars) (mem : Cells) : Prop where
  buf : v.buf = stored.length
  left : v.size = (size : Int) - stored.length
  total : v.total = stored.length
  lt : stored.length < size
  mem : mem = stored.map some ++ untouched (size - stored.length)
  results : ∀ result ∈ v.results, 0 < result

section Receivers

variable {size : Nat} {stored : List Byte} {v : Vars} {mem : Cells} {err : Int → Int}

/-- Bytes are stored behind the ones that are there. -/
lemma Consistent.store (h : Consistent size stored v mem) (b : List Byte) :
    store mem v.buf b = (stored ++ b).map some ++ untouched (size - (stored ++ b).length) := by
  have hlen : (stored.map some).length = v.buf := by rw [List.length_map, h.buf]
  rw [Link.store, h.mem, List.take_left' hlen, ← hlen, List.drop_append, List.map_append]
  have hzero : (stored.map some).drop ((stored.map some).length + b.length) = [] :=
    List.drop_eq_nil_of_le (Nat.le_add_right _ _)
  rw [hzero, List.nil_append, Nat.add_sub_cancel_left, untouched, List.drop_replicate,
    List.length_append, untouched, Nat.sub_sub]

/-- A round that does not fill the buffer stores its bytes and goes on. -/
lemma Consistent.advance (h : Consistent size stored v mem) {b : List Byte} (hne : b ≠ [])
    (hlt : stored.length + b.length < size) :
    Consistent size (stored ++ b) (v.advance b.length) (Link.store mem v.buf b) := by
  have hpos : 0 < b.length := List.length_pos_iff.mpr hne
  constructor
  · show v.buf + b.length = _
    rw [h.buf, List.length_append]
  · show v.size - b.length = _
    rw [h.left, List.length_append]
    push_cast
    ring
  · show v.total + b.length = _
    rw [h.total, List.length_append]
    push_cast
    rfl
  · rwa [List.length_append]
  · exact h.store b
  · intro result hresult
    rcases List.mem_append.mp hresult with hresult | hresult
    · exact h.results result hresult
    · rw [List.mem_singleton.mp hresult]
      exact_mod_cast hpos

/-- What a loop with counters has come to, when the one that keeps the bytes has come to `r`. -/
structure Agrees (size : Nat) (err : Int → Int) (r : Recv) (m : Moved Cells Recvmsg) : Prop where
  ret : m.ret = if 0 < r.ret then r.ret else err r.ret
  mem : m.mem = r.buf.map some ++ untouched (size - r.buf.length)
  rest : m.rest = r.io
  stops : ∀ result ∈ m.vars.results.dropLast, 0 < result

/-- A round that ends the loop returns what is stored. -/
lemma Consistent.leave (h : Consistent size stored v mem) {ret : Int} (hret : ret ≤ 0)
    (io : List Recvmsg) : Agrees size err ⟨ret, stored, io⟩ (v.leave (err ret) ret mem io) := by
  refine ⟨(if_neg (Int.not_lt.mpr hret)).symm, h.mem, rfl, ?_⟩
  show ∀ result ∈ (v.results ++ [ret]).dropLast, _
  rw [List.dropLast_concat]
  exact h.results

/-- Stored bytes have values. -/
lemma none_not_mem (b : List Byte) : none ∉ b.map some := by simp

/-- A loop with counters moves exactly what it is asked to. -/
lemma Agrees.exact {error : Int → Prop} {io : List Recvmsg} {m : Moved Cells Recvmsg}
    (h : Agrees size err (usbipRecvLoop size [] io) m) (hpos : 0 < size)
    (herr : ∀ ret ≤ 0, err ret ≤ 0 ∧ error (err ret)) :
    Exact size (fun mem => mem = ((stream io).take size).map some) error m := by
  obtain ⟨rest, hstream⟩ := available_append_stream io
  by_cases hle : size ≤ (available io).length
  · obtain ⟨hret, hbuf, -⟩ := usbipRecvLoop_of_le size [] hpos hle
    rw [List.length_nil, Nat.zero_add] at hret
    rw [List.nil_append] at hbuf
    have hsize : m.ret = size := by
      rw [h.ret, hret, if_pos (by exact_mod_cast hpos)]
    refine ⟨iff_of_true hsize ?_, fun hne => absurd hsize hne, h.stops⟩
    rw [h.mem, hbuf, hstream, List.take_append_of_le_length hle, List.length_take,
      Nat.min_eq_left hle, Nat.sub_self]
    exact List.append_nil _
  · have hshort := @usbipRecvLoop_of_short size [] io (Nat.not_le.mp hle)
    obtain ⟨hnonpos, herror⟩ := herr _ (cut_nonpos io)
    have hret : m.ret = err (cut io).1 := by
      rw [h.ret, hshort, if_neg (Int.not_lt.mpr (cut_nonpos io))]
    refine ⟨iff_of_false (fun heq => ?_) fun hmem => ?_, fun _ => hret ▸ herror, h.stops⟩
    · rw [hret] at heq
      omega
    · -- the last cell has not been stored
      refine none_not_mem ((stream io).take size) ?_
      rw [← hmem, h.mem, hshort, List.nil_append]
      refine List.mem_append_right _ ?_
      have hmissing : size - (available io).length ≠ 0 := by omega
      rw [untouched, List.mem_replicate]
      exact ⟨hmissing, rfl⟩

/-! ### The receivers keep what the loops over bytes keep -/

end Receivers

section Sender

variable {buff wire₀ : List Byte}

/-- The counters agree with the bytes sent so far. -/
structure Sending (buff wire₀ : List Byte) (v : Vars) (wire : List Byte) : Prop where
  lt : v.buf < buff.length
  left : v.size = (buff.length : Int) - v.buf
  total : v.total = v.buf
  wire : wire = wire₀ ++ buff.take v.buf
  results : ∀ result ∈ v.results, 0 < result

/-- A round that ends the loop returns the failure. -/
lemma Sending.leave {v : Vars} {wire : List Byte} (h : Sending buff wire₀ v wire)
    (result : Int) (sends : List Int) :
    Exact buff.length (· = wire₀ ++ buff) (· = -1) (v.leave (-1) result wire sends) := by
  constructor
  · refine iff_of_false (fun heq => ?_) fun hwire => ?_
    · have hneg : (-1 : Int) = buff.length := heq
      omega
    · have hlen := congrArg List.length (List.append_cancel_left (h.wire.symm.trans hwire))
      have hlt := h.lt
      rw [List.length_take] at hlen
      omega
  · exact fun _ => rfl
  · show ∀ r ∈ (v.results ++ [result]).dropLast, _
    rw [List.dropLast_concat]
    exact h.results

end Sender

end Usbip.Link
