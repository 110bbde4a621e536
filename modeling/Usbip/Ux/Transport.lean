import Usbip.Ux.Stream

/-!
# The transport through user space is a transparent stream

With one thread on each end of each direction, user space reads what the kernel sends
(`Sending`), and the kernel receives what user space writes (`Receiving`), whatever the sizes of the
buffers and the order of the statements; the two directions share nothing.
-/

namespace Usbip.Ux

open Usbip.Core Usbip.Common

variable {h h' : Half} {d : Direction}

/-- A statement between two copies, in the middle of a call. -/
structure SameCall (h h' : Half) : Prop where
  vecs : h'.vecs = h.vecs
  rest : h'.rest = h.rest
  done : h'.done = h.done
  sum : h'.sum = h.sum
  calls : h'.calls = h.calls
  returns : h'.returns = h.returns
  copied : h'.copied = h.copied

/-! ## Reading what is sent -/

/-- The bytes that the user's thread has copied and is about to count. -/
def UserPc.ahead : UserPc → Nat
  | .addCount n => n.toNat
  | _ => 0

/-- The user's thread has found the request answered. -/
def UserPc.answering : UserPc → Bool
  | .clearReq _ _ | .setRsp _ _ => true
  | _ => false

/-- The user's thread is past its copy. -/
def UserPc.working : UserPc → Bool
  | .addCount _ | .test _ | .clearReq _ _ | .setRsp _ _ => true
  | _ => false

/-- What the kernel has sent, with what it is sending. -/
def Half.sent (h : Half) : List Byte := h.calls.flatten.flatten

/-- What of it is still to be read. -/
def Half.left (h : Half) : List Byte :=
  match h.kernel with
  | .idle => []
  | .wait | .add => h.buf.drop (h.count.toNat + h.user.ahead) ++ h.rest.tail.flatten
  | _ => h.rest.flatten

/-- A thread that is away is not ahead of the count. -/
lemma UserPc.Away.ahead {user : UserPc} (h : user.Away) : user.ahead = 0 := by
  obtain rfl | rfl | ⟨ret, rfl⟩ := h
  · rfl
  · rfl
  · rfl

/-- A thread that is away answers nothing. -/
lemma UserPc.Away.answering {user : UserPc} (h : user.Away) : user.answering = false := by
  obtain rfl | rfl | ⟨ret, rfl⟩ := h
  · rfl
  · rfl
  · rfl

/-- A thread that is away is not past a copy. -/
lemma UserPc.Away.working {user : UserPc} (h : user.Away) : user.working = false := by
  obtain rfl | rfl | ⟨ret, rfl⟩ := h
  · rfl
  · rfl
  · rfl

/-- A request is answered when it has been read to its end, and not before. -/
structure Counted (h : Half) : Prop where
  added : h.kernel = .add → h.count.toNat = h.buf.length
  answered : h.kernel = .wait → h.flags.rsp = true → h.count.toNat = h.buf.length
  answering : h.user.answering = true → h.count.toNat = h.buf.length
  posted : h.flags.req = true → h.user.working = false →
    h.count = 0 ∨ h.count.toNat < h.buf.length

/-- Nothing is lost: what is sent has been copied, or is left. -/
structure Sending (h : Half) : Prop where
  vecs : h.kernel ≠ .idle → h.vecs = h.done ++ h.rest
  present : 2 ≤ h.kernel.filled → h.buf = h.rest.headD []
  sum : h.kernel ≠ .idle → h.sum = BitVec.ofNat 32 h.done.flatten.length
  calls : h.calls = h.returns.map KernelReturn.vecs ++ if h.kernel = .idle then [] else [h.vecs]
  left : h.sent = h.copied.flatten ++ h.left
  returned : ∀ r ∈ h.returns, r.ret = BitVec.ofNat 32 r.vecs.flatten.length

namespace Counted

/-- The kernel's thread is at no request. -/
lemma of_filled_lt (ht : Turns h) (hlt : h.kernel.filled < 5) : Counted h where
  added hadd := by simp [hadd, KernelPc.filled] at hlt
  answered hwait := by simp [hwait, KernelPc.filled] at hlt
  answering hans := by
    have haway : h.user.Away := ht.away fun hwait => by simp [hwait, KernelPc.filled] at hlt
    rw [haway.answering] at hans
    cases hans
  posted hreq := by simp [ht.posted hreq, KernelPc.filled] at hlt

/-- The kernel's moves keep the count of what was read. -/
theorem kernelMove (hc : Counted h) (hr : Requested h) (ht : Turns h) (hmove : KernelMove h h') :
    Counted h' := by
  have ht' := ht.kernelMove hmove
  have hagrees := ht.kernel
  cases hmove with
  | ret hpc => exact of_filled_lt ht' (Nat.succ_pos 4)
  | next hpc | setBuf hpc | setBytes hpc | setCount hpc | setError hpc | loadRsp hpc | clearRsp hpc
  | loadReq hpc | add hpc => exact of_filled_lt ht' (by simp [KernelPc.filled])
  | setReq hpc =>
      rw [hpc] at hagrees
      obtain ⟨hflags, hloaded⟩ := hagrees
      obtain rfl := hloaded _ rfl
      have haway : h.user.Away := ht.away fun hwait => absurd (hpc.symm.trans hwait) (by simp)
      refine ⟨by simp, fun _ hrsp => ?_, fun hans => ?_, fun _ _ => ?_⟩
      · simp [hflags] at hrsp
      · rw [haway.answering] at hans
        cases hans
      · exact .inl (hr.start (by rw [hpc]; rfl))
  | error hpc hrsp herror => exact absurd hr.error herror
  | wait hpc hrsp =>
      refine ⟨fun _ => hc.answered hpc hrsp, by simp, hc.answering, fun hreq => ?_⟩
      have hwait := ht'.posted hreq
      cases hwait

/-- A read answers a request that has been read to its end. -/
lemma answers_iff (hr : Requested h) (hwait : h.kernel = .wait) :
    h.answers .tx = true ↔ h.buf.length ≤ h.count.toNat := by
  have hlt : h.buf.length < 2 ^ 31 := hr.buf_lt (by simp [hwait, KernelPc.filled])
  have hbytes : h.bytes = BitVec.ofNat 32 h.buf.length :=
    hr.bytes (by simp [hwait, KernelPc.filled])
  have hbound := hr.bound (by rw [hwait]; rfl)
  have hnat : h.bytes.toNat = h.buf.length := by
    rw [hbytes, BitVec.toNat_ofNat]
    exact Nat.mod_eq_of_lt (by omega)
  simp only [Half.answers, BitVec.sle_iff_toInt_le]
  rw [BitVec.toInt_eq_toNat_of_lt (by omega), BitVec.toInt_eq_toNat_of_lt (by omega), hnat]
  exact Int.ofNat_le

/-- The user's moves keep the count of what was read. -/
theorem userMove (hc : Counted h) (hr : Requested h) (ht : Turns h) (hmove : UserMove .tx h h') :
    Counted h' := by
  have hu := ht.user
  have hagrees := ht.kernel
  cases hmove with
  | wait hpc | bytes hpc =>
      exact ⟨hc.added, hc.answered, by simp [UserPc.answering], fun hreq _ =>
        hc.posted hreq (by simp [hpc, UserPc.working])⟩
  | copy hpc =>
      exact ⟨hc.added, hc.answered, by simp [UserPc.answering], by simp [UserPc.working]⟩
  | addCount hpc =>
      rw [hpc] at hu
      rw [hu.1] at hagrees
      refine ⟨?_, ?_, by simp [UserPc.answering], by simp [UserPc.working]⟩
      · simp [hu.1]
      · simp [hagrees hu.2]
  | answered hpc hans =>
      rw [hpc] at hu
      have hbound := hr.bound (by rw [hu.1]; rfl)
      have hle := (answers_iff hr hu.1).mp hans
      refine ⟨hc.added, hc.answered, fun _ => ?_, by simp [UserPc.working]⟩
      dsimp only
      omega
  | notAnswered hpc hans =>
      rw [hpc] at hu
      refine ⟨hc.added, hc.answered, by simp [UserPc.answering], fun _ _ => .inr ?_⟩
      have hnot := (answers_iff hr hu.1).not.mp (by simp [hans])
      exact Nat.not_le.mp hnot
  | loadReq hpc | loadRsp hpc =>
      have hcount := hc.answering (by rw [hpc]; rfl)
      exact ⟨hc.added, hc.answered, fun _ => hcount, by simp [UserPc.working]⟩
  | clearReq hpc =>
      have hcount := hc.answering (by rw [hpc]; rfl)
      exact ⟨hc.added, fun _ _ => hcount, fun _ => hcount, by simp [UserPc.working]⟩
  | setRsp hpc =>
      rw [hpc] at hu
      obtain ⟨hwait, hflags, hloaded⟩ := hu
      obtain rfl := hloaded _ rfl
      have hcount := hc.answering (by rw [hpc]; rfl)
      exact ⟨hc.added, fun _ _ => hcount, by simp [UserPc.answering], by simp [hflags]⟩
  | put hpc =>
      exact ⟨hc.added, hc.answered, by simp [Half.userReturn, UserPc.answering], fun hreq _ =>
        hc.posted hreq (by simp [hpc, UserPc.working])⟩

/-- A new read has counted nothing. -/
lemma userCall (hc : Counted h) (hidle : h.user = .idle) (ubuf : List Byte) :
    Counted (h.userCall ubuf) :=
  ⟨hc.added, hc.answered, by simp [Half.userCall, UserPc.answering], fun hreq _ =>
    hc.posted hreq (by simp [hidle, UserPc.working])⟩

end Counted

namespace Sending

/-- Nothing has been sent at the start. -/
lemma init : Sending {} where
  vecs hne := absurd rfl hne
  present := by simp [KernelPc.filled]
  sum hne := absurd rfl hne
  calls := rfl
  left := rfl
  returned := by simp

/-- The kernel begins a send. -/
lemma kernelCall (hi : Sending h) (hidle : h.kernel = .idle) (vecs : List (List Byte)) :
    Sending (h.kernelCall vecs) where
  vecs _ := rfl
  present hfilled := absurd hfilled (by simp [Half.kernelCall, KernelPc.filled])
  sum _ := rfl
  calls := by
    have hcalls := hi.calls
    rw [hidle, if_pos rfl, List.append_nil] at hcalls
    simp [Half.kernelCall, hcalls]
  left := by
    have hleft := hi.left
    simp only [Half.left, hidle, List.append_nil] at hleft
    simp only [Half.sent, Half.kernelCall, Half.left, List.flatten_append, List.flatten_cons,
      List.flatten_nil, List.append_nil]
    exact congrArg (· ++ _) hleft
  returned := hi.returned

/-- A request that is being filled in: all of the present buffer is left. -/
lemma left_of_filling (hlt : h.kernel.filled < 5) (hne : h.kernel ≠ .idle) :
    h.left = h.rest.flatten := by
  unfold Half.left
  cases hpc : h.kernel with
  | idle => exact absurd hpc hne
  | wait | add => exact absurd hlt (by simp [hpc, KernelPc.filled])
  | next | setBuf | setBytes | setCount | setError | clearRsp loaded | setReq loaded => rfl

/-- A statement that fills in the request. -/
lemma fill (hi : Sending h) (hs : SameCall h h')
    (hlt : h.kernel.filled < 5) (hne : h.kernel ≠ .idle)
    (hlt' : h'.kernel.filled < 5) (hne' : h'.kernel ≠ .idle)
    (hpresent : 2 ≤ h'.kernel.filled → h'.buf = h'.rest.headD []) : Sending h' := by
  refine ⟨fun _ => ?_, hpresent, fun _ => ?_, ?_, ?_, ?_⟩
  · rw [hs.vecs, hs.done, hs.rest]
    exact hi.vecs hne
  · rw [hs.sum, hs.done]
    exact hi.sum hne
  · have hcalls := hi.calls
    rw [if_neg hne] at hcalls
    rw [if_neg hne', hs.calls, hs.returns, hs.vecs]
    exact hcalls
  · have hleft := hi.left
    rw [left_of_filling hlt hne] at hleft
    rw [left_of_filling hlt' hne', Half.sent, hs.calls, hs.copied, hs.rest]
    exact hleft
  · rw [hs.returns]
    exact hi.returned

/-- The kernel's moves lose nothing sent. -/
theorem kernelMove (hi : Sending h) (hc : Counted h) (hr : Requested h) (ht : Turns h)
    (hmove : KernelMove h h') : Sending h' := by
  have hpresent := hi.present
  have hleft := hi.left
  cases hmove with
  | ret hpc hrest =>
      have hne : h.kernel ≠ .idle := by simp [hpc]
      have hvecs := hi.vecs hne
      have hcalls := hi.calls
      rw [if_neg hne] at hcalls
      rw [hrest, List.append_nil] at hvecs
      refine ⟨fun h => absurd rfl h, ?_, fun h => absurd rfl h, ?_, ?_, ?_⟩
      · simp [Half.kernelReturn, KernelPc.filled]
      · simp [Half.kernelReturn, hcalls]
      · rw [left_of_filling (by simp [hpc, KernelPc.filled]) hne, hrest] at hleft
        exact hleft
      · intro r hmem
        simp only [Half.kernelReturn, List.mem_append, List.mem_singleton] at hmem
        obtain hmem | rfl := hmem
        · exact hi.returned r hmem
        · exact hvecs ▸ hi.sum hne
  | next hpc hne =>
      exact hi.fill ⟨rfl, rfl, rfl, rfl, rfl, rfl, rfl⟩ (by simp [hpc, KernelPc.filled])
        (by simp [hpc]) (by simp [KernelPc.filled]) (by simp) (by simp [KernelPc.filled])
  | setBuf hpc =>
      exact hi.fill ⟨rfl, rfl, rfl, rfl, rfl, rfl, rfl⟩ (by simp [hpc, KernelPc.filled])
        (by simp [hpc]) (by simp [KernelPc.filled]) (by simp) fun _ => rfl
  | setBytes hpc | setCount hpc | setError hpc | loadRsp hpc | clearRsp hpc | loadReq hpc =>
      refine hi.fill ⟨rfl, rfl, rfl, rfl, rfl, rfl, rfl⟩ (by simp [hpc, KernelPc.filled])
        (by simp [hpc]) (by simp [KernelPc.filled]) (by simp) fun _ => ?_
      exact hpresent (by simp [hpc, KernelPc.filled])
  | setReq hpc =>
      -- nothing of the present buffer has been read
      have hne : h.kernel ≠ .idle := by simp [hpc]
      have hcount : h.count = 0 := hr.start (by rw [hpc]; rfl)
      have hahead : h.user.ahead = 0 :=
        (ht.away fun hwait => absurd (hpc.symm.trans hwait) (by simp)).ahead
      have hbuf : h.buf = h.rest.headD [] := hpresent (by simp [hpc, KernelPc.filled])
      have hrest := hr.rest (by simp [hpc, KernelPc.filled])
      have hcalls := hi.calls
      rw [if_neg hne] at hcalls
      rw [left_of_filling (by simp [hpc, KernelPc.filled]) hne] at hleft
      refine ⟨fun _ => hi.vecs hne, fun _ => hbuf, fun _ => hi.sum hne, hcalls, ?_, hi.returned⟩
      obtain ⟨vec, rest, hcons⟩ := List.exists_cons_of_ne_nil hrest
      refine hleft.trans (congrArg (h.copied.flatten ++ ·) ?_)
      simp [Half.left, hcount, hahead, hbuf, hcons]
  | error hpc hrsp herror => exact absurd hr.error herror
  | wait hpc hrsp =>
      have hne : h.kernel ≠ .idle := by simp [hpc]
      have hcalls := hi.calls
      rw [if_neg hne] at hcalls
      refine ⟨fun _ => hi.vecs hne, fun _ => hpresent (by simp [hpc, KernelPc.filled]),
        fun _ => hi.sum hne, hcalls, ?_, hi.returned⟩
      simp only [Half.left, hpc] at hleft
      exact hleft
  | add hpc =>
      -- the present buffer has been read to its end
      have hne : h.kernel ≠ .idle := by simp [hpc]
      have hcount := hc.added hpc
      have hbuf : h.buf = h.rest.headD [] := hpresent (by simp [hpc, KernelPc.filled])
      have hrest := hr.rest (by simp [hpc, KernelPc.filled])
      obtain ⟨vec, rest, hcons⟩ := List.exists_cons_of_ne_nil hrest
      have hcalls := hi.calls
      rw [if_neg hne] at hcalls
      refine ⟨fun _ => ?_, by simp [KernelPc.filled], fun _ => ?_, hcalls, ?_, hi.returned⟩
      · simp [hi.vecs hne, hbuf, hcons]
      · dsimp only
        rw [hi.sum hne, List.flatten_append, List.length_append, BitVec.ofNat_add]
        simp [← hcount]
      · simp only [Half.left, hpc] at hleft
        rw [List.drop_eq_nil_of_le (by omega), List.nil_append] at hleft
        exact hleft

/-- A statement of the user's thread that neither copies nor counts. -/
lemma keepUser (hi : Sending h) {user : UserPc} {flags : Flags} {error : BitVec 32}
    {ubuf : List Byte} {returns : List UserReturn} (hahead : user.ahead = h.user.ahead) :
    Sending { h with
      user := user, flags := flags, error := error, ubuf := ubuf, userReturns := returns } := by
  refine ⟨hi.vecs, hi.present, hi.sum, hi.calls, ?_, hi.returned⟩
  have hleft := hi.left
  unfold Half.left at hleft ⊢
  dsimp only
  rw [hahead]
  exact hleft

/-- The user's moves lose nothing sent. -/
theorem userMove (hi : Sending h) (hr : Requested h) (ht : Turns h) (hmove : UserMove .tx h h') :
    Sending h' := by
  have hu := ht.user
  have hleft := hi.left
  cases hmove with
  | wait hpc | bytes hpc | answered hpc | notAnswered hpc | loadReq hpc | clearReq hpc
  | loadRsp hpc | setRsp hpc | put hpc => exact hi.keepUser (by rw [hpc]; rfl)
  | @copy n hpc =>
      rw [hpc] at hu
      refine ⟨hi.vecs, hi.present, hi.sum, hi.calls, ?_, hi.returned⟩
      simp only [Half.left, hu.1, hpc, UserPc.ahead, Nat.add_zero] at hleft
      have hdrop : h.buf.drop h.count.toNat =
          h.chunk n .tx ++ h.buf.drop (h.count.toNat + n.toNat) := by
        rw [← List.drop_drop]
        exact (List.take_append_drop n.toNat _).symm
      rw [hdrop] at hleft
      change h.sent = (h.copied ++ [h.chunk n .tx]).flatten ++ Half.left _
      rw [hleft]
      simp only [Half.left, Half.copy, hu.1, UserPc.ahead]
      simp
  | addCount hpc =>
      rw [hpc] at hu
      have hbound := hr.bound (by rw [hu.1]; rfl)
      rw [hpc] at hbound
      change _ + BitVec.toNat _ ≤ _ at hbound
      have hlt := hr.buf_lt (by simp [hu.1, KernelPc.filled])
      refine ⟨hi.vecs, hi.present, hi.sum, hi.calls, ?_, hi.returned⟩
      simp only [Half.left, hu.1, hpc, UserPc.ahead] at hleft
      simp only [Half.left, hu.1, UserPc.ahead, Nat.add_zero]
      rw [BitVec.toNat_add_of_lt (by omega)]
      exact hleft

end Sending

/-! ## Receiving what is written -/

/-- What a receive has brought: the bytes it reports, from the beginning of its buffers. -/
def KernelReturn.data (r : KernelReturn) : List Byte := r.bufs.flatten.take r.ret.toNat

/-- A receive into one buffer has returned the number of bytes that have been placed there. -/
structure Placed (r : KernelReturn) : Prop where
  one : ∃ vec, r.vecs = [vec] ∧ r.bufs = [overwrite vec 0 r.data]
  ret : r.ret.toNat = r.data.length
  small : r.ret.toNat < 2 ^ 31

/-- The present receive is into one buffer, and nothing has been placed there. -/
structure Before (h : Half) (vec : List Byte) : Prop where
  vecs : h.vecs = [vec]
  rest : h.rest = [vec]
  done : h.done = []
  sum : h.sum = 0
  buf : 2 ≤ h.kernel.filled → h.buf = vec
  copied : h.copied = h.returns.map KernelReturn.data

/-- The present receive is into one buffer, and `data` has been placed there. -/
structure After (h : Half) (vec data : List Byte) : Prop where
  vecs : h.vecs = [vec]
  rest : h.rest = [vec]
  done : h.done = []
  sum : h.sum = 0
  length : data.length ≤ vec.length
  buf : h.buf = overwrite vec 0 data
  copied : h.copied = h.returns.map KernelReturn.data ++ [data]

/-- The present receive is through with its buffer. -/
structure Received (h : Half) (vec data : List Byte) : Prop where
  vecs : h.vecs = [vec]
  rest : h.rest = []
  done : h.done = [overwrite vec 0 data]
  sum : h.sum.toNat = data.length
  length : data.length < 2 ^ 31
  copied : h.copied = h.returns.map KernelReturn.data ++ [data]

section keep

variable {user : UserPc} {flags : Flags} {error : BitVec 32} {ubuf : List Byte}
  {returns : List UserReturn} {vec data : List Byte}

/-- Before the copy the user's fields do not matter. -/
lemma Before.keep (hb : Before h vec) :
    Before { h with
      user := user, flags := flags, error := error, ubuf := ubuf, userReturns := returns } vec :=
  ⟨hb.vecs, hb.rest, hb.done, hb.sum, hb.buf, hb.copied⟩

/-- Behind the copy the user's fields do not matter. -/
lemma After.keep (ha : After h vec data) :
    After { h with
      user := user, flags := flags, error := error, ubuf := ubuf, userReturns := returns } vec data :=
  ⟨ha.vecs, ha.rest, ha.done, ha.sum, ha.length, ha.buf, ha.copied⟩

/-- Once it is received the user's fields do not matter. -/
lemma Received.keep (hr : Received h vec data) :
    Received { h with
      user := user, flags := flags, error := error, ubuf := ubuf, userReturns := returns } vec data :=
  ⟨hr.vecs, hr.rest, hr.done, hr.sum, hr.length, hr.copied⟩

end keep

/-- A write has placed its bytes. -/
def Half.taken (h : Half) : Bool := h.flags.rsp || h.user.working

/-- What has been copied, according to the position of the receive. -/
def Half.PhaseAt (h : Half) : KernelPc → Prop
  | .idle => h.copied = h.returns.map KernelReturn.data
  | .next => (∃ vec, Before h vec) ∨ ∃ vec data, Received h vec data
  | .wait =>
      (h.taken = false ∧ h.count = 0 ∧ ∃ vec, Before h vec) ∨
        (h.taken = true ∧ ∃ vec data, After h vec data ∧
          h.count.toNat + h.user.ahead = data.length)
  | .add => ∃ vec data, After h vec data ∧ h.count.toNat = data.length
  | _ => ∃ vec, Before h vec

def Half.Phase (h : Half) : Prop := h.PhaseAt h.kernel

/-- Every receive brings the bytes of one write. -/
structure Receiving (h : Half) : Prop where
  phase : h.Phase
  returned : ∀ r ∈ h.returns, Placed r

/-- Overwriting a buffer from its beginning keeps its length. -/
lemma length_overwrite_zero {vec data : List Byte} (h : data.length ≤ vec.length) :
    (overwrite vec 0 data).length = vec.length := length_overwrite (by omega)

/-- What was written is at the beginning. -/
lemma take_overwrite {vec data : List Byte} : (overwrite vec 0 data).take data.length = data := by
  simp only [overwrite, List.take_zero, List.nil_append]
  exact List.take_left

namespace Receiving

/-- Nothing has been received at the start. -/
lemma init : Receiving {} := ⟨rfl, by simp⟩

/-- The kernel begins a receive into one buffer. -/
lemma kernelCall (hi : Receiving h) (hidle : h.kernel = .idle) (vec : List Byte) :
    Receiving (h.kernelCall [vec]) := by
  have hphase := hi.phase
  simp only [Half.Phase, hidle] at hphase
  have hbefore : Before (h.kernelCall [vec]) vec :=
    ⟨rfl, rfl, rfl, rfl, by simp [Half.kernelCall, KernelPc.filled], hphase⟩
  exact ⟨Or.inl ⟨vec, hbefore⟩, hi.returned⟩

/-- The kernel's moves keep what it receives. -/
theorem kernelMove (hi : Receiving h) (hr : Requested h) (ht : Turns h)
    (hmove : KernelMove h h') : Receiving h' := by
  have hphase := hi.phase
  unfold Half.Phase at hphase
  cases hmove with
  | ret hpc hrest =>
      rw [hpc] at hphase
      obtain ⟨vec, hbefore⟩ | ⟨vec, data, hreceived⟩ := hphase
      · rw [hbefore.rest] at hrest
        cases hrest
      · have hdata : KernelReturn.data ⟨h.vecs, h.done, h.sum⟩ = data := by
          simp [KernelReturn.data, hreceived.done, hreceived.sum, take_overwrite]
        refine ⟨?_, ?_⟩
        · change h.copied = (h.returns ++ [KernelReturn.mk h.vecs h.done h.sum]).map KernelReturn.data
          rw [hreceived.copied]
          simp [hdata]
        · intro r hmem
          simp only [Half.kernelReturn, List.mem_append, List.mem_singleton] at hmem
          obtain hmem | rfl := hmem
          · exact hi.returned r hmem
          · refine ⟨⟨vec, hreceived.vecs, ?_⟩, ?_, ?_⟩
            · rw [hdata]
              exact hreceived.done
            · rw [hdata]
              exact hreceived.sum
            · exact hreceived.sum ▸ hreceived.length
  | next hpc hne =>
      rw [hpc] at hphase
      obtain ⟨vec, hbefore⟩ | ⟨vec, data, hreceived⟩ := hphase
      · exact ⟨⟨vec, hbefore.vecs, hbefore.rest, hbefore.done, hbefore.sum,
          by simp [KernelPc.filled], hbefore.copied⟩, hi.returned⟩
      · exact absurd hreceived.rest hne
  | setBuf hpc =>
      rw [hpc] at hphase
      obtain ⟨vec, hbefore⟩ := hphase
      refine ⟨⟨vec, hbefore.vecs, hbefore.rest, hbefore.done, hbefore.sum, fun _ => ?_,
        hbefore.copied⟩, hi.returned⟩
      simp [hbefore.rest]
  | setBytes hpc | setCount hpc | setError hpc | loadRsp hpc | clearRsp hpc | loadReq hpc =>
      rw [hpc] at hphase
      obtain ⟨vec, hbefore⟩ := hphase
      have hbuf : h.buf = vec := hbefore.buf (by simp [hpc, KernelPc.filled])
      exact ⟨⟨vec, hbefore.vecs, hbefore.rest, hbefore.done, hbefore.sum, fun _ => hbuf,
        hbefore.copied⟩, hi.returned⟩
  | setReq hpc =>
      rw [hpc] at hphase
      obtain ⟨vec, hbefore⟩ := hphase
      have hbuf : h.buf = vec := hbefore.buf (by simp [hpc, KernelPc.filled])
      have hagrees := ht.kernel
      rw [hpc] at hagrees
      obtain ⟨hflags, hloaded⟩ := hagrees
      obtain rfl := hloaded _ rfl
      have haway : h.user.Away := ht.away fun hwait => absurd (hpc.symm.trans hwait) (by simp)
      refine ⟨.inl ⟨?_, hr.start (by rw [hpc]; rfl), vec, hbefore.vecs, hbefore.rest, hbefore.done,
        hbefore.sum, fun _ => hbuf, hbefore.copied⟩, hi.returned⟩
      simp [Half.taken, hflags, haway.working]
  | error hpc hrsp herror => exact absurd hr.error herror
  | wait hpc hrsp =>
      rw [hpc] at hphase
      have htaken : h.taken = true := by simp [Half.taken, hrsp]
      obtain ⟨hnot, _⟩ | ⟨_, vec, data, hafter, hcount⟩ := hphase
      · rw [hnot] at htaken
        cases htaken
      · rw [(ht.away fun _ => hrsp).ahead, Nat.add_zero] at hcount
        exact ⟨⟨vec, data, ⟨hafter.vecs, hafter.rest, hafter.done, hafter.sum, hafter.length,
          hafter.buf, hafter.copied⟩, hcount⟩, hi.returned⟩
  | add hpc =>
      rw [hpc] at hphase
      obtain ⟨vec, data, hafter, hcount⟩ := hphase
      have hlt : h.buf.length < 2 ^ 31 := hr.buf_lt (by simp [hpc, KernelPc.filled])
      rw [hafter.buf, length_overwrite_zero hafter.length] at hlt
      have hlength := hafter.length
      refine ⟨.inr ⟨vec, data, hafter.vecs, ?_, ?_, ?_, by omega, hafter.copied⟩, hi.returned⟩
      · simp [hafter.rest]
      · simp [hafter.done, hafter.buf]
      · simp [hafter.sum, hcount]

/-- A statement of the user's thread that neither copies nor counts. -/
lemma keepUser (hi : Receiving h) {user : UserPc} {flags : Flags} {error : BitVec 32}
    {ubuf : List Byte} {returns : List UserReturn}
    (htaken : (flags.rsp || user.working) = h.taken) (hahead : user.ahead = h.user.ahead) :
    Receiving { h with
      user := user, flags := flags, error := error, ubuf := ubuf, userReturns := returns } := by
  have hkeep : ∀ kernel, h.PhaseAt kernel →
      { h with
        user := user, flags := flags, error := error, ubuf := ubuf
        userReturns := returns }.PhaseAt kernel := by
    intro kernel hphase
    cases kernel with
    | idle => exact hphase
    | next =>
        obtain ⟨vec, hb⟩ | ⟨vec, data, hr⟩ := hphase
        · exact .inl ⟨vec, hb.keep⟩
        · exact .inr ⟨vec, data, hr.keep⟩
    | wait =>
        obtain ⟨hnot, hcount, vec, hb⟩ | ⟨hyes, vec, data, ha, hcount⟩ := hphase
        · exact .inl ⟨htaken.trans hnot, hcount, vec, hb.keep⟩
        · exact .inr ⟨htaken.trans hyes, vec, data, ha.keep, hahead.symm ▸ hcount⟩
    | add =>
        obtain ⟨vec, data, ha, hcount⟩ := hphase
        exact ⟨vec, data, ha.keep, hcount⟩
    | setBuf | setBytes | setCount | setError | clearRsp loaded | setReq loaded =>
        obtain ⟨vec, hb⟩ := hphase
        exact ⟨vec, hb.keep⟩
  exact ⟨hkeep _ hi.phase, hi.returned⟩

/-- The user's moves keep what the kernel receives. -/
theorem userMove (hi : Receiving h) (hr : Requested h) (ht : Turns h)
    (hmove : UserMove .rx h h') : Receiving h' := by
  have hu := ht.user
  have hagrees := ht.kernel
  cases hmove with
  | wait hpc | bytes hpc | answered hpc | loadReq hpc | loadRsp hpc | put hpc =>
      exact hi.keepUser (by simp [Half.taken, hpc, UserPc.working]) (by rw [hpc]; rfl)
  | notAnswered hpc hans => cases hans
  | clearReq hpc =>
      rw [hpc] at hu
      obtain rfl := hu.2.2 _ rfl
      exact hi.keepUser (by simp [Half.taken, hpc, UserPc.working]) (by rw [hpc]; rfl)
  | setRsp hpc =>
      rw [hpc] at hu
      obtain rfl := hu.2.2 _ rfl
      exact hi.keepUser (by simp [Half.taken, hpc, UserPc.working]) (by rw [hpc]; rfl)
  | @copy n hpc =>
      rw [hpc] at hu
      have hphase := hi.phase
      simp only [Half.Phase, hu.1] at hphase
      obtain ⟨_, hcount, vec, hbefore⟩ | ⟨htaken, _⟩ := hphase
      · have hbuf : h.buf = vec := hbefore.buf (by simp [hu.1, KernelPc.filled])
        have hlength := hr.length_chunk (d := .rx) hu.1 hpc
        have hbound := hr.bound (by rw [hu.1]; rfl)
        rw [hpc] at hbound
        change _ + n.toNat ≤ _ at hbound
        refine ⟨?_, hi.returned⟩
        unfold Half.Phase
        simp only [Half.copy, hu.1]
        refine .inr ⟨by simp [Half.taken, UserPc.working], vec, h.chunk n .rx, ?_, ?_⟩
        · refine ⟨hbefore.vecs, hbefore.rest, hbefore.done, hbefore.sum, ?_, ?_, ?_⟩
          · rw [hlength, ← hbuf]
            omega
          · simp [hbuf, hcount]
          · simp [hbefore.copied]
        · simp [hcount, hlength, UserPc.ahead]
      · -- neither the flag nor the position says that the bytes have been placed
        rw [hu.1] at hagrees
        simp [Half.taken, hagrees hu.2, hpc, UserPc.working] at htaken
  | @addCount n hpc =>
      rw [hpc] at hu
      have hphase := hi.phase
      simp only [Half.Phase, hu.1] at hphase
      obtain ⟨hnot, _⟩ | ⟨_, vec, data, hafter, hcount⟩ := hphase
      · simp [Half.taken, hpc, UserPc.working] at hnot
      · have hlt := hr.buf_lt (by simp [hu.1, KernelPc.filled])
        have hbound := hr.bound (by rw [hu.1]; rfl)
        rw [hpc] at hbound hcount
        change _ + n.toNat ≤ _ at hbound
        change _ + n.toNat = _ at hcount
        refine ⟨?_, hi.returned⟩
        unfold Half.Phase
        simp only [hu.1]
        refine .inr ⟨by simp [Half.taken, UserPc.working], vec, data, ?_, ?_⟩
        · exact ⟨hafter.vecs, hafter.rest, hafter.done, hafter.sum, hafter.length, hafter.buf,
            hafter.copied⟩
        · rw [BitVec.toNat_add_of_lt (by omega)]
          exact hcount

end Receiving

/-! ## The two directions together -/

/-- A linked `usbip_ux` with its four threads. -/
structure Transport where
  tx : Half := {}
  rx : Half := {}

inductive TransportAction
  | tx (a : HalfAction)
  | rx (a : HalfAction)
  deriving DecidableEq

/-- The state an action leads to. -/
def transportStep (s : Transport) : TransportAction → Option Transport
  | .tx a => (halfStep .tx s.tx a).map fun h => { s with tx := h }
  | .rx a => (halfStep .rx s.rx a).map fun h => { s with rx := h }

def transportMachine : Machine Transport TransportAction where
  init s := s = {}
  step := transportStep

/-- Nothing disturbs the threads, and a receive is into one buffer, as `usbip_recv` makes it. -/
def Quiet (_ : Transport) : TransportAction → Prop
  | .tx a => Undisturbed a
  | .rx (.kernelCall vecs) => vecs.length = 1 ∧ Undisturbed (.kernelCall vecs)
  | .rx a => Undisturbed a

instance (s : Transport) (a : TransportAction) : Decidable (Quiet s a) := by
  unfold Quiet
  split <;> infer_instance

/-- What holds of the direction that the kernel sends in. -/
structure Sends (h : Half) : Prop where
  handshake : Handshake h
  counted : Counted h
  sending : Sending h

/-- What holds of the direction that it receives in. -/
structure Receives (h : Half) : Prop where
  handshake : Handshake h
  receiving : Receiving h

/-- Every statement keeps the sending direction. -/
theorem Sends.step (hi : Sends h) {a : HalfAction} (hok : Undisturbed a)
    (hstep : halfStep .tx h a = some h') : Sends h' := by
  obtain ⟨hh, hc, hs⟩ := hi
  cases a with
  | kernelCall vecs =>
      simp only [halfStep, Option.ite_none_right_eq_some] at hstep
      obtain ⟨hidle, hstep⟩ := hstep
      obtain rfl := Option.some.inj hstep
      have hh' := hh.kernelCall hidle hok
      exact ⟨hh', Counted.of_filled_lt hh'.turns (Nat.succ_pos 4), hs.kernelCall hidle vecs⟩
  | kernel interrupted =>
      obtain rfl : interrupted = false := hok
      have hmove := kernelStep_cases hstep
      exact ⟨hh.kernelMove hmove, hc.kernelMove hh.requested hh.turns hmove,
        hs.kernelMove hc hh.requested hh.turns hmove⟩
  | userCall ubuf =>
      simp only [halfStep, Option.ite_none_right_eq_some] at hstep
      obtain ⟨hidle, hstep⟩ := hstep
      obtain rfl := Option.some.inj hstep
      exact ⟨hh.userCall hidle ubuf, hc.userCall hidle ubuf, hs.keepUser (by rw [hidle]; rfl)⟩
  | user interrupted fault =>
      obtain ⟨rfl, rfl⟩ := hok
      have hmove := userStep_cases hstep
      exact ⟨hh.userMove hmove, hc.userMove hh.requested hh.turns hmove,
        hs.userMove hh.requested hh.turns hmove⟩

/-- Every statement keeps the receiving direction. -/
theorem Receives.step (hi : Receives h) {a : HalfAction} (hok : Undisturbed a)
    (hone : ∀ vecs, a = .kernelCall vecs → vecs.length = 1)
    (hstep : halfStep .rx h a = some h') : Receives h' := by
  obtain ⟨hh, hr⟩ := hi
  cases a with
  | kernelCall vecs =>
      simp only [halfStep, Option.ite_none_right_eq_some] at hstep
      obtain ⟨hidle, hstep⟩ := hstep
      obtain rfl := Option.some.inj hstep
      obtain ⟨vec, rfl⟩ := List.length_eq_one_iff.mp (hone vecs rfl)
      exact ⟨hh.kernelCall hidle hok, hr.kernelCall hidle vec⟩
  | kernel interrupted =>
      obtain rfl : interrupted = false := hok
      have hmove := kernelStep_cases hstep
      exact ⟨hh.kernelMove hmove, hr.kernelMove hh.requested hh.turns hmove⟩
  | userCall ubuf =>
      simp only [halfStep, Option.ite_none_right_eq_some] at hstep
      obtain ⟨hidle, hstep⟩ := hstep
      obtain rfl := Option.some.inj hstep
      have htaken : (h.flags.rsp || UserPc.working .wait) = h.taken := by
        simp [Half.taken, hidle, UserPc.working]
      exact ⟨hh.userCall hidle ubuf, hr.keepUser htaken (by rw [hidle]; rfl)⟩
  | user interrupted fault =>
      obtain ⟨rfl, rfl⟩ := hok
      have hmove := userStep_cases hstep
      exact ⟨hh.userMove hmove, hr.userMove hh.requested hh.turns hmove⟩

/-- Both directions hold in every state reached. -/
theorem reach_sends_receives {s : Transport} (h : transportMachine.Reach Quiet s) :
    Sends s.tx ∧ Receives s.rx := by
  refine h.invariant (I := fun s => Sends s.tx ∧ Receives s.rx) ?_ ?_
  · rintro s rfl
    exact ⟨⟨Handshake.init, Counted.of_filled_lt Handshake.init.turns (Nat.succ_pos 4), .init⟩,
      Handshake.init, .init⟩
  · intro s a s' hi hok hstep
    cases a with
    | tx a =>
        obtain ⟨h', hhalf, rfl⟩ := Option.map_eq_some_iff.mp hstep
        exact ⟨hi.1.step hok hhalf, hi.2⟩
    | rx a =>
        obtain ⟨h', hhalf, rfl⟩ := Option.map_eq_some_iff.mp hstep
        refine ⟨hi.1, hi.2.step ?_ ?_ hhalf⟩
        · cases a with
          | kernelCall vecs => exact hok.2
          | kernel interrupted | userCall ubuf | user interrupted fault => exact hok
        · rintro vecs rfl
          exact hok.1

/-! ## Transparency -/

/-- The user's calls report what they have copied: the bytes the first ones have returned are what
has been copied, but for the call in progress. -/
structure Reports (h : Half) : Prop where
  data : h.userReturns.map UserReturn.data <+: h.copied
  all : h.user = .idle → h.userReturns.map UserReturn.data = h.copied
  ret : ∀ r ∈ h.userReturns, r.ret.toInt = r.data.length

/-- The buffers of the present send that no read has answered: a read that comes to the end of a
buffer sets the response. -/
def Half.unread (h : Half) : List (List Byte) :=
  match h.kernel with
  | .idle => []
  | .wait => if h.flags.rsp then h.rest.tail else h.rest
  | .add => h.rest.tail
  | _ => h.rest

/-- The present send returns its full size by statements of its own. -/
def Half.Returns (h : Half) : Prop :=
  ∃ h', Relation.ReflTransGen (fun h₁ h₂ => usbipUxSendmsg false h₁ = some h₂) h h' ∧
    h'.kernel = .idle ∧
    h'.returns = h.returns ++ [⟨h.vecs, h.vecs, BitVec.ofNat 32 h.vecs.flatten.length⟩]

/-- The user's side reads what the kernel sends. -/
structure ReadsSent (h : Half) : Prop where
  /-- The bytes read are the first of those sent. -/
  read : h.copied.flatten <+: h.sent
  /-- Between two sends, they are all of them. -/
  all : h.kernel = .idle → h.copied.flatten = h.sent
  /-- A send that has returned has returned its full size, as an `int`. -/
  full : ∀ r ∈ h.returns, r.ret = BitVec.ofNat 32 r.vecs.flatten.length
  /-- All the bytes of the sends that have returned have been read. -/
  returned : (h.returns.map KernelReturn.vecs).flatten.flatten <+: h.copied.flatten
  /-- When all the bytes have been read, only empty buffers of the present send are unread. -/
  unread : h.user = .idle → h.copied.flatten = h.sent → ∀ vec ∈ h.unread, vec = []
  /-- A send in progress returns its full size without another read exactly when all its buffers
  have been read. -/
  returns : h.kernel ≠ .idle → (h.Returns ↔ h.unread = [])

/-- The kernel receives what the user's side writes. -/
structure ReceivesWritten (h : Half) : Prop where
  /-- What the receives have brought is what the first writes have brought, one by one. -/
  data : h.returns.map KernelReturn.data <+: h.copied
  /-- Between two receives, it is all of it. -/
  all : h.kernel = .idle → h.returns.map KernelReturn.data = h.copied
  /-- A receive has returned the number of bytes that have been placed in its buffer, the rest of
  which is as it was. -/
  placed : ∀ r ∈ h.returns, r.ret.toInt = r.data.length ∧
    ∃ vec, r.vecs = [vec] ∧ r.bufs = [overwrite vec 0 r.data]

/-- A length that an `int` holds. -/
lemma toInt_of_lt {n : BitVec 32} (h : n.toNat < 2 ^ 31) : n.toInt = n.toNat :=
  BitVec.toInt_eq_toNat_of_lt (by omega)

/-- What the calls have returned is reported. -/
lemma Served.reports (hs : Served h) : Reports h where
  data := by
    rw [hs.copied]
    exact List.prefix_append _ _
  all hidle := by
    have hcopied := hs.copied
    simp only [Half.inFlight, hidle, UserPc.copied, Option.toList_none, List.map_nil,
      List.append_nil] at hcopied
    exact hcopied.symm
  ret r hmem := by
    obtain ⟨hle, hlt⟩ := hs.returned r hmem
    rw [toInt_of_lt hlt, UserReturn.data, List.length_take, Nat.min_eq_left hle]

/-- What is left to be read is of the present send. -/
lemma Sends.length_left_le (hi : Sends h) (hne : h.kernel ≠ .idle) :
    h.left.length ≤ h.vecs.flatten.length := by
  have hpresent := hi.sending.present
  have hrest := hi.handshake.requested.rest
  rw [hi.sending.vecs hne, List.flatten_append, List.length_append]
  by_cases hlt : h.kernel.filled < 5
  · rw [Sending.left_of_filling hlt hne]
    exact Nat.le_add_left _ _
  · obtain ⟨vec, rest, hcons⟩ := List.exists_cons_of_ne_nil (hrest (by omega))
    have hbuf : h.buf = vec := by simpa [hcons] using hpresent (by omega)
    have hpc : h.kernel = .wait ∨ h.kernel = .add := by
      cases hpc : h.kernel with
      | wait => exact .inl rfl
      | add => exact .inr rfl
      | idle | next | setBuf | setBytes | setCount | setError | clearRsp loaded | setReq loaded =>
          simp [hpc, KernelPc.filled] at hlt
    obtain hpc | hpc := hpc
    all_goals
      simp only [Half.left, hpc, hcons, List.tail_cons, List.length_append, List.length_drop,
        List.flatten_cons, hbuf]
      omega

/-- When a buffer that is not empty has been read to its end and the reader is away, the response is
there. -/
lemma Sends.answered (hi : Sends h) {vec : List Byte} {rest : List (List Byte)}
    (hwait : h.kernel = .wait) (hrest : h.rest = vec :: rest) (hne : vec ≠ []) (hidle : h.user = .idle)
    (hall : h.copied.flatten = h.sent) : h.flags.rsp = true := by
  have hbuf : h.buf = vec := by
    simpa [hrest] using hi.sending.present (by simp [hwait, KernelPc.filled])
  have hleft := hi.sending.left
  rw [← hall] at hleft
  have hnil : h.left = [] := List.self_eq_append_right.mp hleft
  simp only [Half.left, hwait, hidle, UserPc.ahead, Nat.add_zero, List.append_eq_nil_iff,
    List.drop_eq_nil_iff, hbuf] at hnil
  have hpos : 0 < vec.length := List.length_pos_iff.mpr hne
  have hreq : ¬ h.flags.req = true := by
    -- a request that is still there has not been read to its end
    intro hreq
    obtain hzero | hlt := hi.counted.posted hreq (by rw [hidle]; rfl)
    · have hnat : h.count.toNat = 0 := by rw [hzero]; rfl
      omega
    · rw [hbuf] at hlt
      omega
  have hflags : h.flags ≠ {} := by
    have hu := hi.handshake.turns.user
    rw [hidle] at hu
    exact hu hwait
  cases hf : h.flags with
  | mk req rsp =>
      cases rsp with
      | true => rfl
      | false =>
          rw [hf] at hreq hflags
          obtain rfl : req = false := Bool.eq_false_of_not_eq_true hreq
          exact absurd rfl hflags

/-- What is left of the bytes has the unread buffers. -/
lemma Sends.eq_nil_of_unread (hi : Sends h) (hidle : h.user = .idle)
    (hall : h.copied.flatten = h.sent) : ∀ vec ∈ h.unread, vec = [] := by
  have hleft := hi.sending.left
  rw [← hall] at hleft
  have hnil : h.left = [] := List.self_eq_append_right.mp hleft
  have htail : h.kernel = .wait ∨ h.kernel = .add → ∀ vec ∈ h.rest.tail, vec = [] := by
    intro hpc
    have hrest : h.rest.tail.flatten = [] := by
      rcases hpc with hpc | hpc
      all_goals
        simp only [Half.left, hpc, List.append_eq_nil_iff] at hnil
        exact hnil.2
    exact List.flatten_eq_nil_iff.mp hrest
  by_cases hidle' : h.kernel = .idle
  · simp [Half.unread, hidle']
  by_cases hlt : h.kernel.filled < 5
  · have hunread : h.unread = h.rest := by
      unfold Half.unread
      cases hpc : h.kernel with
      | idle => exact absurd hpc hidle'
      | wait | add => exact absurd hlt (by simp [hpc, KernelPc.filled])
      | _ => rfl
    rw [Sending.left_of_filling hlt hidle'] at hnil
    rw [hunread]
    exact List.flatten_eq_nil_iff.mp hnil
  cases hpc : h.kernel with
  | add =>
      simp only [Half.unread, hpc]
      exact htail (.inr hpc)
  | wait =>
      simp only [Half.unread, hpc]
      split
      · exact htail (.inl hpc)
      · next hrsp =>
        obtain ⟨vec, rest, hcons⟩ :=
          List.exists_cons_of_ne_nil (hi.handshake.requested.rest (by simp [hpc, KernelPc.filled]))
        have hvec : vec = [] := by
          by_contra hne
          exact hrsp (hi.answered hpc hcons hne hidle hall)
        have htail' := htail (.inl hpc)
        rw [hcons] at htail' ⊢
        simpa [hvec] using htail'
  | idle | next | setBuf | setBytes | setCount | setError | clearRsp loaded | setReq loaded =>
      simp [hpc, KernelPc.filled] at hlt

/-- A statement of the kernel's thread neither reads a buffer nor ends a send that has unread
ones. -/
lemma Sends.unread_kernelMove (hi : Sends h) (hunread : h.unread ≠ [])
    (hmove : KernelMove h h') : h'.kernel ≠ .idle ∧ h'.unread = h.unread := by
  have hagrees := hi.handshake.turns.kernel
  cases hmove with
  | ret hpc hrest => exact absurd (by simp [Half.unread, hpc, hrest]) hunread
  | error hpc hrsp herror => exact absurd hi.handshake.requested.error herror
  | setReq hpc =>
      rw [hpc] at hagrees
      obtain ⟨hflags, hloaded⟩ := hagrees
      obtain rfl := hloaded _ rfl
      simp [Half.unread, hpc, hflags]
  | wait hpc hrsp => simp [Half.unread, hpc, hrsp]
  | next hpc | setBuf hpc | setBytes hpc | setCount hpc | setError hpc | loadRsp hpc | clearRsp hpc
  | loadReq hpc | add hpc => simp [Half.unread, hpc]

/-- A send with unread buffers does not return by statements of its own. -/
lemma Sends.unread_of_returns (hi : Sends h) (hne : h.kernel ≠ .idle) (hreturns : h.Returns) :
    h.unread = [] := by
  by_contra hunread
  obtain ⟨h', hpath, hidle, -⟩ := hreturns
  have hkept : Sends h' ∧ h'.kernel ≠ .idle ∧ h'.unread ≠ [] := by
    clear hidle
    induction hpath with
    | refl => exact ⟨hi, hne, hunread⟩
    | tail _ hstep ih =>
        obtain ⟨hi₁, -, hunread₁⟩ := ih
        obtain ⟨hne₂, heq⟩ := hi₁.unread_kernelMove hunread₁ (kernelStep_cases hstep)
        exact ⟨hi₁.step (a := .kernel false) rfl hstep, hne₂, heq ▸ hunread₁⟩
  exact hkept.2.1 hidle

/-- A statement on the way to the return. -/
lemma Half.Returns.head (hstep : usbipUxSendmsg false h = some h') (hvecs : h'.vecs = h.vecs)
    (hreturns : h'.returns = h.returns) (hr : h'.Returns) : h.Returns := by
  obtain ⟨h₁, hpath, hidle, hret⟩ := hr
  rw [hvecs, hreturns] at hret
  exact ⟨h₁, hpath.head hstep, hidle, hret⟩

/-- A send that is through with its buffers returns their size. -/
lemma Sends.returns_of_next (hi : Sends h) (hpc : h.kernel = .next) (hrest : h.rest = []) :
    h.Returns := by
  have hne : h.kernel ≠ .idle := by simp [hpc]
  have hvecs := hi.sending.vecs hne
  have hsum := hi.sending.sum hne
  rw [hrest, List.append_nil] at hvecs
  refine ⟨h.kernelReturn h.sum, .single ?_, rfl, ?_⟩
  · simp [usbipUxSendmsg, kernelStep, hpc, hrest]
  · simp [Half.kernelReturn, hsum, hvecs]

/-- At the end of the last buffer the send returns. -/
lemma Sends.returns_of_add (hi : Sends h) (hpc : h.kernel = .add) (hrest : h.rest.tail = []) :
    h.Returns := by
  have hstep : usbipUxSendmsg false h = some { h with
      sum := h.sum + h.count, done := h.done ++ [h.buf], rest := h.rest.tail, kernel := .next } := by
    simp [usbipUxSendmsg, kernelStep, hpc]
  have hi' := hi.step (a := .kernel false) rfl hstep
  exact (hi'.returns_of_next rfl hrest).head hstep rfl rfl

/-- With the last response set the send returns. -/
lemma Sends.returns_of_wait (hi : Sends h) (hpc : h.kernel = .wait) (hrsp : h.flags.rsp = true)
    (hrest : h.rest.tail = []) : h.Returns := by
  have herror : h.error = 0 := hi.handshake.requested.error
  have hstep : usbipUxSendmsg false h = some { h with kernel := .add } := by
    simp [usbipUxSendmsg, kernelStep, hpc, hrsp, herror]
  have hi' := hi.step (a := .kernel false) rfl hstep
  exact (hi'.returns_of_add rfl hrest).head hstep rfl rfl

/-- A send whose buffers have all been read is about to return. -/
lemma Sends.returns_of_unread (hi : Sends h) (hne : h.kernel ≠ .idle) (hunread : h.unread = []) :
    h.Returns := by
  have hrest := hi.handshake.requested.rest
  cases hpc : h.kernel with
  | idle => exact absurd hpc hne
  | next => exact hi.returns_of_next hpc (by simpa [Half.unread, hpc] using hunread)
  | add => exact hi.returns_of_add hpc (by simpa [Half.unread, hpc] using hunread)
  | wait =>
      simp only [Half.unread, hpc] at hunread
      split at hunread
      · next hrsp => exact hi.returns_of_wait hpc hrsp hunread
      · exact absurd hunread (hrest (by simp [hpc, KernelPc.filled]))
  | setBuf | setBytes | setCount | setError | clearRsp loaded | setReq loaded =>
      refine absurd ?_ (hrest (by simp [hpc, KernelPc.filled]))
      simpa [Half.unread, hpc] using hunread

/-- The user's side reads what is sent. -/
lemma Sends.readsSent (hi : Sends h) : ReadsSent h where
  read := by
    rw [hi.sending.left]
    exact List.prefix_append _ _
  all hidle := by
    have hleft := hi.sending.left
    simp only [Half.left, hidle, List.append_nil] at hleft
    exact hleft.symm
  full := hi.sending.returned
  returned := by
    have hleft := hi.sending.left
    have hcalls := hi.sending.calls
    by_cases hidle : h.kernel = .idle
    · rw [if_pos hidle, List.append_nil] at hcalls
      simp only [Half.left, hidle, List.append_nil] at hleft
      rw [← hcalls, ← hleft]
      exact List.prefix_rfl
    · rw [if_neg hidle] at hcalls
      have hsent : h.sent =
          (h.returns.map KernelReturn.vecs).flatten.flatten ++ h.vecs.flatten := by
        simp [Half.sent, hcalls]
      have hlength := congrArg List.length (hsent.symm.trans hleft)
      simp only [List.length_append] at hlength
      have hle := hi.length_left_le hidle
      have hearlier : (h.returns.map KernelReturn.vecs).flatten.flatten <+: h.sent :=
        hsent ▸ List.prefix_append _ _
      have hcopied : h.copied.flatten <+: h.sent := hleft ▸ List.prefix_append _ _
      exact List.prefix_of_prefix_length_le hearlier hcopied (by omega)
  unread := hi.eq_nil_of_unread
  returns hne := ⟨hi.unread_of_returns hne, hi.returns_of_unread hne⟩

/-- The kernel receives what is written. -/
lemma Receives.receivesWritten (hi : Receives h) : ReceivesWritten h where
  data := by
    have hphase := hi.receiving.phase
    unfold Half.Phase at hphase
    cases hpc : h.kernel with
    | idle =>
        rw [hpc] at hphase
        exact hphase ▸ List.prefix_rfl
    | next =>
        rw [hpc] at hphase
        obtain ⟨vec, hb⟩ | ⟨vec, data, hr⟩ := hphase
        · exact hb.copied ▸ List.prefix_rfl
        · exact hr.copied ▸ List.prefix_append _ _
    | wait =>
        rw [hpc] at hphase
        obtain ⟨_, _, vec, hb⟩ | ⟨_, vec, data, ha, _⟩ := hphase
        · exact hb.copied ▸ List.prefix_rfl
        · exact ha.copied ▸ List.prefix_append _ _
    | add =>
        rw [hpc] at hphase
        obtain ⟨vec, data, ha, _⟩ := hphase
        exact ha.copied ▸ List.prefix_append _ _
    | setBuf | setBytes | setCount | setError | clearRsp loaded | setReq loaded =>
        rw [hpc] at hphase
        obtain ⟨vec, hb⟩ := hphase
        exact hb.copied ▸ List.prefix_rfl
  all hidle := by
    have hphase := hi.receiving.phase
    rw [Half.Phase, hidle] at hphase
    exact hphase.symm
  placed r hmem := by
    have hplaced := hi.receiving.returned r hmem
    refine ⟨?_, hplaced.one⟩
    rw [toInt_of_lt hplaced.small, hplaced.ret]

/-- A linked `usbip_ux` whose threads nothing disturbs is a transparent stream in both directions,
in every state that any sequence of calls and any order of the threads' statements lead to. -/
theorem transport_transparent {s : Transport} (h : transportMachine.Reach Quiet s) :
    ReadsSent s.tx ∧ Reports s.tx ∧ ReceivesWritten s.rx ∧ Reports s.rx := by
  obtain ⟨htx, hrx⟩ := reach_sends_receives h
  exact ⟨htx.readsSent, htx.handshake.served.reports, hrx.receivesWritten,
    hrx.handshake.served.reports⟩

/-- A send of two buffers, one of them empty, is read in three pieces, and a receive of up to four
bytes gets the two of a write. -/
def pieceRun : List TransportAction :=
  List.flatten [
    [.tx (.kernelCall [[1, 2, 3], []])], List.replicate 9 (.tx (.kernel false)),
    [.tx (.userCall [0, 0])], List.replicate 6 (.tx (.user false false)),
    [.rx (.kernelCall [[0, 0, 0, 0]])], List.replicate 9 (.rx (.kernel false)),
    [.tx (.userCall [0, 0])], List.replicate 10 (.tx (.user false false)),
    List.replicate 11 (.tx (.kernel false)),
    [.rx (.userCall [7, 8])], List.replicate 10 (.rx (.user false false)),
    [.tx (.userCall [0])], List.replicate 10 (.tx (.user false false)),
    List.replicate 3 (.rx (.kernel false)), List.replicate 3 (.tx (.kernel false))]

/-- Three bytes read in two pieces, and a receive. -/
theorem transport_transparent_pieceRun :
    ∃ s : Transport, transportMachine.Reach Quiet s ∧
      (s.tx.returns.map KernelReturn.ret = [3] ∧
        s.tx.userReturns.map UserReturn.data = [[1, 2], [3], []] ∧
        s.rx.returns = [⟨[[0, 0, 0, 0]], [[7, 8, 0, 0]], 2⟩]) ∧
      ReadsSent s.tx ∧ Reports s.tx ∧ ReceivesWritten s.rx ∧ Reports s.rx := by
  have hrun : ∃ s : Transport, transportMachine.Reach Quiet s ∧
      (s.tx.returns.map KernelReturn.ret = [3] ∧
        s.tx.userReturns.map UserReturn.data = [[1, 2], [3], []] ∧
        s.rx.returns = [⟨[[0, 0, 0, 0]], [[7, 8, 0, 0]], 2⟩]) :=
    Machine.Reach.of_perform (M := transportMachine) pieceRun (s := {}) rfl (by decide +kernel)
  obtain ⟨s, h, hs⟩ := hrun
  exact ⟨s, h, hs, transport_transparent h⟩

/-- A send of two buffers, the last of them empty: the first one has been read. -/
def emptyBufferRun : List TransportAction :=
  List.flatten [
    [.tx (.kernelCall [[1, 2, 3], []])], List.replicate 9 (.tx (.kernel false)),
    [.tx (.userCall [0, 0, 0])], List.replicate 10 (.tx (.user false false)),
    List.replicate 11 (.tx (.kernel false))]

/-- All the bytes have been read, and the send waits for another read. -/
theorem read_to_end_waits :
    ∃ s : Transport, transportMachine.Reach Quiet s ∧
      s.tx.calls = [[[1, 2, 3], []]] ∧ s.tx.copied.flatten = s.tx.sent ∧ s.tx.user = .idle ∧
      s.tx.returns = [] ∧ usbipUxSendmsg false s.tx = none :=
  Machine.Reach.of_perform (M := transportMachine) emptyBufferRun (s := {}) rfl (by decide +kernel)

end Usbip.Ux
