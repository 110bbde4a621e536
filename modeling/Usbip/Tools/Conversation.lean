import Usbip.Tools.Export
import Usbip.Tools.Listing

/-!
# Every command with every daemon

Nothing in a connection says which daemon is at its other end, and no program of the tools gives up
waiting by itself.  A command sends its whole request before it waits, and a daemon reads no more
than the request that its header announces, so that they never wait for each other, whichever they
are and whatever has failed before (`never_both_wait`).
-/

namespace Usbip.Tools.Requests

open Usbip.Core Usbip.Common

/-! ## The programs -/

/-- The commands of `usbip` that talk to another host. -/
inductive Command
  | list (host port : List Byte)
  | attach (tries : Nat) (usbipPortString host port busid : List Byte)
  | connect (host port busid : List Byte)
  | disconnect (host port busid : List Byte)

abbrev Command.Result : Command → Type
  | attach _ _ _ _ _ => Option Int
  | list _ _ | connect _ _ _ | disconnect _ _ _ => Int

def Command.run (e : Endian) : (c : Command) → Tool c.Result
  | list host port => usbipListImportableDevices e host port
  | attach tries usbipPortString host port busid =>
      usbipAttachDevice e tries usbipPortString host port busid
  | connect host port busid => usbipConnectDevice e host port busid
  | disconnect host port busid => usbipDisconnectDevice e host port busid

inductive Daemon
  | usbipd
  | usbipa (tries : Nat)

def Daemon.ops (e : Endian) : Daemon → List UsbipdRecvPduOp
  | usbipd => usbipdOps e
  | usbipa tries => usbipaOps e tries

def Daemon.run (e : Endian) (host port : List Byte) (d : Daemon) : Tool (Option Int) :=
  usbipdRecvPdu e (d.ops e) host port

/-! ## What is asked -/

/-- How many bytes follow the header of a request. -/
def bodyLength (code : BitVec 16) : Nat :=
  if code = OP_REQ_IMPORT.setWidth 16 then 32
  else if code = Exported.OP_REQ_EXPORT.setWidth 16 ∨
    code = Exported.OP_REQ_UNEXPORT.setWidth 16 then 312
  else 0

/-- A whole request. -/
def IsRequest (b : List Byte) : Prop :=
  ∃ (req : BitVec 32) (body : List Byte), b = header req 0 ++ body ∧
    body.length = bodyLength (req.setWidth 16)

/-- A program that waits only when it has sent a whole request. -/
def AsksFirst {α : Type} (p : Tool α) : Prop :=
  p.Spec fun t c => ∀ n, c = .waits n → IsRequest (sentBy t)

variable {α γ : Type} {p : Tool α} {A : HostCall → Prop}

/-- A program that first stays on its host asks first if the rest does. -/
lemma AsksFirst.of_stays_bind {f : α → Tool γ} (hp : p.Stays A) (hf : ∀ a, AsksFirst (f a)) :
    AsksFirst (p >>= f) :=
  hp.spec_bind (fun _ _ => nofun) fun a t ht => (hf a).mono fun u c hu n hc => by
    simpa [ht.sentBy] using hu n hc

/-- A program that asks first may go on without receiving. -/
lemma AsksFirst.bind_goes {f : α → Tool γ} (hp : AsksFirst p) (hf : ∀ a, (f a).Goes) :
    AsksFirst (p >>= f) :=
  Proc.Spec.bind hp (fun _ _ => nofun) (fun t n ht m hc => by
    cases hc
    exact ht n rfl) fun a _ _ => (hf a).mono fun _ _ hu n hc => absurd hc (hu n)

/-- A call before a program that goes on. -/
lemma goes_call {l : HostCall} {f : l.Answer → Tool α} (hf : ∀ r, (f r).Goes) :
    (call l >>= f).Goes :=
  Proc.Goes.bind (Proc.Stays.goes (A := fun _ => True) (.host trivial fun _ => .done _)) hf

/-- A call before a program that asks first. -/
lemma asksFirst_call {l : HostCall} {f : l.Answer → Tool α} (hf : ∀ r, AsksFirst (f r)) :
    AsksFirst (call l >>= f) :=
  .of_stays_bind (A := fun _ => True) (.host trivial fun _ => .done _) hf

/-- A program that is done waits for nothing. -/
lemma AsksFirst.done (a : α) : AsksFirst (.done a) := Proc.Spec.done nofun

/-- A request is sent whole before its reply is awaited. -/
lemma asksFirst_sendRequest (e : Endian) {req : BitVec 32} (rep : BitVec 32) (udev : UsbDevice)
    (hreq : bodyLength (req.setWidth 16) = 312) : AsksFirst (sendRequest e req rep udev) :=
  (spec_sendRequest e req rep udev).mono fun _ _ ht n hc =>
    ⟨req, udev.wire, ht.waits n hc, udev.length_wire.trans hreq.symm⟩

/-- Looking the device up waits for nothing. -/
lemma asksFirst_withDevice (busid : List Byte) (fails : Int → Bool)
    {work : UsbipExportedDevice → Tool Bool} (hwork : ∀ edev, AsksFirst (work edev)) :
    AsksFirst (withDevice busid fails work) := by
  rw [withDevice]
  refine asksFirst_call fun rc => ?_
  split_ifs
  · exact .done _
  · refine asksFirst_call fun edevs => ?_
    split_ifs
    · exact asksFirst_call fun _ => .done _
    · cases usbipGetDevice edevs.2 busid with
      | none => exact asksFirst_call fun _ => asksFirst_call fun _ => .done _
      | some edev =>
          exact (hwork edev).bind_goes fun _ => goes_call fun _ => goes_call fun _ => .done _

/-- Closing the connection receives nothing. -/
lemma goes_usbipConnClose : usbipConnClose.Goes := stays_usbipConnClose.goes

/-- `usbip connect` asks first. -/
lemma asksFirst_connect (e : Endian) (host port busid : List Byte) :
    AsksFirst (usbipConnectDevice e host port busid) := by
  rw [usbipConnectDevice]
  refine asksFirst_call fun rc => ?_
  split_ifs
  · exact .done _
  · refine .of_stays_bind (stays_usbipConnOpen host port) fun connected => ?_
    cases connected with
    | false => exact asksFirst_call fun _ => .done _
    | true =>
        rw [if_pos rfl]
        refine AsksFirst.bind_goes (asksFirst_withDevice busid _ fun edev => ?_) fun rc => ?_
        · refine (asksFirst_sendRequest e _ edev.udev (by decide)).bind_goes fun ok => ?_
          cases ok with
          | false => exact .done _
          | true =>
              refine goes_call fun rc => ?_
              split_ifs
              · exact .done _
              · exact goes_call fun _ => .done _
        · split_ifs
          · exact goes_usbipConnClose.bind fun _ => goes_call fun _ => .done _
          · refine goes_call fun transferred => ?_
            split_ifs
            · exact goes_call fun _ => goes_usbipConnClose.bind fun _ => .done _
            · exact goes_usbipConnClose.bind fun _ => .done _

/-- `usbip disconnect` asks first. -/
lemma asksFirst_disconnect (e : Endian) (host port busid : List Byte) :
    AsksFirst (usbipDisconnectDevice e host port busid) := by
  rw [usbipDisconnectDevice]
  refine .of_stays_bind (stays_usbipConnOpen host port) fun connected => ?_
  cases connected with
  | false => exact .done _
  | true =>
      rw [if_pos rfl]
      have hask := asksFirst_withDevice busid (fun rc => rc < 0) fun edev =>
        asksFirst_sendRequest e Exported.OP_REP_UNEXPORT edev.udev
          (show bodyLength (Exported.OP_REQ_UNEXPORT.setWidth 16) = 312 by decide)
      refine hask.bind_goes fun rc => goes_usbipConnClose.bind fun _ => ?_
      split_ifs
      · exact .done _
      · refine goes_call fun transferred => ?_
        split_ifs
        · exact goes_call fun _ => .done _
        · exact .done _

/-- Every command. -/
lemma asksFirst_run (e : Endian) (c : Command) : AsksFirst (c.run e) := by
  cases c with
  | list host port =>
      exact (asksFor_usbipListImportableDevices e host port).mono fun t c ht n hc =>
        ⟨OP_REQ_DEVLIST, [], by simpa using ht.2 n hc, by decide⟩
  | attach tries usbipPortString host port busid =>
      exact (spec_usbipAttachDevice e tries usbipPortString host port busid).mono
        fun t c ht n hc => ⟨OP_REQ_IMPORT, _, ht.waits n hc, length_importRequest busid⟩
  | connect host port busid => exact asksFirst_connect e host port busid
  | disconnect host port busid => exact asksFirst_disconnect e host port busid

/-! ## What is read -/

/-- `usbipd` waits for the body of an import request. -/
lemma waitsFor_recvRequestImport (e : Endian) : (recvRequestImport e).WaitsFor 32 := by
  have hcall : ∀ l : HostCall, (call l).Stays fun _ => True := fun l =>
    .host trivial fun _ => .done _
  rw [recvRequestImport]
  refine (hcall _).waitsFor_bind fun edevs => ?_
  split_ifs
  · exact (Proc.Goes.done _).waitsFor _
  · refine Proc.WaitsFor.bind_goes (.recv fun req => ?_) fun rc => goes_call fun _ => .done _
    cases req with
    | none => exact .done _
    | some req => exact (spec_replyImport e _).mono fun _ _ ht => ht.goes

/-- `usbipa` waits for the body of an export request. -/
lemma waitsFor_recvRequestExport (e : Endian) (tries : Nat) (host port : List Byte) :
    (recvRequestExport e tries host port).WaitsFor 312 := by
  refine .recv fun b => ?_
  cases b with
  | none => exact .done _
  | some b =>
      refine (stays_importDeviceStatus tries host port _).goes.bind fun status => ?_
      cases status with
      | none => exact .done _
      | some status =>
          refine (sends_usbipNetSendOpCommon e _ status).goes.bind fun ok => ?_
          cases ok with
          | false => exact .done _
          | true => exact goes_call fun _ => .done _

/-- `usbipa` waits for the body of an unexport request. -/
lemma waitsFor_recvRequestUnexport (e : Endian) (host : List Byte) :
    (recvRequestUnexport e host).WaitsFor 312 := by
  refine .recv fun b => ?_
  cases b with
  | none => exact .done _
  | some b =>
      refine (stays_unimportDevice host _).goes.bind fun status => ?_
      refine (sends_usbipNetSendOpCommon e _ status).goes.bind fun ok => ?_
      cases ok <;> exact .done _

/-- A table whose procedures wait only for the rest of their request. -/
def Fits (ops : List UsbipdRecvPduOp) : Prop :=
  ∀ op ∈ ops, ∀ proc, op.proc = some proc → ∀ host port,
    (proc host port).WaitsFor (bodyLength op.code)

/-- Each daemon waits for the body that its request has. -/
lemma fits_ops (e : Endian) (d : Daemon) : Fits (d.ops e) := by
  cases d with
  | usbipd =>
      intro op hop proc hproc host port
      simp only [Daemon.ops, usbipdOps, List.mem_cons, List.not_mem_nil, or_false] at hop
      obtain rfl | rfl | rfl | rfl | rfl := hop <;> cases hproc
      · exact Proc.Goes.waitsFor ((spec_recvRequestDevlist e).mono fun _ _ ht => ht.2.2) _
      · exact waitsFor_recvRequestImport e
  | usbipa tries =>
      intro op hop proc hproc host port
      simp only [Daemon.ops, usbipaOps, List.mem_cons, List.not_mem_nil, or_false] at hop
      obtain rfl | rfl | rfl := hop <;> cases hproc
      · exact waitsFor_recvRequestExport e tries host port
      · exact waitsFor_recvRequestUnexport e host

/-- The operation that is found is in the table and has the code. -/
lemma mem_of_findOp {ops : List UsbipdRecvPduOp} {code : BitVec 16} {op : UsbipdRecvPduOp}
    (h : findOp ops code = some op) : op ∈ ops ∧ op.code = code := by
  rw [findOp] at h
  refine ⟨(List.takeWhile_sublist _).subset (List.mem_of_find?_eq_some h), ?_⟩
  simpa using List.find?_some h

/-- It is a header that is waited for, or no more than the header that was read announces. -/
def Announced (e : Endian) (t : Trace) (n : Nat) : Prop :=
  (gotBy t = [] ∧ n ≤ 8) ∨ ∃ code, (gotBy t).length = 8 ∧
    opCode e OP_UNSPEC (gotBy t) = some code ∧ n ≤ bodyLength code

/-- `recv_pdu` waits for what was announced. -/
lemma spec_recvPdu {e : Endian} {ops : List UsbipdRecvPduOp} (hops : Fits ops)
    (host port : List Byte) :
    (recvPdu e ops host port).Spec fun t c => ∀ n, c = .waits n → Announced e t n := by
  have hdone : ∀ (t : Trace) (ret : Option Int) (n : Nat),
      Proc.Place.done ret = .waits n → Announced e t n := by
    intro t ret n hc
    cases hc
  rw [recvPdu]
  refine spec_usbipNetRecvOpCommon ?_ (fun h hh => ?_) fun b _ => .done (hdone _ _)
  · rintro n ⟨⟩
    exact .inl ⟨rfl, le_rfl⟩
  · cases hcode : opCode e OP_UNSPEC h with
    | none => exact .done (hdone _ _)
    | some code =>
        dsimp only
        cases hfind : findOp ops code with
        | none => exact .done (hdone _ _)
        | some op =>
            dsimp only
            obtain ⟨hop, rfl⟩ := mem_of_findOp hfind
            cases hproc : op.proc with
            | none => exact .done (hdone _ _)
            | some proc =>
                refine (hops op hop proc hproc host port).mono fun t c ht n hc => ?_
                obtain ⟨hgot, hn⟩ := ht n hc
                exact .inr ⟨op.code, by simp [hgot, hh], by simpa [hgot] using hcode, hn⟩

/-- The daemon waits for the header, and then for what it announces. -/
lemma spec_usbipdRecvPdu_waits {e : Endian} {ops : List UsbipdRecvPduOp} (hops : Fits ops)
    (host port : List Byte) :
    (usbipdRecvPdu e ops host port).Spec fun t c => ∀ n, c = .waits n → Announced e t n := by
  have hgoes : ∀ (t : Trace) (n : Nat), (.goes : Proc.Place (Option Int)) = .waits n →
      Announced e t n := by
    intro t n hc
    cases hc
  rw [usbipdRecvPdu]
  refine spec_call (hgoes _) fun _ => Proc.Spec.bind (spec_recvPdu hops host port)
    (fun _ _ => hgoes _) (fun t n ht m hc => ?_) fun ret t _ => ?_
  · cases hc
    simpa [Announced] using ht n rfl
  · exact Proc.Spec.mono (goes_call fun _ => .done _) fun u c hu n hc => absurd hc (hu n)

/-! ## Both together -/

/-- A daemon that waits for a request that was sent will get it. -/
lemma not_both_wait {e : Endian} {ops : List UsbipdRecvPduOp} {host port : List Byte}
    {s : Session Byte HostCall.Answer HostCall.Answer α (Option Int)} (hp : AsksFirst p)
    (hops : Fits ops) (h : Session.Reach p (usbipdRecvPdu e ops host port) s) :
    ¬ (s.left.Waits s.toLeft ∧ s.right.Waits s.toRight) := by
  rintro ⟨⟨n, next, hleft, -⟩, m, next', hright, hlt⟩
  have hcon := h.consistent
  obtain ⟨req, body, hsent, hbody⟩ := hp _ _ hcon.left n (by rw [hleft]; rfl)
  have hqueue := hcon.toRight
  rw [hsent] at hqueue
  obtain ⟨hnone, hm⟩ | ⟨code, hlen, hcode, hm⟩ :=
    spec_usbipdRecvPdu_waits hops host port _ _ hcon.right m (by rw [hright]; rfl)
  · have hlen := congrArg List.length hqueue
    rw [hnone, List.nil_append, List.length_append, length_header] at hlen
    omega
  · obtain ⟨hgot, hrest⟩ := List.append_inj hqueue.symm (hlen.trans (length_header req 0).symm)
    have hannounced : opCode e OP_UNSPEC (header req 0) = some (req.setWidth 16) :=
      opCode_header e _ _ _
    rw [hgot, hannounced] at hcode
    obtain rfl := Option.some.inj hcode
    rw [hrest, hbody] at hlt
    omega

/-- Whatever command talks to whatever daemon, in any order of their steps, wherever something has
broken off and whatever has failed on either host: they do not wait for each other. -/
theorem never_both_wait {e₁ e₂ : Endian} {c : Command} {d : Daemon} {host port : List Byte}
    {s : Session Byte HostCall.Answer HostCall.Answer c.Result (Option Int)}
    (h : Session.Reach (c.run e₁) (d.run e₂ host port) s) :
    ¬ (s.left.Waits s.toLeft ∧ s.right.Waits s.toRight) :=
  not_both_wait (asksFirst_run e₁ c) (fits_ops e₂ d) h

/-- A client that has asked, and a daemon that has not begun. -/
theorem never_both_wait_asked :
    ∃ s : Session Byte HostCall.Answer HostCall.Answer Int (Option Int),
      s.left.Waits s.toLeft ∧ ¬ (s.left.Waits s.toLeft ∧ s.right.Waits s.toRight) := by
  have hclient : Proc.Performs (willing []) (usbipListImportableDevices .little [] [])
      [.host (.connOpen [] []) true, .host .uxSetup (), .sent (header OP_REQ_DEVLIST 0)] _ :=
    (performs_usbipConnOpen rfl).bind ((performs_usbipNetSendOpCommon (.nil _)).left _)
  have hsteps : Session.Steps (willing []) (willing []) _
      { left := usbipListImportableDevices .little [] [],
        right := Daemon.usbipd.run .big [] [] } _ :=
    Session.steps_left hclient (List.append_nil _).symm
  have hnot := never_both_wait (c := .list [] []) (d := .usbipd) hsteps.reach
  exact ⟨_, ⟨8, _, rfl, by decide⟩, hnot⟩

/-- When nothing breaks off, both come to an end, and every order of their steps leads to the same
one. -/
theorem conversation_ends (e₁ e₂ : Endian) (c : Command) (d : Daemon) (host port : List Byte)
    (ans₁ ans₂ : ∀ l : HostCall, l.Answer) :
    ∃ n f, (∃ a b, f.left = .done a ∧ f.right = .done b) ∧
      ∀ m s, Session.Steps ans₁ ans₂ m { left := c.run e₁, right := d.run e₂ host port } s →
        m ≤ n ∧ Session.Steps ans₁ ans₂ (n - m) s f :=
  Session.ends (fun _ h => not_both_wait (asksFirst_run e₁ c) (fits_ops e₂ d) h) ans₁ ans₂

/-! ## The wrong daemon -/

def Command.req : Command → BitVec 32
  | list _ _ => OP_REQ_DEVLIST
  | attach _ _ _ _ _ => OP_REQ_IMPORT
  | connect _ _ _ => Exported.OP_REQ_EXPORT
  | disconnect _ _ _ => Exported.OP_REQ_UNEXPORT

/-- What a command is for on its own host. -/
def Command.Effect : Command → HostCall → Prop
  | list _ _ => fun _ => False
  | attach _ _ _ _ _ => HostCall.IsAttach
  | connect _ _ _ => HostCall.IsExport
  | disconnect _ _ _ => HostCall.IsUnbind

/-- A tool has sent part of its request at most, and without an answer has done nothing. -/
lemma Asks.effect {req rep : BitVec 32} {busid : List Byte} {t : Trace} {e : Endian}
    (h : Asks A e req rep busid t) :
    (∃ body, sentBy t <+: header req 0 ++ body) ∧
      (gotBy t = [] → Calls (fun l => ¬ A l) t) := by
  obtain ⟨hsent, -, hcalls⟩ | ⟨edevs, edev, -, -, hworks⟩ := h
  · exact ⟨⟨[], by simp [hsent]⟩, fun _ => hcalls.mono fun _ hl => hl.1⟩
  · refine ⟨⟨_, hworks.sent⟩, fun hgot => hworks.calls.resolve_right fun hgranted => ?_⟩
    exact hgranted.got_ne_nil hgot

/-- A device is bound, or given back to its driver, and what that returns. -/
inductive Binding
  | bound (busid : List Byte) (rc : Int)
  | unbound (busid : List Byte) (rc : Int)
  deriving DecidableEq

def binding : Act Byte HostCall.Answer → Option Binding
  | .host (.bindDevice busid) rc => some (.bound busid rc)
  | .host (.unbindDevice busid) rc => some (.unbound busid rc)
  | _ => none

def bindings (t : Trace) : List Binding := t.filterMap binding

/-- Nothing was bound by no action. -/
@[simp] lemma bindings_nil : bindings [] = [] := rfl

/-- What two traces bind, one after the other. -/
@[simp] lemma bindings_append (t u : Trace) : bindings (t ++ u) = bindings t ++ bindings u :=
  List.filterMap_append

/-- What one action binds, before the others. -/
@[simp] lemma bindings_cons (e : Act Byte HostCall.Answer) (t : Trace) :
    bindings (e :: t) = (binding e).toList ++ bindings t := by
  rw [bindings, List.filterMap_cons]
  cases binding e <;> rfl

/-- The calls that bind a device or give it back. -/
def HostCall.IsBinding : HostCall → Prop
  | bindDevice _ | unbindDevice _ => True
  | _ => False

/-- The calls of the connection bind nothing. -/
lemma HostCall.IsConn.not_isBinding {l : HostCall} (h : l.IsConn) : ¬ l.IsBinding := by
  cases l <;> first | exact not_false | exact absurd h not_false

/-- The calls of the lookup bind nothing. -/
lemma HostCall.IsLookup.not_isBinding {l : HostCall} (h : l.IsLookup) : ¬ l.IsBinding := by
  cases l <;> first | exact not_false | exact absurd h not_false

/-- A trace without a binding call binds nothing. -/
lemma bindings_of_calls {t : Trace} (h : Calls (fun l => ¬ l.IsBinding) t) : bindings t = [] := by
  refine List.filterMap_eq_nil_iff.mpr fun ev hev => ?_
  cases ev with
  | sent b => rfl
  | got b => rfl
  | host l r =>
      have hl := h l r hev
      cases l <;> first | rfl | exact absurd trivial hl

/-- Around the work with a device there are only calls that look it up. -/
lemma calls_withDevice (busid : List Byte) {fails : Int → Bool}
    {work : UsbipExportedDevice → Tool Bool} (hA : ∀ l : HostCall, l.IsLookup → A l)
    (hwork : ∀ edev, (work edev).Spec fun t _ => Calls A t) :
    (withDevice busid fails work).Spec fun t _ => Calls A t := by
  have hcall : ∀ (l : HostCall) (t : Trace) (r : l.Answer), l.IsLookup → Calls A t →
      Calls A (.host l r :: t) := fun l t r hl ht => (calls_host l r).mpr ⟨hA l hl, ht⟩
  rw [withDevice]
  refine spec_call calls_nil fun rc => ?_
  split_ifs
  · exact .done (hcall _ _ _ trivial calls_nil)
  · refine Proc.Spec.mono ?_ fun t _ ht => hcall _ t rc trivial ht
    refine spec_call calls_nil fun edevs => ?_
    refine Proc.Spec.mono ?_ fun t _ ht => hcall _ t edevs trivial ht
    have hclose : ∀ ret : Int, Proc.Spec (do call .driverClose; return ret : Tool Int)
        fun t _ => Calls A t := fun ret =>
      spec_call calls_nil fun _ => .done (hcall _ _ _ trivial calls_nil)
    have hend : ∀ ret : Int, Proc.Spec
        (do call .freeDeviceList; call .driverClose; return ret : Tool Int)
        fun t _ => Calls A t := fun ret =>
      spec_call calls_nil fun r => (hclose ret).mono fun t _ ht => hcall _ t r trivial ht
    split_ifs
    · exact hclose (-1)
    · cases usbipGetDevice edevs.2 busid with
      | none => exact hend (-1)
      | some edev =>
          exact Proc.Spec.bind (hwork edev) (fun _ ht => ht) (fun _ _ ht => ht) fun ok t ht =>
            (hend _).mono fun u _ hu => calls_append.mpr ⟨ht, hu⟩

/-- Exporting a device neither binds it nor gives it back, and succeeds only with a reply. -/
lemma ends_exportDevice (e : Endian) (busid : List Byte) :
    (exportDevice e busid).Ends fun t rc => bindings t = [] ∧ (0 ≤ rc → gotBy t ≠ []) := by
  have hcalls : (exportDevice e busid).Spec fun t _ => Calls (fun l => ¬ l.IsBinding) t := by
    refine calls_withDevice busid (fun l hl => hl.not_isBinding) fun edev => ?_
    have hasked : ∀ (t : Trace) (c : Proc.Place Bool),
        Asked e Exported.OP_REQ_EXPORT Exported.OP_REP_EXPORT edev.udev t c →
        Calls (fun l => ¬ l.IsBinding) t :=
      fun t c ht => ht.calls.mono fun _ hl => absurd hl not_false
    refine Proc.Spec.bind (spec_sendRequest e _ _ edev.udev) (fun t ht => hasked t _ ht)
      (fun t n ht => hasked t _ ht) fun ok t ht => ?_
    cases ok with
    | false => exact .done (by simpa using hasked t _ ht)
    | true =>
        have hcalls := hasked t _ ht
        rw [if_pos rfl]
        refine spec_call (by simpa using hcalls) fun rc => ?_
        split_ifs
        · exact .done (by simpa [HostCall.IsBinding] using hcalls)
        · exact spec_call (by simpa [HostCall.IsBinding] using hcalls) fun rc =>
            .done (by simpa [HostCall.IsBinding] using hcalls)
  intro t rc ht
  exact ⟨bindings_of_calls (hcalls t _ ht), fun hrc =>
    ((spec_exportDevice e busid t _ ht).2 rc rfl hrc).got_ne_nil⟩

/-- The device could not be bound, or it was and has been given back to its driver. -/
def RolledBack (busid : List Byte) (l : List Binding) : Prop :=
  (∃ rc, rc ≠ 0 ∧ l = [.bound busid rc]) ∨ ∃ rc, l = [.bound busid 0, .unbound busid rc]

/-- Without a reply, `usbip connect` gives the device back. -/
lemma ends_usbipConnectDevice (e : Endian) (host port busid : List Byte) :
    (usbipConnectDevice e host port busid).Ends fun t _ =>
      gotBy t = [] → RolledBack busid (bindings t) := by
  have hconn : ∀ t : Trace, Local HostCall.IsConn t → bindings t = [] := fun t ht =>
    bindings_of_calls (ht.calls.mono fun _ hl => hl.not_isBinding)
  rw [usbipConnectDevice]
  refine ends_call fun rc => ?_
  split_ifs with hrc
  · exact .done fun _ => .inl ⟨rc, hrc, by simp [binding]⟩
  · rw [not_not] at hrc
    subst hrc
    refine (stays_usbipConnOpen host port).ends.bind fun connected t ht => ?_
    cases connected with
    | false =>
        exact ends_call fun rc => .done fun _ => .inr ⟨rc, by simp [binding, hconn t ht]⟩
    | true =>
        rw [if_pos rfl]
        refine (ends_exportDevice e busid).bind fun rc u hu => ?_
        split_ifs with hneg
        · refine stays_usbipConnClose.ends.bind fun _ v hv => ends_call fun rc' => .done fun _ =>
            .inr ⟨rc', by simp [binding, hconn t ht, hu.1, hconn v hv]⟩
        · intro v ret _ hgot
          rw [gotBy_cons, gotBy_append, gotBy_append, List.append_eq_nil_iff,
            List.append_eq_nil_iff, List.append_eq_nil_iff] at hgot
          exact absurd hgot.2.2.1 (hu.2 (not_lt.mp hneg))

/-- What a command that has had no reply has done by its end, apart from what it is for. -/
def Command.Leaves : Command → Trace → Prop
  | connect _ _ busid => fun t => RolledBack busid (bindings t)
  | list _ _ | attach _ _ _ _ _ | disconnect _ _ _ => fun _ => True

/-- A command that received nothing leaves its host as the text says. -/
lemma ends_run (e : Endian) (c : Command) :
    (c.run e).Ends fun t _ => gotBy t = [] → c.Leaves t := by
  cases c with
  | connect host port busid => exact ends_usbipConnectDevice e host port busid
  | list host port | attach _ host port busid _ | disconnect host port busid =>
      exact fun _ _ _ _ => trivial

/-- No command has an effect before something of a reply has come. -/
lemma spec_run (e : Endian) (c : Command) :
    (c.run e).Spec fun t _ => (∃ body, sentBy t <+: header c.req 0 ++ body) ∧
      (gotBy t = [] → Calls (fun l => ¬ c.Effect l) t) := by
  cases c with
  | list host port =>
      exact (asksFor_usbipListImportableDevices e host port).mono fun t _ ht =>
        ⟨⟨[], ht.1.trans (List.prefix_append _ _)⟩, fun _ _ _ _ => not_false⟩
  | attach tries usbipPortString host port busid =>
      refine (spec_usbipAttachDevice e tries usbipPortString host port busid).mono fun t _ ht =>
        ⟨⟨_, ht.sent⟩, fun hgot => ht.attaches.resolve_right ?_⟩
      rintro ⟨head, b, hreply, hlen, -⟩
      rw [hreply, List.append_eq_nil_iff] at hgot
      rw [hgot.1] at hlen
      exact absurd hlen (by decide)
  | connect host port busid =>
      exact (spec_usbipConnectDevice e host port busid).mono fun t _ ht => ht.effect
  | disconnect host port busid =>
      exact (spec_usbipDisconnectDevice e host port busid).mono fun t _ ht => ht.effect

/-- A daemon that has no such request in its table. -/
lemma spec_usbipdRecvPdu_unserved {e : Endian} {ops : List UsbipdRecvPduOp} {req : BitVec 32}
    (hunserved : findOp ops (req.setWidth 16) = none) (host port body : List Byte) :
    (usbipdRecvPdu e ops host port).Spec fun t _ => gotBy t <+: header req 0 ++ body →
      sentBy t = [] ∧ Calls HostCall.IsUx t := by
  have hpdu : (recvPdu e ops host port).Spec fun t _ => gotBy t <+: header req 0 ++ body →
      sentBy t = [] ∧ Calls HostCall.IsUx t := by
    rw [recvPdu]
    refine spec_usbipNetRecvOpCommon (fun _ => by simp) (fun h hh => ?_) fun b _ =>
      .done fun _ => by simp
    by_cases hreq : h = header req 0
    · have hcode : opCode e OP_UNSPEC h = some (req.setWidth 16) := hreq ▸ opCode_header e _ _ _
      rw [hcode]
      dsimp only
      rw [hunserved]
      exact .done fun _ => by simp
    · intro t q _ hgot
      rw [gotBy_cons, Act.into_got] at hgot
      exact absurd (header_eq hh hgot).1 hreq
  rw [usbipdRecvPdu]
  refine spec_call (fun _ => by simp) fun _ => Proc.Spec.bind hpdu (fun t ht hgot => ?_)
    (fun t n ht hgot => ?_) fun ret t ht => ?_
  · simpa [HostCall.IsUx] using ht hgot
  · simpa [HostCall.IsUx] using ht hgot
  · refine Proc.Spec.mono (show Proc.Stays _ HostCall.IsUx from
      stays_call trivial fun _ => .done _) fun u c hu hgot => ?_
    rw [gotBy_cons, gotBy_append, hu.1.gotBy, List.append_nil] at hgot
    simpa [HostCall.IsUx, hu.1.sentBy, hu.1.calls] using ht hgot

/-- A command that is sent to a daemon of the other kind does not do what it is for, and the daemon
nothing at all, whatever the order of the steps; and `usbip connect`, which binds the device before
it asks for anything, has given it back to its driver when it ends. -/
theorem unserved_has_no_effect {e₁ e₂ : Endian} {c : Command} {d : Daemon} {host port : List Byte}
    {s : Session Byte HostCall.Answer HostCall.Answer c.Result (Option Int)}
    (hunserved : findOp (d.ops e₂) (c.req.setWidth 16) = none)
    (h : Session.Reach (c.run e₁) (d.run e₂ host port) s) :
    Calls (fun l => ¬ c.Effect l) s.leftTrace ∧ Calls HostCall.IsUx s.rightTrace ∧
      ∀ r, s.left = .done r → c.Leaves s.leftTrace := by
  have hcon := h.consistent
  obtain ⟨⟨body, hsent⟩, heffect⟩ := spec_run e₁ c _ _ hcon.left
  have hright : gotBy s.rightTrace <+: sentBy s.leftTrace := ⟨_, hcon.toRight.symm⟩
  obtain ⟨hnone, hcalls⟩ := spec_usbipdRecvPdu_unserved hunserved host port body _ _ hcon.right
    (hright.trans hsent)
  have hqueue := hcon.toLeft
  rw [hnone] at hqueue
  have hgot : gotBy s.leftTrace = [] := (List.append_eq_nil_iff.mp hqueue.symm).1
  exact ⟨heffect hgot, hcalls, fun r hr => ends_run e₁ c _ r (hr ▸ hcon.left) hgot⟩

/-- `usbip connect` asks a daemon that attaches nothing, and both come to an end. -/
theorem unserved_has_no_effect_connect :
    ∃ s : Session Byte HostCall.Answer HostCall.Answer Int (Option Int),
      (∃ a b, s.left = .done a ∧ s.right = .done b) ∧
      Calls (fun l => ¬ l.IsExport) s.leftTrace ∧ Calls HostCall.IsUx s.rightTrace ∧
      RolledBack [] (bindings s.leftTrace) := by
  obtain ⟨n, f, ⟨a, b, hleft, hright⟩, hsettles⟩ := conversation_ends .little .big
    (.connect [] [] []) .usbipd [] [] (willing [stick]) (willing [])
  obtain ⟨heffect, hcalls, hleaves⟩ := unserved_has_no_effect (c := .connect [] [] [])
    (d := .usbipd) rfl (hsettles 0 _ (.refl _)).2.reach
  exact ⟨f, ⟨a, b, hleft, hright⟩, heffect, hcalls, hleaves a hleft⟩

end Usbip.Tools.Requests
