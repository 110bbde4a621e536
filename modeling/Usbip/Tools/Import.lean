import Usbip.Tools.Requests

/-!
# Importing a device

`usbip attach` names a busid; `usbipd` looks it up in a list that it makes at that moment, exports
the device and sends it back; the client checks the name again and attaches the numbers that it was
sent.  Nothing is attached that the server has not exported before, under that name
(`attached_was_exported`), and when nothing fails the two come to that end whatever the order of
their steps (`import_completes`).  What the client has attached it tries to detach again when it
fails, except when it fails to hand the connection over (`attach_leaves`).
-/

namespace Usbip.Tools.Requests

open Usbip.Core Usbip.Common

/-! ## The client -/

/-- The calls that attach a device, with these numbers. -/
def HostCall.Attaches (udev : UsbDevice) : HostCall → Prop
  | vhciAttachDevice _ busnum devnum speed =>
      busnum = udev.busnum.setWidth 8 ∧ devnum = udev.devnum.setWidth 8 ∧ speed = udev.speed
  | _ => True

def HostCall.IsAttach : HostCall → Prop
  | vhciAttachDevice _ _ _ _ => True
  | _ => False

/-- The search for a port calls the host alone. -/
lemma stays_tryFreePorts {A : HostCall → Prop} {udev : UsbDevice} (hport : A .vhciGetFreePort)
    (hattach : ∀ port, A (.vhciAttachDevice port (udev.busnum.setWidth 8)
      (udev.devnum.setWidth 8) udev.speed)) (tries : Nat) :
    (tryFreePorts udev tries).Stays A := by
  induction tries with
  | zero => exact .done _
  | succ tries ih =>
      refine stays_call hport fun portNr => ?_
      split
      · exact .done _
      · refine stays_call (hattach portNr) fun attached => ?_
        split
        · exact .done _
        · split
          · exact .done _
          · exact ih

/-- `import_device` calls its host alone, for this device. -/
lemma stays_importDevice (tries : Nat) (host port busid : List Byte) (udev : UsbDevice) :
    (importDevice tries host port busid udev).Stays (HostCall.Attaches udev) := by
  refine stays_call trivial fun rc => ?_
  split
  · exact .done _
  · refine .bind (stays_tryFreePorts trivial (fun _ => ⟨rfl, rfl, rfl⟩) tries) fun tried => ?_
    cases tried with
    | trying => exact .done _
    | noFreePort => exact stays_call trivial fun _ => .done _
    | refused => exact stays_call trivial fun _ => .done _
    | attached portNr =>
        refine stays_call trivial fun rc => ?_
        split
        · exact stays_call trivial fun _ => stays_call trivial fun _ => .done _
        · exact stays_call trivial fun _ => .done _

/-- What `usbip attach` sends. -/
def importRequest (busid : List Byte) : List Byte :=
  header OP_REQ_IMPORT 0 ++ (strncpy busid 31 ++ [0])

/-- The device of a reply. -/
def udevOf (e : Endian) (b : {b : List Byte // b.length = 312}) : UsbDevice :=
  usbipNetPackUsbDevice e false (UsbDevice.ofBytes e b)

/-- It sends its request and nothing else, it waits only when all of it is sent, and what it
attaches is the device of a reply without an error, for the busid that was asked for. -/
structure Imports (e : Endian) (busid : List Byte) (t : Trace) {α : Type} (c : Proc.Place α) :
    Prop where
  sent : sentBy t <+: importRequest busid
  waits : ∀ n, c = .waits n → sentBy t = importRequest busid
  attaches : Calls (fun l => ¬ l.IsAttach) t ∨
    ∃ (h : List Byte) (b : {b : List Byte // b.length = 312}), gotBy t = h ++ b.1 ∧
      h.length = 8 ∧ opCode e (Exported.OP_REP_IMPORT.setWidth 16) h ≠ none ∧
      Exported.strncmpEq (udevOf e b).busid busid 32 ∧ Calls (HostCall.Attaches (udevOf e b)) t

variable {e : Endian} {busid : List Byte} {t u : Trace} {α γ : Type} {c : Proc.Place α}

/-- Other calls of the host before and after change nothing. -/
lemma Imports.surround {pre post : Trace} {c' : Proc.Place γ} (h : Imports e busid t c)
    (hpre : Local (fun l => ¬ l.IsAttach) pre) (hpost : Local (fun l => ¬ l.IsAttach) post)
    (hwaits : ∀ n, c' = .waits n → c = .waits n) :
    Imports e busid (pre ++ t ++ post) c' := by
  have hattaches : ∀ udev l, ¬ HostCall.IsAttach l → l.Attaches udev := by
    intro udev l hl
    cases l <;> first | trivial | exact absurd trivial hl
  refine ⟨?_, fun n hn => ?_, ?_⟩
  · simpa [hpre.sentBy, hpost.sentBy] using h.sent
  · simpa [hpre.sentBy, hpost.sentBy] using h.waits n (hwaits n hn)
  · obtain hnone | ⟨head, b, hgot, hlen, hcode, hbusid, hcalls⟩ := h.attaches
    · exact .inl (by simpa using ⟨hpre.calls, hnone, hpost.calls⟩)
    · refine .inr ⟨head, b, ?_, hlen, hcode, hbusid, ?_⟩
      · simpa [hpre.gotBy, hpost.gotBy] using hgot
      · simpa using ⟨hpre.calls.mono (hattaches _), hcalls, hpost.calls.mono (hattaches _)⟩

/-- Before the reply is there. -/
lemma Imports.of_calls (hcalls : Calls (fun l => ¬ l.IsAttach) t)
    (hsent : sentBy t <+: importRequest busid)
    (hwaits : ∀ n, c = .waits n → sentBy t = importRequest busid) : Imports e busid t c :=
  ⟨hsent, hwaits, .inl hcalls⟩

/-- `query_import_device` attaches only a device that was granted. -/
lemma spec_queryImportDevice (e : Endian) (tries : Nat) (host port busid : List Byte) :
    (queryImportDevice e tries host port busid).Spec fun t c => Imports e busid t c := by
  rw [queryImportDevice]
  refine spec_usbipNetSendOpCommon (.of_calls (by simp) (by simp) nofun) ?_ fun n _ => ?_
  · rw [if_pos rfl]
    refine spec_usbipNetSend (.of_calls (by simp) (by simp [importRequest]) nofun) ?_ fun n _ => ?_
    · rw [if_pos rfl]
      refine spec_usbipNetRecvOpCommon ?_ (fun h hh => ?_) fun b _ => ?_
      · exact .of_calls (by simp) (by simp [importRequest]) fun _ _ => by simp [importRequest]
      · cases hcode : opCode e (Exported.OP_REP_IMPORT.setWidth 16) h with
        | none => exact .done (.of_calls (by simp) (by simp [importRequest]) nofun)
        | some code =>
            refine spec_usbipNetRecv ?_ (fun b => ?_) fun b _ => ?_
            · exact .of_calls (by simp) (by simp [importRequest]) fun _ _ => by
                simp [importRequest]
            · dsimp only
              split_ifs with hbusid
              · refine (stays_importDevice tries host port busid (udevOf e b)).mono
                  fun u c ⟨hu, hwaits⟩ => ⟨?_, ?_, .inr ⟨h, b, ?_, hh, ?_, hbusid, ?_⟩⟩
                · simp [importRequest, hu.sentBy]
                · simp [importRequest, hu.sentBy]
                · simp [hu.gotBy]
                · simp [hcode]
                · simpa using hu.calls
              · exact .done (.of_calls (by simp) (by simp [importRequest]) nofun)
            · exact .done (.of_calls (by simp) (by simp [importRequest]) nofun)
      · exact .done (.of_calls (by simp) (by simp [importRequest]) nofun)
    · exact .done (.of_calls (by simp) (by simp [importRequest, List.take_prefix]) nofun)
  · refine .done (.of_calls (by simp) ?_ nofun)
    simpa [importRequest] using (List.take_prefix _ _).trans (List.prefix_append _ _)

/-- The calls of the connection attach nothing. -/
lemma HostCall.IsConn.not_isAttach {l : HostCall} (h : l.IsConn) : ¬ l.IsAttach := by
  cases l <;> first | exact not_false | exact absurd h not_false

/-- `usbip attach` attaches only a device that was granted. -/
lemma spec_usbipAttachDevice (e : Endian) (tries : Nat)
    (usbipPortString host port busid : List Byte) :
    (usbipAttachDevice e tries usbipPortString host port busid).Spec
      fun t c => Imports e busid t c := by
  have hopen := (stays_usbipConnOpen host usbipPortString).weaken fun _ hl => hl.not_isAttach
  have hclose := stays_usbipConnClose.weaken fun _ hl => hl.not_isAttach
  rw [usbipAttachDevice]
  refine hopen.spec_bind (fun t ht => ?_) fun connected pre hpre => ?_
  · exact .of_calls ht.calls (by simp [ht.sentBy]) nofun
  · cases connected with
    | false => exact .done (.of_calls (by simpa using hpre.calls) (by simp [hpre.sentBy]) nofun)
    | true =>
        rw [if_pos rfl]
        refine .bind (spec_queryImportDevice e tries host port busid) (fun t ht => ?_)
          (fun t n ht => ?_) fun rc t ht => ?_
        · simpa using ht.surround hpre local_nil fun _ hn => hn
        · simpa using ht.surround hpre local_nil fun _ hn => hn
        · refine Proc.Spec.mono (show Proc.Stays _ fun l => ¬ l.IsAttach from ?_)
            fun u c ⟨hu, hwaits⟩ => ?_
          · cases rc with
            | none => exact .done _
            | some rc =>
                dsimp only
                split_ifs
                · exact hclose.bind fun _ => .done _
                · exact stays_call not_false fun _ => hclose.bind fun _ => .done _
          · have hall := ht.surround hpre hu fun n hn => absurd hn (hwaits n)
            simpa only [List.append_assoc] using hall

/-! ## The server -/

/-- It says nothing but that the request failed, or it has exported the device that was found, and
says so and which one it is. -/
def Replies (edev : Option UsbipExportedDevice) (t : Trace) : Prop :=
  sentBy t <+: header Exported.OP_REP_IMPORT Exported.ST_NA ∨
    ∃ (found : UsbipExportedDevice) (rc : Int), edev = some found ∧
      .host (.exportDevice found) rc ∈ t ∧ 0 ≤ rc ∧
      sentBy t <+: header Exported.OP_REP_IMPORT ST_OK ++ found.udev.wire

/-- The calls that export no other device. -/
def HostCall.Exports (edev : Option UsbipExportedDevice) : HostCall → Prop
  | exportDevice found => edev = some found
  | _ => True

/-- What the server does after it has read a request. -/
structure Served (edev : Option UsbipExportedDevice) (t : Trace) {α : Type} (c : Proc.Place α) :
    Prop where
  replies : Replies edev t
  exports : Calls (HostCall.Exports edev) t
  got : gotBy t = []
  goes : ∀ n, c ≠ .waits n

/-- The reply grants a device that has been exported. -/
lemma spec_replyImport (e : Endian) (edev : Option UsbipExportedDevice) :
    (replyImport e edev).Spec fun t c => Served edev t c := by
  have hfailed : ∀ pre : Trace, Local (HostCall.Exports edev) pre →
      Proc.Spec (do
        let _ ← usbipNetSendOpCommon e Exported.OP_REP_IMPORT Exported.ST_NA
        pure (-1) : Tool Int) fun u c => Served edev (pre ++ u) c := by
    intro pre hpre
    refine spec_usbipNetSendOpCommon ⟨.inl ?_, ?_, ?_, nofun⟩ (.done ⟨.inl ?_, ?_, ?_, nofun⟩)
      fun n _ => .done ⟨.inl ?_, ?_, ?_, nofun⟩
    all_goals simp [hpre.sentBy, hpre.gotBy, hpre.calls, List.take_prefix]
  cases edev with
  | none => exact hfailed [] local_nil
  | some edev =>
      refine spec_call ⟨.inl (by simp), by simp, rfl, nofun⟩ fun rc => ?_
      by_cases hrc : rc < 0
      · have hpre : Local (HostCall.Exports (some edev))
            ([.host (.exportDevice edev) rc] : Trace) := local_cons rfl local_nil
        simpa [hrc] using hfailed _ hpre
      · have hserved : ∀ (u : Trace) (c : Proc.Place Int), Calls (HostCall.Exports (some edev)) u →
            gotBy u = [] → sentBy u <+: header Exported.OP_REP_IMPORT ST_OK ++ edev.udev.wire →
            (∀ n, c ≠ .waits n) → Served (some edev) (.host (.exportDevice edev) rc :: u) c :=
          fun u c hcalls hgot hsent hgoes =>
            ⟨.inr ⟨edev, rc, rfl, List.mem_cons_self, not_lt.mp hrc, hsent⟩,
              (calls_host _ _).mpr ⟨rfl, hcalls⟩, hgot, hgoes⟩
        rw [if_neg hrc]
        refine spec_usbipNetSendOpCommon (hserved _ _ ?_ ?_ ?_ nofun) ?_
          fun n _ => .done (hserved _ _ ?_ ?_ ?_ nofun)
        rotate_left 3
        · rw [if_pos rfl, UsbDevice.bytes_pack]
          refine spec_usbipNetSend (hserved _ _ ?_ ?_ ?_ nofun) ?_
            fun n _ => .done (hserved _ _ ?_ ?_ ?_ nofun)
          rotate_left 3
          · rw [if_pos rfl]
            refine spec_call (hserved _ _ ?_ ?_ ?_ nofun)
              fun rc => .done (hserved _ _ ?_ ?_ ?_ nofun)
            all_goals simp [HostCall.Exports]
          all_goals simp [List.take_prefix]
        all_goals simp
        exact (List.take_prefix _ _).trans (List.prefix_append _ _)

def HostCall.IsExport : HostCall → Prop
  | exportDevice _ => True
  | _ => False

/-- What the server does with the request for a busid: nothing, or it looks for the device in its
list, and exports and names no other. -/
def ServedImport (body : List Byte) (t : Trace) : Prop :=
  (sentBy t = [] ∧ Calls (fun l => ¬ l.IsExport) t) ∨
    ∃ edevs : Int × List UsbipExportedDevice, .host .refreshDeviceList edevs ∈ t ∧
      Replies (usbipGetDevice edevs.2 body) t ∧
      Calls (HostCall.Exports (usbipGetDevice edevs.2 body)) t

/-- What is done around it, with nothing sent or exported. -/
lemma ServedImport.surround {body : List Byte} (h : ServedImport body t) (pre : Trace)
    {post : Trace} (hsent : sentBy pre = []) (hpre : Calls (fun l => ¬ l.IsExport) pre)
    (hpost : Local (fun l => ¬ l.IsExport) post) : ServedImport body (pre ++ t ++ post) := by
  have hexports : ∀ edev l, ¬ HostCall.IsExport l → l.Exports edev := by
    intro edev l hl
    cases l <;> first | trivial | exact absurd trivial hl
  have hmem : ∀ e ∈ t, e ∈ pre ++ t ++ post := fun e he =>
    List.mem_append_left post (List.mem_append_right pre he)
  have hall : sentBy (pre ++ t ++ post) = sentBy t := by simp [hsent, hpost.sentBy]
  obtain ⟨hnone, hcalls⟩ | ⟨edevs, hrefresh, hreplies, hcalls⟩ := h
  · exact .inl ⟨hall.trans hnone, by simpa using ⟨hpre, hcalls, hpost.calls⟩⟩
  · refine .inr ⟨edevs, hmem _ hrefresh, ?_, ?_⟩
    · rw [Replies, hall]
      exact hreplies.imp_right fun ⟨found, rc, hfound, hexport, hrest⟩ =>
        ⟨found, rc, hfound, hmem _ hexport, hrest⟩
    · simpa using ⟨hpre.mono (hexports _), hcalls, hpost.calls.mono (hexports _)⟩

/-- `usbipd` grants an import only of a device it has exported. -/
lemma spec_recvRequestImport (e : Endian) :
    (recvRequestImport e).Spec fun t _ => ∀ body : List Byte, body.length = 32 →
      gotBy t <+: body → ServedImport body t := by
  rw [recvRequestImport]
  refine spec_call (fun body _ _ => .inl (by simp)) fun edevs => ?_
  split_ifs with hrc
  · exact .done fun body _ _ => .inl (by simp [HostCall.IsExport])
  · refine Proc.Spec.bind (P := fun t _ => ∀ body : List Byte, body.length = 32 →
      gotBy t <+: body → ServedImport body (.host .refreshDeviceList edevs :: t))
      ?_ (fun t ht => ht) (fun t n ht => ht) fun rc t ht => ?_
    · refine spec_usbipNetRecv (fun body _ _ => .inl (by simp [HostCall.IsExport])) (fun req => ?_)
        fun b _ => .done fun body _ _ => .inl (by simp [HostCall.IsExport])
      refine (spec_replyImport e (usbipGetDevice edevs.2 req.1)).mono
        fun u c hu body hbody hgot => ?_
      obtain rfl : req.1 = body := by
        rw [gotBy_cons, Act.into_got, hu.got, List.append_nil] at hgot
        exact hgot.eq_of_length (req.2.trans hbody.symm)
      refine .inr ⟨edevs, List.mem_cons_self, ?_, ?_⟩
      · exact hu.replies.imp (by simpa using ·) fun ⟨found, rc, hfound, hexport, hrest⟩ =>
          ⟨found, rc, hfound, by simpa using hexport, by simpa using hrest⟩
      · simpa [HostCall.Exports] using hu.exports
    · refine Proc.Spec.mono (show Proc.Stays _ fun l => ¬ l.IsExport from
        stays_call not_false fun _ => .done _) fun u c ⟨hu, _⟩ body hbody hgot => ?_
      rw [gotBy_cons, gotBy_append, hu.gotBy, List.append_nil] at hgot
      simpa using (ht body hbody hgot).surround [] rfl calls_nil hu

/-- The daemon of the devices, as far as what it reads is the request for a busid. -/
lemma spec_usbipd_import (e : Endian) (host port : List Byte) {body : List Byte}
    (hbody : body.length = 32) :
    (usbipdRecvPdu e (usbipdOps e) host port).Spec fun t _ =>
      gotBy t <+: header OP_REQ_IMPORT 0 ++ body → ServedImport body t := by
  have hux : ∀ l : HostCall, l.IsUx → ¬ l.IsExport := by
    intro l hl
    cases l <;> first | exact not_false | exact absurd hl not_false
  have hfind : findOp (usbipdOps e) (OP_REQ_IMPORT.setWidth 16) =
      some ⟨OP_REQ_IMPORT.setWidth 16, some fun _ _ => recvRequestImport e⟩ := rfl
  refine spec_usbipdRecvPdu hfind rfl ?_ ?_ ?_
  · exact fun t hsent hcalls => .inl ⟨hsent, hcalls.mono hux⟩
  · exact fun pre t post hsent hpre hpost ht =>
      ht.surround pre hsent (hpre.mono hux) (hpost.mono hux)
  · exact (spec_recvRequestImport e).mono fun t c ht hgot => ht body hbody hgot

/-- `strncpy` writes its full size. -/
lemma length_strncpy (s : List Byte) (n : Nat) : (strncpy s n).length = n := by
  rw [strncpy, List.length_append, List.length_take, List.length_replicate]
  omega

/-- The body of an import request is a bus id. -/
lemma length_importRequest (busid : List Byte) : (strncpy busid 31 ++ [0]).length = 32 := by
  rw [List.length_append, length_strncpy]
  rfl

/-! ## The busid -/

/-- `strncmp` finds no difference exactly when the strings agree so far. -/
lemma strncmpEq_iff {a b : List Byte} {n : Nat} :
    Exported.strncmpEq a b n ↔ (cString a).take n = (cString b).take n := by
  rw [Exported.strncmpEq, decide_eq_true_iff, ← List.take_takeWhile, ← List.take_takeWhile]
  rfl

/-- The string behind a `strncpy` is cut to its size. -/
lemma cString_strncpy (s : List Byte) (n : Nat) :
    cString (strncpy s n ++ [0]) = (cString s).take n := by
  have hpos : ∀ a ∈ (cString s).take n, decide (a ≠ 0) = true := by
    intro a ha
    have hmem : a ∈ s.takeWhile (· ≠ 0) := List.mem_of_mem_take ha
    exact List.mem_takeWhile_imp (p := fun a => decide (a ≠ 0)) hmem
  rw [strncpy, List.append_assoc, ← List.replicate_succ', cString,
    List.takeWhile_append_of_pos hpos]
  simp

/-- The client takes the device that the server has found, unless its busid was cut off. -/
lemma strncmpEq_iff_of_found {busid found : List Byte}
    (h : Exported.strncmpEq (strncpy busid 31 ++ [0]) found 32) :
    Exported.strncmpEq found busid 32 ↔ (cString busid).length < 32 := by
  rw [strncmpEq_iff, cString_strncpy, List.take_take] at h
  rw [strncmpEq_iff, ← h, show min 32 31 = 31 from rfl]
  constructor
  · intro heq
    have hlen := congrArg List.length heq
    rw [List.length_take, List.length_take] at hlen
    omega
  · intro hlt
    rw [List.take_of_length_le (by omega), List.take_of_length_le (by omega)]

/-- The device that is found has the bus id. -/
lemma strncmpEq_of_find {edevs : List UsbipExportedDevice} {req : List Byte}
    {edev : UsbipExportedDevice} (h : usbipGetDevice edevs req = some edev) :
    Exported.strncmpEq req edev.udev.busid 32 := by
  simpa using List.find?_some h

/-! ## When nothing fails -/

variable {ans : ∀ l : HostCall, l.Answer}

/-- The answers of a host that attaches a device. -/
structure AttachSucceeds (ans : ∀ l : HostCall, l.Answer)
    (usbipPortString host port busid : List Byte) (rhport : Int) (udev : UsbDevice) : Prop where
  connOpen : ans (.connOpen host usbipPortString) = true
  driverOpen : (0 : Int) ≤ ans .vhciDriverOpen
  freePort : ans .vhciGetFreePort = rhport
  rhport_nonneg : 0 ≤ rhport
  attach : 0 ≤ (ans (.vhciAttachDevice rhport (udev.busnum.setWidth 8) (udev.devnum.setWidth 8)
    udev.speed)).1
  record : (0 : Int) ≤ ans (.vhciCreateRecord host port busid rhport)
  transfer : (0 : Int) ≤ ans .uxTryTransfer

/-- The answers of a host that has the device and exports it. -/
structure ExportSucceeds (ans : ∀ l : HostCall, l.Answer) (req : List Byte)
    (edev : UsbipExportedDevice) : Prop where
  refresh : ∃ (rc : Int) (edevs : List UsbipExportedDevice), 0 ≤ rc ∧
    ans .refreshDeviceList = (rc, edevs) ∧ usbipGetDevice edevs req = some edev
  exported : (0 : Int) ≤ ans (.exportDevice edev)
  transfer : (0 : Int) ≤ ans (.tryTransfer edev)

/-- The first port that is free is taken, as a run. -/
lemma performs_tryFreePorts {tries : Nat} {rhport : Int} {udev : UsbDevice}
    (hport : ans .vhciGetFreePort = rhport) (hrhport : 0 ≤ rhport)
    (hattach : 0 ≤ (ans (.vhciAttachDevice rhport (udev.busnum.setWidth 8)
      (udev.devnum.setWidth 8) udev.speed)).1) :
    Proc.Performs ans (tryFreePorts udev (tries + 1))
      [.host .vhciGetFreePort rhport, .host (.vhciAttachDevice rhport (udev.busnum.setWidth 8)
        (udev.devnum.setWidth 8) udev.speed) (ans _)] (.done (.attached rhport)) := by
  subst hport
  refine performs_call ?_
  rw [if_neg (not_lt.mpr hrhport)]
  refine performs_call ?_
  rw [if_pos hattach]
  exact .nil _

/-- An attach that succeeds, as a run. -/
lemma performs_importDevice {tries : Nat} {usbipPortString host port busid : List Byte}
    {rhport : Int} {udev : UsbDevice}
    (h : AttachSucceeds ans usbipPortString host port busid rhport udev) :
    Proc.Performs ans (importDevice (tries + 1) host port busid udev)
      [.host .vhciDriverOpen (ans _), .host .vhciGetFreePort rhport,
        .host (.vhciAttachDevice rhport (udev.busnum.setWidth 8) (udev.devnum.setWidth 8)
          udev.speed) (ans _),
        .host (.vhciCreateRecord host port busid rhport) (ans _), .host .vhciDriverClose (ans _)]
      (.done (some 0)) := by
  refine performs_call ?_
  rw [if_neg (not_lt.mpr h.driverOpen)]
  refine (performs_tryFreePorts h.freePort h.rhport_nonneg h.attach).bind (performs_call ?_)
  rw [if_neg (not_lt.mpr h.record)]
  exact performs_call (.nil _)

/-- An import that succeeds, as a run. -/
lemma performs_queryImportDevice {e : Endian} {tries : Nat} {host port busid : List Byte}
    {udev : UsbDevice} {t : Trace} (hbusid : Exported.strncmpEq udev.busid busid 32)
    (h : Proc.Performs ans (importDevice tries host port busid udev) t (.done (some 0))) :
    Proc.Performs ans (queryImportDevice e tries host port busid)
      (.sent (header OP_REQ_IMPORT 0) :: .sent (strncpy busid 31 ++ [0]) ::
        .got (header Exported.OP_REP_IMPORT ST_OK) :: .got udev.wire :: t) (.done (some 0)) := by
  rw [queryImportDevice]
  refine performs_usbipNetSendOpCommon (performs_usbipNetSend (performs_usbipNetRecvOpCommon ?_))
  rw [opCode_header]
  refine performs_usbipNetRecv ⟨udev.wire, udev.length_wire⟩ ?_
  dsimp only
  rwa [UsbDevice.unpack_wire, if_pos hbusid]

/-- A connection that opens, as a run. -/
lemma performs_usbipConnOpen {host port : List Byte} (h : ans (.connOpen host port) = true) :
    Proc.Performs ans (usbipConnOpen host port)
      [.host (.connOpen host port) true, .host .uxSetup (ans _)] (.done true) := by
  rw [← h]
  refine performs_call ?_
  rw [if_pos h]
  exact h ▸ performs_call (.nil _)

/-- `usbip attach` succeeding, as a run. -/
lemma performs_usbipAttachDevice (e : Endian) (tries : Nat)
    {usbipPortString host port busid : List Byte} {rhport : Int} {udev : UsbDevice}
    (h : AttachSucceeds ans usbipPortString host port busid rhport udev)
    (hbusid : Exported.strncmpEq udev.busid busid 32) :
    Proc.Performs ans (usbipAttachDevice e (tries + 1) usbipPortString host port busid)
      ([.host (.connOpen host usbipPortString) true, .host .uxSetup (ans _),
        .sent (header OP_REQ_IMPORT 0), .sent (strncpy busid 31 ++ [0])] ++
      [.got (header Exported.OP_REP_IMPORT ST_OK), .got udev.wire,
        .host .vhciDriverOpen (ans _), .host .vhciGetFreePort rhport,
        .host (.vhciAttachDevice rhport (udev.busnum.setWidth 8) (udev.devnum.setWidth 8)
          udev.speed) (ans _),
        .host (.vhciCreateRecord host port busid rhport) (ans _), .host .vhciDriverClose (ans _),
        .host .uxTryTransfer (ans _), .host .connClose (ans _), .host .uxCleanup (ans _)])
      (.done (some 0)) := by
  rw [usbipAttachDevice]
  refine (performs_usbipConnOpen h.connOpen).bind ?_
  refine (performs_queryImportDevice hbusid (performs_importDevice h)).bind ?_
  refine performs_call (performs_call (performs_call ?_))
  rw [if_neg (not_lt.mpr h.transfer)]
  exact .nil _

/-- `usbipd` granting an import, as a run. -/
lemma performs_usbipd_import (e : Endian) (host port : List Byte) {req : List Byte}
    {edev : UsbipExportedDevice} (hreq : req.length = 32) (h : ExportSucceeds ans req edev) :
    Proc.Performs ans (usbipdRecvPdu e (usbipdOps e) host port)
      [.host .uxSetup (ans _), .got (header OP_REQ_IMPORT 0),
        .host .refreshDeviceList (ans _), .got req, .host (.exportDevice edev) (ans _),
        .sent (header Exported.OP_REP_IMPORT ST_OK), .sent edev.udev.wire,
        .host (.tryTransfer edev) (ans _), .host .freeDeviceList (ans _),
        .host .uxCleanup (ans _)] (.done (some 0)) := by
  obtain ⟨rc, edevs, hrc, hrefresh, hfound⟩ := h.refresh
  have hreply : Proc.Performs ans (replyImport e (some edev))
      [.host (.exportDevice edev) (ans _), .sent (header Exported.OP_REP_IMPORT ST_OK),
        .sent edev.udev.wire, .host (.tryTransfer edev) (ans _)] (.done 0) := by
    rw [replyImport]
    refine performs_call ?_
    rw [if_neg (not_lt.mpr h.exported)]
    refine performs_usbipNetSendOpCommon ?_
    rw [if_pos rfl, UsbDevice.bytes_pack]
    refine performs_usbipNetSend (performs_call ?_)
    rw [if_neg (not_lt.mpr h.transfer)]
    exact .nil _
  have hserve : Proc.Performs ans (recvRequestImport e)
      [.host .refreshDeviceList (ans _), .got req, .host (.exportDevice edev) (ans _),
        .sent (header Exported.OP_REP_IMPORT ST_OK), .sent edev.udev.wire,
        .host (.tryTransfer edev) (ans _), .host .freeDeviceList (ans _)] (.done (some 0)) := by
    rw [recvRequestImport]
    refine performs_call ?_
    rw [hrefresh, if_neg (not_lt.mpr hrc)]
    refine Proc.Performs.bind (a := (0 : Int)) (t := [.got req, .host (.exportDevice edev) (ans _),
      .sent (header Exported.OP_REP_IMPORT ST_OK), .sent edev.udev.wire,
      .host (.tryTransfer edev) (ans _)]) ?_ ?_
    · refine performs_usbipNetRecv ⟨req, hreq⟩ ?_
      dsimp only
      rwa [hfound]
    · exact performs_call (.nil _)
  have hfind : findOp (usbipdOps e) (OP_REQ_IMPORT.setWidth 16) =
      some ⟨OP_REQ_IMPORT.setWidth 16, some fun _ _ => recvRequestImport e⟩ := rfl
  exact performs_usbipdRecvPdu e host port hfind rfl hserve

/-- The session of the two in which nothing fails. -/
lemma import_exchange (e₁ e₂ : Endian) (tries : Nat) (host' port' : List Byte)
    {usbipPortString host port busid : List Byte} {rhport : Int} {edev : UsbipExportedDevice}
    {ans₁ ans₂ : ∀ l : HostCall, l.Answer} (hbusid : (cString busid).length < 32)
    (hexport : ExportSucceeds ans₂ (strncpy busid 31 ++ [0]) edev)
    (hattach : AttachSucceeds ans₁ usbipPortString host port busid rhport edev.udev) :
    ∃ n f, Session.Steps ans₁ ans₂ n
        { left := usbipAttachDevice e₁ (tries + 1) usbipPortString host port busid,
          right := usbipdRecvPdu e₂ (usbipdOps e₂) host' port' } f ∧
      f.left = .done (some 0) ∧ f.right = .done (some 0) ∧
      .host (.exportDevice edev) (ans₂ _) ∈ f.rightTrace ∧
      .host (.vhciAttachDevice rhport (edev.udev.busnum.setWidth 8) (edev.udev.devnum.setWidth 8)
        edev.udev.speed) (ans₁ _) ∈ f.leftTrace := by
  obtain ⟨rc, edevs, -, -, hfound⟩ := hexport.refresh
  have hclient : Exported.strncmpEq edev.udev.busid busid 32 :=
    (strncmpEq_iff_of_found (strncmpEq_of_find hfound)).mpr hbusid
  obtain ⟨q, hask, htake⟩ := (performs_usbipAttachDevice e₁ tries hattach hclient).split
  have hserve := performs_usbipd_import e₂ host' port' (length_importRequest busid) hexport
  obtain ⟨n, hsteps⟩ := Session.exchange hask hserve htake (by simp) (by simp) (by simp)
  exact ⟨n, _, hsteps, rfl, rfl, by simp, by simp⟩

/-- A host on which everything succeeds, with these devices. -/
def willing (edevs : List UsbipExportedDevice) : ∀ l : HostCall, l.Answer
  | .refreshDeviceList => (0, edevs)
  | .vhciAttachDevice _ _ _ _ => (0, 0)
  | .connOpen _ _ => true
  | .freeDeviceList | .driverClose | .vhciDriverClose | .uxSetup | .uxCleanup | .connClose => ()
  | .printHeading _ _ | .printDevice _ | .printInterface _ _ | .printEnd => ()
  | .exportDevice _ | .tryTransfer _ | .hasTransferred | .driverOpen | .bindDevice _
  | .unbindDevice _ | .vhciDriverOpen | .vhciGetFreePort | .vhciDetachDevice _
  | .vhciFindDevice _ _ | .vhciCreateRecord _ _ _ _ | .vhciDeleteRecord _ | .uxTryTransfer =>
      (0 : Int)

/-- A device that is called 1-1. -/
def stick : UsbipExportedDevice :=
  { Exported.plainDevice with
    udev := { Exported.plainDevice.udev with
      busid := [0x31, 0x2d, 0x31] ++ List.replicate 29 0, length_busid := rfl } }

/-- A host that exports the stick. -/
lemma exportSucceeds_stick :
    ExportSucceeds (willing [stick]) (strncpy [0x31, 0x2d, 0x31] 31 ++ [0]) stick where
  refresh := ⟨0, [stick], le_rfl, rfl, List.find?_cons_of_pos (by decide)⟩
  exported := le_rfl
  transfer := le_rfl

/-- A host that attaches the stick. -/
lemma attachSucceeds_stick :
    AttachSucceeds (willing []) [] [] [] [0x31, 0x2d, 0x31] 0 stick.udev where
  connOpen := rfl
  driverOpen := le_rfl
  freePort := rfl
  rhport_nonneg := le_rfl
  attach := le_rfl
  record := le_rfl
  transfer := le_rfl

/-! ## Both together -/

/-- Whatever the order of the steps, wherever the connection breaks and whatever fails on either
host: when `usbip attach` attaches a device, the daemon has exported one before that it found in its
list under the busid that was asked for, and its numbers are the ones that are attached. -/
theorem attached_was_exported {e₁ e₂ : Endian} {tries : Nat}
    {usbipPortString host port busid host' port' : List Byte}
    {s : Session Byte HostCall.Answer HostCall.Answer (Option Int) (Option Int)}
    (h : Session.Reach (usbipAttachDevice e₁ tries usbipPortString host port busid)
      (usbipdRecvPdu e₂ (usbipdOps e₂) host' port') s)
    {rhport : Int} {busnum devnum : Byte} {speed : BitVec 32} {r : Int × Nat}
    (hattach : .host (.vhciAttachDevice rhport busnum devnum speed) r ∈ s.leftTrace) :
    ∃ (edevs : Int × List UsbipExportedDevice) (edev : UsbipExportedDevice) (rc : Int),
      .host .refreshDeviceList edevs ∈ s.rightTrace ∧
      usbipGetDevice edevs.2 (strncpy busid 31 ++ [0]) = some edev ∧
      .host (.exportDevice edev) rc ∈ s.rightTrace ∧ 0 ≤ rc ∧
      Exported.strncmpEq edev.udev.busid busid 32 ∧
      busnum = edev.udev.busnum.setWidth 8 ∧ devnum = edev.udev.devnum.setWidth 8 ∧
      speed = edev.udev.speed ∧ (cString busid).length < 32 := by
  obtain ⟨hclient, hserver, hright, hleft⟩ := h.spec
    (spec_usbipAttachDevice e₁ tries usbipPortString host port busid)
    (spec_usbipd_import e₂ host' port' (length_importRequest busid))
  obtain hnone | ⟨head, b, hgot, hlen, hcode, hbusid, hcalls⟩ := hclient.attaches
  · exact absurd trivial (hnone _ _ hattach)
  rw [hgot] at hleft
  obtain ⟨hsent, -⟩ | ⟨edevs, hrefresh, hreplies, -⟩ :=
    hserver (hright.trans hclient.sent)
  · rw [hsent] at hleft
    have hnil := List.append_eq_nil_iff.mp (List.prefix_nil.mp hleft)
    rw [hnil.1] at hlen
    exact absurd hlen (by decide)
  obtain hna | ⟨edev, rc, hfound, hexport, hrc, hok⟩ := hreplies
  · have hhead : head = header Exported.OP_REP_IMPORT Exported.ST_NA :=
      ((List.prefix_append _ _).trans (hleft.trans hna)).eq_of_length hlen
    rw [hhead, opCode_header] at hcode
    exact absurd (by decide) hcode
  · obtain ⟨rest, hrest⟩ := hleft.trans hok
    rw [List.append_assoc] at hrest
    obtain ⟨-, hwire⟩ := List.append_inj hrest hlen
    have hb : b.1 = edev.udev.wire :=
      (show b.1 <+: edev.udev.wire from ⟨rest, hwire⟩).eq_of_length
        (b.2.trans edev.udev.length_wire.symm)
    have hudev : udevOf e₁ b = edev.udev := by
      obtain ⟨b, hb'⟩ := b
      obtain rfl : b = edev.udev.wire := hb
      exact UsbDevice.unpack_wire e₁ edev.udev
    have hattaches := hcalls _ _ hattach
    rw [hudev] at hattaches hbusid
    have hlen := (strncmpEq_iff_of_found (strncmpEq_of_find hfound)).mp hbusid
    exact ⟨edevs, edev, rc, hrefresh, hfound, hexport, hrc, hbusid, hattaches.1, hattaches.2.1,
      hattaches.2.2, hlen⟩

/-- Both hosts do everything that they are asked for. -/
theorem attached_was_exported_willing :
    ∃ s : Session Byte HostCall.Answer HostCall.Answer (Option Int) (Option Int),
      .host (.vhciAttachDevice 0 1 2 3) (0, 0) ∈ s.leftTrace ∧
      ∃ (edevs : Int × List UsbipExportedDevice) (edev : UsbipExportedDevice) (rc : Int),
        .host .refreshDeviceList edevs ∈ s.rightTrace ∧
        usbipGetDevice edevs.2 (strncpy [0x31, 0x2d, 0x31] 31 ++ [0]) = some edev ∧
        .host (.exportDevice edev) rc ∈ s.rightTrace ∧ 0 ≤ rc ∧
        Exported.strncmpEq edev.udev.busid [0x31, 0x2d, 0x31] 32 ∧
        1 = edev.udev.busnum.setWidth 8 ∧ 2 = edev.udev.devnum.setWidth 8 ∧
        3 = edev.udev.speed ∧ (cString [0x31, 0x2d, 0x31]).length < 32 := by
  obtain ⟨n, f, hsteps, -, -, -, hattach⟩ :=
    import_exchange .little .big 0 [] [] (by decide) exportSucceeds_stick attachSucceeds_stick
  exact ⟨f, hattach, attached_was_exported hsteps.reach hattach⟩

/-- When nothing breaks off and nothing fails, every order of the steps comes to the same end: both
programs return 0, the server has exported the device that was asked for and the client has attached
its numbers. -/
theorem import_completes (e₁ e₂ : Endian) (tries : Nat) (host' port' : List Byte)
    {usbipPortString host port busid : List Byte} {rhport : Int} {edev : UsbipExportedDevice}
    {ans₁ ans₂ : ∀ l : HostCall, l.Answer} (hbusid : (cString busid).length < 32)
    (hexport : ExportSucceeds ans₂ (strncpy busid 31 ++ [0]) edev)
    (hattach : AttachSucceeds ans₁ usbipPortString host port busid rhport edev.udev) :
    ∃ n f, f.left = .done (some 0) ∧ f.right = .done (some 0) ∧
      .host (.exportDevice edev) (ans₂ _) ∈ f.rightTrace ∧
      .host (.vhciAttachDevice rhport (edev.udev.busnum.setWidth 8) (edev.udev.devnum.setWidth 8)
        edev.udev.speed) (ans₁ _) ∈ f.leftTrace ∧
      ∀ m s, Session.Steps ans₁ ans₂ m
        { left := usbipAttachDevice e₁ (tries + 1) usbipPortString host port busid,
          right := usbipdRecvPdu e₂ (usbipdOps e₂) host' port' } s →
        m ≤ n ∧ Session.Steps ans₁ ans₂ (n - m) s f := by
  obtain ⟨n, f, hsteps, hleft, hright, hexported, hattached⟩ :=
    import_exchange e₁ e₂ tries host' port' hbusid hexport hattach
  exact ⟨n, f, hleft, hright, hexported, hattached, fun m s hm =>
    hsteps.settles (Session.atRest_of_done hleft hright) hm⟩

/-- The same two hosts. -/
theorem import_completes_willing :
    ∃ n f, f.left = .done (some 0) ∧ f.right = .done (some 0) ∧
      .host (.exportDevice stick) (0 : Int) ∈ f.rightTrace ∧
      .host (.vhciAttachDevice 0 1 2 3) (0, 0) ∈ f.leftTrace ∧
      ∀ m s, Session.Steps (willing []) (willing [stick]) m
        { left := usbipAttachDevice .little 1 [] [] [] [0x31, 0x2d, 0x31],
          right := usbipdRecvPdu .big (usbipdOps .big) [] [] } s →
        m ≤ n ∧ Session.Steps (willing []) (willing [stick]) (n - m) s f :=
  import_completes .little .big 0 [] [] (by decide) exportSucceeds_stick attachSucceeds_stick

/-! ## What is left attached -/

/-- What becomes of a port. -/
inductive Mark
  | attached (rhport : Int)
  | recorded (rhport : Int)
  | detached (rhport : Int)
  /-- It could not be detached. -/
  | stuck (rhport : Int)
  /-- The connection is handed over to the device. -/
  | transferred
  deriving DecidableEq

/-- What a call does to a port. -/
def mark : Act Byte HostCall.Answer → Option Mark
  | .host (.vhciAttachDevice rhport _ _ _) r => if 0 ≤ r.1 then some (.attached rhport) else none
  | .host (.vhciCreateRecord _ _ _ rhport) rc =>
      if (0 : Int) ≤ rc then some (.recorded rhport) else none
  | .host (.vhciDetachDevice rhport) rc =>
      if (0 : Int) ≤ rc then some (.detached rhport) else some (.stuck rhport)
  | .host .uxTryTransfer _ => some .transferred
  | _ => none

def marks (t : Trace) : List Mark := t.filterMap mark

/-- No action touches no port. -/
@[simp] lemma marks_nil : marks [] = [] := rfl

/-- What two traces do to the ports, one after the other. -/
@[simp] lemma marks_append (t u : Trace) : marks (t ++ u) = marks t ++ marks u :=
  List.filterMap_append

/-- What one action does to the ports, before the others. -/
@[simp] lemma marks_cons (e : Act Byte HostCall.Answer) (t : Trace) :
    marks (e :: t) = (mark e).toList ++ marks t := by
  rw [marks, List.filterMap_cons]
  cases mark e <;> rfl

/-- The search touches only the port that it attaches. -/
lemma ends_tryFreePorts (udev : UsbDevice) (tries : Nat) :
    (tryFreePorts udev tries).Ends fun t tried => marks t =
      match tried with
      | .attached port => [.attached port]
      | _ => [] := by
  induction tries with
  | zero => exact .done rfl
  | succ tries ih =>
      refine ends_call fun portNr => ?_
      split_ifs with h
      · exact .done rfl
      · refine ends_call fun attached => ?_
        split_ifs with hok hbusy
        · exact .done (by simp [mark, hok])
        · exact .done (by simp [mark, hok])
        · exact ih.mono fun t tried ht => by simpa [mark, hok] using ht

/-- Nothing was attached, or it was detached again, or detaching it failed too. -/
def Undone (l : List Mark) : Prop :=
  l = [] ∨ ∃ rhport, l = [.attached rhport, .detached rhport] ∨ l = [.attached rhport, .stuck rhport]

/-- A device was attached and recorded, or it failed and was undone. -/
def Outcome (l : List Mark) (ret : Option Int) : Prop :=
  (ret = some 0 ∧ ∃ rhport, l = [.attached rhport, .recorded rhport]) ∨
    (ret = none ∨ ret = some (-1)) ∧ Undone l

/-- `import_device` attaches and records, or undoes it. -/
lemma ends_importDevice (tries : Nat) (host port busid : List Byte) (udev : UsbDevice) :
    (importDevice tries host port busid udev).Ends fun t ret => Outcome (marks t) ret := by
  refine ends_call fun rc => ?_
  split_ifs with h
  · exact .done (.inr ⟨.inr rfl, .inl rfl⟩)
  · refine (ends_tryFreePorts udev tries).bind fun tried t ht => ?_
    cases tried with
    | trying => exact .done (.inr ⟨.inl rfl, .inl (by simpa [mark] using ht)⟩)
    | noFreePort =>
        exact ends_call fun _ => .done (.inr ⟨.inr rfl, .inl (by simpa [mark] using ht)⟩)
    | refused =>
        exact ends_call fun _ => .done (.inr ⟨.inr rfl, .inl (by simpa [mark] using ht)⟩)
    | attached portNr =>
        refine ends_call fun rc => ?_
        split_ifs with hrc
        · refine ends_call fun rc' => ends_call fun _ => .done (.inr ⟨.inr rfl, .inr ⟨portNr, ?_⟩⟩)
          by_cases hrc' : (0 : Int) ≤ rc'
          · exact .inl (by simp [mark, hrc, hrc', ht])
          · exact .inr (by simp [mark, hrc, hrc', ht])
        · exact ends_call fun _ => .done (.inl ⟨rfl, portNr, by simp [mark, hrc, ht]⟩)

/-- `query_import_device` attaches and records, or undoes it. -/
lemma ends_queryImportDevice (e : Endian) (tries : Nat) (host port busid : List Byte) :
    (queryImportDevice e tries host port busid).Ends fun t ret => Outcome (marks t) ret := by
  have hfails : ∀ t : Trace, marks t = [] → Outcome (marks t) (some (-1)) := fun t ht =>
    .inr ⟨.inr rfl, .inl ht⟩
  rw [queryImportDevice]
  refine ends_usbipNetSendOpCommon ?_ fun n _ => .done (hfails _ (by simp [mark]))
  refine ends_usbipNetSend ?_ fun n _ => .done (hfails _ (by simp [mark]))
  refine ends_usbipNetRecvOpCommon (fun h _ => ?_) fun b _ => .done (hfails _ (by simp [mark]))
  cases opCode e (Exported.OP_REP_IMPORT.setWidth 16) h with
  | none => exact .done (hfails _ (by simp [mark]))
  | some code =>
      refine ends_usbipNetRecv (fun b => ?_) fun b _ => .done (hfails _ (by simp [mark]))
      dsimp only
      split_ifs
      · exact (ends_importDevice tries host port busid _).mono fun t ret ht => by
          simpa [mark] using ht
      · exact .done (hfails _ (by simp [mark]))

/-- Closing the connection touches no port. -/
lemma ends_usbipConnClose : usbipConnClose.Ends fun t _ => marks t = [] :=
  ends_call fun _ => .host fun _ => .done (by simp [mark])

/-- Opening the connection touches no port. -/
lemma ends_usbipConnOpen (host port : List Byte) :
    (usbipConnOpen host port).Ends fun t _ => marks t = [] := by
  refine ends_call fun connected => ?_
  split
  · exact ends_call fun _ => .done (by simp [mark])
  · exact .done (by simp [mark])

/-- `usbip attach` leaves a port attached exactly when it has recorded it and handed the connection
over, whether or not that succeeds, or when it could neither record nor detach it; the first is so
whenever it returns 0, and otherwise whatever it had attached is detached, unless that fails. -/
theorem attach_leaves (e : Endian) (tries : Nat) (usbipPortString host port busid : List Byte) :
    (usbipAttachDevice e tries usbipPortString host port busid).Ends fun t ret =>
      (∃ rhport, marks t = [.attached rhport, .recorded rhport, .transferred]) ∨
        ret ≠ some 0 ∧ Undone (marks t) := by
  rw [usbipAttachDevice]
  refine (ends_usbipConnOpen host usbipPortString).bind fun connected t ht => ?_
  cases connected with
  | false => exact .done (.inr ⟨by simp, .inl (by simp [ht])⟩)
  | true =>
      refine (ends_queryImportDevice e tries host port busid).bind fun ret u hu => ?_
      obtain ⟨rfl, rhport, hkept⟩ | ⟨rfl | rfl, hundone⟩ := hu
      · refine ends_call fun rc => ends_usbipConnClose.bind fun _ v hv => .done (.inl ⟨rhport, ?_⟩)
        simp [ht, hkept, hv, mark]
      · exact .done (.inr ⟨by simp, by simpa [ht] using hundone⟩)
      · refine ends_usbipConnClose.bind fun _ v hv => .done (.inr ⟨by simp, ?_⟩)
        simpa [ht, hv] using hundone

end Usbip.Tools.Requests
