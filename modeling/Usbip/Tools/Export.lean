import Usbip.Tools.Import

/-!
# Exporting a device to another host

`usbip connect` binds a device, sends it to `usbipa` on another host, and exports it when the
reply says that it was attached there; `usbip disconnect` sends it again, and unbinds it when the
reply says that it was detached.  Each relies on what the other host has done: a device is exported
only after it was attached and recorded there (`exported_was_taken`), and given back to its driver
only after its port was detached and its record deleted (`unbound_was_given_up`).
-/

namespace Usbip.Tools.Requests

open Usbip.Core Usbip.Common

/-- Both directions swap the same bytes. -/
lemma pack_false (e : Endian) (d : UsbDevice) :
    usbipNetPackUsbDevice e false d = usbipNetPackUsbDevice e true d := by
  cases e <;> rfl

/-! ## The client -/

/-- A reply without an error has come. -/
def Granted (e : Endian) (rep : BitVec 32) (t : Trace) : Prop :=
  (gotBy t).length = 8 ∧ opCode e (rep.setWidth 16) (gotBy t) ≠ none

/-- It sends its request and nothing else, and is told whether it is granted. -/
structure Asked (e : Endian) (req rep : BitVec 32) (udev : UsbDevice) (t : Trace)
    (c : Proc.Place Bool) : Prop where
  sent : sentBy t <+: header req 0 ++ udev.wire
  waits : ∀ n, c = .waits n → sentBy t = header req 0 ++ udev.wire
  calls : Calls (fun _ => False) t
  granted : c = .done true → Granted e rep t

/-- A request is sent and its reply received. -/
lemma spec_sendRequest (e : Endian) (req rep : BitVec 32) (udev : UsbDevice) :
    (sendRequest e req rep udev).Spec fun t c => Asked e req rep udev t c := by
  rw [sendRequest]
  refine spec_usbipNetSendOpCommon ⟨by simp, nofun, by simp, nofun⟩ ?_ fun n _ => .done
    ⟨?_, nofun, by simp, nofun⟩
  · rw [if_pos rfl, pack_false, UsbDevice.bytes_pack]
    refine spec_usbipNetSend ⟨by simp, nofun, by simp, nofun⟩ ?_ fun n _ => .done
      ⟨by simp [List.take_prefix], nofun, by simp, nofun⟩
    rw [if_pos rfl]
    refine spec_usbipNetRecvOpCommon ⟨by simp, fun _ _ => by simp, by simp, nofun⟩
      (fun h hh => ?_) fun b _ => .done ⟨by simp, nofun, by simp, nofun⟩
    cases hcode : opCode e (rep.setWidth 16) h with
    | none => exact .done ⟨by simp, nofun, by simp, nofun⟩
    | some code =>
        refine .done ⟨by simp, nofun, by simp, fun _ => ?_⟩
        simp [Granted, hh, hcode]
  · simpa using (List.take_prefix _ _).trans (List.prefix_append _ _)

/-- What is done with the device `edev`: its request is sent, and before a reply without an error
has come no call is one of `A`. -/
structure Works (A : HostCall → Prop) (e : Endian) (req rep : BitVec 32)
    (edev : UsbipExportedDevice) (t : Trace) : Prop where
  sent : sentBy t <+: header req 0 ++ edev.udev.wire
  calls : Calls (fun l => ¬ A l) t ∨ Granted e rep t
  exports : Calls (HostCall.Exports (some edev)) t

/-- Nothing is sent, or it is done with the device that has this busid in a list of the host. -/
def Asks (A : HostCall → Prop) (e : Endian) (req rep : BitVec 32) (busid : List Byte)
    (t : Trace) : Prop :=
  (sentBy t = [] ∧ gotBy t = [] ∧ Calls (fun l => ¬ A l ∧ ¬ l.IsExport) t) ∨
    ∃ (edevs : Int × List UsbipExportedDevice) (edev : UsbipExportedDevice),
      .host .refreshDeviceList edevs ∈ t ∧ usbipGetDevice edevs.2 busid = some edev ∧
      Works A e req rep edev t

variable {A : HostCall → Prop} {req rep : BitVec 32} {edev : UsbipExportedDevice}

/-- A call that exports nothing exports any device. -/
lemma HostCall.exports_of_not {l : HostCall} (h : ¬ l.IsExport)
    (edev : Option UsbipExportedDevice) : l.Exports edev := by
  cases l <;> first | trivial | exact absurd trivial h

/-- A request that is granted has been answered. -/
lemma Granted.got_ne_nil (h : Granted e rep t) : gotBy t ≠ [] := by
  intro hnil
  have hlen := h.1
  rw [hnil] at hlen
  exact absurd hlen (by decide)

/-- Calls before and behind change nothing granted. -/
lemma Granted.surround {pre post : Trace} (h : Granted e rep t) {B : HostCall → Prop}
    (hpre : Local A pre) (hpost : Local B post) : Granted e rep (pre ++ t ++ post) := by
  simpa [Granted, hpre.gotBy, hpost.gotBy] using h

/-- Calls before and behind change nothing worked. -/
lemma Works.surround {pre post : Trace} (h : Works A e req rep edev t)
    (hpre : Local (fun l => ¬ A l ∧ ¬ l.IsExport) pre)
    (hpost : Local (fun l => ¬ l.IsExport) post)
    (hcalls : Calls (fun l => ¬ A l) post ∨ Granted e rep t) :
    Works A e req rep edev (pre ++ t ++ post) := by
  refine ⟨by simpa [hpre.sentBy, hpost.sentBy] using h.sent, ?_, ?_⟩
  · obtain hpostA | hgranted := hcalls
    · obtain ht | hgranted := h.calls
      · exact .inl (by simpa using ⟨hpre.calls.mono fun _ hl => hl.1, ht, hpostA⟩)
      · exact .inr (hgranted.surround hpre hpost)
    · exact .inr (hgranted.surround hpre hpost)
  · simpa using ⟨hpre.calls.mono fun _ hl => HostCall.exports_of_not hl.2 _, h.exports,
      hpost.calls.mono fun _ hl => HostCall.exports_of_not hl _⟩

/-- Calls before and behind change nothing asked. -/
lemma Asks.surround {pre post : Trace} (h : Asks A e req rep busid t)
    (hpre : Local (fun l => ¬ A l ∧ ¬ l.IsExport) pre)
    (hpost : Local (fun l => ¬ A l ∧ ¬ l.IsExport) post) :
    Asks A e req rep busid (pre ++ t ++ post) := by
  obtain ⟨hsent, hgot, hcalls⟩ | ⟨edevs, edev, hrefresh, hfound, hworks⟩ := h
  · exact .inl ⟨by simp [hpre.sentBy, hpost.sentBy, hsent],
      by simp [hpre.gotBy, hpost.gotBy, hgot], by simpa using ⟨hpre.calls, hcalls, hpost.calls⟩⟩
  · refine .inr ⟨edevs, edev, List.mem_append_left _ (List.mem_append_right _ hrefresh), hfound,
      hworks.surround hpre (hpost.mono fun _ hl => hl.2) (.inl (hpost.calls.mono fun _ hl => hl.1))⟩

/-- Once the request is granted, calls of `A` may follow. -/
lemma Asks.follow {pre post : Trace} (h : Asks A e req rep busid t) (hgranted : Granted e rep t)
    (hpre : Local (fun l => ¬ A l ∧ ¬ l.IsExport) pre)
    (hpost : Local (fun l => ¬ l.IsExport) post) :
    Asks A e req rep busid (pre ++ t ++ post) := by
  obtain ⟨-, hgot, -⟩ | ⟨edevs, edev, hrefresh, hfound, hworks⟩ := h
  · exact absurd hgot hgranted.got_ne_nil
  · exact .inr ⟨edevs, edev, List.mem_append_left _ (List.mem_append_right _ hrefresh), hfound,
      hworks.surround hpre hpost (.inr hgranted)⟩

/-- The calls around the work with a device. -/
def HostCall.IsLookup : HostCall → Prop
  | driverOpen | driverClose | refreshDeviceList | freeDeviceList => True
  | _ => False

/-- The calls of the lookup export nothing. -/
lemma HostCall.IsLookup.not_isExport {l : HostCall} (h : l.IsLookup) : ¬ l.IsExport := by
  cases l <;> first | exact not_false | exact absurd h not_false

/-- It succeeds only when the request is granted. -/
lemma spec_withDevice (busid : List Byte) {fails : Int → Bool}
    {work : UsbipExportedDevice → Tool Bool} (hA : ∀ l : HostCall, l.IsLookup → ¬ A l)
    (hwork : ∀ edev, (work edev).Spec fun t c => Works A e req rep edev t ∧
      (c = .done true → Granted e rep t)) :
    (withDevice busid fails work).Spec fun t c => Asks A e req rep busid t ∧
      ∀ rc, c = .done rc → 0 ≤ rc → Granted e rep t := by
  have hlookup : ∀ l : HostCall, l.IsLookup → ¬ A l ∧ ¬ l.IsExport := fun l hl =>
    ⟨hA l hl, hl.not_isExport⟩
  have hnothing : ∀ (t : Trace) (c : Proc.Place Int), Local HostCall.IsLookup t →
      (∀ rc, c = .done rc → rc < 0) →
      Asks A e req rep busid t ∧ ∀ rc, c = .done rc → 0 ≤ rc → Granted e rep t :=
    fun t c ht hc => ⟨.inl ⟨ht.sentBy, ht.gotBy, ht.calls.mono hlookup⟩, fun rc hrc hpos =>
      absurd hpos (not_le.mpr (hc rc hrc))⟩
  have hfails : ∀ rc, (.done (-1) : Proc.Place Int) = .done rc → rc < 0 := by
    rintro rc ⟨⟩
    decide
  rw [withDevice]
  refine spec_call (hnothing _ _ local_nil nofun) fun rc => ?_
  split_ifs
  · exact .done (hnothing _ _ (local_cons trivial local_nil) hfails)
  · refine spec_call (hnothing _ _ (local_cons trivial local_nil) nofun) fun edevs => ?_
    have hpre : Local HostCall.IsLookup
        ([.host .driverOpen rc, .host .refreshDeviceList edevs] : Trace) :=
      local_cons trivial (local_cons trivial local_nil)
    split_ifs
    · exact spec_call (hnothing _ _ hpre nofun) fun _ => .done
        (hnothing _ _ (hpre.append (local_cons trivial local_nil)) hfails)
    · cases hfound : usbipGetDevice edevs.2 busid with
      | none =>
          refine spec_call (hnothing _ _ hpre nofun) fun _ => spec_call (hnothing _ _
            (hpre.append (local_cons trivial local_nil)) nofun) fun _ => .done (hnothing _ _
              (hpre.append (local_cons trivial (local_cons trivial local_nil))) hfails)
      | some edev =>
          have hworks : ∀ (t post : Trace), Local HostCall.IsLookup post →
              Works A e req rep edev t → Asks A e req rep busid
                (.host .driverOpen rc :: .host .refreshDeviceList edevs :: (t ++ post)) :=
            fun t post hpost ht => .inr ⟨edevs, edev, by simp, hfound, by
              simpa using ht.surround (hpre.mono hlookup)
                (hpost.mono fun _ hl => hl.not_isExport) (.inl (hpost.calls.mono hA))⟩
          refine Proc.Spec.bind (hwork edev) (fun t ht => ?_) (fun t n ht => ?_) fun ok t ht => ?_
          · exact ⟨by simpa using hworks t [] local_nil ht.1, nofun⟩
          · exact ⟨by simpa using hworks t [] local_nil ht.1, nofun⟩
          · have hpost : ∀ x y, Local HostCall.IsLookup
                ([.host .freeDeviceList x, .host .driverClose y] : Trace) := fun _ _ =>
              local_cons trivial (local_cons trivial local_nil)
            refine spec_call ⟨hworks t [] local_nil ht.1, nofun⟩ fun x => spec_call
              ⟨hworks t _ (local_cons trivial local_nil) ht.1, nofun⟩ fun y => .done
                ⟨hworks t _ (hpost x y) ht.1, fun rc hrc hpos => ?_⟩
            cases ok with
            | false =>
                cases hrc
                exact absurd hpos (by decide)
            | true => simpa using (ht.2 rfl).surround hpre (hpost x y)

/-- `export_device` exports when its request was granted, and tells so. -/
lemma spec_exportDevice (e : Endian) (busid : List Byte) :
    (exportDevice e busid).Spec fun t c =>
      Asks HostCall.IsExport e Exported.OP_REQ_EXPORT Exported.OP_REP_EXPORT busid t ∧
        ∀ rc, c = .done rc → 0 ≤ rc → Granted e Exported.OP_REP_EXPORT t := by
  refine spec_withDevice busid (fun l hl => hl.not_isExport) fun edev => ?_
  have hasked : ∀ (t : Trace) (c : Proc.Place Bool),
      Asked e Exported.OP_REQ_EXPORT Exported.OP_REP_EXPORT edev.udev t c →
      Works HostCall.IsExport e Exported.OP_REQ_EXPORT Exported.OP_REP_EXPORT edev t :=
    fun t c ht => ⟨ht.sent, .inl (ht.calls.mono fun _ hl => absurd hl not_false),
      ht.calls.mono fun _ hl => absurd hl not_false⟩
  refine Proc.Spec.bind (spec_sendRequest e _ _ edev.udev) (fun t ht => ⟨hasked t _ ht, nofun⟩)
    (fun t n ht => ⟨hasked t _ ht, nofun⟩) fun ok t ht => ?_
  cases ok with
  | false => exact .done ⟨by simpa using hasked t _ ht, nofun⟩
  | true =>
      have hgranted := ht.granted rfl
      have hworks : ∀ u : Trace, Local (HostCall.Exports (some edev)) u →
          Works HostCall.IsExport e Exported.OP_REQ_EXPORT Exported.OP_REP_EXPORT edev (t ++ u) ∧
            Granted e Exported.OP_REP_EXPORT (t ++ u) := by
        intro u hu
        have hall : Granted e Exported.OP_REP_EXPORT (t ++ u) := by
          simpa using hgranted.surround (local_nil (A := HostCall.IsExport)) hu
        exact ⟨⟨by simpa [hu.sentBy] using ht.sent, .inr hall,
          by simpa using ⟨ht.calls.mono fun _ hl => absurd hl not_false, hu.calls⟩⟩, hall⟩
      rw [if_pos rfl]
      refine spec_call ⟨(hworks _ local_nil).1, nofun⟩ fun rc => ?_
      have hexport : Local (HostCall.Exports (some edev))
          ([.host (.exportDevice edev) rc] : Trace) := local_cons rfl local_nil
      split_ifs
      · exact .done ⟨(hworks _ hexport).1, nofun⟩
      · refine spec_call ⟨(hworks _ hexport).1, nofun⟩ fun rc => .done ?_
        have hboth := hworks _ (hexport.append (local_cons (r := rc) trivial local_nil))
        exact ⟨hboth.1, fun _ => hboth.2⟩

/-- The calls that give a device back to its driver. -/
def HostCall.IsUnbind : HostCall → Prop
  | unbindDevice _ => True
  | _ => False

/-- The calls that neither export a device nor give it back. -/
def HostCall.IsPlain (l : HostCall) : Prop := ¬ l.IsUnbind ∧ ¬ l.IsExport

/-- The calls of the connection are plain. -/
lemma HostCall.IsConn.isPlain {l : HostCall} (h : l.IsConn) : l.IsPlain := by
  cases l <;> first | exact ⟨not_false, not_false⟩ | exact absurd h not_false

/-- `usbip connect` exports when its request was granted. -/
lemma spec_usbipConnectDevice (e : Endian) (host port busid : List Byte) :
    (usbipConnectDevice e host port busid).Spec fun t _ =>
      Asks HostCall.IsExport e Exported.OP_REQ_EXPORT Exported.OP_REP_EXPORT busid t := by
  have hnothing : ∀ t : Trace, Local (fun l => ¬ l.IsExport) t →
      Asks HostCall.IsExport e Exported.OP_REQ_EXPORT Exported.OP_REP_EXPORT busid t :=
    fun t ht => .inl ⟨ht.sentBy, ht.gotBy, ht.calls.mono fun _ hl => ⟨hl, hl⟩⟩
  have hopen := (stays_usbipConnOpen host port).weaken fun _ hl => hl.isPlain
  rw [usbipConnectDevice]
  refine spec_call (hnothing _ local_nil) fun rc => ?_
  have hbind : Local (fun l => ¬ l.IsExport) ([.host (.bindDevice busid) rc] : Trace) :=
    local_cons not_false local_nil
  split_ifs
  · exact .done (hnothing _ hbind)
  · refine (hopen.spec_bind fun t ht => ?_) fun connected t ht => ?_
    · exact hnothing _ (hbind.append (ht.mono fun _ hl => hl.2))
    · have hpre := hbind.append (ht.mono fun _ hl => hl.2)
      cases connected with
      | false =>
          have hunbind : ∀ rc, Local (fun l => ¬ l.IsExport)
              ([.host (.unbindDevice busid) rc] : Trace) := fun rc => local_cons not_false local_nil
          refine spec_call (hnothing _ ?_) fun rc => .done (hnothing _ ?_)
          · simpa using hpre
          · simpa using hpre.append (hunbind rc)
      | true =>
          rw [if_pos rfl]
          have hsur : ∀ u post : Trace, Local (fun l => ¬ l.IsExport) post →
              Asks HostCall.IsExport e Exported.OP_REQ_EXPORT Exported.OP_REP_EXPORT busid u →
              Asks HostCall.IsExport e Exported.OP_REQ_EXPORT Exported.OP_REP_EXPORT busid
                (.host (.bindDevice busid) rc :: (t ++ (u ++ post))) := fun u post hpost hu => by
            simpa using hu.surround (hpre.mono fun _ hl => ⟨hl, hl⟩)
              (hpost.mono fun _ hl => ⟨hl, hl⟩)
          refine Proc.Spec.bind (spec_exportDevice e busid) (fun u hu => ?_) (fun u n hu => ?_)
            fun rc u hu => ?_
          · simpa using hsur u [] local_nil hu.1
          · simpa using hsur u [] local_nil hu.1
          · refine Proc.Spec.mono (show Proc.Stays _ fun l => ¬ l.IsExport from ?_)
              fun post c ⟨hpost, _⟩ => hsur u post hpost hu.1
            have hclose := stays_usbipConnClose.weaken fun _ hl => hl.isPlain.2
            split_ifs
            · exact Proc.Stays.bind hclose fun _ => stays_call not_false fun _ => .done _
            · refine stays_call not_false fun transferred => ?_
              split_ifs
              · exact stays_call not_false fun _ => Proc.Stays.bind hclose fun _ => .done _
              · exact Proc.Stays.bind hclose fun _ => .done _

/-- `unexport_device` unbinds when its request was granted, and tells so. -/
lemma spec_unexportDevice (e : Endian) (busid : List Byte) :
    (unexportDevice e busid).Spec fun t c =>
      Asks HostCall.IsUnbind e Exported.OP_REQ_UNEXPORT Exported.OP_REP_UNEXPORT busid t ∧
        ∀ rc, c = .done rc → 0 ≤ rc → Granted e Exported.OP_REP_UNEXPORT t := by
  refine spec_withDevice busid (fun l hl => ?_) fun edev => ?_
  · cases l <;> first | exact not_false | exact absurd hl not_false
  · refine (spec_sendRequest e _ _ edev.udev).mono fun t c ht => ⟨⟨ht.sent, .inl ?_, ?_⟩, ?_⟩
    · exact ht.calls.mono fun _ hl => absurd hl not_false
    · exact ht.calls.mono fun _ hl => absurd hl not_false
    · exact ht.granted

/-- `usbip disconnect` unbinds when its request was granted. -/
lemma spec_usbipDisconnectDevice (e : Endian) (host port busid : List Byte) :
    (usbipDisconnectDevice e host port busid).Spec fun t _ =>
      Asks HostCall.IsUnbind e Exported.OP_REQ_UNEXPORT Exported.OP_REP_UNEXPORT busid t := by
  rw [usbipDisconnectDevice]
  have hopen := (stays_usbipConnOpen host port).weaken fun _ hl => hl.isPlain
  refine hopen.spec_bind (fun t ht => ?_) fun connected t ht => ?_
  · exact .inl ⟨ht.sentBy, ht.gotBy, ht.calls⟩
  · cases connected with
    | false => exact .done (.inl (by simpa using ⟨ht.sentBy, ht.gotBy, ht.calls⟩))
    | true =>
        rw [if_pos rfl]
        refine Proc.Spec.bind (spec_unexportDevice e busid) (fun u hu => ?_) (fun u n hu => ?_)
          fun rc u hu => ?_
        · simpa using hu.1.surround ht local_nil
        · simpa using hu.1.surround ht local_nil
        · by_cases hrc : rc < 0
          · refine Proc.Spec.mono (show Proc.Stays _ HostCall.IsPlain from ?_)
              fun post c ⟨hpost, _⟩ => by simpa using hu.1.surround ht hpost
            refine (stays_usbipConnClose.weaken fun _ hl => hl.isPlain).bind fun _ => ?_
            rw [if_pos hrc]
            exact .done _
          · have hgranted := hu.2 rc rfl (not_lt.mp hrc)
            refine Proc.Spec.mono (show Proc.Stays _ fun l => ¬ l.IsExport from ?_)
              fun post c ⟨hpost, _⟩ => by simpa using hu.1.follow hgranted ht hpost
            have hclose := stays_usbipConnClose.weaken fun _ hl => hl.isPlain.2
            refine Proc.Stays.bind hclose fun _ => ?_
            rw [if_neg hrc]
            refine stays_call not_false fun transferred => ?_
            split_ifs
            · exact stays_call not_false fun _ => .done _
            · exact .done _

/-! ## The server -/

/-- The calls that attach the device of the request, and record it under its names. -/
def HostCall.TakesOn (host port : List Byte) (udev : UsbDevice) : HostCall → Prop
  | vhciAttachDevice _ busnum devnum speed =>
      busnum = udev.busnum.setWidth 8 ∧ devnum = udev.devnum.setWidth 8 ∧ speed = udev.speed
  | vhciCreateRecord host' port' busid _ => host' = host ∧ port' = port ∧ busid = udev.busid
  | _ => True

/-- The device of the request is attached to a port and recorded, and stays there. -/
structure TakenOn (host port : List Byte) (udev : UsbDevice) (t : Trace) : Prop where
  kept : ∃ rhport, [.attached rhport, .recorded rhport] <+: marks t ∧
    ∀ rhport', .detached rhport' ∉ marks t ∧ .stuck rhport' ∉ marks t
  calls : Calls (HostCall.TakesOn host port udev) t

/-- Nothing is said, or the status of the request, and if it is good `Q` holds. -/
def Serves (rep : BitVec 32) (Q : Trace → Prop) (t : Trace) : Prop :=
  sentBy t = [] ∨ ∃ status, sentBy t <+: header rep status ∧ (status = ST_OK → Q t)

/-- `import_device` on the daemon's side calls its host alone, for this device. -/
lemma stays_importDeviceStatus (tries : Nat) (host port : List Byte) (udev : UsbDevice) :
    (importDeviceStatus tries host port udev.busid udev).Stays
      (HostCall.TakesOn host port udev) := by
  refine (stays_tryFreePorts trivial (fun _ => ⟨rfl, rfl, rfl⟩) tries).bind fun tried => ?_
  cases tried with
  | trying => exact .done _
  | noFreePort => exact .done _
  | refused => exact .done _
  | attached portNr =>
      refine stays_call ⟨rfl, rfl, rfl⟩ fun rc => ?_
      split
      · exact stays_call trivial fun _ => .done _
      · exact .done _

/-- Its success is an attached port with the device's record. -/
lemma ends_importDeviceStatus (tries : Nat) (host port busid : List Byte) (udev : UsbDevice) :
    (importDeviceStatus tries host port busid udev).Ends fun t ret => ret = some ST_OK →
      ∃ rhport, marks t = [.attached rhport, .recorded rhport] := by
  refine (ends_tryFreePorts udev tries).bind fun tried t ht => ?_
  cases tried with
  | trying => exact .done fun h => by cases h
  | noFreePort => exact .done fun h => absurd h (by decide)
  | refused => exact .done fun h => absurd h (by decide)
  | attached portNr =>
      refine ends_call fun rc => ?_
      split_ifs with hrc
      · exact ends_call fun _ => .done fun h => absurd h (by decide)
      · exact .done fun _ => ⟨portNr, by simp [mark, hrc, ht]⟩

/-- What was read is the device of the request. -/
lemma udevOf_of_prefix (b : {b : List Byte // b.length = 312}) {rest : List Byte}
    {udev : UsbDevice} (h : b.1 ++ rest <+: udev.wire) : udevOf e b = udev := by
  obtain ⟨b, hb⟩ := b
  obtain rfl : b = udev.wire :=
    ((List.prefix_append b rest).trans h).eq_of_length (hb.trans udev.length_wire.symm)
  exact UsbDevice.unpack_wire e udev

/-- `usbipa` grants an export only for a device it has taken. -/
lemma spec_recvRequestExport (e : Endian) (tries : Nat) (host port : List Byte) :
    (recvRequestExport e tries host port).Spec fun t _ => ∀ udev : UsbDevice,
      gotBy t <+: udev.wire → Serves Exported.OP_REP_EXPORT (TakenOn host port udev) t := by
  rw [recvRequestExport]
  refine spec_usbipNetRecv (fun _ _ => .inl rfl) (fun b => ?_)
    fun b _ => .done fun _ _ => .inl rfl
  have hstatus := (stays_importDeviceStatus tries host port (udevOf e b)).and
    (ends_importDeviceStatus tries host port (udevOf e b).busid (udevOf e b)).spec
  refine Proc.Spec.bind hstatus (fun t ht udev _ => .inl ?_) (fun t n ht udev _ => .inl ?_)
    fun ret t ht => ?_
  · simpa using ht.1.1.sentBy
  · simpa using ht.1.1.sentBy
  · have hcalls := ht.1.1
    cases ret with
    | none => exact .done fun udev _ => .inl (by simpa using hcalls.sentBy)
    | some status =>
        have hserves : ∀ u : Trace, sentBy u <+: header Exported.OP_REP_EXPORT status →
            Calls (HostCall.TakesOn host port (udevOf e b)) u →
            (∀ rhport, .detached rhport ∉ marks u ∧ .stuck rhport ∉ marks u) → ∀ udev : UsbDevice,
            gotBy (.got b.1 :: (t ++ u)) <+: udev.wire →
            Serves Exported.OP_REP_EXPORT (TakenOn host port udev) (.got b.1 :: (t ++ u)) := by
          intro u hsent hu hdetached udev hgot
          rw [gotBy_cons, Act.into_got] at hgot
          obtain rfl : udevOf e b = udev := udevOf_of_prefix b hgot
          refine .inr ⟨status, by simpa [hcalls.sentBy] using hsent, fun hok => ⟨?_, ?_⟩⟩
          · obtain ⟨rhport, hmarks⟩ := ht.2 _ rfl (by rw [hok])
            exact ⟨rhport, by simp [hmarks, mark], by simpa [hmarks, mark] using hdetached⟩
          · simpa using ⟨hcalls.calls, hu⟩
        refine spec_usbipNetSendOpCommon (hserves _ (by simp) (by simp) (by simp)) ?_ fun n _ =>
          .done (hserves _ (by simp [List.take_prefix]) (by simp) (by simp [mark]))
        rw [if_pos rfl]
        refine spec_call (hserves _ (by simp) (by simp) (by simp [mark])) fun rc =>
          .done (hserves _ (by simp) ?_ ?_)
        · simp [HostCall.TakesOn]
        · simp [mark]

/-- `unimport_device` calls its host alone. -/
lemma stays_unimportDevice (host : List Byte) (udev : UsbDevice) :
    (unimportDevice host udev).Stays fun _ => True := by
  refine stays_call trivial fun portNr => ?_
  split
  · exact .done _
  · refine stays_call trivial fun rc => ?_
    split
    · exact .done _
    · exact stays_call trivial fun _ => .done _

/-- Calls before and behind change nothing served. -/
lemma Serves.surround {Q : Trace → Prop} {pre post : Trace} (h : Serves rep Q t)
    (hpre : sentBy pre = []) (hpost : sentBy post = []) (hQ : Q t → Q (pre ++ t ++ post)) :
    Serves rep Q (pre ++ t ++ post) := by
  have hall : sentBy (pre ++ t ++ post) = sentBy t := by simp [hpre, hpost]
  obtain hnone | ⟨status, hsent, hok⟩ := h
  · exact .inl (hall.trans hnone)
  · exact .inr ⟨status, by rwa [hall], fun hst => hQ (hok hst)⟩

/-- The calls of the `usbip_ux` touch no port. -/
lemma marks_of_isUx (h : Calls HostCall.IsUx t) : marks t = [] := by
  refine List.filterMap_eq_nil_iff.mpr fun ev hev => ?_
  cases ev with
  | sent b => rfl
  | got b => rfl
  | host l r =>
      have hl := h l r hev
      cases l <;> first | rfl | exact absurd hl not_false

/-- `usbipa` serves the export request. -/
lemma findOp_export (e : Endian) (tries : Nat) :
    findOp (usbipaOps e tries) (Exported.OP_REQ_EXPORT.setWidth 16) =
      some ⟨Exported.OP_REQ_EXPORT.setWidth 16, some (recvRequestExport e tries)⟩ := rfl

/-- The whole daemon at an export request. -/
lemma spec_usbipa_export (e : Endian) (tries : Nat) (host port : List Byte) (udev : UsbDevice) :
    (usbipdRecvPdu e (usbipaOps e tries) host port).Spec fun t _ =>
      gotBy t <+: header Exported.OP_REQ_EXPORT 0 ++ udev.wire →
        Serves Exported.OP_REP_EXPORT (TakenOn host port udev) t := by
  have hux : ∀ l : HostCall, l.IsUx → l.TakesOn host port udev := by
    intro l hl
    cases l <;> trivial
  refine spec_usbipdRecvPdu (findOp_export e tries) rfl ?_ ?_ ?_
  · exact fun t hsent _ => .inl hsent
  · intro pre t post hsent hpre hpost ht
    refine ht.surround hsent hpost.sentBy fun ⟨⟨rhport, hkept, hdetached⟩, hcalls⟩ => ⟨?_, ?_⟩
    · have hmarks : marks (pre ++ t ++ post) = marks t := by
        simp [marks_of_isUx hpre, marks_of_isUx hpost.calls]
      exact ⟨rhport, by rwa [hmarks], by rwa [hmarks]⟩
    · simpa using ⟨hpre.mono hux, hcalls, hpost.calls.mono hux⟩
  · exact (spec_recvRequestExport e tries host port).mono fun t c ht => ht udev

/-- What a client may rely on: a reply without an error comes only from a server that has done what
it was asked for. -/
lemma served_of_granted {Q : Trace → Prop} {t u : Trace}
    (hgranted : Granted e rep t) (hserves : Serves rep Q u) (hgot : gotBy t <+: sentBy u) :
    Q u := by
  obtain hnone | ⟨status, hsent, hok⟩ := hserves
  · rw [hnone] at hgot
    exact absurd (List.prefix_nil.mp hgot) hgranted.got_ne_nil
  · refine hok ?_
    have hhead : gotBy t = header rep status :=
      (hgot.trans hsent).eq_of_length (hgranted.1.trans (length_header rep status).symm)
    have hcode := hgranted.2
    rw [hhead, opCode_header] at hcode
    by_contra hne
    exact hcode (by simp [hne])

section Performs

variable {ans : ∀ l : HostCall, l.Answer} {rc : Int} {edevs : List UsbipExportedDevice}

/-- A request that is granted, as a run. -/
lemma performs_sendRequest (e : Endian) (req rep : BitVec 32) (udev : UsbDevice) :
    Proc.Performs ans (sendRequest e req rep udev)
      [.sent (header req 0), .sent udev.wire, .got (header rep ST_OK)] (.done true) := by
  rw [sendRequest, pack_false, UsbDevice.bytes_pack]
  refine performs_usbipNetSendOpCommon (performs_usbipNetSend (performs_usbipNetRecvOpCommon ?_))
  have hcode : opCode e (rep.setWidth 16) (header rep ST_OK) = some (rep.setWidth 16) := by
    rw [opCode_header]
    simp
  rw [hcode]
  exact .nil _

/-- A lookup that finds the device, as a run. -/
lemma performs_withDevice {fails : Int → Bool} {work : UsbipExportedDevice → Tool Bool}
    (hopen : fails (ans .driverOpen) = false) (hrefresh : ans .refreshDeviceList = (rc, edevs))
    (hrc : 0 ≤ rc) (hfound : usbipGetDevice edevs busid = some edev)
    (hwork : Proc.Performs ans (work edev) t (.done true)) :
    Proc.Performs ans (withDevice busid fails work)
      (.host .driverOpen (ans _) :: .host .refreshDeviceList (ans _) ::
        (t ++ [.host .freeDeviceList (ans _), .host .driverClose (ans _)])) (.done 0) := by
  rw [withDevice]
  refine performs_call ?_
  rw [if_neg (by simp [hopen])]
  refine performs_call ?_
  rw [hrefresh, if_neg (not_lt.mpr hrc)]
  dsimp only
  rw [hfound]
  exact hwork.bind (performs_call (performs_call (.nil _)))

end Performs

/-- The stick is found by its bus id. -/
lemma getDevice_stick : usbipGetDevice [stick] [0x31, 0x2d, 0x31] = some stick :=
  List.find?_cons_of_pos (by decide)

/-- Both hosts do everything that they are asked for. -/
lemma connect_exchange :
    ∃ s, Session.Reach (usbipConnectDevice .little [] [] [0x31, 0x2d, 0x31])
        (usbipdRecvPdu .big (usbipaOps .big 1) [] []) s ∧
      .host (.exportDevice stick) (0 : Int) ∈ s.leftTrace := by
  have hwork : Proc.Performs (willing [stick]) (exportDevice .little [0x31, 0x2d, 0x31])
      [.host .driverOpen (0 : Int), .host .refreshDeviceList (0, [stick]),
        .sent (header Exported.OP_REQ_EXPORT 0), .sent stick.udev.wire,
        .got (header Exported.OP_REP_EXPORT ST_OK), .host (.exportDevice stick) (0 : Int),
        .host (.tryTransfer stick) (0 : Int), .host .freeDeviceList (), .host .driverClose ()]
      (.done 0) := by
    refine performs_withDevice (t := [.sent (header Exported.OP_REQ_EXPORT 0),
      .sent stick.udev.wire, .got (header Exported.OP_REP_EXPORT ST_OK),
      .host (.exportDevice stick) (0 : Int), .host (.tryTransfer stick) (0 : Int)])
      rfl rfl le_rfl getDevice_stick ?_
    exact (performs_sendRequest _ _ _ _).bind (performs_call (performs_call (.nil _)))
  have hclient : Proc.Performs (willing [stick])
      (usbipConnectDevice .little [] [] [0x31, 0x2d, 0x31])
      ([.host (.bindDevice [0x31, 0x2d, 0x31]) (0 : Int), .host (.connOpen [] []) true,
        .host .uxSetup (), .host .driverOpen (0 : Int), .host .refreshDeviceList (0, [stick]),
        .sent (header Exported.OP_REQ_EXPORT 0), .sent stick.udev.wire] ++
      [.got (header Exported.OP_REP_EXPORT ST_OK), .host (.exportDevice stick) (0 : Int),
        .host (.tryTransfer stick) (0 : Int), .host .freeDeviceList (), .host .driverClose (),
        .host .hasTransferred (0 : Int), .host .connClose (), .host .uxCleanup ()])
      (.done 0) := by
    rw [usbipConnectDevice]
    exact performs_call ((performs_usbipConnOpen rfl).bind (hwork.bind
      (performs_call (performs_call (performs_call (.nil _))))))
  have hproc : Proc.Performs (willing []) (recvRequestExport .big 1 [] [])
      [.got stick.udev.wire, .host .vhciGetFreePort (0 : Int),
        .host (.vhciAttachDevice 0 1 2 3) (0, 0),
        .host (.vhciCreateRecord [] [] stick.udev.busid 0) (0 : Int),
        .sent (header Exported.OP_REP_EXPORT ST_OK), .host .uxTryTransfer (0 : Int)]
      (.done (some 0)) := by
    have hstatus : Proc.Performs (willing [])
        (importDeviceStatus 1 [] [] stick.udev.busid stick.udev)
        [.host .vhciGetFreePort (0 : Int), .host (.vhciAttachDevice 0 1 2 3) (0, 0),
          .host (.vhciCreateRecord [] [] stick.udev.busid 0) (0 : Int)] (.done (some ST_OK)) :=
      (performs_tryFreePorts rfl le_rfl le_rfl).bind (performs_call (.nil _))
    rw [recvRequestExport]
    refine performs_usbipNetRecv ⟨stick.udev.wire, stick.udev.length_wire⟩ ?_
    dsimp only
    rw [UsbDevice.unpack_wire]
    exact hstatus.bind (performs_usbipNetSendOpCommon (performs_call (.nil _)))
  obtain ⟨q, hask, htake⟩ := hclient.split
  have hserver := performs_usbipdRecvPdu .big [] [] (findOp_export .big 1) rfl hproc
  obtain ⟨n, hsteps⟩ := Session.exchange hask hserver htake rfl rfl rfl
  exact ⟨_, hsteps.reach, by simp⟩

/-- Whatever the order of the steps, wherever the connection breaks and whatever fails on either
host: when `usbip connect` exports a device, it is the one that was found under the busid, and the
daemon has attached its numbers to a port before, has recorded them under the names of the client
and the device, and does not detach them. -/
theorem exported_was_taken {e₁ e₂ : Endian} {tries : Nat} {host port busid host' port' : List Byte}
    {s : Session Byte HostCall.Answer HostCall.Answer Int (Option Int)}
    (h : Session.Reach (usbipConnectDevice e₁ host port busid)
      (usbipdRecvPdu e₂ (usbipaOps e₂ tries) host' port') s)
    {edev : UsbipExportedDevice} {rc : Int}
    (hexport : .host (.exportDevice edev) rc ∈ s.leftTrace) :
    (∃ edevs : Int × List UsbipExportedDevice, .host .refreshDeviceList edevs ∈ s.leftTrace ∧
      usbipGetDevice edevs.2 busid = some edev) ∧
      TakenOn host' port' edev.udev s.rightTrace := by
  have hcon := h.consistent
  have hclient := spec_usbipConnectDevice e₁ host port busid _ _ hcon.left
  obtain ⟨-, -, hnone⟩ | ⟨edevs, found, hrefresh, hfound, hworks⟩ := hclient
  · exact absurd trivial (hnone _ _ hexport).2
  obtain rfl : found = edev := Option.some.inj (hworks.exports _ _ hexport)
  have hgranted := hworks.calls.resolve_left fun hcalls => absurd trivial (hcalls _ _ hexport)
  have hright : gotBy s.rightTrace <+: sentBy s.leftTrace := ⟨_, hcon.toRight.symm⟩
  have hleft : gotBy s.leftTrace <+: sentBy s.rightTrace := ⟨_, hcon.toLeft.symm⟩
  have hserver := spec_usbipa_export e₂ tries host' port' found.udev _ _ hcon.right
    (hright.trans hworks.sent)
  exact ⟨⟨edevs, hrefresh, hfound⟩, served_of_granted hgranted hserver hleft⟩

/-- Both hosts do everything that they are asked for. -/
theorem exported_was_taken_willing :
    ∃ s : Session Byte HostCall.Answer HostCall.Answer Int (Option Int),
      .host (.exportDevice stick) (0 : Int) ∈ s.leftTrace ∧
      (∃ edevs : Int × List UsbipExportedDevice, .host .refreshDeviceList edevs ∈ s.leftTrace ∧
        usbipGetDevice edevs.2 [0x31, 0x2d, 0x31] = some stick) ∧
      TakenOn [] [] stick.udev s.rightTrace := by
  obtain ⟨s, h, hexport⟩ := connect_exchange
  exact ⟨s, hexport, exported_was_taken h hexport⟩

end Usbip.Tools.Requests
