import Usbip.Tools.Import

/-!
# Listing the devices of another host

`usbip list` asks `usbipd` for its devices and prints what it is sent.  The reply has no length of
its own: the number of devices comes first, and each device says how many interfaces follow it.  A
device is printed as soon as it has come, so that a connection that breaks leaves a part of the list
printed.  Wherever it breaks, what is printed is the front of what the daemon had found, in its order
and each device with its interfaces, and all of it if the client succeeds (`listed_was_exported`).
-/

namespace Usbip.Tools.Requests

open Usbip.Core Usbip.Common

variable {e : Endian} {t : Trace} {α γ : Type}

/-! ## What is printed -/

/-- What is printed of a device or an interface. -/
inductive Line
  | device (udev : UsbDevice)
  | interface (j : Nat) (uintf : UsbInterface)
  deriving DecidableEq

def lineOf : HostCall → Option Line
  | .printDevice udev => some (.device udev)
  | .printInterface j uintf => some (.interface j uintf)
  | _ => none

def lineBy : Act Byte HostCall.Answer → Option Line
  | .host l _ => lineOf l
  | .sent _ | .got _ => none

/-- Everything that has been printed. -/
def printed (t : Trace) : List Line := t.filterMap lineBy

/-- No action prints nothing. -/
@[simp] lemma printed_nil : printed [] = [] := rfl

/-- What two traces print, one after the other. -/
@[simp] lemma printed_append (t u : Trace) : printed (t ++ u) = printed t ++ printed u :=
  List.filterMap_append

/-- A send prints nothing. -/
@[simp] lemma printed_sent (b : List Byte) (t : Trace) : printed (.sent b :: t) = printed t := rfl

/-- A receive prints nothing. -/
@[simp] lemma printed_got (b : List Byte) (t : Trace) : printed (.got b :: t) = printed t := rfl

/-- A call prints its line. -/
@[simp] lemma printed_host (l : HostCall) (r : l.Answer) (t : Trace) :
    printed (.host l r :: t) = (lineOf l).toList ++ printed t := by
  have hline : lineBy (.host l r) = lineOf l := rfl
  rw [printed, List.filterMap_cons, hline]
  cases lineOf l <;> rfl

/-- The calls of the connection print nothing. -/
lemma HostCall.IsConn.lineOf {l : HostCall} (h : l.IsConn) : lineOf l = none := by
  cases l <;> first | rfl | exact absurd h not_false

/-- The calls of the connection print nothing together. -/
lemma printed_of_isConn (h : Local HostCall.IsConn t) : printed t = [] := by
  refine List.filterMap_eq_nil_iff.mpr fun ev hev => ?_
  obtain ⟨l, r, rfl, hl⟩ := h ev hev
  exact hl.lineOf

/-- What is to be printed of a list of devices. -/
def listing (edevs : List UsbipExportedDevice) : List Line :=
  edevs.flatMap fun d => .device d.udev :: d.uinf.zipIdx.map fun x => .interface x.2 x.1

/-! ## The loops -/

/-- A list is sent as its elements behind one another. -/
lemma sends_sendAll {send : α → Tool Bool} {wire : α → List Byte}
    (h : ∀ x, Proc.Sends (send x) (wire x)) (xs : List α) :
    Proc.Sends (sendAll send xs) (xs.flatMap wire) := by
  induction xs with
  | nil => exact .nil
  | cons x xs ih =>
      rw [List.flatMap_cons]
      exact (h x).bind rfl rfl ih

/-- A program that prints `ls` or the front of it, as far as what it reads begins with `w`; when it
succeeds, it has read `w` and printed all of `ls`. -/
def Prints (p : Tool α) (ok : α → Prop) (w : List Byte) (ls : List Line) : Prop :=
  p.Spec fun t c => ∀ rest, gotBy t <+: w ++ rest → printed t <+: ls ∧
    ∀ a, c = .done a → ok a → printed t = ls ∧ gotBy t = w

section Prints

variable {ok : α → Prop} {w w' : List Byte} {ls ls' : List Line}

/-- A program that is done prints nothing. -/
lemma prints_done (a : α) (ok : α → Prop) : Prints (.done a) ok [] [] :=
  .done fun _ _ => ⟨List.prefix_rfl, fun _ _ _ => ⟨rfl, rfl⟩⟩

/-- The second program goes on only when the first has read and printed everything. -/
lemma Prints.bind {p : Tool α} {f : α → Tool γ} {ok' : γ → Prop} (hp : Prints p ok w ls)
    (hf : ∀ a, ok a → Prints (f a) ok' w' ls')
    (hfail : ∀ a, ¬ ok a → ∃ b, ¬ ok' b ∧ f a = .done b) :
    Prints (p >>= f) ok' (w ++ w') (ls ++ ls') := by
  have hfront : ∀ t : Trace, ∀ c : Proc.Place α, (∀ rest, gotBy t <+: w ++ rest →
      printed t <+: ls ∧ ∀ a, c = .done a → ok a → printed t = ls ∧ gotBy t = w) →
      ∀ rest, gotBy t <+: w ++ w' ++ rest → printed t <+: ls ++ ls' := fun t c ht rest hgot =>
    (ht (w' ++ rest) (by rwa [← List.append_assoc])).1.trans (List.prefix_append ls ls')
  refine Proc.Spec.bind hp (fun t ht rest hgot => ⟨hfront t _ ht rest hgot, nofun⟩)
    (fun t n ht rest hgot => ⟨hfront t _ ht rest hgot, nofun⟩) fun a t ht => ?_
  by_cases ha : ok a
  · refine Proc.Spec.mono (hf a ha) fun u c hu rest hgot => ?_
    rw [gotBy_append, List.append_assoc] at hgot
    obtain ⟨hprinted, hread⟩ := (ht (w' ++ rest) ((List.prefix_append _ _).trans hgot)).2 a rfl ha
    rw [hread, List.prefix_append_right_inj] at hgot
    obtain ⟨hfront', hdone⟩ := hu rest hgot
    rw [printed_append, gotBy_append, hprinted, hread]
    exact ⟨(List.prefix_append_right_inj ls).mpr hfront', fun b hc hb =>
      ⟨by rw [(hdone b hc hb).1], by rw [(hdone b hc hb).2]⟩⟩
  · obtain ⟨b, hb, hfa⟩ := hfail a ha
    rw [hfa]
    refine .done fun rest hgot => ⟨by simpa using hfront t _ ht rest (by simpa using hgot), ?_⟩
    intro b' hc hb'
    cases hc
    exact absurd hb' hb

/-- What is read is what is expected, or it was not sent. -/
lemma prints_recv {n : Nat} {f : Option {b : List Byte // b.length = n} → Tool α} {a : α}
    (b : {b : List Byte // b.length = n}) (hfail : f none = .done a) (ha : ¬ ok a)
    (hf : Prints (f (some b)) ok w ls) : Prints (usbipNetRecv n >>= f) ok (b.1 ++ w) ls := by
  refine spec_usbipNetRecv (fun _ _ => ⟨List.nil_prefix, nofun⟩) (fun b' => ?_) fun b' _ => ?_
  · by_cases hb : b' = b
    · subst hb
      refine Proc.Spec.mono hf fun t c ht rest hgot => ?_
      rw [gotBy_cons, Act.into_got, List.append_assoc, List.prefix_append_right_inj] at hgot
      obtain ⟨hprinted, hdone⟩ := ht rest hgot
      exact ⟨hprinted, fun a hc ha => ⟨(hdone a hc ha).1, by
        rw [gotBy_cons, Act.into_got, (hdone a hc ha).2]⟩⟩
    · intro t q _ rest hgot
      rw [gotBy_cons, Act.into_got, List.append_assoc] at hgot
      have hstarts : b'.1 <+: b.1 :=
        List.prefix_of_prefix_length_le ((List.prefix_append _ _).trans hgot)
          (List.prefix_append _ _) (b'.2.trans b.2.symm).le
      exact absurd (Subtype.ext (hstarts.eq_of_length (b'.2.trans b.2.symm))) hb
  · rw [hfail]
    refine .done fun _ _ => ⟨List.nil_prefix, fun a' hc ha' => ?_⟩
    cases hc
    exact absurd ha' ha

/-- A call prints its line before the others. -/
lemma prints_call {l : HostCall} {f : l.Answer → Tool α} (hf : ∀ r, Prints (f r) ok w ls) :
    Prints (call l >>= f) ok w ((lineOf l).toList ++ ls) := by
  refine spec_call (fun _ _ => ⟨List.nil_prefix, nofun⟩) fun r => ?_
  refine Proc.Spec.mono (hf r) fun t c ht rest hgot => ?_
  rw [gotBy_cons, Act.into_host, List.nil_append] at hgot
  obtain ⟨hprinted, hdone⟩ := ht rest hgot
  rw [printed_host, gotBy_cons, Act.into_host, List.nil_append]
  exact ⟨(List.prefix_append_right_inj _).mpr hprinted, fun a hc ha =>
    ⟨by rw [(hdone a hc ha).1], (hdone a hc ha).2⟩⟩

/-- A program that goes on with one that has succeeded, and fails with one that has failed. -/
lemma Prints.and_then {p : Tool Bool} {q : Tool α} {b : α} (hp : Prints p (· = true) w ls)
    (hq : Prints q ok w' ls') (hb : ¬ ok b) :
    Prints (p >>= fun ok => if ok = true then q else .done b) ok (w ++ w') (ls ++ ls') := by
  refine hp.bind (fun a ha => ?_) fun a ha => ⟨b, hb, if_neg ha⟩
  rw [if_pos ha]
  exact hq

/-- Rounds that each read and print an element of a list. -/
lemma prints_repeatAll {round : Nat → Tool Bool} {wire : γ → List Byte}
    {lines : γ → Nat → List Line} (h : ∀ x i, Prints (round i) (· = true) (wire x) (lines x i))
    (xs : List γ) (i : Nat) :
    Prints (repeatAll round xs.length i) (· = true) (xs.flatMap wire)
      ((xs.zipIdx i).flatMap fun x => lines x.1 x.2) := by
  induction xs generalizing i with
  | nil => exact prints_done true _
  | cons x xs ih =>
      rw [List.flatMap_cons, List.zipIdx_cons, List.flatMap_cons, List.length_cons]
      exact (h x i).and_then (ih (i + 1)) Bool.false_ne_true

end Prints

/-! ## The server -/

/-- The header is sent. -/
lemma sends_usbipNetSendOpCommon (e : Endian) (code status : BitVec 32) :
    Proc.Sends (usbipNetSendOpCommon e code status) (header code status) := by
  rw [usbipNetSendOpCommon, OpCommon.bytes_pack]
  exact .one _

/-- A device is sent with its interfaces. -/
lemma sends_sendExportedDevice (e : Endian) (edev : UsbipExportedDevice) :
    Proc.Sends (sendExportedDevice e edev) edev.wire := by
  rw [sendExportedDevice, UsbDevice.bytes_pack, UsbipExportedDevice.wire]
  refine (Proc.Sends.one _).bind rfl rfl ?_
  exact sends_sendAll (fun u => Proc.Sends.one (UsbInterface.bytes u)) edev.uinf

/-- Nothing is sent, or the front of the list that the daemon has made. -/
def ServedList (t : Trace) : Prop :=
  sentBy t = [] ∨ ∃ edevs : Int × List UsbipExportedDevice,
    .host .refreshDeviceList edevs ∈ t ∧ 0 ≤ edevs.1 ∧ sentBy t <+: devlistWire edevs.2

/-- What is sent before and behind nothing changes nothing. -/
lemma ServedList.surround (h : ServedList t) (pre : Trace) {post : Trace} (hpre : sentBy pre = [])
    (hpost : sentBy post = []) : ServedList (pre ++ t ++ post) := by
  have hall : sentBy (pre ++ t ++ post) = sentBy t := by simp [hpre, hpost]
  obtain hnone | ⟨edevs, hrefresh, hrc, hsent⟩ := h
  · exact .inl (hall.trans hnone)
  · exact .inr ⟨edevs, List.mem_append_left _ (List.mem_append_right _ hrefresh), hrc, hall ▸ hsent⟩

/-- `usbipd` answers with the devices that it has exported. -/
lemma spec_recvRequestDevlist (e : Endian) :
    (recvRequestDevlist e).Spec fun t c => ServedList t ∧ gotBy t = [] ∧ ∀ n, c ≠ .waits n := by
  rw [recvRequestDevlist]
  refine spec_call ⟨.inl rfl, rfl, nofun⟩ fun edevs => ?_
  split_ifs with hrc
  · exact .done ⟨.inl rfl, rfl, nofun⟩
  · have hreply : Proc.Sends (do
        unless ← usbipNetSendOpCommon e OP_REP_DEVLIST ST_OK do return false
        unless ← usbipNetSend (wordBytes e
          (usbipNetPackUint32T e true (BitVec.ofNat 32 edevs.2.length))) do return false
        sendAll (sendExportedDevice e) edevs.2 : Tool Bool) (devlistWire edevs.2) := by
      rw [wordBytes_pack]
      exact (sends_usbipNetSendOpCommon e _ _).bind rfl rfl
        ((Proc.Sends.one _).bind rfl rfl (sends_sendAll (sends_sendExportedDevice e) edevs.2))
    have hserved : ∀ t : Trace, sentBy t <+: devlistWire edevs.2 →
        ServedList (.host .refreshDeviceList edevs :: t) := fun t ht =>
      .inr ⟨edevs, List.mem_cons_self, not_lt.mp hrc, ht⟩
    refine Proc.Spec.bind hreply (fun t ht => ⟨hserved t ht.1, ht.2.1, nofun⟩)
      (fun t n ht => absurd rfl (ht.2.2.1 n)) fun sent t ⟨hsent, hgot, _⟩ => ?_
    refine Proc.Spec.mono (show Proc.Stays _ fun _ => True from
      stays_call trivial fun _ => .done _) fun u c ⟨hu, hgoes⟩ => ⟨hserved _ ?_, ?_, hgoes⟩
    · simpa [hu.sentBy] using hsent
    · simp [hgot, hu.gotBy]

/-- `usbipd` serves the list request. -/
lemma findOp_devlist (e : Endian) :
    findOp (usbipdOps e) (OP_REQ_DEVLIST.setWidth 16) =
      some ⟨OP_REQ_DEVLIST.setWidth 16, some fun _ _ => recvRequestDevlist e⟩ := rfl

/-- The whole daemon at a list request. -/
lemma spec_usbipd_devlist (e : Endian) (host port : List Byte) :
    (usbipdRecvPdu e (usbipdOps e) host port).Spec fun t _ =>
      gotBy t <+: header OP_REQ_DEVLIST 0 ++ [] → ServedList t := by
  refine spec_usbipdRecvPdu (findOp_devlist e) rfl ?_ ?_ ?_
  · exact fun t hsent _ => .inl hsent
  · exact fun pre t post hsent _ hpost ht => ht.surround pre hsent hpost.sentBy
  · exact (spec_recvRequestDevlist e).mono fun t c ht _ => ht.1

/-! ## The client -/

/-- An interface is printed behind its bytes. -/
lemma prints_listInterface (u : UsbInterface) (j : Nat) :
    Prints (listInterface j) (· = true) u.bytes [.interface j u] := by
  rw [listInterface, ← List.append_nil u.bytes]
  exact prints_recv ⟨u.bytes, rfl⟩ rfl Bool.false_ne_true (prints_call fun _ => prints_done true _)

/-- The client takes the number of interfaces from the device that it has just read. -/
lemma prints_listDevice (e : Endian) (edev : UsbipExportedDevice) :
    Prints (listDevice e) (· = true) edev.wire (listing [edev]) := by
  refine prints_recv ⟨edev.udev.wire, edev.udev.length_wire⟩ rfl Bool.false_ne_true ?_
  dsimp only
  rw [UsbDevice.unpack_wire, ← edev.length_uinf, listing, List.flatMap_singleton]
  have hinterfaces := prints_repeatAll prints_listInterface edev.uinf 0
  rw [← List.map_eq_flatMap] at hinterfaces
  refine prints_call fun _ => ?_
  rw [← List.append_nil (edev.uinf.flatMap _), ← List.append_nil (List.map _ _)]
  exact hinterfaces.and_then (prints_call fun _ => prints_done true _) Bool.false_ne_true

/-- A header of a reply. -/
lemma prints_usbipNetRecvOpCommon (e : Endian) (rep : BitVec 32) {f : Option (BitVec 16) → Tool α}
    {ok : α → Prop} {a : α} {w : List Byte} {ls : List Line} (hfail : f none = .done a)
    (ha : ¬ ok a) (hf : Prints (f (some (rep.setWidth 16))) ok w ls) :
    Prints (usbipNetRecvOpCommon e (rep.setWidth 16) >>= f) ok (header rep ST_OK ++ w) ls := by
  refine prints_recv ⟨header rep ST_OK, length_header rep ST_OK⟩ hfail ha ?_
  show Prints (f (opCode e (rep.setWidth 16) (header rep ST_OK))) ok w ls
  rw [opCode_header, if_neg (by simp), if_neg (by simp)]
  exact hf

/-- What the client does with the reply. -/
lemma prints_devlist (e : Endian) (host : List Byte) {edevs : List UsbipExportedDevice}
    (hndevs : edevs.length < 2 ^ 32) :
    Prints (do
      let some _ ← usbipNetRecvOpCommon e (OP_REP_DEVLIST.setWidth 16) | return -1
      let some b ← usbipNetRecv 4 | return -1
      let ndev := usbipNetPackUint32T e false (wordOf e b.1)
      call (.printHeading host (ndev = 0))
      if ← repeatAll (fun _ => listDevice e) ndev.toNat 0 then return 0
      else return -1 : Tool Int) (0 ≤ ·) (devlistWire edevs) (listing edevs) := by
  refine prints_usbipNetRecvOpCommon e OP_REP_DEVLIST rfl (by decide) ?_
  refine prints_recv ⟨be32Bytes (BitVec.ofNat 32 edevs.length), rfl⟩ rfl (by decide) ?_
  dsimp only
  rw [unpack_wordOf, BitVec.toNat_ofNat, Nat.mod_eq_of_lt hndevs]
  have hdevices := prints_repeatAll (fun d _ => prints_listDevice e d) edevs 0
  have hlines : ((edevs.zipIdx 0).flatMap fun x => listing [x.1]) = listing edevs := by
    rw [← List.flatMap_map Prod.fst (fun d => listing [d]), List.zipIdx_map_fst]
    simp only [listing, List.flatMap_singleton]
  rw [hlines] at hdevices
  rw [← List.append_nil (edevs.flatMap _), ← List.append_nil (listing edevs)]
  exact prints_call fun _ => hdevices.and_then (prints_done 0 _) (by decide)

/-- What the client prints, and that it succeeds only when it has read a whole reply. -/
lemma spec_usbipListImportableDevices (e : Endian) (host port : List Byte) :
    (usbipListImportableDevices e host port).Spec fun t c => ∀ edevs : List UsbipExportedDevice,
      edevs.length < 2 ^ 32 → gotBy t <+: devlistWire edevs → printed t <+: listing edevs ∧
        (c = .done 0 → printed t = listing edevs ∧ gotBy t = devlistWire edevs) := by
  have hget : (getImportableDevices e host).Spec fun t c => ∀ edevs : List UsbipExportedDevice,
      edevs.length < 2 ^ 32 → gotBy t <+: devlistWire edevs → printed t <+: listing edevs ∧
        ∀ rc : Int, c = .done rc → 0 ≤ rc → printed t = listing edevs ∧
          gotBy t = devlistWire edevs := by
    rw [getImportableDevices]
    refine spec_usbipNetSendOpCommon (fun _ _ _ => ⟨by simp, nofun⟩) ?_ fun n _ => .done
      fun _ _ _ => ⟨by simp, ?_⟩
    · intro u q hu edevs hndevs hgot
      exact prints_devlist e host hndevs u q hu [] (by simpa using hgot)
    · rintro rc ⟨⟩ hrc
      exact absurd hrc (by decide)
  rw [usbipListImportableDevices]
  refine (stays_usbipConnOpen host port).spec_bind (fun t ht _ _ _ => ?_) fun connected pre hpre => ?_
  · exact ⟨by simp [printed_of_isConn ht], nofun⟩
  · cases connected with
    | false => exact .done fun _ _ _ => ⟨by simp [printed_of_isConn hpre], nofun⟩
    | true =>
        rw [if_pos rfl]
        refine Proc.Spec.bind hget (fun t ht edevs hndevs hgot => ?_)
          (fun t n ht edevs hndevs hgot => ?_) fun rc t ht => ?_
        · rw [gotBy_append, hpre.gotBy] at hgot
          exact ⟨by simpa [printed_of_isConn hpre] using (ht edevs hndevs hgot).1, nofun⟩
        · rw [gotBy_append, hpre.gotBy] at hgot
          exact ⟨by simpa [printed_of_isConn hpre] using (ht edevs hndevs hgot).1, nofun⟩
        · have hgot : ∀ u : Trace, Local HostCall.IsConn u →
              gotBy (pre ++ (t ++ u)) = gotBy t ∧ printed (pre ++ (t ++ u)) = printed t := by
            intro u hu
            simp [hpre.gotBy, hu.gotBy, printed_of_isConn hpre, printed_of_isConn hu]
          refine stays_usbipConnClose.spec_bind (fun u hu edevs hndevs => ?_) fun _ u hu => .done
            fun edevs hndevs => ?_
          · rw [(hgot u hu).1, (hgot u hu).2]
            exact fun h => ⟨(ht edevs hndevs h).1, nofun⟩
          · rw [List.append_nil, (hgot u hu).1, (hgot u hu).2]
            refine fun h => ⟨(ht edevs hndevs h).1, fun hc => (ht edevs hndevs h).2 rc rfl ?_⟩
            by_contra hneg
            rw [if_pos (not_le.mp hneg)] at hc
            cases hc

/-- A loop sends nothing when no round does. -/
lemma asksFor_repeatAll {round : Nat → Tool Bool} (h : ∀ i, (round i).AsksFor []) (n i : Nat) :
    (repeatAll round n i).AsksFor [] := by
  induction n generalizing i with
  | zero => exact .done _ _
  | succ n ih =>
      refine (h i).bind fun ok => ?_
      cases ok with
      | false => exact .done _ _
      | true => exact ih (i + 1)

/-- A call sends nothing. -/
lemma asksFor_call {l : HostCall} {f : l.Answer → Tool α} (hf : ∀ r, (f r).AsksFor []) :
    (call l >>= f).AsksFor [] :=
  Proc.Stays.asksFor_bind (A := fun _ => True) (.host trivial fun _ => .done _) hf

/-- Nothing but the request is sent. -/
lemma asksFor_usbipListImportableDevices (e : Endian) (host port : List Byte) :
    (usbipListImportableDevices e host port).AsksFor (header OP_REQ_DEVLIST 0) := by
  have hinterface : ∀ j, (listInterface j).AsksFor [] := by
    refine fun j => .recv fun b => ?_
    cases b with
    | none => exact .done _ _
    | some b => exact asksFor_call fun _ => .done _ _
  have hdevice : (listDevice e).AsksFor [] := by
    refine .recv fun b => ?_
    cases b with
    | none => exact .done _ _
    | some b =>
        refine asksFor_call fun _ => (asksFor_repeatAll hinterface _ 0).bind fun ok => ?_
        cases ok with
        | false => exact .done _ _
        | true => exact asksFor_call fun _ => .done _ _
  have hreply : Proc.AsksFor (do
      let some _ ← usbipNetRecvOpCommon e (OP_REP_DEVLIST.setWidth 16) | return -1
      let some b ← usbipNetRecv 4 | return -1
      let ndev := usbipNetPackUint32T e false (wordOf e b.1)
      call (.printHeading host (ndev = 0))
      if ← repeatAll (fun _ => listDevice e) ndev.toNat 0 then return 0
      else return -1 : Tool Int) [] := by
    refine Proc.AsksFor.bind (.recv fun b => by cases b <;> exact .done _ _) fun code => ?_
    cases code with
    | none => exact .done _ _
    | some code =>
        refine .recv fun b => ?_
        cases b with
        | none => exact .done _ _
        | some b =>
            refine asksFor_call fun _ => (asksFor_repeatAll (fun _ => hdevice) _ 0).bind fun ok => ?_
            cases ok <;> exact .done _ _
  rw [usbipListImportableDevices]
  refine (stays_usbipConnOpen host port).asksFor_bind fun connected => ?_
  cases connected with
  | false => exact .done _ _
  | true =>
      rw [if_pos rfl, ← List.append_nil (header OP_REQ_DEVLIST 0)]
      refine Proc.AsksFor.bind_stays ?_ fun ret => stays_usbipConnClose.bind fun _ => .done _
      exact (sends_usbipNetSendOpCommon e OP_REQ_DEVLIST 0).asksFor_bind hreply rfl

/-! ## Both together -/

/-- Whatever the order of the steps and wherever the connection breaks: what `usbip list` has printed
is nothing, or the front of a list that the daemon has made, in its order and each device with its
interfaces; and it is the whole list if `usbip list` succeeds. -/
theorem listed_was_exported {e₁ e₂ : Endian} {host port host' port' : List Byte}
    {s : Session Byte HostCall.Answer HostCall.Answer Int (Option Int)}
    (h : Session.Reach (usbipListImportableDevices e₁ host port)
      (usbipdRecvPdu e₂ (usbipdOps e₂) host' port') s) :
    (printed s.leftTrace = [] ∧ s.left ≠ .done 0) ∨
      ∃ edevs : Int × List UsbipExportedDevice, .host .refreshDeviceList edevs ∈ s.rightTrace ∧
        0 ≤ edevs.1 ∧ (edevs.2.length < 2 ^ 32 → printed s.leftTrace <+: listing edevs.2 ∧
          (s.left = .done 0 → printed s.leftTrace = listing edevs.2)) := by
  obtain ⟨⟨hclient, hasks⟩, hserver, hright, hleft⟩ := h.spec
    ((spec_usbipListImportableDevices e₁ host port).and
      (asksFor_usbipListImportableDevices e₁ host port))
    (spec_usbipd_devlist e₂ host' port')
  have hplace : s.left = .done 0 → s.left.place = .done 0 := fun hdone => by rw [hdone]; rfl
  obtain hnone | ⟨edevs, hrefresh, hrc, hsent⟩ :=
    hserver (by simpa using hright.trans hasks.1)
  · -- nothing has come, and a list that has come is at least a header long
    rw [hnone] at hleft
    obtain ⟨hprinted, hdone⟩ := hclient [] (by decide) (hleft.trans List.nil_prefix)
    refine .inl ⟨List.prefix_nil.mp hprinted, fun hleft' => ?_⟩
    have hgot := (hdone (hplace hleft')).2
    rw [List.prefix_nil.mp hleft] at hgot
    cases hgot
  · refine .inr ⟨edevs, hrefresh, hrc, fun hndevs => ?_⟩
    obtain ⟨hprinted, hdone⟩ := hclient edevs.2 hndevs (hleft.trans hsent)
    exact ⟨hprinted, fun hleft' => (hdone (hplace hleft')).1⟩

/-! ### A connection that breaks behind the first device -/

section Performs

variable {ans : ∀ l : HostCall, l.Answer}

/-- A list that is sent whole, as a run. -/
lemma performs_sendAll {send : α → Tool Bool} {acts : α → Trace}
    (h : ∀ x, Proc.Performs ans (send x) (acts x) (.done true)) (xs : List α) :
    Proc.Performs ans (sendAll send xs) (xs.flatMap acts) (.done true) := by
  induction xs with
  | nil => exact .nil _
  | cons x xs ih =>
      rw [List.flatMap_cons]
      refine (h x).bind ?_
      rwa [if_pos rfl]

/-- A device that is sent whole, as a run. -/
lemma performs_sendExportedDevice (e : Endian) (edev : UsbipExportedDevice) :
    Proc.Performs ans (sendExportedDevice e edev)
      (.sent edev.udev.wire :: edev.uinf.flatMap fun u => [.sent u.bytes]) (.done true) := by
  rw [sendExportedDevice, UsbDevice.bytes_pack]
  exact performs_usbipNetSend (performs_sendAll (fun u => performs_usbipNetSend (.nil _)) _)

/-- The daemon writes out its list. -/
lemma performs_recvRequestDevlist (e : Endian) {edevs : List UsbipExportedDevice}
    (hrefresh : ans .refreshDeviceList = (0, edevs)) :
    Proc.Performs ans (recvRequestDevlist e)
      (.host .refreshDeviceList (ans _) :: (.sent (header OP_REP_DEVLIST ST_OK) ::
        .sent (be32Bytes (BitVec.ofNat 32 edevs.length)) :: (edevs.flatMap fun d =>
          .sent d.udev.wire :: d.uinf.flatMap fun u => [.sent u.bytes]) ++
        [.host .freeDeviceList (ans _)])) (.done (some 0)) := by
  rw [recvRequestDevlist]
  refine performs_call ?_
  rw [hrefresh]
  refine Proc.Performs.bind (a := true) ?_ (performs_call (.nil _))
  rw [wordBytes_pack]
  exact performs_usbipNetSendOpCommon (performs_usbipNetSend
    (performs_sendAll (performs_sendExportedDevice e) edevs))

end Performs

/-- The client reads and prints the first of two devices. -/
lemma list_first :
    ∃ q, Proc.Performs (willing []) (usbipListImportableDevices .little [] [])
      ([.host (.connOpen [] []) true, .host .uxSetup (), .sent (header OP_REQ_DEVLIST 0)] ++
      [.got (header OP_REP_DEVLIST ST_OK), .got (be32Bytes 2), .host (.printHeading [] false) (),
        .got camera.udev.wire, .host (.printDevice camera.udev) (),
        .got (UsbInterface.bytes ⟨14, 1, 0, 0⟩), .host (.printInterface 0 ⟨14, 1, 0, 0⟩) (),
        .host .printEnd ()]) q := by
  have hdevice : Proc.Performs (willing []) (listDevice .little)
      [.got camera.udev.wire, .host (.printDevice camera.udev) (),
        .got (UsbInterface.bytes ⟨14, 1, 0, 0⟩), .host (.printInterface 0 ⟨14, 1, 0, 0⟩) (),
        .host .printEnd ()] (.done true) := by
    rw [listDevice]
    refine performs_usbipNetRecv ⟨camera.udev.wire, camera.udev.length_wire⟩ ?_
    dsimp only
    rw [UsbDevice.unpack_wire]
    refine performs_call ?_
    have hinterface : Proc.Performs (willing []) (repeatAll listInterface 1 0)
        [.got (UsbInterface.bytes ⟨14, 1, 0, 0⟩), .host (.printInterface 0 ⟨14, 1, 0, 0⟩) ()]
        (.done true) :=
      performs_usbipNetRecv ⟨UsbInterface.bytes ⟨14, 1, 0, 0⟩, rfl⟩ (performs_call (.nil _))
    exact hinterface.bind (performs_call (.nil _))
  have hget : Proc.Performs (willing []) (getImportableDevices .little [])
      (.sent (header OP_REQ_DEVLIST 0) :: .got (header OP_REP_DEVLIST ST_OK) ::
        .got (be32Bytes 2) :: .host (.printHeading [] false) () ::
        [.got camera.udev.wire, .host (.printDevice camera.udev) (),
          .got (UsbInterface.bytes ⟨14, 1, 0, 0⟩), .host (.printInterface 0 ⟨14, 1, 0, 0⟩) (),
          .host .printEnd ()])
      (repeatAll (fun _ => listDevice .little) 1 1 >>= fun ok =>
        if ok = true then .done 0 else .done (-1)) := by
    rw [getImportableDevices]
    refine performs_usbipNetSendOpCommon (performs_usbipNetRecvOpCommon ?_)
    rw [opCode_header]
    refine performs_usbipNetRecv ⟨be32Bytes 2, rfl⟩ ?_
    dsimp only
    rw [unpack_wordOf]
    exact performs_call ((hdevice.left _).left _)
  rw [usbipListImportableDevices]
  exact ⟨_, (performs_usbipConnOpen rfl).bind (hget.left _)⟩

/-- A daemon with two devices has sent both, and the client has printed the first. -/
theorem listed_was_exported_first :
    ∃ s : Session Byte HostCall.Answer HostCall.Answer Int (Option Int),
      printed s.leftTrace = [.device camera.udev, .interface 0 ⟨14, 1, 0, 0⟩] ∧
      ∃ edevs : Int × List UsbipExportedDevice, .host .refreshDeviceList edevs ∈ s.rightTrace ∧
        0 ≤ edevs.1 ∧
          (edevs.2.length < 2 ^ 32 → printed s.leftTrace <+: listing edevs.2) := by
  obtain ⟨q, hclient⟩ := list_first
  obtain ⟨p, hask, htake⟩ := hclient.split
  have hserve := performs_usbipdRecvPdu .big [] [] (findOp_devlist .big) rfl
    (@performs_recvRequestDevlist (willing [camera, disk]) .big [camera, disk] rfl)
  have hasked : Session.Steps (willing []) (willing [camera, disk]) _
      { left := usbipListImportableDevices .little [] [],
        right := usbipdRecvPdu .big (usbipdOps .big) [] [] } _ :=
    Session.steps_left hask (List.append_nil _).symm
  have hserved := hasked.trans (Session.steps_right hserve (List.append_nil _).symm)
  have hcamera : camera.uinf = [⟨14, 1, 0, 0⟩] := rfl
  have hdisk : disk.uinf = [⟨8, 6, 0x50, 0⟩, ⟨8, 6, 0x62, 1⟩] := rfl
  have hlisted := hserved.trans (Session.steps_left htake (show _ = _ ++ disk.wire by
    simp [hcamera, hdisk, UsbipExportedDevice.wire]))
  have hprinted : printed
      [.host (.connOpen [] []) true, .host .uxSetup (), .sent (header OP_REQ_DEVLIST 0),
        .got (header OP_REP_DEVLIST ST_OK), .got (be32Bytes 2), .host (.printHeading [] false) (),
        .got camera.udev.wire, .host (.printDevice camera.udev) (),
        .got (UsbInterface.bytes ⟨14, 1, 0, 0⟩), .host (.printInterface 0 ⟨14, 1, 0, 0⟩) (),
        .host .printEnd ()] = [.device camera.udev, .interface 0 ⟨14, 1, 0, 0⟩] := rfl
  obtain ⟨hnone, -⟩ | ⟨edevs, hrefresh, hrc, hlist⟩ := listed_was_exported hlisted.reach
  · exact absurd (hprinted.symm.trans hnone) (List.cons_ne_nil _ _)
  · exact ⟨_, hprinted, edevs, hrefresh, hrc, fun hndevs => (hlist hndevs).1⟩

end Usbip.Tools.Requests
