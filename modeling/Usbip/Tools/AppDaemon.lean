import Usbip.Core.Machine
import Usbip.Tools.Records

/-!
# The children of the application daemon

`usbipd_app` forks a child for every connection, which serves one request.  An export gets a free
port, attaches the device to it and creates the record of the port; an unexport finds a port by its
record, detaches it and deletes the record.  The kernel and the files know nothing of each other,
and the children nothing of one another: a record can outlive its connection, and a port that has
been found can have another connection when it is detached.

A status attribute is read at once; a line is read from the file that was there when it was opened.
`OnlyFor` says that nobody can take a port for one of another host and bus id.  Every port in use
is so, in the runs whose attaches and whose writes of records leave it at that
(`unexport_detaches_own`).
-/

namespace Usbip.Tools.App

open Usbip.Core Usbip.Common

/-! ## The state -/

/-- A host and a bus id. -/
abbrev Key := List Char × List Char

/-- A port in use, by the request that its connection was made for. -/
structure Connection where
  key : Key
  status : UsbipDeviceStatus
  deriving DecidableEq

/-- What a line of a status attribute says of a port. -/
abbrev Line := Nat × UsbipDeviceStatus

/-- Where a child is, with the lines that it has read and not looked at, and the next controller. -/
inductive Stage
  /-- In `usbip_vhci_get_free_port`. -/
  | getFreePort (lines : List Line) (controller : Nat)
  /-- Before `usbip_vhci_attach_device`. -/
  | attach (port : Nat)
  /-- In `usbip_vhci_create_record`, before and after the file is opened. -/
  | openRecord (port : Nat)
  | writeRecord (port file : Nat)
  /-- At `err_detach_device`. -/
  | unrecorded (port : Nat)
  /-- In `usbip_vhci_find_device`. -/
  | findDevice (lines : List Line) (controller : Nat)
  /-- In `read_record`, with the file open. -/
  | readRecord (port file : Nat) (lines : List Line) (controller : Nat)
  /-- Before `usbip_vhci_detach_device`. -/
  | found (port : Nat)
  /-- Before `usbip_vhci_delete_record`. -/
  | detached (port : Nat)
  | done
  deriving DecidableEq

/-- A child, with the peer and the bus id of its request. -/
structure Child where
  host : List Char
  serv : List Char
  busid : List Char
  stage : Stage
  deriving DecidableEq

def Child.key (c : Child) : Key := (c.host, c.busid)

/-- A port that an unexport has detached, and the connection it had. -/
structure Detach where
  asked : Key
  port : Nat
  connection : Connection
  deriving DecidableEq

structure State where
  /-- The ports in use. -/
  vdev : Nat → Option Connection := fun _ => none
  /-- Which of its files is at the path of a port; one that is removed can still be open. -/
  files : Nat → Option Nat := fun _ => none
  /-- The text of each file of a port. -/
  texts : Nat → Nat → List Char := fun _ _ => []
  nextFile : Nat := 0
  children : List Child := []
  detaches : List Detach := []

/-! ## What the children do -/

def State.goto (s : State) (pid : Nat) (c : Child) (stage : Stage) : State :=
  { s with children := s.children.set pid { c with stage } }

/-- The lines of the attribute of a controller. -/
def statusLines (ports controller : Nat) (s : State) : List Line :=
  (List.range ports).map fun i =>
    (controller * ports + i, (s.vdev (controller * ports + i)).elim .vdevNull (·.status))

/-- The next attribute is read; the search ends when there is none, or it cannot be read.
Source: `vhci_driver.c`, `open_status` in `next_status_line`. -/
def openStatus (controllers ports : Nat) (ok : Bool) (s : State) : Stage → Option Stage
  | .getFreePort [] k =>
      some (if ok ∧ k < controllers then .getFreePort (statusLines ports k s) (k + 1) else .done)
  | .findDevice [] k =>
      some (if ok ∧ k < controllers then .findDevice (statusLines ports k s) (k + 1) else .done)
  | _ => none

/-- The next line, which may fail to parse and end the search, and the file of its port, which is
opened.  Source: `vhci_driver.c`, the loops of `usbip_vhci_get_free_port` and
`usbip_vhci_find_device`. -/
def parseLine (ok : Bool) (s : State) : Stage → Option Stage
  | .getFreePort ((port, status) :: lines) k =>
      some (if ok = false then .done
        else if status = .vdevNull then .attach port
        else .getFreePort lines k)
  | .findDevice ((port, status) :: lines) k =>
      some (if ok = false then .done
        else if status = .vdevNull ∨ status = .vdevNotassigned then .findDevice lines k
        else
          match s.files port with
          | none => .findDevice lines k
          | some file => .readRecord port file lines k)
  | _ => none

/-- The line is read and compared, unless a call fails.
Source: `vhci_driver.c`, `read_record` and `usbip_vhci_find_device`. -/
def readLine (ok : Bool) (s : State) (c : Child) : Option Stage :=
  match c.stage with
  | .readRecord port file lines k =>
      some (if ok ∧ Tools.readRecord (some (s.texts port file)) = some c.key then .found port
        else .findDevice lines k)
  | _ => none

/-- A port that is taken is `EBUSY`, and another one is looked for; `ok` is whether the attach of a
free one succeeds.  Source: `usbipd_app.c`, `import_device`, and `vhci_sysfs.c`, `store_attach`. -/
def attach (ok : Bool) (s : State) (pid : Nat) (c : Child) : Option State :=
  match c.stage with
  | .attach port =>
      match s.vdev port with
      | some _ => some (s.goto pid c (.getFreePort [] 0))
      | none =>
          if ok then
            some { s.goto pid c (.openRecord port) with
              vdev := Function.update s.vdev port (some ⟨c.key, .vdevNotassigned⟩) }
          else some (s.goto pid c .done)
  | _ => none

def State.setText (s : State) (port file : Nat) (text : List Char) : State :=
  { s with texts := Function.update s.texts port (Function.update (s.texts port) file text) }

/-- The file is opened and truncated.
Source: `vhci_driver.c`, `usbip_vhci_create_record`, up to `open`. -/
def openRecord (mkdir : Mkdir) (fd : Int) (s : State) (pid : Nat) (c : Child) : Option State :=
  match c.stage with
  | .openRecord port =>
      if mkdir.usable = false ∨ fd < 0 then some (s.goto pid c (.unrecorded port))
      else
        match s.files port with
        | some file => some ((s.setText port file []).goto pid c (.writeRecord port file))
        | none =>
            some { (s.setText port s.nextFile []).goto pid c (.writeRecord port s.nextFile) with
              files := Function.update s.files port (some s.nextFile)
              nextFile := s.nextFile + 1 }
  | _ => none

/-- The text that a write from the start of a file leaves. -/
def overwrite (text : List Char) (written : Int) (old : List Char) : List Char :=
  text.take written.toNat ++ old.drop (text.take written.toNat).length

/-- Source: `vhci_driver.c`, `usbip_vhci_create_record`, from `write`. -/
def writeRecord (written : Int) (s : State) (pid : Nat) (c : Child) : Option State :=
  match c.stage with
  | .writeRecord port file =>
      let buff := recordBuff c.host c.serv c.busid
      some ((s.setText port file (overwrite buff written (s.texts port file))).goto pid c
        (if written = buff.length then .done else .unrecorded port))
  | _ => none

/-- The kernel takes down the connection of a port in use some time later (`reset`).
Source: `usbipd_app.c`, `usbip_vhci_detach_device` in `unimport_device` and `import_device`. -/
def detach (ok : Bool) (s : State) (pid : Nat) (c : Child) : Option State :=
  match c.stage with
  | .found port =>
      match s.vdev port with
      | some connection =>
          if ok then
            some { s.goto pid c (.detached port) with
              detaches := s.detaches ++ [⟨c.key, port, connection⟩] }
          else some (s.goto pid c .done)
      | none => some (s.goto pid c .done)
  | .unrecorded _ => some (s.goto pid c .done)
  | _ => none

/-- Source: `vhci_driver.c`, `usbip_vhci_delete_record`. -/
def deleteRecord (removed : Bool) (s : State) (pid : Nat) (c : Child) : Option State :=
  match c.stage with
  | .detached port =>
      some { s.goto pid c .done with
        files := if removed then Function.update s.files port none else s.files }
  | _ => none

/-! ## The machine -/

inductive Action
  /-- `recv_request_export` and `recv_request_unexport` of a new child. -/
  | exportRequest (host serv busid : List Char)
  | unexportRequest (host serv busid : List Char)
  | openStatus (pid : Nat) (ok : Bool)
  | parseLine (pid : Nat) (ok : Bool)
  | readLine (pid : Nat) (ok : Bool)
  | attach (pid : Nat) (ok : Bool)
  | openRecord (pid : Nat) (mkdir : Mkdir) (fd : Int)
  | writeRecord (pid : Nat) (written : Int)
  | detach (pid : Nat) (ok : Bool)
  | deleteRecord (pid : Nat) (removed : Bool)
  /-- The kernel changes the state of a port in use. -/
  | status (port : Nat) (status : UsbipDeviceStatus)
  /-- The kernel ends a connection, which has been detached or has broken. -/
  | reset (port : Nat)

/-- Act for a child. -/
def State.onChild (s : State) (pid : Nat) (f : Child → Option State) : Option State :=
  (s.children[pid]?).bind f

def step (controllers ports : Nat) (s : State) : Action → Option State
  | .exportRequest host serv busid =>
      some { s with children := s.children ++ [⟨host, serv, busid, .getFreePort [] 0⟩] }
  | .unexportRequest host serv busid =>
      some { s with children := s.children ++ [⟨host, serv, busid, .findDevice [] 0⟩] }
  | .openStatus pid ok =>
      s.onChild pid fun c => (openStatus controllers ports ok s c.stage).map (s.goto pid c)
  | .parseLine pid ok => s.onChild pid fun c => (parseLine ok s c.stage).map (s.goto pid c)
  | .readLine pid ok => s.onChild pid fun c => (readLine ok s c).map (s.goto pid c)
  | .attach pid ok => s.onChild pid (attach ok s pid)
  | .openRecord pid mkdir fd => s.onChild pid (openRecord mkdir fd s pid)
  | .writeRecord pid written => s.onChild pid (writeRecord written s pid)
  | .detach pid ok => s.onChild pid (detach ok s pid)
  | .deleteRecord pid removed => s.onChild pid (deleteRecord removed s pid)
  | .status port status =>
      match s.vdev port with
      | some connection =>
          if status = .vdevNull then none
          else some { s with vdev := Function.update s.vdev port (some { connection with status }) }
      | none => none
  | .reset port => some { s with vdev := Function.update s.vdev port none }

/-- No port is in use and no child is there; records may have been left. -/
structure Started (s : State) : Prop where
  vdev : ∀ port, s.vdev port = none
  files : ∀ port file, s.files port = some file → file < s.nextFile
  children : s.children = []
  detaches : s.detaches = []

def machine (controllers ports : Nat) : Machine State Action where
  init := Started
  step := step controllers ports

/-! ## Ports that are taken for others -/

/-- A child is about to take a port for the one that it looks for. -/
def Child.Names (texts : Nat → Nat → List Char) (port : Nat) (c : Child) : Prop :=
  match c.stage with
  | .readRecord p file _ _ => p = port ∧ Tools.readRecord (some (texts port file)) = some c.key
  | .found p => p = port
  | _ => False

instance (texts : Nat → Nat → List Char) (port : Nat) (c : Child) :
    Decidable (c.Names texts port) := by
  unfold Child.Names
  split <;> infer_instance

/-- Nobody takes the port, nor can take it from its record, for one of another host or bus id. -/
def OnlyFor (s : State) (port : Nat) (key : Key) : Prop :=
  (∀ file ∈ s.files port, ∀ r ∈ Tools.readRecord (some (s.texts port file)), r = key) ∧
    ∀ c ∈ s.children, c.Names s.texts port → c.key = key

instance (s : State) (port : Nat) (key : Key) : Decidable (OnlyFor s port key) :=
  inferInstanceAs (Decidable (_ ∧ _))

/-- A file can be read, at its path or by a child that has opened it. -/
def Readable (s : State) (port file : Nat) : Prop :=
  s.files port = some file ∨
    ∃ c ∈ s.children, match c.stage with
      | .readRecord p f _ _ => p = port ∧ f = file
      | _ => False

instance (s : State) (port file : Nat) : Decidable (Readable s port file) := by
  have : ∀ c : Child, Decidable (match c.stage with
      | .readRecord p f _ _ => p = port ∧ f = file
      | _ => False) := by
    intro c
    split <;> infer_instance
  exact inferInstanceAs (Decidable (_ ∨ _))

/-- The condition on a child that attaches: the port that is free, of which nobody thinks that it
is another's. -/
def AttachesOwn (s : State) (c : Child) : Prop :=
  match c.stage with
  | .attach port => s.vdev port = none → OnlyFor s port c.key
  | _ => True

/-- The condition on a child that writes a record: it reads as one of the connection that the port
has, or not at all. -/
def RecordsOwn (s : State) (written : Int) (c : Child) : Prop :=
  match c.stage with
  | .writeRecord port file =>
      Readable s port file → ∀ connection ∈ s.vdev port,
        ∀ r ∈ Tools.readRecord (some (overwrite (recordBuff c.host c.serv c.busid) written
          (s.texts port file))), r = connection.key
  | _ => True

/-- Attaches and records leave no port to be taken for another's. -/
def Settled (s : State) : Action → Prop
  | .attach pid _ => ∀ c ∈ s.children[pid]?, AttachesOwn s c
  | .writeRecord pid written => ∀ c ∈ s.children[pid]?, RecordsOwn s written c
  | _ => True

instance (s : State) (a : Action) : Decidable (Settled s a) := by
  have hattach : ∀ c : Child, Decidable (AttachesOwn s c) := by
    intro c
    unfold AttachesOwn
    split <;> infer_instance
  have hwrite : ∀ (written : Int) (c : Child), Decidable (RecordsOwn s written c) := by
    intro written c
    unfold RecordsOwn
    split <;> infer_instance
  cases a <;> unfold Settled <;> infer_instance

/-- A child records its own connection when the port still has it, nobody else has written to the
file, and the host and the service have no space and the bus id no newline. -/
theorem recordsOwn_of_own {s : State} {c : Child} {port file : Nat} {written : Int}
    (hstage : c.stage = .writeRecord port file) (hhost : ' ' ∉ c.host) (hserv : ' ' ∉ c.serv)
    (hbusid : '\n' ∉ c.busid) (hempty : s.texts port file = [])
    (hown : ∀ connection ∈ s.vdev port, connection.key = c.key) : RecordsOwn s written c := by
  unfold RecordsOwn
  rw [hstage]
  dsimp only
  intro _ connection hv r hr
  have hfront : overwrite (recordBuff c.host c.serv c.busid) written (s.texts port file) <+:
      recordText c.host c.serv c.busid := by
    rw [hempty, overwrite, List.drop_nil, List.append_nil]
    exact (List.take_prefix _ _).trans (List.take_prefix _ _)
  rw [hown connection hv]
  exact reads_own hhost hserv hbusid hfront hr

/-! ## What a step does to it -/

/-- Every port in use is the one of its own connection, and no other has been detached. -/
structure Owned (s : State) : Prop where
  only : ∀ port connection, s.vdev port = some connection → OnlyFor s port connection.key
  detaches : ∀ d ∈ s.detaches, d.asked = d.connection.key

section Steps

variable {s t : State} {port pid file : Nat} {key : Key} {c : Child} {stage : Stage} {ok : Bool}

/-- A child that goes on names its port as before. -/
lemma OnlyFor.goto (h : OnlyFor s port key)
    (hnames : Child.Names s.texts port { c with stage } → c.key = key) :
    OnlyFor (s.goto pid c stage) port key := by
  refine ⟨h.1, fun c' hc' hn => ?_⟩
  rcases List.mem_or_eq_of_mem_set hc' with hc' | rfl
  · exact h.2 c' hc' hn
  · exact hnames hn

/-- A new text matters where the file can be read. -/
lemma OnlyFor.setText {text : List Char} {port' : Nat} (h : OnlyFor s port key)
    (htext : port' = port → Readable s port file →
      ∀ r ∈ Tools.readRecord (some text), r = key) :
    OnlyFor (s.setText port' file text) port key := by
  have hsame : ∀ f, (port' = port ∧ f = file ∧ (s.setText port' file text).texts port f = text) ∨
      (s.setText port' file text).texts port f = s.texts port f := by
    intro f
    unfold State.setText
    by_cases hport : port' = port
    · subst hport
      dsimp only
      rw [Function.update_self]
      by_cases hfile : f = file
      · subst hfile
        exact .inl ⟨rfl, rfl, Function.update_self ..⟩
      · exact .inr (Function.update_of_ne hfile ..)
    · dsimp only
      rw [Function.update_of_ne (Ne.symm hport)]
      exact .inr rfl
  constructor
  · intro f hf r hr
    rcases hsame f with ⟨hport, rfl, heq⟩ | heq
    · exact htext hport (.inl hf) r (heq ▸ hr)
    · exact h.1 f hf r (heq ▸ hr)
  · intro c hc hn
    cases hstage : c.stage with
    | readRecord p f lines k =>
        obtain ⟨hp, hread⟩ : p = port ∧ Tools.readRecord
            (some ((s.setText port' file text).texts port f)) = some c.key := by
          simpa only [Child.Names, hstage] using hn
        rcases hsame f with ⟨hport, rfl, heq⟩ | heq
        · refine htext hport (.inr ⟨c, hc, ?_⟩) c.key (heq ▸ hread)
          rw [hstage]
          exact ⟨hp, rfl⟩
        · refine h.2 c hc ?_
          rw [Child.Names, hstage]
          exact ⟨hp, heq ▸ hread⟩
    | found p =>
        refine h.2 c hc ?_
        rw [Child.Names, hstage]
        simpa only [Child.Names, hstage] using hn
    | _ => simp only [Child.Names, hstage] at hn

/-- An attribute names no port for anybody. -/
lemma not_names_openStatus {controllers ports : Nat}
    (h : openStatus controllers ports ok s c.stage = some stage) :
    ¬ Child.Names s.texts port { c with stage } := by
  unfold openStatus at h
  split at h
  · cases h
    split <;> exact id
  · cases h
    split <;> exact id
  · cases h

/-- A file that is opened is the one of the port. -/
lemma names_parseLine (h : parseLine ok s c.stage = some stage)
    (hnames : Child.Names s.texts port { c with stage }) :
    ∃ file ∈ s.files port, Tools.readRecord (some (s.texts port file)) = some c.key := by
  unfold parseLine at h
  split at h
  · cases h
    split_ifs at hnames
    · exact hnames.elim
    · exact hnames.elim
    · exact hnames.elim
  · rename_i p status lines k _
    cases h
    split_ifs at hnames
    · exact hnames.elim
    · exact hnames.elim
    · cases hfile : s.files p with
      | none =>
          rw [hfile] at hnames
          exact hnames.elim
      | some file =>
          rw [hfile] at hnames
          obtain ⟨rfl, hread⟩ : p = port ∧ _ := hnames
          exact ⟨file, hfile, hread⟩
  · cases h

/-- A port is found by the line that was opened. -/
lemma names_readLine (h : readLine ok s c = some stage)
    (hnames : Child.Names s.texts port { c with stage }) : c.Names s.texts port := by
  unfold readLine at h
  split at h
  · rename_i p file lines k hstage
    cases h
    split_ifs at hnames with hread
    · obtain rfl : p = port := hnames
      rw [Child.Names, hstage]
      exact ⟨rfl, hread.2⟩
    · exact hnames.elim
  · cases h

/-! ### The steps of a child -/

/-- A child that goes on owns what its stage names. -/
lemma Owned.goto (hs : Owned s) (hnames : ∀ port connection, s.vdev port = some connection →
    Child.Names s.texts port { c with stage } → c.key = connection.key) :
    Owned (s.goto pid c stage) :=
  ⟨fun port connection hv => (hs.only port connection hv).goto (hnames port connection hv),
    hs.detaches⟩

/-- A child that goes on and names no port. -/
lemma Owned.pass (hs : Owned s)
    (hnames : ∀ port, ¬ Child.Names s.texts port { c with stage }) : Owned (s.goto pid c stage) :=
  hs.goto fun port _ _ hn => absurd hn (hnames port)

/-- Parsing a status line takes no port. -/
lemma Owned.parseLine (hs : Owned s) (h : parseLine ok s c.stage = some stage) :
    Owned (s.goto pid c stage) := by
  refine hs.goto fun port connection hv hn => ?_
  obtain ⟨file, hfile, hread⟩ := names_parseLine h hn
  exact (hs.only port connection hv).1 file hfile c.key hread

/-- Reading a status line takes no port. -/
lemma Owned.readLine (hs : Owned s) (hc : c ∈ s.children) (h : readLine ok s c = some stage) :
    Owned (s.goto pid c stage) :=
  hs.goto fun port connection hv hn => (hs.only port connection hv).2 c hc (names_readLine h hn)

/-- An attach takes a port for its own connection. -/
lemma Owned.attach (hs : Owned s) (hok : AttachesOwn s c) (h : attach ok s pid c = some t) :
    Owned t := by
  unfold App.attach at h
  unfold AttachesOwn at hok
  split at h
  · rename_i port hstage
    rw [hstage] at hok
    split at h
    · cases h
      exact hs.pass fun _ => id
    · rename_i hfree
      split at h <;> cases h
      · refine ⟨fun q connection hv => ?_, hs.detaches⟩
        show OnlyFor (s.goto pid c (.openRecord port)) q connection.key
        replace hv : Function.update s.vdev port (some ⟨c.key, .vdevNotassigned⟩) q =
          some connection := hv
        refine OnlyFor.goto ?_ fun hn => hn.elim
        by_cases hq : q = port
        · subst hq
          rw [Function.update_self] at hv
          cases hv
          exact hok hfree
        · rw [Function.update_of_ne hq] at hv
          exact hs.only q connection hv
      · exact hs.pass fun _ => id
  · cases h

/-- An empty file is the record of nobody. -/
lemma readRecord_nil : Tools.readRecord (some []) = none := by decide

/-- Opening the record takes no port. -/
lemma Owned.openRecord {mkdir : Mkdir} {fd : Int} (hs : Owned s)
    (h : openRecord mkdir fd s pid c = some t) : Owned t := by
  unfold App.openRecord at h
  split at h
  · rename_i port hstage
    split at h
    · cases h
      exact hs.pass fun _ => id
    · split at h <;> cases h
      · rename_i file _
        refine ⟨fun q connection hv => ?_, hs.detaches⟩
        refine OnlyFor.goto ((hs.only q connection hv).setText fun _ _ r hr => ?_) fun hn => hn.elim
        rw [readRecord_nil] at hr
        cases hr
      · refine ⟨fun q connection hv => ?_, hs.detaches⟩
        have hset : OnlyFor (s.setText port s.nextFile []) q connection.key := by
          refine (hs.only q connection hv).setText fun _ _ r hr => ?_
          rw [readRecord_nil] at hr
          cases hr
        refine ⟨fun file hfile r hr => ?_, ?_⟩
        · replace hfile : Function.update s.files port (some s.nextFile) q = some file := hfile
          by_cases hq : q = port
          · subst hq
            rw [Function.update_self] at hfile
            cases hfile
            replace hr : Tools.readRecord (some (Function.update s.texts q
              (Function.update (s.texts q) s.nextFile []) q s.nextFile)) = some r := hr
            rw [Function.update_self, Function.update_self, readRecord_nil] at hr
            cases hr
          · rw [Function.update_of_ne hq] at hfile
            exact hset.1 file hfile r hr
        · have hgoto : OnlyFor ((s.setText port s.nextFile []).goto pid c
              (.writeRecord port s.nextFile)) q connection.key := hset.goto fun hn => hn.elim
          exact hgoto.2
  · cases h

/-- A child writes the record of its own port. -/
lemma Owned.writeRecord {written : Int} (hs : Owned s) (hok : RecordsOwn s written c)
    (h : writeRecord written s pid c = some t) : Owned t := by
  unfold App.writeRecord at h
  unfold RecordsOwn at hok
  split at h
  · rename_i port file hstage
    rw [hstage] at hok
    cases h
    refine ⟨fun q connection hv => ?_, hs.detaches⟩
    refine OnlyFor.goto ((hs.only q connection hv).setText fun hq hread r hr => ?_) fun hn => ?_
    · subst hq
      exact hok hread connection hv r hr
    · split at hn <;> exact hn.elim
  · cases h

/-- A detach gives the child's own port up. -/
lemma Owned.detach (hs : Owned s) (hc : c ∈ s.children) (h : detach ok s pid c = some t) :
    Owned t := by
  unfold App.detach at h
  split at h
  · rename_i port hstage
    split at h
    · rename_i connection hv
      split at h <;> cases h
      · have hpass : Owned (s.goto pid c (.detached port)) := hs.pass fun _ => id
        refine ⟨hpass.only, fun d hd => ?_⟩
        rcases List.mem_append.mp hd with hd | hd
        · exact hs.detaches d hd
        · rw [List.mem_singleton.mp hd]
          refine (hs.only port connection hv).2 c hc ?_
          rw [Child.Names, hstage]
      · exact hs.pass fun _ => id
    · cases h
      exact hs.pass fun _ => id
  · cases h
    exact hs.pass fun _ => id
  · cases h

/-- Deleting the record takes no port. -/
lemma Owned.deleteRecord {removed : Bool} (hs : Owned s)
    (h : deleteRecord removed s pid c = some t) : Owned t := by
  unfold App.deleteRecord at h
  split at h
  · rename_i port hstage
    cases h
    refine ⟨fun q connection hv => ?_, hs.detaches⟩
    have hpass : OnlyFor (s.goto pid c .done) q connection.key :=
      (hs.only q connection hv).goto fun hn => hn.elim
    refine ⟨fun file hfile => ?_, hpass.2⟩
    replace hfile : (if removed then Function.update s.files port none else s.files) q =
      some file := hfile
    split at hfile
    · by_cases hq : q = port
      · subst hq
        rw [Function.update_self] at hfile
        cases hfile
      · rw [Function.update_of_ne hq] at hfile
        exact hpass.1 file hfile
    · exact hpass.1 file hfile
  · cases h

/-- A new child names no port. -/
lemma Owned.request (hs : Owned s) (hnames : ∀ texts port, ¬ c.Names texts port) :
    Owned { s with children := s.children ++ [c] } := by
  refine ⟨fun port connection hv => ⟨(hs.only port connection hv).1, fun c' hc' hn => ?_⟩,
    hs.detaches⟩
  rcases List.mem_append.mp hc' with hc' | hc'
  · exact (hs.only port connection hv).2 c' hc' hn
  · rw [List.mem_singleton.mp hc'] at hn
    exact absurd hn (hnames _ _)

/-- A step of a child is one of a child that is there. -/
lemma exists_of_onChild {f : Child → Option State} (h : s.onChild pid f = some t) :
    ∃ c, s.children[pid]? = some c ∧ f c = some t :=
  Option.bind_eq_some_iff.mp h

/-- Every step of the daemon keeps the ports owned. -/
lemma Owned.step {controllers ports : Nat} {a : Action} (hs : Owned s) (hok : Settled s a)
    (h : step controllers ports s a = some t) : Owned t := by
  cases a with
  | exportRequest host serv busid =>
      cases h
      exact hs.request fun _ _ => id
  | unexportRequest host serv busid =>
      cases h
      exact hs.request fun _ _ => id
  | openStatus pid ok =>
      obtain ⟨c, -, h⟩ := exists_of_onChild h
      obtain ⟨stage, hstage, rfl⟩ := Option.map_eq_some_iff.mp h
      exact hs.pass fun _ => not_names_openStatus hstage
  | parseLine pid ok =>
      obtain ⟨c, -, h⟩ := exists_of_onChild h
      obtain ⟨stage, hstage, rfl⟩ := Option.map_eq_some_iff.mp h
      exact hs.parseLine hstage
  | readLine pid ok =>
      obtain ⟨c, hc, h⟩ := exists_of_onChild h
      obtain ⟨stage, hstage, rfl⟩ := Option.map_eq_some_iff.mp h
      exact hs.readLine (List.mem_of_getElem? hc) hstage
  | attach pid ok =>
      obtain ⟨c, hc, h⟩ := exists_of_onChild h
      exact hs.attach (hok c hc) h
  | openRecord pid mkdir fd =>
      obtain ⟨c, -, h⟩ := exists_of_onChild h
      exact hs.openRecord h
  | writeRecord pid written =>
      obtain ⟨c, hc, h⟩ := exists_of_onChild h
      exact hs.writeRecord (hok c hc) h
  | detach pid ok =>
      obtain ⟨c, hc, h⟩ := exists_of_onChild h
      exact hs.detach (List.mem_of_getElem? hc) h
  | deleteRecord pid removed =>
      obtain ⟨c, -, h⟩ := exists_of_onChild h
      exact hs.deleteRecord h
  | status port status =>
      unfold App.step at h
      dsimp only at h
      split at h
      · rename_i connection hv
        split at h <;> cases h
        refine ⟨fun q connection' hv' => ?_, hs.detaches⟩
        replace hv' : Function.update s.vdev port (some { connection with status }) q =
          some connection' := hv'
        show OnlyFor s q connection'.key
        by_cases hq : q = port
        · subst hq
          rw [Function.update_self] at hv'
          cases hv'
          exact hs.only q connection hv
        · rw [Function.update_of_ne hq] at hv'
          exact hs.only q connection' hv'
      · cases h
  | reset port =>
      cases h
      refine ⟨fun q connection hv => ?_, hs.detaches⟩
      replace hv : Function.update s.vdev port none q = some connection := hv
      show OnlyFor s q connection.key
      by_cases hq : q = port
      · subst hq
        rw [Function.update_self] at hv
        cases hv
      · rw [Function.update_of_ne hq] at hv
        exact hs.only q connection hv

end Steps

/-! ## Runs -/

variable {controllers ports : Nat} {s : State}

/-- In every run in which attaches and records leave no port to be taken for another's, an unexport
detaches only ports whose connections were made for the host and the bus id that it asks for. -/
theorem unexport_detaches_own (h : (machine controllers ports).Reach Settled s) :
    ∀ d ∈ s.detaches, d.asked = d.connection.key := by
  refine (h.invariant (I := Owned) (fun s hs => ?_) fun s a t hs hok h => hs.step hok h).detaches
  refine ⟨fun port connection hv => ?_, ?_⟩
  · rw [hs.vdev port] at hv
    cases hv
  · rw [hs.detaches]
    exact List.forall_mem_nil _

/-- An export by a host, of one attempt. -/
def exportRun (pid : Nat) (host : List Char) (written : Int) : List Action :=
  [.exportRequest host ['1'] ['1', '-', '1'], .openStatus pid true, .parseLine pid true,
    .attach pid true, .openRecord pid .created 3, .writeRecord pid written]

/-- The part of an unexport up to its detach. -/
def unexportRun (pid : Nat) (host : List Char) : List Action :=
  [.unexportRequest host ['1'] ['1', '-', '1'], .openStatus pid true, .parseLine pid true,
    .readLine pid true, .detach pid true]

/-- A device is exported and unexported. -/
theorem unexport_detaches_own_once : ∃ d : Detach, d.asked = (['A'], ['1', '-', '1']) ∧
    d.asked = d.connection.key := by
  have hrun : ∃ s, (machine 1 8).Reach Settled s ∧
      ∃ d ∈ s.detaches, d.asked = (['A'], ['1', '-', '1']) := by
    refine Machine.Reach.of_perform
      (exportRun 0 ['A'] 8 ++ .status 0 .vdevUsed :: unexportRun 1 ['A']) (s := {})
      ⟨fun _ => rfl, fun _ _ h => (by cases h), rfl, rfl⟩ ?_
    exact ⟨_, rfl, by decide +kernel⟩
  obtain ⟨s, hs, d, hd, hasked⟩ := hrun
  exact ⟨d, hasked, unexport_detaches_own hs d hd⟩

/-- Between the detach of an unexport and its deletion of the record, the port is taken by another
host's device, which a second unexport then finds by the record. -/
theorem not_unexport_detaches_own : ¬ ∀ (controllers ports : Nat) (s : State),
    (machine controllers ports).Reachable s → ∀ d ∈ s.detaches, d.asked = d.connection.key := by
  intro h
  have hrun : ∃ s, (machine 1 8).Reachable s ∧
      ∃ d ∈ s.detaches, d.asked ≠ d.connection.key := by
    refine Machine.Reach.of_perform
      (exportRun 0 ['A'] 8 ++ .status 0 .vdevUsed :: unexportRun 1 ['A'] ++
        .reset 0 :: (exportRun 2 ['B'] 8).take 4 ++ .status 0 .vdevUsed :: unexportRun 3 ['A'])
      (s := {}) ⟨fun _ => rfl, fun _ _ h => (by cases h), rfl, rfl⟩ ?_
    exact ⟨_, rfl, by decide +kernel⟩
  obtain ⟨s, hs, d, hd, hne⟩ := hrun
  exact hne (h 1 8 s hs d hd)

end Usbip.Tools.App
