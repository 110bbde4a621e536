import Usbip.Tools.VhciDriver

/-!
# The records of connections

`usbip_vhci_create_record` leaves a line with the host, the service and the bus id of a connection
in a file of its port, and `read_record` takes the line apart again.  The line is formatted into a
buffer of 100 bytes.  A longer one is cut, the cut line is written whole, and so the record counts
as created; `read_record` then misses the newline at its end.

`record_round_trip_iff` says exactly which records are read back, and `reads_own` that a record
never reads as another host or bus id, whatever is cut off.
-/

namespace Usbip.Tools

open Usbip.Core Usbip.Common

/-! ## The files -/

/-- The files of the ports below `VHCI_STATE_PATH`. -/
abbrev Files := Int → Option (List Char)

def NI_MAXSERV : Nat := 32

/-- Source: `vhci_driver.c`, `MAX_BUFF`. -/
def MAX_BUFF : Nat := 100

/-- `snprintf`, which leaves room for the zero at the end. -/
def snprintf (size : Nat) (text : List Char) : List Char := text.take (size - 1)

/-- `"%s %s %s\n"` -/
def recordText (host serv busid : List Char) : List Char :=
  host ++ ' ' :: (serv ++ ' ' :: (busid ++ ['\n']))

def recordBuff (host serv busid : List Char) : List Char :=
  snprintf MAX_BUFF (recordText host serv busid)

/-- How `mkdir` of `VHCI_STATE_PATH` comes out; for a path that is there, what `stat` says, and
whether it is a directory. -/
inductive Mkdir
  | created
  | eexist (stat : Option Bool)
  | failed
  deriving DecidableEq

/-- Whether there is a directory for the records. -/
def Mkdir.usable : Mkdir → Bool
  | .created => true
  | .eexist stat => stat = some true
  | .failed => false

/-- What the calls of `usbip_vhci_create_record` return. -/
structure RecordCalls where
  mkdir : Mkdir := .created
  fd : Int := 3
  written : Int

/-- Source: `vhci_driver.c`, `usbip_vhci_create_record`. -/
def usbipVhciCreateRecord (calls : RecordCalls) (files : Files) (host serv busid : List Char)
    (port : Int) : Int × Files :=
  if calls.mkdir.usable = false then (-1, files)
  else if calls.fd < 0 then (-1, files)
  else
    let buff := recordBuff host serv busid
    -- the file has been truncated when the bytes are written
    let files := Function.update files port (some (buff.take calls.written.toNat))
    if calls.written ≠ buff.length then (-1, files) else (0, files)

/-- The directory goes only when it is empty.
Source: `vhci_driver.c`, `usbip_vhci_delete_record`. -/
def usbipVhciDeleteRecord (removed : Bool) (files : Files) (port : Int) : Int × Files :=
  (0, if removed then Function.update files port none else files)

/-- The places for the parts have sizes; a part without a place is skipped.
Source: `vhci_driver.c`, `read_record` and `__read_record`. -/
def readRecordParts (malloc fopen : Bool) (file : Option (List Char))
    (host serv busid : Option Nat) : Option (List (List Char)) :=
  if malloc = false ∨ fopen = false then none
  else
    match file.bind (fgets (host.getD 0 + serv.getD 0 + busid.getD 0 + 4)) with
    | none => none
    | some buffer => recordParts [(' ', host), (' ', serv), ('\n', busid)] buffer

/-- What `usbip_vhci_find_device` reads is a record without a place for the service. -/
lemma readRecord_eq (file : Option (List Char)) :
    readRecord file =
      (readRecordParts true true file (some NI_MAXHOST) none (some SYSFS_BUS_ID_SIZE)).bind
        fun parts =>
          match parts with
          | [rhost, _, rbusid] => some (rhost, rbusid)
          | _ => none := by
  have hsize : (some NI_MAXHOST).getD 0 + (none : Option Nat).getD 0 +
    (some SYSFS_BUS_ID_SIZE).getD 0 + 4 = NI_MAXHOST + 0 + SYSFS_BUS_ID_SIZE + 4 := rfl
  unfold readRecord readRecordParts
  rw [if_neg (by decide), hsize]
  cases file.bind (fgets (NI_MAXHOST + 0 + SYSFS_BUS_ID_SIZE + 4)) with
  | none => rfl
  | some buffer =>
      dsimp only
      rcases recordParts [(' ', some NI_MAXHOST), (' ', none), ('\n', some SYSFS_BUS_ID_SIZE)]
        buffer with _ | _ | ⟨rhost, _ | ⟨serv, _ | ⟨rbusid, _ | _⟩⟩⟩ <;> rfl

/-! ## Parts of a line -/

section Parts

variable {delim : Char} {maxLen : Option Nat} {parts : List (Char × Option Nat)}
  {part rest start : List Char} {l : List (List Char)}

/-- The part before a delimiter is taken up to it. -/
lemma takeWhile_ne_append (hpart : delim ∉ part) (rest : List Char) :
    (part ++ delim :: rest).takeWhile (· ≠ delim) = part ∧
      strchr delim (part ++ delim :: rest) = delim :: rest := by
  have hne : ∀ ch ∈ part, decide (ch ≠ delim) = true := by
    intro ch hch
    exact decide_eq_true (ne_of_mem_of_not_mem hch hpart)
  unfold strchr
  rw [List.takeWhile_append_of_pos hne, List.dropWhile_append_of_pos hne]
  simp

/-- A part that fits its place is taken. -/
lemma recordParts_append (hpart : delim ∉ part) (hlen : ∀ n ∈ maxLen, part.length < n) :
    recordParts ((delim, maxLen) :: parts) (part ++ delim :: rest) =
      (recordParts parts rest).map (part :: ·) := by
  obtain ⟨htake, hstrchr⟩ := takeWhile_ne_append hpart rest
  have hfits : ¬ maxLen.any (· ≤ part.length) = true := by
    cases maxLen with
    | none => simp
    | some n => simpa using hlen n rfl
  rw [recordParts, hstrchr]
  dsimp only
  rw [htake, if_neg hfits]

/-- The first part of a record ends at its delimiter. -/
lemma exists_of_recordParts (h : recordParts ((delim, maxLen) :: parts) start = some l) :
    ∃ rest l', start = start.takeWhile (· ≠ delim) ++ delim :: rest ∧
      recordParts parts rest = some l' ∧ l = start.takeWhile (· ≠ delim) :: l' := by
  rw [recordParts] at h
  split at h
  · cases h
  · rename_i ch rest hstrchr
    dsimp only at h
    split at h
    · cases h
    · obtain ⟨l', hl', rfl⟩ := Option.map_eq_some_iff.mp h
      have hsplit := List.takeWhile_append_dropWhile (p := (· ≠ delim)) (l := start)
      have hhead : ch = delim := by
        have hnot := List.head?_dropWhile_not (p := (decide <| · ≠ delim)) (l := start)
        rw [show start.dropWhile (decide <| · ≠ delim) = ch :: rest from hstrchr] at hnot
        simpa using hnot
      rw [show start.dropWhile (decide <| · ≠ delim) = ch :: rest from hstrchr, hhead] at hsplit
      exact ⟨rest, l', hsplit.symm, hl', rfl⟩

/-- Text that is taken apart has its delimiters. -/
lemma mem_of_recordParts (h : recordParts parts start = some l) :
    ∀ d ∈ parts, d.1 ∈ start := by
  induction parts generalizing start l with
  | nil => exact List.forall_mem_nil _
  | cons p parts ih =>
      obtain ⟨rest, l', hstart, hrest, -⟩ := exists_of_recordParts h
      rw [hstart]
      intro d hd
      rcases List.mem_cons.mp hd with rfl | hd
      · exact List.mem_append_right _ List.mem_cons_self
      · exact List.mem_append_right _ (List.mem_cons_of_mem _ (ih hrest d hd))

/-- The part that is taken from the front of a text is the one the text starts with. -/
lemma recordParts_front (hpart : delim ∉ part) (hstart : start <+: part ++ delim :: rest)
    (h : recordParts ((delim, maxLen) :: parts) start = some l) :
    ∃ start' l', start' <+: rest ∧ recordParts parts start' = some l' ∧ l = part :: l' := by
  obtain ⟨start', l', hsplit, hparts, rfl⟩ := exists_of_recordParts h
  obtain ⟨tail, htail⟩ := hstart
  have htake := (takeWhile_ne_append hpart rest).1
  have hstrchr := (takeWhile_ne_append hpart rest).2
  have hnot : delim ∉ start.takeWhile (· ≠ delim) := fun hmem => by
    simpa using List.mem_takeWhile_imp hmem
  rw [← htail, hsplit, List.append_assoc, List.cons_append] at htake hstrchr
  rw [(takeWhile_ne_append hnot _).1] at htake
  rw [(takeWhile_ne_append hnot _).2] at hstrchr
  exact ⟨start', l', ⟨tail, (List.cons_eq_cons.mp hstrchr).2⟩, hparts, by rw [htake]⟩

end Parts

/-! ## What is read back -/

/-- A line is the beginning of the file. -/
lemma fgets_front {n : Nat} {file l : List Char} (h : fgets n file = some l) : l <+: file := by
  unfold fgets at h
  dsimp only at h
  split at h
  · cases h
  · cases h
    refine List.IsPrefix.trans ?_ (List.take_prefix (n - 1) file)
    have hsplit := List.takeWhile_append_dropWhile (p := (· ≠ '\n')) (l := file.take (n - 1))
    conv_rhs => rw [← hsplit]
    exact (List.prefix_append_right_inj _).mpr (List.take_prefix 1 _)

/-- A line that ends a file is read whole. -/
lemma fgets_line {n : Nat} {line : List Char} (hline : '\n' ∉ line) (hlen : line.length + 1 < n) :
    fgets n (line ++ ['\n']) = some (line ++ ['\n']) := by
  have htake : (line ++ ['\n']).take (n - 1) = line ++ ['\n'] := by
    refine List.take_of_length_le ?_
    rw [List.length_append, List.length_singleton]
    omega
  obtain ⟨hwhile, hstrchr⟩ := takeWhile_ne_append hline []
  unfold fgets
  dsimp only
  rw [htake, if_neg (by simp), hwhile, hstrchr]
  rfl

section RoundTrip

variable {host serv busid : List Char}

/-- The front of a record reads as its host, service and bus id or not at all. -/
lemma recordParts_recordText {start : List Char} {h s b : Option Nat} {l : List (List Char)}
    (hhost : ' ' ∉ host) (hserv : ' ' ∉ serv) (hbusid : '\n' ∉ busid)
    (hstart : start <+: recordText host serv busid)
    (hparts : recordParts [(' ', h), (' ', s), ('\n', b)] start = some l) :
    l = [host, serv, busid] := by
  obtain ⟨start₁, l₁, hstart₁, hparts₁, rfl⟩ := recordParts_front hhost hstart hparts
  obtain ⟨start₂, l₂, hstart₂, hparts₂, rfl⟩ := recordParts_front hserv hstart₁ hparts₁
  obtain ⟨start₃, l₃, -, hparts₃, rfl⟩ := recordParts_front hbusid hstart₂ hparts₂
  cases hparts₃
  rfl

/-- A record, or what there is of it, never reads as another host or bus id. -/
theorem reads_own {file : List Char} {r : List Char × List Char}
    (hhost : ' ' ∉ host) (hserv : ' ' ∉ serv) (hbusid : '\n' ∉ busid)
    (hfile : file <+: recordText host serv busid) (hread : readRecord (some file) = some r) :
    r = (host, busid) := by
  rw [readRecord_eq, readRecordParts, if_neg (by decide)] at hread
  cases hfgets : (some file).bind (fgets ((some NI_MAXHOST).getD 0 + none.getD 0 +
      (some SYSFS_BUS_ID_SIZE).getD 0 + 4)) with
  | none =>
      rw [hfgets] at hread
      cases hread
  | some buffer =>
      rw [hfgets] at hread
      obtain ⟨parts, hparts, hr⟩ := Option.bind_eq_some_iff.mp hread
      rw [recordParts_recordText hhost hserv hbusid ((fgets_front hfgets).trans hfile) hparts] at hr
      exact (Option.some.inj hr).symm

end RoundTrip

/-! ## Later reads -/

/-- What another process does to the file of some port. -/
inductive FileOp
  | create (calls : RecordCalls) (host serv busid : List Char) (port : Int)
  | delete (removed : Bool) (port : Int)

def FileOp.port : FileOp → Int
  | .create _ _ _ _ port => port
  | .delete _ port => port

def FileOp.perform (files : Files) : FileOp → Files
  | .create calls host serv busid port => (usbipVhciCreateRecord calls files host serv busid port).2
  | .delete removed port => (usbipVhciDeleteRecord removed files port).2

/-- The records of other ports stay. -/
lemma usbipVhciCreateRecord_of_ne (calls : RecordCalls) (files : Files)
    (host serv busid : List Char) {port other : Int} (hne : other ≠ port) :
    (usbipVhciCreateRecord calls files host serv busid port).2 other = files other := by
  unfold usbipVhciCreateRecord
  dsimp only
  split_ifs
  · rfl
  · rfl
  · exact Function.update_of_ne hne _ _
  · exact Function.update_of_ne hne _ _

/-- Files of other ports are left alone. -/
lemma foldl_perform_of_ne {rhport : Int} {later : List FileOp}
    (hlater : ∀ op ∈ later, op.port ≠ rhport) (files : Files) :
    later.foldl FileOp.perform files rhport = files rhport := by
  induction later generalizing files with
  | nil => rfl
  | cons op later ih =>
      rw [List.foldl_cons, ih fun op hop => hlater op (List.mem_cons_of_mem _ hop)]
      have hne := (hlater op List.mem_cons_self).symm
      cases op with
      | create calls host serv busid port =>
          exact usbipVhciCreateRecord_of_ne calls files host serv busid hne
      | delete removed port =>
          unfold FileOp.perform usbipVhciDeleteRecord
          dsimp only
          split
          · exact Function.update_of_ne hne _ _
          · rfl

/-- A record that counts as created has been written as it was formatted. -/
lemma file_of_created {calls : RecordCalls} {files : Files} {host serv busid : List Char}
    {port : Int} (h : (usbipVhciCreateRecord calls files host serv busid port).1 = 0) :
    (usbipVhciCreateRecord calls files host serv busid port).2 port =
      some (recordBuff host serv busid) := by
  unfold usbipVhciCreateRecord at h ⊢
  dsimp only at h ⊢
  split_ifs at h ⊢ with hmkdir hfd hwritten
  · exact absurd h (by simp)
  · exact absurd h (by simp)
  · exact absurd h (by simp)
  · dsimp only
    rw [Function.update_self, not_not.mp hwritten, Int.toNat_natCast, List.take_length]

section RoundTrip

variable {host serv busid : List Char}

/-- A record's text has two blanks and a line end. -/
lemma length_recordText :
    (recordText host serv busid).length = host.length + serv.length + busid.length + 3 := by
  unfold recordText
  simp only [List.length_append, List.length_cons, List.length_nil]
  omega

/-- A record's text is one line. -/
lemma recordText_eq_line : recordText host serv busid =
    (host ++ ' ' :: (serv ++ ' ' :: busid)) ++ ['\n'] := by
  simp [recordText]

/-- Nothing in it ends the line before. -/
lemma newline_not_mem_line (hclean : ∀ ch ∈ host ++ serv ++ busid, ch ≠ ' ' ∧ ch ≠ '\n') :
    '\n' ∉ host ++ ' ' :: (serv ++ ' ' :: busid) := by
  intro h
  have hmem : '\n' ∈ host ++ serv ++ busid := by simpa using h
  exact (hclean _ hmem).2 rfl

/-- The newline is formatted when the whole line is. -/
lemma newline_mem_recordBuff_iff
    (hclean : ∀ ch ∈ host ++ serv ++ busid, ch ≠ ' ' ∧ ch ≠ '\n') :
    '\n' ∈ recordBuff host serv busid ↔ host.length + serv.length + busid.length ≤ 96 := by
  have hlen := @length_recordText host serv busid
  unfold recordBuff snprintf MAX_BUFF
  constructor
  · intro h
    by_contra hlong
    rw [recordText_eq_line, List.take_append_of_le_length] at h
    · exact newline_not_mem_line hclean (List.mem_of_mem_take h)
    · rw [recordText_eq_line, List.length_append, List.length_singleton] at hlen
      omega
  · intro h
    rw [List.take_of_length_le (by omega), recordText_eq_line]
    exact List.mem_append_right _ (List.mem_singleton_self _)

/-- A record that counts as created is read back later, as the host, the service and the bus id that
it was created with, if and only if the line has had room in the buffer (and the reader gets its
memory and opens the file). -/
theorem record_round_trip_iff (calls : RecordCalls) (files : Files) (rhport : Int)
    (hhost : host.length < NI_MAXHOST) (hserv : serv.length < NI_MAXSERV)
    (hbusid : busid.length < SYSFS_BUS_ID_SIZE)
    (hclean : ∀ ch ∈ host ++ serv ++ busid, ch ≠ ' ' ∧ ch ≠ '\n')
    (hok : (usbipVhciCreateRecord calls files host serv busid rhport).1 = 0)
    (later : List FileOp) (hlater : ∀ op ∈ later, op.port ≠ rhport) (malloc fopen : Bool) :
    readRecordParts malloc fopen
        (later.foldl FileOp.perform
          (usbipVhciCreateRecord calls files host serv busid rhport).2 rhport)
        (some NI_MAXHOST) (some NI_MAXSERV) (some SYSFS_BUS_ID_SIZE) = some [host, serv, busid] ↔
      malloc = true ∧ fopen = true ∧ host.length + serv.length + busid.length ≤ 96 := by
  have hspace : ∀ part ∈ [host, serv], ' ' ∉ part := by
    intro part hpart hmem
    refine (hclean ' ' ?_).1 rfl
    rcases List.mem_cons.mp hpart with rfl | hpart
    · simp [hmem]
    · rw [List.mem_singleton.mp hpart] at hmem
      simp [hmem]
  have hnewline : '\n' ∉ busid := fun hmem => (hclean '\n' (by simp [hmem])).2 rfl
  rw [foldl_perform_of_ne hlater, file_of_created hok, readRecordParts]
  by_cases henv : malloc = false ∨ fopen = false
  · rw [if_pos henv]
    refine iff_of_false (by simp) ?_
    rintro ⟨hmalloc, hfopen, -⟩
    rcases henv with henv | henv
    · exact absurd (hmalloc.symm.trans henv) (by decide)
    · exact absurd (hfopen.symm.trans henv) (by decide)
  · rw [if_neg henv]
    constructor
    · intro hread
      refine ⟨by simpa using (not_or.mp henv).1, by simpa using (not_or.mp henv).2, ?_⟩
      rw [← newline_mem_recordBuff_iff hclean]
      split at hread
      · cases hread
      · rename_i hfgets
        exact (fgets_front hfgets).subset
          (mem_of_recordParts hread ('\n', some SYSFS_BUS_ID_SIZE) (by simp))
    · rintro ⟨-, -, hlen⟩
      have hwhole : recordBuff host serv busid = recordText host serv busid := by
        refine List.take_of_length_le ?_
        rw [length_recordText]
        show _ ≤ 99
        omega
      have hline : (host ++ ' ' :: (serv ++ ' ' :: busid)).length ≤ 98 := by
        simp only [List.length_append, List.length_cons]
        omega
      rw [hwhole, recordText_eq_line, Option.bind_some,
        fgets_line (newline_not_mem_line hclean) (Nat.lt_of_le_of_lt (Nat.succ_le_succ hline)
          (by decide)), ← recordText_eq_line]
      dsimp only
      rw [recordText, recordParts_append (hspace host (by simp)) (by simpa using hhost),
        recordParts_append (hspace serv (by simp)) (by simpa using hserv),
        recordParts_append hnewline (by simpa using hbusid)]
      rfl

end RoundTrip

/-- A record of a host with a short name, and one that another port is given later. -/
theorem record_round_trip_iff_address :
    readRecordParts true true
        (([.create { written := 9 } ['h'] ['s'] ['1', '-', '1'] 4] : List FileOp).foldl
          FileOp.perform (usbipVhciCreateRecord { written := 18 } (fun _ => none)
            "10.0.0.1".toList "3240".toList "1-1".toList 3).2 3)
        (some NI_MAXHOST) (some NI_MAXSERV) (some SYSFS_BUS_ID_SIZE) =
      some ["10.0.0.1".toList, "3240".toList, "1-1".toList] :=
  (record_round_trip_iff { written := 18 } (fun _ => none) 3 (by decide) (by decide) (by decide)
    (by simp [or_imp, forall_and]) (by decide) _ (by decide) true true).mpr ⟨rfl, rfl, by decide⟩

/-- A host name of 90 characters. -/
def longHost : List Char :=
  List.replicate 60 'a' ++ '.' :: (List.replicate 25 'b' ++ ".org".toList)

/-- The record of a host with a long name is created and cannot be read. -/
theorem not_record_round_trip :
    ¬ ∀ (calls : RecordCalls) (files : Files) (rhport : Int) (host serv busid : List Char),
      host.length < NI_MAXHOST → serv.length < NI_MAXSERV → busid.length < SYSFS_BUS_ID_SIZE →
      (∀ ch ∈ host ++ serv ++ busid, ch ≠ ' ' ∧ ch ≠ '\n') →
      (usbipVhciCreateRecord calls files host serv busid rhport).1 = 0 →
      readRecordParts true true
        ((usbipVhciCreateRecord calls files host serv busid rhport).2 rhport)
        (some NI_MAXHOST) (some NI_MAXSERV) (some SYSFS_BUS_ID_SIZE) = some [host, serv, busid] := by
  intro h
  have hread := h { written := 99 } (fun _ => none) 0 longHost "3240".toList "1-1".toList
    (by decide) (by decide) (by decide) (by simp [longHost, or_imp, forall_and])
    (by decide +kernel)
  revert hread
  decide +kernel

end Usbip.Tools
