import Usbip.Hub.Independence

/-!
# How a reset and a resume end

GetPortStatus is where a reset or a resume ends: it reads the time and finds the time-out in
`re_timeout` past.  When the requests keep `Apart`, what it finds there is the time-out of its own
port.  A reset that port `p` has begun goes on until the first GetPortStatus for `p` behind that
time-out, ends there and does not begin again by itself (`reset_ends_once`), and so does a resume
(`resume_ends_once`).
-/

namespace Usbip.Hub

open Usbip.Core Usbip.Common

variable {env : Env} {p : Int} {jiffies time : BitVec 64} {s t : State} {a : Action env}

/-! ## One query -/

/-- A reset of port `p` is going on. -/
def Resets (p : Int) (h : VhciHcd) : Prop := (h.portStatus p).getLsbD featReset = true

/-- Port `p` waits for one thing at most, and for the time given. -/
def WaitsFor (p : Int) (time : BitVec 64) (h : VhciHcd) (resumer : Option Int) : Prop :=
  Waiting p h resumer → h.reTimeout = time ∧ ¬ (Resets p h ∧ Resumes p h resumer)

/-- Port `p` asks for nothing but its status. -/
def Quiet (p : Int) : Action env → Prop
  | .control _ typeReq _ i => ((i : Nat) : Int) = p →
      TypeReq.ofCode typeReq ≠ .clearPortFeature ∧ TypeReq.ofCode typeReq ≠ .setPortFeature
  | .connect _ _ | .disconnect _ | .device _ _ => True

instance (p : Int) (a : Action env) : Decidable (Quiet p a) :=
  match a with
  | .control _ typeReq _ i => inferInstanceAs (Decidable (((i : Nat) : Int) = p →
      TypeReq.ofCode typeReq ≠ .clearPortFeature ∧ TypeReq.ofCode typeReq ≠ .setPortFeature))
  | .connect _ _ | .disconnect _ | .device _ _ => isTrue trivial

/-- The time of a GetPortStatus for port `p`. -/
def Action.query (p : Int) : Action env → Option (BitVec 64)
  | .control jiffies typeReq _ i =>
      if env.accessible ∧ ((i : Nat) : Int) = p ∧ TypeReq.ofCode typeReq = .getPortStatus then
        some jiffies else none
  | .connect _ _ | .disconnect _ | .device _ _ => none

/-- What is going on after a step: what was going on, unless there was a query behind the time-out. -/
structure Ends (p : Int) (time : BitVec 64) (queries : List (BitVec 64)) (h : VhciHcd)
    (r : Option Int) (h' : VhciHcd) (r' : Option Int) : Prop where
  resets : Resets p h' ↔ Resets p h ∧ ∀ j ∈ queries, timeAfter j time = false
  resumes : Resumes p h' r' ↔ Resumes p h r ∧ ∀ j ∈ queries, timeAfter j time = false
  timer : WaitsFor p time h' r'
  /-- The end of a reset is marked. -/
  marksReset : Resets p h → ¬ Resets p h' → (h'.portStatus p).getLsbD featCReset = true
  /-- The end of a resume is marked. -/
  marksResume : Resumes p h r → ¬ Resumes p h' r' →
    (h'.portStatus p).getLsbD featCSuspend = true
  /-- A mark stays. -/
  marked : ∀ f, f = featCReset ∨ f = featCSuspend → (h.portStatus p).getLsbD f = true →
    (h'.portStatus p).getLsbD f = true

/-- The marks in the status of a port whose reset ends. -/
lemma mark_resetStatus {f : Nat} (hf : f = featCReset ∨ f = featCSuspend) (w : BitVec 32)
    (v : VhciDevice) : (resetStatus w v).getLsbD f = (w.getLsbD f || decide (f = featCReset)) := by
  have hclear : ((w ||| stat featCReset) &&& ~~~stat featReset).getLsbD f =
      (w.getLsbD f || decide (f = featCReset)) := by
    rw [getLsbD_and_not_stat _ (by decide), getLsbD_or_stat _ (by decide)]
    rcases hf with rfl | rfl <;> simp [featReset, featCReset, featCSuspend]
  unfold resetStatus
  dsimp only
  split
  · rw [getLsbD_or_stat _ (by decide), hclear]
    rcases hf with rfl | rfl <;> simp [featEnable, featCReset, featCSuspend]
  · exact hclear

namespace Ends

variable {h h' h'' : VhciHcd} {r r' r'' : Option Int} {l l' : List (BitVec 64)}

/-- Nothing changes that port `p` waits for. -/
lemma of_bits (hreset : (h'.portStatus p).getLsbD featReset = (h.portStatus p).getLsbD featReset)
    (hmarked : ∀ f, f = featCReset ∨ f = featCSuspend → (h.portStatus p).getLsbD f = true →
      (h'.portStatus p).getLsbD f = true)
    (hresumes : Resumes p h' r' ↔ Resumes p h r) (htime : Waiting p h r → h'.reTimeout = h.reTimeout)
    (hw : WaitsFor p time h r) : Ends p time [] h r h' r' := by
  have hresets : Resets p h' ↔ Resets p h := by rw [Resets, Resets, hreset]
  have hwaiting : Waiting p h' r' → Waiting p h r := Or.imp hresets.mp hresumes.mp
  refine ⟨by simpa using hresets, by simpa using hresumes, fun hw' => ?_, fun hs hn => ?_,
    fun hs hn => ?_, hmarked⟩
  · obtain ⟨ht, hone⟩ := hw (hwaiting hw')
    exact ⟨(htime (hwaiting hw')).trans ht, fun hboth =>
      hone ⟨hresets.mp hboth.1, hresumes.mp hboth.2⟩⟩
  · exact absurd (hresets.mpr hs) hn
  · exact absurd (hresumes.mpr hs) hn

/-- What leaves the port alone ends nothing. -/
lemma of_alike (ha : AlikeHubs p h r h' r') (hw : WaitsFor p time h r) :
    Ends p time [] h r h' r' :=
  of_bits (by rw [ha.status]) (fun f _ hf => ha.status ▸ hf) ha.resumes.symm
    (fun hwaiting => (ha.timer hwaiting).symm) hw

/-- Nothing ends by itself. -/
lemma refl (hw : WaitsFor p time h r) : Ends p time [] h r h r := of_alike (.refl p h r) hw

/-- What ends in two runs, one after the other. -/
lemma trans (h₁ : Ends p time l h r h' r') (h₂ : Ends p time l' h' r' h'' r'') :
    Ends p time (l ++ l') h r h'' r'' where
  resets := by
    rw [h₂.resets, h₁.resets, and_assoc, List.forall_mem_append]
  resumes := by
    rw [h₂.resumes, h₁.resumes, and_assoc, List.forall_mem_append]
  timer := h₂.timer
  marksReset hs hn := by
    by_cases hmid : Resets p h'
    · exact h₂.marksReset hmid hn
    · exact h₂.marked _ (.inl rfl) (h₁.marksReset hs hmid)
  marksResume hs hn := by
    by_cases hmid : Resumes p h' r'
    · exact h₂.marksResume hmid hn
    · exact h₂.marked _ (.inr rfl) (h₁.marksResume hs hmid)
  marked f hf hs := h₂.marked f hf (h₁.marked f hf hs)

/-- A query that finds nothing to end. -/
lemma same (hw : WaitsFor p time h r)
    (hnone : Waiting p h r → timeAfter jiffies time = false) :
    Ends p time [jiffies] h r h r where
  resets := by
    rw [List.forall_mem_singleton]
    exact ⟨fun hs => ⟨hs, hnone (.inl hs)⟩, And.left⟩
  resumes := by
    rw [List.forall_mem_singleton]
    exact ⟨fun hs => ⟨hs, hnone (.inr hs)⟩, And.left⟩
  timer := hw
  marksReset hs hn := absurd hs hn
  marksResume hs hn := absurd hs hn
  marked _ _ := id

/-- A query that finds a reset past its time. -/
lemma endsReset (hresets : Resets p h) (hnone : ¬ Resumes p h r) (htime : h.reTimeout = time)
    (hafter : timeAfter jiffies time = true) :
    Ends p time [jiffies] h r (Hub.endReset jiffies p h) r := by
  have hdue : resetDue jiffies p h = true :=
    decide_eq_true ⟨(and_stat_ne_zero_iff (by decide)).mpr hresets, htime ▸ hafter⟩
  have hstatus : (Hub.endReset jiffies p h).portStatus p = resetStatus (h.portStatus p) (h.vdev p) := by
    unfold Hub.endReset
    rw [hdue, if_pos rfl]
    exact portStatus_write_self
  have hended : ¬ Resets p (Hub.endReset jiffies p h) := by
    rw [Resets, hstatus, reset_bit_resetStatus]
    exact Bool.false_ne_true
  have hresumes : ¬ Resumes p (Hub.endReset jiffies p h) r := by
    rwa [Resumes, resuming_endReset]
  have hlate : ¬ ∀ j ∈ [jiffies], timeAfter j time = false := by
    rw [List.forall_mem_singleton, hafter]
    exact Bool.noConfusion
  refine ⟨iff_of_false hended fun hb => hlate hb.2, iff_of_false hresumes fun hb => hlate hb.2,
    fun hw => absurd hw (not_or.mpr ⟨hended, hresumes⟩), fun _ _ => ?_,
    fun hs => absurd hs hnone, fun f hf hs => ?_⟩
  · rw [hstatus, mark_resetStatus (.inl rfl)]
    exact Bool.or_true _
  · rw [hstatus, mark_resetStatus hf, hs]
    rfl

/-- A query that finds a resume past its time. -/
lemma endsResume (hresets : ¬ Resets p h) (hresumes : Resumes p h r) (htime : h.reTimeout = time)
    (hafter : timeAfter jiffies time = true) :
    Ends p time [jiffies] h r (Hub.endResume jiffies p h) r := by
  have hdue : resumeDue jiffies h = true :=
    Bool.and_eq_true_iff.mpr ⟨hresumes.1, htime ▸ hafter⟩
  have hstatus : (Hub.endResume jiffies p h).portStatus p =
      (h.portStatus p ||| stat featCSuspend) &&& ~~~stat featSuspend := by
    unfold Hub.endResume
    rw [hdue, if_pos rfl]
    exact portStatus_write_self
  have hbit : ∀ f, f ≠ featSuspend → ((Hub.endResume jiffies p h).portStatus p).getLsbD f =
      ((h.portStatus p).getLsbD f || decide (f = featCSuspend)) := by
    intro f hf
    rw [hstatus, getLsbD_and_not_stat _ (by decide), getLsbD_or_stat _ (by decide),
      decide_eq_false hf, Bool.not_false, Bool.and_true]
  have hended : ¬ Resumes p (Hub.endResume jiffies p h) r := by
    unfold Hub.endResume
    rw [hdue, if_pos rfl]
    exact fun hs => Bool.false_ne_true hs.1
  have hresets' : ¬ Resets p (Hub.endResume jiffies p h) := by
    rw [Resets, hbit _ (by decide), Bool.or_eq_true]
    rintro (hs | hs)
    · exact hresets hs
    · exact absurd hs (by decide)
  have hlate : ¬ ∀ j ∈ [jiffies], timeAfter j time = false := by
    rw [List.forall_mem_singleton, hafter]
    exact Bool.noConfusion
  refine ⟨iff_of_false hresets' fun hb => hlate hb.2, iff_of_false hended fun hb => hlate hb.2,
    fun hw => absurd hw (not_or.mpr ⟨hresets', hended⟩), fun hs => absurd hs hresets,
    fun _ _ => ?_, fun f hf hs => ?_⟩
  · rw [hbit _ (by decide)]
    exact Bool.or_true _
  · rw [hbit f (by rcases hf with rfl | rfl <;> decide), hs]
    rfl

/-- A query ends what is going on when its time-out is past, and changes nothing otherwise. -/
lemma query (hown : resumeDue jiffies h = true → r = some p) (hw : WaitsFor p time h r) :
    Ends p time [jiffies] h r (Hub.endReset jiffies p (Hub.endResume jiffies p h)) r := by
  have hresume : ¬ Resumes p h r ∨ timeAfter jiffies h.reTimeout = false →
      Hub.endResume jiffies p h = h := fun hnone => by
    refine endResume_of_not_due (Bool.eq_false_of_not_eq_true fun hdue => ?_)
    obtain ⟨hresuming, hafter⟩ := Bool.and_eq_true_iff.mp hdue
    rcases hnone with hnone | hbefore
    · exact hnone ⟨hresuming, hown hdue⟩
    · exact Bool.false_ne_true (hbefore.symm.trans hafter)
  have hreset : ∀ g : VhciHcd, ¬ Resets p g ∨ timeAfter jiffies g.reTimeout = false →
      Hub.endReset jiffies p g = g := fun g hnone => by
    refine endReset_of_not_due (decide_eq_false fun ⟨hbit, hafter⟩ => ?_)
    rcases hnone with hnone | hbefore
    · exact hnone ((and_stat_ne_zero_iff (by decide)).mp hbit)
    · exact Bool.false_ne_true (hbefore.symm.trans hafter)
  by_cases hwaiting : Waiting p h r
  · obtain ⟨rfl, hone⟩ := hw hwaiting
    cases hafter : timeAfter jiffies h.reTimeout with
    | false =>
        rw [hresume (.inr hafter), hreset h (.inr hafter)]
        exact same hw fun _ => hafter
    | true =>
        by_cases hresets : Resets p h
        · have hnone : ¬ Resumes p h r := fun hresumes => hone ⟨hresets, hresumes⟩
          rw [hresume (.inl hnone)]
          exact endsReset hresets hnone rfl hafter
        · have hended := endsResume hresets (hwaiting.resolve_left hresets) rfl hafter
          have hnone : ¬ Resets p (Hub.endResume jiffies p h) := fun hs =>
            hresets (hended.resets.mp hs).1
          rwa [hreset _ (.inl hnone)]
  · obtain ⟨hresets, hresumes⟩ := not_or.mp hwaiting
    rw [hresume (.inl hresumes), hreset h (.inl hresets)]
    exact same hw fun hw => absurd hw hwaiting

end Ends

/-! ## Whole runs -/

/-- What a request of port `p` ends. -/
lemma ends_control {jiffies : BitVec 64} {typeReq wValue : BitVec 16} {i : Fin env.hcPorts}
    (hw : WaitsFor ((i : Nat) : Int) time s.hub s.resumer)
    (hapart : Apart ((i : Nat) : Int) s (.control jiffies typeReq wValue i))
    (hquiet : Quiet ((i : Nat) : Int) (.control jiffies typeReq wValue i : Action env)) :
    Ends ((i : Nat) : Int) time
      ((Action.control jiffies typeReq wValue i : Action env).query ((i : Nat) : Int)).toList
      s.hub s.resumer (control env jiffies typeReq wValue i s).hub
      (control env jiffies typeReq wValue i s).resumer := by
  obtain ⟨hclear, hset⟩ := hquiet rfl
  have hquery : (Action.control jiffies typeReq wValue i : Action env).query ((i : Nat) : Int) =
      if env.accessible ∧ ((i : Nat) : Int) = (i : Nat) ∧ TypeReq.ofCode typeReq = .getPortStatus
      then some jiffies else none := rfl
  rw [hquery]
  by_cases haccessible : env.accessible = true
  · have hown := hapart haccessible
    rw [if_pos rfl] at hown
    rw [hub_control haccessible, resumer_control_of_ne hclear]
    cases hcode : TypeReq.ofCode typeReq with
    | clearPortFeature => exact absurd hcode hclear
    | setPortFeature => exact absurd hcode hset
    | getPortStatus =>
        rw [hcode] at hown
        rw [if_pos ⟨haccessible, rfl, rfl⟩]
        exact .query hown hw
    | clearHubFeature | getHubDescriptor | getHubStatus | setHubFeature | other =>
        rw [if_neg fun hq => by cases hq.2.2]
        exact .refl hw
  · rw [if_neg fun hq => haccessible hq.1, control_of_not_accessible haccessible]
    exact .refl hw

/-- What one step ends. -/
lemma ends_step (hw : WaitsFor p time s.hub s.resumer) (hapart : Apart p s a) (hquiet : Quiet p a)
    (hstep : step env s a = some t) :
    Ends p time (a.query p).toList s.hub s.resumer t.hub t.resumer := by
  by_cases hp : a.port = p
  · subst hp
    cases a with
    | connect i speed =>
        cases hstep
        refine .of_bits ?_ (fun f _ hs => ?_) .rfl (fun _ => rfl) hw
        · show ((s.hub.write (i : Nat) _).portStatus (i : Nat)).getLsbD featReset = _
          have hbit : (speedStat speed).getLsbD featReset = false := by
            unfold speedStat
            split
            · decide
            split <;> decide
          rw [portStatus_write_self, BitVec.getLsbD_or, hbit, BitVec.getLsbD_or, BitVec.getLsbD_or,
            getLsbD_stat (by decide), getLsbD_stat (by decide)]
          simp [featReset, featConnection, featCConnection, Action.port]
        · show ((s.hub.write (i : Nat) _).portStatus (i : Nat)).getLsbD f = true
          rw [portStatus_write_self, BitVec.getLsbD_or, BitVec.getLsbD_or,
            show (s.hub.portStatus (i : Nat)).getLsbD f = true from hs]
          rfl
    | disconnect i =>
        cases hstep
        have hbit : ∀ f, f ≠ featConnection → f ≠ featCConnection →
            ((rhPortDisconnect ((i : Nat) : Int) s.hub).portStatus ((i : Nat) : Int)).getLsbD f =
              (s.hub.portStatus ((i : Nat) : Int)).getLsbD f := by
          intro f hf hf'
          show ((s.hub.write _ _).portStatus _).getLsbD f = _
          rw [portStatus_write_self, getLsbD_or_stat _ (by decide),
            getLsbD_and_not_stat _ (by decide), decide_eq_false hf, decide_eq_false hf']
          simp
        refine .of_bits (hbit _ (by decide) (by decide)) (fun f hf hs => ?_) .rfl (fun _ => rfl) hw
        rcases hf with rfl | rfl
        · exact (hbit _ (by decide) (by decide)).trans hs
        · exact (hbit _ (by decide) (by decide)).trans hs
    | device i v =>
        cases hstep
        exact .of_bits rfl (fun _ _ => id) .rfl (fun _ => rfl) hw
    | control jiffies typeReq wValue i =>
        cases hstep
        exact ends_control hw hapart hquiet
  · have hnone : a.query p = none := by
      cases a with
      | control jiffies typeReq wValue i => exact if_neg fun hq => hp hq.2.1
      | connect | disconnect | device => rfl
    rw [hnone]
    exact .of_alike (alike_other hp hapart hstep).hubs hw

/-- What a run ends. -/
lemma ends_run (l : List (Action env)) (hw : WaitsFor p time s.hub s.resumer)
    (hl : (machine env).perform (fun s a => Apart p s a ∧ Quiet p a) s l = some t) :
    Ends p time (l.filterMap (·.query p)) s.hub s.resumer t.hub t.resumer := by
  induction l generalizing s with
  | nil =>
      cases hl
      exact .refl hw
  | cons a l ih =>
      rw [Machine.perform] at hl
      obtain ⟨⟨hapart, hquiet⟩, hl⟩ := Option.ite_none_right_eq_some.mp hl
      obtain ⟨s', hstep, hl⟩ := Option.bind_eq_some_iff.mp hl
      have hfirst := ends_step hw hapart hquiet hstep
      have hall := hfirst.trans (ih hfirst.timer hl)
      have hqueries : (a :: l).filterMap (·.query p) =
          (a.query p).toList ++ l.filterMap (·.query p) := by
        rw [List.filterMap_cons]
        cases a.query p <;> rfl
      rwa [hqueries]

/-! ## From the request to its end -/

variable {s' : State} {q : Fin env.hcPorts} {l : List (Action env)}

/-- Port `q` is reset at `jiffies` and then asks for its status only: the reset is going on until the
first query that is later than 50 ms, and has ended, marked, from then on, whatever the other ports
do that keeps apart from it. -/
theorem reset_ends_once (haccessible : env.accessible = true)
    (hnone : ¬ Resumes (q : Nat) s.hub s.resumer)
    (hbegin : step env s (.control jiffies 0x2303 4 q) = some s')
    (hl : (machine env).perform (fun s a => Apart (q : Nat) s a ∧ Quiet (q : Nat) a) s' l = some t) :
    (Resets (q : Nat) t.hub ↔ ∀ j ∈ l.filterMap (·.query (q : Nat)),
      timeAfter j (jiffies + env.msecsToJiffies 50) = false) ∧
    (¬ Resets (q : Nat) t.hub → (t.hub.portStatus (q : Nat)).getLsbD featCReset = true) := by
  cases hbegin
  have hhub : (control env jiffies 0x2303 4 q s).hub =
      (setPortFeature env jiffies featReset (q : Nat) s.hub).hub := hub_control haccessible
  have hresumer : (control env jiffies 0x2303 4 q s).resumer = s.resumer :=
    resumer_control_of_ne (by decide)
  have hresets : Resets (q : Nat) (control env jiffies 0x2303 4 q s).hub := by
    rw [hhub]
    show ((VhciHcd.write (q : Nat) _ _).portStatus (q : Nat)).getLsbD featReset = true
    rw [portStatus_write_self, BitVec.getLsbD_or,
      show env.shl featReset = stat featReset from if_pos (by decide), getLsbD_stat (by decide)]
    exact Bool.or_true _
  have hresumes : ¬ Resumes (q : Nat) (control env jiffies 0x2303 4 q s).hub
      (control env jiffies 0x2303 4 q s).resumer := by
    rw [hhub, hresumer]
    exact hnone
  have hends := @ends_run env (q : Nat) (jiffies + env.msecsToJiffies 50) _ t l
    (fun _ => ⟨by rw [hhub]; rfl, fun hboth => hresumes hboth.2⟩) hl
  exact ⟨hends.resets.trans (and_iff_right hresets), hends.marksReset hresets⟩

/-- Port `q`, suspended, is resumed at `jiffies` and then asks for its status only: the resume is
going on until the first query that is later than 20 ms, and has ended, marked, from then on. -/
theorem resume_ends_once (haccessible : env.accessible = true)
    (hnone : ¬ Resets (q : Nat) s.hub)
    (hsuspended : (s.hub.portStatus (q : Nat)).getLsbD featSuspend = true)
    (hbegin : step env s (.control jiffies 0x2301 2 q) = some s')
    (hl : (machine env).perform (fun s a => Apart (q : Nat) s a ∧ Quiet (q : Nat) a) s' l = some t) :
    (Resumes (q : Nat) t.hub t.resumer ↔ ∀ j ∈ l.filterMap (·.query (q : Nat)),
      timeAfter j (jiffies + env.msecsToJiffies 20) = false) ∧
    (¬ Resumes (q : Nat) t.hub t.resumer →
      (t.hub.portStatus (q : Nat)).getLsbD featCSuspend = true) := by
  cases hbegin
  have hhub : (control env jiffies 0x2301 2 q s).hub =
      { s.hub with resuming := true, reTimeout := jiffies + env.msecsToJiffies 20 } := by
    have hcontrol : (control env jiffies 0x2301 2 q s).hub =
        (clearPortFeature env jiffies featSuspend (q : Nat) s.hub).hub := hub_control haccessible
    rw [hcontrol]
    unfold clearPortFeature
    dsimp only
    rw [if_pos rfl, if_pos ((and_stat_ne_zero_iff (by decide)).mpr hsuspended)]
  have hresumer : (control env jiffies 0x2301 2 q s).resumer = some ((q : Nat) : Int) :=
    resumer_control.trans (if_pos ⟨haccessible, by decide, by decide, hsuspended⟩)
  have hresets : ¬ Resets (q : Nat) (control env jiffies 0x2301 2 q s).hub := by
    rw [hhub]
    exact hnone
  have hresumes : Resumes (q : Nat) (control env jiffies 0x2301 2 q s).hub
      (control env jiffies 0x2301 2 q s).resumer := by
    rw [hhub, hresumer]
    exact ⟨rfl, rfl⟩
  have hends := @ends_run env (q : Nat) (jiffies + env.msecsToJiffies 20) _ t l
    (fun _ => ⟨by rw [hhub], fun hboth => hresets hboth.1⟩) hl
  exact ⟨hends.resumes.trans (and_iff_right hresumes), hends.marksResume hresumes⟩

end Usbip.Hub
