import Usbip.Vudc.FlowSteps

/-!
# The bandwidth of a frame

`v_timer` takes what `transfer` has moved from a total that starts at the limit of the frame, and
skips the URBs of bulk endpoints once nothing is left.  Nothing cuts a transfer at what is left:
the parameter `limit` of `transfer` is not used.  And `frame_limit`, with which a run of `v_timer`
in the same frame starts again, is never decreased.

So the limit of a frame is kept exactly as long as what each pass finds to move fits into it
(`frame_limit_kept`), and one URB is enough to break it (`limit_exceeded`).
-/

namespace Usbip.Vudc.Flow

open Usbip.Core Usbip.Common

/-- A number of bytes that may be moved in a frame. -/
def Within (moved : Nat) (speed : Speed) : Prop :=
  moved = 0 ∨ (moved : Int) ≤ getFrameLimit speed

instance (moved : Nat) (speed : Speed) : Decidable (Within moved speed) := by
  unfold Within
  infer_instance

/-- What a URB and a request have for a pass: whole packets, or less than one. -/
def found (maxpacket : Nat) (u : HostUrb) (r : VRequest) : Nat :=
  let len := min u.left r.left
  if len < maxpacket then len else len - len % maxpacket

/-- What the next pass finds to move for a bulk URB. -/
def foundNext (s : State) : Nat :=
  match s.dev.timer with
  | .transfer n _ _ =>
      match s.queue (s.epOf n) with
      | r :: _ =>
          if (s.dev.ep (s.epOf n)).type = .bulk then
            found (s.maxpacket (s.epOf n)) (s.urb n) r
          else 0
      | [] => 0
  | _ => 0

/-- What a pass finds to move for a bulk URB fits into the frame. -/
def Fits (s : State) : Action → Prop
  | .pass => Within (s.moved + foundNext s) s.frameSpeed
  | _ => True

instance (s : State) (a : Action) : Decidable (Fits s a) :=
  match a with
  | .pass => inferInstanceAs (Decidable (Within (s.moved + foundNext s) s.frameSpeed))
  | .eventAdd | .connect _ | .bind _ | .pullup _ | .enable _ _ _ _ | .disable _ | .disableNuke _
  | .setHalt _ _ | .allocRequest | .queue _ _ _ _ | .dequeue _ _ | .start _ | .visit _ _ _
  | .setup _ _ | .resume | .transferred _ | .cmdSubmit _ _ _ _ _ | .rx _ | .tx _ | .nuke _
  | .eh _ => isTrue trivial

variable {s t : State} {a : Action}

/-- A batch is counted with the length found before it. -/
lemma batch_len {maxpacket : Nat} (hpos : 0 < maxpacket) (u : HostUrb) (r : VRequest) :
    (batch maxpacket u r).1.len = found maxpacket u r := by
  unfold batch found
  dsimp only
  by_cases hlt : min u.left r.left < maxpacket
  · rw [if_pos (Or.inr hlt), if_pos hlt]
    split_ifs <;> rfl
  · have hwhole : ¬ (min u.left r.left = 0 ∨ min u.left r.left < maxpacket) := by omega
    rw [if_neg hwhole, if_neg hlt]
    rfl

/-- A pass for a bulk URB moves what it finds. -/
lemma moved_pass (h : pass s = some t) :
    t.moved = s.moved + foundNext s ∧ t.frameSpeed = s.frameSpeed := by
  obtain ⟨n, next, total, r, rest, hpc, -, hqueue, e, he, _, _, _, rfl, -⟩ := pass_cases h
  refine ⟨?_, rfl⟩
  unfold foundNext
  rw [hpc]
  dsimp only
  rw [hqueue]
  dsimp only
  split
  · rw [he, batch_len (s.maxpacket (s.epOf n)).2]
  · rfl

/-- The other steps move nothing, or begin a frame. -/
lemma moved_other (ha : a ≠ .pass) (h : step s a = some t) :
    t.moved = s.moved ∧ t.frameSpeed = s.frameSpeed ∨ t.moved = 0 := by
  cases htimer : a.timer
  · cases quiet_step htimer h with
    | device d moved frameSpeed maxpacket driver _ _ hmoved => exact hmoved
    | submit | endpoint | requests => exact Or.inl ⟨rfl, rfl⟩
  cases a with
  | start now =>
      obtain ⟨d, -, rfl⟩ := Option.map_eq_some_iff.mp h
      dsimp only
      split_ifs
      · exact Or.inr rfl
      · exact Or.inl ⟨rfl, rfl⟩
  | visit allocOk ret c =>
      obtain ⟨_, d, -, ⟨rfl, -⟩ | ⟨_, _, _, -, -, ⟨-, rfl⟩ | ⟨-, -, rfl⟩⟩⟩ := visit_cases h
      all_goals exact Or.inl ⟨rfl, rfl⟩
  | setup | resume =>
      obtain ⟨d, -, rfl⟩ := Option.map_eq_some_iff.mp h
      exact Or.inl ⟨rfl, rfl⟩
  | pass => exact absurd rfl ha
  | transferred allocOk =>
      obtain ⟨_, _, _, d, -, -, -, rfl⟩ := transferred_cases h
      exact Or.inl ⟨rfl, rfl⟩
  | _ => cases htimer

/-- A step keeps the frame within its limit if and only if what it finds to move fits. -/
lemma within_step (hw : Within s.moved s.frameSpeed) (h : step s a = some t) :
    Within t.moved t.frameSpeed ↔ Fits s a := by
  by_cases ha : a = .pass
  · subst ha
    obtain ⟨hmoved, hspeed⟩ := moved_pass h
    rw [hmoved, hspeed]
    rfl
  · have hfits : Fits s a := by
      cases a with
      | pass => exact absurd rfl ha
      | _ => trivial
    refine iff_of_true ?_ hfits
    rcases moved_other ha h with ⟨hmoved, hspeed⟩ | hmoved
    · rwa [hmoved, hspeed]
    · exact Or.inl hmoved

/-- While what each pass finds to move fits into the frame, the bytes moved by bulk URBs in a frame
stay within the limit of its speed, and the next step breaks the limit exactly when it does not
fit. -/
theorem frame_limit_kept (h : machine.Reach Fits s) :
    Within s.moved s.frameSpeed ∧ ∀ a t, machine.step s a = some t →
      (Within t.moved t.frameSpeed ↔ Fits s a) := by
  have hw : Within s.moved s.frameSpeed := by
    refine h.invariant (I := fun s => Within s.moved s.frameSpeed) ?_ ?_
    · rintro _ ⟨maxpacket, rfl⟩
      exact Or.inl rfl
    · intro s a t hw hok hstep
      exact (within_step hw hstep).mpr hok
  exact ⟨hw, fun a t hstep => within_step hw hstep⟩

/-- A URB of `len` bytes and a request for it, served at low speed. -/
def servedRun (len : Nat) : List Action :=
  connectedRun ++ received 1 1 len ++ [.queue 1 0 (List.replicate len 0) false, .start 0] ++ served

/-- A full-speed frame that moves 64 bytes. -/
theorem frame_limit_kept_servedRun :
    ∃ s : State, machine.Reach Fits s ∧ s.moved = 64 ∧ Within s.moved s.frameSpeed := by
  have hrun : ∃ s : State, machine.Reach Fits s ∧ s.moved = 64 :=
    Machine.Reach.of_perform (servedRun 64) init_new (by decide +kernel)
  obtain ⟨s, hs, hmoved⟩ := hrun
  exact ⟨s, hs, hmoved, (frame_limit_kept hs).1⟩

/-- At low speed a frame has 96 bytes, and one URB moves 128. -/
theorem limit_exceeded : ¬ ∀ s : State, machine.Reachable s → Within s.moved s.frameSpeed := by
  intro hall
  have hrun : ∃ s : State, machine.Reachable s ∧ s.moved = 128 ∧ s.frameSpeed = .low :=
    Machine.Reach.of_perform (servedRun 128) init_new (by decide +kernel)
  obtain ⟨s, hs, hmoved, hspeed⟩ := hrun
  have hw := hall s hs
  rw [hmoved, hspeed] at hw
  exact absurd hw (by decide)

end Usbip.Vudc.Flow
