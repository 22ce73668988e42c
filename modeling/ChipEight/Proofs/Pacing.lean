/-
# ChipEight.Proofs.Pacing -- the clock decides about sleeps only

A paced run looks at a clock after each frame, and asks a signal and looks at a limit before it.
The clock may be late, early, or go backwards: as long as it can be read, the frames that run and
what they do are those of a plain run. How many there are is for the signal and the limit to say,
and `LastsFor` joins the two: the run is over before the frame with this number, and before no
earlier one.

`pace_follows` is the induction, over the frames that are left, with the time of the next frame and
the rest of the clock left open. Everything about the clock is in two facts: a clock that is made of
times has a reading, and it is still made of times after it.
-/
import ChipEight.Proofs.History

namespace ChipEight

/-! ## Clocks that can be read -/

namespace Clock

theorem read_ofTimes (times : List Float) : ∃ now, (ofTimes times).read = .ok now := by
  cases times with
  | nil => exact ⟨0, rfl⟩
  | cons t _ => exact ⟨t, rfl⟩

theorem next_ofTimes (times : List Float) : ∃ rest, (ofTimes times).next = ofTimes rest := by
  cases times with
  | nil => exact ⟨[], rfl⟩
  | cons t rest =>
    cases rest with
    | nil => exact ⟨[t], rfl⟩
    | cons u rest => exact ⟨u :: rest, rfl⟩

end Clock

/-! ## Signals -/

namespace Signal

/-- The signal says to stop when it was asked so many times before, and at no earlier time. -/
structure FirstAt (signal : Signal) (asked : Nat) : Prop where
  stops : signal asked = true
  goesOn : ∀ earlier < asked, signal earlier = false

theorem firstAt_after (count : Nat) : (after count).FirstAt count where
  stops := decide_eq_true (Nat.le_refl count)
  goesOn _ h := decide_eq_false (Nat.not_le.mpr h)

end Signal

/-! ## Paced and plain runs -/

/-- The end of a paced run of so many frames, if a plain run of them ends in this way. -/
def PacedEnd.ofFrames (count : Nat) : Except Stop Unit → PacedEnd
  | .ok () => .ran count
  | .error reason => .refused reason

/-- The paced run comes to the same console as a plain run and ends as it does, be it that so many
frames have run or that one of them refused. -/
structure PacedRun.Follows (run : PacedRun) (count : Nat) (plain : Console × Except Stop Unit) :
    Prop where
  console : run.console = plain.1
  ending : run.ending = .ofFrames count plain.2

namespace Console

/-- The run is over when so many frames have run, and not before. -/
structure LastsFor (limit : Option Int) (signal : Signal) (count : Nat) : Prop where
  ends : isOver limit signal count = true
  goesOn : ∀ ran < count, isOver limit signal ran = false

theorem lastsFor_limit (most : Nat) : LastsFor (some most) .never most where
  ends := decide_eq_true (Int.le_refl most)
  goesOn ran h := decide_eq_false (by omega)

theorem lastsFor_signal {signal : Signal} {asked : Nat} (h : signal.FirstAt asked) :
    LastsFor none signal asked where
  ends := by rw [isOver, h.stops, Bool.true_or]
  goesOn ran hr := by rw [isOver, h.goesOn ran hr, Bool.false_or]

theorem lastsFor_both {signal : Signal} {asked : Nat} (h : signal.FirstAt asked) (most : Nat) :
    LastsFor (some most) signal (min most asked) where
  ends := by
    -- whichever of the two is smaller ends the run
    rcases Nat.le_total most asked with hle | hle
    · rw [isOver, Nat.min_eq_left hle, decide_eq_true (Int.le_refl most), Bool.or_true]
    · rw [isOver, Nat.min_eq_right hle, h.stops, Bool.true_or]
  goesOn ran hr := by
    obtain ⟨hmost, hasked⟩ := Nat.lt_min.mp hr
    rw [isOver, h.goesOn ran hasked, Bool.false_or]
    exact decide_eq_false (by omega)

theorem pace_follows (interval : Float) {limit : Option Int} {signal : Signal} {left rounds : Nat}
    (hrounds : left < rounds) {ran : Nat} (hends : isOver limit signal (ran + left) = true)
    (goesOn : ∀ k < left, isOver limit signal (ran + k) = false) (due : Float)
    (times : List Float) (c : Console) :
    (pace interval limit signal rounds ran due (.ofTimes times) c).Follows (ran + left)
      (runFrames left c) := by
  induction left generalizing rounds ran due times c with
  | zero =>
    obtain ⟨rounds, rfl⟩ := Nat.exists_eq_succ_of_ne_zero (Nat.ne_zero_of_lt hrounds)
    have hover : isOver limit signal ran = true := hends
    unfold pace
    rw [if_pos hover]
    exact ⟨rfl, rfl⟩
  | succ left ih =>
    obtain ⟨rounds, rfl⟩ := Nat.exists_eq_succ_of_ne_zero (Nat.ne_zero_of_lt hrounds)
    have hgoes : ¬ isOver limit signal ran = true := by
      rw [← Nat.add_zero ran, goesOn 0 left.succ_pos]
      exact Bool.false_ne_true
    unfold pace runFrames
    rw [if_neg hgoes]
    rcases c.runFrame with ⟨d, r⟩
    cases r with
    | error _ => exact ⟨rfl, rfl⟩
    | ok _ =>
      -- what is left after this frame, whatever the clock says by then
      have hrest : left < rounds := Nat.lt_of_succ_lt_succ hrounds
      have hcount : ran + (left + 1) = ran + 1 + left := by omega
      have hover : isOver limit signal (ran + 1 + left) = true := hcount ▸ hends
      have hlater : ∀ k < left, isOver limit signal (ran + 1 + k) = false := by
        intro k hk
        rw [Nat.add_right_comm]
        exact goesOn (k + 1) (Nat.succ_lt_succ hk)
      rw [hcount]
      obtain ⟨now, hnow⟩ := Clock.read_ofTimes times
      obtain ⟨rest, hnext⟩ := Clock.next_ofTimes times
      simp only [hnow, hnext]
      split
      · -- there is time to sleep, and the sleep is all that is added
        obtain ⟨hconsole, hending⟩ := ih hrest hover hlater _ rest d
        exact ⟨hconsole, hending⟩
      · obtain ⟨again, hagain⟩ := Clock.read_ofTimes rest
        obtain ⟨others, hothers⟩ := Clock.next_ofTimes rest
        simp only [hagain, hothers]
        exact ih hrest hover hlater again others d

/-- At a rate that has an interval, a paced run whose rounds are enough is a plain run of as many
frames as the limit and the signal allow. -/
theorem runPaced_follows {framesPerSecond : Int} (hz : framesPerSecond ≠ 0)
    (hr : framesPerSecond.natAbs < Numeral.floatLimit) (times : List Float)
    {limit : Option Int} {signal : Signal} {count patience : Nat}
    (hlasts : LastsFor limit signal count) (hrounds : count < roundsFor limit patience)
    (c : Console) :
    (c.runPaced framesPerSecond limit signal patience (.ofTimes times)).Follows count
      (runFrames count c) := by
  have hinterval : intervalOf framesPerSecond = .ok (1.0 / Float.ofInt framesPerSecond) := by
    rw [intervalOf, if_neg hz, if_neg (Nat.not_le.mpr hr)]
  obtain ⟨now, hnow⟩ := Clock.read_ofTimes times
  obtain ⟨rest, hnext⟩ := Clock.next_ofTimes times
  simp only [runPaced, hinterval, hnow, hnext]
  have hover : isOver limit signal (0 + count) = true := by
    rw [Nat.zero_add]
    exact hlasts.ends
  have hgoes : ∀ k < count, isOver limit signal (0 + k) = false := by
    intro k hk
    rw [Nat.zero_add]
    exact hlasts.goesOn k hk
  have hrun := pace_follows (1.0 / Float.ofInt framesPerSecond) hrounds hover hgoes now rest c
  rwa [Nat.zero_add] at hrun

/-- At any rate that has an interval and on any clock that is made of times, a paced run is a plain
run: without a signal it runs as many frames as the limit says, and with a signal as many as it is
asked before it says to stop, or as the limit says if that is less. It leaves the console that the
plain run leaves, answers with the number of frames if all of them complete, and otherwise ends with
the refusal of the same frame. -/
theorem runPaced_eq_runFrames (c : Console) {framesPerSecond : Int} (hz : framesPerSecond ≠ 0)
    (hr : framesPerSecond.natAbs < Numeral.floatLimit) (times : List Float) (patience : Nat) :
    let run := fun limit signal => c.runPaced framesPerSecond limit signal patience (.ofTimes times)
    (∀ most : Nat, (run (some most) .never).Follows most (runFrames most c)) ∧
      ∀ signal asked, Signal.FirstAt signal asked →
        (∀ most : Nat,
          (run (some most) signal).Follows (min most asked) (runFrames (min most asked) c)) ∧
        (asked < patience → (run none signal).Follows asked (runFrames asked c)) := by
  intro run
  refine ⟨?_, ?_⟩
  · intro most
    exact runPaced_follows hz hr times (lastsFor_limit most) (Nat.lt_succ_self most) c
  · intro signal asked hs
    refine ⟨?_, ?_⟩
    · intro most
      have hrounds : min most asked < roundsFor (some most) patience :=
        Nat.lt_succ_of_le (Nat.min_le_left most asked)
      exact runPaced_follows hz hr times (lastsFor_both hs most) hrounds c
    · intro hpatience
      exact runPaced_follows hz hr times (lastsFor_signal hs) hpatience c

/-- A console with a program that returns without a call in its third frame. -/
def returnsInThirdFrame : Console :=
  (new (Screen.blank 64 32) (.ofArray #[]) (.number 1) 440).after
    [.loadRom [0x60, 0x01, 0x61, 0x02, 0x00, 0xEE]]

theorem runPaced_eq_runFrames_on_unsteady_clock :
    let c := returnsInThirdFrame
    let run := fun limit signal => c.runPaced (-60) limit signal 3 (.ofTimes [2, 5, 1, 9])
    ((-60 : Int) ≠ 0 ∧ (-60 : Int).natAbs < Numeral.floatLimit ∧ Signal.FirstAt (.after 2) 2) ∧
      ((run none (.after 2)).ending = .ran 2 ∧ (run none (.after 2)).console.frames = 2) ∧
        (run (some 1) (.after 2)).ending = .ran 1 ∧
          (run (some 4) .never).ending = .refused (.fault (.emptyStack 0x204)) ∧
            (run (some 4) .never).console.frames = 2 := by
  intro c run
  have hz : (-60 : Int) ≠ 0 := by decide
  have hr : (-60 : Int).natAbs < Numeral.floatLimit := by decide +kernel
  obtain ⟨hlimit, hsignal⟩ := runPaced_eq_runFrames c hz hr [2, 5, 1, 9] 3
  obtain ⟨hboth, hfirst⟩ := hsignal (.after 2) 2 (Signal.firstAt_after 2)
  have hstopped : (run none (.after 2)).Follows 2 (runFrames 2 c) := hfirst (by decide)
  have hshort : (run (some 1) (.after 2)).Follows 1 (runFrames 1 c) := hboth 1
  have hrefused : (run (some 4) .never).Follows 4 (runFrames 4 c) := hlimit 4
  rw [hstopped.ending, hstopped.console, hshort.ending, hrefused.ending, hrefused.console]
  refine ⟨⟨hz, hr, Signal.firstAt_after 2⟩, ?_⟩
  decide +kernel

end Console

end ChipEight
