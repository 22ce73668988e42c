/-
# ChipEight.Proofs.MixerTone -- what a tone asks of its mixer

A tone is told to start and to stop, in any order, and asks its mixer for one thing or another. What
it has asked so far says all about the state it is in: it is on exactly if the last thing it asked
for, among plays and stops, was a play, and its sound is the last one it had made (`Tells`). Every
order keeps this, one that is refused included (`Tells.obey`), so it holds after any orders
(`tells_after`).

`Starting` says what a start can come to. A play stands only behind a look at the frequency of the
sound, so what is played was made for the frequency of that order. And a mixer that could not be
opened is left in peace from then on (`mute_after`).
-/
import ChipEight.Audio.MixerTone
import Mathlib.Data.List.Chain

namespace ChipEight.Audio

/-! ## Orders -/

/-- What a tone is told. -/
inductive ToneOrder where
  /-- Sound at a frequency. -/
  | start (frequency : Int)
  /-- Be silent. -/
  | stop
  deriving DecidableEq, Repr

namespace MixerTone

/-- Follows an order. -/
def obey (t : MixerTone) : ToneOrder → ToneStep
  | .start frequency => t.start frequency
  | .stop => t.stop

/-- The tone after some orders. -/
def after (t : MixerTone) (orders : List ToneOrder) : MixerTone :=
  orders.foldl (fun t order => (t.obey order).tone) t

/-- What the mixer is asked to do during some orders. -/
def asked (t : MixerTone) : List ToneOrder → List MixerCall
  | [] => []
  | order :: orders => (t.obey order).calls ++ (t.obey order).tone.asked orders

end MixerTone

/-! ## What was asked -/

/-- Whether a call makes the mixer play or stop, if it does one of them. -/
def MixerCall.toggle? : MixerCall → Option Bool
  | .play _ => some true
  | .stop => some false
  | _ => none

/-- The sound that a call asks for, if it asks for one. -/
def MixerCall.made? : MixerCall → Option Sound
  | .make sound => some sound
  | _ => none

/-- The plays and stops among some calls, in order. -/
def toggles (calls : List MixerCall) : List Bool :=
  calls.filterMap MixerCall.toggle?

/-- The sounds that were made by some calls, in order. -/
def made (calls : List MixerCall) : List Sound :=
  calls.filterMap MixerCall.made?

@[simp] theorem toggles_append (calls more : List MixerCall) :
    toggles (calls ++ more) = toggles calls ++ toggles more :=
  List.filterMap_append

@[simp] theorem made_append (calls more : List MixerCall) :
    made (calls ++ more) = made calls ++ made more :=
  List.filterMap_append

theorem true_mem_toggles {calls : List MixerCall} {sound : Sound} (h : .play sound ∈ calls) :
    true ∈ toggles calls :=
  List.mem_filterMap.mpr ⟨.play sound, h, rfl⟩

/-- The samples of the sound are those of its frequency, for a mixer with these settings. -/
def Sound.IsFor (s : Sound) (settings : MixerSettings) : Prop :=
  squareWave s.frequency settings.rate settings.channels defaultAmplitude = .ok s.wave

/-! ## Opening the mixer -/

/-- What a look at the settings of a mixer can come to. -/
inductive Mixer.Readied (m : Mixer) (rate : Int) :
    Mixer × List MixerCall × Option MixerSettings → Prop where
  /-- It is open. -/
  | already {settings} (h : m.settings = some settings) : Readied m rate (m, [], some settings)
  /-- It is opened. -/
  | opened {settings} (h : m.settings = none) (hok : m.failures.head? ≠ some true)
      (hs : settings = m.opened.getD (requested rate)) :
      Readied m rate
        ({ m with failures := m.failures.tail, settings := some settings }, [.init rate],
          some settings)
  /-- It cannot be opened. -/
  | failed (h : m.settings = none) (hfail : m.failures.head? = some true) :
      Readied m rate ({ m with failures := m.failures.tail }, [.init rate], none)

theorem Mixer.readied (m : Mixer) (rate : Int) : m.Readied rate (m.ready rate) := by
  obtain ⟨settings, opened, failures⟩ := m
  cases settings with
  | some settings => exact .already rfl
  | none =>
    rcases failures with _ | ⟨⟨⟩, later⟩
    · exact .opened rfl (by simp) rfl
    · exact .opened rfl (by simp) rfl
    · exact .failed rfl rfl

namespace Mixer.Readied

variable {m m' : Mixer} {rate : Int} {calls : List MixerCall} {settings? : Option MixerSettings}

/-- Opening a mixer makes no sound. -/
theorem quiet (h : m.Readied rate (m', calls, settings?)) : toggles calls = [] ∧ made calls = [] := by
  cases h <;> exact ⟨rfl, rfl⟩

theorem settings_eq {settings : MixerSettings} (h : m.Readied rate (m', calls, some settings)) :
    m'.settings = some settings := by
  cases h with
  | already h => exact h
  | opened => rfl

/-- A mixer that is open stays as it is. -/
theorem eq_of_open (h : m.Readied rate (m', calls, settings?)) {settings : MixerSettings}
    (hm : m.settings = some settings) : m' = m := by
  cases h with
  | already => rfl
  | opened hnone | failed hnone => cases hnone.symm.trans hm

end Mixer.Readied

namespace MixerTone

variable {t : MixerTone} {order : ToneOrder} {step : ToneStep} {log : List MixerCall}

/-! ## What an order comes to -/

/-- What an order can come to. -/
inductive Outcome (t : MixerTone) : ToneOrder → ToneStep → Prop where
  /-- A tone that is on, or disabled, is not started. -/
  | notStarted {frequency} (h : t.active = true ∨ t.enabled = false) :
      Outcome t (.start frequency) ⟨t, [], .fine⟩
  /-- The sound that is there is played again. -/
  | again {sound} (hoff : t.active = false) (hon : t.enabled = true) (hs : t.sound = some sound) :
      Outcome t (.start sound.frequency) (t.play sound [])
  /-- A sound is made and played. -/
  | afresh {mixer settings} {calls : List MixerCall} {sound : Sound} (hoff : t.active = false) (hon : t.enabled = true)
      (hnew : t.frequency? ≠ some sound.frequency)
      (hready : t.mixer.Readied t.rate (mixer, calls, some settings)) (hwave : sound.IsFor settings) :
      Outcome t (.start sound.frequency)
        ({ t with mixer := mixer }.play sound (calls ++ [MixerCall.make sound, .volume]))
  /-- The frequency has no wave. -/
  | noWave {frequency mixer calls settings e} (hoff : t.active = false) (hon : t.enabled = true)
      (hready : t.mixer.Readied t.rate (mixer, calls, some settings))
      (hwave : squareWave frequency settings.rate settings.channels defaultAmplitude = .error e) :
      Outcome t (.start frequency) ⟨{ t with mixer := mixer }, calls, .noWave e⟩
  /-- The mixer cannot be opened. -/
  | unavailable {frequency mixer calls} (hoff : t.active = false) (hon : t.enabled = true)
      (hready : t.mixer.Readied t.rate (mixer, calls, none)) :
      Outcome t (.start frequency)
        ⟨{ t with mixer := mixer, enabled := false }, calls, .unavailable⟩
  /-- A tone that is off is not stopped. -/
  | notStopped (hoff : t.active = false) : Outcome t .stop ⟨t, [], .fine⟩
  /-- A tone is stopped. -/
  | stopped (hon : t.active = true) : Outcome t .stop ⟨{ t with active := false }, [.stop], .fine⟩

theorem outcome_start (t : MixerTone) (frequency : Int) :
    Outcome t (.start frequency) (t.start frequency) := by
  unfold start
  split
  · next h => exact .notStarted (by simpa using h)
  next h =>
  obtain ⟨hoff, hon⟩ : t.active = false ∧ t.enabled = true := by simpa using h
  cases hsound : t.sound.filter fun s => s.frequency = frequency with
  | some sound =>
    obtain ⟨hs, hf⟩ := Option.filter_eq_some_iff.mp hsound
    obtain rfl := of_decide_eq_true hf
    exact .again hoff hon hs
  | none =>
    -- the filter found nothing, so the sound that is there has another frequency
    have hnew : t.frequency? ≠ some frequency := by
      intro hsame
      obtain ⟨s, hs, hf⟩ := Option.map_eq_some_iff.mp hsame
      simp [hs, hf] at hsound
    have hready := t.mixer.readied t.rate
    revert hready
    rcases t.mixer.ready t.rate with ⟨mixer, calls, _ | settings⟩ <;> intro hready
    · exact .unavailable hoff hon hready
    · dsimp only
      cases hwave : squareWave frequency settings.rate settings.channels defaultAmplitude with
      | error e => exact .noWave hoff hon hready hwave
      | ok wave =>
        have hfor : Sound.IsFor ⟨frequency, wave⟩ settings := hwave
        exact .afresh hoff hon hnew hready hfor

theorem outcome (t : MixerTone) (order : ToneOrder) : Outcome t order (t.obey order) := by
  cases order with
  | start frequency => exact t.outcome_start frequency
  | stop =>
    unfold obey stop
    cases h : t.active with
    | false => exact .notStopped h
    | true => exact .stopped h

namespace Outcome

/-- The mixer plays if the tone goes on, stops if it goes off, and does neither otherwise. -/
theorem toggles_eq (h : Outcome t order step) :
    toggles step.calls = if step.tone.active = t.active then [] else [step.tone.active] := by
  cases h with
  | notStarted | notStopped => simp [toggles]
  | again hoff => simp [play, hoff, toggles, MixerCall.toggle?]
  | afresh hoff _ _ hready =>
    simp only [play, toggles_append, hready.quiet.1, hoff]
    rfl
  | noWave _ _ hready | unavailable _ _ hready => simp [hready.quiet.1]
  | stopped hon => simp [hon, toggles, MixerCall.toggle?]

/-- A sound is made only if the one that is there has another frequency, and then it is the sound
of the tone. -/
theorem made_cases (h : Outcome t order step) :
    (made step.calls = [] ∧ step.tone.sound = t.sound) ∨
      ∃ sound, made step.calls = [sound] ∧ step.tone.sound = some sound ∧
        t.frequency? ≠ some sound.frequency ∧
          ∃ settings ∈ step.tone.mixer.settings, sound.IsFor settings := by
  cases h with
  | notStarted | notStopped | stopped => exact .inl ⟨rfl, rfl⟩
  | again _ _ hs => exact .inl ⟨rfl, hs.symm⟩
  | afresh _ _ hnew hready hwave =>
    refine .inr ⟨_, ?_, rfl, hnew, _, hready.settings_eq, hwave⟩
    simp only [play, made_append, hready.quiet.2]
    rfl
  | noWave _ _ hready | unavailable _ _ hready => exact .inl ⟨hready.quiet.2, rfl⟩

/-- The settings of an open mixer do not change. -/
theorem settings_eq (h : Outcome t order step) {settings : MixerSettings}
    (hopen : t.mixer.settings = some settings) : step.tone.mixer.settings = some settings := by
  cases h with
  | notStarted | notStopped | stopped | again => exact hopen
  | afresh _ _ _ hready | noWave _ _ hready | unavailable _ _ hready =>
    obtain rfl := hready.eq_of_open hopen
    exact hopen

/-- What is played is the sound of the tone, and the order was to sound at its frequency. -/
theorem of_play (h : Outcome t order step) {sound : Sound} (hplay : .play sound ∈ step.calls) :
    order = .start sound.frequency ∧ step.tone.sound = some sound := by
  cases h with
  | notStarted | notStopped => cases hplay
  | stopped => simp at hplay
  | again =>
    obtain rfl : sound = _ := by simpa [play] using hplay
    exact ⟨rfl, rfl⟩
  | afresh _ _ _ hready =>
    rcases List.mem_append.mp hplay with hmem | hmem
    · have hon : true ∈ toggles (_ ++ _) := true_mem_toggles hmem
      rw [toggles_append, hready.quiet.1] at hon
      cases hon
    · obtain rfl : sound = _ := by simpa [play] using hmem
      exact ⟨rfl, rfl⟩
  | noWave _ _ hready | unavailable _ _ hready =>
    have hon := true_mem_toggles hplay
    rw [hready.quiet.1] at hon
    cases hon

/-- A tone that is on can be heard, and stays so. -/
theorem audible (h : Outcome t order step)
    (ht : t.active = true → t.enabled = true ∧ t.sound.isSome = true)
    (hon : step.tone.active = true) :
    step.tone.enabled = true ∧ step.tone.sound.isSome = true := by
  cases h with
  | notStarted | notStopped => exact ht hon
  | again _ henabled | afresh _ henabled => exact ⟨henabled, rfl⟩
  | noWave hoff | unavailable hoff => simp [hoff] at hon
  | stopped => cases hon

/-- If the mixer is to be opened and cannot be, the tone is off and disabled. -/
theorem of_failed_init (h : Outcome t order step) {rate : Int} (hinit : .init rate ∈ step.calls)
    (hfail : t.mixer.failures.head? = some true) :
    step.result = .unavailable ∧ step.tone.active = false ∧ step.tone.enabled = false := by
  cases h with
  | notStarted | notStopped => cases hinit
  | stopped => simp at hinit
  | again => simp [play] at hinit
  | afresh _ _ _ hready =>
    cases hready with
    | already => simp [play] at hinit
    | opened _ hok => exact absurd hfail hok
  | noWave _ _ hready =>
    cases hready with
    | already => cases hinit
    | opened _ hok => exact absurd hfail hok
  | unavailable hoff => exact ⟨rfl, hoff, rfl⟩

/-- A tone that is off and disabled does nothing. -/
theorem eq_of_mute (h : Outcome t order step) (hoff : t.active = false)
    (hdisabled : t.enabled = false) : step = ⟨t, [], .fine⟩ := by
  cases h with
  | notStarted | notStopped => rfl
  | again _ hon | afresh _ hon | noWave _ hon | unavailable _ hon => simp [hdisabled] at hon
  | stopped hon => simp [hoff] at hon

end Outcome

/-! ## Alternation -/

/-- A last value that is put behind a list where neighbours differ, unless it is there already. -/
theorem alternates_concat {values : List Bool} {last next : Bool}
    (h : values.IsChain (· ≠ ·)) (hlast : values.getLast? = some last) :
    (values ++ if next = last then [] else [next]).IsChain (· ≠ ·) ∧
      (values ++ if next = last then [] else [next]).getLast? = some next := by
  split
  · next hsame =>
    subst hsame
    simpa using ⟨h, hlast⟩
  · next hnew =>
    refine ⟨List.isChain_append.mpr ⟨h, .singleton next, ?_⟩, by simp⟩
    rintro x hx y ⟨⟩
    obtain rfl : last = x := Option.some.inj (hlast.symm.trans hx)
    exact Ne.symm hnew

/-! ## What the calls so far tell -/

/-- What was asked of the mixer since the tone was new tells about the tone. -/
structure Tells (log : List MixerCall) (t : MixerTone) : Prop where
  /-- Plays and stops alternate, and begin with a play. -/
  alternates : (false :: toggles log).IsChain (· ≠ ·)
  /-- The tone is on if the last of them is a play. -/
  active : (false :: toggles log).getLast? = some t.active
  /-- The sound is the last one that was made. -/
  sound : (made log).getLast? = t.sound
  /-- No sound was made for the frequency of the one before. -/
  fresh : ((made log).map Sound.frequency).IsChain (· ≠ ·)
  /-- Sounds have the samples of their frequencies. -/
  waves : ∀ sound ∈ made log, ∃ settings ∈ t.mixer.settings, sound.IsFor settings
  /-- A tone that is on can be heard. -/
  audible : t.active = true → t.enabled = true ∧ t.sound.isSome = true

theorem tells_new (rate : Int) (mixer : Mixer) : Tells [] (new rate mixer) where
  alternates := .singleton false
  active := rfl
  sound := rfl
  fresh := .nil
  waves _ h := absurd h List.not_mem_nil
  audible h := absurd h Bool.false_ne_true

/-- Every order adds to the calls what it does to the tone. -/
theorem Tells.obey (h : Tells log t) (order : ToneOrder) :
    Tells (log ++ (t.obey order).calls) (t.obey order).tone := by
  have hout := t.outcome order
  generalize t.obey order = step at hout ⊢
  obtain ⟨halternates, hactive⟩ :
      (false :: toggles (log ++ step.calls)).IsChain (· ≠ ·) ∧
        (false :: toggles (log ++ step.calls)).getLast? = some step.tone.active := by
    rw [toggles_append, hout.toggles_eq]
    exact alternates_concat h.alternates h.active
  have hwaves : ∀ sound ∈ made log, ∃ settings ∈ step.tone.mixer.settings, sound.IsFor settings := by
    intro sound hsound
    obtain ⟨settings, hopen, hfor⟩ := h.waves sound hsound
    exact ⟨settings, hout.settings_eq hopen, hfor⟩
  have haudible := hout.audible h.audible
  -- either nothing is made and the sound stays, or the sound is the one that is made now
  rcases hout.made_cases with ⟨hmade, hsame⟩ | ⟨sound, hmade, hsound, hnew, hfor⟩
  · have hlog : made (log ++ step.calls) = made log := by simp [hmade]
    exact ⟨halternates, hactive, by rw [hlog, h.sound, hsame], hlog ▸ h.fresh, hlog ▸ hwaves,
      haudible⟩
  · have hlog : made (log ++ step.calls) = made log ++ [sound] := by simp [hmade]
    refine ⟨halternates, hactive, by rw [hlog, hsound, List.getLast?_concat], ?_, ?_, haudible⟩
    · rw [hlog, List.map_append]
      refine List.isChain_append.mpr ⟨h.fresh, .singleton _, ?_⟩
      -- the last sound made is the sound of the tone, and that has another frequency
      rintro before hbefore _ ⟨⟩ rfl
      rw [List.getLast?_map, h.sound] at hbefore
      exact hnew hbefore
    · rw [hlog]
      intro s hs
      rcases List.mem_append.mp hs with hs | hs
      · exact hwaves s hs
      · obtain rfl := List.mem_singleton.mp hs
        exact hfor

/-- Whatever a tone is told, the calls go on to tell about it. -/
theorem Tells.after (h : Tells log t) (orders : List ToneOrder) :
    Tells (log ++ t.asked orders) (t.after orders) := by
  induction orders generalizing t log with
  | nil => rwa [asked, List.append_nil]
  | cons order orders ih =>
    rw [asked, ← List.append_assoc]
    exact ih (h.obey order)

theorem tells_after (rate : Int) (mixer : Mixer) (orders : List ToneOrder) :
    Tells ((new rate mixer).asked orders) ((new rate mixer).after orders) :=
  (tells_new rate mixer).after orders

/-! ## Any orders -/

/-- A tone that is off and disabled is told in vain. -/
theorem mute_after (hoff : t.active = false) (hdisabled : t.enabled = false)
    (orders : List ToneOrder) : t.after orders = t ∧ t.asked orders = [] := by
  induction orders with
  | nil => exact ⟨rfl, rfl⟩
  | cons order orders ih =>
    have hidle := (t.outcome order).eq_of_mute hoff hdisabled
    constructor
    · rw [after, List.foldl_cons, hidle]
      exact ih.1
    · rw [asked, hidle]
      exact ih.2

/-- A tone and its mixer, whatever the tone is told and whatever comes of opening the mixer. -/
theorem protocol_after (rate : Int) (mixer : Mixer) (orders : List ToneOrder) :
    let t := (new rate mixer).after orders
    let log := (new rate mixer).asked orders
    (t.active = true → t.enabled = true ∧ t.sound.isSome = true ∧ t.frequency?.isSome = true) ∧
      (false :: toggles log).IsChain (· ≠ ·) ∧
      (t.active = true ↔ (toggles log).getLast? = some true) ∧
      ((made log).map Sound.frequency).IsChain (· ≠ ·) ∧
      (∀ order sound, .play sound ∈ (t.obey order).calls →
        order = .start sound.frequency ∧
          (made (log ++ (t.obey order).calls)).getLast? = some sound ∧
          ∃ settings ∈ (t.obey order).tone.mixer.settings, sound.IsFor settings) ∧
      ∀ frequency wanted, .init wanted ∈ (t.start frequency).calls →
        t.mixer.failures.head? = some true →
          (t.start frequency).result = .unavailable ∧
            ∀ later, ((t.start frequency).tone.after later).enabled = false ∧
              ((t.start frequency).tone.after later).active = false ∧
              (t.start frequency).tone.asked later = [] := by
  intro t log
  have htells : Tells log t := tells_after rate mixer orders
  refine ⟨?_, htells.alternates, ?_, htells.fresh, ?_, ?_⟩
  · intro hon
    obtain ⟨henabled, hsound⟩ := htells.audible hon
    exact ⟨henabled, hsound, by rw [frequency?, Option.isSome_map, hsound]⟩
  · have hactive := htells.active
    rw [List.getLast?_cons] at hactive
    rw [← Option.some.inj hactive]
    cases (toggles log).getLast? <;> simp
  · intro order sound hplay
    obtain ⟨horder, hsound⟩ := (t.outcome order).of_play hplay
    have hnext := htells.obey order
    have hlast := hnext.sound.trans hsound
    exact ⟨horder, hlast, hnext.waves sound (List.mem_of_getLast? hlast)⟩
  · intro frequency wanted hinit hfail
    obtain ⟨hresult, hoff, hdisabled⟩ := (t.outcome_start frequency).of_failed_init hinit hfail
    refine ⟨hresult, fun later => ?_⟩
    obtain ⟨hafter, hasked⟩ := mute_after hoff hdisabled later
    rw [hafter]
    exact ⟨hdisabled, hoff, hasked⟩

/-- A mixer that fails at once is asked for nothing else. -/
theorem protocol_after_failure :
    let t := (new defaultRate ⟨none, none, [true]⟩).after [.stop]
    .init defaultRate ∈ (t.start 440).calls ∧ t.mixer.failures.head? = some true ∧
      (t.start 440).result = .unavailable ∧
      ∀ later, ((t.start 440).tone.after later).enabled = false ∧
        ((t.start 440).tone.after later).active = false ∧
        (t.start 440).tone.asked later = [] := by
  intro t
  obtain ⟨-, -, -, -, -, hfailed⟩ := protocol_after defaultRate ⟨none, none, [true]⟩ [.stop]
  have hinit : .init defaultRate ∈ (t.start 440).calls := by decide
  have hfail : t.mixer.failures.head? = some true := by decide
  exact ⟨hinit, hfail, hfailed 440 defaultRate hinit hfail⟩

end MixerTone

end ChipEight.Audio
