/-
# ChipEight.Proofs.ToneSources -- a tone that is heard and one that is not

A buzzer and a tone that is played by a mixer are told the same. If the mixer can be opened and the
frequencies have waves, the two are on together, and the mixer plays as often as the buzzer goes on
(`Alike`).

They differ in one thing. A start that comes while the tone is on does nothing to the tone, and the
buzzer takes its frequency over. So what is heard is the frequency of the first start since the
last stop, and what the buzzer remembers is the frequency of the last one (`startsSinceStop`).

Whether a frequency has a wave is a matter of room. At a positive rate and frequency there is a wave
exactly if there is a number for their quotient and room for the samples of one period (`HasRoom`),
and every rate that hardware offers leaves that room (`hasRoom_of_ordinary`).
-/
import ChipEight.Peripherals
import ChipEight.Proofs.MixerTone

namespace ChipEight

open Audio Numeral

/-! ## The same orders -/

namespace Buzzer

/-- Follows an order. -/
def obey (b : Buzzer) : ToneOrder → Buzzer
  | .start frequency => b.start frequency
  | .stop => b.stop

/-- The buzzer after some orders. -/
def after (b : Buzzer) (orders : List ToneOrder) : Buzzer :=
  orders.foldl obey b

/-- A buzzer counts how often it goes from off to on. -/
theorem starts_obey (b : Buzzer) (order : ToneOrder) :
    (b.obey order).starts =
      b.starts + if b.active = false ∧ (b.obey order).active = true then 1 else 0 := by
  cases order with
  | start => cases h : b.active <;> simp [obey, start, h]
  | stop => simp [obey, stop]

end Buzzer

namespace Audio

/-- The starts since the last stop, with one more order. -/
def ToneOrder.followOn (frequencies : List Int) : ToneOrder → List Int
  | .start frequency => frequencies ++ [frequency]
  | .stop => []

/-- The frequencies of the starts that no stop follows, in order. -/
def startsSinceStop (orders : List ToneOrder) : List Int :=
  orders.foldl ToneOrder.followOn []

/-! ## Room for a wave -/

/-- Rounding twice adds no more than two. -/
theorem roundQuotient_le {n d : Nat} (h : n / d < Nat.pow 2 precision) :
    roundQuotient n d ≤ n / d + 2 := by
  have hlog : Nat.log2 (n / d) ≤ precision := by
    by_cases hzero : n / d = 0
    · rw [hzero]
      exact Nat.zero_le _
    · exact Nat.le_of_lt ((Nat.log2_lt hzero).mpr h)
  have hplace : lastPlace (n / d) = 1 := by
    unfold lastPlace
    rw [Nat.sub_eq_zero_of_le hlog]
  unfold roundQuotient
  -- the quotient is small enough for its last place to be one, so the outer rounding divides by
  -- the scale that the inner one has multiplied with
  simp only [hplace, Nat.mul_one]
  generalize hscale : Nat.pow 2 (precision - Nat.log2 (n / d)) = scale
  have hpos : 0 < scale := hscale ▸ Nat.pow_pos (by decide)
  have hinner : roundHalfEven (n * scale) d / scale ≤ n / d + 1 :=
    calc roundHalfEven (n * scale) d / scale
        ≤ (n * scale / d + scale) / scale :=
          Nat.div_le_div_right ((roundHalfEven_le ..).trans (Nat.add_le_add_left hpos _))
      _ = n * scale / d / scale + 1 := Nat.add_div_right _ hpos
      _ = n / d + 1 := by rw [Nat.div_div_eq_div_mul, Nat.mul_div_mul_right _ _ hpos]
  exact (roundHalfEven_le ..).trans (Nat.add_le_add_right hinner 1)

/-- The samples in one period, if both numbers are positive. -/
def periodLength (rate frequency : Int) : Nat :=
  max 2 (roundQuotient rate.natAbs frequency.natAbs)

/-- There is a number for the quotient of rate and frequency, and there is room for the samples. -/
structure HasRoom (settings : MixerSettings) (frequency : Int) : Prop where
  /-- The quotient is in the range of floating-point numbers. -/
  quotient : settings.rate.natAbs < floatLimit * frequency.natAbs
  /-- There is room for the numbers of the samples. -/
  numbers : blockSize .numbers [periodLength settings.rate frequency] < memoryLimit
  /-- There is room for the samples of all channels. -/
  samples : 1 < settings.channels →
    blockSize .samples [periodLength settings.rate frequency, settings.channels.toNat] < memoryLimit

variable {settings : MixerSettings} {frequency : Int}

theorem two_le_periodLength (rate frequency : Int) : 2 ≤ periodLength rate frequency :=
  Nat.le_max_left ..

theorem period_eq_ok_iff {rate : Int} (hrate : 0 < rate) (hfrequency : 0 < frequency) {n : Nat} :
    period frequency rate = .ok n ↔
      rate.natAbs < floatLimit * frequency.natAbs ∧ periodLength rate frequency < countLimit ∧
        periodLength rate frequency = n := by
  have hzero : frequency ≠ 0 := by omega
  have hsigns : ¬ rate.sign * frequency.sign ≤ 0 := by
    rw [Int.sign_eq_one_of_pos hrate, Int.sign_eq_one_of_pos hfrequency]
    decide
  unfold period
  rw [if_neg hzero, if_neg hsigns]
  show (if _ then _ else if countLimit ≤ periodLength rate frequency then _ else _) = _ ↔ _
  split
  · next hquotient =>
    simp only [reduceCtorEq, Nat.not_lt.mpr hquotient, false_and]
  next hquotient =>
  split
  · next hcount =>
    simp only [reduceCtorEq, Nat.not_lt.mpr hcount, false_and, and_false]
  · next hcount =>
    simp only [Nat.not_le.mp hquotient, Nat.not_le.mp hcount, true_and, Except.ok.injEq]
    rfl

/-- At a positive rate and frequency nothing but room can be missing for a wave. -/
theorem exists_wave_iff (hrate : 0 < settings.rate) (hfrequency : 0 < frequency) :
    (∃ wave, squareWave frequency settings.rate settings.channels defaultAmplitude = .ok wave) ↔
      HasRoom settings frequency := by
  unfold squareWave
  have hamplitude : ¬ countLimit < defaultAmplitude.natAbs := by decide
  have hlimit : memoryLimit ≤ countLimit := by decide
  simp only [bind_eq_ok_iff, mapError_eq_ok_iff, period_eq_ok_iff hrate hfrequency,
    if_neg hamplitude]
  constructor
  · rintro ⟨wave, n, ⟨hquotient, -, rfl⟩, ⟨⟩, hnumbers, h⟩
    refine ⟨hquotient, arrayRoom_eq_ok_iff.mp hnumbers, fun hchannels => ?_⟩
    rw [if_neg (Int.not_le.mpr hchannels)] at h
    split at h
    · cases h
    · obtain ⟨⟨⟩, hsamples, -⟩ := bind_eq_ok_iff.mp h
      exact arrayRoom_eq_ok_iff.mp (mapError_eq_ok_iff.mp hsamples)
  · rintro ⟨hquotient, hnumbers, hsamples⟩
    -- what fits into memory can be counted, so the other limits are no further conditions
    have hcount : periodLength settings.rate frequency < countLimit := by
      simp only [blockSize, List.foldr, Cells.size] at hnumbers
      omega
    refine ⟨⟨periodLength settings.rate frequency, defaultAmplitude, settings.channels⟩, _,
      ⟨hquotient, hcount, rfl⟩, (), arrayRoom_eq_ok_iff.mpr hnumbers, ?_⟩
    by_cases hchannels : settings.channels ≤ 1
    · rw [if_pos hchannels]
    have hroom := hsamples (Int.not_le.mp hchannels)
    have hfew : ¬ countLimit ≤ settings.channels.toNat := by
      have htwo := two_le_periodLength settings.rate frequency
      have hbytes := Nat.mul_le_mul_right (settings.channels.toNat * 2) htwo
      simp only [blockSize, List.foldr, Cells.size] at hroom
      omega
    rw [if_neg hchannels, if_neg hfew]
    exact bind_eq_ok_iff.mpr ⟨(), mapError_eq_ok_iff.mpr (arrayRoom_eq_ok_iff.mpr hroom), rfl⟩

/-- Less than 0x40000000 samples in a second, for no more than eight channels, leave room for every
frequency. -/
theorem hasRoom_of_ordinary (hrate : 0 < settings.rate) (hslow : settings.rate < 0x40000000)
    (hfew : settings.channels ≤ 8) (hfrequency : 0 < frequency) : HasRoom settings frequency := by
  have hquotient : settings.rate.natAbs / frequency.natAbs < 0x40000000 :=
    Nat.lt_of_le_of_lt (Nat.div_le_self ..) (by omega)
  have hlength : periodLength settings.rate frequency ≤ 0x40000000 + 2 := by
    have hrange : 0x40000000 ≤ Nat.pow 2 precision := by decide
    have hround := roundQuotient_le (Nat.lt_of_lt_of_le hquotient hrange)
    exact Nat.max_le.mpr ⟨by decide, by omega⟩
  refine ⟨?_, ?_, fun _ => ?_⟩
  · calc settings.rate.natAbs
      _ < floatLimit * 1 := by
        have hlimit : 0x40000000 ≤ floatLimit * 1 := by decide +kernel
        omega
      _ ≤ floatLimit * frequency.natAbs := Nat.mul_le_mul_left _ (by omega)
  · calc blockSize .numbers [periodLength settings.rate frequency]
      _ = periodLength settings.rate frequency * 8 := rfl
      _ ≤ (0x40000000 + 2) * 8 := Nat.mul_le_mul_right _ hlength
      _ < memoryLimit := by decide
  · calc blockSize .samples [periodLength settings.rate frequency, settings.channels.toNat]
      _ = periodLength settings.rate frequency * (settings.channels.toNat * 2) := rfl
      _ ≤ (0x40000000 + 2) * (8 * 2) :=
        Nat.mul_le_mul hlength (Nat.mul_le_mul_right _ (by omega))
      _ < memoryLimit := by decide

/-! ## A mixer that can be relied on -/

namespace Mixer

/-- No attempt to open the mixer fails. -/
def Reliable (m : Mixer) : Prop :=
  ∀ fails ∈ m.failures, fails = false

/-- The settings that the mixer has, or will have as soon as it is opened. -/
def reported (m : Mixer) (rate : Int) : MixerSettings :=
  m.settings.getD (m.opened.getD (requested rate))

theorem Readied.of_reliable {m m' : Mixer} {rate : Int} {calls : List MixerCall}
    {settings? : Option MixerSettings} (h : m.Readied rate (m', calls, settings?))
    (hm : m.Reliable) :
    settings? = some (m.reported rate) ∧ m'.reported rate = m.reported rate ∧ m'.Reliable := by
  unfold reported
  cases h with
  | already hopen => simp [hopen, hm]
  | opened hclosed _ hs => exact ⟨by simp [hclosed, hs], by simp [hclosed, hs],
      fun fails hfails => hm fails (List.mem_of_mem_tail hfails)⟩
  | failed _ hfail => cases hm true (List.mem_of_mem_head? hfail)

end Mixer

/-- The order can be followed: if it is a start, its frequency is positive and has room. -/
def ToneOrder.Playable (settings : MixerSettings) : ToneOrder → Prop
  | .start frequency => 0 < frequency ∧ HasRoom settings frequency
  | .stop => True

/-! ## Side by side -/

variable {t : MixerTone} {b : Buzzer} {order : ToneOrder} {step : ToneStep} {log : List MixerCall}
  {frequencies : List Int}

namespace MixerTone.Outcome

/-- A tone goes from off to on as often as its mixer plays. -/
theorem count_plays (h : t.Outcome order step) :
    (toggles step.calls).count true =
      if t.active = false ∧ step.tone.active = true then 1 else 0 := by
  rw [h.toggles_eq]
  cases t.active <;> cases step.tone.active <;> rfl

/-- With a mixer that can be relied on, an order that can be followed is followed. -/
theorem of_reliable (h : t.Outcome order step) (hm : t.mixer.Reliable)
    (hrate : 0 < (t.mixer.reported t.rate).rate)
    (hplayable : order.Playable (t.mixer.reported t.rate)) :
    step.result = .fine ∧ step.tone.enabled = t.enabled ∧ step.tone.mixer.Reliable ∧
      step.tone.mixer.reported step.tone.rate = t.mixer.reported t.rate := by
  cases h with
  | notStarted | notStopped | stopped | again => exact ⟨rfl, rfl, hm, rfl⟩
  | afresh _ _ _ hready =>
    obtain ⟨-, hreported, hreliable⟩ := hready.of_reliable hm
    exact ⟨rfl, rfl, hreliable, hreported⟩
  | noWave _ _ hready hwave =>
    obtain ⟨hs, -, -⟩ := hready.of_reliable hm
    obtain ⟨wave, hok⟩ := (exists_wave_iff hrate hplayable.1).mpr hplayable.2
    rw [← Option.some.inj hs, hwave] at hok
    cases hok
  | unavailable _ _ hready =>
    obtain ⟨hs, -, -⟩ := hready.of_reliable hm
    cases hs

/-- A start that is followed leaves the tone on, and at the frequency that it had if it was on
already. A stop leaves it off. -/
theorem of_fine (h : t.Outcome order step) (hon : t.enabled = true) (hfine : step.result = .fine) :
    (∃ frequency, order = .start frequency ∧ step.tone.active = true ∧
        step.tone.frequency? = if t.active then t.frequency? else some frequency) ∨
      (order = .stop ∧ step.tone.active = false) := by
  cases h with
  | notStarted hidle =>
    have hactive : t.active = true := by simpa [hon] using hidle
    exact .inl ⟨_, rfl, hactive, by rw [if_pos hactive]⟩
  | again hoff | afresh hoff =>
    exact .inl ⟨_, rfl, rfl, by simp [hoff, play, frequency?]⟩
  | noWave | unavailable => cases hfine
  | notStopped hoff => exact .inr ⟨rfl, hoff⟩
  | stopped => exact .inr ⟨rfl, rfl⟩

end MixerTone.Outcome

/-- The tone and the buzzer were told the same, and the mixer can be relied on. The frequencies are
those of the starts that no stop follows. -/
structure Alike (settings : MixerSettings) (frequencies : List Int) (log : List MixerCall)
    (t : MixerTone) (b : Buzzer) : Prop where
  /-- The tone is on after a start. -/
  tone : t.active = !frequencies.isEmpty
  /-- And so is the buzzer. -/
  buzzer : b.active = !frequencies.isEmpty
  /-- The mixer plays whenever the buzzer goes on. -/
  plays : (toggles log).count true = b.starts
  /-- The sound has the first frequency. -/
  first : frequencies ≠ [] → t.frequency? = frequencies.head?
  /-- The buzzer has the last one. -/
  last : frequencies ≠ [] → frequencies.getLast? = some b.frequency
  /-- The mixer has not failed. -/
  enabled : t.enabled = true
  /-- And it will not. -/
  reliable : t.mixer.Reliable
  /-- The settings stay what they are. -/
  settings_eq : t.mixer.reported t.rate = settings

theorem alike_new {rate : Int} {mixer : Mixer} (hm : mixer.Reliable) :
    Alike (mixer.reported rate) [] [] (MixerTone.new rate mixer) Buzzer.silent where
  tone := rfl
  buzzer := rfl
  plays := rfl
  first h := absurd rfl h
  last h := absurd rfl h
  enabled := rfl
  reliable := hm
  settings_eq := rfl

/-- An order that can be followed is followed by both. -/
theorem Alike.obey {settings : MixerSettings} (h : Alike settings frequencies log t b)
    (hrate : 0 < settings.rate) (hplayable : order.Playable settings) :
    (t.obey order).result = .fine ∧
      Alike settings (order.followOn frequencies) (log ++ (t.obey order).calls)
        (t.obey order).tone (b.obey order) := by
  have hout := t.outcome order
  generalize t.obey order = step at hout ⊢
  obtain rfl := h.settings_eq
  obtain ⟨hfine, henabled, hreliable, hreported⟩ := hout.of_reliable h.reliable hrate hplayable
  refine ⟨hfine, ?_⟩
  have hsame : t.active = b.active := h.tone.trans h.buzzer.symm
  have hplays (hnext : step.tone.active = (b.obey order).active) :
      (toggles (log ++ step.calls)).count true = (b.obey order).starts := by
    rw [toggles_append, List.count_append, h.plays, hout.count_plays, b.starts_obey, hsame, hnext]
  rw [h.enabled] at henabled
  rcases hout.of_fine h.enabled hfine with ⟨frequency, rfl, hon, hfrequency⟩ | ⟨rfl, hoff⟩
  · -- the start adds a last frequency, and a first one only if there was none
    have hfirst : step.tone.frequency? = (frequencies ++ [frequency]).head? := by
      rw [hfrequency, h.tone]
      cases frequencies with
      | nil => rfl
      | cons first others => exact h.first (List.cons_ne_nil first others)
    exact ⟨by simp [ToneOrder.followOn, hon], by simp [ToneOrder.followOn, Buzzer.obey,
      Buzzer.start], hplays hon, fun _ => hfirst, fun _ => List.getLast?_concat, henabled,
      hreliable, hreported⟩
  · exact ⟨hoff, rfl, hplays hoff, fun hsome => absurd rfl hsome, fun hsome => absurd rfl hsome,
      henabled, hreliable, hreported⟩

/-- Orders that can be followed are followed by both. -/
theorem Alike.after {settings : MixerSettings} (h : Alike settings frequencies log t b)
    (hrate : 0 < settings.rate) {orders : List ToneOrder}
    (hplayable : ∀ order ∈ orders, order.Playable settings) :
    Alike settings (orders.foldl ToneOrder.followOn frequencies) (log ++ t.asked orders)
      (t.after orders) (b.after orders) := by
  induction orders generalizing t b log frequencies with
  | nil =>
    rw [MixerTone.asked, List.append_nil]
    exact h
  | cons order orders ih =>
    obtain ⟨hfirst, hothers⟩ := List.forall_mem_cons.mp hplayable
    rw [MixerTone.asked, ← List.append_assoc]
    exact ih (h.obey hrate hfirst).2 hothers

/-- A tone with a mixer that can be relied on, and a buzzer, are interchangeable but for the
frequency of a start that comes while the tone is on. After any orders that can be followed they are
both on or both off, the mixer has played as often as the buzzer went on, and nothing is refused.
While they are on, the mixer plays the frequency of the first start since the last stop, and the
buzzer has the frequency of the last start. -/
theorem alike_after {rate : Int} {mixer : Mixer} (hm : mixer.Reliable)
    (hrate : 0 < (mixer.reported rate).rate) (orders : List ToneOrder)
    (hplayable : ∀ order ∈ orders, order.Playable (mixer.reported rate)) :
    let t := (MixerTone.new rate mixer).after orders
    let log := (MixerTone.new rate mixer).asked orders
    let b := Buzzer.silent.after orders
    t.active = b.active ∧
      (toggles log).count true = b.starts ∧
      (∀ order : ToneOrder, order.Playable (mixer.reported rate) →
        (t.obey order).result = .fine) ∧
      (t.active = true →
        t.frequency? = (startsSinceStop orders).head? ∧
          some b.frequency = (startsSinceStop orders).getLast? ∧
          ((∀ frequency ∈ startsSinceStop orders, frequency = b.frequency) →
            t.frequency? = some b.frequency)) := by
  intro t log b
  have halike : Alike (mixer.reported rate) (startsSinceStop orders) log t b :=
    (alike_new hm).after hrate hplayable
  refine ⟨halike.tone.trans halike.buzzer.symm, halike.plays, ?_, ?_⟩
  · intro order horder
    exact (halike.obey hrate horder).1
  · intro hon
    have hsome : startsSinceStop orders ≠ [] := by
      intro hnone
      have hoff := halike.tone
      rw [hnone, hon] at hoff
      cases hoff
    have hfirst := halike.first hsome
    refine ⟨hfirst, (halike.last hsome).symm, fun hall => ?_⟩
    rw [hfirst, List.head?_eq_some_head hsome, hall _ (List.head_mem hsome)]

theorem alike_after_two_pitches :
    let mixer : Mixer := ⟨none, none, []⟩
    let orders : List ToneOrder := [.start 440, .start 440, .stop, .start 880]
    let t := (MixerTone.new defaultRate mixer).after orders
    let log := (MixerTone.new defaultRate mixer).asked orders
    let b := Buzzer.silent.after orders
    mixer.Reliable ∧ 0 < (mixer.reported defaultRate).rate ∧
      (∀ order ∈ orders, order.Playable (mixer.reported defaultRate)) ∧
      t.active = b.active ∧ b.active = true ∧ (toggles log).count true = b.starts ∧ b.starts = 2 ∧
      t.frequency? = some b.frequency ∧ b.frequency = 880 := by
  intro mixer orders t log b
  have hm : mixer.Reliable := fun _ hfails => absurd hfails List.not_mem_nil
  have hrate : 0 < (mixer.reported defaultRate).rate := by decide
  have hroom (frequency : Int) (hfrequency : 0 < frequency) :
      ToneOrder.Playable (mixer.reported defaultRate) (.start frequency) :=
    ⟨hfrequency, hasRoom_of_ordinary hrate (by decide) (by decide) hfrequency⟩
  have hplayable : ∀ order ∈ orders, order.Playable (mixer.reported defaultRate) := by
    simp only [orders, List.forall_mem_cons]
    exact ⟨hroom 440 (by decide), hroom 440 (by decide), trivial, hroom 880 (by decide),
      List.forall_mem_nil _⟩
  obtain ⟨hactive, hplays, -, hsounding⟩ := alike_after hm hrate orders hplayable
  have hon : b.active = true := by decide
  obtain ⟨-, -, hsame⟩ := hsounding (hactive.trans hon)
  exact ⟨hm, hrate, hplayable, hactive, hon, hplays, by decide, hsame (by decide), by decide⟩

/-- A start that comes while the tone is on does not change what is heard, and a positive rate may
leave no room for a wave. -/
theorem not_alike_after_second_start :
    let orders : List ToneOrder := [.start 440, .start 880]
    let t := (MixerTone.new defaultRate ⟨none, none, []⟩).after orders
    let b := Buzzer.silent.after orders
    (t.active = true ∧ b.active = true ∧ t.frequency? = some 440 ∧ b.frequency = 880) ∧
      let settings : MixerSettings := ⟨0x20000000000000000, -16, 1⟩
      ((MixerTone.new defaultRate ⟨some settings, none, []⟩).after [.start 1]).active = false ∧
        (Buzzer.silent.after [.start 1]).active = true := by
  decide +kernel

end Audio

end ChipEight
