import PredictionMarket.Attestation
import PredictionMarket.Proofs.Calendar.Date
import PredictionMarket.Proofs.Decimal.Digits

/-!
# Regular instants

An instant that was read lies in the calendar, its nanoseconds run over less than two
seconds, and only the last second of a minute is followed by a leap second. The reason is
an invariant of readings that every field of a layout keeps: a fraction is less than a
second, and an offset is made of whole minutes.
-/

namespace PredictionMarket

namespace Calendar

open Decimal (AllDigits)

/-- What holds of every instant that was read. -/
structure Instant.Regular (instant : Instant) : Prop where
  begun : firstSecond ≤ instant.seconds
  ended : instant.seconds < endSecond
  nanos_lt : instant.nanos < 2 * nanosPerSecond
  /-- A leap second follows the last second of a minute. -/
  minuteEnds : instant.inLeapSecond = true → instant.seconds % 60 = 59

/-- What holds of a reading after every field. -/
structure Reading.Sound (reading : Reading) : Prop where
  nanos_lt : reading.nanos < nanosPerSecond
  wholeMinutes : reading.offset % 60 = 0

/-- Nothing is wrong before the first field. -/
theorem Reading.Sound.blank : Reading.blank.Sound where
  nanos_lt := by decide
  wholeMinutes := rfl

/-- Setting a part touches neither the fraction nor the offset. -/
theorem Reading.Sound.set {reading : Reading} (sound : reading.Sound) (part : Part)
    (value : Int) : (reading.set part value).Sound where
  nanos_lt := by cases part <;> exact sound.nanos_lt
  wholeMinutes := by cases part <;> exact sound.wholeMinutes

/-- A fraction is less than a second. -/
theorem fraction?_lt {text rest : List Char} {nanos : Nat}
    (read : fraction? text = some (nanos, rest)) : nanos < nanosPerSecond := by
  revert read
  fun_cases fraction? text with
  | case1 => intro read; cases read
  | case2 after shown notEmpty kept =>
    intro read
    cases read
    have digits : AllDigits kept := fun c member =>
      List.mem_takeWhile_imp (List.mem_of_mem_take member)
    have few : kept.length ≤ 9 := List.length_take_le 9 shown
    calc Decimal.valueOf kept * 10 ^ (9 - kept.length)
        < 10 ^ kept.length * 10 ^ (9 - kept.length) :=
          Nat.mul_lt_mul_of_pos_right (Decimal.valueOf_lt digits) (Nat.pow_pos (by decide))
      _ = 10 ^ 9 := by rw [← Nat.pow_add, Nat.add_sub_cancel' few]
  | case3 =>
    intro read
    cases read
    decide

/-- Hours and minutes make whole minutes. -/
theorem offsetSeconds?_emod {behind : Bool} {hours minutes : Nat} {seconds : Int}
    (read : offsetSeconds? behind hours minutes = some seconds) : seconds % 60 = 0 := by
  unfold offsetSeconds? at read
  split at read
  · cases read
    cases behind
    · simp only [Bool.false_eq_true, if_false]
      omega
    · simp only [if_true]
      omega
  · cases read

/-- An offset with a colon is made of whole minutes. -/
theorem colonOffset?_emod {text rest : List Char} {seconds : Int}
    (read : colonOffset? text = some (seconds, rest)) : seconds % 60 = 0 := by
  unfold colonOffset? at read
  split at read
  · cases read
    rfl
  · cases read
    rfl
  · simp only [Option.bind_eq_bind, Option.bind_eq_some_iff] at read
    obtain ⟨⟨behind, signed⟩, -, ⟨hours, divided⟩, -, read⟩ := read
    split at read
    · simp only [Option.bind_eq_some_iff] at read
      obtain ⟨⟨minutes, after⟩, -, offset, whole, same⟩ := read
      cases same
      exact offsetSeconds?_emod whole
    · cases read

/-- An offset without a colon is made of whole minutes, too. -/
theorem looseOffset?_emod {text rest : List Char} {seconds : Int}
    (read : looseOffset? text = some (seconds, rest)) : seconds % 60 = 0 := by
  unfold looseOffset? at read
  split at read
  · cases read
    rfl
  · cases read
    rfl
  · simp only [Option.bind_eq_bind, Option.bind_eq_some_iff] at read
    obtain ⟨⟨behind, signed⟩, -, ⟨hours, divided⟩, -, read⟩ := read
    split at read
    · simp only [Option.bind_eq_some_iff] at read
      obtain ⟨offset, whole, same⟩ := read
      cases same
      exact offsetSeconds?_emod whole
    · simp only [Option.bind_eq_some_iff] at read
      obtain ⟨⟨minutes, after⟩, -, offset, whole, same⟩ := read
      cases same
      exact offsetSeconds?_emod whole

/-- One field keeps a reading sound. -/
theorem Reading.Sound.read? {reading after : Reading} {field : Field} {text rest : List Char}
    (sound : reading.Sound) (read : field.read? reading text = some (after, rest)) :
    after.Sound := by
  cases field with
  | exact part =>
    obtain ⟨⟨value, behind⟩, -, same⟩ := Option.map_eq_some_iff.1 read
    cases same
    exact sound.set part value
  | loose part =>
    obtain ⟨⟨value, behind⟩, -, same⟩ := Option.map_eq_some_iff.1 read
    cases same
    exact sound.set part value
  | mark c =>
    simp only [Field.read?] at read
    split at read
    · split at read <;> cases read
      exact sound
    · cases read
  | divider =>
    simp only [Field.read?] at read
    split at read
    · split at read <;> cases read
      exact sound
    · cases read
  | blanks =>
    cases read
    exact sound
  | fraction =>
    obtain ⟨⟨nanos, behind⟩, isFraction, same⟩ := Option.map_eq_some_iff.1 read
    cases same
    exact ⟨fraction?_lt isFraction, sound.wholeMinutes⟩
  | colonOffset =>
    obtain ⟨⟨offset, behind⟩, isOffset, same⟩ := Option.map_eq_some_iff.1 read
    cases same
    exact ⟨sound.nanos_lt, colonOffset?_emod isOffset⟩
  | looseOffset =>
    obtain ⟨⟨offset, behind⟩, isOffset, same⟩ := Option.map_eq_some_iff.1 read
    cases same
    exact ⟨sound.nanos_lt, looseOffset?_emod isOffset⟩

/-- A whole layout keeps a reading sound. -/
theorem Reading.Sound.readFrom? {reading after : Reading} {layout : Layout} {text : List Char}
    (sound : reading.Sound) (read : layout.readFrom? reading text = some after) :
    after.Sound := by
  induction layout generalizing reading text with
  | nil =>
    cases text with
    | nil => cases read; exact sound
    | cons c rest => cases read
  | cons field layout inductionHypothesis =>
    rw [Layout.readFrom?] at read
    split at read
    · next next rest one => exact inductionHypothesis (sound.read? one) read
    · cases read

/-- What lies in the calendar is kept as it is. -/
theorem Instant.inCalendar?_eq_some_iff {instant kept : Instant} :
    instant.inCalendar? = some kept ↔
      instant = kept ∧ firstSecond ≤ kept.seconds ∧ kept.seconds < endSecond := by
  unfold inCalendar?
  split
  · next inside =>
    rw [Option.some_inj]
    exact ⟨fun same => ⟨same, same ▸ inside⟩, And.left⟩
  · next outside =>
    refine iff_of_false (fun found => by cases found) ?_
    rintro ⟨rfl, inside⟩
    exact outside inside

/-- A sound reading denotes a regular instant. -/
theorem Reading.Sound.regular {reading : Reading} {instant : Instant} (sound : reading.Sound)
    (denoted : reading.instant? = some instant) : instant.Regular := by
  simp only [Reading.instant?, Option.ite_none_right_eq_some] at denoted
  obtain ⟨rfl, begun, ended⟩ := Instant.inCalendar?_eq_some_iff.1 denoted.2
  have nanosLt := sound.nanos_lt
  have whole := sound.wholeMinutes
  by_cases leap : reading.second = 60
  · refine ⟨begun, ended, ?_, fun _ => ?_⟩
    · simp only [leap, if_true]
      omega
    · simp only [leap, if_true, secondsPerDay]
      omega
  · refine ⟨begun, ended, ?_, fun inLeap => ?_⟩
    · simp only [leap, if_false]
      omega
    · simp only [Instant.inLeapSecond, leap, if_false, decide_eq_true_eq] at inLeap
      omega

/-- A text denotes a regular instant. -/
theorem Instant.Regular.of_ofText? {text : List Char} {instant : Instant}
    (denoted : Instant.ofText? text = some instant) : instant.Regular := by
  obtain ⟨layout, -, read⟩ := List.exists_of_findSome?_eq_some denoted
  obtain ⟨reading, fields, isInstant⟩ := Option.bind_eq_some_iff.1 read
  exact (Reading.Sound.blank.readFrom? fields).regular isInstant

/-- A number of milliseconds denotes a regular instant. -/
theorem Instant.Regular.of_ofMillis? {millis : Int} {instant : Instant}
    (denoted : Instant.ofMillis? millis = some instant) : instant.Regular := by
  obtain ⟨same, begun, ended⟩ := Instant.inCalendar?_eq_some_iff.1 denoted
  subst same
  have nanosLt : (millis % 1000).toNat * 1000000 < nanosPerSecond := by
    unfold nanosPerSecond
    omega
  refine ⟨begun, ended, ?_, fun leap => ?_⟩
  · dsimp only
    omega
  · simp only [Instant.inLeapSecond, decide_eq_true_eq] at leap
    omega

end Calendar

/-- An attestation value denotes a regular instant. -/
theorem regular_of_attestationInstant {value : Option Json} {instant : Calendar.Instant}
    (parsed : attestationInstant value = .ok instant) : instant.Regular := by
  revert parsed
  fun_cases attestationInstant value with
  | case1 | case2 | case4 | case6 | case7 => intro parsed; cases parsed
  | case3 text found read =>
    intro parsed
    cases parsed
    exact .of_ofText? read
  | case5 number found read =>
    intro parsed
    cases parsed
    obtain ⟨millis, -, denoted⟩ := Option.bind_eq_some_iff.1 read
    exact .of_ofMillis? denoted

end PredictionMarket
