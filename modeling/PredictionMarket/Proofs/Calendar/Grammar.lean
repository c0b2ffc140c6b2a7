import PredictionMarket.Proofs.Calendar.ReadBack

/-!
# What the fields of a layout take off a text

Each field that reads a number, a fraction or an offset has a relation beside it that denotes
what it takes off the front of a text and what it leaves: digits are taken as far as they go
or as far as the width of the part allows, blanks are passed over in front of a number, and
an offset stands at the end of the text. A field reads a text exactly when the relation holds,
so each relation gives at most one result.
-/

namespace PredictionMarket.Calendar

open Decimal (AllDigits)
open Text (AllBlank exists_blanks_append isBlank isBlank_of_isDigit trimStart trimStart_append
  trimStart_append_cons trimStart_cons trimStart_trimStart)

section Figures

/-- Decimal digits that fill a width. -/
structure Figures (width : Nat) where
  shown : List Char
  digits : AllDigits shown
  length : shown.length = width

/-- The number that figures show. -/
def Figures.value {width : Nat} (figures : Figures width) : Nat := Decimal.valueOf figures.shown

/-- Figures that fill a width show less than the power of ten of that width. -/
theorem Figures.value_lt {width : Nat} (figures : Figures width) : figures.value < 10 ^ width := by
  have below := Decimal.valueOf_lt figures.digits
  rwa [figures.length] at below

/-- A text that does not go on with a digit. -/
def EndsFigures (rest : List Char) : Prop := ∀ c ∈ rest.head?, c.isDigit = false

/-- Digits that are all the digits in front of the rest of a text. -/
structure TakesAll (figures rest : List Char) : Prop where
  digits : AllDigits figures
  present : figures ≠ []
  ends : EndsFigures rest

/-- Digits in front of the rest of a text, as many as a width allows. -/
structure TakesMost (width : Nat) (figures rest : List Char) : Prop where
  digits : AllDigits figures
  present : figures ≠ []
  fits : figures.length ≤ width
  ends : figures.length = width ∨ EndsFigures rest

variable {text rest : List Char} {n : Nat}

/-- A text that is cut off ends its digits where it did. -/
theorem EndsFigures.take (ends : EndsFigures rest) (count : Nat) :
    EndsFigures (rest.take count) := by
  intro c first
  rw [List.head?_take] at first
  split at first
  · cases first
  · exact ends c first

/-- A field of full width takes off figures of that width. -/
theorem exactDigits?_eq_some_iff {count : Nat} :
    exactDigits? count text = some (n, rest) ↔
      ∃ figures : Figures count, text = figures.shown ++ rest ∧ n = figures.value := by
  constructor
  · intro read
    simp only [exactDigits?, Option.ite_none_right_eq_some, Option.some_inj, Prod.mk.injEq] at read
    obtain ⟨length, rfl, rfl⟩ := read
    have whole : (text.take count).takeWhile Char.isDigit = text.take count :=
      (List.takeWhile_prefix _).eq_of_length_le (by rw [length]; exact List.length_take_le _ _)
    rw [whole] at length ⊢
    refine ⟨⟨text.take count, fun c member => ?_, length⟩, (List.take_append_drop _ _).symm, rfl⟩
    exact List.mem_takeWhile_imp (whole.symm ▸ member)
  · rintro ⟨figures, rfl, rfl⟩
    exact exactDigits?_append figures.digits figures.length

/-- A field of limited width takes off as many digits as the width allows. -/
theorem digits?_eq_some_iff {width : Nat} :
    digits? width text = some (n, rest) ↔
      ∃ figures, text = figures ++ rest ∧ TakesMost width figures rest ∧
        n = Decimal.valueOf figures := by
  constructor
  · intro read
    simp only [digits?, ← List.take_takeWhile, List.isEmpty_iff] at read
    split at read
    · cases read
    · next present =>
      cases read
      have start : (text.takeWhile Char.isDigit).take width <+: text :=
        (List.take_prefix _ _).trans (List.takeWhile_prefix _)
      refine ⟨(text.takeWhile Char.isDigit).take width,
        (List.prefix_iff_eq_append.1 start).symm, ⟨?_, present, ?_, ?_⟩, rfl⟩
      · exact fun c member => List.mem_takeWhile_imp (List.mem_of_mem_take member)
      · exact List.length_take_le _ _
      · rcases Nat.le_total width (text.takeWhile Char.isDigit).length with long | short
        · exact .inl (List.length_take_of_le long)
        · right
          -- Here all digits were taken, so what is left begins with what is no digit.
          intro c first
          have behind : text.drop (text.takeWhile Char.isDigit).length =
              text.dropWhile Char.isDigit :=
            List.append_cancel_left (((List.prefix_iff_eq_append.1
              (List.takeWhile_prefix _))).trans List.takeWhile_append_dropWhile.symm)
          have stops := List.head?_dropWhile_not Char.isDigit text
          rw [List.take_of_length_le short, behind, Option.mem_def] at first
          rwa [first] at stops
  · rintro ⟨figures, rfl, taken, rfl⟩
    have kept : ((figures ++ rest).take width).takeWhile Char.isDigit = figures := by
      rw [List.take_append, List.take_of_length_le taken.fits]
      rcases taken.ends with full | ends
      · rw [full, Nat.sub_self, List.take_zero, List.append_nil]
        exact List.takeWhile_eq_self_iff.2 taken.digits
      · exact taken.digits.takeWhile_append (ends.take _)
    simp [digits?, kept, taken.present]

/-- Without a limit all digits are taken off. -/
theorem digits?_length_eq_some_iff :
    digits? text.length text = some (n, rest) ↔
      ∃ figures, text = figures ++ rest ∧ TakesAll figures rest ∧ n = Decimal.valueOf figures := by
  rw [digits?_eq_some_iff]
  constructor
  · rintro ⟨figures, rfl, taken, denotes⟩
    refine ⟨figures, rfl, ⟨taken.digits, taken.present, ?_⟩, denotes⟩
    refine taken.ends.elim (fun full => ?_) id
    have empty : rest = [] := by simpa using full
    rw [empty]
    exact fun c first => by cases first
  · rintro ⟨figures, rfl, taken, denotes⟩
    exact ⟨figures, rfl,
      ⟨taken.digits, taken.present, by simp, .inr taken.ends⟩, denotes⟩

end Figures

section Numbers

/-- What a loose field takes off a text as a number of a part, and what it leaves. -/
inductive TakesNumber (part : Part) (value : Int) (text rest : List Char) : Prop
  /-- Any blanks, and digits up to the width of the part. -/
  | unsigned (blanks figures : List Char) (blank : AllBlank blanks)
      (taken : TakesMost part.width figures rest)
      (written : text = blanks ++ (figures ++ rest)) (denotes : value = Decimal.valueOf figures)
  /-- Any blanks, a sign, and any number of digits; for a year alone. -/
  | signed (blanks figures : List Char) (behind : Bool) (isYear : part = .year)
      (blank : AllBlank blanks) (taken : TakesAll figures rest)
      (written : text = blanks ++ (if behind then '-' else '+') :: (figures ++ rest))
      (denotes : value =
        if behind then -(Decimal.valueOf figures : Int) else Decimal.valueOf figures)

variable {part : Part} {value : Int} {text rest : List Char}

/-- A loose field reads exactly the numbers that it takes off. -/
theorem looseNumber?_eq_some_iff :
    looseNumber? part text = some (value, rest) ↔ TakesNumber part value text rest := by
  have minus : isBlank '-' = false := rfl
  have plus : isBlank '+' = false := rfl
  constructor
  · intro read
    obtain ⟨blanks, blank, split⟩ := exists_blanks_append text
    unfold looseNumber? at read
    dsimp only at read
    split at read
    · next signed =>
      obtain ⟨⟨n, behind⟩, digits, same⟩ := Option.map_eq_some_iff.1 read
      cases same
      obtain ⟨figures, rfl, taken, rfl⟩ := digits?_length_eq_some_iff.1 digits
      exact .signed blanks figures true rfl blank taken (split.trans (by rw [signed]; rfl)) rfl
    · next signed =>
      obtain ⟨⟨n, behind⟩, digits, same⟩ := Option.map_eq_some_iff.1 read
      cases same
      obtain ⟨figures, rfl, taken, rfl⟩ := digits?_length_eq_some_iff.1 digits
      exact .signed blanks figures false rfl blank taken (split.trans (by rw [signed]; rfl)) rfl
    · obtain ⟨⟨n, behind⟩, digits, same⟩ := Option.map_eq_some_iff.1 read
      cases same
      obtain ⟨figures, unsigned, taken, rfl⟩ := digits?_eq_some_iff.1 digits
      exact .unsigned blanks figures blank taken (split.trans (by rw [unsigned])) rfl
  · rintro (⟨blanks, figures, blank, taken, rfl, rfl⟩ |
      ⟨blanks, figures, behind, rfl, blank, taken, rfl, rfl⟩)
    · obtain ⟨c, more, rfl⟩ := List.exists_cons_of_ne_nil taken.present
      have digit : c.isDigit = true := taken.digits c List.mem_cons_self
      have skipped : looseNumber? part (blanks ++ (c :: more ++ rest)) =
          looseNumber? part (c :: (more ++ rest)) := by
        simp only [looseNumber?, List.cons_append,
          trimStart_append_cons blank (isBlank_of_isDigit digit),
          trimStart_cons (isBlank_of_isDigit digit)]
      have digits : digits? part.width (c :: (more ++ rest)) = some _ :=
        digits?_eq_some_iff.2 ⟨c :: more, rfl, taken, rfl⟩
      rw [skipped, looseNumber?_of_digit digit, digits]
      rfl
    · have digits := digits?_length_eq_some_iff.2 ⟨figures, rfl, taken, rfl⟩
      cases behind with
      | true =>
        simp only [looseNumber?, if_true, trimStart_append_cons blank minus, digits,
          Option.map_some]
      | false =>
        simp only [looseNumber?, Bool.false_eq_true, if_false,
          trimStart_append_cons blank plus, digits, Option.map_some]

/-- A text has at most one number in front. -/
theorem TakesNumber.unique {other : Int} {behind : List Char}
    (first : TakesNumber part value text rest) (second : TakesNumber part other text behind) :
    value = other ∧ rest = behind := by
  rw [← looseNumber?_eq_some_iff] at first second
  rw [first] at second
  cases second
  exact ⟨rfl, rfl⟩

/-- Blanks in front of a number are of no account. -/
theorem TakesNumber.trimStart (number : TakesNumber part value text rest) :
    TakesNumber part value (trimStart text) rest := by
  rw [← looseNumber?_eq_some_iff] at number ⊢
  rw [← number]
  simp only [looseNumber?, trimStart_trimStart]

/-- A number begins with a digit behind the blanks in front of it, unless it is a year. -/
theorem TakesNumber.exists_digit (number : TakesNumber part value text rest)
    (notYear : part ≠ .year) :
    ∃ blanks c more, AllBlank blanks ∧ c.isDigit = true ∧ text = blanks ++ c :: more := by
  rcases number with ⟨blanks, figures, blank, taken, rfl, -⟩ | ⟨-, -, -, isYear, -⟩
  · obtain ⟨c, more, rfl⟩ := List.exists_cons_of_ne_nil taken.present
    exact ⟨blanks, c, more ++ rest, blank, taken.digits c List.mem_cons_self, rfl⟩
  · exact absurd isYear notYear

/-- A number is not negative, unless it is a year. -/
theorem TakesNumber.toNat (number : TakesNumber part value text rest) (notYear : part ≠ .year) :
    (value.toNat : Int) = value := by
  rcases number with ⟨-, figures, -, -, -, rfl⟩ | ⟨-, -, -, isYear, -⟩
  · rfl
  · exact absurd isYear notYear

/-- Figures of full width are a number of their part. -/
theorem Figures.takesNumber (part : Part) (figures : Figures part.width) (rest : List Char) :
    TakesNumber part figures.value (figures.shown ++ rest) rest := by
  refine .unsigned [] figures.shown (fun c member => by cases member)
    ⟨figures.digits, ?_, figures.length.le, .inl figures.length⟩ rfl rfl
  exact List.ne_nil_of_length_pos (figures.length.symm ▸ part.width_pos)

end Numbers

section Fractions

/-- The nanoseconds of a fraction of a second, without what is less than a nanosecond. -/
def fractionNanos (figures : List Char) : Nat :=
  Decimal.valueOf figures * nanosPerSecond / 10 ^ figures.length

/-- Nine digits of a fraction are its nanoseconds. -/
theorem valueOf_take_nine {figures : List Char} (digits : AllDigits figures) :
    Decimal.valueOf (figures.take 9) * 10 ^ (9 - (figures.take 9).length) =
      fractionNanos figures := by
  have billion : nanosPerSecond = 10 ^ 9 := rfl
  rw [fractionNanos, billion]
  rcases Nat.le_total figures.length 9 with few | many
  · have powers : (10 : Nat) ^ 9 = 10 ^ (9 - figures.length) * 10 ^ figures.length := by
      rw [← Nat.pow_add, Nat.sub_add_cancel few]
    rw [List.take_of_length_le few, powers, ← Nat.mul_assoc,
      Nat.mul_div_cancel _ (Nat.pow_pos (by decide))]
  · have below := Decimal.valueOf_lt (digits.of_sublist (List.drop_sublist 9 figures))
    have powers : (10 : Nat) ^ figures.length = 10 ^ (figures.drop 9).length * 10 ^ 9 := by
      rw [← Nat.pow_add, List.length_drop, Nat.sub_add_cancel many]
    have split : Decimal.valueOf figures =
        Decimal.valueOf (figures.take 9) * 10 ^ (figures.drop 9).length +
          Decimal.valueOf (figures.drop 9) := by
      rw [← Decimal.valueOf_append, List.take_append_drop]
    rw [List.length_take_of_le many, Nat.sub_self, Nat.pow_zero, Nat.mul_one, powers,
      Nat.mul_div_mul_right _ _ (Nat.pow_pos (by decide)), split, Nat.add_comm,
      Nat.add_mul_div_right _ _ (Nat.pow_pos (by decide)), Nat.div_eq_of_lt below, Nat.zero_add]

/-- What is taken off a text as a fraction of a second. -/
inductive TakesFraction (nanos : Nat) (text rest : List Char) : Prop
  /-- Nothing where there is no point. -/
  | absent (noPoint : text.head? ≠ some '.') (written : text = rest) (denotes : nanos = 0)
  /-- A point and all the digits behind it. -/
  | present (figures : List Char) (taken : TakesAll figures rest)
      (written : text = '.' :: (figures ++ rest)) (denotes : nanos = fractionNanos figures)

variable {nanos : Nat} {text rest : List Char}

/-- A fraction is read exactly as it is taken off. -/
theorem fraction?_eq_some_iff :
    fraction? text = some (nanos, rest) ↔ TakesFraction nanos text rest := by
  constructor
  · fun_cases fraction? text with
    | case1 => intro read; cases read
    | case2 behind shown notEmpty kept =>
      intro read
      have digits : AllDigits shown := fun c member => List.mem_takeWhile_imp member
      have whole : behind = shown ++ behind.dropWhile Char.isDigit :=
        List.takeWhile_append_dropWhile.symm
      have left : behind.drop shown.length = behind.dropWhile Char.isDigit := by
        conv_lhs => rw [whole, List.drop_left]
      rw [left] at read
      cases read
      refine .present shown ⟨digits, by simpa using notEmpty, fun c first => ?_⟩
        (by rw [← whole]) (valueOf_take_nine digits)
      have stops := List.head?_dropWhile_not Char.isDigit behind
      rw [Option.mem_def] at first
      rwa [first] at stops
    | case3 rest noPoint =>
      intro read
      cases read
      refine .absent (fun point => ?_) rfl rfl
      obtain ⟨behind, shape⟩ := List.head?_eq_some_iff.1 point
      exact noPoint behind shape
  · rintro (⟨noPoint, rfl, rfl⟩ | ⟨figures, taken, rfl, rfl⟩)
    · unfold fraction?
      split
      · exact absurd rfl noPoint
      · rfl
    · have shown : (figures ++ rest).takeWhile Char.isDigit = figures :=
        taken.digits.takeWhile_append taken.ends
      simp only [fraction?, shown, List.isEmpty_iff, if_neg taken.present, List.drop_left]
      exact congrArg (fun nanos => some (nanos, rest)) (valueOf_take_nine taken.digits)

/-- A text has at most one fraction in front. -/
theorem TakesFraction.unique {other : Nat} {behind : List Char}
    (first : TakesFraction nanos text rest) (second : TakesFraction other text behind) :
    nanos = other ∧ rest = behind := by
  rw [← fraction?_eq_some_iff] at first second
  rw [first] at second
  cases second
  exact ⟨rfl, rfl⟩

end Fractions

section Offsets

/-- The sign of an offset from UTC. -/
inductive Sign where
  | plus
  | hyphen
  | minus

namespace Sign

/-- The character of a sign. -/
def character : Sign → Char
  | plus => '+'
  | hyphen => '-'
  | minus => '\u2212'

/-- Whether the time is behind UTC. -/
def behind : Sign → Bool
  | plus => false
  | hyphen | minus => true

/-- The seconds of an offset with a sign. -/
def seconds (sign : Sign) (hours minutes : Nat) : Int :=
  if sign.behind then -(hours * 3600 + minutes * 60 : Int) else hours * 3600 + minutes * 60

/-- No sign is blank. -/
theorem isBlank_character (sign : Sign) : isBlank sign.character = false := by
  cases sign <;> rfl

end Sign

/-- What may stand as an offset at the end of a text. -/
inductive SpellsOffset (offset : Int) (text : List Char) : Prop
  /-- Any blanks and a letter for UTC. -/
  | utc (blanks : List Char) (letter : Char) (blank : AllBlank blanks)
      (zulu : letter = 'Z' ∨ letter = 'z') (written : text = blanks ++ [letter])
      (denotes : offset = 0)
  /-- Any blanks, a sign and two digits of hours, with any colons and blanks behind them. -/
  | hours (blanks gap : List Char) (sign : Sign) (hours : Figures 2) (blank : AllBlank blanks)
      (divides : ∀ c ∈ gap, c = ':' ∨ isBlank c = true)
      (written : text = blanks ++ sign.character :: (hours.shown ++ gap))
      (inDay : hours.value ≤ 23) (denotes : offset = sign.seconds hours.value 0)
  /-- The same with two digits of minutes. -/
  | minutes (blanks gap : List Char) (sign : Sign) (hours minutes : Figures 2)
      (blank : AllBlank blanks) (divides : ∀ c ∈ gap, c = ':' ∨ isBlank c = true)
      (written : text = blanks ++ sign.character :: (hours.shown ++ (gap ++ minutes.shown)))
      (inDay : hours.value ≤ 23) (inHour : minutes.value ≤ 59)
      (denotes : offset = sign.seconds hours.value minutes.value)

variable {text rest : List Char} {offset : Int}

/-- A sign is split off where one stands. -/
theorem offsetSign?_eq_some_iff {behind : Bool} :
    offsetSign? text = some (behind, rest) ↔
      ∃ sign : Sign, text = sign.character :: rest ∧ behind = sign.behind := by
  constructor
  · fun_cases offsetSign? text <;> intro read <;> cases read
    · exact ⟨.plus, rfl, rfl⟩
    · exact ⟨.hyphen, rfl, rfl⟩
    · exact ⟨.minus, rfl, rfl⟩
  · rintro ⟨sign, rfl, rfl⟩
    cases sign <;> rfl

/-- Hours and minutes are an offset when they make less than a day. -/
theorem offsetSeconds?_eq_some_iff {sign : Sign} {hours minutes : Nat} :
    offsetSeconds? sign.behind hours minutes = some offset ↔
      hours ≤ 23 ∧ minutes ≤ 59 ∧ offset = sign.seconds hours minutes := by
  simp only [offsetSeconds?, Option.ite_none_right_eq_some, Option.some_inj, Sign.seconds,
    and_assoc]
  exact and_congr_right fun _ => and_congr_right fun _ => eq_comm

/-- Colons and blanks are passed over up to a digit. -/
theorem dropWhile_gap {gap : List Char} {c : Char}
    (divides : ∀ c ∈ gap, c = ':' ∨ isBlank c = true) (digit : c.isDigit = true) :
    (gap ++ c :: rest).dropWhile (fun c => c == ':' || isBlank c) = c :: rest := by
  have passed : ∀ c ∈ gap, (c == ':' || isBlank c) = true := by simpa using divides
  have notColon : c ≠ ':' := by
    rintro rfl
    cases digit
  rw [List.dropWhile_append_of_pos passed,
    List.dropWhile_cons_of_neg (by simp [notColon, isBlank_of_isDigit digit])]

/-- Figures that are not empty begin with a digit. -/
theorem Figures.exists_cons {width : Nat} (figures : Figures width) (wide : 0 < width) :
    ∃ c more, c.isDigit = true ∧ figures.shown = c :: more := by
  obtain ⟨c, more, shape⟩ := List.exists_cons_of_length_pos (figures.length ▸ wide)
  exact ⟨c, more, figures.digits c (shape ▸ List.mem_cons_self), shape⟩

/-- Behind a sign a loose offset goes on with the digits of the hours. -/
theorem looseOffset?_append_sign {blanks : List Char} (blank : AllBlank blanks) (sign : Sign)
    (rest : List Char) :
    looseOffset? (blanks ++ sign.character :: rest) = do
      let (hours, rest) ← exactDigits? 2 rest
      let rest := rest.dropWhile fun c => c == ':' || isBlank c
      if rest.isEmpty then
        let seconds ← offsetSeconds? sign.behind hours 0
        return (seconds, [])
      else
        let (minutes, rest) ← exactDigits? 2 rest
        let seconds ← offsetSeconds? sign.behind hours minutes
        return (seconds, rest) := by
  simp only [looseOffset?, trimStart_append_cons blank sign.isBlank_character]
  cases sign <;> rfl

/-- A loose offset is read to the end of a text exactly when it is spelt there. -/
theorem looseOffset?_eq_some_iff :
    looseOffset? text = some (offset, []) ↔ SpellsOffset offset text := by
  constructor
  · intro read
    obtain ⟨blanks, blank, split⟩ := exists_blanks_append text
    rw [looseOffset?] at read
    split at read
    · next utc =>
      cases read
      exact .utc blanks 'Z' blank (.inl rfl) (split.trans (by rw [utc])) rfl
    · next utc =>
      cases read
      exact .utc blanks 'z' blank (.inr rfl) (split.trans (by rw [utc])) rfl
    · simp only [Option.bind_eq_bind, Option.bind_eq_some_iff] at read
      obtain ⟨⟨behind, signed⟩, isSign, ⟨count, divided⟩, isHours, read⟩ := read
      obtain ⟨sign, shape, rfl⟩ := offsetSign?_eq_some_iff.1 isSign
      obtain ⟨hours, rfl, rfl⟩ := exactDigits?_eq_some_iff.1 isHours
      have divides : ∀ c ∈ divided.takeWhile (fun c => c == ':' || isBlank c),
          c = ':' ∨ isBlank c = true := fun c member => by
        simpa using List.mem_takeWhile_imp member
      have gap := (List.takeWhile_append_dropWhile
        (p := fun c => c == ':' || isBlank c) (l := divided)).symm
      split at read
      · next ended =>
        simp only [Option.bind_eq_some_iff] at read
        obtain ⟨seconds, isOffset, same⟩ := read
        cases same
        obtain ⟨inDay, -, denotes⟩ := offsetSeconds?_eq_some_iff.1 isOffset
        rw [List.isEmpty_iff.1 ended, List.append_nil] at gap
        rw [← gap] at divides
        exact .hours blanks divided sign hours blank divides (by rw [← shape, ← split]) inDay
          denotes
      · simp only [Option.bind_eq_some_iff] at read
        obtain ⟨⟨count, left⟩, isMinutes, seconds, isOffset, same⟩ := read
        cases same
        obtain ⟨minutes, shown, rfl⟩ := exactDigits?_eq_some_iff.1 isMinutes
        obtain ⟨inDay, inHour, denotes⟩ := offsetSeconds?_eq_some_iff.1 isOffset
        rw [List.append_nil] at shown
        refine .minutes blanks _ sign hours minutes blank divides ?_ inDay inHour denotes
        rw [← shown, ← gap, ← shape, ← split]
  · rintro (⟨blanks, letter, blank, zulu, rfl, rfl⟩ |
      ⟨blanks, gap, sign, hours, blank, divides, rfl, inDay, rfl⟩ |
      ⟨blanks, gap, sign, hours, minutes, blank, divides, rfl, inDay, inHour, rfl⟩)
    · rcases zulu with rfl | rfl
      · simp only [looseOffset?, trimStart_append_cons blank (rfl : isBlank 'Z' = false)]
      · simp only [looseOffset?, trimStart_append_cons blank (rfl : isBlank 'z' = false)]
    · have passed : gap.dropWhile (fun c => c == ':' || isBlank c) = [] :=
        List.dropWhile_eq_nil_iff.2 (by simpa using divides)
      have isHours := exactDigits?_eq_some_iff.2 ⟨hours, Eq.refl (hours.shown ++ gap), rfl⟩
      have seconds := offsetSeconds?_eq_some_iff.2
        ⟨inDay, Nat.zero_le 59, Eq.refl (sign.seconds hours.value 0)⟩
      rw [looseOffset?_append_sign blank, isHours]
      simp only [Option.bind_eq_bind, Option.bind_some, passed, List.isEmpty_nil, if_true, seconds]
      rfl
    · obtain ⟨c, more, digit, shape⟩ := minutes.exists_cons Nat.two_pos
      have passed : (gap ++ minutes.shown).dropWhile (fun c => c == ':' || isBlank c) =
          minutes.shown := by
        rw [shape, dropWhile_gap divides digit]
      have isHours := exactDigits?_eq_some_iff.2
        ⟨hours, Eq.refl (hours.shown ++ (gap ++ minutes.shown)), rfl⟩
      have isMinutes := exactDigits?_eq_some_iff.2
        ⟨minutes, (List.append_nil minutes.shown).symm, rfl⟩
      have seconds := offsetSeconds?_eq_some_iff.2
        ⟨inDay, inHour, Eq.refl (sign.seconds hours.value minutes.value)⟩
      have present : minutes.shown.isEmpty = false := by rw [shape]; rfl
      rw [looseOffset?_append_sign blank, isHours]
      simp only [Option.bind_eq_bind, Option.bind_some, passed, present, Bool.false_eq_true,
        if_false, isMinutes, seconds]
      rfl

end Offsets

end PredictionMarket.Calendar
