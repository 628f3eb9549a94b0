import Mathlib.Algebra.Group.Nat.Defs
import Mathlib.Data.List.TakeWhile
import TxGateway.Timestamp.Reader

namespace TxGateway.Timestamp

/-! # Reading a written point in time

What `Timestamp.text` writes, `Timestamp.read?` reads back. Each part is read off the front of a
text that goes on, so the lemmas have a rest that the part does not reach into.

* `Timestamp.IsSound` says that a point in time lies in the calendar and on the clock.
* `sound_of_read?`: nothing else is ever read.
* `read?_text` is the round trip.
-/

/-- A point in time of the calendar and of a clock that may show a leap second. -/
structure IsSound (t : Timestamp) : Prop where
  date : t.date.isValid = true
  hour : t.hour < 24
  minute : t.minute < 60
  second : t.second ≤ 60
  nanosecond : t.nanosecond < 10 ^ 9

/-! ## Digits -/

/-- The digits that `padded` writes. -/
def digits (width n : Nat) : List Char := (padded width n).toList

theorem digits_eq (width n : Nat) : digits width n =
    List.replicate (width - (Nat.toDigits 10 n).length) '0' ++ Nat.toDigits 10 n :=
  String.toList_ofList

theorem isDigit_of_mem_digits {width n : Nat} {c : Char} (h : c ∈ digits width n) :
    c.isDigit = true := by
  rw [digits_eq, List.mem_append] at h
  rcases h with h | h
  · rw [List.eq_of_mem_replicate h]
    decide
  · exact Nat.isDigit_of_mem_toDigits (by decide) (by decide) h

theorem digits_ne_nil (width n : Nat) : digits width n ≠ [] := by
  rw [digits_eq]
  exact List.append_ne_nil_of_right_ne_nil _ Nat.toDigits_ne_nil

theorem length_digits {width n : Nat} (hwidth : 0 < width) (h : n < 10 ^ width) :
    (digits width n).length = width := by
  have hle : (Nat.toDigits 10 n).length ≤ width :=
    (Nat.length_toDigits_le_iff (by decide) hwidth).mpr h
  rw [digits_eq, List.length_append, List.length_replicate, Nat.sub_add_cancel hle]

theorem digitsValue_eq_ofDigitChars (l : List Char) : digitsValue l = Nat.ofDigitChars 10 l 0 := by
  simp only [digitsValue, Nat.ofDigitChars_eq_foldl, Nat.mul_comm]

theorem digitsValue_digits (width n : Nat) : digitsValue (digits width n) = n := by
  rw [digitsValue_eq_ofDigitChars, digits_eq, Nat.ofDigitChars_append,
    Nat.ofDigitChars_replicate_zero, Nat.mul_zero, Nat.ofDigitChars_ten_toDigits]

theorem digitsValue_lt {l : List Char} (h : ∀ c ∈ l, c.isDigit = true) :
    digitsValue l < 10 ^ l.length := by
  have hgeneral : ∀ (l : List Char) (n : Nat), (∀ c ∈ l, c.isDigit = true) →
      l.foldl (fun n c => n * 10 + (c.toNat - '0'.toNat)) n < (n + 1) * 10 ^ l.length := by
    intro l
    induction l with
    | nil =>
      intro n _
      simp
    | cons c rest ih =>
      intro n hl
      have hc : c.toNat ≤ '9'.toNat := by
        have hdigit := hl c List.mem_cons_self
        simp only [Char.isDigit, Bool.and_eq_true, decide_eq_true_eq] at hdigit
        exact UInt32.le_iff_toNat_le.mp hdigit.2
      have hdigit : c.toNat - '0'.toNat ≤ 9 := by
        have h9 : '9'.toNat = 57 := rfl
        have h0 : '0'.toNat = 48 := rfl
        omega
      have hrest := ih (n * 10 + (c.toNat - '0'.toNat))
        fun d hd => hl d (List.mem_cons_of_mem c hd)
      have hstep : n * 10 + (c.toNat - '0'.toNat) + 1 ≤ (n + 1) * 10 := by omega
      calc _ < (n * 10 + (c.toNat - '0'.toNat) + 1) * 10 ^ rest.length := hrest
        _ ≤ (n + 1) * 10 * 10 ^ rest.length := Nat.mul_le_mul_right _ hstep
        _ = (n + 1) * 10 ^ (c :: rest).length := by
          rw [List.length_cons, Nat.pow_succ', Nat.mul_assoc]
  have hzero := hgeneral l 0 h
  rwa [Nat.zero_add, Nat.one_mul] at hzero

/-! ## Numbers -/

/-- A number that stands before the text ends there. -/
def EndsDigits (rest : List Char) : Prop := ∀ c ∈ rest.head?, c.isDigit = false

variable {rest : List Char} {width n : Nat}

theorem takeWhile_digits_append (hrest : EndsDigits rest) :
    (digits width n ++ rest).takeWhile Char.isDigit = digits width n := by
  rw [List.takeWhile_append_of_pos fun c hc => isDigit_of_mem_digits hc]
  cases rest with
  | nil => simp
  | cons c tail => simp [hrest c rfl]

theorem dropWhile_digits_append (hrest : EndsDigits rest) :
    (digits width n ++ rest).dropWhile Char.isDigit = rest := by
  rw [List.dropWhile_append_of_pos fun c hc => isDigit_of_mem_digits hc]
  cases rest with
  | nil => rfl
  | cons c tail => simp [hrest c rfl]

theorem number?_digits {limit : Nat} (hlimit : (digits width n).length ≤ limit)
    (hrest : EndsDigits rest) : number? limit (digits width n ++ rest) = some (n, rest) := by
  have htake : ((digits width n ++ rest).takeWhile Char.isDigit).take limit = digits width n := by
    rw [takeWhile_digits_append hrest, List.take_of_length_le hlimit]
  have hne : (digits width n).isEmpty = false := by simp [digits_ne_nil]
  simp only [number?, htake, hne, digitsValue_digits, List.drop_left]
  rfl

theorem longNumber?_digits (hrest : EndsDigits rest) :
    longNumber? (digits width n ++ rest) = some (n, rest) :=
  number?_digits (by simp) hrest

/-- The first character is no blank. -/
theorem skipBlanks_of_solid {c : Char} (h : Text.isBlank c = false) (tail : List Char) :
    skipBlanks (c :: tail) = c :: tail := by
  simp [skipBlanks, h]

theorem isBlank_of_isDigit {c : Char} (h : c.isDigit = true) : Text.isBlank c = false := by
  simp only [Char.isDigit, Bool.and_eq_true, decide_eq_true_eq] at h
  have hlow : 48 ≤ c.toNat := UInt32.le_iff_toNat_le.mp h.1
  have hhigh : c.toNat ≤ 57 := UInt32.le_iff_toNat_le.mp h.2
  simp only [Text.isBlank, Bool.or_eq_false_iff, Bool.and_eq_false_iff, decide_eq_false_iff_not,
    beq_eq_false_iff_ne]
  omega

theorem skipBlanks_digits (width n : Nat) (rest : List Char) :
    skipBlanks (digits width n ++ rest) = digits width n ++ rest := by
  cases h : digits width n with
  | nil => exact absurd h (digits_ne_nil width n)
  | cons c tail =>
    have hmem : c ∈ digits width n := by
      rw [h]
      exact List.mem_cons_self
    exact skipBlanks_of_solid (isBlank_of_isDigit (isDigit_of_mem_digits hmem)) _

theorem twoDigits?_digits (h : n < 100) (hrest : EndsDigits rest) :
    twoDigits? (digits 2 n ++ rest) = some (n, rest) := by
  rw [twoDigits?, skipBlanks_digits]
  exact number?_digits (Nat.le_of_eq (length_digits (by decide) h)) hrest

theorem separator?_cons {c : Char} (h : Text.isBlank c = false) (rest : List Char) :
    separator? c (c :: rest) = some rest := by
  simp [separator?, skipBlanks_of_solid h]

/-! ## The parts -/

theorem year?_minus (s : List Char) :
    year? ('-' :: s) = (longNumber? s).map fun (n, rest) => (-(n : Int), rest) := by
  rw [year?, skipBlanks_of_solid (by decide)]
  rfl

theorem year?_plus (s : List Char) :
    year? ('+' :: s) = (longNumber? s).map fun (n, rest) => ((n : Int), rest) := by
  rw [year?, skipBlanks_of_solid (by decide)]
  rfl

/-- A year whose first character is a digit has no sign. -/
theorem year?_digits (hrest : EndsDigits rest) (h : n < 10 ^ 4) :
    year? (digits 4 n ++ rest) = some ((n : Int), rest) := by
  have hread : year? (digits 4 n ++ rest) =
      (number? 4 (digits 4 n ++ rest)).map fun (n, rest) => ((n : Int), rest) := by
    rw [year?, skipBlanks_digits]
    cases hdigits : digits 4 n with
    | nil => exact absurd hdigits (digits_ne_nil _ _)
    | cons c tail =>
      have hmem : c ∈ digits 4 n := by
        rw [hdigits]
        exact List.mem_cons_self
      have hc : c.isDigit = true := isDigit_of_mem_digits hmem
      have hminus : c ≠ '-' := fun heq => absurd hc (by rw [heq]; decide)
      have hplus : c ≠ '+' := fun heq => absurd hc (by rw [heq]; decide)
      rw [List.cons_append]
      split
      · next heq => exact absurd (List.cons.inj heq).1 hminus
      · next heq => exact absurd (List.cons.inj heq).1 hplus
      · rfl
  rw [hread, number?_digits (Nat.le_of_eq (length_digits (by decide) h)) hrest]
  rfl

theorem year?_yearText (year : Int) (hrest : EndsDigits rest) :
    year? ((yearText year).toList ++ rest) = some (year, rest) := by
  have hsigned : ∀ {y : Int}, y = year →
      some (y, rest) = some (year, rest) := fun h => by rw [h]
  unfold yearText
  split
  · next h =>
    show year? (digits 4 year.toNat ++ rest) = _
    rw [year?_digits hrest (by omega)]
    exact hsigned (by omega)
  · split
    · rw [String.toList_append, List.append_assoc]
      show year? ('-' :: (digits 4 year.natAbs ++ rest)) = _
      rw [year?_minus, longNumber?_digits hrest]
      exact hsigned (by omega)
    · rw [String.toList_append, List.append_assoc]
      show year? ('+' :: (digits 4 year.natAbs ++ rest)) = _
      rw [year?_plus, longNumber?_digits hrest]
      exact hsigned (by omega)

theorem fraction?_digits {k : Nat} (hwidth : 0 < width) (hle : width ≤ 9) (hk : k < 10 ^ width)
    (hrest : EndsDigits rest) :
    fraction? ('.' :: (digits width k ++ rest)) = some (k * 10 ^ (9 - width), rest) := by
  have hlength := length_digits hwidth hk
  have htake : ((digits width k ++ rest).takeWhile Char.isDigit).take 9 = digits width k := by
    rw [takeWhile_digits_append hrest, List.take_of_length_le (by omega)]
  have hne : (digits width k).isEmpty = false := by simp [digits_ne_nil]
  simp only [fraction?, htake, hne, digitsValue_digits, hlength, dropWhile_digits_append hrest]
  rfl

theorem fraction?_fractionText {nanosecond : Nat} (h : nanosecond < 10 ^ 9) (rest : List Char) :
    fraction? ((fractionText nanosecond).toList ++ 'Z' :: rest) =
      some (nanosecond, 'Z' :: rest) := by
  have hZ : EndsDigits ('Z' :: rest) := by
    rintro c ⟨⟩
    decide
  -- a group of digits stands for the nanoseconds that it divides
  have hgroup : ∀ width k, 0 < width → width ≤ 9 → k < 10 ^ width →
      k * 10 ^ (9 - width) = nanosecond →
      fraction? (("." ++ padded width k).toList ++ 'Z' :: rest) =
        some (nanosecond, 'Z' :: rest) := by
    intro width k hwidth hle hk heq
    rw [String.toList_append, List.append_assoc, ← heq]
    exact fraction?_digits hwidth hle hk hZ
  unfold fractionText
  split
  · next hzero =>
    rw [hzero]
    rfl
  · split
    · exact hgroup 3 _ (by decide) (by decide) (by omega) (by omega)
    · split
      · exact hgroup 6 _ (by decide) (by decide) (by omega) (by omega)
      · exact hgroup 9 _ (by decide) (by decide) h (by omega)

theorem endsDigits_cons {c : Char} (h : c.isDigit = false) (rest : List Char) :
    EndsDigits (c :: rest) := by
  rintro d ⟨⟩
  exact h

theorem endsDigits_fractionText (nanosecond : Nat) (rest : List Char) :
    EndsDigits ((fractionText nanosecond).toList ++ 'Z' :: rest) := by
  have hpoint : ∀ s : String, EndsDigits (("." ++ s).toList ++ 'Z' :: rest) := by
    intro s
    rw [String.toList_append, List.append_assoc]
    exact endsDigits_cons (by decide) _
  unfold fractionText
  split
  · exact endsDigits_cons (by decide) rest
  · split
    · exact hpoint _
    · split <;> exact hpoint _

/-- A date, as it stands before the `T`. -/
theorem day?_text {d : Day} (h : d.isValid = true) (hrest : EndsDigits rest) :
    day? ((yearText d.year).toList ++
      '-' :: (digits 2 d.month ++ '-' :: (digits 2 d.day ++ rest))) = some (d, rest) := by
  have hmonth : d.month < 100 ∧ d.day < 100 := by
    have hdays : ∀ m, Day.daysInMonth d.year m ≤ 31 := by
      intro m
      unfold Day.daysInMonth
      split
      · split <;> decide
      all_goals decide
    simp only [Day.isValid, Bool.and_eq_true, decide_eq_true_eq] at h
    have hday := hdays d.month
    omega
  have hdash : ∀ tail, EndsDigits ('-' :: tail) := endsDigits_cons (by decide)
  unfold day?
  rw [year?_yearText d.year (hdash _)]
  simp only [Option.bind_eq_bind, Option.bind_some]
  rw [separator?_cons (by decide), Option.bind_some, twoDigits?_digits hmonth.1 (hdash _),
    Option.bind_some]
  simp only []
  rw [separator?_cons (by decide), Option.bind_some, twoDigits?_digits hmonth.2 hrest,
    Option.bind_some]
  exact if_pos h

/-- A time of day, as it stands between the `T` and the `Z`. -/
theorem timeOn?_text {t : Timestamp} (h : t.IsSound) (rest : List Char) :
    timeOn? t.date (digits 2 t.hour ++ ':' :: (digits 2 t.minute ++ ':' :: (digits 2 t.second ++
      ((fractionText t.nanosecond).toList ++ 'Z' :: rest)))) = some (t, 'Z' :: rest) := by
  have hcolon : ∀ tail, EndsDigits (':' :: tail) := endsDigits_cons (by decide)
  have hfraction := endsDigits_fractionText t.nanosecond rest
  have hhour := h.hour
  have hminute := h.minute
  have hsecond := h.second
  unfold timeOn?
  rw [twoDigits?_digits (by omega) (hcolon _)]
  simp only [Option.bind_eq_bind, Option.bind_some]
  rw [separator?_cons (by decide), Option.bind_some, twoDigits?_digits (by omega) (hcolon _),
    Option.bind_some]
  simp only []
  rw [separator?_cons (by decide), Option.bind_some, twoDigits?_digits (by omega) hfraction,
    Option.bind_some]
  simp only []
  rw [fraction?_fractionText h.nanosecond, Option.bind_some]
  exact if_pos ⟨h.hour, h.minute, h.second⟩

theorem behind_zero {t : Timestamp} (h : t.IsSound) : t.behind 0 = t := by
  obtain ⟨date, hour, minute, second, nanosecond⟩ := t
  have hhour : hour < 24 := h.hour
  have hminute : minute < 60 := h.minute
  have hlow : ¬ ((hour : Int) * 60 + minute - 0 < 0) := by omega
  have hhigh : ¬ (dayMinutes ≤ (hour : Int) * 60 + minute - 0) := by
    unfold dayMinutes
    omega
  have hclock : (((hour : Int) * 60 + minute - 0) % dayMinutes).toNat = hour * 60 + minute := by
    unfold dayMinutes
    omega
  simp only [behind, if_neg hlow, if_neg hhigh, hclock]
  congr 1
  · omega
  · omega

/-- **What is written for a sound point in time is read as that point in time.** -/
theorem read?_text {t : Timestamp} (h : t.IsSound) : read? t.text = some t := by
  have htext : t.text.toList = (yearText t.date.year).toList ++ '-' :: (digits 2 t.date.month ++
      '-' :: (digits 2 t.date.day ++ 'T' :: (digits 2 t.hour ++ ':' :: (digits 2 t.minute ++
        ':' :: (digits 2 t.second ++ ((fractionText t.nanosecond).toList ++ ['Z'])))))) := by
    simp only [text, digits, String.toList_append, List.append_assoc]
    rfl
  have hT : ∀ tail, EndsDigits ('T' :: tail) := endsDigits_cons (by decide)
  unfold read?
  rw [htext, day?_text h.date (hT _)]
  simp only [Option.bind_eq_bind, Option.bind_some]
  rw [timeOn?_text h]
  simp only [Option.bind_some]
  rw [skipBlanks_of_solid (by decide)]
  show (if (skipBlanks []).isEmpty ∧ (0 : Int).natAbs < 1440 ∧ (t.behind 0).date.isValid then
    some (t.behind 0) else none) = some t
  rw [behind_zero h, if_pos ⟨rfl, by decide, h.date⟩]

/-! ## What is read -/

theorem fraction?_lt {s rest : List Char} (h : fraction? s = some (n, rest)) : n < 10 ^ 9 := by
  unfold fraction? at h
  split at h
  · next s =>
    simp only at h
    split at h
    · cases h
    · next hne =>
      let front := (s.takeWhile Char.isDigit).take 9
      have hdigits : ∀ c ∈ front, c.isDigit = true :=
        fun c hc => List.mem_takeWhile_imp (List.mem_of_mem_take hc)
      have hle : front.length ≤ 9 := List.length_take_le 9 _
      have hvalue := digitsValue_lt hdigits
      cases h
      calc digitsValue front * 10 ^ (9 - front.length)
          < 10 ^ front.length * 10 ^ (9 - front.length) :=
            Nat.mul_lt_mul_of_pos_right hvalue (Nat.pow_pos (by decide))
        _ = 10 ^ 9 := by rw [← Nat.pow_add, Nat.add_sub_cancel' hle]
  · cases h
    decide

theorem sound_behind {t : Timestamp} {minutes : Int}
    (hdate : (t.behind minutes).date.isValid = true) (hsecond : t.second ≤ 60)
    (hnanosecond : t.nanosecond < 10 ^ 9) :
    (t.behind minutes).IsSound := by
  have hclock : (((t.hour : Int) * 60 + t.minute - minutes) % dayMinutes).toNat < 1440 := by
    unfold dayMinutes
    omega
  refine ⟨hdate, ?_, ?_, hsecond, hnanosecond⟩
  · exact Nat.div_lt_of_lt_mul hclock
  · exact Nat.mod_lt _ (by decide)

theorem timeOn?_bounds {date : Day} {s rest : List Char} {t : Timestamp}
    (h : timeOn? date s = some (t, rest)) : t.second ≤ 60 ∧ t.nanosecond < 10 ^ 9 := by
  simp only [timeOn?, Option.bind_eq_bind, Option.bind_eq_some_iff] at h
  obtain ⟨_, -, _, -, _, -, _, -, ⟨second, _⟩, -, ⟨nanosecond, _⟩, hfraction, h⟩ := h
  split at h
  · next hclock =>
    cases h
    exact ⟨hclock.2.2, fraction?_lt hfraction⟩
  · cases h

/-- Only sound points in time are read. -/
theorem sound_of_read? {s : String} {t : Timestamp} (h : read? s = some t) : t.IsSound := by
  have hclock : ∀ (date : Day) (s : List Char), ((timeOn? date s).bind fun x =>
      (offset? (skipBlanks x.2)).bind fun y =>
        if (skipBlanks y.2).isEmpty = true ∧ y.1.natAbs < 1440 ∧
          (x.1.behind y.1).date.isValid = true then some (x.1.behind y.1) else none) = some t →
      t.IsSound := by
    intro date s h
    simp only [Option.bind_eq_some_iff] at h
    obtain ⟨⟨clock, _⟩, htime, ⟨offset, _⟩, -, h⟩ := h
    split at h
    · next hvalid =>
      cases h
      obtain ⟨hsecond, hnanosecond⟩ := timeOn?_bounds htime
      exact sound_behind hvalid.2.2 hsecond hnanosecond
    · cases h
  simp only [read?, Option.bind_eq_bind, Option.bind_eq_some_iff] at h
  obtain ⟨⟨date, rest⟩, -, h⟩ := h
  -- the mark between date and time may be any of three
  split at h
  · exact hclock date _ h
  · exact hclock date _ h
  · exact hclock date _ h
  · cases h

end TxGateway.Timestamp
