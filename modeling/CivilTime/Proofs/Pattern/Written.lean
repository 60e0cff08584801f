/-
  CivilTime.Proofs.Pattern.Written — what is written is read back.

  A date and time with its offset is written in pieces, one for each token of its format: four
  digits of the year, two of every other field, three or six of a fraction, and the offset. The
  format takes the text apart into just these pieces (`spelled_second`). Their digits make the
  numbers that were written; the sign of an offset holds for all of it, so that one below an hour
  keeps it (`offsetOf_chars`). The numbers then make the date and time (`resolve_ofReading`).

  Main statement: a date and time of whole microseconds, outside a leap second, is read as itself
  and its offset (`read_stamp`).
-/

import CivilTime.Proofs.Pattern.Match
import CivilTime.Proofs.Seasons
import CivilTime.Text.Written
import Mathlib.Algebra.Group.Nat.Defs

namespace CivilTime

open Text (isDigit decimal digit number number_decimal length_decimal)

/-! ## Digits -/

namespace Text

/-- What is true of the ten digits is true of the last digit of every number. -/
theorem digit_of_lt_ten {p : Char → Prop} (all : ∀ k < 10, p (digit k)) (n : Nat) : p (digit n) := by
  have last := all (n % 10) (Nat.mod_lt n (by decide))
  unfold digit at last ⊢
  rwa [Nat.mod_mod] at last

theorem isDigit_digit (n : Nat) : isDigit (digit n) = true := by
  rw [isDigit, digitValue?_digit]; rfl

theorem forall_mem_decimal {p : Char → Bool} (h : ∀ n, p (digit n) = true) (w n : Nat) :
    ∀ c ∈ decimal w n, p c = true := by
  induction w generalizing n with
  | zero => simp [decimal]
  | succ w ih =>
    intro c hc
    rcases List.mem_append.mp hc with front | last
    · exact ih (n / 10) c front
    · rw [List.mem_singleton.mp last]; exact h n

theorem decimal_two (n : Nat) : decimal 2 n = [digit (n / 10), digit n] := rfl

/-- A number that has room in its decimal places is read back. -/
theorem number_decimal_toNat {w : Nat} {n : Int} (lo : 0 ≤ n) (hi : n < (10 ^ w : Nat)) :
    number (decimal w n.toNat) = n := by
  have less : n.toNat < 10 ^ w := by omega
  rw [number_decimal, show Nat.pow 10 w = 10 ^ w from rfl, Nat.mod_eq_of_lt less]
  omega

theorem number_two {n : Nat} (less : n < 100) : number [digit (n / 10), digit n] = n := by
  rw [← decimal_two, number_decimal, Nat.mod_eq_of_lt less]

theorem digit_ne_colon (n : Nat) : digit n ≠ ':' :=
  digit_of_lt_ten (p := (· ≠ ':')) (by decide) n

theorem isBlank_digit (n : Nat) : isBlank (digit n) = false :=
  digit_of_lt_ten (p := (isBlank · = false)) (by decide) n

theorem number_append_zeros (cs : List Char) (k : Nat) :
    number (cs ++ List.replicate k '0') = number cs * (10 ^ k : Nat) := by
  induction k with
  | zero => simp
  | succ k ih =>
    have next : number (cs ++ List.replicate k '0' ++ ['0']) = 10 * number (cs ++ List.replicate k '0') + 0 :=
      number_append_digit _ 0
    rw [List.replicate_succ', ← List.append_assoc, next, ih, Nat.pow_succ]
    push_cast
    rw [Int.add_zero, Int.mul_comm, Int.mul_assoc]

end Text

namespace Pattern

open Directive Token

theorem among_digit (n : Nat) : among '0' '9' (digit n) = true :=
  Text.digit_of_lt_ten (p := (among '0' '9' · = true)) (by decide) n

theorem among_digit_of_lt_six {n : Nat} (less : n < 6) : among '0' '5' (digit n) = true := by
  have all : ∀ k < 6, among '0' '5' (digit k) = true := by decide
  exact all n less

/-! ## Offsets -/

theorem seconds_chars (o : Offset) : ∃ sign h m s, o.chars = sign :: decimal 2 h ++ ':' :: decimal 2 m ++
      (if s = 0 then [] else ':' :: decimal 2 s) ∧ h < 24 ∧ m < 60 ∧ s < 60 ∧
      (sign = '-' ∧ o.seconds = -(h * 3600 + m * 60 + s) ∨ sign = '+' ∧ o.seconds = h * 3600 + m * 60 + s) := by
  have lo := o.neg_day_lt; have hi := o.lt_day
  refine ⟨if o.seconds < 0 then '-' else '+', o.seconds.natAbs / 3600, o.seconds.natAbs / 60 % 60,
    o.seconds.natAbs % 60, rfl, by omega, by omega, by omega, ?_⟩
  by_cases negative : o.seconds < 0
  · left
    rw [if_pos negative]
    exact ⟨rfl, by omega⟩
  · right
    rw [if_neg negative]
    exact ⟨rfl, by omega⟩

def Shape.toMinutes : Shape :=
  [fun c => c == '+' || c == '-', isDigit, isDigit, exactly ':', among '0' '5', isDigit]

/-- Sign, hours and minutes are split off, and a longer shape goes on from there. -/
theorem split?_toMinutes {sign : Char} (signed : sign = '-' ∨ sign = '+') (h : Nat) {m : Nat} (less : m < 60)
    (shape : Shape) (cs : List Char) :
    Shape.split? (Shape.toMinutes ++ shape) (sign :: decimal 2 h ++ ':' :: decimal 2 m ++ cs) =
      (Shape.split? shape cs).map fun r => (sign :: decimal 2 h ++ ':' :: decimal 2 m ++ r.1, r.2) := by
  have sign_ : (sign == '+' || sign == '-') = true := by rcases signed with rfl | rfl <;> rfl
  have tens : among '0' '5' (digit (m / 10)) = true := among_digit_of_lt_six (by omega)
  simp [Shape.toMinutes, Shape.split?, Text.decimal_two, sign_, tens, Text.isDigit_digit, exactly, Option.map_map,
    Function.comp_def]

/-- At the end of a text an offset is taken whole, with its seconds if it has any. -/
theorem takes_offset {zones : ZoneNames} (o : Offset) : (field offset).Takes zones o.chars [] := by
  obtain ⟨sign, h, m, s, chars, -, minutes, seconds, signed⟩ := seconds_chars o
  have signed : sign = '-' ∨ sign = '+' := signed.imp And.left And.left
  rw [takes_field, List.append_nil, chars]
  show Shape.offsets.findSome? _ = _
  by_cases whole : s = 0
  · -- every shape before the fifteenth has seconds
    have longer : ∀ s ∈ Shape.offsets.take 14, 6 < s.length := by decide
    have split := split?_toMinutes signed h minutes [] []
    rw [if_pos whole]
    exact Shape.findSome?_of_longer (by simpa using longer) (show Shape.offsets[14]? = _ from rfl) split
  · -- every shape before the seventh has a fraction
    have longer : ∀ s ∈ Shape.offsets.take 6, 9 < s.length := by decide
    have tens : among '0' '5' (digit (s / 10)) = true := among_digit_of_lt_six (by omega)
    have split := split?_toMinutes signed h minutes [exactly ':', among '0' '5', isDigit] (':' :: decimal 2 s)
    rw [if_neg whole]
    refine Shape.findSome?_of_longer (by simpa using longer) (show Shape.offsets[6]? = _ from rfl) (split.trans ?_)
    simp [Shape.split?, Text.decimal_two, exactly, tens, Text.isDigit_digit]

/-- The sign of an offset is that of all its digits. -/
theorem offsetOf_chars (o : Offset) : Fields.offsetOf o.chars = .ok (o.seconds * 1000000) := by
  obtain ⟨sign, h, m, s, chars, hours, minutes, seconds, signed⟩ := seconds_chars o
  have hs := Text.number_two (n := s) (by omega)
  have hm := Text.number_two (n := m) (by omega)
  have hh := Text.number_two (n := h) (by omega)
  have none : number [] = 0 := rfl
  have noFraction : Fields.microsOf [] = 0 := rfl
  have value : Fields.offsetOf o.chars =
      .ok (if sign = '-' then -((h * 3600 + m * 60 + s) * 1000000) else (h * 3600 + m * 60 + s) * 1000000) := by
    rw [chars]
    by_cases whole : s = 0
    · subst whole
      simp [Fields.offsetOf, Text.decimal_two, hh, hm, none, noFraction]
      rfl
    · simp [Fields.offsetOf, Text.decimal_two, whole, hh, hm, hs, noFraction, Text.digit_ne_colon]
      rfl
  rw [value]
  rcases signed with ⟨rfl, eq⟩ | ⟨rfl, eq⟩
  · rw [if_pos rfl, eq, Int.neg_mul]
  · rw [if_neg (by decide), eq]

example : Fields.offsetOf "-00:00:01".toList = .ok (-1000000) := by rfl

/-! ## Fractions -/

/-- A fraction of whole microseconds has three or six digits, which are read as the microseconds. -/
theorem fraction_cases {nanos : Int} (lo : 0 < nanos) (hi : nanos < 1000000000) (micros : nanos % 1000 = 0) :
    ∃ digits, CivilTime.fraction nanos = '.' :: digits ∧ (digits.length = 3 ∨ digits.length = 6) ∧
      (∀ c ∈ digits, among '0' '9' c = true) ∧ Fields.microsOf digits = nanos / 1000 := by
  unfold CivilTime.fraction
  rw [if_neg (by omega)]
  by_cases millis : nanos % 1000000 = 0
  · rw [if_pos millis]
    refine ⟨_, rfl, .inl (length_decimal ..), Text.forall_mem_decimal among_digit 3 _, ?_⟩
    rw [Fields.microsOf, Text.number_append_zeros, Text.number_decimal_toNat (by omega) (by omega), length_decimal]
    omega
  · rw [if_neg millis, if_pos micros]
    refine ⟨_, rfl, .inr (length_decimal ..), Text.forall_mem_decimal among_digit 6 _, ?_⟩
    rw [Fields.microsOf, Text.number_append_zeros, Text.number_decimal_toNat (by omega) (by omega), length_decimal]
    omega

end Pattern

/-! ## Fields that make a date and time -/

/-- Numbers that fit a machine integer are passed. -/
theorem FieldFault.forM_narrow {ns : List Int} (small : ∀ n ∈ ns, 0 ≤ n ∧ n ≤ 999999) :
    ns.forM FieldFault.narrow = .ok () := by
  induction ns with
  | nil => rfl
  | cons n ns ih =>
    obtain ⟨lo, hi⟩ := small n (List.mem_cons_self ..)
    have passed : FieldFault.narrow n = .ok () := by
      unfold FieldFault.narrow
      rw [if_neg (by omega), if_neg (by omega), if_neg (by omega)]
    show (FieldFault.narrow n >>= fun _ => ns.forM FieldFault.narrow) = _
    rw [passed]
    exact ih fun k hk => small k (List.mem_cons_of_mem _ hk)

theorem CivilDate.day_le (d : CivilDate) : d.day ≤ 31 := by
  obtain ⟨monthLo, monthHi⟩ := d.month_bounds
  exact Int.le_trans d.day_bounds.2 (daysInMonth_bounds d.year monthLo monthHi).2

theorem CivilDate.fields_small (d : CivilDate) : ∀ n ∈ [d.year, d.month, d.day], 0 ≤ n ∧ n ≤ 999999 := by
  have := d.year_bounds; have := d.month_bounds
  have := d.day_bounds.1; have := d.day_le
  rw [List.forall_mem_cons, List.forall_mem_cons, List.forall_mem_singleton]
  omega

theorem MicroTime.fields_small (t : MicroTime) :
    ∀ n ∈ [t.hour, t.minute, t.second, t.microsecond], 0 ≤ n ∧ n ≤ 999999 := by
  have := t.second_nonneg; have := t.second_lt
  have := t.micro_nonneg; have := t.micro_lt
  rw [List.forall_mem_cons, List.forall_mem_cons, List.forall_mem_cons, List.forall_mem_singleton]
  unfold hour minute second
  omega

/-- The fields of a date make the date. -/
theorem CivilDate.ofFields_year_month_day (d : CivilDate) : CivilDate.ofFields d.year d.month d.day = .ok d := by
  obtain ⟨yearLo, yearHi⟩ := d.year_bounds
  obtain ⟨monthLo, monthHi⟩ := d.month_bounds
  have inYears : ¬ (d.year < 1 ∨ 9999 < d.year) := by omega
  have inMonths : ¬ (d.month < 1 ∨ 12 < d.month) := by omega
  simp only [CivilDate.ofFields, FieldFault.forM_narrow d.fields_small, inYears, inMonths, if_false,
    CivilDate.ofYmd_year_month_day]
  rfl

/-- The fields of a time make the time. -/
theorem MicroTime.ofFields_hour_minute_second (t : MicroTime) :
    MicroTime.ofFields t.hour t.minute t.second t.microsecond = .ok t := by
  have := t.second_nonneg; have := t.second_lt
  have := t.micro_nonneg; have := t.micro_lt
  unfold MicroTime.ofFields hour minute second
  rw [dif_neg (by omega), dif_neg (by omega), dif_neg (by omega), dif_neg (by omega)]
  have seconds : t.secondOfDay / 3600 * 3600 + t.secondOfDay / 60 % 60 * 60 + t.secondOfDay % 60 = t.secondOfDay := by
    omega
  exact congrArg Except.ok (MicroTime.ext_iff.mpr ⟨seconds, rfl⟩)

theorem MicroDateTime.ofFields_own (x : MicroDateTime) :
    MicroDateTime.ofFields x.date.year x.date.month x.date.day x.time.hour x.time.minute x.time.second
      x.time.microsecond = .ok x := by
  have small : ∀ n ∈ [x.date.year, x.date.month, x.date.day, x.time.hour, x.time.minute, x.time.second,
      x.time.microsecond], 0 ≤ n ∧ n ≤ 999999 :=
    List.forall_mem_append.mpr ⟨x.date.fields_small, x.time.fields_small⟩
  simp only [MicroDateTime.ofFields, FieldFault.forM_narrow small, CivilDate.ofFields_year_month_day,
    MicroTime.ofFields_hour_minute_second]
  rfl

/-- On the grid of whole microseconds nothing is dropped. -/
theorem CivilDateTime.toCivil_toMicro {x : CivilDateTime} (ordinary : x.time.nanosecond < 1000000000)
    (micros : x.time.nanosecond % 1000 = 0) : x.toMicro.toCivil = x := by
  have nano : min x.time.nanosecond 999999999 / 1000 * 1000 = x.time.nanosecond := by omega
  have time : x.time.toMicro.toClockTime = x.time := ClockTime.ext rfl nano
  exact congrArg (CivilDateTime.mk x.date) time

namespace Pattern

open Directive Token

def Fields.ofReading (x : MicroDateTime) (offset : Option Int) : Fields where
  year := some x.date.year
  month := x.date.month
  day := x.date.day
  hour := x.time.hour
  minute := x.time.minute
  second := x.time.second
  micro := x.time.microsecond
  offsetMicros := offset

/-- The fields of a date and time make the date and time. -/
theorem resolve_ofReading (x : MicroDateTime) {offset : Int} (lo : -86400000000 < offset) (hi : offset < 86400000000) :
    (Fields.ofReading x (some offset)).resolve = .ok ⟨x, some offset⟩ := by
  have checked : (Fields.ofReading x (some offset)).check = .ok () := by
    simp [Fields.check, Fields.ofReading]
  have date : (Fields.ofReading x (some offset)).date = .ok (x.date.year, x.date.month, x.date.day) := by
    simp [Fields.date, Fields.ofReading, Fields.ordinal?, CivilDate.ofFields_year_month_day]
    rfl
  have own := x.ofFields_own
  have small : ¬ (offset ≤ -86400000000 ∨ 86400000000 ≤ offset) := by omega
  unfold Fields.resolve
  rw [checked, date]
  simp only [bind, Except.bind, Fields.ofReading, own, if_neg small]
  rfl

/-! ## Pieces -/

/-- The pieces of a date and time down to the second, and those after it. -/
def secondPieces (x : CivilDateTime) (others : List Piece) : List Piece :=
  (field year, decimal 4 x.date.year.toNat) :: (literal '-', ['-']) ::
  (field month, decimal 2 x.date.month.toNat) :: (literal '-', ['-']) ::
  (field dayOfMonth, decimal 2 x.date.day.toNat) :: (blanks, [' ']) ::
  (field hour24, decimal 2 x.time.hour.toNat) :: (literal ':', [':']) ::
  (field minute, decimal 2 x.time.minute.toNat) :: (literal ':', [':']) ::
  (field second, decimal 2 x.time.shownSecond.toNat) :: others

def offsetPieces (o : Offset) : List Piece := [(blanks, [' ']), (field offset, o.chars)]

def stampFormat (nanos : Int) : String :=
  if nanos = 0 then "%Y-%m-%d %H:%M:%S %z" else "%Y-%m-%d %H:%M:%S.%f %z"

variable {zones : ZoneNames}

theorem takes_year (n : Nat) (rest : List Char) : (field year).Takes zones (decimal 4 n) rest := by
  have digits := Shape.split?_replicate (Text.forall_mem_decimal Text.isDigit_digit 4 n) rest
  rw [takes_field]
  show [List.replicate 4 isDigit].findSome? _ = _
  rw [length_decimal] at digits
  rw [List.findSome?_cons, digits]

theorem spelled_second {x : CivilDateTime} (ordinary : x.time.nanosecond < 1000000000) {others : List Piece}
    (h : Spelled zones others) : Spelled zones (secondPieces x others) := by
  have := x.date.month_bounds
  have := x.date.day_bounds.1; have := x.date.day_le
  have := x.time.second_nonneg; have := x.time.second_lt
  have := x.time.nano_nonneg
  have month : 1 ≤ x.date.month.toNat ∧ x.date.month.toNat ≤ 12 := by omega
  have day : 1 ≤ x.date.day.toNat ∧ x.date.day.toNat ≤ 31 := by omega
  have hour : x.time.hour.toNat ≤ 23 := by unfold ClockTime.hour; omega
  have minute : x.time.minute.toNat ≤ 59 := by unfold ClockTime.minute; omega
  have second : x.time.shownSecond.toNat ≤ 59 := by unfold ClockTime.shownSecond ClockTime.second; omega
  refine ⟨takes_year _ _, takes_literal _ _, takes_two_digits twoDigits_month month.1 month.2 _, takes_literal _ _,
    takes_two_digits twoDigits_dayOfMonth day.1 day.2 _, takes_blank ?_,
    takes_two_digits twoDigits_hour24 (Nat.zero_le _) hour _, takes_literal _ _,
    takes_two_digits twoDigits_minute (Nat.zero_le _) minute _, takes_literal _ _,
    takes_two_digits twoDigits_second (Nat.zero_le _) second _, h⟩
  intro c hc
  cases hc
  exact Text.isBlank_digit _

theorem spelled_offset (o : Offset) : Spelled zones (offsetPieces o) := by
  refine ⟨takes_blank fun c hc => ?_, takes_offset o, trivial⟩
  obtain ⟨sign, h, m, s, chars, -, -, -, signed⟩ := seconds_chars o
  simp only [spelling, List.flatMap_cons, chars] at hc
  cases hc
  rcases signed with ⟨rfl, -⟩ | ⟨rfl, -⟩ <;> decide

theorem spelled_fraction {digits : List Char} (length : digits.length = 3 ∨ digits.length = 6)
    (all : ∀ c ∈ digits, among '0' '9' c = true) (o : Offset) :
    Spelled zones ((literal '.', ['.']) :: (field .fraction, digits) :: offsetPieces o) := by
  refine ⟨takes_literal _ _, takes_run rfl (by omega) (by omega) all ?_, spelled_offset o⟩
  intro c hc
  cases hc
  decide

/-- The pieces down to the second give their numbers to the fields, and leave the rest to the others. -/
theorem take_second {x : CivilDateTime} (ordinary : x.time.nanosecond < 1000000000) (afternoon : Bool)
    (others : List Piece) :
    (captures (secondPieces x others)).foldlM (fun f t => Fields.take afternoon f t.1 t.2) {} =
      (captures others).foldlM (fun f t => Fields.take afternoon f t.1 t.2)
        { Fields.ofReading x.toMicro none with micro := 0 } := by
  obtain ⟨yearLo, yearHi⟩ := x.date.year_bounds
  have := x.date.month_bounds
  have := x.date.day_bounds.1; have := x.date.day_le
  have := x.time.second_nonneg; have := x.time.second_lt
  have := x.time.nano_nonneg
  have year : number (decimal 4 x.date.year.toNat) = x.date.year := Text.number_decimal_toNat (by omega) (by omega)
  have month : number (decimal 2 x.date.month.toNat) = x.date.month :=
    Text.number_decimal_toNat (by omega) (by omega)
  have day : number (decimal 2 x.date.day.toNat) = x.date.day := Text.number_decimal_toNat (by omega) (by omega)
  have hour : number (decimal 2 x.time.hour.toNat) = x.toMicro.time.hour :=
    Text.number_decimal_toNat (n := x.time.secondOfDay / 3600) (by omega) (by omega)
  have minute : number (decimal 2 x.time.minute.toNat) = x.toMicro.time.minute :=
    Text.number_decimal_toNat (n := x.time.secondOfDay / 60 % 60) (by omega) (by omega)
  have shown : x.time.shownSecond = x.toMicro.time.second := by
    show x.time.secondOfDay % 60 + _ = x.time.secondOfDay % 60
    omega
  have second : number (decimal 2 x.time.shownSecond.toNat) = x.toMicro.time.second := by
    rw [shown]
    exact Text.number_decimal_toNat (n := x.time.secondOfDay % 60) (by omega) (by omega)
  -- each number is read back, and the fields take them one after the other
  simp [captures, secondPieces, captured, Fields.take, year, month, day, hour, minute, second, Fields.ofReading]
  rfl

/-- A text spelled with the pieces down to the second is read as the date and time, if the other pieces give
the microseconds and the offset. -/
theorem read_of_others {x : CivilDateTime} (ordinary : x.time.nanosecond < 1000000000) {others : List Piece}
    {text format : String} {offset : Int} (tokens : Token.ofFormat format = .ok ((secondPieces x others).map Prod.fst))
    (spells : text.toList = spelling (secondPieces x others)) (h : Spelled zones others)
    (lo : -86400000000 < offset) (hi : offset < 86400000000)
    (fields : ∀ afternoon, (captures others).foldlM (fun f t => Fields.take afternoon f t.1 t.2)
        { Fields.ofReading x.toMicro none with micro := 0 } = .ok (Fields.ofReading x.toMicro (some offset))) :
    read zones text format = .ok ⟨x.toMicro, some offset⟩ := by
  have taken : Fields.ofTexts (captures (secondPieces x others)) = .ok (Fields.ofReading x.toMicro (some offset)) := by
    unfold Fields.ofTexts
    rw [take_second ordinary, fields]
  rw [read_of_spelled tokens spells (spelled_second ordinary h), taken]
  exact resolve_ofReading x.toMicro lo hi

/-- A date and time of whole microseconds, written with an offset, is read as itself and the offset. -/
theorem read_stamp (zones : ZoneNames) {x : CivilDateTime} (ordinary : x.time.nanosecond < 1000000000)
    (micros : x.time.nanosecond % 1000 = 0) (o : Offset) :
    read zones (x.text ++ " " ++ o.text) (stampFormat x.time.nanosecond) =
      .ok ⟨x.toMicro, some (o.seconds * 1000000)⟩ := by
  have lo := o.neg_day_lt; have hi := o.lt_day
  have nonneg := x.time.nano_nonneg
  have shown : x.time.shownNano = x.time.nanosecond := by unfold ClockTime.shownNano; omega
  have micro : x.toMicro.time.microsecond = x.time.nanosecond / 1000 := by
    show min _ _ / 1000 = _
    omega
  have text : (x.text ++ " " ++ o.text).toList =
      x.date.chars ++ ' ' :: decimal 2 x.time.hour.toNat ++ ':' :: decimal 2 x.time.minute.toNat ++
        ':' :: decimal 2 x.time.shownSecond.toNat ++ CivilTime.fraction x.time.nanosecond ++ ' ' :: o.chars := by
    simp [CivilDateTime.text, CivilDateTime.charsWith, ClockTime.chars, Offset.text, shown]
  -- the format asks for a fraction just if the text has one
  by_cases whole : x.time.nanosecond = 0
  · have tokens : Token.ofFormat (stampFormat x.time.nanosecond) =
        .ok ((secondPieces x (offsetPieces o)).map Prod.fst) := by
      rw [stampFormat, if_pos whole]; rfl
    refine read_of_others ordinary tokens ?_ (spelled_offset o) (by omega) (by omega) fun afternoon => ?_
    · rw [text, whole]
      simp [spelling, secondPieces, offsetPieces, CivilDate.chars, CivilTime.fraction]
    · simp [captures, offsetPieces, captured, Fields.take, offsetOf_chars, Fields.ofReading, micro, whole]
  · obtain ⟨digits, fraction, length, all, value⟩ := fraction_cases (by omega) ordinary micros
    have tokens : Token.ofFormat (stampFormat x.time.nanosecond) =
        .ok ((secondPieces x ((literal '.', ['.']) :: (field .fraction, digits) :: offsetPieces o)).map Prod.fst) := by
      rw [stampFormat, if_neg whole]; rfl
    refine read_of_others ordinary tokens ?_ (spelled_fraction length all o) (by omega) (by omega) fun afternoon => ?_
    · rw [text, fraction]
      simp [spelling, secondPieces, offsetPieces, CivilDate.chars]
    · simp [captures, offsetPieces, captured, Fields.take, offsetOf_chars, Fields.ofReading, micro, value]

end Pattern

end CivilTime
