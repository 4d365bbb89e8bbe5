import Spreadsheet.Number.Format
import Spreadsheet.Proofs.Number.Numeral
import Spreadsheet.Proofs.Number.Rounding

/-! Written numbers: a sign, whole digits, a fraction behind a point, and an exponent in scientific
notation. They are read back as what they denote, and there is one way to write a number without
zeros at the end of its fraction.
-/

namespace Spreadsheet.Number

open Numeral

variable {count n : Nat} {c : Char} {cs : List Char}

-- Digits at the end of a number

/-- So many digits at the end of a number, with zeros in front if it has fewer. -/
def lastDigits : Nat → Nat → List Char
  | 0, _ => []
  | count + 1, n => lastDigits count (n / 10) ++ [(n % 10).digitChar]

@[simp]
theorem length_lastDigits (count n : Nat) : (lastDigits count n).length = count := by
  induction count generalizing n with
  | zero => rfl
  | succ count ih => simp [lastDigits, ih]

theorem isDigit_of_mem_lastDigits (mem : c ∈ lastDigits count n) : c.isDigit := by
  induction count generalizing n with
  | zero => cases mem
  | succ count ih =>
    rcases List.mem_append.mp mem with mem | mem
    · exact ih mem
    · obtain rfl := List.mem_singleton.mp mem
      simp [Nat.mod_lt]

theorem lastDigits_zero (count : Nat) : lastDigits count 0 = List.replicate count '0' := by
  induction count with
  | zero => rfl
  | succ count ih =>
    rw [lastDigits, Nat.zero_div, ih, List.replicate_succ']
    rfl

/-- The digits of a number are those of its quotient and the last ones, by induction on these. -/
theorem toDigits_eq_append (large : 10 ^ count ≤ n)
    : Nat.toDigits 10 n = Nat.toDigits 10 (n / 10 ^ count) ++ lastDigits count n := by
  induction count generalizing n with
  | zero => simp [lastDigits]
  | succ count ih =>
    rw [Nat.pow_succ] at large
    have more : 10 ^ count ≤ n / 10 := (Nat.le_div_iff_mul_le (by decide)).mpr large
    have ten : 10 ≤ n := by
      have := Nat.pow_pos (n := count) (by decide : 0 < 10)
      omega
    rw [Nat.toDigits_of_base_le (by decide) ten, ih more, lastDigits, Nat.div_div_eq_div_mul,
      Nat.pow_succ', List.append_assoc]

/-- Zeros in front of the digits make them the last ones of a greater width, by induction on it. -/
theorem zeros_append_toDigits (some : 0 < count) (small : n < 10 ^ count)
    : List.replicate (count - (Nat.toDigits 10 n).length) '0' ++ Nat.toDigits 10 n
      = lastDigits count n := by
  induction count generalizing n with
  | zero => cases some
  | succ count ih =>
    rcases Nat.lt_or_ge n 10 with single | more
    · rw [Nat.toDigits_of_lt_base single, lastDigits, Nat.div_eq_of_lt single,
        Nat.mod_eq_of_lt single, lastDigits_zero]
      rfl
    · rw [Nat.pow_succ] at small
      have others : n / 10 < 10 ^ count := Nat.div_lt_of_lt_mul (by omega)
      have left : 0 < count := by
        rcases Nat.eq_zero_or_pos count with rfl | left
        · omega
        · exact left
      rw [Nat.toDigits_of_base_le (by decide) more, lastDigits, ← ih left others,
        List.length_append, List.length_singleton, Nat.add_sub_add_right, List.append_assoc]

-- What digits denote

theorem digitsValue_concat (cs : List Char) (c : Char)
    : digitsValue (cs ++ [c]) = 10 * digitsValue cs + (c.toNat - '0'.toNat) := by
  simp [digitsValue]

theorem digitsValue_append (cs ds : List Char)
    : digitsValue (cs ++ ds) = digitsValue cs * 10 ^ ds.length + digitsValue ds := by
  induction ds using List.reverseRecOn with
  | nil => simp [digitsValue]
  | append_singleton ds d ih =>
    rw [← List.append_assoc, digitsValue_concat, ih, digitsValue_concat, List.length_append,
      List.length_singleton, Nat.pow_succ]
    ring

theorem digitsValue_zeros (count : Nat) : digitsValue (List.replicate count '0') = 0 := by
  induction count with
  | zero => rfl
  | succ count ih => simp [List.replicate_succ', digitsValue_concat, ih]

theorem digitsValue_lastDigits (count n : Nat)
    : digitsValue (lastDigits count n) = n % 10 ^ count := by
  induction count generalizing n with
  | zero => simp [lastDigits, digitsValue, Nat.mod_one]
  | succ count ih =>
    have last : ∀ d : Fin 10, d.val.digitChar.toNat - '0'.toNat = d.val := by decide
    rw [lastDigits, digitsValue_concat, ih, last ⟨n % 10, Nat.mod_lt n (by decide)⟩, Nat.pow_succ',
      Nat.mod_mul, Nat.add_comm]

/-- Digits are the last ones of the number they denote, by induction from the last one on. -/
theorem lastDigits_digitsValue (digits : ∀ c ∈ cs, c.isDigit)
    : lastDigits cs.length (digitsValue cs) = cs := by
  induction cs using List.reverseRecOn with
  | nil => rfl
  | append_singleton cs c ih =>
    obtain ⟨low, same, _⟩ := digitChar_of_isDigit (digits c (by simp))
    have others : ∀ d ∈ cs, d.isDigit := fun d mem => digits d (List.mem_append_left _ mem)
    have quotient : (10 * digitsValue cs + (c.toNat - '0'.toNat)) / 10 = digitsValue cs := by omega
    have remainder : (10 * digitsValue cs + (c.toNat - '0'.toNat)) % 10 = c.toNat - '0'.toNat := by
      omega
    rw [List.length_append, List.length_singleton, lastDigits, digitsValue_concat, quotient,
      remainder, ih others, same]

theorem digitsValue_lt (digits : ∀ c ∈ cs, c.isDigit) : digitsValue cs < 10 ^ cs.length := by
  have value := digitsValue_lastDigits cs.length (digitsValue cs)
  rw [lastDigits_digitsValue digits] at value
  rw [value]
  exact Nat.mod_lt _ (Nat.pow_pos (by decide))

-- Characters cut off at the end

/-- Without the zeros at the end of a text, and without a point that is left at the end. -/
def trimFraction (cs : List Char) : List Char :=
  if '.' ∈ cs then (cs.rdropWhile (· == '0')).rdropWhile (· == '.') else cs

theorem rdropWhile_append_cons {p : Char → Bool} (front : List Char) (stops : p c = false)
    (cs : List Char)
    : (front ++ c :: cs).rdropWhile p = front ++ c :: cs.rdropWhile p := by
  induction cs using List.reverseRecOn with
  | nil => exact List.rdropWhile_concat_neg _ _ _ (by simp [stops])
  | append_singleton cs d ih =>
    have parts : front ++ c :: (cs ++ [d]) = (front ++ c :: cs) ++ [d] := by simp
    rw [parts]
    by_cases dropped : p d
    · rw [List.rdropWhile_concat_pos _ _ _ dropped, List.rdropWhile_concat_pos _ _ _ dropped, ih]
    · rw [List.rdropWhile_concat_neg _ _ _ dropped, List.rdropWhile_concat_neg _ _ _ dropped, parts]

theorem rdropWhile_of_forall {p : Char → Bool} (none : ∀ c ∈ cs, p c = false)
    : cs.rdropWhile p = cs :=
  List.rdropWhile_eq_self_iff.mpr fun nonempty => by simp [none _ (List.getLast_mem nonempty)]

-- Written numbers

/-- The parts of a written number. -/
structure Written where
  negative : Bool
  whole : Nat
  /-- The digits behind the point; there is no point without them. -/
  fraction : List Char
  /-- The exponent in scientific notation. -/
  exponent : Option Int

namespace Written

/-- A point and the digits behind it. -/
def pointed (fraction : List Char) : List Char :=
  if fraction = [] then [] else '.' :: fraction

/-- An `E`, a sign and at least two digits. -/
def marked : Option Int → List Char
  | none => []
  | some exponent =>
    'E' :: (if exponent < 0 then '-' else '+') :: (padded 2 exponent.natAbs).toList

/-- The sign and the digits in front of the point. -/
def front (w : Written) : List Char :=
  (if w.negative then ['-'] else []) ++ Nat.toDigits 10 w.whole

/-- What stands in front of the exponent. -/
def mantissa (w : Written) : List Char :=
  w.front ++ pointed w.fraction

def text (w : Written) : String :=
  String.ofList (w.mantissa ++ marked w.exponent)

/-- The number without its sign. -/
def size (w : Written) : ℚ :=
  (w.whole + digitsValue w.fraction / 10 ^ w.fraction.length) * 10 ^ w.exponent.getD 0

/-- The number that is written. -/
def value (w : Written) : ℚ :=
  if w.negative then -w.size else w.size

/-- The fraction consists of digits, the last of which is not zero. -/
structure Tidy (w : Written) : Prop where
  digits : ∀ c ∈ w.fraction, c.isDigit
  last : w.fraction.getLast? ≠ some '0'

-- There is one tidy way

variable {w w' : Written}

/-- The number without its sign and its exponent, in units of the last digit. -/
def units (w : Written) : Nat :=
  w.whole * 10 ^ w.fraction.length + digitsValue w.fraction

theorem size_eq (w : Written)
    : w.size = w.units / 10 ^ w.fraction.length * 10 ^ w.exponent.getD 0 := by
  have power : (10 : ℚ) ^ w.fraction.length ≠ 0 := by positivity
  rw [size, units]
  push_cast
  rw [add_div, mul_div_cancel_right₀ _ power]

theorem Tidy.units_mod_ten (h : w.Tidy) (some_ : w.fraction ≠ []) : w.units % 10 ≠ 0 := by
  obtain ⟨others, c, parts⟩ := (List.eq_nil_or_concat w.fraction).resolve_left some_
  rw [List.concat_eq_append] at parts
  have notZero : c ≠ '0' := by
    rintro rfl
    exact h.last (by rw [parts, List.getLast?_concat])
  obtain ⟨low, _, zero⟩ := digitChar_of_isDigit (h.digits c (by rw [parts]; simp))
  have digit : c.toNat - '0'.toNat ≠ 0 := fun none => notZero (zero.mp none)
  rw [units, parts, List.length_append, List.length_singleton, digitsValue_concat, Nat.pow_succ,
    ← Nat.mul_assoc]
  omega

/-- A tidy fraction is no longer than any other of the same number. -/
theorem Tidy.length_le (h : w.Tidy)
    (same : w.units * 10 ^ w'.fraction.length = w'.units * 10 ^ w.fraction.length)
    : w.fraction.length ≤ w'.fraction.length := by
  by_contra longer
  -- With more digits than the other the number ends in a zero.
  obtain ⟨extra, more⟩ := Nat.exists_eq_add_of_lt (Nat.not_le.mp longer)
  have multiple : w.units = w'.units * 10 ^ extra * 10 := by
    have power : 0 < 10 ^ w'.fraction.length := Nat.pow_pos (by decide)
    refine Nat.eq_of_mul_eq_mul_right power ?_
    rw [same, more, Nat.pow_succ, Nat.pow_add]
    ring
  refine h.units_mod_ten (fun none => ?_) (by omega)
  rw [none] at more
  cases more

/-- The number as an integer tells all digits, if their number is known. -/
theorem digits_of_units (digits : ∀ c ∈ w.fraction, c.isDigit)
    (digits' : ∀ c ∈ w'.fraction, c.isDigit)
    (length : w.fraction.length = w'.fraction.length) (units : w.units = w'.units)
    : w.whole = w'.whole ∧ w.fraction = w'.fraction := by
  have low := digitsValue_lt digits
  have low' := digitsValue_lt digits'
  rw [Written.units, Written.units, length] at units
  rw [length] at low
  have wholes : w.whole = w'.whole := by
    have quotient := congrArg (· / 10 ^ w'.fraction.length) units
    simpa [Nat.add_div_of_dvd_right, Nat.div_eq_of_lt low, Nat.div_eq_of_lt low'] using quotient
  rw [wholes] at units
  refine ⟨wholes, ?_⟩
  rw [← lastDigits_digitsValue digits, ← lastDigits_digitsValue digits', length,
    Nat.add_left_cancel units]

theorem Tidy.eq_of_value (h : w.Tidy) (h' : w'.Tidy) (sign : w.negative = w'.negative)
    (exponent : w.exponent = w'.exponent) (same : w.value = w'.value)
    : w = w' := by
  have sizes : w.size = w'.size := by
    rw [value, value, sign] at same
    split at same
    · exact neg_inj.mp same
    · exact same
  have cross : w.units * 10 ^ w'.fraction.length = w'.units * 10 ^ w.fraction.length := by
    rw [size_eq, size_eq, exponent] at sizes
    have quotients := mul_right_cancel₀ (power_pos _).ne' sizes
    rw [div_eq_div_iff (by positivity) (by positivity)] at quotients
    exact_mod_cast quotients
  have length := Nat.le_antisymm (h.length_le cross) (h'.length_le cross.symm)
  rw [length] at cross
  have units := Nat.eq_of_mul_eq_mul_right (Nat.pow_pos (by decide)) cross
  obtain ⟨whole, fraction⟩ := digits_of_units h.digits h'.digits length units
  cases w
  cases w'
  simp_all

-- Zeros at the end of a fraction

/-- The same number without zeros at the end of its fraction. -/
def trimmed (w : Written) : Written :=
  { w with fraction := w.fraction.rdropWhile (· == '0') }

theorem tidy_trimmed (digits : ∀ c ∈ w.fraction, c.isDigit) : w.trimmed.Tidy := by
  refine ⟨fun c mem => digits c ((List.rdropWhile_prefix _ _).subset mem), fun last => ?_⟩
  obtain ⟨others, ended⟩ := List.getLast?_eq_some_iff.mp last
  have nonempty : w.fraction.rdropWhile (· == '0') ≠ [] := by
    intro none
    simp [trimmed, none] at ended
  refine List.rdropWhile_last_not (· == '0') w.fraction nonempty ?_
  simp only [trimmed] at ended
  simp [ended]

/-- Zeros at the end of a fraction count nothing, by induction from the last digit on. -/
theorem digitsValue_rdropWhile (fraction : List Char)
    : (digitsValue (fraction.rdropWhile (· == '0')) : ℚ)
        / 10 ^ (fraction.rdropWhile (· == '0')).length
      = digitsValue fraction / 10 ^ fraction.length := by
  induction fraction using List.reverseRecOn with
  | nil => rfl
  | append_singleton fraction c ih =>
    by_cases zero : c = '0'
    · subst zero
      rw [List.rdropWhile_concat_pos _ _ _ (by decide), ih, digitsValue_concat, Nat.sub_self,
        List.length_append, List.length_singleton, pow_succ]
      push_cast
      field_simp
      ring
    · rw [List.rdropWhile_concat_neg _ _ _ (by simpa using zero)]

theorem size_trimmed (w : Written) : w.trimmed.size = w.size := by
  simp only [size, trimmed, digitsValue_rdropWhile]

theorem ne_point_of_mem_front (mem : c ∈ w.front) : (c == '.') = false := by
  rcases List.mem_append.mp mem with mem | mem
  · split at mem
    · obtain rfl := List.mem_singleton.mp mem
      rfl
    · cases mem
  · refine beq_false_of_ne ?_
    rintro rfl
    cases isDigit_of_mem_toDigits mem

/-- Zeros are cut off behind the point only: a text without a point stays as it is, and in others
the point ends the zeros.
-/
theorem trimFraction_mantissa (digits : ∀ c ∈ w.fraction, c.isDigit)
    : trimFraction w.mantissa = w.trimmed.mantissa := by
  have point : '.' ∉ w.front := fun mem => absurd (ne_point_of_mem_front mem) (by decide)
  have mantissa_trimmed : w.trimmed.mantissa
      = w.front ++ pointed (w.fraction.rdropWhile (· == '0')) := rfl
  rw [mantissa, mantissa_trimmed]
  rcases eq_or_ne w.fraction [] with none | some_
  · rw [none]
    simp [trimFraction, pointed, point]
  · rw [pointed, if_neg some_, trimFraction, if_pos (by simp), rdropWhile_append_cons _ (by decide)]
    -- Without a digit left behind it, the point goes too.
    by_cases none : w.fraction.rdropWhile (· == '0') = []
    · rw [none, List.rdropWhile_concat_pos _ _ _ (by decide),
        rdropWhile_of_forall fun _ => ne_point_of_mem_front, pointed, if_pos rfl, List.append_nil]
    · obtain ⟨others, last, parts⟩ := (List.eq_nil_or_concat _).resolve_left none
      rw [List.concat_eq_append] at parts
      have digit : last.isDigit := (tidy_trimmed digits).digits last (by simp [trimmed, parts])
      have notPoint : (last == '.') = false := by
        refine beq_false_of_ne ?_
        rintro rfl
        cases digit
      have ended : w.front ++ '.' :: (others ++ [last]) = (w.front ++ '.' :: others) ++ [last] := by
        simp
      rw [pointed, if_neg none, parts, ended, List.rdropWhile_concat_neg]
      exact ne_true_of_eq_false notPoint

-- A whole number with its point moved

/-- So many of the digits stand behind the point. -/
def shifted (negative : Bool) (digits places : Nat) (exponent : Option Int) : Written :=
  ⟨negative, digits / 10 ^ places, lastDigits places digits, exponent⟩

variable {negative : Bool} {digits places : Nat} {exponent : Option Int}

theorem size_shifted
    : (shifted negative digits places exponent).size
      = digits / 10 ^ places * 10 ^ exponent.getD 0 := by
  have units : (shifted negative digits places exponent).units = digits := by
    rw [Written.units, shifted]
    dsimp only
    rw [length_lastDigits, digitsValue_lastDigits, Nat.div_add_mod']
  rw [size_eq, units, shifted, length_lastDigits]

theorem tidy_shifted (noZero : places = 0 ∨ digits % 10 ≠ 0)
    : (shifted negative digits places exponent).Tidy := by
  refine ⟨fun _ => isDigit_of_mem_lastDigits, fun last => ?_⟩
  cases places with
  | zero => cases last
  | succ places =>
    rw [shifted, lastDigits, List.getLast?_concat, Option.some.injEq] at last
    have zero : ∀ d : Fin 10, d.val.digitChar = '0' → d.val = 0 := by decide
    have none := zero ⟨digits % 10, Nat.mod_lt _ (by decide)⟩ last
    simp_all

end Written

-- Reading

/-- The number that a text denotes as a numeral behind an optional minus sign. -/
def denoted? (text : String) : Option ℚ :=
  match text.toList with
  | '-' :: cs => (ofChars? cs).map fun d => -d.value
  | cs => (ofChars? cs).map Decimal.value

theorem padded_eq (width n : Nat)
    : (padded width n).toList
      = List.replicate (width - (Nat.toDigits 10 n).length) '0' ++ Nat.toDigits 10 n := by
  simp [padded, digitText]

namespace Written

open Text

variable {fraction : List Char}

theorem stopsAt_marked (exponent : Option Int) : StopsAt Char.isDigit (marked exponent) := by
  cases exponent with
  | none => exact nofun
  | some exponent => exact stopsAt_cons rfl

theorem stopsAt_pointed (fraction : List Char) (exponent : Option Int)
    : StopsAt Char.isDigit (pointed fraction ++ marked exponent) := by
  rw [pointed]
  split
  · exact stopsAt_marked exponent
  · exact stopsAt_cons rfl

theorem exponent?_marked (exponent : Option Int)
    : exponent? (marked exponent) = some (exponent.getD 0) := by
  cases exponent with
  | none => rfl
  | some exponent =>
    obtain ⟨digits, isDigits⟩ : ∃ digits, digits = (padded 2 exponent.natAbs).toList := ⟨_, rfl⟩
    have value : digitsValue digits = exponent.natAbs := by
      rw [isDigits, padded_eq, digitsValue_append, digitsValue_zeros, digitsValue_toDigits]
      simp
    have accepted : (digits.isEmpty || !digits.all Char.isDigit) = false := by
      rw [isDigits, padded_eq]
      simpa [Nat.toDigits_ne_nil] using fun c => isDigit_of_mem_toDigits
    rw [marked, ← isDigits]
    rcases lt_or_ge exponent 0 with negative | nonneg
    · simp only [exponent?, if_pos negative, accepted, value]
      simp [abs_of_neg negative]
    · simp only [exponent?, if_neg (not_lt.mpr nonneg), accepted, value]
      simp [abs_of_nonneg nonneg]

theorem splitFraction_pointed (digits : ∀ c ∈ fraction, c.isDigit) (exponent : Option Int)
    : splitFraction (pointed fraction ++ marked exponent) = (fraction, marked exponent) := by
  rw [pointed]
  split
  · next none =>
    subst none
    cases exponent <;> rfl
  · have stops := stopsAt_marked exponent
    rw [List.cons_append, splitFraction, splitDigits, takeWhile_run digits stops,
      dropWhile_run digits stops]

theorem ofChars?_unsigned (whole : Nat) (digits : ∀ c ∈ fraction, c.isDigit) (exponent : Option Int)
    : ofChars? (Nat.toDigits 10 whole ++ (pointed fraction ++ marked exponent))
      = some ⟨whole * 10 ^ fraction.length + digitsValue fraction,
        exponent.getD 0 - fraction.length⟩ := by
  have run : ∀ c ∈ Nat.toDigits 10 whole, c.isDigit := fun _ => isDigit_of_mem_toDigits
  have stops := stopsAt_pointed fraction exponent
  rw [ofChars?, splitDigits, takeWhile_run run stops, dropWhile_run run stops]
  simp only [splitFraction_pointed digits, exponent?_marked, digitsValue_append,
    digitsValue_toDigits]
  simp [Nat.toDigits_ne_nil]

/-- What is written is read back. -/
theorem denoted?_text {w : Written} (digits : ∀ c ∈ w.fraction, c.isDigit)
    : denoted? w.text = some w.value := by
  have read := ofChars?_unsigned w.whole digits w.exponent
  have size : Decimal.value ⟨w.units, w.exponent.getD 0 - w.fraction.length⟩ = w.size := by
    rw [size_eq, Decimal.value, zpow_sub₀ (by norm_num), zpow_natCast]
    ring
  obtain ⟨c, cs, first, digit⟩ := exists_toDigits w.whole
  have noSign : c ≠ '-' := by
    rintro rfl
    cases digit
  rw [denoted?, text, mantissa, front, String.toList_ofList, value]
  cases w.negative with
  | true =>
    change (ofChars? (Nat.toDigits 10 w.whole ++ pointed w.fraction ++ marked w.exponent)).map _ = _
    rw [List.append_assoc, read]
    exact congrArg (fun q => some (-q)) size
  | false =>
    rw [if_neg Bool.false_ne_true, if_neg Bool.false_ne_true, List.nil_append, List.append_assoc]
    split
    · next cs signed =>
      rw [first] at signed
      cases signed
      exact absurd rfl noSign
    · rw [read]
      exact congrArg some size

end Written

end Spreadsheet.Number
