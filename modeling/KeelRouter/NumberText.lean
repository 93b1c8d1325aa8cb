import KeelRouter.ExactFloat
import Mathlib.Data.List.TakeWhile
import Mathlib.Tactic.Ring

/-!
# Numbers in text

The conversions of decimal text to unsigned integers and to floating point
numbers.  An integer has digits after an optional plus sign and must fit; a
number has digits on one side of an optional point and an optional exponent,
and the special values are spelled in any case.
-/

namespace NumberText

def digitsValue (digits : List Char) : Nat := Nat.ofDigitChars 10 digits 0

/-- `text.parse::<u32>()` -/
def parseUInt32 (text : List Char) : Option UInt32 :=
  let digits := match text with
    | '+' :: rest => rest
    | _ => text
  if digits.isEmpty || !digits.all Char.isDigit then none
  else if digitsValue digits < 2 ^ 32 then some (UInt32.ofNat (digitsValue digits))
  else none

/-- A number times ten to a power. -/
def scaled (mantissa : Nat) (exponent : ℤ) : ℚ :=
  if 0 ≤ exponent then mantissa * 10 ^ exponent.toNat else mantissa / 10 ^ (-exponent).toNat

/-- The exponent that ends a number, zero when there is none. -/
def parseExponent : List Char → Option ℤ
  | [] => some 0
  | marker :: text =>
      if marker ≠ 'e' then none
      else
        let (negative, digits) := match text with
          | '-' :: digits => (true, digits)
          | '+' :: digits => (false, digits)
          | digits => (false, digits)
        if digits.isEmpty || !digits.all Char.isDigit then none
        else some (if negative then -digitsValue digits else digitsValue digits)

def parseDecimal (text : List Char) : Option ℚ :=
  let whole := text.takeWhile Char.isDigit
  let (fraction, rest) := match text.dropWhile Char.isDigit with
    | '.' :: rest => (rest.takeWhile Char.isDigit, rest.dropWhile Char.isDigit)
    | rest => ([], rest)
  if whole.isEmpty && fraction.isEmpty then none
  else (parseExponent rest).map fun exponent =>
    scaled (digitsValue (whole ++ fraction)) (exponent - fraction.length)

/-- `text.parse::<f64>()` -/
def parseFloat (text : List Char) : Option ExactFloat :=
  let (negative, unsigned) := match text with
    | '-' :: rest => (true, rest)
    | '+' :: rest => (false, rest)
    | _ => (false, text)
  let lower := unsigned.map Char.toLower
  let magnitude :=
    if lower = "inf".toList ∨ lower = "infinity".toList then some .posInf
    else if lower = "nan".toList then some .nan
    else (parseDecimal lower).map .finite
  magnitude.map fun value => if negative then -value else value

example : parseFloat "-1.5e3".toList = some (.finite (-1500)) := by decide +kernel

/-! ## Plain digits -/

theorem toLower_of_isDigit {char : Char} (digit : char.isDigit = true) : char.toLower = char := by
  unfold Char.toLower
  have range : 48 ≤ char.val ∧ char.val ≤ 57 := by
    simpa [Char.isDigit, Bool.and_eq_true] using digit
  have notUpper : ¬ (char.val ≥ 'A'.val ∧ char.val ≤ 'Z'.val) := by
    rintro ⟨upper, -⟩
    exact absurd (UInt32.le_trans upper range.2) (by decide)
  rw [dif_neg notUpper]

theorem parseDecimal_of_digits {digits : List Char} (nonempty : digits ≠ [])
    (all : ∀ char ∈ digits, char.isDigit = true) :
    parseDecimal digits = some (digitsValue digits : ℚ) := by
  have whole : digits.takeWhile Char.isDigit = digits := List.takeWhile_eq_self_iff.mpr all
  have rest : digits.dropWhile Char.isDigit = [] := List.dropWhile_eq_nil_iff.mpr all
  have spelled : digits.isEmpty = false := by simpa using nonempty
  unfold parseDecimal
  rw [rest, whole]
  simp [spelled, parseExponent, scaled]

theorem parseFloat_of_digits {digits : List Char} (nonempty : digits ≠ [])
    (all : ∀ char ∈ digits, char.isDigit = true) :
    parseFloat digits = some (.finite (digitsValue digits)) := by
  have lower : digits.map Char.toLower = digits := by
    conv_rhs => rw [← List.map_id digits]
    exact List.map_congr_left fun char member => toLower_of_isDigit (all char member)
  have special {word : List Char} (spelled : word.any (fun char => !char.isDigit) = true) :
      digits ≠ word := by
    rintro rfl
    obtain ⟨char, member, other⟩ := List.any_eq_true.mp spelled
    rw [all char member] at other
    cases other
  unfold parseFloat
  split
  rename_i negative unsigned signed
  split at signed
  · exact absurd (all '-' List.mem_cons_self) (by decide)
  · exact absurd (all '+' List.mem_cons_self) (by decide)
  · obtain ⟨rfl, rfl⟩ := Prod.mk.inj signed
    dsimp only
    rw [lower, if_neg (not_or.mpr ⟨special (by decide), special (by decide)⟩),
      if_neg (special (by decide)), parseDecimal_of_digits nonempty all]
    rfl

/-- The decimal digits of a number are read back. -/
theorem parseFloat_toDigits (value : ℕ) :
    parseFloat (Nat.toDigits 10 value) = some (.finite value) := by
  have digits : ∀ char ∈ Nat.toDigits 10 value, char.isDigit = true :=
    fun _ member => Nat.isDigit_of_mem_toDigits (by decide) (by decide) member
  rw [parseFloat_of_digits Nat.toDigits_ne_nil digits, digitsValue,
    Nat.ofDigitChars_toDigits (by decide) (by decide)]

/-! ## Fixed decimals -/

/-- The last digits of a number. -/
def lastDigits : ℕ → ℕ → List Char
  | 0, _ => []
  | places + 1, value => lastDigits places (value / 10) ++ [Nat.digitChar (value % 10)]

/-- A number of units of the last decimal place. -/
def fixedText (places units : ℕ) : List Char :=
  Nat.toDigits 10 (units / 10 ^ places) ++ '.' :: lastDigits places units

theorem length_lastDigits (places value : ℕ) : (lastDigits places value).length = places := by
  induction places generalizing value with
  | zero => rfl
  | succ places ih => simp [lastDigits, ih]

theorem isDigit_of_mem_lastDigits {places value : ℕ} {char : Char}
    (member : char ∈ lastDigits places value) : char.isDigit = true := by
  induction places generalizing value with
  | zero => cases member
  | succ places ih =>
      rcases List.mem_append.mp member with earlier | last
      · exact ih earlier
      · rw [List.mem_singleton.mp last]
        rw [Nat.isDigit_digitChar]
        exact decide_eq_true (Nat.mod_lt value (by decide))

theorem ofDigitChars_lastDigits (places value start : ℕ) :
    Nat.ofDigitChars 10 (lastDigits places value) start =
      start * 10 ^ places + value % 10 ^ places := by
  induction places generalizing value with
  | zero => simp [lastDigits, Nat.mod_one]
  | succ places ih =>
      rw [lastDigits, Nat.ofDigitChars_append, ih,
        Nat.ofDigitChars_cons_digitChar_of_lt_ten (Nat.mod_lt value (by decide)),
        Nat.ofDigitChars_nil, Nat.pow_succ', Nat.mod_mul]
      ring

/-- Both parts of a decimal are read. -/
theorem parseDecimal_fixedText (places units : ℕ) :
    parseDecimal (fixedText places units) = some ((units : ℚ) / 10 ^ places) := by
  have whole : ∀ char ∈ Nat.toDigits 10 (units / 10 ^ places), char.isDigit = true :=
    fun _ member => Nat.isDigit_of_mem_toDigits (by decide) (by decide) member
  have fraction : ∀ char ∈ lastDigits places units, char.isDigit = true :=
    fun _ member => isDigit_of_mem_lastDigits member
  have taken : (fixedText places units).takeWhile Char.isDigit =
      Nat.toDigits 10 (units / 10 ^ places) := by
    rw [fixedText, List.takeWhile_append_of_pos whole]
    simp
  have dropped : (fixedText places units).dropWhile Char.isDigit =
      '.' :: lastDigits places units := by
    rw [fixedText, List.dropWhile_append_of_pos whole]
    simp
  have value : digitsValue (Nat.toDigits 10 (units / 10 ^ places) ++ lastDigits places units) =
      units := by
    rw [digitsValue, Nat.ofDigitChars_append, Nat.ofDigitChars_ten_toDigits,
      ofDigitChars_lastDigits, Nat.div_add_mod']
  have spelled : (Nat.toDigits 10 (units / 10 ^ places)).isEmpty = false := by
    rw [List.isEmpty_eq_false_iff]
    exact Nat.toDigits_ne_nil
  unfold parseDecimal
  simp only [taken, dropped, List.takeWhile_eq_self_iff.mpr fraction,
    List.dropWhile_eq_nil_iff.mpr fraction, value, spelled, length_lastDigits, Bool.false_and,
    Bool.false_eq_true, if_false, parseExponent, Option.map_some, Option.some.injEq]
  cases places with
  | zero => simp [scaled]
  | succ places =>
      have negative : ¬ (0 : ℤ) ≤ 0 - ((places + 1 : ℕ) : ℤ) := by omega
      have size : (-(0 - ((places + 1 : ℕ) : ℤ))).toNat = places + 1 := by omega
      rw [scaled, if_neg negative, size]

/-- A decimal is read back, with its sign. -/
theorem parseFloat_fixedText (negative : Bool) (places units : ℕ) :
    parseFloat ((if negative then ['-'] else []) ++ fixedText places units) =
      some (if negative then -.finite (units / 10 ^ places) else .finite (units / 10 ^ places)) := by
  have chars : ∀ char ∈ fixedText places units, char = '.' ∨ char.isDigit = true := by
    intro char member
    rcases List.mem_append.mp member with whole | rest
    · exact .inr (Nat.isDigit_of_mem_toDigits (by decide) (by decide) whole)
    · rcases List.mem_cons.mp rest with point | fraction
      · exact .inl point
      · exact .inr (isDigit_of_mem_lastDigits fraction)
  have lower : (fixedText places units).map Char.toLower = fixedText places units := by
    conv_rhs => rw [← List.map_id (fixedText places units)]
    apply List.map_congr_left
    intro char member
    rcases chars char member with rfl | digit
    · rfl
    · exact toLower_of_isDigit digit
  have point : '.' ∈ fixedText places units :=
    List.mem_append_right _ List.mem_cons_self
  have special {word : List Char} (spelled : '.' ∉ word) : fixedText places units ≠ word := by
    rintro rfl
    exact spelled point
  have unsigned : ∀ sign rest, fixedText places units = sign :: rest → sign.isDigit = true := by
    intro sign rest starts
    obtain ⟨first, others, digits⟩ := List.exists_cons_of_ne_nil
      (Nat.toDigits_ne_nil : Nat.toDigits 10 (units / 10 ^ places) ≠ [])
    rw [fixedText, digits, List.cons_append] at starts
    rw [← (List.cons.inj starts).1]
    apply Nat.isDigit_of_mem_toDigits (b := 10) (by decide) (by decide)
    rw [digits]
    exact List.mem_cons_self
  have magnitude : (if fixedText places units = "inf".toList ∨
        fixedText places units = "infinity".toList then some ExactFloat.posInf
      else if fixedText places units = "nan".toList then some .nan
      else (parseDecimal (fixedText places units)).map .finite) =
        some (.finite (units / 10 ^ places)) := by
    rw [if_neg (not_or.mpr ⟨special (by decide), special (by decide)⟩),
      if_neg (special (by decide)), parseDecimal_fixedText]
    rfl
  cases negative with
  | true =>
      unfold parseFloat
      simp only [if_true, List.singleton_append, lower, magnitude, Option.map_some]
  | false =>
      unfold parseFloat
      simp only [Bool.false_eq_true, if_false, List.nil_append]
      split
      · rename_i starts
        exact absurd (unsigned _ _ starts) (by decide)
      · rename_i starts
        exact absurd (unsigned _ _ starts) (by decide)
      · simp only [lower, magnitude, Option.map_some, Bool.false_eq_true, if_false]

/-! ## The characters of a number -/

def isDecimalChar (char : Char) : Bool :=
  char.isDigit || char = '.' || char = 'e' || char = '+' || char = '-'

/-- The characters of a number and of the special values, in any case. -/
def isFloatChar (char : Char) : Bool :=
  isDecimalChar char.toLower || "infatyn".toList.contains char.toLower

theorem isDecimalChar_of_isDigit {char : Char} (digit : char.isDigit = true) :
    isDecimalChar char = true := by
  simp [isDecimalChar, digit]

theorem isDecimalChar_of_digits {digits : List Char}
    (valid : (digits.isEmpty || !digits.all Char.isDigit) = false) :
    ∀ char ∈ digits, isDecimalChar char = true := by
  intro char member
  have allDigits : digits.all Char.isDigit = true := by
    simpa using (Bool.or_eq_false_iff.mp valid).2
  exact isDecimalChar_of_isDigit (List.all_eq_true.mp allDigits char member)

theorem isDecimalChar_of_parseExponent {text : List Char} {exponent : ℤ}
    (parsed : parseExponent text = some exponent) : ∀ char ∈ text, isDecimalChar char = true := by
  unfold parseExponent at parsed
  split at parsed
  · simp
  · rename_i marker text
    split at parsed
    · cases parsed
    · rename_i isMarker
      obtain rfl : marker = 'e' := not_not.mp isMarker
      intro char member
      rcases List.mem_cons.mp member with rfl | later
      · rfl
      · split at parsed
        rename_i negative digits signed
        split at parsed
        · cases parsed
        · rename_i valid
          have digitChars := isDecimalChar_of_digits (Bool.eq_false_iff.mpr valid)
          split at signed
          · obtain ⟨-, rfl⟩ := Prod.mk.inj signed
            exact List.forall_mem_cons.mpr ⟨by decide, digitChars⟩ char later
          · obtain ⟨-, rfl⟩ := Prod.mk.inj signed
            exact List.forall_mem_cons.mpr ⟨by decide, digitChars⟩ char later
          · obtain ⟨-, rfl⟩ := Prod.mk.inj signed
            exact digitChars char later

theorem isDecimalChar_of_takeWhile (text : List Char) :
    ∀ char ∈ text.takeWhile Char.isDigit, isDecimalChar char = true := by
  intro char member
  have digits := List.all_takeWhile (p := Char.isDigit) (l := text)
  exact isDecimalChar_of_isDigit (List.all_eq_true.mp digits char member)

theorem mem_takeWhile_or_dropWhile {text : List Char} {char : Char} (member : char ∈ text) :
    char ∈ text.takeWhile Char.isDigit ∨ char ∈ text.dropWhile Char.isDigit := by
  rw [← List.mem_append, List.takeWhile_append_dropWhile]
  exact member

theorem isDecimalChar_of_parseDecimal {text : List Char} {value : ℚ}
    (parsed : parseDecimal text = some value) : ∀ char ∈ text, isDecimalChar char = true := by
  intro char member
  rcases mem_takeWhile_or_dropWhile member with whole | member
  · exact isDecimalChar_of_takeWhile text char whole
  · unfold parseDecimal at parsed
    dsimp only at parsed
    split at parsed
    · rename_i after point
      rw [point] at member
      split at parsed
      · cases parsed
      · obtain ⟨exponent, parsedExponent, -⟩ := Option.map_eq_some_iff.mp parsed
        rcases List.mem_cons.mp member with rfl | member
        · rfl
        · rcases mem_takeWhile_or_dropWhile member with fraction | member
          · exact isDecimalChar_of_takeWhile after char fraction
          · exact isDecimalChar_of_parseExponent parsedExponent char member
    · split at parsed
      · cases parsed
      · obtain ⟨exponent, parsedExponent, -⟩ := Option.map_eq_some_iff.mp parsed
        exact isDecimalChar_of_parseExponent parsedExponent char member

/-- What `parseFloat` makes of a text without its sign. -/
theorem isFloatChar_of_unsigned {text : List Char} {value : ExactFloat}
    (parsed : (if text.map Char.toLower = "inf".toList ∨
        text.map Char.toLower = "infinity".toList then some ExactFloat.posInf
      else if text.map Char.toLower = "nan".toList then some .nan
      else (parseDecimal (text.map Char.toLower)).map .finite) = some value) :
    ∀ char ∈ text, isFloatChar char = true := by
  have special {word : List Char}
      (listed : word = "inf".toList ∨ word = "infinity".toList ∨ word = "nan".toList) :
      ∀ char ∈ word, (isDecimalChar char || "infatyn".toList.contains char) = true := by
    rw [← List.all_eq_true]
    rcases listed with rfl | rfl | rfl <;> decide
  intro char member
  have lower := List.mem_map_of_mem (f := Char.toLower) member
  split at parsed
  · rename_i infinite
    rcases infinite with short | long
    · exact special (.inl short) _ lower
    · exact special (.inr (.inl long)) _ lower
  · split at parsed
    · rename_i notNumber
      exact special (.inr (.inr notNumber)) _ lower
    · obtain ⟨decimal, parsedDecimal, -⟩ := Option.map_eq_some_iff.mp parsed
      rw [isFloatChar, isDecimalChar_of_parseDecimal parsedDecimal _ lower, Bool.true_or]

theorem isFloatChar_of_parseFloat {text : List Char} {value : ExactFloat}
    (parsed : parseFloat text = some value) : ∀ char ∈ text, isFloatChar char = true := by
  unfold parseFloat at parsed
  split at parsed
  rename_i negative unsigned signed
  obtain ⟨magnitude, parsed, -⟩ := Option.map_eq_some_iff.mp parsed
  have unsignedChars := isFloatChar_of_unsigned parsed
  split at signed
  · obtain ⟨-, rfl⟩ := Prod.mk.inj signed
    exact List.forall_mem_cons.mpr ⟨by decide, unsignedChars⟩
  · obtain ⟨-, rfl⟩ := Prod.mk.inj signed
    exact List.forall_mem_cons.mpr ⟨by decide, unsignedChars⟩
  · obtain ⟨-, rfl⟩ := Prod.mk.inj signed
    exact unsignedChars

/-- A text with a character that no number has is no number. -/
theorem parseFloat_eq_none {text : List Char} {char : Char} (member : char ∈ text)
    (other : isFloatChar char = false) : parseFloat text = none := by
  cases parsed : parseFloat text with
  | none => rfl
  | some value =>
      rw [isFloatChar_of_parseFloat parsed char member] at other
      cases other

end NumberText
