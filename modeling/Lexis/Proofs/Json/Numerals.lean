import Lexis.Json.Writer
import Lexis.Proofs.Json.Reader
import Lexis.Proofs.Number.Integers
import Lexis.Proofs.Text.Runs

/-!
# Numerals read back

Whichever layout a decimal is given, its text consists of digits before the point, digits behind it
and an exponent, and the last two may be missing. A reader that comes to such a text takes all of it
and finds the number that the decimal stands for.
-/

namespace Lexis.Json

/-- A number without a sign, as it is written. -/
structure NumberText where
  /-- The digits before the point. -/
  whole : List Char
  /-- The digits behind the point. Without any, there is no point. -/
  fraction : List Char
  /-- The exponent of ten, if one is given. -/
  power : Option ℤ

/-- What may follow a number: nothing that could belong to it. -/
def EndsNumber (rest : List Char) : Prop :=
  ∀ c ∈ rest.head?, c.isDigit = false ∧ c ≠ '.' ∧ c ≠ 'e' ∧ c ≠ 'E'

namespace NumberText

/-- The point and the digits behind it. -/
def fractionText (n : NumberText) : List Char :=
  match n.fraction with
  | [] => []
  | digits => '.' :: digits

/-- With digits behind the point, there is a point. -/
theorem fractionText_of_ne_nil {whole fraction : List Char} {power : Option ℤ}
    (h : fraction ≠ []) : (mk whole fraction power).fractionText = '.' :: fraction := by
  cases fraction with
  | nil => exact absurd rfl h
  | cons c digits => rfl

/-- The exponent behind its mark. -/
def powerText (n : NumberText) : List Char :=
  match n.power with
  | none => []
  | some power => 'e' :: (if power < 0 then '-' else '+') :: Nat.toDigits 10 power.natAbs

/-- The text of the number. -/
def text (n : NumberText) : List Char :=
  n.whole ++ n.fractionText ++ n.powerText

/-- The number that the text stands for. -/
def value (n : NumberText) : ℚ :=
  Nat.ofDigitChars 10 (n.whole ++ n.fraction) 0 * 10 ^ (n.power.getD 0 - n.fraction.length)

/-- The text of the number is valid: it has digits, and they begin with a zero only if no other
digit stands before the point. -/
structure Valid (n : NumberText) : Prop where
  /-- There is a digit before the point. -/
  whole : n.whole ≠ []
  /-- All digits are digits. -/
  digits : ∀ c ∈ n.whole ++ n.fraction, c.isDigit = true
  /-- The first of several digits is not zero. -/
  leading : n.whole.head? = some '0' → n.whole.length = 1

end NumberText

/-- A run of digits is taken as a whole. -/
theorem digits?_append {digits rest : List Char} (hne : digits ≠ [])
    (h : Text.IsRun Char.isDigit digits rest) : digits? (digits ++ rest) = some (digits, rest) := by
  simp [digits?, h.takeWhile_eq, h.dropWhile_eq, hne]

/-- No digits of a number begin with a zero, unless it is zero. -/
theorem head?_toDigits {n : ℕ} (hn : n ≠ 0) : (Nat.toDigits 10 n).head? ≠ some '0' := by
  induction n using Nat.strong_induction_on with
  | _ n ih =>
    rcases Nat.lt_or_ge n 10 with hsmall | hlarge
    · simpa [Nat.toDigits_of_lt_base hsmall] using hn
    · rw [Nat.toDigits_of_base_le (by decide) hlarge,
        List.head?_append_of_ne_nil _ Nat.toDigits_ne_nil]
      exact ih (n / 10) (by omega) (by omega)

/-- A run of digits ends before what does not belong to a number. -/
theorem EndsNumber.isRun {digits rest : List Char} (hdigits : ∀ c ∈ digits, c.isDigit = true)
    (hrest : EndsNumber rest) : Text.IsRun Char.isDigit digits rest :=
  ⟨hdigits, fun c hc => (hrest c hc).1⟩

/-- The digits of a count are read back. -/
theorem digits?_toDigits (n : ℕ) {rest : List Char} (hrest : EndsNumber rest) :
    digits? (Nat.toDigits 10 n ++ rest) = some (Nat.toDigits 10 n, rest) :=
  digits?_append Nat.toDigits_ne_nil
    (hrest.isRun fun _ => Nat.isDigit_of_mem_toDigits (by decide) (by decide))

/-- An exponent is read back. -/
theorem power?_powerText (n : NumberText) {rest : List Char} (hrest : EndsNumber rest) :
    power? (n.powerText ++ rest) = some (n.power.getD 0, rest) := by
  cases hpower : n.power with
  | none =>
    simp only [NumberText.powerText, hpower, List.nil_append]
    unfold power?
    split
    · exact absurd rfl (hrest _ rfl).2.2.1
    · exact absurd rfl (hrest _ rfl).2.2.2
    · rfl
  | some power =>
    have hdigits := digits?_toDigits power.natAbs hrest
    have hvalue : Nat.ofDigitChars 10 (Nat.toDigits 10 power.natAbs) 0 = power.natAbs :=
      Nat.ofDigitChars_ten_toDigits
    by_cases hsign : power < 0
    · simp [NumberText.powerText, hpower, power?, signedDigits?, Toml.splitSign, hdigits, hvalue,
        hsign, -Nat.cast_natAbs]
      omega
    · simp [NumberText.powerText, hpower, power?, signedDigits?, Toml.splitSign, hdigits, hvalue,
        hsign, -Nat.cast_natAbs]
      omega

/-- Neither digits nor a point stand behind the fraction. -/
theorem head?_powerText (n : NumberText) {rest : List Char} (hrest : EndsNumber rest) :
    ∀ c ∈ (n.powerText ++ rest).head?, c.isDigit = false ∧ c ≠ '.' := by
  intro c hc
  cases hpower : n.power with
  | none =>
    simp only [NumberText.powerText, hpower, List.nil_append] at hc
    exact ⟨(hrest c hc).1, (hrest c hc).2.1⟩
  | some power =>
    simp only [NumberText.powerText, hpower, List.cons_append, List.head?_cons, Option.mem_def,
      Option.some.injEq] at hc
    subst hc
    decide

/-- The point and the digits of a fraction are read back. -/
theorem fraction?_fractionText {n : NumberText} (h : n.Valid) {rest : List Char}
    (hrest : EndsNumber rest) :
    fraction? (n.fractionText ++ (n.powerText ++ rest)) =
      some (n.fraction, n.powerText ++ rest) := by
  have hhead := head?_powerText n hrest
  cases hfraction : n.fraction with
  | nil =>
    simp only [NumberText.fractionText, hfraction, List.nil_append]
    unfold fraction?
    split
    · next hpoint => exact absurd rfl (hhead '.' (by rw [hpoint]; rfl)).2
    · rfl
  | cons c digits =>
    have hdigits : ∀ d ∈ c :: digits, d.isDigit = true := fun d hd =>
      h.digits d (List.mem_append_right _ (hfraction ▸ hd))
    simp only [NumberText.fractionText, hfraction, List.cons_append, fraction?]
    exact digits?_append (List.cons_ne_nil c digits) ⟨hdigits, fun d hd => (hhead d hd).1⟩

/-- The digits before the point are read back. -/
theorem whole?_whole {n : NumberText} (h : n.Valid) {rest : List Char} (hrest : EndsNumber rest) :
    whole? (n.whole ++ (n.fractionText ++ (n.powerText ++ rest))) =
      some (n.whole, n.fractionText ++ (n.powerText ++ rest)) := by
  have hhead : ∀ c ∈ (n.fractionText ++ (n.powerText ++ rest)).head?, c.isDigit = false := by
    intro c hc
    cases hfraction : n.fraction with
    | nil =>
      simp only [NumberText.fractionText, hfraction, List.nil_append] at hc
      exact (head?_powerText n hrest c hc).1
    | cons d digits =>
      simp only [NumberText.fractionText, hfraction, List.cons_append, List.head?_cons,
        Option.mem_def, Option.some.injEq] at hc
      subst hc
      decide
  have hdigits := digits?_append h.whole
    ⟨fun c hc => h.digits c (List.mem_append_left _ hc), hhead⟩
  have hleading : ¬(n.whole.head? = some '0' ∧ n.whole.length ≠ 1) := fun hzero =>
    hzero.2 (h.leading hzero.1)
  simp [whole?, hdigits, hleading]

/-- A valid text of a number is read back as the number. -/
theorem magnitude?_text {n : NumberText} (h : n.Valid) {rest : List Char}
    (hrest : EndsNumber rest) : magnitude? (n.text ++ rest) = some (n.value, rest) := by
  simp only [magnitude?, NumberText.text, List.append_assoc, whole?_whole h hrest,
    fraction?_fractionText h hrest, power?_powerText n hrest, Option.bind_eq_bind,
    Option.bind_some, Option.pure_def]
  rfl

/-- A text with the digits and the scale of a decimal stands for the same number. -/
theorem NumberText.value_eq {n : NumberText} {d : Decimal}
    (hdigits : Nat.ofDigitChars 10 (n.whole ++ n.fraction) 0 = d.digits)
    (hscale : n.power.getD 0 - n.fraction.length = d.exponent) : n.value = d.value := by
  rw [NumberText.value, hdigits, hscale, Decimal.value]

/-- The digits of a decimal, as far as the layouts depend on them. -/
structure DigitsOf (d : Decimal) (digits : List Char) : Prop where
  /-- There is one digit at least. -/
  nonempty : digits ≠ []
  /-- All of them are digits. -/
  inside : ∀ c ∈ digits, c.isDigit = true
  /-- The run of digits stands for the digits of the decimal. -/
  value : Nat.ofDigitChars 10 digits 0 = d.digits
  /-- Only zero begins with a zero. -/
  leading : digits.head? = some '0' → d.digits = 0 ∧ digits.length = 1

/-- The digits that are written for a decimal are its digits. -/
theorem digitsOf_toDigits (d : Decimal) : DigitsOf d (Nat.toDigits 10 d.digits) where
  nonempty := Nat.toDigits_ne_nil
  inside := fun _ => Nat.isDigit_of_mem_toDigits (by decide) (by decide)
  value := Nat.ofDigitChars_ten_toDigits
  leading := by
    intro hzero
    have hvalue : d.digits = 0 := by_contra fun hne => head?_toDigits hne hzero
    exact ⟨hvalue, by rw [hvalue]; rfl⟩

namespace DigitsOf

variable {d : Decimal} {digits : List Char}

/-- Digits of a decimal that a point splits are a valid text that stands for the decimal. -/
theorem split (h : DigitsOf d digits) {k : ℕ} (power : Option ℤ) (hk : 0 < k)
    (hscale : power.getD 0 - (digits.length - k : ℕ) = d.exponent) :
    (NumberText.mk (digits.take k) (digits.drop k) power).Valid ∧
      (NumberText.mk (digits.take k) (digits.drop k) power).value = d.value := by
  refine ⟨⟨?_, ?_, ?_⟩, NumberText.value_eq ?_ ?_⟩
  · simpa [Nat.ne_of_gt hk] using h.nonempty
  · simpa using h.inside
  · intro hzero
    rw [List.head?_take, if_neg (Nat.ne_of_gt hk)] at hzero
    have hlength := (h.leading hzero).2
    rw [List.length_take]
    omega
  · simpa using h.value
  · simpa using hscale

/-- Digits of a decimal behind a point and zeros are a valid text that stands for the decimal. -/
theorem behindZeros (h : DigitsOf d digits) (zeros : ℕ)
    (hscale : -(zeros + digits.length : ℕ) = d.exponent) :
    (NumberText.mk ['0'] (List.replicate zeros '0' ++ digits) none).Valid ∧
      (NumberText.mk ['0'] (List.replicate zeros '0' ++ digits) none).value = d.value := by
  refine ⟨⟨by simp, ?_, by simp⟩, NumberText.value_eq ?_ ?_⟩
  · intro c hc
    simp only [List.singleton_append, List.mem_cons, List.mem_append] at hc
    rcases hc with rfl | hzero | hdigit
    · rfl
    · rw [List.eq_of_mem_replicate hzero]
      rfl
    · exact h.inside c hdigit
  · rw [Nat.ofDigitChars_append, Nat.ofDigitChars_append, Nat.ofDigitChars_replicate_zero]
    exact h.value
  · simpa using hscale

/-- Digits of a decimal with zeros behind them are a valid text that stands for the decimal, also
with a zero behind the point. No zeros follow a single zero. -/
theorem beforeZeros (h : DigitsOf d digits) {zeros : ℕ} (hscale : zeros = d.exponent)
    (hzeros : d.digits ≠ 0 ∨ zeros = 0) (fraction : List Char)
    (hfraction : fraction = [] ∨ fraction = ['0']) :
    (NumberText.mk (digits ++ List.replicate zeros '0') fraction none).Valid ∧
      (NumberText.mk (digits ++ List.replicate zeros '0') fraction none).value = d.value := by
  have hvalue : Nat.ofDigitChars 10 (digits ++ List.replicate zeros '0') 0 =
      10 ^ zeros * d.digits := by
    rw [Nat.ofDigitChars_append, h.value, Nat.ofDigitChars_replicate_zero]
  refine ⟨⟨?_, ?_, ?_⟩, ?_⟩
  · simp [h.nonempty]
  · intro c hc
    simp only [List.mem_append] at hc
    rcases hc with (hdigit | hzero) | hfinal
    · exact h.inside c hdigit
    · rw [List.eq_of_mem_replicate hzero]
      rfl
    · rcases hfraction with rfl | rfl
      · cases hfinal
      · rw [List.mem_singleton.mp hfinal]
        rfl
  · intro hzero
    rw [List.head?_append_of_ne_nil _ h.nonempty] at hzero
    obtain ⟨hdigits, hlength⟩ := h.leading hzero
    have hnone : zeros = 0 := hzeros.resolve_left (fun hne => hne hdigits)
    simp [hnone, hlength]
  · rw [NumberText.value, Decimal.value, ← hscale, Nat.ofDigitChars_append, hvalue]
    rcases hfraction with rfl | rfl
    · simp [mul_comm]
    · have hlast : Nat.ofDigitChars 10 ['0'] (10 ^ zeros * d.digits) =
          10 * (10 ^ zeros * d.digits) := by
        rw [Nat.ofDigitChars_cons]
        rfl
      rw [hlast]
      push_cast
      simp
      ring

end DigitsOf

/-- The layout of a decimal is a valid text that stands for the decimal. -/
theorem exists_text_layout (style : NumeralStyle) {d : Decimal}
    (h : d.digits ≠ 0 ∨ d.exponent = 0) :
    ∃ n : NumberText, n.Valid ∧ style.layout d = n.text ∧ n.value = d.value := by
  have hdigits := digitsOf_toDigits d
  simp only [NumeralStyle.layout]
  generalize Nat.toDigits 10 d.digits = digits at *
  have hlength := List.length_pos_iff.mpr hdigits.nonempty
  generalize hfirst : digits.length + d.exponent - 1 = leading
  split
  · split
    · next hwhole =>
      obtain ⟨hvalid, hvalue⟩ := hdigits.beforeZeros (Int.toNat_of_nonneg hwhole)
        (h.imp_right fun hzero => by rw [hzero]; rfl)
        (if style.pointZero then ['0'] else []) (by split <;> simp)
      refine ⟨_, hvalid, ?_, hvalue⟩
      cases style.pointZero <;>
        simp [NumberText.text, NumberText.fractionText, NumberText.powerText]
    · next hfraction =>
      split
      · next hleading =>
        obtain ⟨hvalid, hvalue⟩ := hdigits.split (k := (leading + 1).toNat) none (by omega)
          (by simp only [Option.getD_none]; omega)
        have hbehind : digits.drop (leading + 1).toNat ≠ [] := by
          rw [Ne, List.drop_eq_nil_iff]
          omega
        refine ⟨_, hvalid, ?_, hvalue⟩
        simp [NumberText.text, NumberText.fractionText_of_ne_nil hbehind, NumberText.powerText]
      · next hleading =>
        obtain ⟨hvalid, hvalue⟩ := hdigits.behindZeros (-leading - 1).toNat (by omega)
        have hbehind : List.replicate (-leading - 1).toNat '0' ++ digits ≠ [] := by
          simp [hdigits.nonempty]
        refine ⟨_, hvalid, ?_, hvalue⟩
        rw [NumberText.text, NumberText.fractionText_of_ne_nil hbehind]
        exact (List.append_nil _).symm
  · obtain ⟨hvalid, hvalue⟩ := hdigits.split (k := 1) (some leading) Nat.one_pos
      (by simp only [Option.getD_some]; omega)
    exact ⟨_, hvalid, rfl, hvalue⟩

/-- A number begins with a digit. -/
theorem NumberText.Valid.exists_cons {n : NumberText} (h : n.Valid) :
    ∃ c text, n.text = c :: text ∧ c.isDigit = true := by
  obtain ⟨c, whole, hwhole⟩ := List.exists_cons_of_ne_nil h.whole
  refine ⟨c, whole ++ n.fractionText ++ n.powerText, ?_, h.digits c (by simp [hwhole])⟩
  rw [NumberText.text, hwhole, List.cons_append, List.cons_append]

/-- The text of a valid number is not empty. -/
theorem NumberText.Valid.length_pos {n : NumberText} (h : n.Valid) : 0 < n.text.length := by
  obtain ⟨c, text, htext, -⟩ := h.exists_cons
  simp [htext]

/-- A valid text, with or without a sign before it, is read back with its sign. -/
theorem number?_text {n : NumberText} (h : n.Valid) (negative : Bool) {rest : List Char}
    (hrest : EndsNumber rest) :
    number? ((if negative then ['-'] else []) ++ n.text ++ rest) =
      some (.number negative n.value, rest) := by
  cases negative with
  | true => simp [number?, magnitude?_text h hrest]
  | false =>
    obtain ⟨c, text, htext, hdigit⟩ := h.exists_cons
    have hmagnitude := magnitude?_text h hrest
    simp only [Bool.false_eq_true, if_false, List.nil_append]
    unfold number?
    split
    · next hminus =>
      rw [htext, List.cons_append] at hminus
      obtain ⟨rfl, -⟩ := List.cons.inj hminus
      cases hdigit
    · simp [hmagnitude]

/-- A count is written as a valid text. -/
theorem exists_text_natural (n : ℕ) :
    ∃ text : NumberText, text.Valid ∧ (toString n).toList = text.text ∧ text.value = n := by
  have hdigits := digitsOf_toDigits ⟨n, 0⟩
  obtain ⟨hvalid, hvalue⟩ := hdigits.beforeZeros (show ((0 : ℕ) : ℤ) = 0 from rfl) (Or.inr rfl) []
    (Or.inl rfl)
  refine ⟨_, hvalid, ?_, ?_⟩
  · simp [NumberText.text, NumberText.fractionText, NumberText.powerText]
  · rw [hvalue]
    simp [Decimal.value]

/-- A finite double is written as a valid text behind its sign, and read back as its shortest
decimal. -/
theorem exists_text_double {x : Binary64} (hfinite : x.isFinite = true) :
    ∃ text : NumberText, text.Valid ∧
      (numeral.write x).toList = (if x.isNegative then ['-'] else []) ++ text.text ∧
      text.value = (x.shortest .toEven).value := by
  have hdigits : (x.shortest .toEven).digits ≠ 0 ∨ (x.shortest .toEven).exponent = 0 := by
    by_cases hzero : x.significand = 0
    · exact Or.inr (by simp [Binary64.shortest, hzero])
    · exact Or.inl (Binary64.digits_shortest_ne_zero .toEven hzero)
  obtain ⟨text, hvalid, htext, hvalue⟩ := exists_text_layout numeral hdigits
  refine ⟨text, hvalid, ?_, hvalue⟩
  rw [Binary64.write_of_finite numeral hfinite, String.toList_append, String.toList_ofList, ← htext]
  cases x.isNegative <;> rfl

end Lexis.Json
