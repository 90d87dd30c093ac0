import JobCluster.Json.Scan
import JobCluster.Proofs.Text.Decimal

/-!
# Numerals, written and read

A numeral whose digits are digits (`Numeral.Proper`) is read from its text up to the next token
(`scanNumeral_text`). The numeral of a 64-bit natural number is proper and stands for that number
(`Numeral.proper_ofNat`, `Numeral.quantity_ofNat`).
-/

namespace JobCluster.Json

open JobCluster.Text

/-- Where the text after a value goes on: at its end, or with the sign after an item or member. -/
def Continues (r : List Char) : Prop := ∀ c ∈ r.head?, c = ',' ∨ c = ']' ∨ c = '\x7d'

/-- Nothing may follow a number. -/
lemma continues_nil : Continues [] := fun _ mem => by cases mem

/-- A comma may follow a number. -/
lemma continues_comma (r : List Char) : Continues (',' :: r) := fun _ mem =>
  .inl (Option.some.inj mem).symm

/-- A closing bracket may follow a number. -/
lemma continues_bracket (r : List Char) : Continues (']' :: r) := fun _ mem =>
  .inr (.inl (Option.some.inj mem).symm)

/-- A closing brace may follow a number. -/
lemma continues_brace (r : List Char) : Continues ('\x7d' :: r) := fun _ mem =>
  .inr (.inr (Option.some.inj mem).symm)

namespace Numeral

/-- A numeral as texts have it: digits below ten, one at least, and no zero in front of others. -/
structure Proper (n : Numeral) : Prop where
  nonempty : n.whole ≠ []
  whole : ∀ d ∈ n.whole, d < 10
  fraction : ∀ d ∈ n.fraction, d < 10
  noZero : n.whole.head? = some 0 → n.whole.length = 1

/-- A digit is read as it was written. -/
lemma digitValue?_digitChar {d : Nat} (lt : d < 10) : digitValue? (digitChar d) = some d := by
  interval_cases d <;> rfl

end Numeral

open Numeral

/-! ## Digits -/

/-- No digit comes next. -/
def NoDigit (r : List Char) : Prop := ∀ c ∈ r.head?, digitValue? c = none

/-- What may follow a number does not start with a digit. -/
lemma Continues.noDigit {r : List Char} (continues : Continues r) : NoDigit r := by
  intro c mem
  obtain rfl | rfl | rfl := continues c mem <;> rfl

/-- No digits are read where there are none. -/
lemma scanDigits_noDigit {r : List Char} (no : NoDigit r) : scanDigits r = ([], r) := by
  cases r with
  | nil => rfl
  | cons c r => rw [scanDigits, no c rfl]

/-- Digits are read up to what is no digit. -/
lemma scanDigits_append {cs r : List Char} {ds : List Nat} (read : cs.mapM digitValue? = some ds)
    (no : NoDigit r) : scanDigits (cs ++ r) = (ds, r) := by
  induction cs generalizing ds with
  | nil =>
    cases read
    exact scanDigits_noDigit no
  | cons c cs ih =>
    rw [List.mapM_cons] at read
    obtain ⟨d, first, read⟩ := Option.bind_eq_some_iff.1 read
    obtain ⟨ds', others, read⟩ := Option.bind_eq_some_iff.1 read
    cases read
    rw [List.cons_append, scanDigits, first]
    dsimp only
    rw [ih others]

/-- Digits are read one by one as they were written. -/
lemma mapM_digitChar {ds : List Nat} (digits : ∀ d ∈ ds, d < 10) :
    (ds.map digitChar).mapM digitValue? = some ds := by
  induction ds with
  | nil => rfl
  | cons d ds ih =>
    obtain ⟨first, others⟩ := List.forall_mem_cons.1 digits
    rw [List.map_cons, List.mapM_cons, digitValue?_digitChar first, ih others]
    rfl

/-- The digits of a number are read up to its end. -/
lemma scanDigits_digits {ds : List Nat} {r : List Char} (digits : ∀ d ∈ ds, d < 10)
    (no : NoDigit r) : scanDigits (ds.map digitChar ++ r) = (ds, r) :=
  scanDigits_append (mapM_digitChar digits) no

/-! ## Numerals -/

/-- An exponent is read with its sign. -/
lemma scanPower_exponent (e : Int) {r : List Char} (no : NoDigit r) :
    scanPower ((if e < 0 then ['-'] else []) ++ decimalDigits e.natAbs ++ r) =
      some (some e, r) := by
  have read := scanDigits_append (mapM_digitValue? fun _ =>
    isDigit_of_mem_decimalDigits (n := e.natAbs)) no
  have value : ofDigitValues ((decimalDigits e.natAbs).map fun c => c.toNat - '0'.toNat) =
      e.natAbs := by
    rw [ofDigitValues_map, decimalDigits, Nat.ofDigitChars_ten_toDigits]
  have some_digit : (decimalDigits e.natAbs).map (fun c => c.toNat - '0'.toNat) ≠ [] :=
    fun none => Nat.toDigits_ne_nil (List.map_eq_nil_iff.1 none)
  generalize (decimalDigits e.natAbs).map (fun c => c.toNat - '0'.toNat) = ds
    at read value some_digit
  obtain ⟨d, ds, rfl⟩ := List.exists_cons_of_ne_nil some_digit
  by_cases negative : e < 0
  · rw [if_pos negative, List.cons_append, List.nil_append, List.cons_append, scanPower]
    dsimp only
    rw [read]
    dsimp only
    rw [value, if_pos rfl]
    congr; omega
  · -- a digit is no sign
    obtain ⟨c, cs, digits⟩ :=
      List.exists_cons_of_ne_nil (Nat.toDigits_ne_nil (b := 10) (n := e.natAbs))
    have digit : c.isDigit := isDigit_of_mem_decimalDigits (n := e.natAbs)
      (by rw [decimalDigits, digits]; exact List.mem_cons_self)
    rw [if_neg negative, List.nil_append]
    rw [decimalDigits, digits, List.cons_append] at read ⊢
    rw [scanPower]
    · dsimp only
      rw [read]
      dsimp only
      rw [value, if_neg (by decide)]
      congr; omega
    · rintro rest ⟨⟩
      exact absurd digit (by decide)
    · rintro rest ⟨⟩
      exact absurd digit (by decide)

/-- What follows the digits of a numeral. -/
def AfterDigits (r : List Char) : Prop := NoDigit r ∧ ∀ c ∈ r.head?, c ≠ '.'

/-- Digits end where an exponent or the rest begins. -/
lemma afterDigits_exponent (exponent : Option Int) {r : List Char} (continues : Continues r) :
    AfterDigits (exponentText exponent ++ r) := by
  cases exponent with
  | none =>
    refine ⟨continues.noDigit, fun c mem => ?_⟩
    obtain rfl | rfl | rfl := continues c mem <;> decide
  | some e =>
    constructor <;> rintro c ⟨⟩
    · rfl
    · decide

/-- An exponent that was left out is read as none. -/
lemma scanExponent_text (exponent : Option Int) {r : List Char} (continues : Continues r) :
    scanExponent (exponentText exponent ++ r) = some (exponent, r) := by
  cases exponent with
  | some e => exact scanPower_exponent e continues.noDigit
  | none =>
    cases r with
    | nil => rfl
    | cons c r => obtain rfl | rfl | rfl := continues c rfl <;> rfl

/-- The text of the digits after the point. -/
def fractionText (ds : List Nat) : List Char := if ds.isEmpty then [] else '.' :: ds.map digitChar

/-- A fraction is read up to the exponent. -/
lemma scanFraction_text {ds : List Nat} (digits : ∀ d ∈ ds, d < 10) {r : List Char}
    (after : AfterDigits r) : scanFraction (fractionText ds ++ r) = some (ds, r) := by
  cases ds with
  | cons d ds =>
    change scanFraction ('.' :: ((d :: ds).map digitChar ++ r)) = _
    rw [scanFraction, scanDigits_digits digits after.1]
  | nil =>
    cases r with
    | nil => rfl
    | cons c r =>
      change scanFraction (c :: r) = _
      rw [scanFraction]
      rintro rest ⟨⟩
      exact after.2 '.' rfl rfl

/-- The digits before a fraction end at its point. -/
lemma noDigit_fraction (ds : List Nat) {r : List Char} (no : NoDigit r) :
    NoDigit (fractionText ds ++ r) := by
  cases ds with
  | nil => exact no
  | cons d ds =>
    rintro c ⟨⟩
    rfl

/-- A numeral is read from its text, up to the next token. -/
theorem scanNumeral_text {n : Numeral} (proper : n.Proper) {r : List Char}
    (continues : Continues r) : scanNumeral (n.text ++ r) = some (n, r) := by
  obtain ⟨negative, whole, fraction, exponent⟩ := n
  have after := afterDigits_exponent exponent continues
  have digits := scanDigits_digits proper.whole (noDigit_fraction fraction after.1)
  have point := scanFraction_text proper.fraction after
  have power := scanExponent_text exponent continues
  -- no leading zeros but for a single zero
  have allowed : ¬ (whole.isEmpty || (whole.head? == some 0 && decide (1 < whole.length))) := by
    have nonempty := proper.nonempty
    have noZero := proper.noZero
    cases whole with
    | nil => exact absurd rfl nonempty
    | cons d ds => simpa using fun zero : d = 0 => noZero (congrArg some zero)
  have text : Numeral.text ⟨negative, whole, fraction, exponent⟩ ++ r =
      (if negative then ['-'] else []) ++
        (whole.map digitChar ++ (fractionText fraction ++ (exponentText exponent ++ r))) := by
    simp only [Numeral.text, fractionText, List.append_assoc]
  rw [text]
  generalize fractionText fraction ++ (exponentText exponent ++ r) = rest at digits point
  cases negative with
  | true =>
    rw [if_pos rfl, List.singleton_append, scanNumeral]
    simp only [digits, if_neg allowed, point, Option.bind_eq_bind, Option.bind_some, power]
    rfl
  | false =>
    obtain ⟨d, ds, rfl⟩ := List.exists_cons_of_ne_nil proper.nonempty
    -- without a sign, the first digit must not be taken for one
    have first : digitChar d ≠ '-' := by
      have lt : d < 10 := proper.whole d List.mem_cons_self
      interval_cases d <;> decide
    rw [if_neg Bool.false_ne_true, List.nil_append]
    rw [List.map_cons, List.cons_append] at digits ⊢
    rw [scanNumeral]
    · simp only [digits, if_neg allowed, point, Option.bind_eq_bind, Option.bind_some, power]
      rfl
    · exact fun _ e => first (List.cons.inj e).1

namespace Numeral

/-! ## Natural numbers -/

/-- Digits are taken in one by one while the number they write fits. -/
lemma accumulate_eq {acc : Nat} {ds : List Nat}
    (le : ds.foldl (fun n d => 10 * n + d) acc ≤ maxWord64) :
    accumulate acc ds = (ds.foldl (fun n d => 10 * n + d) acc, []) := by
  induction ds generalizing acc with
  | nil => rfl
  | cons d ds ih =>
    have grows (ds : List Nat) (acc : Nat) : acc ≤ ds.foldl (fun n d => 10 * n + d) acc := by
      induction ds generalizing acc with
      | nil => exact le_rfl
      | cons d ds ih => exact le_trans (by omega) (ih (10 * acc + d))
    rw [List.foldl_cons] at le ⊢
    rw [accumulate, if_pos (by have := grows ds (10 * acc + d); omega), Nat.mul_comm acc, ih le]

/-- The digits of a number make up the number. -/
lemma digitsOf_eq (n : Nat) : ofDigitValues (digitsOf n) = n := by
  rw [digitsOf, ofDigitValues_map, decimalDigits, Nat.ofDigitChars_ten_toDigits]

/-- The numeral of a 64-bit number stands for it. -/
lemma quantity_ofNat {n : Nat} (le : n ≤ maxWord64) : (ofNat n).quantity = .natural n := by
  have taken : accumulate 0 (digitsOf n) = (n, []) := by
    have value : (digitsOf n).foldl (fun n d => 10 * n + d) 0 = n := digitsOf_eq n
    rw [accumulate_eq (by rw [value]; exact le), value]
  rw [quantity, ofNat]
  dsimp only
  rw [taken]
  rfl

/-- A natural number is a proper numeral. -/
lemma proper_ofNat (n : Nat) : (ofNat n).Proper where
  nonempty none := Nat.toDigits_ne_nil (List.map_eq_nil_iff.1 none)
  whole d mem := by
    change d ∈ (decimalDigits n).map _ at mem
    obtain ⟨c, digit, rfl⟩ := List.mem_map.1 mem
    have bounds := isDigit_iff.1 (isDigit_of_mem_decimalDigits digit)
    have zero : '0'.toNat = 48 := rfl
    omega
  fraction _ mem := by cases mem
  noZero first := by
    change ((decimalDigits n).map _).head? = some 0 at first
    obtain ⟨c, first, zero⟩ := Option.map_eq_some_iff.1 (List.head?_map ▸ first)
    have digit := isDigit_iff.1 (isDigit_of_mem_decimalDigits (List.mem_of_head? first))
    have code : c.toNat = '0'.toNat := by
      have : '0'.toNat = 48 := rfl
      omega
    rw [Char.toNat_inj.1 code] at first
    rcases n.eq_zero_or_pos with rfl | pos
    · rfl
    · exact absurd first (head?_decimalDigits_ne pos)

end Numeral

end JobCluster.Json
