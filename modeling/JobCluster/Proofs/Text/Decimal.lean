import JobCluster.Text.Natural
import Mathlib.Data.List.Basic
import Mathlib.Data.List.Induction
import Mathlib.Tactic.IntervalCases
import Mathlib.Tactic.Lemma
import Mathlib.Tactic.SplitIfs

/-!
# Numbers in decimal, written and read

The reader of natural numbers takes a text exactly when it is a numeral of a number within the limit
(`readNatural_eq_some`): an optional plus sign and decimal digits, with any number of zeros in
front. What is written is read back (`readNatural_decimal`, `readDigits_padded`).
-/

namespace JobCluster.Text

/-- A number is written by decimal digits, maybe after a plus sign. -/
def WrittenAs (n : Nat) (cs : List Char) : Prop :=
  ∃ sign ds : List Char, (sign = [] ∨ sign = ['+']) ∧ cs = sign ++ ds ∧ ds ≠ [] ∧
    (∀ d ∈ ds, d.isDigit) ∧ Nat.ofDigitChars 10 ds 0 = n

lemma isDigit_iff {c : Char} : c.isDigit ↔ 48 ≤ c.toNat ∧ c.toNat ≤ 57 := by
  simp only [Char.isDigit, Bool.and_eq_true, decide_eq_true_eq]
  exact Iff.rfl

/-- A digit has its distance from zero as its value. -/
lemma digitValue?_of_isDigit {c : Char} (digit : c.isDigit) :
    digitValue? c = some (c.toNat - '0'.toNat) := by
  have range : '0' ≤ c ∧ c ≤ '9' := isDigit_iff.1 digit
  rw [digitValue?, if_pos range]

/-- No other character has a value. -/
lemma digitValue?_eq_none {c : Char} (no : ¬ c.isDigit) : digitValue? c = none := by
  rw [digitValue?, if_neg fun digit : '0' ≤ c ∧ c ≤ '9' => no (isDigit_iff.2 digit)]

/-- The values of digits write the number that the digits write. -/
lemma ofDigitValues_map (cs : List Char) :
    ofDigitValues (cs.map fun c => c.toNat - '0'.toNat) = Nat.ofDigitChars 10 cs 0 := by
  rw [ofDigitValues, List.foldl_map]
  rfl

/-- Digits are read one by one. -/
lemma mapM_digitValue? {cs : List Char} (digits : ∀ c ∈ cs, c.isDigit) :
    cs.mapM digitValue? = some (cs.map fun c => c.toNat - '0'.toNat) := by
  induction cs with
  | nil => rfl
  | cons c cs ih =>
    rw [List.mapM_cons, digitValue?_of_isDigit (digits c List.mem_cons_self),
      ih fun d mem => digits d (List.mem_cons_of_mem _ mem)]
    rfl

/-- What is read as digits consists of digits. -/
lemma isDigit_of_mapM {cs : List Char} {ds : List Nat} (e : cs.mapM digitValue? = some ds) :
    ∀ c ∈ cs, c.isDigit := by
  induction cs generalizing ds with
  | nil => exact List.forall_mem_nil _
  | cons c cs ih =>
    rw [List.mapM_cons] at e
    obtain ⟨d, head, e⟩ := Option.bind_eq_some_iff.1 e
    obtain ⟨ds', tail, -⟩ := Option.bind_eq_some_iff.1 e
    refine List.forall_mem_cons.2 ⟨?_, ih tail⟩
    by_contra no
    rw [digitValue?_eq_none no] at head
    cases head

/-- Digits alone are read as the number that they write. -/
lemma readDigits_eq_some {cs : List Char} {n : Nat} :
    readDigits cs = some n ↔
      cs ≠ [] ∧ (∀ c ∈ cs, c.isDigit) ∧ Nat.ofDigitChars 10 cs 0 = n := by
  rw [readDigits]
  cases cs with
  | nil => simp
  | cons c cs =>
    rw [if_neg (by simp)]
    constructor
    · intro e
      obtain ⟨ds, read, e⟩ := Option.map_eq_some_iff.1 e
      have digits := isDigit_of_mapM read
      rw [mapM_digitValue? digits] at read
      cases read
      exact ⟨List.cons_ne_nil _ _, digits, by rw [← ofDigitValues_map]; exact e⟩
    · rintro ⟨-, digits, e⟩
      rw [mapM_digitValue? digits, Option.map_some, ofDigitValues_map, e]

/-- Without a sign, a number is its digits, up to the limit. -/
lemma readNatural_of_unsigned {limit : Nat} {cs : List Char} (no : ∀ rest, cs ≠ '+' :: rest) :
    readNatural limit cs = (readDigits cs).filter (· ≤ limit) := by
  unfold readNatural
  split
  · exact absurd rfl (no _)
  · rfl

lemma readNatural_plus {limit : Nat} (cs : List Char) :
    readNatural limit ('+' :: cs) = (readDigits cs).filter (· ≤ limit) := rfl

/-- A number is read from its numerals and from nothing else. -/
theorem readNatural_eq_some {limit n : Nat} {cs : List Char} :
    readNatural limit cs = some n ↔ WrittenAs n cs ∧ n ≤ limit := by
  have filtered {ds : List Char} : (readDigits ds).filter (· ≤ limit) = some n ↔
      (ds ≠ [] ∧ (∀ d ∈ ds, d.isDigit) ∧ Nat.ofDigitChars 10 ds 0 = n) ∧ n ≤ limit := by
    rw [Option.filter_eq_some_iff, readDigits_eq_some, decide_eq_true_eq]
  by_cases plus : ∃ rest, cs = '+' :: rest
  · obtain ⟨rest, rfl⟩ := plus
    rw [readNatural_plus, filtered]
    refine and_congr_left fun _ => ⟨fun read => ⟨['+'], rest, .inr rfl, rfl, read⟩, ?_⟩
    rintro ⟨sign, ds, rfl | rfl, e, read⟩
    · -- a digit is no plus sign
      rw [List.nil_append] at e
      exact absurd (read.2.1 '+' (e ▸ List.mem_cons_self)) (by decide)
    · cases e
      exact read
  · rw [readNatural_of_unsigned fun rest e => plus ⟨rest, e⟩, filtered]
    refine and_congr_left fun _ => ⟨fun read => ⟨[], cs, .inl rfl, rfl, read⟩, ?_⟩
    rintro ⟨sign, ds, rfl | rfl, rfl, read⟩
    · exact read
    · exact absurd ⟨ds, rfl⟩ plus

/-! ## Numerals of one digit -/

/-- One more digit multiplies what was read by ten. -/
lemma ofDigitChars_snoc (ds : List Char) (d : Char) :
    Nat.ofDigitChars 10 (ds ++ [d]) 0 = 10 * Nat.ofDigitChars 10 ds 0 + (d.toNat - '0'.toNat) := by
  rw [Nat.ofDigitChars_append]
  rfl

/-- Zero is written by zeros. -/
lemma eq_replicate_of_zero {ds : List Char} (digits : ∀ d ∈ ds, d.isDigit)
    (zero : Nat.ofDigitChars 10 ds 0 = 0) : ds = List.replicate ds.length '0' := by
  induction ds using List.reverseRecOn with
  | nil => rfl
  | append_singleton ds d ih =>
    rw [ofDigitChars_snoc] at zero
    obtain ⟨front, last⟩ := List.forall_mem_append.1 digits
    have bounds := isDigit_iff.1 (last d List.mem_cons_self)
    have code : d.toNat = '0'.toNat := by
      have : '0'.toNat = 48 := rfl
      omega
    rw [List.length_append, List.length_singleton, List.replicate_succ', ← ih front (by omega),
      Char.toNat_inj.1 code]

/-- A number below ten is written by its digit with zeros in front. -/
lemma ofDigitChars_eq_digit {ds : List Char} (ne : ds ≠ []) (digits : ∀ d ∈ ds, d.isDigit)
    {c : Char} (digit : c.isDigit) :
    Nat.ofDigitChars 10 ds 0 = c.toNat - '0'.toNat ↔ ∃ k, ds = List.replicate k '0' ++ [c] := by
  have zero : '0'.toNat = 48 := rfl
  constructor
  · intro e
    obtain ⟨front, d, rfl⟩ := (List.eq_nil_or_concat' ds).resolve_left ne
    rw [ofDigitChars_snoc] at e
    obtain ⟨frontDigits, last⟩ := List.forall_mem_append.1 digits
    have bounds := isDigit_iff.1 (last d List.mem_cons_self)
    have bounds' := isDigit_iff.1 digit
    have code : d.toNat = c.toNat := by omega
    refine ⟨front.length, ?_⟩
    rw [← eq_replicate_of_zero frontDigits (by omega), Char.toNat_inj.1 code]
  · rintro ⟨k, rfl⟩
    rw [ofDigitChars_snoc, Nat.ofDigitChars_replicate_zero, Nat.mul_zero, Nat.mul_zero,
      Nat.zero_add]

/-! ## What is written is read back -/

/-- A number is written in digits. -/
lemma isDigit_of_mem_decimalDigits {n : Nat} {c : Char} (mem : c ∈ decimalDigits n) : c.isDigit :=
  Nat.isDigit_of_mem_toDigits (by decide) (by decide) mem

/-- A number other than zero is written without a zero in front. -/
lemma head?_decimalDigits_ne {n : Nat} (pos : 0 < n) : (decimalDigits n).head? ≠ some '0' := by
  induction n using Nat.strongRecOn with
  | ind n ih =>
    rw [decimalDigits, Nat.toDigits_eq_if (by decide)]
    split_ifs with lt
    · interval_cases n <;> decide
    · rw [List.head?_append_of_ne_nil _ Nat.toDigits_ne_nil]
      exact ih (n / 10) (by omega) (by omega)

/-- A number up to the limit is read as it was written. -/
lemma readNatural_decimal {limit n : Nat} (le : n ≤ limit) :
    readNatural limit (decimal n).toList = some n := by
  refine readNatural_eq_some.2 ⟨⟨[], decimalDigits n, .inl rfl, ?_, Nat.toDigits_ne_nil,
    fun _ => isDigit_of_mem_decimalDigits, Nat.ofDigitChars_ten_toDigits⟩, le⟩
  rw [decimal, String.toList_ofList, List.nil_append]

/-! ## Numbers of a fixed width -/

/-- A padded number is written in digits. -/
lemma isDigit_of_mem_padded {width n : Nat} {c : Char} (mem : c ∈ (padded width n).toList) :
    c.isDigit := by
  rw [padded, String.toList_ofList] at mem
  rcases List.mem_append.1 mem with zero | digit
  · rw [List.eq_of_mem_replicate zero]
    rfl
  · exact isDigit_of_mem_decimalDigits digit

/-- A padded number is not empty. -/
lemma padded_ne_nil (width n : Nat) : (padded width n).toList ≠ [] := by
  rw [padded, String.toList_ofList]
  exact List.append_ne_nil_of_right_ne_nil _ Nat.toDigits_ne_nil

/-- Leading zeros do not change what is read. -/
lemma readDigits_padded (width n : Nat) : readDigits (padded width n).toList = some n := by
  refine readDigits_eq_some.2 ⟨padded_ne_nil width n, fun _ => isDigit_of_mem_padded, ?_⟩
  rw [padded, String.toList_ofList, Nat.ofDigitChars_append, Nat.ofDigitChars_replicate_zero,
    Nat.mul_zero, decimalDigits, Nat.ofDigitChars_ten_toDigits]

/-- A number that fits is padded to the width. -/
lemma length_padded {width n : Nat} (pos : 0 < width) (lt : n < 10 ^ width) :
    (padded width n).toList.length = width := by
  have short : (decimalDigits n).length ≤ width :=
    (Nat.length_toDigits_le_iff (by decide) pos).2 lt
  rw [padded, String.toList_ofList, List.length_append, List.length_replicate]
  omega

end JobCluster.Text
