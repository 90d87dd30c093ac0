import JobCluster.Text.Percent
import Mathlib.Tactic.IntervalCases
import Mathlib.Tactic.Lemma
import Mathlib.Tactic.SplitIfs

/-!
# Bytes and escapes of a text, read back

The bytes of a text are read as that text (`ofUtf8?_encode`), and so are the percent escapes of a
text in which no percent sign stands for itself (`percentDecode_encode`).
-/

namespace JobCluster.Text

/-- The code of a character is no half of a surrogate pair. -/
lemma code_bounds (c : Char) : c.toNat < 0xD800 ∨ 0xDFFF < c.toNat ∧ c.toNat < 0x110000 :=
  c.valid

/-- A number below 256 is the number of its byte. -/
lemma toNat_byte {n : Nat} (lt : n < 256) : (UInt8.ofNat n).toNat = n :=
  UInt8.toNat_ofNat_of_lt' lt

/-! ## Lead bytes -/

/-- The lead bytes of two. -/
lemma leadByte?_two {b : Nat} (low : 0xC2 ≤ b) (high : b ≤ 0xDF) :
    leadByte? b = some { payload := b - 0xC0, more := 0 } := by
  rw [leadByte?, if_pos ⟨low, high⟩]

/-- The lead bytes of three, of which the first and the one before surrogates narrow what follows.
-/
lemma leadByte?_three {b : Nat} (low : 0xE0 ≤ b) (high : b ≤ 0xEF) :
    leadByte? b = some
      { payload := b - 0xE0
        low := if b = 0xE0 then 0xA0 else 0x80
        high := if b = 0xED then 0x9F else 0xBF
        more := 1 } := by
  rw [leadByte?, if_neg (by omega)]
  by_cases first : b = 0xE0
  · subst first
    rfl
  · rw [if_neg first]
    by_cases surrogates : b = 0xED
    · subst surrogates
      rfl
    · rw [if_neg surrogates, if_pos (by omega), if_neg first, if_neg surrogates]

/-- The lead bytes of four, of which the first and the last narrow what follows. -/
lemma leadByte?_four {b : Nat} (low : 0xF0 ≤ b) (high : b ≤ 0xF4) :
    leadByte? b = some
      { payload := b - 0xF0
        low := if b = 0xF0 then 0x90 else 0x80
        high := if b = 0xF4 then 0x8F else 0xBF
        more := 2 } := by
  interval_cases b <;> rfl

/-! ## Characters -/

/-- The last byte completes the character. -/
lemma continuation_last {code low high n : Nat} (lt : n < 256) (range : low ≤ n ∧ n ≤ high)
    (rest : List UInt8) : continuation code low high 0 (UInt8.ofNat n :: rest) =
      (some (Char.ofNat (code * 64 + (n - 0x80))), 1) := by
  rw [continuation, toNat_byte lt, if_pos range]

/-- A byte before the last adds its six bits. -/
lemma continuation_more {code low high more n : Nat} (lt : n < 256) (range : low ≤ n ∧ n ≤ high)
    (rest : List UInt8) : continuation code low high (more + 1) (UInt8.ofNat n :: rest) =
      ((continuation (code * 64 + (n - 0x80)) 0x80 0xBF more rest).1,
        (continuation (code * 64 + (n - 0x80)) 0x80 0xBF more rest).2 + 1) := by
  rw [continuation, toNat_byte lt, if_pos range]

/-- The bytes of a character that was read are passed over. -/
lemma utf8UnitsFrom_skip (skipped rest : List UInt8) :
    utf8UnitsFrom skipped.length (skipped ++ rest) = utf8UnitsFrom 0 rest := by
  induction skipped with
  | nil => rfl
  | cons b skipped ih => rw [List.length_cons, List.cons_append, utf8UnitsFrom, ih]

/-- A lead byte and what belongs to it are one character. -/
lemma utf8UnitsFrom_lead {n : Nat} {lead : LeadByte} {c : Char} {more rest : List UInt8}
    (leads : leadByte? n = some lead) (lt : n < 256) (high : 0x80 ≤ n)
    (read : continuation lead.payload lead.low lead.high lead.more (more ++ rest) =
      (some c, more.length)) :
    utf8UnitsFrom 0 (UInt8.ofNat n :: more ++ rest) = some c :: utf8UnitsFrom 0 rest := by
  rw [List.cons_append, utf8UnitsFrom, toNat_byte lt, if_neg (by omega), leads]
  dsimp only
  rw [read, utf8UnitsFrom_skip]

/-- The bytes of a character are read as that character. -/
lemma utf8UnitsFrom_encode (c : Char) (rest : List UInt8) :
    utf8UnitsFrom 0 (String.utf8EncodeChar c ++ rest) = some c :: utf8UnitsFrom 0 rest := by
  have bounds := code_bounds c
  have char : Char.ofNat c.toNat = c := Char.ofNat_toNat c
  rw [String.utf8EncodeChar, show c.val.toNat = c.toNat from rfl]
  generalize c.toNat = v at bounds char
  subst char
  -- by how many bytes the character is encoded in
  split_ifs with one two three
  · rw [List.singleton_append, utf8UnitsFrom, toNat_byte (by omega), if_pos (by omega)]
  · have code : (v / 64 % 32 + 192 - 0xC0) * 64 + (v % 64 + 128 - 0x80) = v := by omega
    have leads := leadByte?_two (b := v / 64 % 32 + 192) (by omega) (by omega)
    refine utf8UnitsFrom_lead leads (by omega) (by omega) ?_
    change continuation _ 0x80 0xBF 0 (UInt8.ofNat (v % 64 + 128) :: rest) = _
    rw [continuation_last (by omega) (by omega), code]
    rfl
  · -- the second byte keeps out short forms and halves of surrogate pairs
    have range : (if v / 4096 % 16 + 224 = 0xE0 then 0xA0 else 0x80) ≤ v / 64 % 64 + 128 ∧
        v / 64 % 64 + 128 ≤ (if v / 4096 % 16 + 224 = 0xED then 0x9F else 0xBF) := by
      split_ifs <;> omega
    have code : ((v / 4096 % 16 + 224 - 0xE0) * 64 + (v / 64 % 64 + 128 - 0x80)) * 64 +
        (v % 64 + 128 - 0x80) = v := by omega
    have leads := leadByte?_three (b := v / 4096 % 16 + 224) (by omega) (by omega)
    refine utf8UnitsFrom_lead leads (by omega) (by omega) ?_
    change continuation _ _ _ 1
      (UInt8.ofNat (v / 64 % 64 + 128) :: UInt8.ofNat (v % 64 + 128) :: rest) = _
    rw [continuation_more (by omega) range, continuation_last (by omega) (by omega), code]
    rfl
  · have range : (if v / 262144 % 8 + 240 = 0xF0 then 0x90 else 0x80) ≤ v / 4096 % 64 + 128 ∧
        v / 4096 % 64 + 128 ≤ (if v / 262144 % 8 + 240 = 0xF4 then 0x8F else 0xBF) := by
      split_ifs <;> omega
    have code : (((v / 262144 % 8 + 240 - 0xF0) * 64 + (v / 4096 % 64 + 128 - 0x80)) * 64 +
        (v / 64 % 64 + 128 - 0x80)) * 64 + (v % 64 + 128 - 0x80) = v := by omega
    have leads := leadByte?_four (b := v / 262144 % 8 + 240) (by omega) (by omega)
    refine utf8UnitsFrom_lead leads (by omega) (by omega) ?_
    change continuation _ _ _ 2 (UInt8.ofNat (v / 4096 % 64 + 128) ::
      UInt8.ofNat (v / 64 % 64 + 128) :: UInt8.ofNat (v % 64 + 128) :: rest) = _
    rw [continuation_more (by omega) range, continuation_more (by omega) (by omega),
      continuation_last (by omega) (by omega), code]
    rfl

/-- The bytes of a text are read as that text. -/
lemma utf8Units_encode (cs : List Char) :
    utf8Units (cs.flatMap String.utf8EncodeChar) = cs.map some := by
  rw [utf8Units]
  induction cs with
  | nil => rfl
  | cons c cs ih => rw [List.flatMap_cons, utf8UnitsFrom_encode, ih, List.map_cons]

/-- Encoded characters decode to themselves. -/
lemma ofUtf8?_encode (cs : List Char) :
    ofUtf8? (cs.flatMap String.utf8EncodeChar) = some (String.ofList cs) := by
  have read : (cs.map some).mapM id = some cs := by
    induction cs with
    | nil => rfl
    | cons c cs ih =>
      rw [List.map_cons, List.mapM_cons, ih]
      rfl
  rw [ofUtf8?, utf8Units_encode, read, Option.map_some]

/-- Nothing of encoded characters is lost. -/
lemma ofUtf8Lossy_encode (cs : List Char) :
    ofUtf8Lossy (cs.flatMap String.utf8EncodeChar) = String.ofList cs := by
  rw [ofUtf8Lossy, utf8Units_encode, List.map_map]
  exact congrArg String.ofList (List.map_id cs)

/-! ## Percent escapes -/

/-- Any character but the percent sign stands for its bytes. -/
lemma percentDecode_cons {c : Char} (other : c ≠ '%') (rest : List Char) :
    percentDecode (c :: rest) = String.utf8EncodeChar c ++ percentDecode rest := by
  rw [percentDecode]
  exact fun _ _ _ e _ => other e

/-- A text without percent signs stands for its own bytes. -/
lemma percentDecode_plain {cs : List Char} (plain : '%' ∉ cs) :
    percentDecode cs = cs.flatMap String.utf8EncodeChar := by
  induction cs with
  | nil => rfl
  | cons c cs ih =>
    obtain ⟨other, plain⟩ := List.ne_and_not_mem_of_not_mem_cons plain
    rw [percentDecode_cons other.symm, ih plain, List.flatMap_cons]

/-- A hexadecimal digit is read as it was written. -/
lemma hexValue?_hexDigit {n : Nat} (lt : n < 16) : hexValue? (hexDigit n) = some n := by
  interval_cases n <;> rfl

/-- An escaped byte is decoded to itself. -/
lemma percentDecode_escape (b : UInt8) (rest : List Char) :
    percentDecode (percentEscape b ++ rest) = b :: percentDecode rest := by
  have lt := b.toNat_lt
  have back : UInt8.ofNat (16 * (b.toNat / 16) + b.toNat % 16) = b := by
    rw [Nat.div_add_mod, UInt8.ofNat_toNat]
  rw [percentEscape, List.cons_append, List.cons_append, List.cons_append, List.nil_append,
    percentDecode, hexValue?_hexDigit (by omega), hexValue?_hexDigit (by omega)]
  dsimp only
  rw [back]

/-- Escaped bytes are decoded to themselves, one after the other. -/
lemma percentDecode_escapes (bytes : List UInt8) (rest : List Char) :
    percentDecode (bytes.flatMap percentEscape ++ rest) = bytes ++ percentDecode rest := by
  induction bytes with
  | nil => rfl
  | cons b bytes ih =>
    rw [List.flatMap_cons, List.append_assoc, percentDecode_escape, ih, List.cons_append]

/-- A character that is not kept, and stands in no escape, is not written. -/
lemma notMem_percentEncode {keep : Char → Bool} {d : Char} (dropped : keep d = false)
    (percent : d ≠ '%') (hex : ∀ n < 16, d ≠ hexDigit n) (cs : List Char) :
    d ∉ percentEncode keep cs := by
  intro mem
  obtain ⟨c, -, mem⟩ := List.mem_flatMap.1 mem
  split_ifs at mem with kept
  · rw [← List.mem_singleton.1 mem, dropped, Bool.and_false] at kept
    cases kept
  · obtain ⟨b, -, mem⟩ := List.mem_flatMap.1 mem
    have lt := b.toNat_lt
    simp only [percentEscape, List.mem_cons, List.not_mem_nil, or_false] at mem
    obtain e | e | e := mem
    · exact percent e
    · exact hex _ (by omega) e
    · exact hex _ (by omega) e

/-- The escapes of a text are read as the bytes of the text. -/
theorem percentDecode_encode {keep : Char → Bool} (percent : keep '%' = false) (cs : List Char) :
    percentDecode (percentEncode keep cs) = cs.flatMap String.utf8EncodeChar := by
  rw [percentEncode]
  induction cs with
  | nil => rfl
  | cons c cs ih =>
    rw [List.flatMap_cons, List.flatMap_cons]
    split_ifs with kept
    · have other : c ≠ '%' := fun e => by
        rw [e, percent, Bool.and_false] at kept
        cases kept
      rw [List.singleton_append, percentDecode_cons other, ih]
    · rw [percentDecode_escapes, ih]

end JobCluster.Text
