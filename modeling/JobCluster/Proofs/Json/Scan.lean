import JobCluster.Proofs.Json.Numeral

/-!
# Values, written and read

A value with proper numerals (`Value.Proper`) is read from its text, all of it and nothing else
(`scanFront_chars`). The induction is on the value: each part is read up to the comma or bracket
after it, with fuel for two steps a character.
-/

namespace JobCluster.Json

open JobCluster.Text

/-! ## Quoted texts -/

/-- A small hexadecimal digit is read as it was written. -/
lemma hexValue?_lowHex {n : Nat} (lt : n < 16) : hexValue? (lowHex n) = some n := by
  interval_cases n <;> rfl

/-- The four digits of a control character are read as they were written. -/
lemma hexQuad?_low {n : Nat} (lt : n < 256) (r : List Char) :
    hexQuad? ('0' :: '0' :: lowHex (n / 16) :: lowHex (n % 16) :: r) = some (n, r) := by
  rw [hexQuad?, hexValue?_lowHex (by omega), hexValue?_lowHex (by omega)]
  have value : 0 * 4096 + 0 * 256 + n / 16 * 16 + n % 16 = n := by omega
  exact congrArg (fun n => some (n, r)) value

/-- A character is read from its place in a quoted text. -/
lemma textUnit_escapeChar (c : Char) (r : List Char) :
    textUnit (escapeChar c ++ r) = .char c r := by
  rw [escapeChar]
  -- by the way in which the character is escaped, if it is
  split_ifs with quote slash newline back tab bell feed low
  · rw [quote]; rfl
  · rw [slash]; rfl
  · rw [newline]; rfl
  · rw [back]; rfl
  · rw [tab]; rfl
  · rw [Char.toNat_inj.1 (show c.toNat = (Char.ofNat 8).toNat from bell)]; rfl
  · rw [Char.toNat_inj.1 (show c.toNat = (Char.ofNat 12).toNat from feed)]; rfl
  · have high : isHighSurrogate c.toNat = false := by
      rw [isHighSurrogate, decide_eq_false (by omega), Bool.false_and]
    have lower : isLowSurrogate c.toNat = false := by
      rw [isLowSurrogate, decide_eq_false (by omega), Bool.false_and]
    change textUnit ('\\' :: 'u' :: '0' :: '0' :: lowHex (c.toNat / 16) :: lowHex (c.toNat % 16) ::
      r) = _
    rw [textUnit, hexQuad?_low (by omega)]
    simp only [high, lower, Bool.or_self, Bool.false_eq_true, if_false, Char.ofNat_toNat]
  · rw [List.singleton_append, textUnit]
    · simp [low, slash]
    · rintro ⟨⟩
      exact quote rfl
    · rintro rest ⟨⟩
      exact absurd rfl slash
    · rintro d rest ⟨⟩
      exact absurd rfl slash

/-- An escaped text is read up to its quotation mark. -/
lemma scanText_chars (cs : List Char) {fuel : Nat} (acc r : List Char) (lt : cs.length < fuel) :
    scanText fuel acc true (cs.flatMap escapeChar ++ '"' :: r) =
      (.text (String.ofList (acc.reverse ++ cs)), some r) := by
  induction cs generalizing fuel acc with
  | nil =>
    obtain ⟨fuel, rfl⟩ := Nat.exists_eq_add_of_lt lt
    rw [List.flatMap_nil, List.nil_append, scanText, textUnit, List.append_nil]
    rfl
  | cons c cs ih =>
    obtain ⟨fuel, rfl⟩ : ∃ n, fuel = n + 1 := ⟨fuel - 1, by omega⟩
    rw [List.length_cons] at lt
    rw [List.flatMap_cons, List.append_assoc, scanText, textUnit_escapeChar]
    dsimp only
    rw [ih (c :: acc) (by omega), List.reverse_cons, List.append_assoc, List.singleton_append]

/-- Escaping makes no text shorter, so the fuel for its length is enough. -/
lemma length_le_escaped (cs : List Char) : cs.length ≤ (cs.flatMap escapeChar).length := by
  induction cs with
  | nil => exact le_rfl
  | cons c cs ih =>
    have some_char : 0 < (escapeChar c).length := by
      rw [escapeChar]
      split_ifs <;> exact Nat.zero_lt_succ _
    rw [List.flatMap_cons, List.length_append, List.length_cons]
    omega

/-- A text is read from what stands between its quotes. -/
lemma scanText_quoted (s : String) (r : List Char) :
    scanText ((s.toList.flatMap escapeChar ++ '"' :: r).length + 1) [] true
      (s.toList.flatMap escapeChar ++ '"' :: r) = (.text s, some r) := by
  have le := length_le_escaped s.toList
  rw [scanText_chars _ [] r (by rw [List.length_append]; omega), List.reverse_nil,
    List.nil_append, String.ofList_toList]

/-! ## Values -/

/-- A value whose numerals are proper. -/
inductive Value.Proper : Value → Prop where
  | null : Proper .null
  | bool (b : Bool) : Proper (.bool b)
  | number {n : Numeral} (proper : n.Proper) : Proper (.number n)
  | text (s : String) : Proper (.text s)
  | list {items : List Value} (proper : ∀ v ∈ items, v.Proper) : Proper (.list items)
  | record {members : List (String × Value)} (proper : ∀ m ∈ members, m.2.Proper) :
    Proper (.record members)

/-- A token starts here: no blank, and not the end of a list. -/
def Starts (cs : List Char) : Prop := ∃ c rest, cs = c :: rest ∧ isSpace c = false ∧ c ≠ ']'

/-- No space is skipped where a value starts. -/
lemma Starts.skipSpace {cs : List Char} (starts : Starts cs) (r : List Char) :
    skipSpace (cs ++ r) = cs ++ r := by
  obtain ⟨c, rest, rfl, blank, -⟩ := starts
  rw [List.cons_append, Json.skipSpace, List.dropWhile_cons_of_neg (by rw [blank]; decide)]

/-- A numeral starts with its sign or a digit. -/
lemma Numeral.Proper.starts {n : Numeral} (proper : n.Proper) :
    ∃ c rest, n.text = c :: rest ∧ (c = '-' ∨ c.isDigit) := by
  obtain ⟨negative, whole, fraction, exponent⟩ := n
  obtain ⟨d, ds, rfl⟩ := List.exists_cons_of_ne_nil proper.nonempty
  cases negative with
  | true => exact ⟨_, _, rfl, .inl rfl⟩
  | false =>
    have lt : d < 10 := proper.whole d List.mem_cons_self
    exact ⟨_, _, rfl, .inr (by interval_cases d <;> decide)⟩

/-- What is written for a value starts like one. -/
lemma Value.Proper.starts {v : Value} (proper : v.Proper) : Starts v.chars := by
  cases proper with
  | null => exact ⟨_, _, rfl, by decide, by decide⟩
  | bool b => cases b <;> exact ⟨_, _, rfl, by decide, by decide⟩
  | text s => exact ⟨_, _, rfl, by decide, by decide⟩
  | list _ => exact ⟨_, _, rfl, by decide, by decide⟩
  | record _ => exact ⟨_, _, rfl, by decide, by decide⟩
  | number proper =>
    obtain ⟨c, rest, text, sign | digit⟩ := proper.starts
    · exact ⟨c, rest, text, by rw [sign]; decide, by rw [sign]; decide⟩
    · refine ⟨c, rest, text, ?_, ?_⟩
      · by_contra space
        rw [Bool.not_eq_false, isSpace] at space
        simp only [Bool.or_eq_true, beq_iff_eq] at space
        obtain ((rfl | rfl) | rfl) | rfl := space <;> exact absurd digit (by decide)
      · rintro rfl
        exact absurd digit (by decide)

/-- A value is read from its text wherever a value may stand. -/
def Value.Reads (v : Value) : Prop :=
  ∀ {fuel : Nat} {r : List Char}, Continues r → 2 * v.chars.length ≤ fuel + 1 →
    scanValue (fuel + 1) (v.chars ++ r) = (v.scanned, some r)

/-- A value that reads is scanned up to what follows it. -/
lemma Value.Reads.scan {v : Value} (reads : v.Reads) (starts : Starts v.chars) {fuel : Nat}
    {r : List Char} (continues : Continues r) (le : 2 * v.chars.length ≤ fuel) :
    scanValue fuel (v.chars ++ r) = (v.scanned, some r) := by
  obtain ⟨c, rest, text, -⟩ := starts
  obtain ⟨fuel, rfl⟩ : ∃ n, fuel = n + 1 := ⟨fuel - 1, by rw [text, List.length_cons] at le; omega⟩
  exact reads continues le

/-- The null value reads. -/
lemma reads_null : Value.null.Reads := by
  intro fuel r _ _
  rw [scanValue]
  rfl

/-- The truth values read. -/
lemma reads_bool (b : Bool) : (Value.bool b).Reads := by
  intro fuel r _ _
  rw [scanValue]
  cases b <;> rfl

/-- A proper numeral reads. -/
lemma reads_number {n : Numeral} (proper : n.Proper) : (Value.number n).Reads := by
  intro fuel r continues _
  have read := scanNumeral_text proper continues
  obtain ⟨c, rest, text, start⟩ := proper.starts
  have chars : (Value.number n).chars ++ r = c :: (rest ++ r) := by
    rw [Value.chars, text, List.cons_append]
  have digit : c == '-' || c.isDigit := by
    rcases start with rfl | digit
    · rfl
    · rw [digit, Bool.or_true]
  rw [scanValue, (Value.Proper.number proper).starts.skipSpace, chars]
  rw [text, List.cons_append] at read
  split
  next e => cases e; exact absurd digit (by decide)
  next e => cases e; exact absurd digit (by decide)
  next e => cases e; exact absurd digit (by decide)
  next e =>
    cases e
    rw [if_pos digit, read]
    rfl
  next e => cases e

/-- Every text reads. -/
lemma reads_text (s : String) : (Value.text s).Reads := by
  intro fuel r _ _
  have text : (Value.text s).chars ++ r = '"' :: (s.toList.flatMap escapeChar ++ '"' :: r) := by
    simp only [Value.chars, quote, List.cons_append, List.append_assoc, List.nil_append]
  rw [text, scanValue]
  exact scanText_quoted s r

/-- Items that are not none start like a value. -/
lemma starts_items {v : Value} (items : List Value) (starts : Starts v.chars) :
    Starts (commaSeparated (itemChars (v :: items))) := by
  obtain ⟨c, rest, text, first⟩ := starts
  cases items with
  | nil => exact ⟨c, rest, text, first⟩
  | cons w items =>
    refine ⟨c, rest ++ ',' :: commaSeparated (itemChars (w :: items)), ?_, first⟩
    change v.chars ++ ',' :: commaSeparated (itemChars (w :: items)) = _
    rw [text, List.cons_append]

/-- Items that each read are read up to the closing bracket. -/
lemma reads_items {items : List Value} (ne : items ≠ []) (reads : ∀ v ∈ items, v.Reads)
    (starts : ∀ v ∈ items, Starts v.chars) {fuel : Nat} {r : List Char}
    (le : 2 * (commaSeparated (itemChars items)).length + 1 ≤ fuel) :
    scanItems fuel (commaSeparated (itemChars items) ++ ']' :: r) =
      (scannedItems items, some r) := by
  induction items generalizing fuel with
  | nil => exact absurd rfl ne
  | cons v items ih =>
    obtain ⟨read, others⟩ := List.forall_mem_cons.1 reads
    obtain ⟨start, more⟩ := List.forall_mem_cons.1 starts
    obtain ⟨fuel, rfl⟩ : ∃ n, fuel = n + 1 := ⟨fuel - 1, by omega⟩
    cases items with
    | nil =>
      change 2 * v.chars.length + 1 ≤ fuel + 1 at le
      change scanItems (fuel + 1) (v.chars ++ ']' :: r) = _
      rw [scanItems, read.scan start (continues_bracket r) (by omega)]
      rfl
    | cons w items =>
      have text : commaSeparated (itemChars (v :: w :: items)) =
          v.chars ++ ',' :: commaSeparated (itemChars (w :: items)) := rfl
      rw [text, List.length_append, List.length_cons] at le
      rw [text, List.append_assoc, List.cons_append, scanItems,
        read.scan start (continues_comma _) (by omega)]
      have below : 2 * (commaSeparated (itemChars (w :: items))).length + 1 ≤ fuel := by omega
      have rest := ih (List.cons_ne_nil _ _) others more below
      change (v.scanned :: (scanItems fuel _).1, (scanItems fuel _).2) = _
      rw [rest]
      rfl

/-- A list that is not empty is read item by item. -/
lemma scanValue_bracket {fuel : Nat} {cs : List Char}
    (filled : ∀ rest, skipSpace cs ≠ ']' :: rest) :
    scanValue (fuel + 1) ('[' :: cs) = (.list (scanItems fuel cs).1, (scanItems fuel cs).2) := by
  have front : skipSpace ('[' :: cs) = '[' :: cs := rfl
  rw [scanValue, front]
  split
  next e => exact absurd (List.cons.inj e).1 (by decide)
  next e =>
    cases e
    split
    next closed => exact absurd closed (filled _)
    next => rfl
  next e => exact absurd (List.cons.inj e).1 (by decide)
  next bracket _ e => exact (bracket (List.cons.inj e).1.symm).elim
  next e => cases e

/-- A list of values that read reads. -/
lemma reads_list {items : List Value} (reads : ∀ v ∈ items, v.Reads)
    (starts : ∀ v ∈ items, Starts v.chars) : (Value.list items).Reads := by
  intro fuel r _ le
  have text : (Value.list items).chars ++ r =
      '[' :: (commaSeparated (itemChars items) ++ ']' :: r) := by
    simp only [Value.chars, List.cons_append, List.append_assoc, List.nil_append]
  have length : (Value.list items).chars.length =
      (commaSeparated (itemChars items)).length + 2 := by
    simp only [Value.chars, List.cons_append, List.length_cons, List.length_append, List.length_nil]
  rw [text]
  cases items with
  | nil =>
    rw [scanValue]
    rfl
  | cons v items =>
    have read := @reads_items _ (List.cons_ne_nil v items) reads starts fuel r (by omega)
    obtain ⟨c, rest, e, blank, other⟩ := starts_items items (starts v List.mem_cons_self)
    have front := (starts_items items (starts v List.mem_cons_self)).skipSpace (']' :: r)
    rw [e, List.cons_append] at front
    rw [scanValue_bracket, read]
    · rfl
    · intro rest
      rw [e, List.cons_append, front]
      exact fun same => other (List.cons.inj same).1

/-- A member is read up to its value, whatever follows. -/
lemma scanMembers_member (k : String) (v : Value) (fuel : Nat) (r : List Char) :
    scanMembers (fuel + 1) (quote k ++ ':' :: v.chars ++ r) =
      match scanValue fuel (v.chars ++ r) with
      | (t, none) => ([(.text k, t)], none)
      | (t, some rest) =>
        match skipSpace rest with
        | '\x7d' :: rest => ([(.text k, t)], some rest)
        | ',' :: rest =>
          let (ms, rest) := scanMembers fuel rest
          ((.text k, t) :: ms, rest)
        | _ => ([(.text k, t), (.broken, .broken)], none) := by
  have text : quote k ++ ':' :: v.chars ++ r =
      '"' :: (k.toList.flatMap escapeChar ++ '"' :: (':' :: v.chars ++ r)) := by
    simp only [quote, List.cons_append, List.append_assoc, List.nil_append]
  have front (rest : List Char) : skipSpace ('"' :: rest) = '"' :: rest := rfl
  rw [text, scanMembers, front]
  split
  next e =>
    cases e
    rw [scanText_quoted]
    rfl
  next other => exact absurd rfl (other _)

/-- Members whose values read are read up to the closing brace. -/
lemma reads_members {members : List (String × Value)} (ne : members ≠ [])
    (reads : ∀ m ∈ members, m.2.Reads) (starts : ∀ m ∈ members, Starts m.2.chars) {fuel : Nat}
    {r : List Char} (le : 2 * (commaSeparated (memberChars members)).length + 1 ≤ fuel) :
    scanMembers fuel (commaSeparated (memberChars members) ++ '\x7d' :: r) =
      (scannedMembers members, some r) := by
  induction members generalizing fuel with
  | nil => exact absurd rfl ne
  | cons m members ih =>
    obtain ⟨k, v⟩ := m
    obtain ⟨read, others⟩ := List.forall_mem_cons.1 reads
    obtain ⟨start, more⟩ := List.forall_mem_cons.1 starts
    obtain ⟨fuel, rfl⟩ : ∃ n, fuel = n + 1 := ⟨fuel - 1, by omega⟩
    -- the fuel is twice the length, so it is enough for the value and for the rest
    have size : (quote k ++ ':' :: v.chars).length = (quote k).length + v.chars.length + 1 := by
      rw [List.length_append, List.length_cons]
      omega
    cases members with
    | nil =>
      change 2 * (quote k ++ ':' :: v.chars).length + 1 ≤ fuel + 1 at le
      change scanMembers (fuel + 1) (quote k ++ ':' :: v.chars ++ '\x7d' :: r) = _
      rw [scanMembers_member, read.scan start (continues_brace r) (by dsimp only; omega)]
      rfl
    | cons m members =>
      have text : commaSeparated (memberChars ((k, v) :: m :: members)) =
          quote k ++ ':' :: v.chars ++ ',' :: commaSeparated (memberChars (m :: members)) := rfl
      rw [text, List.length_append, List.length_cons] at le
      rw [text, List.append_assoc, List.cons_append,
        scanMembers_member, read.scan start (continues_comma _) (by dsimp only; omega)]
      have below : 2 * (commaSeparated (memberChars (m :: members))).length + 1 ≤ fuel := by omega
      have rest := ih (List.cons_ne_nil _ _) others more below
      change ((Scanned.text k, v.scanned) :: (scanMembers fuel _).1, (scanMembers fuel _).2) = _
      rw [rest]
      rfl

/-- A record of values that read reads. -/
lemma reads_record {members : List (String × Value)} (reads : ∀ m ∈ members, m.2.Reads)
    (starts : ∀ m ∈ members, Starts m.2.chars) : (Value.record members).Reads := by
  intro fuel r _ le
  have text : (Value.record members).chars ++ r =
      '\x7b' :: (commaSeparated (memberChars members) ++ '\x7d' :: r) := by
    simp only [Value.chars, List.cons_append, List.append_assoc, List.nil_append]
  have length : (Value.record members).chars.length =
      (commaSeparated (memberChars members)).length + 2 := by
    simp only [Value.chars, List.cons_append, List.length_cons, List.length_append, List.length_nil]
  rw [text, scanValue]
  cases members with
  | nil => rfl
  | cons m members =>
    have read := @reads_members _ (List.cons_ne_nil m members) reads starts fuel r (by omega)
    have front : ∃ rest,
        commaSeparated (memberChars (m :: members)) ++ '\x7d' :: r = '"' :: rest := by
      cases members <;> exact ⟨_, rfl⟩
    obtain ⟨rest, e⟩ := front
    rw [e] at read ⊢
    change (Scanned.record (scanMembers fuel ('"' :: rest)).1, (scanMembers fuel _).2) = _
    rw [read]
    rfl

/-- Every proper value reads. -/
theorem Value.Proper.reads {v : Value} (proper : v.Proper) : v.Reads := by
  induction proper with
  | null => exact reads_null
  | bool b => exact reads_bool b
  | number proper => exact reads_number proper
  | text s => exact reads_text s
  | list proper ih => exact reads_list ih fun v mem => (proper v mem).starts
  | record proper ih => exact reads_record ih fun m mem => (proper m mem).starts

/-- A value is read from its text, all of it. -/
theorem scanFront_chars {v : Value} (proper : v.Proper) :
    scanFront v.chars = (v.scanned, some []) := by
  have read := @Value.Proper.reads v proper (2 * v.chars.length + 1) [] continues_nil (by omega)
  rw [List.append_nil] at read
  exact read

end JobCluster.Json
