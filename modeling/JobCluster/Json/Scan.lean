import JobCluster.Json.Value
import JobCluster.Text.Percent

/-!
# Reading JSON text

A text is read as a tree that may break off (`Scanned`): where the text stops being JSON, the tree
has the leaf `broken` and goes no further. A reader of messages that walks the tree in the order of
the text therefore meets a malformed place exactly when it gets there, and an ill-typed value in
front of it first. Texts with an unpaired surrogate escape have a leaf of their own: they may be
skipped but not read.
-/

namespace JobCluster.Json

open JobCluster.Text

/-- What was read of a JSON text. A member's key is a value too, so that a key that is no text can
be told from a missing one. -/
inductive Scanned where
  | null
  | bool (b : Bool)
  | number (n : Numeral)
  | text (s : String)
  | unpaired
  | list (items : List Scanned)
  | record (members : List (Scanned × Scanned))
  | broken
deriving Repr

/-- Whether a character separates tokens. -/
def isSpace (c : Char) : Bool := c == ' ' || c == '\n' || c == '\t' || c == '\r'

/-- The text from its next token on. -/
def skipSpace (cs : List Char) : List Char := cs.dropWhile isSpace

/-- The text after a given beginning. -/
def after? (start cs : List Char) : Option (List Char) :=
  if start.isPrefixOf cs then some (cs.drop start.length) else none

/-- The value of four hex digits, and the text after them. -/
def hexQuad? : List Char → Option (Nat × List Char)
  | a :: b :: c :: d :: rest => do
    let a ← hexValue? a
    let b ← hexValue? b
    let c ← hexValue? c
    let d ← hexValue? d
    pure (a * 4096 + b * 256 + c * 16 + d, rest)
  | _ => none

/-- The character that a one-letter escape stands for. -/
def simpleEscape? (c : Char) : Option Char :=
  if c = '"' ∨ c = '\\' ∨ c = '/' then some c
  else if c = 'b' then some (Char.ofNat 8)
  else if c = 'f' then some (Char.ofNat 12)
  else if c = 'n' then some '\n'
  else if c = 'r' then some '\r'
  else if c = 't' then some '\t'
  else none

/-- Whether a code is the first half of a surrogate pair. -/
def isHighSurrogate (n : Nat) : Bool := 0xD800 ≤ n && n ≤ 0xDBFF

/-- Whether a code is the second half of a surrogate pair. -/
def isLowSurrogate (n : Nat) : Bool := 0xDC00 ≤ n && n ≤ 0xDFFF

/-- One unit of a quoted text: a character, half a surrogate pair, the closing quote, or a fault. -/
inductive TextUnit where
  | char (c : Char) (rest : List Char)
  | half (code : Nat) (rest : List Char)
  | close (rest : List Char)
  | fault

/-- Reads the next unit of a quoted text. -/
def textUnit : List Char → TextUnit
  | [] => .fault
  | '"' :: rest => .close rest
  | '\\' :: 'u' :: rest =>
    match hexQuad? rest with
    | none => .fault
    | some (n, rest) =>
      if isHighSurrogate n || isLowSurrogate n then .half n rest else .char (Char.ofNat n) rest
  | '\\' :: c :: rest =>
    match simpleEscape? c with
    | some d => .char d rest
    | none => .fault
  | c :: rest => if c.toNat < 32 || c == '\\' then .fault else .char c rest

/-- Reads a quoted text after its opening quote. The flag tells whether every surrogate so far is
paired; `fuel` bounds the number of units. -/
def scanText : Nat → List Char → Bool → List Char → Scanned × Option (List Char)
  | 0, _, _, _ => (.broken, none)
  | fuel + 1, acc, paired, cs =>
    match textUnit cs with
    | .fault => (.broken, none)
    | .close rest => (if paired then .text (String.ofList acc.reverse) else .unpaired, some rest)
    | .char c rest => scanText fuel (c :: acc) paired rest
    | .half n rest =>
      match isHighSurrogate n, textUnit rest with
      | true, .half m rest' =>
        if isLowSurrogate m then
          let code := 0x10000 + (n - 0xD800) * 0x400 + (m - 0xDC00)
          scanText fuel (Char.ofNat code :: acc) paired rest'
        else scanText fuel acc false rest
      | _, _ => scanText fuel acc false rest

/-- The digits at the front of a text, and the text after them. -/
def scanDigits : List Char → List Nat × List Char
  | [] => ([], [])
  | c :: cs =>
    match digitValue? c with
    | some d => let (ds, rest) := scanDigits cs; (d :: ds, rest)
    | none => ([], c :: cs)

/-- Reads a fraction if there is one; `none` if it has no digit. -/
def scanFraction : List Char → Option (List Nat × List Char)
  | '.' :: cs =>
    match scanDigits cs with
    | ([], _) => none
    | found => some found
  | cs => some ([], cs)

/-- Reads an exponent after its letter; `none` if it has no digit. -/
def scanPower (cs : List Char) : Option (Option Int × List Char) :=
  let (negative, cs) := match cs with
    | '+' :: rest => (false, rest)
    | '-' :: rest => (true, rest)
    | _ => (false, cs)
  match scanDigits cs with
  | ([], _) => none
  | (ds, rest) =>
    let n : Int := ofDigitValues ds
    some (some (if negative then -n else n), rest)

/-- Reads an exponent if there is one. -/
def scanExponent : List Char → Option (Option Int × List Char)
  | 'e' :: cs => scanPower cs
  | 'E' :: cs => scanPower cs
  | cs => some (none, cs)

/-- Reads a numeral: no zero in front of other digits, a digit after the point and in the exponent.
-/
def scanNumeral (cs : List Char) : Option (Numeral × List Char) := do
  let (negative, cs) := match cs with
    | '-' :: rest => (true, rest)
    | _ => (false, cs)
  let (whole, rest) := scanDigits cs
  if whole.isEmpty || (whole.head? == some 0 && 1 < whole.length) then none
  let (fraction, rest) ← scanFraction rest
  let (exponent, rest) ← scanExponent rest
  pure (⟨negative, whole, fraction, exponent⟩, rest)

/-- Reads a value that starts with a letter. -/
def scanKeyword (cs : List Char) : Scanned × Option (List Char) :=
  match after? ['n', 'u', 'l', 'l'] cs, after? ['t', 'r', 'u', 'e'] cs,
    after? ['f', 'a', 'l', 's', 'e'] cs with
  | some rest, _, _ => (.null, some rest)
  | _, some rest, _ => (.bool true, some rest)
  | _, _, some rest => (.bool false, some rest)
  | _, _, _ => (.broken, none)

mutual

/-- Reads one value. The rest is `none` where the text broke off. -/
def scanValue : Nat → List Char → Scanned × Option (List Char)
  | 0, _ => (.broken, none)
  | fuel + 1, cs =>
    match skipSpace cs with
    | '"' :: rest => scanText (rest.length + 1) [] true rest
    | '[' :: rest =>
      match skipSpace rest with
      | ']' :: rest' => (.list [], some rest')
      | _ => let (items, rest') := scanItems fuel rest; (.list items, rest')
    | '\x7b' :: rest =>
      match skipSpace rest with
      | '\x7d' :: rest' => (.record [], some rest')
      | _ => let (members, rest') := scanMembers fuel rest; (.record members, rest')
    | c :: rest =>
      if c == '-' || c.isDigit then
        match scanNumeral (c :: rest) with
        | some (n, rest') => (.number n, some rest')
        | none => (.broken, none)
      else scanKeyword (c :: rest)
    | [] => (.broken, none)

/-- Reads the items of a list up to its closing bracket. -/
def scanItems : Nat → List Char → List Scanned × Option (List Char)
  | 0, _ => ([.broken], none)
  | fuel + 1, cs =>
    match scanValue fuel cs with
    | (v, none) => ([v], none)
    | (v, some rest) =>
      match skipSpace rest with
      | ']' :: rest' => ([v], some rest')
      | ',' :: rest' => let (vs, rest'') := scanItems fuel rest'; (v :: vs, rest'')
      | _ => ([v, .broken], none)

/-- Reads the members of a record up to its closing brace. -/
def scanMembers : Nat → List Char → List (Scanned × Scanned) × Option (List Char)
  | 0, _ => ([(.broken, .broken)], none)
  | fuel + 1, cs =>
    match skipSpace cs with
    | '"' :: afterQuote =>
      match scanText (afterQuote.length + 1) [] true afterQuote with
      | (k, none) => ([(k, .broken)], none)
      | (k, some rest) =>
        match skipSpace rest with
        | ':' :: rest' =>
          match scanValue fuel rest' with
          | (v, none) => ([(k, v)], none)
          | (v, some rest) =>
            match skipSpace rest with
            | '\x7d' :: rest' => ([(k, v)], some rest')
            | ',' :: rest' => let (ms, rest'') := scanMembers fuel rest'; ((k, v) :: ms, rest'')
            | _ => ([(k, v), (.broken, .broken)], none)
        | _ => ([(k, .broken)], none)
    | _ => ([((scanValue fuel cs).1, .broken)], none)

end

/-- Reads the value at the front of a text, and the text after it. -/
def scanFront (cs : List Char) : Scanned × Option (List Char) := scanValue (2 * cs.length + 2) cs

mutual

/-- The tree that the text of a value is read as. -/
def Value.scanned : Value → Scanned
  | .null => .null
  | .bool b => .bool b
  | .number n => .number n
  | .text s => .text s
  | .list items => .list (scannedItems items)
  | .record members => .record (scannedMembers members)

/-- The trees of the items of a list. -/
def scannedItems : List Value → List Scanned
  | [] => []
  | v :: vs => v.scanned :: scannedItems vs

/-- The trees of the members of a record. -/
def scannedMembers : List (String × Value) → List (Scanned × Scanned)
  | [] => []
  | (k, v) :: ms => (.text k, v.scanned) :: scannedMembers ms

end

mutual

/-- Whether the whole of a tree was read. An unpaired surrogate is no break. -/
def Scanned.isWhole : Scanned → Bool
  | .broken => false
  | .list items => allWhole items
  | .record members => allMembersWhole members
  | _ => true

/-- Whether all items of a list were read. -/
def allWhole : List Scanned → Bool
  | [] => true
  | v :: vs => v.isWhole && allWhole vs

/-- Whether all members of a record were read; a key has to be a text. -/
def allMembersWhole : List (Scanned × Scanned) → Bool
  | [] => true
  | (k, v) :: ms => isKey k && v.isWhole && allMembersWhole ms
where
  /-- Whether a tree may be a key when the member is skipped. -/
  isKey : Scanned → Bool
    | .text _ => true
    | .unpaired => true
    | _ => false

end

end JobCluster.Json
