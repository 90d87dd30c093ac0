/-!
# UTF-8

Bytes of a text (`utf8`), and the text of bytes that may be ill-formed. `utf8Units` cuts a byte
string into characters and maximal ill-formed parts; the strict reader `ofUtf8?` refuses any such
part, the lenient reader `ofUtf8Lossy` writes one replacement character for each.
-/

namespace JobCluster.Text

/-- The bytes of a text. -/
def utf8 (s : String) : List UInt8 := s.toList.flatMap String.utf8EncodeChar

/-- How many bytes a text takes. -/
def utf8Length (s : String) : Nat := s.toList.foldr (fun c n => c.utf8Size + n) 0

/-- What may follow a lead byte: the payload of the lead byte, the range of the next byte, and how
many more continuation bytes come after that one. -/
structure LeadByte where
  payload : Nat
  low : Nat := 0x80
  high : Nat := 0xBF
  more : Nat

/-- The well-formed multi-byte sequences by their first byte. -/
def leadByte? (b : Nat) : Option LeadByte :=
  if 0xC2 ≤ b ∧ b ≤ 0xDF then some { payload := b - 0xC0, more := 0 }
  else if b = 0xE0 then some { payload := 0, low := 0xA0, more := 1 }
  else if b = 0xED then some { payload := 0xD, high := 0x9F, more := 1 }
  else if 0xE1 ≤ b ∧ b ≤ 0xEF then some { payload := b - 0xE0, more := 1 }
  else if b = 0xF0 then some { payload := 0, low := 0x90, more := 2 }
  else if 0xF1 ≤ b ∧ b ≤ 0xF3 then some { payload := b - 0xF0, more := 2 }
  else if b = 0xF4 then some { payload := 4, high := 0x8F, more := 2 }
  else none

/-- Reads the continuation bytes of a sequence: the character or `none`, and how many bytes belong
to it. -/
def continuation (code low high : Nat) : Nat → List UInt8 → Option Char × Nat
  | more, b :: rest =>
    if low ≤ b.toNat ∧ b.toNat ≤ high then
      let code := code * 64 + (b.toNat - 0x80)
      match more with
      | 0 => (some (Char.ofNat code), 1)
      | more + 1 =>
        let (c, n) := continuation code 0x80 0xBF more rest
        (c, n + 1)
    else (none, 0)
  | _, [] => (none, 0)

/-- Cuts bytes into characters and, as `none`, maximal ill-formed parts. The count skips the bytes
that belong to the unit before. -/
def utf8UnitsFrom : Nat → List UInt8 → List (Option Char)
  | _, [] => []
  | skip + 1, _ :: rest => utf8UnitsFrom skip rest
  | 0, b :: rest =>
    if b.toNat < 0x80 then some (Char.ofNat b.toNat) :: utf8UnitsFrom 0 rest
    else match leadByte? b.toNat with
      | none => none :: utf8UnitsFrom 0 rest
      | some lead =>
        let (c, n) := continuation lead.payload lead.low lead.high lead.more rest
        c :: utf8UnitsFrom n rest

/-- The characters and maximal ill-formed parts of a byte string. -/
def utf8Units (bytes : List UInt8) : List (Option Char) := utf8UnitsFrom 0 bytes

/-- The text of a well-formed byte string. -/
def ofUtf8? (bytes : List UInt8) : Option String :=
  ((utf8Units bytes).mapM id).map String.ofList

/-- The text of any byte string, with U+FFFD for each maximal ill-formed part. -/
def ofUtf8Lossy (bytes : List UInt8) : String :=
  String.ofList ((utf8Units bytes).map (·.getD (Char.ofNat 0xFFFD)))

end JobCluster.Text
