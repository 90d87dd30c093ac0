import JobCluster.Json.Numeral

/-!
# JSON values and their text

The values that messages are written as (`Value`) and the one text of each (`Value.text`): no space
between tokens, members in the order given, quotes, backslashes and control characters escaped.
-/

namespace JobCluster.Json

open JobCluster.Text

/-- A JSON value to be written. -/
inductive Value where
  | null
  | bool (b : Bool)
  | number (n : Numeral)
  | text (s : String)
  | list (items : List Value)
  | record (members : List (String × Value))
deriving Repr

namespace Value

/-- A natural number. -/
def nat (n : Nat) : Value := .number (.ofNat n)

/-- An integer. -/
def int (n : Int) : Value := .number (.ofInt n)

/-- A list of texts. -/
def texts (ss : List String) : Value := .list (ss.map .text)

/-- A value that may be absent, then null. -/
def orNull {α : Type} (write : α → Value) : Option α → Value
  | some a => write a
  | none => .null

end Value

/-- A lower-case hex digit. -/
def lowHex (n : Nat) : Char :=
  if n < 10 then Char.ofNat ('0'.toNat + n) else Char.ofNat ('a'.toNat + (n - 10))

/-- A character inside a quoted text. -/
def escapeChar (c : Char) : List Char :=
  if c = '"' then ['\\', '"']
  else if c = '\\' then ['\\', '\\']
  else if c = '\n' then ['\\', 'n']
  else if c = '\r' then ['\\', 'r']
  else if c = '\t' then ['\\', 't']
  else if c.toNat = 8 then ['\\', 'b']
  else if c.toNat = 12 then ['\\', 'f']
  else if c.toNat < 32 then ['\\', 'u', '0', '0', lowHex (c.toNat / 16), lowHex (c.toNat % 16)]
  else [c]

/-- A quoted text. -/
def quote (s : String) : List Char := '"' :: s.toList.flatMap escapeChar ++ ['"']

/-- Parts with a comma between neighbours. -/
def commaSeparated : List (List Char) → List Char
  | [] => []
  | [p] => p
  | p :: q :: rest => p ++ ',' :: commaSeparated (q :: rest)

mutual

/-- The text of a value. -/
def Value.chars : Value → List Char
  | .null => ['n', 'u', 'l', 'l']
  | .bool true => ['t', 'r', 'u', 'e']
  | .bool false => ['f', 'a', 'l', 's', 'e']
  | .number n => n.text
  | .text s => quote s
  | .list items => '[' :: commaSeparated (itemChars items) ++ [']']
  | .record members => '\x7b' :: commaSeparated (memberChars members) ++ ['\x7d']

/-- The texts of the items of a list. -/
def itemChars : List Value → List (List Char)
  | [] => []
  | v :: vs => v.chars :: itemChars vs

/-- The texts of the members of a record. -/
def memberChars : List (String × Value) → List (List Char)
  | [] => []
  | (k, v) :: ms => (quote k ++ ':' :: v.chars) :: memberChars ms

end

/-- The text of a value. -/
def Value.toText (v : Value) : String := String.ofList v.chars

end JobCluster.Json
