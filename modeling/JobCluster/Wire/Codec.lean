import JobCluster.Json.Scan
import JobCluster.Counters.Basic
import JobCluster.Time.Rfc3339

/-!
# Codecs of messages

A codec (`Codec`) says in one place how a type is written as JSON and read back. Records are
described by the list of their members (`Fields`), from which both directions follow: a record is
written with its members in order, and read from a JSON record with the members in any order or from
a list of the member values in order. A reader stops at the first fault in the order of the text and
tells whether the text was malformed or well formed but of another shape (`ReadError`).
-/

namespace JobCluster.Wire

open JobCluster.Json JobCluster.Text JobCluster.Number JobCluster.Time

/-- Why a text is no message of the wanted type. -/
inductive ReadError where
  | malformed
  | mistyped
deriving DecidableEq, Repr

/-- How a type is written as JSON and read back. -/
structure Codec (α : Type) where
  write : α → Value
  read : Scanned → Except ReadError α

/-- The fault of a tree found where a value of another shape belongs: a fault in its text comes
first, save that the inside of a list or record is not looked at. -/
def mismatch : Scanned → ReadError
  | .broken => .malformed
  | .unpaired => .malformed
  | .number n => if n.quantity = .tooLarge then .malformed else .mistyped
  | _ => .mistyped

namespace Codec

/-- Text. -/
def text : Codec String where
  write := .text
  read
    | .text s => .ok s
    | t => .error (mismatch t)

/-- A truth value. -/
def bool : Codec Bool where
  write := .bool
  read
    | .bool b => .ok b
    | t => .error (mismatch t)

/-- Reads a natural number of at most `limit`. -/
def readWord (limit : Nat) : Scanned → Except ReadError Nat
  | .number n =>
    match n.quantity with
    | .natural v => if v ≤ limit then .ok v else .error .mistyped
    | .tooLarge => .error .malformed
    | _ => .error .mistyped
  | t => .error (mismatch t)

/-- A 32-bit word. -/
def word32 : Codec UInt32 where
  write n := .nat n.toNat
  read t := (readWord maxWord32 t).map UInt32.ofNat

/-- A 64-bit word. -/
def word64 : Codec UInt64 where
  write n := .nat n.toNat
  read t := (readWord maxWord64 t).map UInt64.ofNat

/-- A binary number; an infinity is written null. Integers are read exactly, then rounded; other
numerals are rounded to the 64-bit format first. -/
def real (f : Format) : Codec (Binary f) where
  write x := (Numeral.ofBinary x).elim .null .number
  read
    | .number n =>
      match n.quantity with
      | .natural v => .ok (Binary.ofNat f v)
      | .negative v => .ok (Binary.ofNat f v).neg
      | .real x => .ok (x.convert f)
      | .tooLarge => .error .malformed
    | t => .error (mismatch t)

/-- An instant. -/
def instant : Codec Instant where
  write i := .text (rfc3339 i)
  read
    | .text s => (readInstant s).elim (.error .mistyped) .ok
    | t => .error (mismatch t)

/-- A list. -/
def list {α : Type} (c : Codec α) : Codec (List α) where
  write xs := .list (xs.map c.write)
  read
    | .list ts => ts.mapM c.read
    | t => .error (mismatch t)

/-- A value or null. -/
def option {α : Type} (c : Codec α) : Codec (Option α) where
  write := Value.orNull c.write
  read
    | .null => .ok none
    | t => (c.read t).map some

/-- Reads the entries of a table; the last of equal keys counts. -/
def readEntries {α : Type} (c : Codec α) (acc : Table α) :
    List (Scanned × Scanned) → Except ReadError (Table α)
  | [] => .ok acc
  | (.text k, t) :: rest => do readEntries c (acc.insert k (← c.read t)) rest
  | _ :: _ => .error .malformed

/-- A table, written as a record. -/
def table {α : Type} (c : Codec α) : Codec (Table α) where
  write t := .record (t.entries.map fun e => (e.1, c.write e.2))
  read
    | .record ms => readEntries c Table.empty ms
    | t => .error (mismatch t)

/-- Names of the values of an enumeration. -/
structure Names (α : Type) where
  name : α → String
  ofName? : String → Option α

/-- A value of an enumeration, written as its name. It may also be read from a record whose one
member has that name and is null. -/
def enumeration {α : Type} (names : Names α) : Codec α where
  write a := .text (names.name a)
  read
    | .text s => (names.ofName? s).elim (.error .mistyped) .ok
    | .record ((.text s, t) :: rest) =>
      match names.ofName? s, t, rest with
      | none, _, _ => .error .mistyped
      | some a, .null, [] => .ok a
      | some _, .null, _ :: _ => .error .malformed
      | some _, t, _ => .error (mismatch t)
    | .record ((k, _) :: _) => .error (mismatch k)
    | _ => .error .malformed

/-- A type written as another. -/
def iso {α β : Type} (c : Codec α) (into : β → α) (outOf : α → β) : Codec β where
  write b := c.write (into b)
  read t := (c.read t).map outOf

/-- Counters, written as a record of records. -/
def counters : Codec Counters := (table (table word64)).iso Counters.groups Counters.mk

/-- Reads the message at the front of a text; what follows it is not looked at. -/
def readFront {α : Type} (c : Codec α) (s : String) : Except ReadError α :=
  c.read (scanFront s.toList).1

/-- Reads a text that is one message and nothing else. -/
def readText {α : Type} (c : Codec α) (s : String) : Except ReadError α := do
  let (t, rest) := scanFront s.toList
  let a ← c.read t
  match rest with
  | some rest => if (skipSpace rest).isEmpty then .ok a else .error .malformed
  | none => .error .malformed

/-- Writes a message as text. -/
def writeText {α : Type} (c : Codec α) (a : α) : String := (c.write a).toText

end Codec

/-- What it means that a member is absent: its value where a record leaves it out, its value where a
list of member values ends before it, and which values are left out in writing. -/
structure Presence (α : Type) where
  leftOut : Option α
  cutOff : Option α
  omits : α → Bool

namespace Presence

variable {α : Type}

/-- The member has to be there. -/
def required : Presence α := ⟨none, none, fun _ => false⟩

/-- An absent member has a default value. -/
def withDefault (a : α) : Presence α := ⟨some a, some a, fun _ => false⟩

/-- A record may leave the member out; a list of member values may not. -/
def optional : Presence (Option α) := ⟨some none, none, fun _ => false⟩

/-- The member is left out when it has no value. -/
def onlyIfSome : Presence (Option α) := ⟨some none, some none, Option.isNone⟩

end Presence

/-- The members of a record: names, codecs and presence. The first index is the tuple of values, the
second the tuple of values found so far. -/
inductive Fields : Type → Type → Type 1 where
  | done : Fields Unit Unit
  | field {α τ σ : Type} (name : String) (codec : Codec α) (presence : Presence α)
      (rest : Fields τ σ) : Fields (α × τ) (Option α × σ)

namespace Fields

/-- The members that a tuple of values is written as. -/
def members {τ σ : Type} : Fields τ σ → τ → List (String × Value)
  | .done, _ => []
  | .field name c p rest, (a, t) =>
    if p.omits a then rest.members t else (name, c.write a) :: rest.members t

/-- Nothing found so far. -/
def nothing {τ σ : Type} : Fields τ σ → σ
  | .done => ()
  | .field _ _ _ rest => (none, rest.nothing)

/-- Takes a member that was read; `none` if no field has its name. A second member of one name is a
fault, whatever its value. -/
def take {τ σ : Type} : Fields τ σ → String → Scanned → σ → Option (Except ReadError σ)
  | .done, _, _, _ => none
  | .field name c _ rest, key, t, (found, others) =>
    if key = name then
      match found with
      | some _ => some (.error .mistyped)
      | none => some ((c.read t).map fun a => (some a, others))
    else (rest.take key t others).map (·.map fun s => (found, s))

/-- The tuple of values, when the members end. -/
def gather {τ σ : Type} : Fields τ σ → σ → Except ReadError τ
  | .done, _ => .ok ()
  | .field _ _ p rest, (found, others) =>
    match found.or p.leftOut with
    | some a => (rest.gather others).map fun t => (a, t)
    | none => .error .mistyped

/-- Reads members in the order of the text. A member of another name is skipped. -/
def readMembers {τ σ : Type} (fs : Fields τ σ) (found : σ) :
    List (Scanned × Scanned) → Except ReadError τ
  | [] => fs.gather found
  | (.text key, t) :: rest =>
    match fs.take key t found with
    | some (.ok found') => fs.readMembers found' rest
    | some (.error e) => .error e
    | none => if t.isWhole then fs.readMembers found rest else .error .malformed
  | _ :: _ => .error .malformed

/-- Reads member values in order from a list. -/
def readItems {τ σ : Type} : Fields τ σ → List Scanned → Except ReadError τ
  | .done, [] => .ok ()
  | .done, _ :: _ => .error .malformed
  | .field _ c _ rest, t :: ts => do
    let a ← c.read t
    let r ← rest.readItems ts
    pure (a, r)
  | .field _ _ p rest, [] =>
    match p.cutOff with
    | some a => (rest.readItems []).map fun r => (a, r)
    | none => .error .mistyped

end Fields

/-- The codec of a record type from its members. -/
def Codec.record {α τ σ : Type} (fs : Fields τ σ) (toTuple : α → τ) (ofTuple : τ → α) :
    Codec α where
  write a := .record (fs.members (toTuple a))
  read
    | .record ms => (fs.readMembers fs.nothing ms).map ofTuple
    | .list ts => (fs.readItems ts).map ofTuple
    | t => .error (mismatch t)

end JobCluster.Wire
