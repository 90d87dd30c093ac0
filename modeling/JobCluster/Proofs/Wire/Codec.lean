import JobCluster.Wire.Codec
import JobCluster.Proofs.Json.Scan
import JobCluster.Proofs.Table
import JobCluster.Proofs.Time.Rfc3339

/-!
# What codecs carry

A codec carries a value when it writes it properly and reads it back from the tree of what it has
written (`Codec.Carries`); the message is then read back from its text (`Carries.readFront`). There
is one lemma for each way to build a codec. That of records goes over the members: a member is
either written and read, or it is left out where its absence stands for its value
(`Presence.Keeps`).
-/

namespace JobCluster.Wire

open JobCluster.Json JobCluster.Text JobCluster.Number JobCluster.Time

variable {α β : Type}

/-- A value is written properly and read back from the tree that it is written as. -/
structure Codec.Carries (c : Codec α) (a : α) : Prop where
  proper : (c.write a).Proper
  back : c.read (c.write a).scanned = .ok a

namespace Codec

/-- A value at the front of a text is read as it was written. -/
lemma Carries.readFront {c : Codec α} {a : α} (carries : c.Carries a) :
    c.readFront (c.writeText a) = .ok a := by
  rw [Codec.readFront, writeText, Value.toText, String.toList_ofList,
    scanFront_chars carries.proper]
  exact carries.back

/-- A value that is written properly is read from its text as from the tree of it. -/
lemma readText_writeText {c : Codec α} {a : α} (proper : (c.write a).Proper) :
    c.readText (c.writeText a) = c.read (c.write a).scanned := by
  rw [Codec.readText, writeText, Value.toText, String.toList_ofList, scanFront_chars proper]
  dsimp only
  cases c.read (c.write a).scanned <;> rfl

/-- A value that is the whole text is read as it was written. -/
lemma Carries.readText {c : Codec α} {a : α} (carries : c.Carries a) :
    c.readText (c.writeText a) = .ok a :=
  (readText_writeText carries.proper).trans carries.back

/-! ## Texts, instants, truth values and numbers -/

/-- Every text is carried. -/
lemma carries_text (s : String) : text.Carries s := ⟨.text s, rfl⟩

/-- A proper instant is carried. -/
lemma carries_instant {i : Instant} (proper : i.Proper) : instant.Carries i where
  proper := .text _
  back := by
    have read : ∀ s, instant.read (.text s) = (readInstant s).elim (.error .mistyped) .ok :=
      fun _ => rfl
    change instant.read (.text (rfc3339 i)) = .ok i
    rw [read, readInstant_rfc3339 proper, Option.elim_some]

/-- The truth values are carried. -/
lemma carries_bool (b : Bool) : bool.Carries b := ⟨.bool b, rfl⟩

/-- A number up to the limit is read as a word. -/
lemma readWord_nat {limit n : Nat} (le : n ≤ limit) (fits : limit ≤ maxWord64) :
    readWord limit (Value.nat n).scanned = .ok n := by
  rw [Value.nat, Value.scanned, readWord, Numeral.quantity_ofNat (le.trans fits)]
  exact if_pos le

/-- Every word of 32 bits is carried. -/
lemma carries_word32 (n : UInt32) : word32.Carries n where
  proper := .number (Numeral.proper_ofNat _)
  back := by
    have le : n.toNat ≤ maxWord32 := Nat.le_pred_of_lt n.toNat_lt
    change (readWord maxWord32 (Value.nat n.toNat).scanned).map UInt32.ofNat = _
    rw [readWord_nat le (by decide), Except.map, UInt32.ofNat_toNat]

/-- Every word of 64 bits is carried. -/
lemma carries_word64 (n : UInt64) : word64.Carries n where
  proper := .number (Numeral.proper_ofNat _)
  back := by
    have le : n.toNat ≤ maxWord64 := Nat.le_pred_of_lt n.toNat_lt
    change (readWord maxWord64 (Value.nat n.toNat).scanned).map UInt64.ofNat = _
    rw [readWord_nat le le_rfl, Except.map, UInt64.ofNat_toNat]

/-- A binary number is carried when it is read from its numeral. -/
lemma carries_real {f : Format} {x : Binary f} {n : Numeral}
    (written : Numeral.ofBinary x = some n) (proper : n.Proper)
    (back : (real f).read (.number n) = .ok x) : (real f).Carries x := by
  have write : (real f).write x = .number n := by
    change (Numeral.ofBinary x).elim Value.null Value.number = _
    rw [written]
    rfl
  exact ⟨write ▸ .number proper, by rw [write]; exact back⟩

/-- An enumeration carries the values whose names are read back. -/
lemma carries_enumeration {names : Names α} {a : α}
    (named : names.ofName? (names.name a) = some a) : (enumeration names).Carries a where
  proper := .text _
  back := by
    change (names.ofName? (names.name a)).elim _ _ = _
    rw [named]
    rfl

/-! ## Lists, options and tables -/

/-- Items are scanned one by one. -/
lemma scannedItems_map (f : α → Value) (as : List α) :
    scannedItems (as.map f) = as.map fun a => (f a).scanned := by
  induction as with
  | nil => rfl
  | cons a as ih => rw [List.map_cons, List.map_cons, scannedItems, ih]

/-- A list is carried if its items are. -/
lemma carries_list {c : Codec α} {as : List α} (carries : ∀ a ∈ as, c.Carries a) :
    (list c).Carries as where
  proper := .list fun v mem => by
    obtain ⟨a, item, rfl⟩ := List.mem_map.1 mem
    exact (carries a item).proper
  back := by
    change (scannedItems (as.map c.write)).mapM c.read = _
    rw [scannedItems_map]
    induction as with
    | nil => rfl
    | cons a as ih =>
      obtain ⟨first, others⟩ := List.forall_mem_cons.1 carries
      rw [List.map_cons, List.mapM_cons, first.back, ih others]
      rfl

/-- A codec that never reads null. -/
def RefusesNull (c : Codec α) : Prop := ∃ e, c.read .null = .error e

/-- What may be missing is carried, if nothing else is written as null. -/
lemma carries_option {c : Codec α} {o : Option α} (refuses : c.RefusesNull)
    (carries : ∀ a ∈ o, c.Carries a) : (option c).Carries o := by
  cases o with
  | none => exact ⟨.null, rfl⟩
  | some a =>
    obtain ⟨proper, back⟩ := carries a rfl
    refine ⟨proper, ?_⟩
    change (option c).read (c.write a).scanned = _
    unfold option
    dsimp only
    split
    next null =>
      obtain ⟨e, refused⟩ := refuses
      rw [null, refused] at back
      cases back
    next => rw [back]; rfl

/-- Entries are put in a table in the order they come. -/
lemma readEntries_scanned {c : Codec α} {es : List (String × α)}
    (carries : ∀ e ∈ es, c.Carries e.2) (acc : Table α) :
    readEntries c acc (scannedMembers (es.map fun e => (e.1, c.write e.2))) =
      .ok (es.foldl (fun t e => t.insert e.1 e.2) acc) := by
  induction es generalizing acc with
  | nil => rfl
  | cons e es ih =>
    obtain ⟨first, others⟩ := List.forall_mem_cons.1 carries
    rw [List.map_cons, scannedMembers, readEntries, first.back]
    exact ih others (acc.insert e.1 e.2)

/-- A table is carried if its values are. -/
lemma carries_table {c : Codec α} {t : Table α} (carries : ∀ e ∈ t.entries, c.Carries e.2) :
    (table c).Carries t where
  proper := .record fun m mem => by
    obtain ⟨e, entry, rfl⟩ := List.mem_map.1 mem
    exact (carries e entry).proper
  back := (readEntries_scanned carries Table.empty).trans (congrArg Except.ok t.ofList_entries)

/-- A value is carried in the form of another. -/
lemma carries_iso {c : Codec α} {into : β → α} {outOf : α → β} {b : β}
    (carries : c.Carries (into b)) (back : outOf (into b) = b) : (c.iso into outOf).Carries b where
  proper := carries.proper
  back := by
    change (c.read (c.write (into b)).scanned).map outOf = _
    rw [carries.back, Except.map, back]

/-- Counters are carried. -/
lemma carries_counters (c : Counters) : counters.Carries c :=
  carries_iso (carries_table fun _ _ => carries_table fun _ _ => carries_word64 _) rfl

end Codec

/-! ## Records -/

/-- A member is written and read back, or it is left out and its absence stands for its value. -/
def Presence.Keeps (p : Presence α) (c : Codec α) (a : α) : Prop :=
  p.omits a = false ∧ c.Carries a ∨ p.omits a = true ∧ p.leftOut = some a

namespace Presence

/-- A required field is kept if its value is carried. -/
lemma keeps_required {c : Codec α} {a : α} (carries : c.Carries a) : required.Keeps c a :=
  .inl ⟨rfl, carries⟩

/-- A field with a default is kept if its value is carried. -/
lemma keeps_withDefault {c : Codec α} {a d : α} (carries : c.Carries a) :
    (withDefault d).Keeps c a :=
  .inl ⟨rfl, carries⟩

/-- An optional field is kept if its value is carried. -/
lemma keeps_optional {c : Codec (Option α)} {a : Option α} (carries : c.Carries a) :
    optional.Keeps c a :=
  .inl ⟨rfl, carries⟩

/-- A field that is left out when empty is kept. -/
lemma keeps_onlyIfSome {c : Codec (Option α)} {a : Option α} (carries : c.Carries a) :
    onlyIfSome.Keeps c a := by
  cases a with
  | none => exact .inr ⟨rfl, rfl⟩
  | some a => exact .inl ⟨rfl, carries⟩

end Presence

namespace Fields

variable {τ σ : Type}

/-- The names of the members. -/
def names {τ σ : Type} : Fields τ σ → List String
  | .done => []
  | .field name _ _ rest => name :: rest.names

/-- Each member is kept. -/
def Keeps {τ σ : Type} : Fields τ σ → τ → Prop
  | .done, _ => True
  | .field _ c p rest, (a, t) => p.Keeps c a ∧ rest.Keeps t

/-- What is written for a field has its name. -/
lemma name_mem_of_member {fs : Fields τ σ} {t : τ} {m : String × Value} (mem : m ∈ fs.members t) :
    m.1 ∈ fs.names := by
  induction fs with
  | done => cases mem
  | field name c p rest ih =>
    obtain ⟨a, t⟩ := t
    rw [members] at mem
    split_ifs at mem with omitted
    · exact List.mem_cons_of_mem _ (ih mem)
    · rcases List.mem_cons.1 mem with rfl | mem
      · exact List.mem_cons_self
      · exact List.mem_cons_of_mem _ (ih mem)

/-- The members of a record are proper if its fields are kept. -/
lemma members_proper {fs : Fields τ σ} {t : τ} (keeps : fs.Keeps t) :
    ∀ m ∈ fs.members t, m.2.Proper := by
  induction fs with
  | done => exact List.forall_mem_nil _
  | field name c p rest ih =>
    obtain ⟨a, t⟩ := t
    obtain ⟨⟨written, carries⟩ | ⟨omitted, -⟩, others⟩ := keeps
    · rw [members, written, if_neg Bool.false_ne_true]
      exact List.forall_mem_cons.2 ⟨carries.proper, ih others⟩
    · rw [members, if_pos omitted]
      exact ih others

variable {name : String} {c : Codec α} {p : Presence α} {rest : Fields τ σ}

/-- The first value for a field is taken. -/
lemma take_first (t : Scanned) (found : σ) :
    (field name c p rest).take name t (none, found) =
      some ((c.read t).map fun a => (some a, found)) :=
  if_pos rfl

/-- A value for another field is passed on. -/
lemma take_other {key : String} (other : key ≠ name) (t : Scanned) (x : Option α) (found : σ) :
    (field name c p rest).take key t (x, found) =
      (rest.take key t found).map (·.map fun s => (x, s)) :=
  if_neg other

/-- Members of other names leave a field as it is. -/
lemma readMembers_field {ms : List (String × Value)} (others : ∀ m ∈ ms, m.1 ≠ name)
    {x : Option α} {found : σ} {a : α} {t : τ} (value : x.or p.leftOut = some a)
    (read : rest.readMembers found (scannedMembers ms) = .ok t) :
    (field name c p rest).readMembers (x, found) (scannedMembers ms) = .ok (a, t) := by
  induction ms generalizing found with
  | nil =>
    change (field name c p rest).gather (x, found) = _
    change rest.gather found = _ at read
    rw [gather, value, read]
    rfl
  | cons m ms ih =>
    obtain ⟨key, v⟩ := m
    obtain ⟨other, more⟩ := List.forall_mem_cons.1 others
    rw [scannedMembers, readMembers] at read ⊢
    rw [take_other other]
    cases taken : rest.take key v.scanned found with
    | none =>
      rw [taken] at read
      dsimp only [Option.map_none] at read ⊢
      split_ifs at read ⊢
      exact ih more read
    | some outcome =>
      rw [taken] at read
      cases outcome with
      | error e => cases read
      | ok found' => exact ih more read

/-- What is written of the members is read back. -/
theorem readMembers_members {fs : Fields τ σ} {t : τ} (distinct : fs.names.Nodup)
    (keeps : fs.Keeps t) : fs.readMembers fs.nothing (scannedMembers (fs.members t)) = .ok t := by
  induction fs with
  | done => rfl
  | field name c p rest ih =>
    obtain ⟨a, t⟩ := t
    obtain ⟨fresh, distinct⟩ := List.nodup_cons.1 distinct
    obtain ⟨kept, others⟩ := keeps
    have read := ih distinct others
    have other : ∀ m ∈ rest.members t, m.1 ≠ name := fun m mem e =>
      fresh (e ▸ name_mem_of_member mem)
    rcases kept with ⟨written, carries⟩ | ⟨omitted, absent⟩
    · rw [members, written, if_neg Bool.false_ne_true, scannedMembers, readMembers, nothing,
        take_first, carries.back]
      exact readMembers_field other rfl read
    · rw [members, if_pos omitted, nothing]
      exact readMembers_field other absent read

end Fields

namespace Codec

/-- A record is carried when its members have different names and each is kept. -/
theorem carries_record {τ σ : Type} {fs : Fields τ σ} {toTuple : α → τ} {ofTuple : τ → α} {a : α}
    (distinct : fs.names.Nodup) (keeps : fs.Keeps (toTuple a)) (back : ofTuple (toTuple a) = a) :
    (record fs toTuple ofTuple).Carries a where
  proper := .record (Fields.members_proper keeps)
  back := by
    change (fs.readMembers fs.nothing (scannedMembers (fs.members (toTuple a)))).map ofTuple = _
    rw [Fields.readMembers_members distinct keeps, Except.map, back]

end Codec

end JobCluster.Wire
