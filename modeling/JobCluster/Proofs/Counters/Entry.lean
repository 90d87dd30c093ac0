import JobCluster.Counters.Basic
import JobCluster.Proofs.Table

/-!
# What counters hold

Counters hold counts, each at a group and a name (`Counters.count?`), and groups, with counts or
without (`Counters.HasGroup`). This is all there is to them (`Counters.ext_count?`), so what an
operation does is said by what it does to either. Incrementing changes one count
(`count?_increment`). Merging adds the counts that both sides hold, keeps those that one side holds
(`count?_merge`), and brings along the groups that have counts, but no others (`hasGroup_merge`).
-/

namespace JobCluster.Number

instance : Std.Commutative satAdd := ⟨satAdd_comm⟩

instance : Std.Associative satAdd := ⟨satAdd_assoc⟩

/-- Adding to nothing gives what is added. -/
lemma zero_satAdd (a : UInt64) : satAdd 0 a = a := by
  rw [satAdd_comm, satAdd_zero]

end JobCluster.Number

namespace JobCluster.Counters

open JobCluster.Number

variable {a b c : Counters} {group name g n : String} {delta v : UInt64}

/-- The count at a group and a name, if there is one. -/
def count? (c : Counters) (group name : String) : Option UInt64 :=
  (c.groups.get? group).bind (·.get? name)

/-- Whether there is a count at a group and a name. -/
def Has (c : Counters) (group name : String) : Prop := (c.count? group name).isSome

instance (c : Counters) (group name : String) : Decidable (c.Has group name) :=
  inferInstanceAs (Decidable ((c.count? group name).isSome = true))

/-- Whether there is a group, with counts or without. -/
def HasGroup (c : Counters) (group : String) : Prop := (c.groups.get? group).isSome

lemma value_eq_getD (c : Counters) (group name : String) :
    c.value group name = (c.count? group name).getD 0 := rfl

/-- The group of a counter that is there is there. -/
lemma Has.hasGroup (has : c.Has group name) : c.HasGroup group := by
  rw [Has, count?] at has
  rw [HasGroup]
  cases found : c.groups.get? group with
  | none =>
    rw [found] at has
    exact has
  | some => rfl

/-- The entries in the list of all are the counters that are there. -/
lemma mem_toList : (g, n, v) ∈ c.toList ↔ c.count? g n = some v := by
  simp only [toList, List.mem_flatMap, List.mem_map, Prod.mk.injEq, Prod.exists, count?,
    Option.bind_eq_some_iff, Table.mem_entries_iff]
  constructor
  · rintro ⟨g', names, there, n', v', here, rfl, rfl, rfl⟩
    exact ⟨names, there, here⟩
  · rintro ⟨names, there, here⟩
    exact ⟨g, names, there, n, v, here, rfl, rfl, rfl⟩

/-- Counters are told apart by their counts and their groups. -/
theorem ext_count? (counts : ∀ g n, a.count? g n = b.count? g n)
    (groups : ∀ g, a.HasGroup g ↔ b.HasGroup g) : a = b := by
  obtain ⟨s⟩ := a
  obtain ⟨t⟩ := b
  congr 1
  refine Table.ext_get? fun g => ?_
  have there := groups g
  have same := counts g
  simp only [HasGroup, count?] at there same
  generalize s.get? g = x, t.get? g = y at there same ⊢
  cases x with
  | none =>
    cases y with
    | none => rfl
    | some => exact absurd (there.2 rfl) Bool.false_ne_true
  | some names =>
    cases y with
    | none => exact absurd (there.1 rfl) Bool.false_ne_true
    | some names' => exact congrArg some (Table.ext_get? same)

/-! ## Increments -/

/-- An increment adds to one count, or makes it. -/
lemma count?_increment (c : Counters) (group name g n : String) (delta : UInt64) :
    (c.increment group name delta).count? g n =
      if g = group ∧ n = name then (c.count? g n).merge satAdd (some delta)
      else c.count? g n := by
  rw [count?, increment, Table.get?_alter]
  by_cases eg : g = group
  case neg => rw [if_neg eg, if_neg fun h => eg h.1, count?]
  subst eg
  rw [if_pos rfl, Option.bind_some, Table.get?_alter, count?]
  by_cases en : n = name
  · subst en
    rw [if_pos rfl, if_pos ⟨rfl, rfl⟩]
    cases c.groups.get? g with
    | none => exact congrArg some (zero_satAdd delta)
    | some names =>
      rw [Option.getD_some, Option.bind_some]
      cases names.get? n with
      | none => exact congrArg some (zero_satAdd delta)
      | some v => rfl
  · rw [if_neg en, if_neg fun h => en h.2]
    cases c.groups.get? g with
    | none => rfl
    | some names => rfl

/-- An increment makes its own group and no other. -/
lemma hasGroup_increment :
    (c.increment group name delta).HasGroup g ↔ g = group ∨ c.HasGroup g := by
  rw [HasGroup, increment, Table.get?_alter, HasGroup]
  split_ifs with here
  · exact iff_of_true rfl (.inl here)
  · exact (or_iff_right here).symm

/-- Increments can be made in any order. -/
lemma increment_comm (c : Counters) (group name group' name' : String) (delta delta' : UInt64) :
    (c.increment group name delta).increment group' name' delta' =
      (c.increment group' name' delta').increment group name delta := by
  refine ext_count? (fun g n => ?_) fun g => ?_
  · simp only [count?_increment]
    split_ifs
    · ac_rfl
    all_goals rfl
  · simp only [hasGroup_increment]
    exact or_left_comm

/-! ## Merging -/

/-- Incrementing by the counts of one group adds each of them once. -/
lemma count?_foldl_names {es : List (String × UInt64)} (sorted : es.Pairwise fun a b => a.1 < b.1)
    (c : Counters) (group g n : String) :
    (es.foldl (fun c e => c.increment group e.1 e.2) c).count? g n =
      if g = group then (c.count? g n).merge satAdd (Table.find n es) else c.count? g n := by
  induction es generalizing c with
  | nil =>
    rw [List.foldl_nil, Table.find, Option.merge_none_right]
    exact (ite_self _).symm
  | cons e es ih =>
    obtain ⟨above, sorted⟩ := List.pairwise_cons.1 sorted
    rw [List.foldl_cons, ih sorted, count?_increment]
    by_cases eg : g = group
    case neg => simp only [eg, false_and, if_false]
    by_cases en : n = e.1
    · -- the names are distinct, so nothing more is added to this one
      have once : Table.find n es = none := en ▸ Table.find_eq_none_of_lt above
      simp [eg, ← en, once, Table.find]
    · simp [eg, en, Table.find]

/-- Incrementing by the counts of many groups adds each of them once. -/
lemma count?_foldl_groups {gs : List (String × Table UInt64)}
    (sorted : gs.Pairwise fun a b => a.1 < b.1) (c : Counters) (g n : String) :
    (gs.foldl (fun c e => e.2.entries.foldl (fun c x => c.increment e.1 x.1 x.2) c) c).count? g n =
      (c.count? g n).merge satAdd ((Table.find g gs).bind (·.get? n)) := by
  induction gs generalizing c with
  | nil => exact Option.merge_none_right.symm
  | cons e gs ih =>
    obtain ⟨above, sorted⟩ := List.pairwise_cons.1 sorted
    rw [List.foldl_cons, ih sorted, count?_foldl_names e.2.sorted]
    by_cases eg : g = e.1
    · have once : Table.find g gs = none := eg ▸ Table.find_eq_none_of_lt above
      simp [← eg, once, Table.find, Table.get?]
    · simp [eg, Table.find]

/-- Merging adds the counts that both sides hold and keeps those that one side holds. -/
theorem count?_merge (a b : Counters) (g n : String) :
    (a.merge b).count? g n = (a.count? g n).merge satAdd (b.count? g n) := by
  rw [merge, toList, List.foldl_flatMap]
  simp only [List.foldl_map]
  exact count?_foldl_groups b.groups.sorted a g n

/-- Merging brings along the groups that have counts. -/
theorem hasGroup_merge : (a.merge b).HasGroup g ↔ a.HasGroup g ∨ ∃ n, b.Has g n := by
  have fold (es : List (String × String × UInt64)) (c : Counters) :
      (es.foldl (fun c e => c.increment e.1 e.2.1 e.2.2) c).HasGroup g ↔
        c.HasGroup g ∨ ∃ e ∈ es, e.1 = g := by
    induction es generalizing c with
    | nil => simp
    | cons e es ih =>
      simp only [List.foldl_cons, ih, hasGroup_increment, List.mem_cons, exists_eq_or_imp]
      rw [or_assoc, or_left_comm, eq_comm]
  rw [merge, fold]
  refine or_congr Iff.rfl ⟨?_, ?_⟩
  · rintro ⟨⟨g', n, v⟩, mem, rfl⟩
    exact ⟨n, Option.isSome_iff_exists.2 ⟨v, mem_toList.1 mem⟩⟩
  · rintro ⟨n, has⟩
    obtain ⟨v, found⟩ := Option.isSome_iff_exists.1 has
    exact ⟨(g, n, v), mem_toList.2 found, rfl⟩

/-- Merging adds each count. -/
theorem value_merge (a b : Counters) (g n : String) :
    (a.merge b).value g n = satAdd (a.value g n) (b.value g n) := by
  simp only [value_eq_getD, count?_merge]
  cases a.count? g n with
  | none =>
    cases b.count? g n with
    | none => rfl
    | some v => exact (zero_satAdd v).symm
  | some v =>
    cases b.count? g n with
    | none => exact (satAdd_zero v).symm
    | some w => rfl

end JobCluster.Counters
