/-!
# Tables with sorted keys

A finite map from texts, kept as a list of entries with strictly increasing keys (`Table`). The
order of the keys is the order of their characters, so a table has one representation and
`Table.ext_get?` holds: two tables with the same look-ups are equal.
-/

namespace JobCluster

/-- A finite map from texts with its entries in increasing order of keys. -/
structure Table (α : Type) where
  entries : List (String × α)
  sorted : entries.Pairwise fun a b => a.1 < b.1
deriving DecidableEq

namespace Table

variable {α : Type}

instance [Repr α] : Repr (Table α) := ⟨fun t n => reprPrec t.entries n⟩

/-- The table without entries. -/
def empty : Table α := ⟨[], .nil⟩

instance : Inhabited (Table α) := ⟨empty⟩

/-- Whether there is no entry. -/
def isEmpty (t : Table α) : Bool := t.entries.isEmpty

/-- The value at a key in a list of entries. -/
def find (k : String) : List (String × α) → Option α
  | [] => none
  | (k', v) :: es => if k = k' then some v else find k es

/-- The value at a key. -/
def get? (t : Table α) (k : String) : Option α := find k t.entries

/-- Changes the value at a key of a sorted list of entries, or puts a new entry in its place. -/
def place (k : String) (change : Option α → α) : List (String × α) → List (String × α)
  | [] => [(k, change none)]
  | (k', v) :: es =>
    if k < k' then (k, change none) :: (k', v) :: es
    else if k = k' then (k, change (some v)) :: es
    else (k', v) :: place k change es

/-- Placing a key brings in no other. -/
theorem mem_keys_place {k x : String} {change : Option α → α} {es : List (String × α)}
    (h : x ∈ (place k change es).map Prod.fst) : x = k ∨ x ∈ es.map Prod.fst := by
  induction es with
  | nil => simpa [place] using h
  | cons e es ih =>
    obtain ⟨k', v⟩ := e
    unfold place at h
    split at h
    · simpa using h
    · split at h
      · next hk => subst hk; simpa using h
      · simp only [List.map_cons, List.mem_cons] at h ⊢
        rcases h with rfl | h
        · exact .inr (.inl rfl)
        · exact (ih h).imp id .inr

/-- Keys stay sorted, each there once. -/
theorem sorted_place {k : String} {change : Option α → α} {es : List (String × α)}
    (h : es.Pairwise fun a b => a.1 < b.1) :
    (place k change es).Pairwise fun a b => a.1 < b.1 := by
  induction es with
  | nil => simp [place]
  | cons e es ih =>
    obtain ⟨k', v⟩ := e
    obtain ⟨hhead, htail⟩ := List.pairwise_cons.1 h
    unfold place
    split
    · next hlt =>
      refine List.pairwise_cons.2 ⟨fun a ha => ?_, h⟩
      rcases List.mem_cons.1 ha with rfl | ha
      · exact hlt
      · exact String.lt_trans hlt (hhead a ha)
    · split
      · next hk => subst hk; exact List.pairwise_cons.2 ⟨hhead, htail⟩
      · next hge hne =>
        refine List.pairwise_cons.2 ⟨fun a ha => ?_, ih htail⟩
        rcases mem_keys_place (List.mem_map_of_mem (f := Prod.fst) ha) with hk | hk
        · rw [hk]
          exact Std.lt_of_le_of_ne (String.not_lt.1 hge) (fun h => hne h.symm)
        · obtain ⟨b, hb, hab⟩ := List.mem_map.1 hk
          rw [← hab]
          exact hhead b hb

/-- Changes the value at a key; the change of an absent key is its first value. -/
def alter (t : Table α) (k : String) (change : Option α → α) : Table α :=
  ⟨place k change t.entries, sorted_place t.sorted⟩

/-- Puts a value at a key. -/
def insert (t : Table α) (k : String) (v : α) : Table α := t.alter k fun _ => v

/-- The table of a list of entries; the last of equal keys counts. -/
def ofList (es : List (String × α)) : Table α := es.foldl (fun t e => t.insert e.1 e.2) empty

/-- A key before all others is not there. -/
theorem find_eq_none_of_lt {k : String} {l : List (String × α)} (h : ∀ a ∈ l, k < a.1) :
    find k l = none := by
  induction l with
  | nil => rfl
  | cons a l ih =>
    have hne : k ≠ a.1 := fun hk => String.lt_irrefl k (by simpa [← hk] using h a (by simp))
    simp [find, hne, ih fun b hb => h b (by simp [hb])]

/-- Placing changes what is found under its own key only. -/
theorem find_place (k x : String) (change : Option α → α) {es : List (String × α)}
    (h : es.Pairwise fun a b => a.1 < b.1) :
    find x (place k change es) = if x = k then some (change (find k es)) else find x es := by
  induction es with
  | nil => by_cases hx : x = k <;> simp [place, find, hx]
  | cons e es ih =>
    obtain ⟨k', v⟩ := e
    obtain ⟨hhead, htail⟩ := List.pairwise_cons.1 h
    have absent : ∀ y, y < k' → find y es = none := fun y hy =>
      find_eq_none_of_lt fun a ha => String.lt_trans hy (hhead a ha)
    unfold place
    by_cases hlt : k < k'
    · have hne : k ≠ k' := fun h => String.lt_irrefl k' (h ▸ hlt)
      by_cases hx : x = k
      · subst hx; simp [hlt, find, hne, absent x hlt]
      · simp [hlt, find, hx]
    · by_cases hk : k = k'
      · subst hk
        by_cases hx : x = k <;> simp [find, hx]
      · by_cases hx : x = k
        · subst hx; simp [hlt, hk, find, ih htail]
        · have hk' : ¬k' = k := fun h => hk h.symm
          by_cases hx' : x = k' <;> simp [hlt, hk, hk', hx, hx', find, ih htail]

theorem get?_empty (k : String) : (empty : Table α).get? k = none := rfl

/-- A change of one key is seen at that key only. -/
theorem get?_alter (t : Table α) (k x : String) (change : Option α → α) :
    (t.alter k change).get? x = if x = k then some (change (t.get? k)) else t.get? x :=
  find_place k x change t.sorted

/-- What is put in is found under its key, and the rest as before. -/
theorem get?_insert (t : Table α) (k x : String) (v : α) :
    (t.insert k v).get? x = if x = k then some v else t.get? x :=
  get?_alter t k x _

/-- Lists of entries with increasing keys and the same look-ups are equal. -/
theorem eq_of_find {es fs : List (String × α)} (he : es.Pairwise fun a b => a.1 < b.1)
    (hf : fs.Pairwise fun a b => a.1 < b.1) (h : ∀ k, find k es = find k fs) : es = fs := by
  induction es generalizing fs with
  | nil =>
    cases fs with
    | nil => rfl
    | cons f fs => simpa [find] using h f.1
  | cons e es ih =>
    cases fs with
    | nil => simpa [find] using h e.1
    | cons f fs =>
      obtain ⟨ek, ev⟩ := e
      obtain ⟨fk, fv⟩ := f
      obtain ⟨hes, het⟩ := List.pairwise_cons.1 he
      obtain ⟨hfs, hft⟩ := List.pairwise_cons.1 hf
      -- the smaller of two different first keys would be missing from the other list
      have hkey : ek = fk := by
        rcases Std.lt_trichotomy ek fk with hlt | heq | hlt
        · have := h ek
          rw [find_eq_none_of_lt (l := (fk, fv) :: fs)] at this
          · simp [find] at this
          · intro a ha
            rcases List.mem_cons.1 ha with rfl | ha
            · exact hlt
            · exact String.lt_trans hlt (hfs a ha)
        · exact heq
        · have := h fk
          rw [find_eq_none_of_lt (l := (ek, ev) :: es)] at this
          · simp [find] at this
          · intro a ha
            rcases List.mem_cons.1 ha with rfl | ha
            · exact hlt
            · exact String.lt_trans hlt (hes a ha)
      subst hkey
      have hval : ev = fv := by simpa [find] using h ek
      subst hval
      congr 1
      refine ih het hft fun k => ?_
      by_cases hk : k = ek
      · subst hk; rw [find_eq_none_of_lt hes, find_eq_none_of_lt hfs]
      · simpa [find, hk] using h k

/-- Tables that give the same at every key are the same, as their entries are sorted. -/
theorem ext_get? {s t : Table α} (h : ∀ k, s.get? k = t.get? k) : s = t := by
  obtain ⟨es, he⟩ := s
  obtain ⟨fs, hf⟩ := t
  have : es = fs := eq_of_find he hf h
  subst this
  rfl

end Table

end JobCluster
