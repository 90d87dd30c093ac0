import JobCluster.Http.Query
import JobCluster.Proofs.Text.Split
import JobCluster.Proofs.Text.Utf8

/-!
# Queries that are written plainly

A query of two pairs whose names and values hold none of the signs of a query is read as these pairs
(`readQuery_pairs`).
-/

namespace JobCluster.Http

open JobCluster.Text

/-- A text without the signs that mean something in a query. -/
def IsPlain (cs : List Char) : Prop := ∀ c ∈ cs, c ≠ '%' ∧ c ≠ '+' ∧ c ≠ '&' ∧ c ≠ '='

instance (cs : List Char) : Decidable (IsPlain cs) :=
  List.decidableBAll _ cs

variable {name value name' value' : List Char}

/-- A plain text in a query stands for itself. -/
lemma readFormText_plain {cs : List Char} (plain : IsPlain cs) :
    readFormText cs = String.ofList cs := by
  have blanks : (cs.map fun c => if c = '+' then ' ' else c) = cs :=
    (List.map_congr_left fun c mem => if_neg (plain c mem).2.1).trans (List.map_id cs)
  rw [readFormText, blanks, percentDecode_plain fun mem => (plain _ mem).1 rfl, ofUtf8Lossy_encode]

/-- A plain text has no equals sign. -/
lemma IsPlain.bne_equals (plain : IsPlain name) : ∀ c ∈ name, (c != '=') = true :=
  fun c mem => bne_iff_ne.2 (plain c mem).2.2.2

/-- The name of a pair is what stands before the first equals sign. -/
lemma takeWhile_name (plain : IsPlain name) (value : List Char) :
    (name ++ '=' :: value).takeWhile (· != '=') = name := by
  rw [List.takeWhile_append_of_pos plain.bne_equals, List.takeWhile_cons_of_neg (by decide),
    List.append_nil]

/-- The value of a pair is what stands after it. -/
lemma dropWhile_name (plain : IsPlain name) (value : List Char) :
    ((name ++ '=' :: value).dropWhile (· != '=')).drop 1 = value := by
  rw [List.dropWhile_append_of_pos plain.bne_equals, List.dropWhile_cons_of_neg (by decide)]
  rfl

/-- A plain pair has no ampersand. -/
lemma notMem_pair (plain : IsPlain name) (plainValue : IsPlain value) :
    '&' ∉ name ++ '=' :: value := by
  intro mem
  rcases List.mem_append.1 mem with mem | mem
  · exact (plain _ mem).2.2.1 rfl
  · rcases List.mem_cons.1 mem with e | mem
    · exact absurd e (by decide)
    · exact (plainValue _ mem).2.2.1 rfl

/-- Two pairs are read as they are written. -/
lemma readQuery_pairs {query : String}
    (text : query.toList = name ++ '=' :: value ++ '&' :: (name' ++ '=' :: value'))
    (plain : IsPlain name) (plainValue : IsPlain value) (plain' : IsPlain name')
    (plainValue' : IsPlain value') :
    readQuery query = [(String.ofList name, String.ofList value),
      (String.ofList name', String.ofList value')] := by
  have last : splitOn '&' (name' ++ '=' :: value') = [name' ++ '=' :: value'] := by
    have none : splitOn '&' [] = [[]] := rfl
    have cut := splitOn_append (notMem_pair plain' plainValue') none
    rwa [List.append_nil] at cut
  have cut : splitOn '&' query.toList = [name ++ '=' :: value, name' ++ '=' :: value'] := by
    have mark : splitOn '&' ('&' :: (name' ++ '=' :: value')) = [[], name' ++ '=' :: value'] := by
      rw [splitOn, if_pos rfl, last]
    rw [text, splitOn_append (notMem_pair plain plainValue) mark, List.append_nil]
  have filled : ∀ part ∈ [name ++ '=' :: value, name' ++ '=' :: value'],
      (! part.isEmpty) = true := by
    refine List.forall_mem_cons.2 ⟨?_, List.forall_mem_singleton.2 ?_⟩
    · cases name <;> rfl
    · cases name' <;> rfl
  rw [readQuery, cut, List.filter_eq_self.2 filled, List.map_cons, List.map_cons, List.map_nil,
    takeWhile_name plain, takeWhile_name plain', dropWhile_name plain, dropWhile_name plain',
    readFormText_plain plain, readFormText_plain plainValue, readFormText_plain plain',
    readFormText_plain plainValue']

end JobCluster.Http
