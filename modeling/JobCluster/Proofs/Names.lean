import JobCluster.Coordinator.Submission
import Mathlib.Tactic.Lemma

/-!
# Names

Jobs, tasks and attempts are named by numbers in decimal, each after an underscore. This module
shows that the names tell the numbers: `jobIdOf` is injective in the number of the job, `Task.idOf`
in the job, the kind and the index, and `attemptIdOf` in the task and the number of the try. No
width of the padding is assumed, so a number that outgrows it keeps its name.

The proofs cut a name at its last underscore (`append_underscore_inj`), which the digits behind it
do not contain.
-/

namespace JobCluster.Text

/-- Different numbers have different digits. -/
lemma decimalDigits_inj {m n : Nat} (e : decimalDigits m = decimalDigits n) : m = n := by
  have e' := congrArg (Nat.ofDigitChars 10 · 0) e
  simpa only [decimalDigits, Nat.ofDigitChars_ten_toDigits] using e'

/-- Different numbers are written differently. -/
lemma decimal_inj {m n : Nat} (e : decimal m = decimal n) : m = n :=
  decimalDigits_inj (String.ofList_inj.1 e)

/-- Leading zeros do not make two numbers look the same. -/
lemma padded_inj {width m n : Nat} (e : padded width m = padded width n) : m = n := by
  have e' := congrArg (Nat.ofDigitChars 10 · 0) (String.ofList_inj.1 e)
  simpa only [decimalDigits, Nat.ofDigitChars_append, Nat.ofDigitChars_replicate_zero, Nat.mul_zero,
    Nat.ofDigitChars_ten_toDigits] using e'

/-- A number is written without an underscore, which is what parts a name. -/
lemma underscore_notMem_decimal (n : Nat) : '_' ∉ (decimal n).toList := by
  rw [decimal, String.toList_ofList]
  exact Nat.underscore_not_in_toDigits

/-- A padded number is written without an underscore. -/
lemma underscore_notMem_padded (width n : Nat) : '_' ∉ (padded width n).toList := by
  rw [padded, String.toList_ofList]
  intro mem
  rcases List.mem_append.1 mem with zero | digit
  · exact absurd (List.eq_of_mem_replicate zero) (by decide)
  · exact Nat.underscore_not_in_toDigits digit

/-- A list is cut in one way at a character that does not come after the cut. -/
lemma append_cons_inj {α : Type} {c : α} {l l' r r' : List α} (hr : c ∉ r) (hr' : c ∉ r')
    (e : l ++ c :: r = l' ++ c :: r') : l = l' ∧ r = r' := by
  induction l generalizing l' with
  | nil =>
    cases l' with
    | nil => exact ⟨rfl, (List.cons.inj e).2⟩
    | cons a l' =>
      have tail : r = l' ++ c :: r' := (List.cons.inj e).2
      exact absurd (tail ▸ by simp) hr
  | cons a l ih =>
    cases l' with
    | nil =>
      have tail : l ++ c :: r = r' := (List.cons.inj e).2
      exact absurd (tail ▸ by simp) hr'
    | cons a' l' =>
      obtain ⟨head, tail⟩ := List.cons.inj e
      obtain ⟨el, er⟩ := ih tail
      exact ⟨by rw [head, el], er⟩

/-- A text is cut in one way at its last underscore. -/
lemma append_underscore_inj {s s' t t' : String} (ht : '_' ∉ t.toList) (ht' : '_' ∉ t'.toList)
    (e : s ++ "_" ++ t = s' ++ "_" ++ t') : s = s' ∧ t = t' := by
  have e' : s.toList ++ '_' :: t.toList = s'.toList ++ '_' :: t'.toList := by
    simpa using congrArg String.toList e
  obtain ⟨el, er⟩ := append_cons_inj ht ht' e'
  exact ⟨String.toList_inj.1 el, String.toList_inj.1 er⟩

end JobCluster.Text

namespace JobCluster.Coordinator

open JobCluster.Text

/-- What is left of a text after its start is dropped. -/
lemma dropStart_append (start s : String) : dropStart start (start ++ s) = s := by
  have isStart : start.toList.isPrefixOf (start ++ s).toList := by
    rw [List.isPrefixOf_iff_prefix, String.toList_append]
    exact List.prefix_append _ _
  rw [dropStart, if_pos isStart]
  apply String.toList_inj.1
  rw [String.toList_ofList, String.toList_append, ← String.length_toList, List.drop_left]

/-- The two kinds of tasks have different letters. -/
lemma tag_inj {k k' : TaskKind} (e : k.tag = k'.tag) : k = k' := by
  cases k <;> cases k' <;> first | rfl | exact absurd e (by decide)

/-- The letter of a kind is no underscore. -/
lemma underscore_notMem_tag (k : TaskKind) : '_' ∉ k.tag.toList := by
  cases k <;> decide

/-- Jobs of one run have different names, as their numbers differ. -/
lemma jobIdOf_inj {stamp : String} {m n : Nat} (e : jobIdOf stamp m = jobIdOf stamp n) : m = n :=
  padded_inj
    (append_underscore_inj (underscore_notMem_padded _ _) (underscore_notMem_padded _ _) e).2

/-- A job's name after the common start, from which those of its tasks are made. -/
lemma dropStart_jobIdOf (stamp : String) (n : Nat) :
    dropStart "job_" (jobIdOf stamp n) = stamp ++ "_" ++ padded 4 n := by
  rw [jobIdOf, String.append_assoc, String.append_assoc, dropStart_append, String.append_assoc]

/-- The start that is dropped is the same for all jobs, so nothing is lost. -/
lemma dropStart_jobIdOf_inj {stamp : String} {m n : Nat}
    (e : dropStart "job_" (jobIdOf stamp m) = dropStart "job_" (jobIdOf stamp n)) :
    jobIdOf stamp m = jobIdOf stamp n := by
  rw [dropStart_jobIdOf, dropStart_jobIdOf, String.append_assoc, String.append_assoc] at e
  have number := (String.append_right_inj _).1 e
  simp only [jobIdOf, String.append_assoc, number]

/-- A task's name after the common start, from which those of its attempts are made. -/
lemma dropStart_idOf (job : JobId) (kind : TaskKind) (index : UInt32) :
    dropStart "task_" (Task.idOf job kind index) =
      dropStart "job_" job ++ "_" ++ kind.tag ++ "_" ++ padded 6 index.toNat := by
  simp only [Task.idOf, String.append_assoc, dropStart_append]

/-- The end of a task's name tells the end of its job's name, its kind and its index. -/
lemma dropStart_idOf_inj {job job' : JobId} {kind kind' : TaskKind} {index index' : UInt32}
    (e : dropStart "task_" (Task.idOf job kind index) =
      dropStart "task_" (Task.idOf job' kind' index')) :
    dropStart "job_" job = dropStart "job_" job' ∧ kind = kind' ∧ index = index' := by
  rw [dropStart_idOf, dropStart_idOf] at e
  obtain ⟨e, eindex⟩ :=
    append_underscore_inj (underscore_notMem_padded _ _) (underscore_notMem_padded _ _) e
  obtain ⟨ejob, ekind⟩ :=
    append_underscore_inj (underscore_notMem_tag _) (underscore_notMem_tag _) e
  exact ⟨ejob, tag_inj ekind, UInt32.toNat_inj.1 (padded_inj eindex)⟩

/-- The name of the attempt at a task with a number. -/
def attemptIdOf (task : TaskId) (number : Nat) : AttemptId :=
  "attempt_" ++ dropStart "task_" task ++ "_" ++ decimal number

/-- The name of an attempt tells the number of the attempt and what its task is called. -/
lemma attemptIdOf_inj {task task' : TaskId} {m n : Nat}
    (e : attemptIdOf task m = attemptIdOf task' n) :
    dropStart "task_" task = dropStart "task_" task' ∧ m = n := by
  obtain ⟨etask, enumber⟩ :=
    append_underscore_inj (underscore_notMem_decimal _) (underscore_notMem_decimal _) e
  exact ⟨(String.append_right_inj _).1 etask, decimal_inj enumber⟩

end JobCluster.Coordinator
