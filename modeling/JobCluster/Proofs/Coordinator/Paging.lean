import JobCluster.Proofs.Coordinator.Log

/-!
# Reading the completion log page by page

A client reads the log of a job in pages, each from the event after the last one it has received
(`nextEvent`), while the coordinator goes on between any two of them (`Reading`).

A page is cut out of the log by places, and its events are those with the numbers asked for
(`Job.Numbered.page_eq_filter`), because the log is numbered by places. As the log only grows at its
end, pages that were read one after another are a prefix of it at every later moment
(`pages_read_log`).
-/

namespace JobCluster.Coordinator

open JobCluster.Time

/-! ## Pages by number -/

namespace Job.Numbered

variable {l : List CompletionEvent}

/-- The start of a numbered log is numbered. -/
lemma take (numbered : Numbered l) (n : Nat) : Numbered (l.take n) := by
  intro i e found
  rw [List.getElem?_take] at found
  split at found
  · exact numbered i e found
  · cases found

/-- A prefix of a numbered log is numbered. -/
lemma of_isPrefix {l' : List CompletionEvent} (numbered : Numbered l) (pre : l' <+: l) :
    Numbered l' := by
  rw [List.prefix_iff_eq_take.1 pre]
  exact numbered.take _

/-- Events that are cut out by places are those with the numbers of these places. -/
lemma page_eq_filter (numbered : Numbered l) (few : l.length < 2 ^ 32) (start count : Nat) :
    (l.drop start).take count =
      l.filter fun e => start ≤ e.eventId.toNat ∧ e.eventId.toNat < start + count := by
  have place (k i : Nat) (e : CompletionEvent) (found : (l.drop k)[i]? = some e) :
      e.eventId.toNat = k + i := by
    rw [List.getElem?_drop] at found
    have lt : k + i < l.length := (List.getElem?_eq_some_iff.1 found).1
    rw [numbered _ e found, toNat_ofNat_of_lt (Nat.lt_trans lt few)]
  -- the log before, in and after the page
  have parts : l = l.take start ++ ((l.drop start).take count ++ l.drop (start + count)) := by
    rw [← List.drop_drop, List.take_append_drop, List.take_append_drop]
  have before : (l.take start).filter
      (fun e => start ≤ e.eventId.toNat ∧ e.eventId.toNat < start + count) = [] := by
    refine List.filter_eq_nil_iff.2 fun e mem => ?_
    obtain ⟨i, found⟩ := List.mem_iff_getElem?.1 mem
    rw [List.getElem?_take] at found
    split at found
    · have := place 0 i e found
      simp only [decide_eq_true_eq]
      omega
    · cases found
  have inside : ((l.drop start).take count).filter
      (fun e => start ≤ e.eventId.toNat ∧ e.eventId.toNat < start + count) =
        (l.drop start).take count := by
    refine List.filter_eq_self.2 fun e mem => ?_
    obtain ⟨i, found⟩ := List.mem_iff_getElem?.1 mem
    rw [List.getElem?_take] at found
    split at found
    · have := place start i e found
      simp only [decide_eq_true_eq]
      omega
    · cases found
  have after : (l.drop (start + count)).filter
      (fun e => start ≤ e.eventId.toNat ∧ e.eventId.toNat < start + count) = [] := by
    refine List.filter_eq_nil_iff.2 fun e mem => ?_
    obtain ⟨i, found⟩ := List.mem_iff_getElem?.1 mem
    have := place (start + count) i e found
    simp only [decide_eq_true_eq]
    omega
  conv_rhs => rw [parts]
  rw [List.filter_append, List.filter_append, before, inside, after, List.nil_append,
    List.append_nil]

end Job.Numbered

/-! ## A client that reads on -/

/-- The event that a client asks for after those that it has received: the next one after the last,
or the first. -/
def nextEvent (received : List CompletionEvent) : UInt32 :=
  match received.getLast? with
  | some e => e.eventId + 1
  | none => 0

/-- What was received tells where to go on. -/
lemma nextEvent_eq {received : List CompletionEvent} (numbered : Job.Numbered received) :
    nextEvent received = .ofNat received.length := by
  rw [nextEvent]
  cases last : received.getLast? with
  | none =>
    rw [List.getLast?_eq_none_iff.1 last]
    rfl
  | some e =>
    obtain ⟨before, rfl⟩ := List.getLast?_eq_some_iff.1 last
    have number : e.eventId = .ofNat before.length :=
      numbered before.length e List.getElem?_concat_length
    change e.eventId + 1 = _
    rw [number, List.length_append, UInt32.ofNat_add]
    rfl

/-- What a client has received of the log of a job, while the coordinator went on from one system to
another: between polls any operations may come, and a poll asks for any number of events. -/
inductive Reading (id : JobId) (s : System) : System → List CompletionEvent → Prop where
  | start :
    Reading id s s []
  | operation {s' received op} :
    Reading id s s' received →
    s'.Permits op →
    Reading id s (s'.next op) received
  | poll {s' received} (max : UInt32) :
    1 ≤ max →
    Reading id s s' received →
    Reading id s s'
      (received ++ s'.coordinator.completionEvents id (nextEvent received) max)

namespace Reading

variable {id : JobId} {s s' s'' : System} {received : List CompletionEvent} {ops : List Operation}

/-- A reading goes forward in time. -/
lemma leads (rd : Reading id s s' received) : s.Leads s' := by
  induction rd with
  | start => exact .refl s
  | operation _ ok ih => exact ih.trans ⟨_, .snoc .nil ok⟩
  | poll _ _ _ ih => exact ih

/-- A reading may be followed by any run before the next page. -/
lemma run (rd : Reading id s s' received) (run : Run s' ops s'') : Reading id s s'' received := by
  induction run with
  | nil => exact rd
  | snoc _ ok ih => exact ih.operation ok

/-- The next page is cut out of the log after what was received. -/
lemma page_eq (re : Reachable s') (few : (s'.coordinator.eventLog id).length < 2 ^ 32)
    (pre : received <+: s'.coordinator.eventLog id) (max : UInt32) :
    s'.coordinator.completionEvents id (nextEvent received) max =
      ((s'.coordinator.eventLog id).drop received.length).take max.toNat := by
  rw [completionEvents_eq, nextEvent_eq ((re.numbered id).of_isPrefix pre),
    toNat_ofNat_of_lt (Nat.lt_of_le_of_lt pre.length_le few)]

/-- What was received is a prefix of the log. -/
lemma isPrefix (rd : Reading id s s' received) (re : Reachable s)
    (few : (s'.coordinator.eventLog id).length < 2 ^ 32) :
    received <+: s'.coordinator.eventLog id := by
  induction rd with
  | start => exact List.nil_prefix
  | @operation u received op rd ok ih =>
    have grows := (Run.snoc .nil ok).eventLog_grows (rd.leads.reachable re).lawful id
    exact (ih (Nat.lt_of_le_of_lt grows.length_le few)).trans grows
  | @poll u received max _ rd ih =>
    have pre := ih few
    rw [page_eq (rd.leads.reachable re) few pre]
    obtain ⟨rest, whole⟩ := pre
    rw [← whole, List.drop_left]
    exact (List.prefix_append_right_inj _).2 (List.take_prefix _ _)

end Reading

/-- What a client has received by reading on is at every moment a prefix of the log, whose events
are numbered from 0, and stays one; a page without events tells that it is the whole log. Any page
holds the events with the numbers asked for, in order. -/
theorem pages_read_log {id : JobId} {s s' : System} {received : List CompletionEvent}
    (re : Reachable s) (rd : Reading id s s' received)
    (few : (s'.coordinator.eventLog id).length < 2 ^ 32) :
    received <+: s'.coordinator.eventLog id ∧
    (s'.coordinator.eventLog id).map (·.eventId.toNat) =
      List.range (s'.coordinator.eventLog id).length ∧
    (∀ ops s'', Run s' ops s'' → received <+: s''.coordinator.eventLog id) ∧
    (∀ max, 1 ≤ max → (s'.coordinator.completionEvents id (nextEvent received) max = [] ↔
      received = s'.coordinator.eventLog id)) ∧
    ∀ start max, s'.coordinator.completionEvents id start max =
      (s'.coordinator.eventLog id).filter fun e =>
        start.toNat ≤ e.eventId.toNat ∧ e.eventId.toNat < start.toNat + max.toNat := by
  have re' := rd.leads.reachable re
  have pre := rd.isPrefix re few
  refine ⟨pre, map_eventId (re'.numbered id) few, ?_, ?_, ?_⟩
  · intro ops s'' run
    exact pre.trans (run.eventLog_grows re'.lawful id)
  · -- an empty page of some length means that nothing is left
    intro max some
    have positive : max.toNat ≠ 0 := Nat.ne_of_gt (UInt32.le_iff_toNat_le.1 some)
    rw [Reading.page_eq re' few pre, List.take_eq_nil_iff, or_iff_right positive,
      List.drop_eq_nil_iff]
    exact ⟨pre.eq_of_length_le, fun whole => whole ▸ Nat.le_refl _⟩
  · intro start max
    rw [completionEvents_eq]
    exact (re'.numbered id).page_eq_filter few _ _

/-- The small run is read while it goes on: one event after its eighth operation, and two at its
end, where the log has four. -/
theorem sample_pages_read_log : ∃ (s : System) (received : List CompletionEvent),
    Reading oneMapJob (System.start "202601020304") s received ∧
    received.map CompletionEvent.eventId = [0, 1, 2] ∧
    (s.coordinator.eventLog oneMapJob).length < 2 ^ 32 ∧
    received <+: s.coordinator.eventLog oneMapJob ∧
    (s.coordinator.eventLog oneMapJob).map (·.eventId.toNat) = List.range 4 := by
  let half := (System.start "202601020304").after (sampleOperations.take 8)
  let whole := half.after (sampleOperations.drop 8)
  have first : Run (System.start "202601020304") (sampleOperations.take 8) half :=
    .of_permitsAll (by decide)
  have second : Run half (sampleOperations.drop 8) whole := .of_permitsAll (by decide)
  have unread : Reading oneMapJob (System.start "202601020304") half [] := Reading.start.run first
  have read := Reading.poll 2 (by decide) ((Reading.poll 1 (by decide) unread).run second)
  have four : (whole.coordinator.eventLog oneMapJob).length = 4 := by decide +kernel
  have few : (whole.coordinator.eventLog oneMapJob).length < 2 ^ 32 := by rw [four]; decide
  obtain ⟨pre, numbers, -⟩ := pages_read_log ⟨_, [], .nil⟩ read few
  rw [four] at numbers
  exact ⟨whole, _, read, by decide +kernel, few, pre, numbers⟩

end JobCluster.Coordinator
