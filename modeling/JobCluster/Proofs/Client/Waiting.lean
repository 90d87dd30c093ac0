import JobCluster.Client.Run
import JobCluster.Proofs.Client.Exchange
import JobCluster.Proofs.Coordinator.Log
import Mathlib.Data.List.Infix

/-!
# Waiting for a job

A client that waits for a job asks for the events after the last one it has printed, then for the
state of the job, and stops when there were no new events and the job had ended. The coordinator
goes on between any two requests (`Attended`).

`waited_log_printed` says what has been printed then: the log as it was when the last request for
events was answered, each event once and in order. Events that come between that request and the
next, which tells that the job has ended, are not printed.
-/

namespace JobCluster.Client

open JobCluster.Coordinator JobCluster.Http JobCluster.Protocol JobCluster.Time JobCluster.Wire

/-! ## Printing pages -/

/-- A page of numbered events is printed, and the number after it is next. -/
lemma follow_eq {page : List CompletionEvent} {n : Nat}
    (numbered : ∀ (i : Nat) (e : CompletionEvent), page[i]? = some e → e.eventId = .ofNat (n + i))
    (few : n + page.length < 2 ^ 32) :
    follow (.ofNat n) page = (page.map eventHead, some (.ofNat (n + page.length))) := by
  induction page generalizing n with
  | nil => rfl
  | cons e rest ih =>
    have more : (e :: rest).length = rest.length + 1 := rfl
    have head : e.eventId = .ofNat n := numbered 0 e rfl
    have notLast : e.eventId ≠ lastEventId := by
      rw [head]
      intro eq
      have last : n = 2 ^ 32 - 1 :=
        (toNat_ofNat_of_lt (by omega)).symm.trans (congrArg UInt32.toNat eq)
      omega
    have next : e.eventId + 1 = .ofNat (n + 1) := by
      rw [head, UInt32.ofNat_add]
      rfl
    have tail : follow (.ofNat (n + 1)) rest =
        (rest.map eventHead, some (.ofNat (n + 1 + rest.length))) :=
      ih (fun i x found => by rw [numbered (i + 1) x found, Nat.add_comm i, Nat.add_assoc])
        (by omega)
    rw [follow, if_neg notLast, next, tail, more, Nat.add_right_comm, Nat.add_assoc]
    rfl

/-- A page of a numbered log is printed from the number asked for on. -/
lemma follow_page {l : List CompletionEvent} (numbered : Job.Numbered l) (few : l.length < 2 ^ 32)
    {n : Nat} (seen : n ≤ l.length) (m : Nat) :
    follow (.ofNat n) ((l.drop n).take m) = (((l.drop n).take m).map eventHead,
      some (.ofNat (n + ((l.drop n).take m).length))) := by
  refine follow_eq (fun i e found => ?_) ?_
  · rw [List.getElem?_take] at found
    split at found
    · exact numbered (n + i) e (by rwa [List.getElem?_drop] at found)
    · cases found
  · rw [List.length_take, List.length_drop]
    omega

/-- What comes after a place of a list is what came after it in a prefix, up to some place, and then
the rest. -/
lemma drop_eq_append {α : Type} {l l' : List α} (pre : l <+: l') (n m : Nat) :
    l'.drop n = (l.drop n).take m ++ l'.drop (n + ((l.drop n).take m).length) := by
  obtain ⟨more, rfl⟩ := pre
  have part : (l.drop n).take m <+: (l ++ more).drop n := by
    rw [List.drop_append]
    exact (List.take_prefix _ _).trans (List.prefix_append _ _)
  rw [← List.drop_drop]
  exact List.prefix_append_drop part

/-! ## The coordinator behind a link -/

/-- The coordinator behind the link of a client: `view` tells in which state it is. It goes on from
one request to the next, and while the client pauses, and what it says about a job is true in the
state in which it says it. -/
structure Attended {σ : Type} (c : Client σ) (id : JobId) (view : σ → System) : Prop where
  exchange : ∀ r s, (view s).Leads (view (c.link.exchange r s).2)
  pause : ∀ interval s, (view s).Leads (view (c.link.pause interval s))
  events : ∀ n s page s', n ≤ ((view s).coordinator.eventLog id).length →
    c.completionEvents id (.ofNat n) waitPage s = (.ok page, s') →
    page = (view s').coordinator.completionEvents id (.ofNat n) waitPage
  status : ∀ s answer s', c.jobStatus id s = (.ok answer, s') →
    answer.map JobStatus.state = ((view s').coordinator.jobStatus id).map JobStatus.state

/-- What follows in a round of a wait after a page of events. -/
def proceed {σ : Type} (c : Client σ) (id : JobId) (interval : UInt64) (rounds : Nat)
    (next : UInt32) (page : List CompletionEvent) (u : σ) : Outcome × σ :=
  match follow next page with
  | (lines, none) => (⟨lines, .exhausted⟩, u)
  | (lines, some next) =>
    match c.jobStatus id u with
    | (.error e, v) => (⟨lines, .failed e⟩, v)
    | (.ok none, v) => (⟨lines ++ [noJob id], .done⟩, v)
    | (.ok (some status), v) =>
      if page.isEmpty then
        if status.state.isTerminal then (⟨lines ++ jobStatusLines status, .done⟩, v)
        else waitFor c id interval rounds next (c.link.pause interval v)
      else
        let (o, v) := waitFor c id interval rounds next v
        (o.after lines, v)

/-- One round of waiting: a page of the log is read, and then the status. -/
lemma waitFor_succ {σ : Type} (c : Client σ) (id : JobId) (interval : UInt64) (rounds : Nat)
    (next : UInt32) (s : σ) :
    waitFor c id interval (rounds + 1) next s =
      match c.completionEvents id next waitPage s with
      | (.error e, u) => (⟨[], .failed e⟩, u)
      | (.ok page, u) => c.proceed id interval rounds next page u := by
  rw [waitFor]
  rfl

/-- After an empty page and a final status the waiting is over. -/
lemma proceed_ended {σ : Type} {c : Client σ} {id : JobId} {interval : UInt64} {rounds : Nat}
    {next : UInt32} {u v : σ} {status : JobStatus}
    (told : c.jobStatus id u = (.ok (some status), v)) (terminal : status.state.isTerminal) :
    c.proceed id interval rounds next [] u = (⟨jobStatusLines status, .done⟩, v) := by
  rw [proceed, follow]
  dsimp only
  rw [told]
  dsimp only
  rw [if_pos List.isEmpty_nil, if_pos terminal, List.nil_append]

/-- A wait goes on after a page with events. -/
lemma proceed_more {σ : Type} {c : Client σ} {id : JobId} {interval : UInt64} {rounds : Nat}
    {next next' : UInt32} {page : List CompletionEvent} {u v w : σ} {status : JobStatus}
    {lines more : List String} (told : c.jobStatus id u = (.ok (some status), v))
    (events : page ≠ []) (printed : follow next page = (lines, some next'))
    (rest : waitFor c id interval rounds next' v = (⟨more, .done⟩, w)) :
    c.proceed id interval rounds next page u = (⟨lines ++ more, .done⟩, w) := by
  rw [proceed, printed]
  dsimp only
  rw [told]
  dsimp only
  rw [if_neg (by simpa using events), rest]
  rfl

/-- How a wait goes on after a page, if it ends well. -/
lemma proceed_done {σ : Type} {c : Client σ} {id : JobId} {interval : UInt64} {rounds : Nat}
    {next next' : UInt32} {page : List CompletionEvent} {u s' : σ} {printed lines : List String}
    (followed : follow next page = (printed, some next'))
    (done : c.proceed id interval rounds next page u = (⟨lines, .done⟩, s')) :
    (c.jobStatus id u = (.ok none, s') ∧ lines = printed ++ [noJob id]) ∨
    (∃ status, c.jobStatus id u = (.ok (some status), s') ∧ page = [] ∧ status.state.isTerminal ∧
      lines = printed ++ jobStatusLines status) ∨
    ∃ status v w more, c.jobStatus id u = (.ok (some status), v) ∧
      (w = v ∨ w = c.link.pause interval v) ∧
      waitFor c id interval rounds next' w = (⟨more, .done⟩, s') ∧ lines = printed ++ more := by
  rw [proceed, followed] at done
  dsimp only at done
  -- the waiting ends without an error, so the status came
  rcases told : c.jobStatus id u with ⟨e | - | status, v⟩ <;> rw [told] at done <;>
    dsimp only at done
  · cases done
  · cases done
    exact .inl ⟨rfl, rfl⟩
  split at done
  · next empty =>
    obtain rfl : page = [] := List.isEmpty_iff.1 empty
    split at done
    · next terminal =>
      cases done
      exact .inr (.inl ⟨status, rfl, rfl, terminal, rfl⟩)
    · cases followed
      exact .inr (.inr ⟨status, v, _, lines, rfl, .inr rfl, done, rfl⟩)
  · rcases rest : waitFor c id interval rounds next' v with ⟨⟨more, ending⟩, w⟩
    rw [rest] at done
    cases done
    exact .inr (.inr ⟨status, v, v, more, rfl, .inl rfl, rest, rfl⟩)

/-- The last round of a wait: there were no events from the `n`-th on at the moment `u`, and then
the job had ended. -/
structure LastRound {σ : Type} (c : Client σ) (id : JobId) (n : Nat) (u s' : σ)
    (status : JobStatus) : Prop where
  asked : ∃ t, c.completionEvents id (.ofNat n) waitPage t = (.ok [], u)
  told : c.jobStatus id u = (.ok (some status), s')
  terminal : status.state.isTerminal

/-- What is printed by a wait that ends: that there is no such job, or the events from the `n`-th on
that were there in the last round, and then the status. -/
inductive Printed {σ : Type} (c : Client σ) (id : JobId) (view : σ → System) (n : Nat)
    (s s' : σ) : List String → Prop where
  | absent :
    (view s').coordinator.job? id = none →
    Printed c id view n s s' [noJob id]
  | ended {u status} :
    (view s).Leads (view u) →
    n ≤ ((view u).coordinator.eventLog id).length →
    c.LastRound id ((view u).coordinator.eventLog id).length u s' status →
    Printed c id view n s s'
      ((((view u).coordinator.eventLog id).drop n).map eventHead ++ jobStatusLines status)

namespace Attended

variable {σ : Type} {c : Client σ} {id : JobId} {view : σ → System}

/-- A call that may find nothing leads from one moment to a later one. -/
lemma leads_optional (att : c.Attended id view) {α : Type} (codec : Codec α) (r : Request)
    (s : σ) : (view s).Leads (view (c.optional codec r s).2) := by
  rw [optional_eq, snd_execute]
  exact att.exchange r s

/-- Reading a page leads from one moment to a later one. -/
lemma leads_events (att : c.Attended id view) (start max : UInt32) (s : σ) :
    (view s).Leads (view (c.completionEvents id start max s).2) := by
  rw [completionEvents_eq]
  cases c.address ["jobs", id, "events"] with
  | error e => exact .refl _
  | ok a =>
    dsimp only
    rw [listed_eq]
    exact att.leads_optional ..

/-- Asking for the status leads from one moment to a later one. -/
lemma leads_status (att : c.Attended id view) (s : σ) :
    (view s).Leads (view (c.jobStatus id s).2) := by
  rw [jobStatus_eq]
  cases c.address ["jobs", id] with
  | error e => exact .refl _
  | ok a => exact att.leads_optional ..

/-- The coordinator goes on after a page. -/
lemma leads_proceed (att : c.Attended id view) {interval : UInt64} {rounds : Nat}
    (later : ∀ next s, (view s).Leads (view (waitFor c id interval rounds next s).2))
    (next : UInt32) (page : List CompletionEvent) (u : σ) :
    (view u).Leads (view (c.proceed id interval rounds next page u).2) := by
  unfold proceed
  obtain ⟨lines, - | next'⟩ := follow next page
  · exact .refl _
  have told := att.leads_status u
  dsimp only
  generalize c.jobStatus id u = answer at told ⊢
  obtain ⟨e | - | status, v⟩ := answer
  · exact told
  · exact told
  dsimp only
  split
  · split
    · exact told
    · exact (told.trans (att.pause interval v)).trans (later next' _)
  · exact told.trans (later next' v)

/-- The coordinator goes on during a wait, however it ends. -/
lemma leads_wait (att : c.Attended id view) (interval : UInt64) (rounds : Nat) (next : UInt32)
    (s : σ) : (view s).Leads (view (waitFor c id interval rounds next s).2) := by
  induction rounds generalizing next s with
  | zero => exact .refl _
  | succ rounds ih =>
    rw [waitFor_succ]
    have asked := att.leads_events next waitPage s
    generalize c.completionEvents id next waitPage s = answer at asked ⊢
    obtain ⟨e | page, u⟩ := answer
    · exact asked
    · exact asked.trans (att.leads_proceed ih next page u)

/-- A page that was printed belongs to what is printed. -/
lemma printed_page {n m : Nat} {s u v s' : σ} {page : List CompletionEvent} {lines : List String}
    (pr : Printed c id view (n + page.length) v s' lines)
    (cut : page = (((view u).coordinator.eventLog id).drop n).take m)
    (before : (view s).Leads (view u)) (after : (view u).Leads (view v))
    (later : (view u).Leads (view s')) (re : Reachable (view u)) :
    Printed c id view n s s' (page.map eventHead ++ lines) := by
  cases pr with
  | absent gone =>
    rw [eventLog_of_none (later.absent re gone), List.drop_nil, List.take_nil] at cut
    subst cut
    exact .absent gone
  | @ended w status le seen last =>
    have grown := (after.trans le).eventLog_grows re id
    rw [← List.append_assoc, ← List.map_append, cut, ← drop_eq_append grown]
    exact .ended ((before.trans after).trans le) (by omega) last

/-- What a wait prints that ends when it has printed the first `n` events. -/
lemma printed_of_done (att : c.Attended id view) {interval : UInt64} {rounds n : Nat} {s s' : σ}
    {lines : List String} (re : Reachable (view s))
    (seen : n ≤ ((view s).coordinator.eventLog id).length)
    (few : ((view s').coordinator.eventLog id).length < 2 ^ 32)
    (done : waitFor c id interval rounds (.ofNat n) s = (⟨lines, .done⟩, s')) :
    Printed c id view n s s' lines := by
  -- round by round; `u` is the moment at which the events of a round are told
  induction rounds generalizing n s lines with
  | zero => cases done
  | succ rounds ih =>
    rw [waitFor_succ] at done
    have asked := att.leads_events (.ofNat n) waitPage s
    rcases answer : c.completionEvents id (.ofNat n) waitPage s with ⟨e | page, u⟩
    · rw [answer] at done
      cases done
    rw [answer] at done asked
    replace asked : (view s).Leads (view u) := asked
    replace done : c.proceed id interval rounds (.ofNat n) page u = (⟨lines, .done⟩, s') := done
    have later : (view u).Leads (view s') := by
      have led := att.leads_proceed (att.leads_wait interval rounds) (.ofNat n) page u
      rwa [done] at led
    have reu := asked.reachable re
    have seenu := seen.trans (asked.eventLog_grows re id).length_le
    have fewu := (later.eventLog_grows reu id).length_le.trans_lt few
    have cut : page = (((view u).coordinator.eventLog id).drop n).take 100 := by
      rw [att.events n s page u seen answer, Coordinator.completionEvents_eq,
        toNat_ofNat_of_lt (seenu.trans_lt fewu)]
      rfl
    have followed := follow_page (reu.numbered id) fewu seenu 100
    rw [← cut] at followed
    obtain ⟨told, rfl⟩ | ⟨status, told, rfl, terminal, rfl⟩ |
      ⟨status, v, w, more, told, goes, rest, rfl⟩ := proceed_done followed done
    · -- a job that is not there now was not there before, so nothing was printed
      have same := att.status u none s' told
      rw [Coordinator.jobStatus, Option.map_none, eq_comm, Option.map_map,
        Option.map_eq_none_iff] at same
      exact printed_page (.absent same) cut asked (.refl _) later reu
    · -- an empty page is asked for at the end of the log
      have stop : ((view u).coordinator.eventLog id).length = n := by
        have := congrArg List.length cut
        rw [List.length_nil, List.length_take, List.length_drop] at this
        omega
      have pr := Printed.ended asked seenu ⟨⟨s, stop ▸ answer⟩, told, terminal⟩
      rwa [List.drop_of_length_le (Nat.le_of_eq stop)] at pr
    · -- there is another round, with or without a pause before it
      have reached : (view u).Leads (view w) := by
        have led := att.leads_status u
        rw [told] at led
        rcases goes with rfl | rfl
        · exact led
        · exact led.trans (att.pause interval v)
      have seenw : n + page.length ≤ ((view w).coordinator.eventLog id).length := by
        refine le_trans ?_ (reached.eventLog_grows reu id).length_le
        rw [cut, List.length_take, List.length_drop]
        omega
      exact printed_page (ih (reached.reachable reu) seenw rest) cut asked reached later reu

end Attended

/-- What a wait has shown when it ends with the status of a job. `u` is the moment between the last
two requests, for events and for the state. -/
structure Shown {σ : Type} (c : Client σ) (id : JobId) (view : σ → System) (s u s' : σ)
    (status : JobStatus) (lines : List String) : Prop where
  before : (view s).Leads (view u)
  after : (view u).Leads (view s')
  last : c.LastRound id ((view u).coordinator.eventLog id).length u s' status
  lines_eq :
    lines = ((view u).coordinator.eventLog id).map eventHead ++ jobStatusLines status
  numbers : ((view u).coordinator.eventLog id).map (·.eventId.toNat) =
    List.range ((view u).coordinator.eventLog id).length
  grows : (view u).coordinator.eventLog id <+: (view s').coordinator.eventLog id
  complete : ∀ j, (view u).coordinator.job? id = some j → j.isTerminal →
    (view s').coordinator.eventLog id = (view u).coordinator.eventLog id

/-- A wait that ends has found no such job, or it has printed the log as it was at the last request
for events, each event once and in order, and then the status of a job that has ended. Nothing is
missing if the job had ended before that request. -/
theorem waited_log_printed {σ : Type} {c : Client σ} {id : JobId} {view : σ → System}
    (att : c.Attended id view) {interval : UInt64} {rounds : Nat} {s s' : σ} {lines : List String}
    (re : Reachable (view s)) (few : ((view s').coordinator.eventLog id).length < 2 ^ 32)
    (done : waitFor c id interval rounds 0 s = (⟨lines, .done⟩, s')) :
    lines = [noJob id] ∧ (view s').coordinator.job? id = none ∨
    ∃ u status, c.Shown id view s u s' status lines := by
  cases att.printed_of_done re (Nat.zero_le _) few done with
  | absent gone => exact .inl ⟨rfl, gone⟩
  | @ended u status before _ last =>
    have reu := before.reachable re
    have after : (view u).Leads (view s') := by
      have told := att.leads_status u
      rwa [last.told] at told
    have grows := after.eventLog_grows reu id
    refine .inr ⟨u, status, before, after, last, by rw [List.drop_zero],
      map_eventId (reu.numbered id) (grows.length_le.trans_lt few), grows, fun j found ended => ?_⟩
    obtain ⟨ops, run⟩ := after
    exact run.eventLog_eq reu.lawful found ended

/-! ## Two waits -/

/-- A link to a service that is in a state of its own at each request, for requests that change
nothing. -/
def sessionLink (moments : Nat → Service) : Link Nat where
  exchange r k :=
    match (moments (k + 1)).answer r (.ofSeconds 0) "" with
    | some (response, _) => (.ok (.ofResponse response), k + 1)
    | none => (.error "error sending request", k + 1)
  pause _ k := k

/-- The coordinator while the attempt at the one map runs. -/
def mapRuns : System :=
  oneMapSystem.after [.register "t1" ⟨"h1", 1, 0⟩ (.ofSeconds 0), .assign "t1" (.ofSeconds 0)]

/-- The end of the attempt. -/
def mapEnds : Operation := .complete ⟨oneMapAttempt, true, .empty, []⟩ (.ofSeconds 0)

/-- The state of the coordinator at a request, when the attempt ends before the request `m`. -/
def momentOf (m k : Nat) : System := if k < m then mapRuns else mapRuns.next mapEnds

/-- The page of the log at a request, from the event `n` on. -/
def pageAt (m k n : Nat) : List CompletionEvent :=
  (momentOf m k).coordinator.completionEvents oneMapJob (.ofNat n) waitPage

/-- A client of that coordinator. -/
def visitor (m : Nat) : Client Nat where
  link := sessionLink fun k =>
    ⟨(momentOf m k).coordinator, .new .unloaded ⟨[]⟩, .empty, 1024, 10⟩
  base := "http://h:1"

section Visitor

variable {m k n : Nat}

/-- The sample job is seen running or after its map has ended. -/
lemma momentOf_cases (m k : Nat) :
    momentOf m k = mapRuns ∨ momentOf m k = mapRuns.next mapEnds := by
  unfold momentOf
  split
  · exact .inl rfl
  · exact .inr rfl

/-- The sample moments follow each other. -/
lemma momentOf_leads (m k : Nat) : (momentOf m k).Leads (momentOf m (k + 1)) := by
  unfold momentOf
  split
  · split
    · exact .refl _
    · exact ⟨[mapEnds], .snoc .nil trivial⟩
  · rw [if_neg (by omega)]
    exact .refl _

/-- Where the client asks about the job. -/
def jobAddress : Address := ⟨"http://h:1", ["api", "v1", "jobs", oneMapJob], none⟩

/-- Where the client asks for the log of the job. -/
def logAddress : Address := ⟨"http://h:1", ["api", "v1", "jobs", oneMapJob, "events"], none⟩

/-- The addresses that the sample client asks for. -/
lemma visitor_address (m : Nat) :
    (visitor m).address ["jobs", oneMapJob] = .ok jobAddress ∧
      (visitor m).address ["jobs", oneMapJob, "events"] = .ok logAddress := by
  have base : Address.read "http://h:1" = some ⟨"http://h:1", [], none⟩ := by decide +kernel
  have job : Address.extend ⟨"http://h:1", [], none⟩
      (["api", "v1"] ++ ["jobs", oneMapJob]) = jobAddress := by decide
  have log : Address.extend ⟨"http://h:1", [], none⟩
      (["api", "v1"] ++ ["jobs", oneMapJob, "events"]) = logAddress := by decide
  have named : (visitor m).base = "http://h:1" := rfl
  constructor
  · rw [address, named, base]
    exact congrArg Except.ok job
  · rw [address, named, base]
    exact congrArg Except.ok log

/-- The request for the log from the event `n` on. -/
def logRequest (n : Nat) : Request := plain "GET" (pageAddress logAddress (.ofNat n) waitPage)

lemma jobName : Service.Target.decodeName oneMapJob = some oneMapJob := by decide

/-- What the client is told about the log is true. -/
lemma visitor_events (m k : Nat) (le : n ≤ 1) :
    (visitor m).completionEvents oneMapJob (.ofNat n) waitPage k =
      (.ok (pageAt m (k + 1) n), k + 1) := by
  have first : n = 0 ∨ n = 1 := Nat.le_one_iff_eq_zero_or_eq_one.1 le
  have path : Service.Target.ofPath (logRequest n).path = some (.events oneMapJob) := by
    rcases first with rfl | rfl <;> decide
  have query : Service.eventsPage (logRequest n) = some ⟨.ofNat n, waitPage⟩ := by
    rcases first with rfl | rfl <;> decide
  have back : (Codec.list Codec.completionEvent).ReadsBack (pageAt m (k + 1) n) := by
    rw [pageAt]
    rcases momentOf_cases m (k + 1) with e | e <;> rw [e] <;> rcases first with rfl | rfl <;>
      decide +kernel
  have answered : (visitor m).link.exchange (logRequest n) k =
      (.ok (.ofResponse ⟨200, some versionText,
        .json ((Codec.list Codec.completionEvent).write (pageAt m (k + 1) n))⟩), k + 1) := by
    rw [visitor, sessionLink]
    dsimp only
    rw [Service.answer_events rfl rfl path jobName query]
    rfl
  have read := optional_of_answer _ answered back
  rw [logRequest] at read
  rw [completionEvents_eq, (visitor_address m).2]
  dsimp only
  rw [listed_eq, read]
  rfl

/-- What the client is told about the job is true. -/
lemma visitor_status (m k : Nat) : (visitor m).jobStatus oneMapJob k =
    (.ok ((momentOf m (k + 1)).coordinator.jobStatus oneMapJob), k + 1) := by
  have path : Service.Target.ofPath (plain "GET" jobAddress).path = some (.job oneMapJob) := by
    decide
  have back : ∀ status ∈ (momentOf m (k + 1)).coordinator.jobStatus oneMapJob,
      Codec.jobStatus.ReadsBack status := by
    rcases momentOf_cases m (k + 1) with e | e <;> rw [e] <;> decide +kernel
  have known : ((momentOf m (k + 1)).coordinator.jobStatus oneMapJob).isSome := by
    rcases momentOf_cases m (k + 1) with e | e <;> rw [e] <;> decide +kernel
  obtain ⟨status, found⟩ := Option.isSome_iff_exists.1 known
  have answered : (visitor m).link.exchange (plain "GET" jobAddress) k =
      (.ok (.ofResponse ⟨200, some versionText, .json (Codec.jobStatus.write status)⟩), k + 1) := by
    rw [visitor, sessionLink]
    dsimp only
    rw [Service.answer_job rfl rfl path jobName found]
  rw [jobStatus_eq, (visitor_address m).1]
  dsimp only
  rw [optional_of_answer _ answered (back status found), found]

/-- The client is attended. -/
lemma visitor_attended (m : Nat) : (visitor m).Attended oneMapJob (momentOf m) where
  exchange r k := by
    have next : ((visitor m).link.exchange r k).2 = k + 1 := by
      rw [visitor, sessionLink]
      dsimp only
      split <;> rfl
    rw [next]
    exact momentOf_leads m k
  pause _ k := .refl _
  events n k page k' seen told := by
    have le : n ≤ 1 := by
      refine seen.trans ?_
      rcases momentOf_cases m k with e | e <;> rw [e] <;> decide +kernel
    rw [visitor_events m k le] at told
    cases told
    rfl
  status k answer k' told := by
    rw [visitor_status m k] at told
    cases told
    rfl

end Visitor

/-- The sample client starts in a reachable state. -/
lemma visitor_reachable (m : Nat) : Reachable (momentOf m 0) := by
  have runs : oneMapSystem.Leads mapRuns := ⟨_, .of_permitsAll (by decide)⟩
  have re : Reachable mapRuns := runs.reachable oneMap_reachable
  rcases momentOf_cases m 0 with e | e <;> rw [e]
  · exact re
  · have ends : mapRuns.Leads (mapRuns.next mapEnds) := ⟨[mapEnds], .snoc .nil trivial⟩
    exact ends.reachable re

/-- From some call on, the sample client is told that the job is over. -/
lemma visitor_ended {m k : Nat} (ended : m ≤ k + 1) : ∃ status : JobStatus,
    (visitor m).jobStatus oneMapJob k = (.ok (some status), k + 1) ∧ status.state.isTerminal := by
  obtain ⟨status, found⟩ := Option.isSome_iff_exists.1
    (show ((mapRuns.next mapEnds).coordinator.jobStatus oneMapJob).isSome by decide +kernel)
  have terminal : ((mapRuns.next mapEnds).coordinator.jobStatus oneMapJob).all
      (·.state.isTerminal) := by decide +kernel
  rw [found] at terminal
  refine ⟨status, ?_, terminal⟩
  rw [visitor_status, momentOf, if_neg (by omega), found]

/-- A round that finds no events once the job has ended is the last one. -/
lemma visitor_stops {m k n : Nat} (le : n ≤ 1) (ended : m ≤ k + 2)
    (noEvents : pageAt m (k + 1) n = []) :
    ∃ status : JobStatus, status.state.isTerminal ∧
      waitFor (visitor m) oneMapJob 1 1 (.ofNat n) k =
        (⟨jobStatusLines status, .done⟩, k + 2) := by
  have first := visitor_events m k le
  rw [noEvents] at first
  obtain ⟨status, told, terminal⟩ := visitor_ended ended
  refine ⟨status, terminal, ?_⟩
  rw [waitFor_succ, first]
  exact proceed_ended told terminal

/-- The attempt ends before the first request: its event is printed, and then the status. -/
theorem sample_waited_log_printed : ∃ status : JobStatus,
    let lines := ["#0 attempt_202601020304_0001_m_000000_0 Succeeded"] ++ jobStatusLines status
    waitFor (visitor 1) oneMapJob 1 2 0 0 = (⟨lines, .done⟩, 4) ∧
    ∃ u status', (visitor 1).Shown oneMapJob (momentOf 1) 0 u 4 status' lines := by
  have page : pageAt 1 1 0 =
      [⟨0, oneMapAttempt, 0, true, .succeeded, "h1", 0⟩] := by decide +kernel
  have noEvents : pageAt 1 3 1 = [] := by
    decide +kernel
  have first := visitor_events 1 0 (Nat.zero_le 1)
  rw [page] at first
  obtain ⟨_, told, -⟩ := visitor_ended (Nat.le_add_left 1 1)
  obtain ⟨status, -, rest⟩ := visitor_stops (Nat.le_refl 1) (by decide) noEvents
  have zero : (0 : UInt32) = .ofNat 0 := rfl
  have done : waitFor (visitor 1) oneMapJob 1 2 0 0 =
      (⟨["#0 attempt_202601020304_0001_m_000000_0 Succeeded"] ++ jobStatusLines status, .done⟩,
        4) := by
    rw [waitFor_succ, zero, first]
    exact proceed_more told (List.cons_ne_nil _ _) (by decide) rest
  refine ⟨status, done, ?_⟩
  refine (waited_log_printed (visitor_attended 1) (visitor_reachable 1) ?_ done).resolve_left ?_
  · decide +kernel
  · exact fun gone => absurd gone.2 (by decide +kernel)

/-- The attempt ends between the request for events and the request for the state: the wait ends,
and the event of the attempt, which is in the log, is not printed. -/
theorem late_event_not_printed :
    (visitor 2).Attended oneMapJob (momentOf 2) ∧ Reachable (momentOf 2 0) ∧
    (∃ status : JobStatus, status.state.isTerminal ∧
      waitFor (visitor 2) oneMapJob 1 1 0 0 = (⟨jobStatusLines status, .done⟩, 2)) ∧
    ((momentOf 2 2).coordinator.eventLog oneMapJob).map CompletionEvent.attemptId =
      [oneMapAttempt] :=
  ⟨visitor_attended 2, visitor_reachable 2,
    visitor_stops (Nat.zero_le 1) (Nat.le_refl 2) (by decide +kernel), by decide +kernel⟩

end JobCluster.Client
