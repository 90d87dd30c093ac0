import JobCluster.Client.Calls
import JobCluster.Service.Answer
import Mathlib.Tactic.Lemma

/-!
# Exchanges of a client with the service

A request that only reads a target is answered by the service with what its coordinator holds
(`answer_job`, `answer_events`). The calls of a client come down to at most one exchange over the
link, whose answer is read (`jobStatus_eq`, `completionEvents_eq`, `optional_of_answer`).
-/

namespace JobCluster

open JobCluster.Http JobCluster.Json JobCluster.Protocol JobCluster.Text JobCluster.Time
  JobCluster.Wire

lemma Protocol.announcedVersion_versionText :
    announcedVersion ((some versionText).bind readableHeader) = protocolVersion := rfl

/-- A request of the client passes the check of the version. -/
lemma Protocol.ensureVersion_versionText :
    ensureVersion ((some versionText).bind readableHeader) = .ok () := by
  rw [ensureVersion, announcedVersion_versionText]
  rfl

namespace Wire.Codec

variable {α : Type}

/-- Whether a message is read back from the characters that it is written with, all of them. -/
def ReadsBack (c : Codec α) (a : α) : Prop :=
  (c.read (scanFront (c.write a).chars).1).toOption = some a ∧
    (scanFront (c.write a).chars).2 = some []

instance [DecidableEq α] (c : Codec α) (a : α) : Decidable (c.ReadsBack a) :=
  inferInstanceAs (Decidable (_ ∧ _))

/-- A value that reads back as JSON reads back as text. -/
lemma ReadsBack.readText {c : Codec α} {a : α} (back : c.ReadsBack a) :
    c.readText (c.writeText a) = .ok a := by
  obtain ⟨front, rest⟩ := back
  rw [Codec.readText, writeText, Value.toText, String.toList_ofList]
  generalize scanFront (c.write a).chars = scanned at front rest ⊢
  obtain ⟨t, rest'⟩ := scanned
  dsimp only at front rest ⊢
  subst rest
  cases read : c.read t with
  | error e =>
    rw [read] at front
    cases front
  | ok b =>
    rw [read] at front
    cases front
    rfl

end Wire.Codec

namespace Service

variable {s : Service} {r : Request} {clock : Readings} {newTracker : TrackerId}

/-- A request for a target with a method that asks for it, and for the answer as a whole, is carried
out. -/
lemma answer_accepted {t n : Target} (accepted : t.accepts r.method = true)
    (noHead : (r.method == "HEAD") = false) (announced : r.version = some versionText)
    (path : Target.ofPath r.path = some t) (versioned : t.isVersioned) (names : t.decode = some n) :
    s.answer r clock newTracker =
      (s.perform n r clock newTracker).map fun x => (announce x.1.response, x.2) := by
  have whole (response : Response) : finish t r response = response := by
    rw [finish, accepted, noHead]
    rfl
  have performed : s.reply t r clock newTracker = s.perform n r clock newTracker := by
    rw [reply, accepted, names]
    rfl
  rw [answer, path]
  dsimp only
  rw [versioned, announced, ensureVersion_versionText, performed]
  simp only [whole]
  rfl

/-- A request to read a target is carried out. -/
lemma answer_get {t n : Target} (get : r.method = "GET") (announced : r.version = some versionText)
    (path : Target.ofPath r.path = some t) (reads : t.isPosted = false) (versioned : t.isVersioned)
    (names : t.decode = some n) :
    s.answer r clock newTracker =
      (s.perform n r clock newTracker).map fun x => (announce x.1.response, x.2) := by
  have accepted : t.accepts r.method = true := by
    rw [Target.accepts, reads, get]
    rfl
  exact answer_accepted accepted (by rw [get]; rfl) announced path versioned names

/-- The state of a job is answered. -/
lemma answer_job {name : String} {id : JobId} {status : JobStatus} (get : r.method = "GET")
    (announced : r.version = some versionText) (path : Target.ofPath r.path = some (.job name))
    (names : Target.decodeName name = some id) (found : s.coordinator.jobStatus id = some status) :
    s.answer r clock newTracker =
      some (⟨200, some versionText, .json (Codec.jobStatus.write status)⟩, s) := by
  rw [answer_get get announced path rfl rfl (n := .job id) (by rw [Target.decode, names]; rfl),
    perform]
  simp only [found]
  rfl

/-- A page of a completion log is answered. -/
lemma answer_events {name : String} {id : JobId} {q : EventsQuery} (get : r.method = "GET")
    (announced : r.version = some versionText) (path : Target.ofPath r.path = some (.events name))
    (names : Target.decodeName name = some id) (page : eventsPage r = some q) :
    s.answer r clock newTracker = some (⟨200, some versionText, .json ((Codec.list
      Codec.completionEvent).write (s.coordinator.completionEvents id q.start q.max))⟩, s) := by
  rw [answer_get get announced path rfl rfl (n := .events id) (by rw [Target.decode, names]; rfl),
    perform]
  simp only [page]
  rfl

end Service

namespace Client

variable {σ α β : Type}

namespace Exchange

/-- The second exchange runs only after the first succeeded, and on the state that it left. -/
lemma bind_apply (x : Exchange σ α) (f : α → Exchange σ β) (s : σ) :
    (x >>= f) s = match x s with
      | (.ok a, s') => f a s'
      | (.error e, s') => (.error e, s') := by
  simp only [bind, ExceptT.bind, ExceptT.mk, StateT.bind]
  rcases x s with ⟨e | a, s'⟩ <;> rfl

/-- Changing an answer leaves the state alone. -/
lemma map_apply (f : α → β) (x : Exchange σ α) (s : σ) :
    (f <$> x) s = ((x s).1.map f, (x s).2) := by
  simp only [Functor.map, ExceptT.map, ExceptT.mk, StateT.bind, bind]
  rcases x s with ⟨e | a, s'⟩ <;> rfl

end Exchange

variable (c : Client σ)

/-- A request changes the other side as its exchange does, however the answer is read. -/
lemma snd_execute (r : Request) (s : σ) : (c.execute r s).2 = (c.link.exchange r s).2 := by
  unfold execute
  split <;> next e => rw [e]

/-- What a call that may find nothing makes of the answer. -/
lemma optional_eq (codec : Codec α) (r : Request) (s : σ) :
    c.optional codec r s = ((c.execute r s).1.bind fun
      | some received => (readAnswer codec received).map some
      | none => .ok none, (c.execute r s).2) := by
  rw [optional, Exchange.bind_apply]
  rcases c.execute r s with ⟨- | - | received, s'⟩
  · rfl
  · rfl
  · exact Exchange.map_apply ..

/-- A message that arrives is read. -/
lemma optional_of_answer {codec : Codec α} {r : Request} {s s' : σ} {a : α}
    (answered : c.link.exchange r s =
      (.ok (.ofResponse ⟨200, some versionText, .json (codec.write a)⟩), s'))
    (back : codec.ReadsBack a) : c.optional codec r s = (.ok (some a), s') := by
  have good : interpret (.ofResponse ⟨200, some versionText, .json (codec.write a)⟩) =
      .ok (some (.ofResponse ⟨200, some versionText, .json (codec.write a)⟩)) := by
    rw [interpret, Received.ofResponse, ensureVersion_versionText]
    rfl
  have read : readAnswer codec (.ofResponse ⟨200, some versionText, .json (codec.write a)⟩) =
      .ok a := by
    rw [readAnswer, Received.ofResponse]
    dsimp only
    rw [show codec.readText (codec.write a).toText = .ok a from back.readText]
  rw [optional_eq, execute, answered]
  dsimp only
  rw [good, Except.bind]
  dsimp only
  rw [read]
  rfl

/-- A list that is not there is empty. -/
lemma listed_eq (codec : Codec α) (r : Request) (s : σ) :
    c.listed codec r s = ((c.optional (Codec.list codec) r s).1.map (·.getD []),
      (c.optional (Codec.list codec) r s).2) := by
  rw [listed, Exchange.bind_apply]
  rcases c.optional (Codec.list codec) r s with ⟨- | -, s'⟩ <;> rfl

/-- The state of a job is read from the answer to one request. -/
lemma jobStatus_eq (id : JobId) (s : σ) :
    c.jobStatus id s = match c.address ["jobs", id] with
      | .ok a => c.optional Codec.jobStatus (plain "GET" a) s
      | .error e => (.error e, s) := by
  rw [jobStatus, Exchange.bind_apply, getOf, Exchange.bind_apply, locate]
  cases c.address ["jobs", id] <;> rfl

/-- The address of a page of a completion log. -/
def pageAddress (a : Address) (start max : UInt32) : Address :=
  a.withQuery [("from", decimal start.toNat), ("max", decimal max.toNat)]

/-- A page of a completion log is read from the answer to one request. -/
lemma completionEvents_eq (id : JobId) (start max : UInt32) (s : σ) :
    c.completionEvents id start max s = match c.address ["jobs", id, "events"] with
      | .ok a => c.listed Codec.completionEvent (plain "GET" (pageAddress a start max)) s
      | .error e => (.error e, s) := by
  rw [completionEvents, Exchange.bind_apply, locate]
  cases c.address ["jobs", id, "events"] <;> rfl

end Client

end JobCluster
