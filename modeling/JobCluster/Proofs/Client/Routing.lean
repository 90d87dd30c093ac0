import JobCluster.Proofs.Client.Procedure

/-!
# Where calls arrive

The request of a call is about the operation that was called, and each name of it arrives as what an
address keeps of it (`decode_ofPath_request`). That is the name itself if it holds no tab and no
line break. Names that stand for a directory in an address are left out here: they do not become
segments, so that the request is about something else.
-/

namespace JobCluster

open JobCluster.Client JobCluster.Http JobCluster.Protocol JobCluster.Service JobCluster.Text
  JobCluster.Time JobCluster.Wire

variable {α : Type}

namespace Service.Target

/-- The same target with other names. -/
def mapNames (f : String → String) : Target → Target
  | .job id => .job (f id)
  | .profile id => .profile (f id)
  | .counters id => .counters (f id)
  | .kill id => .kill (f id)
  | .reports id kind => .reports (f id) kind
  | .events id => .events (f id)
  | .diagnostics id task attempt => .diagnostics (f id) (f task) (f attempt)
  | .killAttempt id => .killAttempt (f id)
  | t => t

variable {f : String → String} {t : Target}

/-- The methods of an address do not depend on the names in it. -/
lemma accepts_mapNames (method : String) : (t.mapNames f).accepts method = t.accepts method := by
  cases t <;> rfl

/-- Whether an address checks the version does not depend on the names in it. -/
lemma isVersioned_mapNames : (t.mapNames f).isVersioned = t.isVersioned := by
  cases t <;> rfl

/-- A name is decoded to what the client kept of it. -/
lemma decodeName_segmentOf (name : String) : decodeName (segmentOf name) = some (kept name) :=
  ofUtf8?_segmentOf name

/-- Segments are read as what addresses keep of the names. -/
lemma decode_segments (t : Target) : (t.mapNames segmentOf).decode = some (t.mapNames kept) := by
  cases t <;> simp only [mapNames, decode, decodeName_segmentOf] <;> rfl

end Service.Target

namespace Protocol.Procedure

/-- What an operation is about. -/
def target : Procedure α → Target
  | .newJobId => .jobIds
  | .submitJob .. => .jobs
  | .clusterStatus => .cluster
  | .killJob id => .kill id
  | .killTask id _ => .killAttempt id
  | .jobProfile id => .profile id
  | .jobStatus id => .job id
  | .jobCounters id => .counters id
  | .mapReports id => .reports id .map
  | .reduceReports id => .reports id .reduce
  | .fileSystemName => .fileSystem
  | .incompleteJobs => .incompleteJobs
  | .allJobs => .allJobs
  | .completionEvents id .. => .events id
  | .taskDiagnostics id task attempt => .diagnostics id task attempt

/-- The names that an operation is called with in the path. -/
def names : Procedure α → List String
  | .killJob id | .killTask id _ | .jobProfile id | .jobStatus id | .jobCounters id | .mapReports id
  | .reduceReports id | .completionEvents id .. => [id]
  | .taskDiagnostics id task attempt => [id, task, attempt]
  | _ => []

/-- The query that an operation is called with. -/
def asksFor (p : Procedure α) : Option String :=
  match p with
  | .completionEvents _ start max =>
    some ("from=" ++ decimal start.toNat ++ "&" ++ ("max=" ++ decimal max.toNat))
  | _ => none

/-- Where the request of an operation is sent to. -/
def sentTo (origin : String) (p : Procedure α) : Address :=
  ⟨origin, "api" :: "v1" :: p.segments.map segmentOf, p.asksFor⟩

variable {p : Procedure α} {origin : String}

/-- The segments of a call's address are no dot segments, if its names are none. -/
lemma noDots_segments (noDots : ∀ id ∈ p.names, ¬ IsDots id) :
    ∀ s ∈ ["api", "v1"] ++ p.segments, ¬ IsDots s := by
  cases p <;>
    simp +decide only [names, segments, List.cons_append, List.nil_append,
      List.forall_mem_cons] at noDots ⊢ <;>
    simp [noDots]

/-- No segment of a call's address is dropped, as none is a dot segment. -/
lemma address_eq (noDots : ∀ id ∈ p.names, ¬ IsDots id) :
    p.address ⟨origin, [], none⟩ = ⟨origin, "api" :: "v1" :: p.segments.map segmentOf, none⟩ := by
  rw [address, Address.extend, foldl_pushSegment (noDots_segments noDots), List.nil_append,
    List.map_append]
  rfl

/-- The address of a page carries its start and its length. -/
lemma pageAddress_eq {path : List String} (start max : UInt32) :
    pageAddress ⟨origin, path, none⟩ start max = ⟨origin, path,
      some ("from=" ++ decimal start.toNat ++ "&" ++ ("max=" ++ decimal max.toNat))⟩ := by
  have joined (s t : String) : "&".intercalate [s, t] = s ++ "&" ++ t := by
    rw [String.intercalate_cons_cons, String.intercalate_singleton]
  exact congrArg (fun q => (⟨origin, path, some q⟩ : Address)) (joined _ _)

/-- A call asks for what it says. -/
lemma target_request (noDots : ∀ id ∈ p.names, ¬ IsDots id) :
    (p.request ⟨origin, [], none⟩).target = (p.sentTo origin).target := by
  have address : p.address ⟨origin, [], none⟩ = _ := address_eq noDots
  cases p with
  | completionEvents id start max =>
    change (pageAddress _ start max).target = _
    rw [address, pageAddress_eq]
    rfl
  | _ => exact congrArg Address.target address

/-- A number is written in digits alone. -/
lemma notMem_decimal {c : Char} (noDigit : c.isDigit = false) (n : Nat) :
    c ∉ (decimal n).toList := by
  rw [decimal, String.toList_ofList]
  intro mem
  exact Bool.false_ne_true (noDigit.symm.trans (isDigit_of_mem_decimalDigits mem))

/-- The address that a call is sent to can be split again as it was put together. -/
lemma plain_sentTo (p : Procedure α) (origin : String) : (p.sentTo origin).Plain where
  nonempty := List.cons_ne_nil _ _
  segments := by
    refine List.forall_mem_cons.2 ⟨by decide, List.forall_mem_cons.2 ⟨by decide, fun s mem => ?_⟩⟩
    obtain ⟨name, -, rfl⟩ := List.mem_map.1 mem
    exact notMem_segmentOf name
  query := by
    cases p with
    | completionEvents id start max =>
      intro q mem
      cases mem
      simp only [String.toList_append, List.mem_append, not_or]
      exact ⟨⟨⟨by decide, notMem_decimal (by decide) _⟩, by decide⟩, by decide,
        notMem_decimal (by decide) _⟩
    | _ => exact fun _ mem => by cases mem

/-- The path of a request is split into the segments of its call. -/
lemma ofPath_request (noDots : ∀ id ∈ p.names, ¬ IsDots id) :
    Target.ofPath (p.request ⟨origin, [], none⟩).path =
      Target.ofSegments (p.segments.map segmentOf) := by
  rw [Target.ofPath, splitOn_path (target_request noDots) (p.plain_sentTo origin)]
  rfl

/-- A segment is empty when nothing is kept of its name. -/
lemma segmentOf_eq_empty_iff {name : String} : segmentOf name = "" ↔ kept name = "" := by
  constructor
  · intro e
    have read := ofUtf8?_segmentOf name
    rw [e] at read
    exact (Option.some.inj read).symm
  · intro e
    rw [segmentOf, e]
    rfl

/-- The segments of paths that are no names. -/
def fixedSegments : List String :=
  ["api", "v1", "job-ids", "jobs", "cluster", "status", "kill", "attempts", "profile", "counters",
    "tasks", "map", "reduce", "filesystem", "incomplete", "all", "events", "diagnostics"]

/-- The words of the routes are encoded as themselves. -/
lemma segmentOf_fixed {s : String} (fixed : s ∈ fixedSegments) : segmentOf s = s := by
  have all : ∀ s ∈ fixedSegments, segmentOf s = s := by decide
  exact all s fixed

/-- What the segments of an operation stand for. A job without a name is none. -/
lemma ofSegments_segments (p : Procedure α) : Target.ofSegments (p.segments.map segmentOf) =
    if p.target.mapNames kept = .job "" then none else some (p.target.mapNames segmentOf) := by
  cases p <;>
    simp +decide only [segments, List.map_cons, List.map_nil, segmentOf_fixed, Target.ofSegments,
      target, Target.mapNames, segmentOf_eq_empty_iff, Target.job.injEq, reduceCtorEq, if_false]

/-- A call is made with a method that its address takes, and never asks for a head alone. -/
lemma accepts_request (p : Procedure α) (base : Address) :
    p.target.accepts (p.request base).method = true ∧
      ((p.request base).method == "HEAD") = false := by
  cases p <;> exact ⟨rfl, rfl⟩

/-- Every call announces the version. -/
lemma version_request (p : Procedure α) (base : Address) :
    (p.request base).version = some versionText := by
  cases p <;> rfl

/-- Every call is for an address that checks it. -/
lemma isVersioned_target (p : Procedure α) : p.target.isVersioned = true := by
  cases p <;> rfl

/-- A request arrives at its target with what addresses keep of the names. -/
theorem decode_ofPath_request (noDots : ∀ id ∈ p.names, ¬ IsDots id) :
    (Target.ofPath (p.request ⟨origin, [], none⟩).path).bind Target.decode =
      if p.target.mapNames kept = .job "" then none else some (p.target.mapNames kept) := by
  rw [ofPath_request noDots, ofSegments_segments]
  split_ifs
  · rfl
  · exact Target.decode_segments _

/-- The kept names of an operation are its names when they hold no tab and no line break. -/
lemma mapNames_kept_eq_iff (p : Procedure α) : p.target.mapNames kept = p.target ↔
    ∀ id ∈ p.names, ∀ ch ∈ id.toList, isDropped ch = false := by
  cases p <;> simp [target, Target.mapNames, names, kept_eq_self_iff]

/-! ## Answers -/

variable {s : Service} {clock : Readings} {newTracker : TrackerId}

/-- The request of an operation is carried out. -/
lemma answer_request (noDots : ∀ id ∈ p.names, ¬ IsDots id)
    (named : p.target.mapNames kept ≠ .job "") :
    s.answer (p.request ⟨origin, [], none⟩) clock newTracker =
      (s.perform (p.target.mapNames kept) (p.request ⟨origin, [], none⟩) clock newTracker).map
        fun x => (announce x.1.response, x.2) := by
  obtain ⟨accepted, noHead⟩ := p.accepts_request ⟨origin, [], none⟩
  refine answer_accepted (t := p.target.mapNames segmentOf) ?_ noHead (p.version_request _) ?_ ?_
    (Target.decode_segments _)
  · rw [Target.accepts_mapNames, accepted]
  · rw [ofPath_request noDots, ofSegments_segments, if_neg named]
  · rw [Target.isVersioned_mapNames, isVersioned_target]

end Protocol.Procedure

namespace Client

open Procedure

variable {c : Client Service} {s : Service} {clock : Readings} {newTracker : TrackerId}

/-- A call over the link to a service. -/
lemma call_link {base : Address} (read : Address.read c.base = some base)
    (link : c.link = Service.link clock newTracker) (p : Procedure α) :
    c.call p s = match s.answer (p.request base) clock newTracker with
      | some (response, s') => ((interpret (.ofResponse response)).bind p.shape.read, s')
      | none => (.error (.transport "error sending request"), s) := by
  rw [call_eq c read, asked, execute, link, Service.link]
  dsimp only
  rcases s.answer (p.request base) clock newTracker with - | ⟨response, s'⟩ <;> rfl

variable {origin : String}

/-- A question about a job that is not there is answered by nothing. -/
lemma call_unknown {p : Procedure α}
    (base : Address.read c.base = some ⟨origin, [], none⟩)
    (link : c.link = Service.link clock newTracker) (noDots : ∀ id ∈ p.names, ¬ IsDots id)
    (missing : p.target.mapNames kept ≠ .job "" →
      ∃ what, s.perform (p.target.mapNames kept) (p.request ⟨origin, [], none⟩) clock newTracker =
        some (.failed (.notFound what), s)) :
    c.call p s = (p.shape.read none, s) := by
  rw [call_link base link]
  by_cases named : p.target.mapNames kept = .job ""
  · have path : Target.ofPath (p.request ⟨origin, [], none⟩).path = none := by
      rw [ofPath_request noDots, ofSegments_segments, if_pos named]
    rw [answer, path]
    dsimp only
    rw [interpret_missing rfl rfl]
    rfl
  · obtain ⟨what, missing⟩ := missing named
    rw [answer_request noDots named, missing, Option.map_some]
    dsimp only
    rw [interpret_missing rfl rfl]
    rfl

/-- Every call arrives at its operation with the names that addresses keep, unless a name stands for
a directory; a job that is not known is then answered by nothing. -/
theorem names_arrive (base : Address.read c.base = some ⟨origin, [], none⟩)
    (link : c.link = Service.link clock newTracker) (s : Service) :
    (∀ {α : Type} (p : Procedure α), (∀ id ∈ p.names, ¬ IsDots id) →
      c.call p s = c.asked (p.request ⟨origin, [], none⟩) p.shape.read s ∧
      (Target.ofPath (p.request ⟨origin, [], none⟩).path).bind Target.decode =
        (if p.target.mapNames kept = .job "" then none else some (p.target.mapNames kept)) ∧
      (p.target.mapNames kept = p.target ↔
        ∀ id ∈ p.names, ∀ ch ∈ id.toList, isDropped ch = false)) ∧
    ∀ id, ¬ IsDots id → s.coordinator.job? (kept id) = none →
      c.jobStatus id s = (.ok none, s) ∧ c.jobProfile id s = (.ok none, s) ∧
      c.jobCounters id s = (.ok none, s) ∧ c.killJob id s = (.ok (), s) := by
  refine ⟨fun p noDots => ⟨call_eq c base p s, decode_ofPath_request noDots,
    mapNames_kept_eq_iff p⟩, fun id noDots unknown => ?_⟩
  have one : ∀ name ∈ [id], ¬ IsDots name := List.forall_mem_singleton.2 noDots
  have status : s.coordinator.jobStatus (kept id) = none := by
    rw [Coordinator.jobStatus, unknown, Option.map_none]
  have profile : s.coordinator.jobProfile (kept id) = none := by
    rw [Coordinator.jobProfile, unknown, Option.map_none]
  have counters : s.coordinator.jobCounters (kept id) = none := by
    rw [Coordinator.jobCounters, unknown, Option.map_none]
  refine ⟨?_, ?_, ?_, ?_⟩
  · refine call_unknown (p := .jobStatus id) base link one fun _ => ?_
    change ∃ what, some (found Codec.jobStatus ("job " ++ kept id) _, s) = _
    rw [status]
    exact ⟨_, rfl⟩
  · refine call_unknown (p := .jobProfile id) base link one fun _ => ?_
    change ∃ what, some (found Codec.jobProfile ("job " ++ kept id) _, s) = _
    rw [profile]
    exact ⟨_, rfl⟩
  · refine call_unknown (p := .jobCounters id) base link one fun _ => ?_
    change ∃ what, some (found Codec.counters ("job " ++ kept id) _, s) = _
    rw [counters]
    exact ⟨_, rfl⟩
  · -- a kill of an unknown job succeeds, so its answer is not that of a missing object
    have done : s.perform (.kill (kept id)) ((Procedure.killJob id).request ⟨origin, [], none⟩)
        clock newTracker = some (.done, s) := by
      rw [perform, Coordinator.killJob, unknown]
    have answered : s.answer ((Procedure.killJob id).request ⟨origin, [], none⟩) clock newTracker =
        some (announce Reply.done.response, s) := by
      rw [answer_request (p := .killJob id) one (fun e => by cases e), target, Target.mapNames,
        done]
      rfl
    change c.call (.killJob id) s = _
    rw [call_link base link, answered]
    dsimp only
    rw [interpret_success rfl rfl]
    rfl

/-- A service without jobs. -/
def idle : Service where
  coordinator := .start "202601020304"
  files := .new .unloaded .root
  tree := ⟨[]⟩
  splitSize := 10
  maxJobs := 10

/-- A client of a service, over the link to it. -/
def toService : Client Service := ⟨Service.link (.still ⟨0, 0⟩) "t1", "http://jobs"⟩

/-- The address of the sample service can be read. -/
lemma toService_base : Address.read toService.base = some ⟨"http://jobs", [], none⟩ := by
  decide +kernel

lemma toService_link : toService.link = Service.link (.still ⟨0, 0⟩) "t1" := rfl

/-- A slash in a name does not end its segment. -/
theorem sample_names_arrive :
    Address.read toService.base = some ⟨"http://jobs", [], none⟩ ∧
    toService.link = Service.link (.still ⟨0, 0⟩) "t1" ∧ ¬ IsDots "a/b" ∧
    idle.coordinator.job? (kept "a/b") = none ∧
    (Target.ofPath ((Procedure.jobStatus "a/b").request ⟨"http://jobs", [], none⟩).path).bind
      Target.decode = some (.job "a/b") ∧
    toService.jobStatus "a/b" idle = (.ok none, idle) := by
  have noDots : ¬ IsDots "a/b" := by decide
  obtain ⟨arrive, unknown⟩ := names_arrive toService_base toService_link idle
  have arrived := (arrive (.jobStatus "a/b") (List.forall_mem_singleton.2 noDots)).2.1
  rw [show (Procedure.jobStatus "a/b").target.mapNames kept = .job "a/b" by decide] at arrived
  exact ⟨toService_base, toService_link, noDots, rfl, arrived, (unknown "a/b" noDots rfl).1⟩

/-- A dot is no segment, so a question about the job of that name is none about a job; and a tab is
lost on the way, so a kill reaches the job whose name has none. -/
theorem dot_and_tab_lost :
    Target.ofPath ((Procedure.jobStatus ".").request ⟨"http://jobs", [], none⟩).path =
      some .jobs ∧
    toService.jobStatus "." idle = (.error (.remote 405 "405 Method Not Allowed"), idle) ∧
    (Target.ofPath ((Procedure.killJob "job_1\t").request ⟨"http://jobs", [], none⟩).path).bind
      Target.decode = some (.kill "job_1") := by
  have path : Target.ofPath ((Procedure.jobStatus ".").request ⟨"http://jobs", [], none⟩).path =
      some .jobs := by decide
  refine ⟨path, ?_, by decide⟩
  have answered : idle.answer ((Procedure.jobStatus ".").request ⟨"http://jobs", [], none⟩)
      (.still ⟨0, 0⟩)
      "t1" = some (announce (Reply.rejected .methodNotAllowed).response, idle) := by
    rw [answer, path]
    dsimp only
    rw [version_request, ensureVersion_versionText]
    rfl
  change toService.call (.jobStatus ".") idle = _
  rw [call_link toService_base toService_link, answered]
  dsimp only
  have said : errorOf (.ofResponse (announce (Reply.rejected .methodNotAllowed).response)) =
      .remote 405 "405 Method Not Allowed" := by decide
  rw [interpret_unsuccessful rfl rfl (Nat.ne_of_beq_eq_false rfl), said]
  rfl

end Client

end JobCluster
