import JobCluster.Proofs.Client.Routing
import JobCluster.Proofs.Http.Query

/-!
# Replies to calls

The request of a call is carried out as the operation itself, and the reply is of the shape that the
caller reads (`Procedure.perform_request`). What the reply carries is what the caller reads from it
(`Shape.read_reply`).
-/

namespace JobCluster

open JobCluster.Client JobCluster.Http JobCluster.Protocol JobCluster.Service JobCluster.Text
  JobCluster.Time JobCluster.Wire

variable {α : Type}

/-! ## Shapes of replies -/

namespace Client.Shape

/-- The reply to an operation, by how it ended. -/
def reply : Shape α → Except ProtocolError α → Reply
  | _, .error e => .failed (.protocol e)
  | .message c, .ok a => .value (c.write a)
  | .maybe c what, .ok a => found c what a
  | .orElse c _, .ok a => .value (c.write a)
  | .nothing, .ok _ => .done

/-- What is returned is carried by the reply. -/
def Carries : Shape α → α → Prop
  | .message c, a => c.Carries a
  | .maybe c _, a => ∀ b ∈ a, c.Carries b
  | .orElse c _, a => c.Carries a
  | .nothing, _ => True

/-- A value in an answer is read as it was written. -/
lemma readMaybe_value {c : Codec α} {a : α} (carries : c.Carries a) :
    readMaybe c (some (.ofResponse (announce (Reply.value (c.write a)).response))) =
      .ok (some a) := by
  have text : c.readText (Received.ofResponse
      (announce (Reply.value (c.write a)).response)).body = .ok a := carries.readText
  have read : readAnswer c (.ofResponse (announce (Reply.value (c.write a)).response)) = .ok a := by
    rw [readAnswer, text]
  rw [readMaybe, read]
  rfl

/-- A caller reads what the reply carries, and is told the errors that were raised. -/
theorem read_reply {shape : Shape α} {x : Except ProtocolError α}
    (carries : ∀ a, x = .ok a → shape.Carries a) (raised : ∀ e, x = .error e → Raised e) :
    (interpret (.ofResponse (announce (shape.reply x).response))).bind shape.read =
      x.mapError ProtocolError.told := by
  cases x with
  -- an error is answered in the same way whatever the shape
  | error e =>
    have failed : shape.reply (.error e) = .failed (.protocol e) := by cases shape <;> rfl
    change ((interpret (.ofResponse (announce (shape.reply _).response))).bind _) = _
    rw [failed]
    change (interpret (failureReceived e)).bind _ = _
    rw [interpret_failureReceived (raised e rfl)]
    rfl
  | ok a =>
    have carries := carries a rfl
    cases shape with
    | message c =>
      rw [reply, interpret_success rfl rfl]
      change readNeeded c _ = _
      rw [readNeeded, readMaybe_value carries]
      rfl
    | maybe c what =>
      cases a with
      | none =>
        rw [reply, found, interpret_missing rfl rfl]
        rfl
      | some a =>
        rw [reply, found, interpret_success rfl rfl]
        exact readMaybe_value (carries a rfl)
    | orElse c d =>
      rw [reply, interpret_success rfl rfl]
      change (readMaybe c _).map _ = _
      rw [readMaybe_value carries]
      rfl
    | nothing =>
      rw [reply, interpret_success rfl rfl]
      rfl

end Client.Shape

/-! ## Requests carried out -/

namespace Protocol.Procedure

variable {s : Service} {clock : Readings} {newTracker : TrackerId} {p : Procedure α}
  {origin : String}

/-- A value in a request is read as it was written, if the body is not too large. -/
lemma readBody_posting {c : Codec α} {a : α} (carries : c.Carries a) {address : Address}
    (fits : utf8Length (posting address c a).body ≤ maxBodyLength) :
    readBody c (posting address c a) = .ok a := by
  have json : announcesJson (some "application/json") = true := by decide +kernel
  have read : c.readFront (posting address c a).body = .ok a := carries.readFront
  rw [readBody, posting, json, ← posting, if_neg (by decide), if_neg (Nat.not_lt.2 fits), read]

/-- A number needs no encoding in a query. -/
lemma isPlain_decimal (n : Nat) : IsPlain (decimal n).toList := by
  have other {sign : Char} (noDigit : sign.isDigit = false) : ∀ c ∈ (decimal n).toList, c ≠ sign :=
    fun c mem e => notMem_decimal noDigit n (e ▸ mem)
  exact fun c mem => ⟨other rfl c mem, other rfl c mem, other rfl c mem, other rfl c mem⟩

/-- A number in a query is read as it was written. -/
lemma readWord32_decimal (n : UInt32) : readWord32 (decimal n.toNat) = some n := by
  have le : n.toNat ≤ maxWord32 := Nat.le_pred_of_lt n.toNat_lt
  rw [readWord32, readNatural_decimal le, Option.map_some, UInt32.ofNat_toNat]

/-- The page that was asked for is read from the query. -/
lemma eventsPage_request {id : JobId} {start max : UInt32} (noDots : ¬ IsDots id) :
    eventsPage ((completionEvents id start max).request ⟨origin, [], none⟩) =
      some ⟨start, max⟩ := by
  have one : ∀ name ∈ (completionEvents id start max).names, ¬ IsDots name :=
    List.forall_mem_singleton.2 noDots
  have query : ((completionEvents id start max).request ⟨origin, [], none⟩).query = _ :=
    query_eq (target_request one) (plain_sentTo _ origin) rfl
  have text : ("from=" ++ decimal start.toNat ++ "&" ++ ("max=" ++ decimal max.toNat)).toList =
      "from".toList ++ '=' :: (decimal start.toNat).toList ++
        '&' :: ("max".toList ++ '=' :: (decimal max.toNat).toList) := by
    simp only [String.toList_append, List.append_assoc]
    rfl
  have plain : IsPlain ['f', 'r', 'o', 'm'] ∧ IsPlain ['m', 'a', 'x'] := by decide
  have pairs := readQuery_pairs text plain.1 (isPlain_decimal _) plain.2 (isPlain_decimal _)
  simp only [String.ofList_toList] at pairs
  rw [eventsPage, query, pairs]
  have first : readQueryWord "from" 0 [("from", decimal start.toNat), ("max", decimal max.toNat)] =
      some start := readWord32_decimal start
  have second : readQueryWord "max" defaultMaxEvents
      [("from", decimal start.toNat), ("max", decimal max.toNat)] = some max :=
    readWord32_decimal max
  change ((readQueryWord "from" 0 _).bind fun start =>
    (readQueryWord "max" defaultMaxEvents _).bind fun max => some (EventsQuery.mk start max)) = _
  rw [first, second]
  rfl

/-- The request of an operation is carried out as the operation, and answered in its shape. -/
theorem perform_request (noDots : ∀ id ∈ p.names, ¬ IsDots id)
    (fits : utf8Length (p.request ⟨origin, [], none⟩).body ≤ maxBodyLength) :
    s.perform p.target (p.request ⟨origin, [], none⟩) clock newTracker =
      (s.run clock p).map fun x => (p.shape.reply x.1, x.2) := by
  -- a call without a body or a query is performed as it stands
  cases p with
  | newJobId | killJob | jobProfile | jobStatus | jobCounters | mapReports | reduceReports
  | fileSystemName | incompleteJobs | allJobs | taskDiagnostics => rfl
  | submitJob id d =>
    change s.withBody Codec.submitRequest (posting _ _ _) _ = _
    rw [withBody, readBody_posting (Codec.carries_submitRequest _) fits]
    change some (s.submitJob ⟨id, d⟩ clock) = _
    rw [Service.submitJob, Service.run]
    dsimp only
    rcases s.coordinator.submit id d s.splitSize s.maxJobs clock.first with
      ⟨e | submission, c⟩ <;> rfl
  | clusterStatus =>
    change s.coordinator.clusterStatus.map _ = _
    rw [Service.run, Option.map_map]
    rfl
  | killTask id shouldFail =>
    have carries : Codec.killRequest.Carries shouldFail :=
      Codec.carries_only (Codec.carries_bool shouldFail)
    change s.withBody Codec.killRequest (posting _ _ _) _ = _
    rw [withBody, readBody_posting carries fits]
    rfl
  | completionEvents id start max =>
    have page : eventsPage ((Procedure.completionEvents id start max).request
        ⟨origin, [], none⟩) = some ⟨start, max⟩ :=
      eventsPage_request (noDots id List.mem_cons_self)
    rw [target, perform]
    dsimp only
    rw [page]
    rfl

end Protocol.Procedure

end JobCluster
