import ServerConnections.Host.ScriptedServer
import ServerConnections.Proofs.Server.Report

/-!
# Health probes

A server is up if and only if it says so in the end: the request for its health can be made, a
chain of answers that send the client elsewhere, no longer than its patience, leads to an
answer that is a success, and the body of that answer is a report that says that the server is
up.  A request that is not answered, a chain that is longer, and any other answer mean that it
is not.

What a chain of answers leads to is a relation, `Transport.Leads`: the network is whatever
carries requests, and the state it is in goes with them.

* `Transport.follow_eq_some_iff` — the answers that a client gets to
* `HealthProbe.isUp_iff_leads` — the servers that are up
-/

namespace ServerConnections

variable {σ : Type}

/-! ## Chains of answers -/

/-- **Where a request leads to**: so many answers send the client elsewhere, and the one behind
them does not.  The states are those before the first request and behind the last. -/
inductive Transport.Leads (transport : Transport σ) :
    (hops : Nat) → σ → Request → Response → σ → Prop
  | stays {s s' : σ} {asked : Request} {answer : Response} :
      transport asked s = (some answer, s') → answer.next? asked = none →
        Leads transport 0 s asked answer s'
  | sent {hops : Nat} {s s' last : σ} {asked next : Request} {answer final : Response} :
      transport asked s = (some answer, s') → answer.next? asked = some next →
        Leads transport hops s' next final last →
          Leads transport (hops + 1) s asked final last

namespace Transport

variable {transport : Transport σ} {asked next : Request} {answer : Response} {s s' last : σ}

theorem follow_unanswered (left : Nat) (answered : transport asked s = (none, s')) :
    transport.follow left asked s = (none, s') := by
  cases left <;> simp only [follow, StateT.bind, bind, answered] <;> rfl

theorem follow_stays (left : Nat) (answered : transport asked s = (some answer, s'))
    (stays : answer.next? asked = none) :
    transport.follow left asked s = (some answer, s') := by
  cases left with
  | zero =>
    simp only [follow, StateT.bind, bind, answered, Option.filter, stays]
    rfl
  | succ left =>
    simp only [follow, StateT.bind, bind, answered, stays]
    rfl

theorem follow_zero_sent (answered : transport asked s = (some answer, s'))
    (sent : answer.next? asked = some next) : transport.follow 0 asked s = (none, s') := by
  simp only [follow, StateT.bind, bind, answered, Option.filter, sent]
  rfl

theorem follow_succ_sent (left : Nat) (answered : transport asked s = (some answer, s'))
    (sent : answer.next? asked = some next) :
    transport.follow (left + 1) asked s = transport.follow left next s' := by
  simp [follow, StateT.bind, bind, answered, sent]

/-- What one request does, if it leads anywhere. -/
theorem follow_cases {left : Nat} {final : Response}
    (followed : transport.follow left asked s = (some final, last)) :
    (transport asked s = (some final, last) ∧ final.next? asked = none) ∨
      ∃ left' answer s' next, left = left' + 1 ∧ transport asked s = (some answer, s') ∧
        answer.next? asked = some next ∧
        transport.follow left' next s' = (some final, last) := by
  rcases answered : transport asked s with ⟨_ | answer, s'⟩
  · rw [follow_unanswered left answered] at followed
    cases followed
  rcases sent : answer.next? asked with _ | next
  · rw [follow_stays left answered sent] at followed
    cases followed
    exact .inl ⟨rfl, sent⟩
  cases left with
  | zero =>
    rw [follow_zero_sent answered sent] at followed
    cases followed
  | succ left =>
    rw [follow_succ_sent left answered sent] at followed
    exact .inr ⟨left, answer, s', next, rfl, rfl, sent, followed⟩

/-- **The answers that a client gets to** are those at the end of a chain that is not longer
than its patience. -/
theorem follow_eq_some_iff {left : Nat} {final : Response} :
    transport.follow left asked s = (some final, last) ↔
      ∃ hops ≤ left, transport.Leads hops s asked final last := by
  constructor
  · intro followed
    induction left generalizing asked s with
    | zero =>
      obtain ⟨answered, stays⟩ | ⟨_, _, _, _, none, _⟩ := follow_cases followed
      · exact ⟨0, le_rfl, .stays answered stays⟩
      · cases none
    | succ left ih =>
      obtain ⟨answered, stays⟩ | ⟨_, _, _, _, same, answered, sent, behind⟩ :=
        follow_cases followed
      · exact ⟨0, Nat.zero_le _, .stays answered stays⟩
      · cases same
        obtain ⟨hops, few, leads⟩ := ih behind
        exact ⟨hops + 1, Nat.succ_le_succ few, .sent answered sent leads⟩
  · rintro ⟨hops, few, leads⟩
    induction leads generalizing left with
    | stays answered stays => exact follow_stays left answered stays
    | sent answered sent _ ih =>
      obtain ⟨left, rfl⟩ := Nat.exists_eq_succ_of_ne_zero (Nat.ne_zero_of_lt few)
      rw [follow_succ_sent left answered sent]
      exact ih (Nat.le_of_succ_le_succ few)

end Transport

/-! ## What an answer says -/

namespace HealthReport

/-- A text that says that a server is up is not empty. -/
theorem SaysUp.ne_nil {text : List Char} (up : SaysUp text) : text ≠ [] := by
  obtain ⟨before, value, behind, -, -, rfl, ⟨_, _, _, _, rfl, -⟩ | ⟨_, _, rfl, -⟩⟩ :=
    up <;> simp

end HealthReport

namespace HealthProbe

/-- **An answer that says that a server is up** is a success with a body that does.  The body
is read as UTF-8 whatever its bytes are; some successes never have one. -/
theorem accepts_iff (answer : Response) : accepts answer ↔
    200 ≤ answer.status ∧ answer.status < 300 ∧ answer.status ≠ Response.noContent ∧
      ∃ body, answer.body = some body ∧
        HealthReport.SaysUp (Text.ofBytesLossy body).toList := by
  have empty : HealthReport.isUp "" = false := by
    rw [Bool.eq_false_iff, ne_eq, HealthReport.isUp_iff]
    exact fun up => up.ne_nil rfl
  rw [accepts, Bool.and_eq_true, Response.isSuccess, Response.text?]
  by_cases noBody : answer.status = Response.noContent
  · simp [noBody, empty]
  · rcases answer.body with _ | body <;> simp [noBody, HealthReport.isUp_iff, and_assoc]

/-! ## Probes -/

/-- A probe whose request can be made waits for the answer that it leads to. -/
theorem isUp_of_ofText? (probe : HealthProbe σ) {baseUrl : String} {request : Request}
    (asked : Request.ofText? (baseUrl ++ probe.endpoint) = some request) (s : σ) :
    (probe.isUp baseUrl s).1 =
      ((probe.transport.fetch request s).1.map accepts).getD false := by
  rcases fetched : probe.transport.fetch request s with ⟨answered, last⟩
  simp only [isUp, asked, bind, StateT.bind, fetched]
  rfl

/-- **The servers that are up.**  The request for the health of a server can be made, a chain
of answers that the client has the patience for leads to a last one, and that is a success
whose body is a report that says that the server is up. -/
theorem isUp_iff_leads (probe : HealthProbe σ) (baseUrl : String) (s : σ) :
    (probe.isUp baseUrl s).1 = true ↔
      ∃ request, Request.ofText? (baseUrl ++ probe.endpoint) = some request ∧
        ∃ hops ≤ Transport.patience, ∃ answer last,
          probe.transport.Leads hops s request answer last ∧
            200 ≤ answer.status ∧ answer.status < 300 ∧ answer.status ≠ Response.noContent ∧
              ∃ body, answer.body = some body ∧
                HealthReport.SaysUp (Text.ofBytesLossy body).toList := by
  cases asked : Request.ofText? (baseUrl ++ probe.endpoint) with
  | none =>
    have unasked : (probe.isUp baseUrl s).1 = false := by
      simp only [isUp, asked]
      rfl
    simp [unasked]
  | some request =>
    have leads_iff : ∀ answer last, probe.transport.fetch request s = (some answer, last) ↔
        ∃ hops ≤ Transport.patience, probe.transport.Leads hops s request answer last :=
      fun _ _ => Transport.follow_eq_some_iff
    rw [probe.isUp_of_ofText? asked]
    constructor
    · intro up
      rcases fetched : probe.transport.fetch request s with ⟨_ | answer, last⟩
      · rw [fetched] at up
        cases up
      · rw [fetched] at up
        obtain ⟨hops, few, leads⟩ := (leads_iff answer last).1 fetched
        exact ⟨request, rfl, hops, few, answer, last, leads, (accepts_iff answer).1 up⟩
    · rintro ⟨_, same, hops, few, answer, last, leads, up⟩
      obtain rfl := Option.some.inj same
      rw [(leads_iff answer last).2 ⟨hops, few, leads⟩]
      exact (accepts_iff answer).2 up

/-- **An array says that a server is up.**  A server whose whole report is an array of the text
`UP` counts as up, although nothing in the report has the name of a status. -/
theorem isUp_array :
    let body := "[\"UP\"]"
    let server : ScriptedServer := ⟨[some ⟨200, none, some body.toUTF8⟩], []⟩
    (isUp ⟨"/_codescan/actuator/health", ScriptedServer.transport⟩ "http://127.0.0.1:8080"
      server).1 = true ∧
      ¬ ∃ before value behind, Json.Blank before ∧ Json.Blank behind ∧
        (Text.ofBytesLossy body.toUTF8).toList = before ++ (value ++ behind) ∧
          HealthReport.IsUpObject value := by
  intro body server
  refine ⟨by decide +kernel, ?_⟩
  rintro ⟨before, value, behind, blank, -, eq, _, _, _, inside, rfl, -⟩
  have bracket : (Json.skipBlanks (Text.ofBytesLossy body.toUTF8).toList).head? =
      some '[' := by
    decide +kernel
  rw [eq, List.cons_append, Json.skipBlanks_gap blank (by decide)] at bracket
  exact absurd bracket (by simp)

end HealthProbe

end ServerConnections
