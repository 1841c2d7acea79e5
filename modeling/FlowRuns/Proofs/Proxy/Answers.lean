import FlowRuns.Proofs.Proxy.Calls
import FlowRuns.Proofs.Proxy.Reach

/-!
# What a call comes to

A call whose arguments pass sends one request, once, and the reply to it decides what the call comes to: a
value, if the reply is a success whose body has the shape that the call needs, and an error of one of three
kinds else.

* `ProxyCall.Answers` — what a call comes to, by the reply.
* `FlowError.isRetryable_remote_iff` — the errors after which the same call may succeed later.
* `ProxyCall.answered_once` — **a call.**
-/

namespace FlowRuns

/-- The errors of the proxy after which the same call may succeed later. -/
theorem FlowError.isRetryable_remote_iff {x : HttpError} : (remote x).isRetryable = true ↔
    remote x = remote .connection ∨
      ∃ code body, remote x = remote (.status code body) ∧ (500 ≤ code ∨ code = 429) := by
  cases x with
  | connection => simp [isRetryable, HttpError.isRetryable]
  | status code body => simp [isRetryable, HttpError.isRetryable]
  | invalidResponse endpoint fault => simp [isRetryable, HttpError.isRetryable]

namespace ProxyCall

/-! ## By the reply -/

/-- The body of a success stands for a value: nothing stands for `null`, and a JSON text for its value. -/
def Denotes (bytes : List UInt8) (answer : Json) : Prop :=
  bytes = [] ∧ answer = .null ∨ bytes ≠ [] ∧ Json.ofBytes? bytes = some answer

/-- What a call comes to, by the reply to its request. -/
inductive Answers (call : ProxyCall) : Http.Reply → Except FlowError call.Value → Prop where
  /-- there is no answer -/
  | unanswered : Answers call .none (.error (.remote .connection))
  /-- a success breaks off -/
  | brokenOff {status : Nat} (hstatus : 200 ≤ status ∧ status < 300) :
    Answers call (.answer status .brokenOff) (.error (.remote .connection))
  /-- a refusal, whatever its body is -/
  | refused {status : Nat} (hstatus : ¬ (200 ≤ status ∧ status < 300)) (bytes : List UInt8) :
    Answers call (.answer status (.complete bytes))
      (.error (.remote (.status status (Text.ofBytesLossy bytes))))
  /-- a refusal whose body breaks off -/
  | refusedBrokenOff {status : Nat} (hstatus : ¬ (200 ≤ status ∧ status < 300)) :
    Answers call (.answer status .brokenOff) (.error (.remote (.status status "Unknown error")))
  /-- a success with a body that stands for no value -/
  | notJson {status : Nat} (hstatus : 200 ≤ status ∧ status < 300) {bytes : List UInt8}
    (hbytes : ∀ answer, ¬ Denotes bytes answer) :
    Answers call (.answer status (.complete bytes))
      (.error (.remote (.invalidResponse call.endpoint .notJson)))
  /-- a success with a value that does not have the shape that the call needs -/
  | unfit {status : Nat} (hstatus : 200 ≤ status ∧ status < 300) {bytes : List UInt8} {answer : Json}
    (hbytes : Denotes bytes answer) (hunfit : ∀ value, ¬ call.Reads answer value) (fault : ResponseFault) :
    Answers call (.answer status (.complete bytes))
      (.error (.remote (.invalidResponse call.endpoint fault)))
  /-- a success with a value that has it -/
  | fit {status : Nat} (hstatus : 200 ≤ status ∧ status < 300) {bytes : List UInt8} {answer : Json}
    (hbytes : Denotes bytes answer) {value : call.Value} (hreads : call.Reads answer value) :
    Answers call (.answer status (.complete bytes)) (.ok value)

/-- The errors that a reply comes to are errors of the proxy. -/
theorem Answers.exists_remote {call : ProxyCall} {reply : Http.Reply} {e : FlowError}
    (h : Answers call reply (.error e)) : ∃ x, e = .remote x := by
  cases h <;> exact ⟨_, rfl⟩

theorem isSuccess_iff {status : Nat} : Http.isSuccess status = true ↔ 200 ≤ status ∧ status < 300 := by
  simp [Http.isSuccess]

/-- What a call gives of a value. -/
theorem answers_of_denotes (call : ProxyCall) {status : Nat} (hstatus : 200 ≤ status ∧ status < 300)
    {bytes : List UInt8} {answer : Json} (hbytes : Denotes bytes answer) :
    Answers call (.answer status (.complete bytes)) (call.given (.ok answer)) := by
  unfold given
  dsimp only
  cases hread : call.read answer with
  | ok value => exact .fit hstatus hbytes (read_eq_ok_iff.1 hread)
  | error fault =>
    refine .unfit hstatus hbytes (fun value hreads => ?_) fault
    cases hread.symm.trans (read_eq_ok_iff.2 hreads)

/-- **What a call comes to.** -/
theorem answers_replyValue (call : ProxyCall) (reply : Http.Reply) :
    Answers call reply (call.given (ProxyClient.replyValue call.endpoint reply)) := by
  cases reply with
  | none => exact .unanswered
  | answer status body =>
    unfold ProxyClient.replyValue
    dsimp only
    split
    next hsuccess =>
      have hstatus := isSuccess_iff.1 hsuccess
      cases body with
      | brokenOff => exact .brokenOff hstatus
      | complete bytes =>
        cases bytes with
        | nil => exact answers_of_denotes call hstatus (.inl ⟨rfl, rfl⟩)
        | cons b bytes =>
          unfold ProxyClient.acceptedValue
          dsimp only
          cases hjson : Json.ofBytes? (b :: bytes) with
          | some answer => exact answers_of_denotes call hstatus (.inr ⟨List.cons_ne_nil _ _, hjson⟩)
          | none =>
            refine .notJson hstatus fun answer hbytes => ?_
            obtain ⟨hnil, -⟩ | ⟨-, hsome⟩ := hbytes
            · cases hnil
            · cases hjson.symm.trans hsome
    next hrefused =>
      have hstatus := mt isSuccess_iff.2 hrefused
      cases body with
      | complete bytes => exact .refused hstatus bytes
      | brokenOff => exact .refusedBrokenOff hstatus

/-! ## A call as a whole -/

section Run

variable {c : ProxyClient} {call : ProxyCall} {σ : Type}
  {serve : (r : httpPeer.Request) → σ → httpPeer.Answer r × σ} {s : σ}

/-- A call whose arguments do not pass. -/
theorem program_of_not_valid (h : ¬ call.Valid) :
    ∃ v, call.program c = .done (.error (.validation v)) := by
  have hchecks := checks_check call
  rw [program_eq]
  generalize call.check = check at hchecks ⊢
  cases hchecks with
  | ok hvalid => exact absurd hvalid h
  | violation _ v => exact ⟨v, rfl⟩

/-- A call whose arguments pass. -/
theorem program_of_valid (h : call.Valid) :
    call.program c = (call.exchange c).bind fun value => .done (call.given value) := by
  have hchecks := checks_check call
  rw [program_eq]
  generalize call.check = check at hchecks ⊢
  cases hchecks with
  | ok _ => rfl
  | violation hno _ => exact absurd h hno

/-- A call whose arguments pass gives what its exchange comes to. -/
theorem leaves_of_valid (h : call.Valid) (asked : List httpPeer.Request) :
    (call.program c).run (Program.recording serve) (s, asked) =
      ⟨call.given ((call.exchange c).run (Program.recording serve) (s, asked)).result,
        ((call.exchange c).run (Program.recording serve) (s, asked)).events,
        ((call.exchange c).run (Program.recording serve) (s, asked)).state⟩ := by
  rw [program_of_valid h, Program.run_bind_done]

/-- A call whose arguments pass and whose request cannot be made. -/
theorem leaves_of_fault (h : call.Valid) {fault : ProxyClient.RequestFault}
    (hrequest : call.request c = .error fault) :
    let leaves := (call.program c).run (Program.recording serve) (s, [])
    leaves.result = .error (.remote .connection) ∧ leaves.state = (s, []) := by
  have hexchange : call.exchange c = _ := ProxyClient.run_send_of_fault hrequest
  rw [leaves_of_valid h, hexchange]
  exact ⟨rfl, rfl⟩

/-- A call whose arguments pass and whose request is made. -/
theorem leaves_of_made (h : call.Valid) {r : Http.Request} (hrequest : call.request c = .ok r) :
    let leaves := (call.program c).run (Program.recording serve) (s, [])
    Answers call (serve r s).1 leaves.result ∧ leaves.state = ((serve r s).2, [r]) := by
  have hexchange : call.exchange c = _ := ProxyClient.run_send_of_made hrequest
  obtain ⟨hvalue, hstate⟩ := ProxyClient.run_replied (Program.recording serve) ((serve r s).2, [r])
    call.method.name call.endpoint (c.endpointText call.endpoint) r (serve r s).1
  rw [leaves_of_valid h, hexchange]
  have hanswers := answers_replyValue call (serve r s).1
  rw [← hvalue] at hanswers
  exact ⟨hanswers, hstate⟩

end Run

/-- **One request, and its reply decides.** For a client on behalf of an organization that a header can
carry, each of the eight calls, and whatever the server does. Arguments that do not pass are refused, and
nothing is sent. Else one request is sent, once, and the call comes to what the reply to it says, provided that
the HTTP library sends what it is given. `Takes` is the reading of that assumption: the library sends what has a
URL of a web server, and nothing else. The assumption holds of all endpoints if the base URL is one of the web.
Where it fails, nothing is sent and there is no connection. The same call may succeed later exactly after a
failure of the connection, a status from 500 on, and a status of 429. -/
theorem answered_once (c : ProxyClient) (horg : Http.isHeaderValue (c.orgSlug.getD "") = true)
    (call : ProxyCall) {σ : Type} (serve : (r : httpPeer.Request) → σ → httpPeer.Answer r × σ) (s : σ) :
    let leaves := (call.program c).run (Program.recording serve) (s, [])
    (¬ call.Valid → (∃ v, leaves.result = .error (.validation v)) ∧ leaves.state = (s, [])) ∧
    (call.Valid → c.Takes call.endpoint → ∃ r, call.request c = .ok r ∧
      leaves.state = ((serve r s).2, [r]) ∧ Answers call (serve r s).1 leaves.result) ∧
    (c.OnWeb → c.Takes call.endpoint) ∧
    (call.Valid → ¬ c.Takes call.endpoint →
      leaves.result = .error (.remote .connection) ∧ leaves.state = (s, [])) ∧
    (∀ e, leaves.result = .error e → (e.isRetryable = true ↔ e = .remote .connection ∨
      ∃ code body, e = .remote (.status code body) ∧ (500 ≤ code ∨ code = 429))) := by
  intro leaves
  have hmade : (∃ r, call.request c = .ok r) ↔ c.Takes call.endpoint :=
    ProxyClient.request_eq_ok_iff horg
  have hrefused (hno : ¬ call.Valid) : (∃ v, leaves.result = .error (.validation v)) ∧
      leaves.state = (s, []) := by
    obtain ⟨v, hv⟩ := program_of_not_valid (c := c) hno
    simp only [leaves, hv]
    exact ⟨⟨v, rfl⟩, rfl⟩
  have hsent (hvalid : call.Valid) (htakes : c.Takes call.endpoint) : ∃ r, call.request c = .ok r ∧
      leaves.state = ((serve r s).2, [r]) ∧ Answers call (serve r s).1 leaves.result := by
    obtain ⟨r, hr⟩ := hmade.2 htakes
    obtain ⟨hanswers, hstate⟩ : Answers call (serve r s).1 leaves.result ∧
        leaves.state = ((serve r s).2, [r]) := leaves_of_made hvalid hr
    exact ⟨r, hr, hstate, hanswers⟩
  have hunsent (hvalid : call.Valid) (htakes : ¬ c.Takes call.endpoint) :
      leaves.result = .error (.remote .connection) ∧ leaves.state = (s, []) := by
    cases hrequest : call.request c with
    | ok r => exact absurd (hmade.1 ⟨r, hrequest⟩) htakes
    | error fault => exact leaves_of_fault hvalid hrequest
  refine ⟨hrefused, hsent, fun hweb => hweb.takes call.endpoint, hunsent, fun e he => ?_⟩
  -- an error is a violation, or comes from the proxy
  by_cases hvalid : call.Valid
  · by_cases htakes : c.Takes call.endpoint
    · obtain ⟨r, -, -, hanswers⟩ := hsent hvalid htakes
      rw [he] at hanswers
      obtain ⟨x, rfl⟩ := hanswers.exists_remote
      exact FlowError.isRetryable_remote_iff
    · cases he.symm.trans (hunsent hvalid htakes).1
      exact FlowError.isRetryable_remote_iff
  · obtain ⟨⟨v, hv⟩, -⟩ := hrefused hvalid
    cases he.symm.trans hv
    simp [FlowError.isRetryable]

/-- A success without a body: enough for a deployment that is removed, and no answer where deployments are
listed. -/
theorem answered_once_emptyBody :
    let c : ProxyClient := ⟨⟨"http".toList, some ⟨[], [], .domain "proxy".toList, none⟩,
      .segments [[]], none, none⟩, some "acme", 30, 60⟩
    let serve (_ : httpPeer.Request) (n : Nat) : Http.Reply × Nat :=
      (.answer 204 (.complete []), n + 1)
    let leaves (call : ProxyCall) := (call.program c).run (Program.recording serve) (0, [])
    Http.isHeaderValue (c.orgSlug.getD "") = true ∧ c.OnWeb ∧
      (leaves (.path (.deleteDeployment "d"))).result = .ok () ∧
      (∃ r, (leaves (.path (.deleteDeployment "d"))).state = (1, [r])) ∧
      ∃ fault, (leaves (.filteredDeployments "acme" ["d"])).result =
        .error (.remote (.invalidResponse "deployments/filter" fault)) := by
  intro c serve leaves
  have horg : Http.isHeaderValue (c.orgSlug.getD "") = true := by decide
  have hbase : Url.parse "http://proxy/".toList = .ok c.baseUrl := rfl
  have hweb : c.OnWeb := .of_ordinary hbase (by decide) rfl (by decide)
  have hsuccess : ¬ ¬ (200 ≤ 204 ∧ 204 < 300) := by decide
  have hremoved : (leaves (.path (.deleteDeployment "d"))).result = .ok () ∧
      ∃ r, (leaves (.path (.deleteDeployment "d"))).state = (1, [r]) := by
    obtain ⟨-, hsent, htakes, -⟩ := answered_once c horg (.path (.deleteDeployment "d")) serve 0
    have hvalid : (ProxyCall.path (.deleteDeployment "d")).Valid := by
      intro id hid
      obtain rfl : id = "d" := by simpa [PathCall.parts] using hid
      decide
    obtain ⟨r, -, hstate, hanswers⟩ := hsent hvalid (htakes hweb)
    refine ⟨?_, r, hstate⟩
    generalize hresult : (leaves (.path (.deleteDeployment "d"))).result = result
    replace hanswers : Answers (.path (.deleteDeployment "d")) (.answer 204 (.complete [])) result :=
      hresult ▸ hanswers
    cases hanswers with
    | refused hstatus => exact absurd hstatus hsuccess
    | notJson _ hbytes => exact absurd (.inl ⟨rfl, rfl⟩) (hbytes .null)
    | unfit _ _ hunfit => exact absurd trivial (hunfit ())
    | fit _ _ _ => rfl
  refine ⟨horg, hweb, hremoved.1, hremoved.2, ?_⟩
  obtain ⟨-, hsent, htakes, -⟩ := answered_once c horg (.filteredDeployments "acme" ["d"]) serve 0
  obtain ⟨r, -, -, hanswers⟩ := hsent trivial (htakes hweb)
  generalize hresult : (leaves (.filteredDeployments "acme" ["d"])).result = result
  replace hanswers : Answers (.filteredDeployments "acme" ["d"]) (.answer 204 (.complete [])) result :=
    hresult ▸ hanswers
  cases hanswers with
  | refused hstatus => exact absurd hstatus hsuccess
  | notJson _ _ => exact ⟨_, rfl⟩
  | unfit _ _ _ fault => exact ⟨fault, rfl⟩
  | fit _ hbytes hreads =>
    obtain ⟨-, rfl⟩ | ⟨hne, -⟩ := hbytes
    · cases hreads
    · exact absurd rfl hne

end ProxyCall

end FlowRuns
