import SavingsCircle.Proofs.Http.Handling
import SavingsCircle.Proofs.Http.Schemas

/-!
# Where bad input is reported

A bad amount, asset or address can be met twice: by the schemas of a request, which report it with
details, and by the checks of the circle service and the ledger, which have a code of their own for
it. In a world that requests have led to, what the schemas admit is refused later only where an
amount comes out too large (`schemas_keep_bad_input_out_unless_oversized`). Such amounts are those
of `Oversized`: a penalty, for which the schema has no bound, is one of them.
-/

namespace SavingsCircle.Http

/-! ## Codes -/

def Reply.code? (reply : Reply) : Option String := do
  let body ← reply.body
  let error ← body.field? "error"
  let code ← error.field? "code"
  code.text?

@[simp] theorem Refusal.code?_reply (refusal : Refusal) :
    refusal.reply.code? = some refusal.code := by
  rfl

@[simp] theorem Reply.code?_data (status : Nat) (value : Json) :
    (data status value).code? = none := by
  rfl

def Reply.messages (reply : Reply) (name : String) : List String :=
  let found := do
    let body ← reply.body
    let error ← body.field? "error"
    let details ← error.field? "details"
    let fields ← details.field? "fieldErrors"
    fields.field? name
  ((found.map Json.items).getD []).filterMap Json.text?

/-- An object with a member for each of some names has these members and no others. -/
theorem field?_object_map (names : List String) (value : String → Json) (name : String) :
    (Json.object (names.map fun name => (name, value name))).field? name =
      if name ∈ names then some (value name) else none := by
  rw [Json.field?, Json.members, List.find?_map, Option.map_map]
  split
  · next mem =>
    have found : (names.find? fun other => other == name).isSome :=
      List.find?_isSome.2 ⟨name, mem, beq_self_eq_true name⟩
    obtain ⟨other, isOther⟩ := Option.isSome_iff_exists.1 found
    obtain rfl : other = name := by simpa using List.find?_some isOther
    exact congrArg (Option.map _) isOther
  · next absent =>
    have none : (names.find? fun other => other == name) = none :=
      List.find?_eq_none.2 fun other mem same => absent (beq_iff_eq.1 same ▸ mem)
    exact congrArg (Option.map _) none

theorem filterMap_text?_texts (items : List String) :
    (Json.texts items).items.filterMap Json.text? = items := by
  rw [Json.texts, Json.items, List.filterMap_map]
  exact List.filterMap_some

/-- The details of a report say of every part what is wrong with it. -/
theorem Refusal.messages_ofIssues (issues : List Issue) (name : String) :
    (ofIssues issues).reply.messages name =
      (issues.filter fun issue => issue.path.head? == some name).map (·.message) := by
  have told : (ofIssues issues).reply.messages name =
      ((((Json.object ((issues.filterMap (·.path.head?)).eraseDups.map fun part =>
        (part, Json.texts ((issues.filter fun issue =>
          issue.path.head? == some part).map (·.message))))).field? name).map
            Json.items).getD []).filterMap Json.text? := rfl
  rw [told, field?_object_map]
  split
  · exact filterMap_text?_texts _
  · next unnamed =>
    have none : (issues.filter fun issue => issue.path.head? == some name) = [] :=
      List.filter_eq_nil_iff.2 fun issue mem named =>
        unnamed (List.mem_eraseDups.2 (List.mem_filterMap.2 ⟨issue, mem, beq_iff_eq.1 named⟩))
    rw [none]
    rfl

/-- The codes with which the service refuses amounts, assets and addresses. -/
def inputCodes : List String := ["INVALID_AMOUNT", "INVALID_ASSET", "INVALID_ADDRESS"]

/-- No other failure is told by one of these codes. -/
theorem Refusal.code_ofFailure_eq_iff {failure : Failure} {code : String}
    (mem : code ∈ inputCodes) :
    (ofFailure failure).code = code ↔ ∃ status message, failure = .request status code message := by
  cases failure with
  | circle kind message =>
      have apart : ∀ kind ∈ FailureKind.all, kind.name ∉ inputCodes := by decide
      refine iff_of_false ?_ nofun
      rintro rfl
      exact apart kind kind.mem_all mem
  | request status other message =>
      constructor
      · rintro rfl
        exact ⟨status, message, rfl⟩
      · rintro ⟨_, _, ⟨⟩⟩
        rfl
  | fault | unknown | malformed | undated =>
      refine iff_of_false ?_ nofun
      rintro rfl
      exact absurd mem (show "INTERNAL_SERVER_ERROR" ∉ inputCodes by decide)

namespace Request

def founding : Request where
  method := "POST"
  target := "/v1/circles"
  authorization := some "Bearer alice."
  contentType := some "application/json"
  body := some "\x7b\"contribution\":100,\"asset\":\"USDC\"\x7d"

/-- A request by the founder to remove a member, with a penalty just too large to be safe. -/
def largePenalty : Request where
  method := "POST"
  target := "/v1/circles/1/kick"
  authorization := some "Bearer alice."
  contentType := some "application/json"
  body := some "\x7b\"member\":\"bob\",\"penalty\":9007199254740992\x7d"

end Request

namespace Site

variable {site : Site} {world : World} {request : Request}

/-- A call is refused with one of these codes if it fails so. -/
theorem code?_perform_eq_iff {status : Nat} {operation : Operation} {code : String}
    (mem : code ∈ inputCodes) :
    (site.perform world status operation).2.code? = some code ↔
      ∃ status message, ((Step.call operation []).run site.host world).2.outcome =
        .error (.request status code message) := by
  obtain ⟨shown, same⟩ := exists_perform_eq site world status operation
  rw [same]
  dsimp only
  cases ((Step.call operation []).run site.host world).2.outcome with
  | ok answer => simp
  | error failure => simp [Refusal.code_ofFailure_eq_iff mem]

/-! ## Worlds that requests lead to -/

/-- The worlds that a service is in between requests. Time passes, and draws are drawn. -/
inductive Reached (site : Site) : World → Prop where
  | opened (now clock : Number) (nonce : String) (draws : Draws) :
      Reached site (.opened now clock nonce draws)
  | handled {before} (reached : Reached site before) (request : Request) :
      Reached site (site.handle before request).1
  | passed {before} (reached : Reached site before) (now clock : Number) (nonce : String)
      (draws : Draws) : Reached site { before with now, clock, nonce, draws }

namespace Reached

/-- Every request makes one call at most, and so keeps what every call keeps. -/
theorem kept {Admits : Passage → Prop} {P : Books → List Event → Prop}
    (kept : BooksKept site.host Admits P) (always : ∀ passage, Admits passage)
    (reached : site.Reached world) : P world.books world.trail.events := by
  induction reached with
  | opened now => exact kept.reset [] now
  | @handled before _ request holds =>
      have outcome := site.handled before request
      generalize site.handle before request = served at outcome
      cases outcome with
      | untouched | minted => exact holds
      | @called _ _ _ _ _ operation =>
          rw [world_perform]
          exact (kept.run [.call operation []] before (fun passage _ => always passage) holds).1
  | passed _ _ _ _ _ holds => exact holds

theorem bounded (reached : site.Reached world) : world.books.Bounded := by
  have circles :=
    (reached.kept (circleInvariant_entered site.host).booksKept fun _ _ _ => trivial).2
  exact {
    sound circle mem := (circles circle mem).1
    entered circle mem := (circles circle mem).2
    rate := reached.kept (booksKept_feeRate_le site.host) fun _ => trivial }

end Reached

/-! ## Requests that call the service -/

/-- An authenticated request to a route that calls the circle service, with a body that can be
read. -/
structure Calls (site : Site) (request : Request) (caller : Proof) (command : Command)
    (captured : List String) (body : Json) : Prop where
  short : request.headLength < Request.headLimit
  leads : ∃ method, request.method? = some method ∧
    Target.find request method = .ok ⟨.call command, captured⟩
  has : request.payload = .ok body
  authentic : authenticate site.host.authority request.authorization = .ok caller

namespace Calls

variable {caller : Proof} {command : Command} {captured : List String} {body : Json}

/-- A request that calls the service is answered by what the call comes to, or by what is wrong with
the request. -/
theorem handle_eq (calls : site.Calls request caller command captured body) (world : World) :
    site.handle world request =
      match command.operation site.host.authority caller captured body with
      | .ok operation => site.perform world command.status operation
      | .error refusal => (world, refusal.reply) := by
  obtain ⟨method, known, found⟩ := calls.leads
  obtain ⟨route, leads, asks⟩ := Target.find_eq_ok (Request.ofName?_of_method? known) found
  have isCall : route ∈ Route.calls := by
    rcases Route.mem_all (Target.mem_all_of_mem_candidates leads.candidate) with
      ⟨_, other⟩ | other | rfl | isCall
    · cases asks.symm.trans other
    · cases asks.symm.trans other
    · cases asks
    · exact isCall
  have routed : method.routed = route.method := by
    have routed := leads.method
    rw [Request.ofName?_of_method? known] at routed
    exact Option.some.inj routed
  have writes : method ≠ .options ∧ method ≠ .head := by
    have posts := Route.method_of_mem_calls isCall
    rw [← routed] at posts
    constructor <;> rintro rfl <;> revert posts <;> decide
  have served : site.serve world request method =
      command.operation site.host.authority caller captured body >>= fun operation =>
        pure (site.perform world command.status operation) := by
    simp only [serve, calls.has, found, call, calls.authentic]
    rfl
  simp only [handle, known, Nat.not_le.2 calls.short, if_false, writes.1, writes.2, served]
  cases command.operation site.host.authority caller captured body <;> rfl

end Calls

/-! ## Bad input -/

/-- In a world that requests have led to, take an authenticated request to a route that calls the
service. If path and body pass their schemas, the reply tells of a bad amount, asset or address
exactly if an amount comes out too large, and then of a bad amount. If they do not, a schema reports
it, or the token of a second signer is refused. A bad part of the body is always reported, with
details that tell all that is wrong with it, unless the body is no object at all. -/
theorem schemas_keep_bad_input_out_unless_oversized (site : Site) {world : World}
    (reached : site.Reached world) {request : Request} {caller : Proof} {command : Command}
    {captured : List String} {body : Json}
    (calls : site.Calls request caller command captured body) :
    (∀ operation, command.operation site.host.authority caller captured body = .ok operation →
      ∀ code ∈ inputCodes, (site.handle world request).2.code? = some code ↔
        code = "INVALID_AMOUNT" ∧ Oversized site.host world operation) ∧
    (∀ refusal, command.operation site.host.authority caller captured body = .error refusal →
      (site.handle world request).2 = refusal.reply ∧
        (refusal = refusedToken ∨ ∃ issues, refusal = .ofIssues issues)) ∧
    ∀ part ∈ command.parts, part.issues body ≠ [] →
      ∃ issues, (site.handle world request).2 = (Refusal.ofIssues issues).reply ∧
        ((∃ members, body = .object members) → ∀ issue ∈ part.issues body,
          issue.message ∈ (site.handle world request).2.messages part.name) := by
  have handled := calls.handle_eq world
  refine ⟨?_, ?_, ?_⟩
  · intro operation admitted code mem
    have fit := (Command.asks_of_operation_eq_ok admitted).isFit
    rw [handled, admitted]
    exact (code?_perform_eq_iff mem).trans (Step.run_eq_request_iff fit reached.bounded)
  · intro refusal refused
    rw [handled, refused]
    exact ⟨rfl, Reports.operation _ _ _ _ _ refusal refused⟩
  · intro part mem broken
    obtain ⟨issues, _, refused, listed⟩ :=
      Command.operation_of_issues site.host.authority caller captured mem broken
    rw [handled, refused]
    refine ⟨issues, rfl, fun isObject issue wrong => ?_⟩
    rw [Refusal.messages_ofIssues]
    refine List.mem_map_of_mem (List.mem_filter.2 ⟨listed isObject wrong, ?_⟩)
    rw [Part.head?_path_of_mem_issues wrong, beq_self_eq_true]

/-- The schemas of a kick admit a penalty that is not safe. -/
theorem exists_largePenalty :
    let caller := sample.host.authority.proofOf "alice"
    ∃ body member, sample.Calls Request.largePenalty caller .kick ["1"] body ∧
      Command.kick.operation sample.host.authority caller ["1"] body =
        .ok (.kick (some caller) (.ofNat 1) member (.ofNat (Number.maxSafe + 1))) := by
  intro caller
  have target : (Target.find Request.largePenalty .post).toOption.map (fun target =>
      (target.action, target.captured)) = some (.call .kick, ["1"]) := by
    decide +kernel
  have readable : Request.largePenalty.payload.toOption.map (fun body =>
      (Command.kick.operation sample.host.authority caller ["1"] body).toOption.map fun
        | .kick _ id _ given => (id, given)
        | _ => (.nan, .nan)) = some (some (.ofNat 1, .ofNat (Number.maxSafe + 1))) := by
    decide +kernel
  obtain ⟨⟨_, _⟩, leads, ⟨⟩⟩ := exists_ok_of_map_toOption target
  obtain ⟨body, has, read⟩ := exists_ok_of_map_toOption readable
  obtain ⟨operation, admitted, isKick⟩ := exists_ok_of_map_toOption read
  cases Command.asks_of_operation_eq_ok admitted with
  | kick =>
      simp only [Prod.mk.injEq] at isKick
      obtain ⟨rfl, rfl⟩ := isKick
      exact ⟨body, _, ⟨by decide +kernel, ⟨.post, by decide +kernel, leads⟩, has, rfl⟩, admitted⟩
  | onCircle isPlain => cases isPlain
  | onMember isPlain => cases isPlain

theorem reached_founding : sample.Reached (sample.handle .sample Request.founding).1 :=
  (Reached.opened ..).handled Request.founding

/-- The founder of a circle is told of the penalty, for it is too large. -/
theorem schemas_keep_bad_input_out_unless_penalty_is_large :
    let world := (sample.handle .sample Request.founding).1
    (sample.handle world Request.largePenalty).2.code? = some "INVALID_AMOUNT" := by
  intro world
  have isCircle : (world.books.circle (.ofNat 1)).toOption.map (fun circle =>
      (circle.admin, circle.isDissolved)) = some ("alice", false) := by
    decide +kernel
  obtain ⟨circle, found, facts⟩ := exists_ok_of_map_toOption isCircle
  obtain ⟨admin, isOpen⟩ := Prod.mk.inj facts
  obtain ⟨body, member, calls, admitted⟩ := exists_largePenalty
  obtain ⟨refused, -, -⟩ :=
    schemas_keep_bad_input_out_unless_oversized sample reached_founding calls
  have exceeds : Oversized sample.host world (.kick (some (sample.host.authority.proofOf "alice"))
      (.ofNat 1) member (.ofNat (Number.maxSafe + 1))) :=
    .penalty found (by rw [admin]; rfl) isOpen (Number.nat?_ofNat _) (Nat.lt_succ_self _)
  exact (refused _ admitted _ (by decide)).2 ⟨rfl, exceeds⟩

/-- So a request that passes its schemas can be refused for a bad amount. -/
theorem admitted_penalty_is_refused :
    ¬∀ (site : Site) (world : World), site.Reached world →
      ∀ (request : Request) (caller : Proof) (command : Command) (captured : List String)
        (body : Json), site.Calls request caller command captured body →
        ∀ operation, command.operation site.host.authority caller captured body = .ok operation →
          ∀ code ∈ inputCodes, (site.handle world request).2.code? ≠ some code := by
  intro never
  obtain ⟨body, member, calls, admitted⟩ := exists_largePenalty
  refine never sample _ reached_founding _ _ _ _ _ calls _ admitted "INVALID_AMOUNT" (by decide) ?_
  decide +kernel

end Site

end SavingsCircle.Http
