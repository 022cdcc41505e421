import SavingsCircle.Http.Service
import SavingsCircle.Proofs.Circle.Invariant
import SavingsCircle.Proofs.Http.Asking
import SavingsCircle.Proofs.Run.Answer
import SavingsCircle.Proofs.Run.Rollback

/-!
# What requests do

A request is answered in one of three ways: it leaves the world as it is, it mints an asset by means
of the development tools, or it calls the circle service once for the caller whose token it carries
(`Site.handled`). The body and the path are read, and the caller is authenticated, before anything
is done. Only one reply looks something up once the call is made: that to the founding of a circle,
which it finds (`Site.exists_present`). So a request that is refused has either done nothing or made
a call that failed, and failed calls are undone (`failed_requests_leave_no_trace`); and a request
that changes something without the development tools has made a call as the owner of its token
(`changes_are_authenticated`).
-/

namespace SavingsCircle.Http

/-! ## Authentication -/

/-- An authorization header with a token is the word for it, a blank and the token. -/
theorem eq_of_bearerToken_ne_empty {header : Option String} (holds : bearerToken header ≠ "") :
    header = some ("Bearer " ++ bearerToken header) := by
  rw [bearerToken] at holds ⊢
  split
  · next token chars =>
    cases header with
    | none => cases chars
    | some text =>
        rw [Option.getD_some] at chars
        have parted : text.toList = "Bearer ".toList ++ (String.ofList token).toList := by
          simpa using chars
        rw [← String.toList_append, String.toList_inj] at parted
        rw [parted]
  · next plain =>
    split at holds
    · next token chars => exact absurd chars (plain token)
    · exact absurd rfl holds

/-- Whoever is authenticated has a name, and the header holds the token of that name. -/
theorem authenticate_eq_ok {authority : Authority} {header : Option String} {caller : Proof}
    (accepted : authenticate authority header = .ok caller) :
    caller.principal ≠ "" ∧ caller = authority.proofOf caller.principal ∧
      header = some ("Bearer " ++ authority.issue caller.principal) := by
  simp only [authenticate, bind_eq_ok, demand_eq_ok, demandSome_eq_ok] at accepted
  obtain ⟨_, holds, parsed⟩ := accepted
  obtain ⟨isNamed, own, issued⟩ := Authority.eq_of_parse?_eq_some parsed
  refine ⟨isNamed, own, ?_⟩
  rw [← issued]
  exact eq_of_bearerToken_ne_empty holds

namespace Request

/-- A request by a caller without funds to deposit something. -/
def unpaidDeposit : Request where
  method := "POST"
  target := "/v1/custody/deposit"
  authorization := some "Bearer alice."
  contentType := some "application/json"
  body := some "\x7b\"asset\":\"USDC\",\"amount\":5\x7d"

def claim : Request where
  method := "POST"
  target := "/v1/protocol/initialize"
  authorization := some "Bearer alice."
  contentType := none
  body := none

end Request

namespace Site

variable {site : Site} {world : World} {request : Request}

/-! ## Calls -/

theorem circle_of_append {books next : Books} {founded : Circle}
    (circles : next.circles = books.circles ++ [founded])
    (number : founded.id = books.circleCount + 1) :
    ∃ found, next.circle (.ofNat founded.id) = .ok found ∧
      (books.Numbered → found = founded) := by
  rw [Books.circle, Number.nat?_ofNat, Option.bind_some, Books.circle?, circles, List.find?_append]
  cases earlier : books.circles.find? (·.id == founded.id) with
  | none =>
      rw [Option.none_or, List.find?_singleton, if_pos (beq_self_eq_true _)]
      exact ⟨founded, rfl, fun _ => rfl⟩
  | some circle =>
      refine ⟨circle, rfl, fun numbered => ?_⟩
      have same : circle.id = founded.id := by simpa using List.find?_some earlier
      have bounded := numbered.bounded circle (List.mem_of_find?_eq_some earlier)
      omega

/-- By the number that the founding of a circle answers a circle is found, and no other than the one
just founded where circles are numbered one by one. -/
theorem circle_of_createCircle {host : Host} {moment : Moment} {books : Books}
    {proof : Option Proof} {terms : CircleTerms} {effect : Effect}
    (performed : (Operation.createCircle proof terms).perform host moment books = .ok effect) :
    effect.transfers = [] ∧ ∃ founded found, effect.books.circles = books.circles ++ [founded] ∧
      effect.receipt = .settled (.amount founded.id) ∧
      effect.books.circle (.ofNat founded.id) = .ok found ∧ (books.Numbered → found = founded) := by
  obtain ⟨founded, number, circles, settled, nothing⟩ : ∃ founded : Circle,
      founded.id = books.circleCount + 1 ∧ effect.books.circles = books.circles ++ [founded] ∧
        effect.receipt = .settled (.amount founded.id) ∧ effect.transfers = [] := by
    cases performs_of_perform performed with
    | createCircle _ _ _ _ _ _ _ _ _ isCircle =>
        have number := congrArg Circle.id isCircle
        exact ⟨_, number, rfl, congrArg (Receipt.settled ∘ Answer.amount) number.symm, rfl⟩
    | byAdmin named | byMember named => cases named
  obtain ⟨found, isFound, isFounded⟩ := circle_of_append circles number
  exact ⟨nothing, founded, found, circles, settled, isFound, isFounded⟩

/-- A circle just founded can be read again for the reply. -/
theorem exists_present_createCircle {host : Host} {proof : Option Proof} {terms : CircleTerms}
    {answer : Answer}
    (returned : ((Step.call (.createCircle proof terms) []).run host world).2.outcome =
      .ok answer) :
    ∃ shown, present (.createCircle proof terms) answer
      ((Step.call (.createCircle proof terms) []).run host world).1 = .ok shown := by
  obtain ⟨effect, written, performed, committed, -, ran, shows⟩ := Step.run_eq_ok returned
  obtain ⟨nothing, founded, circle, -, settled, found, -⟩ := circle_of_createCircle performed
  have isNumber : answer = .amount founded.id := by
    rw [← shows]
    exact settle_answer committed settled
  refine ⟨circle.toJson, ?_⟩
  rw [ran, nothing, isNumber]
  rw [← World.books_commit committed] at found
  simp only [present, settle, World.carryAll, World.taken, found, Except.map]

theorem exists_present {host : Host} {operation : Operation} {answer : Answer}
    (returned : ((Step.call operation []).run host world).2.outcome = .ok answer) :
    ∃ shown, present operation answer ((Step.call operation []).run host world).1 = .ok shown := by
  cases operation with
  | createCircle proof terms => exact exists_present_createCircle returned
  | _ => exact ⟨_, rfl⟩

/-- A call is made, and then its outcome is put into a reply. -/
theorem exists_perform_eq (site : Site) (world : World) (status : Nat) (operation : Operation) :
    ∃ shown, site.perform world status operation =
      (((Step.call operation []).run site.host world).1,
        match ((Step.call operation []).run site.host world).2.outcome with
        | .ok _ => .data status shown
        | .error failure => (Refusal.ofFailure failure).reply) := by
  rw [perform]
  have shows (answer : Answer)
      (returned : ((Step.call operation []).run site.host world).2.outcome = .ok answer) :=
    exists_present returned
  generalize (Step.call operation []).run site.host world = ran at shows ⊢
  obtain ⟨after, report⟩ := ran
  cases outcome : report.outcome with
  | error failure => exact ⟨.null, by simp [outcome, Except.bind]⟩
  | ok answer =>
      obtain ⟨shown, isShown⟩ := shows answer outcome
      exact ⟨shown, by simp [outcome, isShown, Except.bind]⟩

theorem world_perform (site : Site) (world : World) (status : Nat) (operation : Operation) :
    (site.perform world status operation).1 = ((Step.call operation []).run site.host world).1 := by
  obtain ⟨_, same⟩ := exists_perform_eq site world status operation
  rw [same]

/-- A call with a status of failure has left things as they were. -/
theorem agrees_of_le_status (restores : site.host.restoresLedger = true) {command : Command}
    {operation : Operation}
    (refused : 400 ≤ (site.perform world command.status operation).2.status) :
    (site.perform world command.status operation).1.Agrees world := by
  obtain ⟨shown, same⟩ := exists_perform_eq site world command.status operation
  rw [same] at refused ⊢
  dsimp only at refused ⊢
  split at refused
  · next answer ended =>
    have fine : command.status < 400 := by cases command <;> decide
    exact absurd refused (Nat.not_le.2 fine)
  · next failure ended => exact Step.agrees_of_run_eq_error restores ended

/-- Everything that a request can come to, with the reply to it. -/
inductive Handled (site : Site) (world : World) (request : Request) : World × Reply → Prop where
  | untouched (reply : Reply) : Handled site world request (world, reply)
  | minted {captured body asset target amount ledger reply}
      (leads : request.LeadsTo Route.minting captured) (hasDevTools : site.hasDevTools = true)
      (has : request.payload = .ok body) (isAsset : Gives body "asset" Schema.address asset)
      (isTarget : Gives body "to" Schema.address target)
      (isAmount : Gives body "amount" Schema.amount amount)
      (minted : world.ledger.mint asset target amount = .ok ledger) (status : reply.status = 201) :
      Handled site world request ({ world with ledger }, reply)
  | called {route captured command body caller operation reply}
      (leads : request.LeadsTo route captured) (isCall : route ∈ Route.calls)
      (isCommand : route.action = .call command) (has : request.payload = .ok body)
      (authentic : authenticate site.host.authority request.authorization = .ok caller)
      (asks : command.Asks site.host.authority caller captured body operation)
      (status : reply.status = (site.perform world command.status operation).2.status) :
      Handled site world request ((site.perform world command.status operation).1, reply)

theorem handled_mint {captured : List String} {body : Json} {served : World × Reply}
    (leads : request.LeadsTo Route.minting captured) (has : request.payload = .ok body)
    (made : site.mint world body = .ok served) : site.Handled world request served := by
  simp only [mint, bind_eq_ok, readObject_eq_ok, Checked.both_eq_ok, apply_eq_ok, field_eq_ok,
    refusing_eq_ok] at made
  obtain ⟨_, allowed, _, ⟨isObject, _, _, ⟨_, _, ⟨_, isAsset, rfl⟩, isTarget, rfl⟩, isAmount, rfl⟩,
    _, minted, ⟨⟩⟩ := made
  have hasDevTools : site.hasDevTools = true := by
    rw [demandDevTools] at allowed
    split at allowed
    · assumption
    · cases allowed
  exact .minted leads hasDevTools has ⟨isObject, isAsset⟩ ⟨isObject, isTarget⟩
    ⟨isObject, isAmount⟩ minted rfl

theorem handled_call {route : Route} {captured : List String} {command : Command} {body : Json}
    {served : World × Reply} (leads : request.LeadsTo route captured) (isCall : route ∈ Route.calls)
    (isCommand : route.action = .call command) (has : request.payload = .ok body)
    (made : site.call world request captured body command = .ok served) :
    site.Handled world request served := by
  simp only [call, bind_eq_ok, refusing_eq_ok] at made
  obtain ⟨caller, authentic, operation, asked, ⟨⟩⟩ := made
  exact .called leads isCall isCommand has authentic (Command.asks_of_operation_eq_ok asked) rfl

/-- What a request is found to ask for is done by one of the three kinds of routes. -/
theorem handled_serve {method : Method} {served : World × Reply}
    (known : Method.ofName? request.method = some method)
    (made : site.serve world request method = .ok served) : site.Handled world request served := by
  simp only [serve, bind_eq_ok] at made
  obtain ⟨body, has, target, found, made⟩ := made
  obtain ⟨route, leads, asks⟩ := Target.find_eq_ok known found
  rw [← asks] at made
  obtain ⟨inquiry, isInquiry⟩ | issues | rfl | isCall :=
    Route.mem_all (Target.mem_all_of_mem_candidates leads.candidate)
  · simp only [isInquiry, bind_eq_ok] at made
    obtain ⟨_, _, ⟨⟩⟩ := made
    exact .untouched _
  · simp only [issues, bind_eq_ok] at made
    obtain ⟨_, _, ⟨⟩⟩ := made
    exact .untouched _
  · exact handled_mint leads has made
  · obtain ⟨command, isCommand⟩ := Route.exists_command_of_mem_calls isCall
    rw [isCommand] at made
    exact handled_call leads isCall isCommand has made

theorem Handled.of_status {after : World} {reply other : Reply}
    (outcome : site.Handled world request (after, reply)) (status : other.status = reply.status) :
    site.Handled world request (after, other) := by
  cases outcome with
  | untouched => exact .untouched other
  | minted leads hasDevTools has isAsset isTarget isAmount minted created =>
      exact .minted leads hasDevTools has isAsset isTarget isAmount minted (status.trans created)
  | called leads isCall isCommand has authentic asks ended =>
      exact .called leads isCall isCommand has authentic asks (status.trans ended)

/-- Every request leaves the world as it is, mints, or calls the circle service once. -/
theorem handled (site : Site) (world : World) (request : Request) :
    site.Handled world request (site.handle world request) := by
  rw [handle]
  split
  · exact .untouched _
  · next method known =>
    split
    · exact .untouched _
    · split
      · exact .untouched _
      · cases made : site.serve world request method with
        | error _ => exact .untouched _
        | ok served =>
            have outcome := handled_serve (Request.ofName?_of_method? known) made
            exact outcome.of_status (by split <;> rfl)

/-! ## Results -/

def sample : Site where
  host := .sample
  hasDevTools := false

/-- A request that is refused leaves books, ledger and trail as they were, and so does every request
that only asks to see something: a status from 400 on, or the method `GET` or `HEAD`. The service
keeps the balances itself, so that its ledger can be put back. -/
theorem failed_requests_leave_no_trace (site : Site)
    (restores : site.host.restoresLedger = true) (world : World) (request : Request)
    (idle : 400 ≤ (site.handle world request).2.status ∨
      Method.ofName? request.method = some .get ∨ Method.ofName? request.method = some .head) :
    (site.handle world request).1.Agrees world := by
  have outcome := site.handled world request
  generalize site.handle world request = served at outcome idle
  have writes {route : Route} {captured : List String} (leads : request.LeadsTo route captured)
      (alters : route.method ≠ .get) : ¬(Method.ofName? request.method = some .get ∨
        Method.ofName? request.method = some .head) := by
    have routed := leads.method
    rintro (asking | asking) <;>
    · rw [asking] at routed
      exact alters (Option.some.inj routed).symm
  cases outcome with
  | untouched => exact .refl world
  | minted leads _ _ _ _ _ _ created =>
      obtain refused | asking := idle
      · dsimp only at refused
        omega
      · exact absurd asking (writes leads (by decide))
  | called leads isCall _ _ _ _ status =>
      obtain refused | asking := idle
      · exact agrees_of_le_status restores (status ▸ refused)
      · have method := Route.method_of_mem_calls isCall
        refine absurd asking (writes leads ?_)
        rintro same
        rw [same] at method
        exact absurd method (by decide)

/-- A deposit that the caller cannot pay for is refused after it has been written, and undone. -/
theorem unpaid_deposit_leaves_no_trace :
    400 ≤ (sample.handle .sample Request.unpaidDeposit).2.status ∧
      (sample.handle .sample Request.unpaidDeposit).1.Agrees .sample := by
  have refused : 400 ≤ (sample.handle .sample Request.unpaidDeposit).2.status := by
    decide +kernel
  exact ⟨refused, failed_requests_leave_no_trace sample rfl .sample _ (.inl refused)⟩

/-- The request mints an asset by means of the development tools: it is a `POST` to `/v1/dev/mint`,
the tools are there, and nothing changes but the ledger, as minting what the body gives changes
it. -/
structure Mints (site : Site) (world : World) (request : Request) : Prop where
  leads : ∃ captured, request.LeadsTo Route.minting captured
  hasDevTools : site.hasDevTools = true
  mints : ∃ body asset target amount ledger, request.payload = .ok body ∧
    Gives body "asset" Schema.address asset ∧ Gives body "to" Schema.address target ∧
    Gives body "amount" Schema.amount amount ∧
    world.ledger.mint asset target amount = .ok ledger ∧
    (site.handle world request).1 = { world with ledger }

/-- The request acts for a principal by an operation: it carries the token of the principal, it
leads to a route for calls whose command asks for the operation with the proof of the principal, and
what it changes is what the operation changes. -/
structure Acts (site : Site) (world : World) (request : Request) (principal : Address)
    (operation : Operation) : Prop where
  isNamed : principal ≠ ""
  signed : request.authorization = some ("Bearer " ++ site.host.authority.issue principal)
  authentic : authenticate site.host.authority request.authorization =
    .ok (site.host.authority.proofOf principal)
  asks : ∃ route captured command body, request.LeadsTo route captured ∧ route ∈ Route.calls ∧
    route.action = .call command ∧ request.payload = .ok body ∧
    command.Asks site.host.authority (site.host.authority.proofOf principal) captured body operation
  calls : (site.handle world request).1 = ((Step.call operation []).run site.host world).1

/-- A request that changes books, ledger or trail either mints by means of the development tools or
carries the token of a principal and makes one call of the circle service, with the proof of that
principal, the number of the circle that the path names, and what the schemas read in the body. Who
acts is told by the authorization header alone: whatever other request comes with the same header,
to whatever world, with whatever path and body, acts for the same principal if it acts at all. -/
theorem changes_are_authenticated (site : Site) (world : World) (request : Request)
    (changed : ¬(site.handle world request).1.Agrees world) :
    site.Mints world request ∨
    ∃ principal operation, site.Acts world request principal operation ∧
      operation.proof = some (site.host.authority.proofOf principal) ∧
      ∀ otherWorld other otherPrincipal otherOperation,
        other.authorization = request.authorization →
        site.Acts otherWorld other otherPrincipal otherOperation → otherPrincipal = principal := by
  have outcome := site.handled world request
  generalize served : site.handle world request = result at outcome changed
  cases outcome with
  | untouched => exact absurd (.refl world) changed
  | minted leads hasDevTools has isAsset isTarget isAmount minted =>
      exact .inl ⟨⟨_, leads⟩, hasDevTools, _, _, _, _, _, has, isAsset, isTarget, isAmount, minted,
        by rw [served]⟩
  | @called _ _ _ _ caller operation _ leads isCall isCommand has authentic asks =>
      obtain ⟨isNamed, own, signed⟩ := authenticate_eq_ok authentic
      refine .inr ⟨caller.principal, operation, ?_, own ▸ asks.proof_eq, ?_⟩
      · exact {
          isNamed
          signed
          authentic := own ▸ authentic
          asks := ⟨_, _, _, _, leads, isCall, isCommand, has, own ▸ asks⟩
          calls := by rw [served, world_perform] }
      · intro _ other otherPrincipal _ same acts
        have equal := acts.authentic
        rw [same, authentic] at equal
        exact (congrArg Proof.principal (Except.ok.inj equal)).symm

/-- A caller who claims the protocol acts as the owner of the token sent. -/
theorem claim_acts_for_owner :
    ¬(sample.handle .sample Request.claim).1.Agrees .sample ∧
      ∃ operation, sample.Acts .sample Request.claim "alice" operation := by
  have changed : ¬(sample.handle .sample Request.claim).1.Agrees .sample := by
    intro agrees
    have claimed : (sample.handle .sample Request.claim).1.books.protocol.isSome = true := by
      decide +kernel
    rw [agrees.books] at claimed
    exact absurd claimed (by decide)
  refine ⟨changed, ?_⟩
  obtain mints | ⟨principal, operation, acts, _⟩ := changes_are_authenticated _ _ _ changed
  · exact absurd mints.hasDevTools (by decide)
  · have own : authenticate sample.host.authority Request.claim.authorization =
        .ok (sample.host.authority.proofOf "alice") := rfl
    rw [acts.authentic] at own
    obtain rfl := congrArg Proof.principal (Except.ok.inj own)
    exact ⟨operation, acts⟩

end Site

end SavingsCircle.Http
