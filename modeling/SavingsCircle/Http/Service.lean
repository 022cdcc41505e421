import SavingsCircle.Http.Payload
import SavingsCircle.Service.Display
import SavingsCircle.Service.Run

/-!
# The service behind HTTP

`Site.handle` answers one request: the body is read, the route is found, and then either an inquiry
is answered, or a development tool is used, or the caller is authenticated and an operation of the
circle service is run. Requests are run one at a time and meet nothing during their transfers.
-/

namespace SavingsCircle.Http

/-- The service as it stands behind HTTP. -/
structure Site where
  host : Host
  /-- Whether tokens are issued and assets minted for anyone who asks. -/
  hasDevTools : Bool

namespace Site

def atTime (world : World) (clock : Number) : World :=
  { world with clock, now := Calendar.secondsOf clock }

def ask (world : World) (query : Query) : Except Refusal Json :=
  (refusing (query.answer world)).map Answer.toJson

def askCircle (world : World) (captured : List String) (query : Number → Query) :
    Except Refusal Json := do
  ask world (query (← circleNumber captured))

def readSelection (circle : Number) (query : Json) : Checked Selection :=
  let make (topic : Option String) (limit : Option Number) : Selection :=
    { circle := some (.number circle), topic := topic.map .text, limit }
  (Checked.apply make
    (Schema.field query "topic" (Schema.optional (Schema.oneOf (Topic.all.map (·.name)))))).both
    (Schema.field query "limit"
      (Schema.optional (Schema.coerced [.whole, .above 0, .atMost 500])))

def demandDevTools (site : Site) : Except Refusal Unit :=
  if site.hasDevTools then .ok () else .error Target.notFound

/-- Answers an inquiry. -/
def inquire (site : Site) (world : World) (request : Request) (captured : List String) :
    Inquiry → Except Refusal Json
  | .welcome =>
    .ok (.object [
      ("name", .text "RoscaFlow API"),
      ("tagline", .text "Contribute together, get paid in turn"),
      ("version", .text "v1")])
  | .health => do
    let instant ← refusing (demandSome (Calendar.instant? world.clock) .undated)
    return .object [
      ("service", .text "roscaflow-api-node"),
      ("status", .text "ok"),
      ("timestamp", .text (Calendar.timestamp instant)),
      ("auditChainValid", .bool world.trail.verify)]
  | .balance => do
    site.demandDevTools
    let asset := captured.getD 0 ""
    let account := captured.getD 1 ""
    return .object [
      ("asset", .text asset),
      ("account", .text account),
      ("balance", .ofNat (world.ledger.balance asset account))]
  | .protocol =>
    .ok (.object [
      ("config", .ofOption Protocol.toJson world.books.protocol),
      ("feeBasisPoints", .ofNat world.books.feeRate),
      ("treasury", .ofOption .text world.books.treasury),
      ("lastActiveAt", .number world.books.lastActiveAt)])
  | .deposited =>
    let user := captured.getD 0 ""
    let asset := captured.getD 1 ""
    .ok (.object [
      ("user", .text user),
      ("asset", .text asset),
      ("balance", .ofNat (world.books.deposited user asset))])
  | .circles => ask world .circles
  | .circle => askCircle world captured .circle
  | .members => askCircle world captured .members
  | .cycle => askCircle world captured .cycleInfo
  | .queue => askCircle world captured .payoutQueue
  | .payoutStatus => askCircle world captured .payoutStatus
  | .events => do
    let circle ← circleNumber captured
    let _ ← ask world (.circle circle)
    let query := request.query
    refusing (demand ((query.field? "limit").all Json.isPlain) .malformed)
    let selection ← conforming (readSelection circle query)
    ask world (.events selection)

/-- How the answer of an operation is shown to the caller. A circle just founded is read again for
it by its number. -/
def present (operation : Operation) (answer : Answer) (world : World) : Except Failure Json :=
  let value := answer.toJson
  match operation with
  | .adminAction _ => .ok (.object [("lastActiveAt", value)])
  | .deposit _ asset _ => .ok (.object [("asset", .text asset), ("balance", value)])
  | .emergencyWithdraw _ asset => .ok (.object [("asset", .text asset), ("amount", value)])
  | .createCircle _ _ =>
    match answer with
    | .amount id => (world.books.circle (.ofNat id)).map Circle.toJson
    | _ => .ok value
  | .proposeDissolution _ _ | .voteDissolution _ _ => .ok (.object [("dissolved", value)])
  | .withdrawProRata _ _ => .ok (.object [("amount", value)])
  | _ => .ok value

/-- Runs an operation and shows its answer. What the operation has done stays done even if its
answer cannot be shown. -/
def perform (site : Site) (world : World) (status : Nat) (operation : Operation) :
    World × Reply :=
  let (after, report) := (Step.call operation []).run site.host world
  match report.outcome.bind (present operation · after) with
  | .ok shown => (after, .data status shown)
  | .error failure => (after, (Refusal.ofFailure failure).reply)

def issueToken (site : Site) (payload : Json) : Except Refusal Reply := do
  site.demandDevTools
  let address ← readObject payload (Schema.field · "address" Schema.address)
  return .data 201 (.object [
    ("address", .text address),
    ("token", .text (site.host.authority.issue address))])

/-- Mints an asset. -/
def mint (site : Site) (world : World) (payload : Json) : Except Refusal (World × Reply) := do
  site.demandDevTools
  let (asset, target, amount) ← readObject payload fun body =>
    ((Checked.apply (fun asset target amount => (asset, target, amount))
      (Schema.field body "asset" Schema.address)).both
      (Schema.field body "to" Schema.address)).both
      (Schema.field body "amount" Schema.amount)
  let ledger ← refusing (world.ledger.mint asset target amount)
  return ({ world with ledger },
    .data 201 (.object [
      ("asset", .text asset),
      ("account", .text target),
      ("balance", .ofNat (ledger.balance asset target))]))

def call (site : Site) (world : World) (request : Request) (captured : List String)
    (payload : Json) (command : Command) : Except Refusal (World × Reply) := do
  let proof ← refusing (authenticate site.host.authority request.authorization)
  let operation ← command.operation site.host.authority proof captured payload
  return site.perform world command.status operation

/-- Does what a request asks for, by a method. -/
def serve (site : Site) (world : World) (request : Request) (method : Method) :
    Except Refusal (World × Reply) := do
  let payload ← request.payload
  let target ← Target.find request method
  match target.action with
  | .inquire inquiry =>
    return (world, .data 200 (← site.inquire world request target.captured inquiry))
  | .issueToken => return (world, ← site.issueToken payload)
  | .mint => site.mint world payload
  | .call command => site.call world request target.captured payload command

/-- Answers a request. A request that cannot be read, one for the options of a target, and one for
the head only are answered without a body. -/
def handle (site : Site) (world : World) (request : Request) : World × Reply :=
  match request.method? with
  | none => (world, ⟨400, none⟩)
  | some method =>
    if Request.headLimit ≤ request.headLength then (world, ⟨431, none⟩)
    else if method = .options then (world, ⟨204, none⟩)
    else
      let (world, reply) := match site.serve world request method with
        | .ok served => served
        | .error refusal => (world, refusal.reply)
      (world, if method = .head then { reply with body := none } else reply)

end Site

end SavingsCircle.Http
