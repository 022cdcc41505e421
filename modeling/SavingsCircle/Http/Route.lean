import SavingsCircle.Http.Request
import SavingsCircle.Token

/-!
# Routes

The table of routes: for each method and shape of a path, what the request asks for. All routes but
the one for the root are mounted below a version. Paths are compared without regard to case, and the
captured parts of a path are percent-decoded. A path whose captured parts do not decode is refused
whatever the method.
-/

namespace SavingsCircle.Http

/-- What a request can ask for without calling the circle service. -/
inductive Inquiry where
  | welcome
  | health
  | balance
  | protocol
  | deposited
  | circles
  | circle
  | members
  | cycle
  | queue
  | payoutStatus
  | events
  deriving DecidableEq

/-- The calls to the circle service that a request can make. -/
inductive Command where
  | claimProtocol
  | setProtocolFee
  | adminAction
  | deposit
  | emergencyWithdraw
  | createCircle
  | join
  | finalize
  | contribute
  | processPayout
  | rollover
  | transferAdmin
  | kick
  | swap
  | swapByAdmin
  | eject
  | requestExit
  | fillVacancy
  | coverMember
  | proposeDissolution
  | voteDissolution
  | withdrawProRata
  | proposeLateFee
  | voteLateFee
  deriving DecidableEq

inductive Action where
  | inquire (inquiry : Inquiry)
  /-- Issues a token, if the service has development tools. -/
  | issueToken
  /-- Mints an asset, if the service has development tools. -/
  | mint
  | call (command : Command)
  deriving DecidableEq

/-- One route: a method, the parts of its paths, and what it asks for. A part without text captures
any one part of a path. -/
structure Route where
  method : Method
  parts : List (Option String)
  action : Action

namespace Route

/-- The route of a path, with a star for each captured part. -/
def of (method : Method) (path : List String) (action : Action) : Route where
  method
  parts := path.map fun part => if part = "*" then none else some part
  action

def root : Route := of .get [] (.inquire .welcome)

/-- The routes for inquiries. -/
def inquiries : List Route :=
  let get (path : List String) (inquiry : Inquiry) := of .get path (.inquire inquiry)
  [get ["health"] .health,
    get ["dev", "balances", "*", "*"] .balance,
    get ["protocol"] .protocol,
    get ["custody", "*", "*"] .deposited,
    get ["circles"] .circles,
    get ["circles", "*"] .circle,
    get ["circles", "*", "members"] .members,
    get ["circles", "*", "cycle"] .cycle,
    get ["circles", "*", "queue"] .queue,
    get ["circles", "*", "payout-status"] .payoutStatus,
    get ["circles", "*", "events"] .events]

/-- The routes that call the circle service. -/
def calls : List Route :=
  let post (path : List String) (command : Command) := of .post path (.call command)
  [post ["protocol", "initialize"] .claimProtocol,
    of .put ["protocol", "fee"] (.call .setProtocolFee),
    post ["protocol", "admin-action"] .adminAction,
    post ["custody", "deposit"] .deposit,
    post ["custody", "emergency-withdraw"] .emergencyWithdraw,
    post ["circles"] .createCircle,
    post ["circles", "*", "join"] .join,
    post ["circles", "*", "finalize"] .finalize,
    post ["circles", "*", "contributions"] .contribute,
    post ["circles", "*", "payouts"] .processPayout,
    post ["circles", "*", "rollover"] .rollover,
    post ["circles", "*", "admin"] .transferAdmin,
    post ["circles", "*", "kick"] .kick,
    post ["circles", "*", "swap"] .swap,
    post ["circles", "*", "swap-by-admin"] .swapByAdmin,
    post ["circles", "*", "eject"] .eject,
    post ["circles", "*", "exit"] .requestExit,
    post ["circles", "*", "fill-vacancy"] .fillVacancy,
    post ["circles", "*", "insurance-coverage"] .coverMember,
    post ["circles", "*", "dissolution", "propose"] .proposeDissolution,
    post ["circles", "*", "dissolution", "vote"] .voteDissolution,
    post ["circles", "*", "withdraw"] .withdrawProRata,
    post ["circles", "*", "penalty-proposals"] .proposeLateFee,
    post ["circles", "*", "penalty-proposals", "vote"] .voteLateFee]

def mounted : List Route :=
  [of .post ["auth", "token"] .issueToken, of .post ["dev", "mint"] .mint] ++ inquiries ++ calls

/-- The parts of a path that a route captures, if the route has the shape of the path. -/
def captures? : List (Option String) → List (List Char) → Option (List (List Char))
  | [], [] => some []
  | some text :: parts, segment :: segments =>
    if (String.ofList segment).toLower = text then captures? parts segments else none
  | none :: parts, segment :: segments =>
    if segment.isEmpty then none else (captures? parts segments).map (segment :: ·)
  | _, _ => none

end Route

structure Target where
  action : Action
  captured : List String

namespace Target

def notFound : Refusal := .plain 404 "NOT_FOUND" "Route not found."

/-- The parts of a path between its slashes, still encoded. A slash at the end counts for
nothing. -/
def segments (path : List Char) : List (List Char) :=
  let parts := (path.splitOn '/').drop 1
  if parts.getLast? = some [] then parts.dropLast else parts

/-- How much of a path names the version that routes are mounted below, if it does. A slash behind
the name goes with it where another slash or the end follows. -/
def mount? (path : List Char) : Option Nat :=
  if (String.ofList (path.take 3)).toLower = "/v1" then
    match path.drop 3 with
    | [] => some 3
    | ['/'] | '/' :: '/' :: _ => some 4
    | '/' :: _ => some 3
    | _ => none
  else none

/-- The path that a request names, and the routes that can answer it. -/
def candidates (request : Request) : List Char × List Route :=
  let path := request.locator.path
  match mount? path with
  | some taken => ((Locator.below request.targetChars taken).path, Route.mounted)
  | none => (path, [Route.root])

/-- Finds what a request asks for, by a method. -/
def find (request : Request) (method : Method) : Except Refusal Target :=
  let (path, routes) := candidates request
  let segments := segments path
  let shaped := if path.head? != some '/' then [] else routes.filterMap fun route =>
    (Route.captures? route.parts segments).map fun captured => (route, captured)
  let decoded := shaped.map fun (route, captured) => (route, captured.mapM percentDecode?)
  if decoded.any fun (_, captured) => captured.isNone then
    .error (.internal "Undecodable path.")
  else
    match decoded.find? fun (route, _) => route.method == method.routed with
    | some (route, captured) => .ok ⟨route.action, captured.getD []⟩
    | none => .error notFound

end Target

end SavingsCircle.Http
