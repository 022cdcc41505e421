import SavingsCircle.Http.Payload
import SavingsCircle.Proofs.Service.Deed
import SavingsCircle.Proofs.Service.Opening
import SavingsCircle.Proofs.Token

/-!
# What requests ask for

The table of routes and the readers of paths and bodies, put as relations: which route a request
leads to, and which operation a command asks for, given the proof of the caller, the captured parts
of the path and the body. `Asks` names for every command the members of the body that are read, and
by which schema. The caller is the same in all of them: no part of a path or of a body is read as
the proof of the one who acts.
-/

namespace SavingsCircle.Http

/-! ## Routes -/

namespace Route

def minting : Route := of .post ["dev", "mint"] .mint

/-- All routes, with the one for the root. -/
def all : List Route := root :: mounted

def Inquires (route : Route) : Prop := ∃ inquiry, route.action = .inquire inquiry

theorem inquires_of_mem_inquiries {route : Route} (mem : route ∈ inquiries) : route.Inquires := by
  revert route
  simp [inquiries, Inquires, of]

theorem method_of_mem_calls {route : Route} (mem : route ∈ calls) :
    route.method = .post ∨ route.method = .put := by
  revert route
  simp [calls, of]

theorem exists_command_of_mem_calls {route : Route} (mem : route ∈ calls) :
    ∃ command, route.action = .call command := by
  revert route
  simp [calls, of]

theorem mem_all {route : Route} (mem : route ∈ all) :
    route.Inquires ∨ route.action = .issueToken ∨ route = minting ∨ route ∈ calls := by
  simp only [all, mounted, List.mem_cons, List.mem_append, List.not_mem_nil, or_false] at mem
  obtain rfl | ((rfl | rfl) | listed) | called := mem
  · exact .inl ⟨.welcome, rfl⟩
  · exact .inr (.inl rfl)
  · exact .inr (.inr (.inl rfl))
  · exact .inl (inquires_of_mem_inquiries listed)
  · exact .inr (.inr (.inr called))

end Route

/-- A request leads to a route: the route is for its method and among those that can answer its
path, and the path has the shape of the route, with the given parts captured. -/
structure Request.LeadsTo (request : Request) (route : Route) (captured : List String) : Prop where
  method : (Method.ofName? request.method).map Method.routed = some route.method
  candidate : route ∈ (Target.candidates request).2
  captures : (Route.captures? route.parts (Target.segments (Target.candidates request).1)).bind
    (·.mapM percentDecode?) = some captured

theorem Request.ofName?_of_method? {request : Request} {method : Method}
    (known : request.method? = some method) : Method.ofName? request.method = some method := by
  rw [Request.method?] at known
  split at known
  · exact known
  · cases known

theorem Target.mem_all_of_mem_candidates {request : Request} {route : Route}
    (mem : route ∈ (candidates request).2) : route ∈ Route.all := by
  rw [candidates] at mem
  split at mem
  · exact List.mem_cons_of_mem _ mem
  · rw [List.mem_singleton.1 mem]
    exact List.mem_cons_self

/-- What is found for a request is the action of a route that the request leads to. -/
theorem Target.find_eq_ok {request : Request} {method : Method} {target : Target}
    (known : Method.ofName? request.method = some method)
    (found : find request method = .ok target) :
    ∃ route, request.LeadsTo route target.captured ∧ route.action = target.action := by
  rw [find] at found
  dsimp only at found
  split at found
  · cases found
  · split at found
    · cases found
    · next decodable =>
      split at found
      · next route captured match? =>
        obtain rfl := Except.ok.inj found
        have matched := List.find?_some match?
        have mem := List.mem_of_find?_eq_some match?
        have decoded : captured ≠ none := by
          rintro rfl
          exact decodable (List.any_eq_true.2 ⟨_, mem, rfl⟩)
        obtain ⟨decoded, rfl⟩ := Option.ne_none_iff_exists'.1 decoded
        obtain ⟨⟨_, parts⟩, listed, split⟩ := List.mem_map.1 mem
        obtain ⟨rfl, decodes⟩ := Prod.mk.inj split
        obtain ⟨route, candidate, shaped⟩ := List.mem_filterMap.1 listed
        obtain ⟨_, shape, same⟩ := Option.map_eq_some_iff.1 shaped
        obtain ⟨rfl, rfl⟩ := Prod.mk.inj same
        refine ⟨route, ⟨?_, candidate, ?_⟩, rfl⟩
        · rw [known, Option.map_some, beq_iff_eq.1 matched]
        · rw [shape, Option.bind_some, decodes, Option.getD_some]
      · cases found

/-! ## Commands -/

/-- A body is an object with a value under a name that a schema accepts. -/
structure Gives {α : Type} (body : Json) (name : String) (reader : Schema.Reader α) (value : α) :
    Prop where
  isObject : ∃ members, body = .object members
  accepted : reader (body.field? name) = .ok value

namespace Command

/-- The operation of a command that needs nothing but the circle. -/
def onCircle? : Command → Option (Option Proof → Number → Operation)
  | .join => some .join
  | .finalize => some .finalize
  | .contribute => some .contribute
  | .rollover => some .rollover
  | .requestExit => some .requestExit
  | .proposeDissolution => some .proposeDissolution
  | .voteDissolution => some .voteDissolution
  | .withdrawProRata => some .withdrawProRata
  | .voteLateFee => some .voteLateFee
  | _ => none

/-- The operation of a command that needs the circle and one address, and the name under which the
body has the address. -/
def onMember? : Command → Option (String × (Option Proof → Number → Address → Operation))
  | .processPayout => some ("recipient", .processPayout)
  | .transferAdmin => some ("newAdmin", fun proof circle admin =>
      .transferAdmin proof circle (some admin))
  | .eject => some ("member", .eject)
  | .coverMember => some ("member", .coverMember)
  | _ => none

/-- A command asks for an operation: every operation acts with the proof of the caller, on the
circle that the path names, with what the body gives. -/
inductive Asks (authority : Authority) (caller : Proof) (captured : List String) (body : Json) :
    Command → Operation → Prop where
  | claimProtocol :
      Asks authority caller captured body .claimProtocol (.claimProtocol (some caller))
  | adminAction :
      Asks authority caller captured body .adminAction (.adminAction (some caller))
  | setProtocolFee {rate treasury} (isRate : Gives body "feeBasisPoints" Schema.rate rate)
      (isTreasury : Gives body "treasury" Schema.address treasury) :
      Asks authority caller captured body .setProtocolFee
        (.setProtocolFee (some caller) rate (some treasury))
  | deposit {asset amount} (isAsset : Gives body "asset" Schema.address asset)
      (isAmount : Gives body "amount" Schema.amount amount) :
      Asks authority caller captured body .deposit (.deposit (some caller) asset amount)
  | emergencyWithdraw {asset} (isAsset : Gives body "asset" Schema.address asset) :
      Asks authority caller captured body .emergencyWithdraw
        (.emergencyWithdraw (some caller) asset)
  | createCircle {contribution isRandomQueue asset cycleDuration lateFeeRate insuranceFeeRate}
      (isContribution : Gives body "contribution" Schema.amount contribution)
      (isFlag : Gives body "isRandomQueue" (Schema.orElse Schema.flag false) isRandomQueue)
      (isAsset : Gives body "asset" Schema.address asset)
      (isDuration : Gives body "cycleDuration" (Schema.optional Schema.amount) cycleDuration)
      (isLateFeeRate : Gives body "lateFeeBps" (Schema.optional Schema.rate) lateFeeRate)
      (isInsuranceFeeRate :
        Gives body "insuranceFeeBps" (Schema.optional Schema.rate) insuranceFeeRate) :
      Asks authority caller captured body .createCircle
        (.createCircle (some caller)
          { contribution, isRandomQueue, cycleDuration, lateFeeRate, insuranceFeeRate
            asset := some asset })
  | onCircle {command make circle} (isPlain : onCircle? command = some make)
      (names : circleNumber captured = .ok circle) :
      Asks authority caller captured body command (make (some caller) circle)
  | onMember {command name make circle member} (isPlain : onMember? command = some (name, make))
      (names : circleNumber captured = .ok circle)
      (isMember : Gives body name Schema.address member) :
      Asks authority caller captured body command (make (some caller) circle member)
  | kick {circle member penalty} (names : circleNumber captured = .ok circle)
      (isMember : Gives body "member" Schema.address member)
      (isPenalty : Gives body "penalty"
        (Schema.orElse (Schema.number [.whole, .atLeast 0]) (.ofNat 0)) penalty) :
      Asks authority caller captured body .kick (.kick (some caller) circle member penalty)
  | swap {circle successor} (names : circleNumber captured = .ok circle)
      (isNamed : successor ≠ "")
      (isToken : Gives body "newMemberToken" (Schema.text [.minSize 1])
        (authority.issue successor)) :
      Asks authority caller captured body .swap
        (.swap (some caller) (some (authority.proofOf successor)) circle)
  | swapByAdmin {circle former successor} (names : circleNumber captured = .ok circle)
      (isFormer : Gives body "oldMember" Schema.address former)
      (isSuccessor : Gives body "newMember" Schema.address successor) :
      Asks authority caller captured body .swapByAdmin
        (.swapByAdmin (some caller) circle former successor)
  | fillVacancy {circle exiting successor} (names : circleNumber captured = .ok circle)
      (isNamed : successor ≠ "") (isExiting : Gives body "exiting" Schema.address exiting)
      (isToken : Gives body "newMemberToken" (Schema.text [.minSize 1])
        (authority.issue successor)) :
      Asks authority caller captured body .fillVacancy
        (.fillVacancy (some caller) (some (authority.proofOf successor)) circle exiting)
  | proposeLateFee {circle rate} (names : circleNumber captured = .ok circle)
      (isRate : Gives body "lateFeeBps" Schema.rate rate) :
      Asks authority caller captured body .proposeLateFee
        (.proposeLateFee (some caller) circle rate)

end Command

variable {α β : Type}

theorem mapError_eq_ok {ε δ : Type} {f : ε → δ} {outcome : Except ε α} {a : α} :
    outcome.mapError f = .ok a ↔ outcome = .ok a := by
  cases outcome with
  | ok b =>
      change Except.ok b = Except.ok a ↔ _
      rw [Except.ok.injEq, Except.ok.injEq]
  | error _ => exact iff_of_false nofun nofun

theorem refusing_eq_ok {outcome : Except Failure α} {a : α} :
    refusing outcome = .ok a ↔ outcome = .ok a :=
  mapError_eq_ok

theorem conforming_eq_ok {read : Checked α} {a : α} : conforming read = .ok a ↔ read = .ok a :=
  mapError_eq_ok

theorem apply_eq_ok {f : α → β} {read : Checked α} {b : β} :
    Checked.apply f read = .ok b ↔ ∃ a, read = .ok a ∧ f a = b := by
  simp [Checked.apply, Checked.both_eq_ok]

theorem field_eq_ok {body : Json} {name : String} {reader : Schema.Reader α} {a : α} :
    Schema.field body name reader = .ok a ↔ reader (body.field? name) = .ok a := by
  rw [Schema.field]
  cases reader (body.field? name) <;> simp [Checked.under]

theorem readObject_eq_ok {body : Json} {read : Json → Checked α} {a : α} :
    readObject body read = .ok a ↔ (∃ members, body = .object members) ∧ read body = .ok a := by
  cases body <;> simp [readObject, conforming_eq_ok, Schema.wrongType]

theorem counterparty_eq_ok {authority : Authority} {token : String} {proof : Proof}
    (accepted : counterparty authority token = .ok proof) :
    proof.principal ≠ "" ∧ proof = authority.proofOf proof.principal ∧
      token = authority.issue proof.principal :=
  Authority.eq_of_parse?_eq_some (demandSome_eq_ok.1 accepted)

namespace Command

variable {authority : Authority} {caller : Proof} {captured : List String} {body : Json}
  {command : Command} {operation : Operation}

theorem asks_createCircle {terms : CircleTerms} (isObject : ∃ members, body = .object members)
    (read : readTerms body = .ok terms) :
    Asks authority caller captured body .createCircle (.createCircle (some caller) terms) := by
  simp only [readTerms, Checked.both_eq_ok, apply_eq_ok, field_eq_ok] at read
  obtain ⟨_, _, ⟨_, _, ⟨_, _, ⟨_, _, ⟨_, _, ⟨_, isContribution, rfl⟩, isFlag, rfl⟩, isAsset, rfl⟩,
    isDuration, rfl⟩, isLateFeeRate, rfl⟩, isInsuranceFeeRate, rfl⟩ := read
  exact .createCircle ⟨isObject, isContribution⟩ ⟨isObject, isFlag⟩ ⟨isObject, isAsset⟩
    ⟨isObject, isDuration⟩ ⟨isObject, isLateFeeRate⟩ ⟨isObject, isInsuranceFeeRate⟩

/-- A command makes no operation but the one that it asks for. -/
theorem asks_of_operation_eq_ok
    (made : command.operation authority caller captured body = .ok operation) :
    command.Asks authority caller captured body operation := by
  cases command with
  | claimProtocol =>
      obtain rfl := Except.ok.inj made
      exact .claimProtocol
  | adminAction =>
      obtain rfl := Except.ok.inj made
      exact .adminAction
  | setProtocolFee =>
      simp only [Command.operation, readObject_eq_ok, Checked.both_eq_ok, apply_eq_ok, field_eq_ok]
        at made
      obtain ⟨isObject, _, _, ⟨_, isRate, rfl⟩, isTreasury, rfl⟩ := made
      exact .setProtocolFee ⟨isObject, isRate⟩ ⟨isObject, isTreasury⟩
  | deposit =>
      simp only [Command.operation, readObject_eq_ok, Checked.both_eq_ok, apply_eq_ok, field_eq_ok]
        at made
      obtain ⟨isObject, _, _, ⟨_, isAsset, rfl⟩, isAmount, rfl⟩ := made
      exact .deposit ⟨isObject, isAsset⟩ ⟨isObject, isAmount⟩
  | emergencyWithdraw =>
      simp only [Command.operation, readObject_eq_ok, apply_eq_ok, field_eq_ok] at made
      obtain ⟨isObject, _, isAsset, rfl⟩ := made
      exact .emergencyWithdraw ⟨isObject, isAsset⟩
  | createCircle =>
      simp only [Command.operation, readObject_eq_ok, apply_eq_ok] at made
      obtain ⟨isObject, terms, read, rfl⟩ := made
      exact asks_createCircle isObject read
  | join | finalize | contribute | rollover | requestExit | proposeDissolution | voteDissolution
  | withdrawProRata | voteLateFee =>
      simp only [Command.operation, bind_eq_ok] at made
      obtain ⟨_, names, ⟨⟩⟩ := made
      exact .onCircle rfl names
  | processPayout | eject | coverMember =>
      simp only [Command.operation, bind_eq_ok, readObject_eq_ok, field_eq_ok] at made
      obtain ⟨_, ⟨isObject, isMember⟩, _, names, ⟨⟩⟩ := made
      exact .onMember rfl names ⟨isObject, isMember⟩
  | transferAdmin =>
      simp only [Command.operation, bind_eq_ok, readObject_eq_ok, field_eq_ok] at made
      obtain ⟨_, ⟨isObject, isMember⟩, _, names, ⟨⟩⟩ := made
      have handsOver : onMember? .transferAdmin = some ("newAdmin", fun proof circle admin =>
        .transferAdmin proof circle (some admin)) := rfl
      exact .onMember handsOver names ⟨isObject, isMember⟩
  | kick =>
      simp only [Command.operation, bind_eq_ok, readObject_eq_ok, Checked.both_eq_ok, apply_eq_ok,
        field_eq_ok] at made
      obtain ⟨_, ⟨isObject, _, _, ⟨_, isMember, rfl⟩, isPenalty, rfl⟩, _, names, ⟨⟩⟩ := made
      exact .kick names ⟨isObject, isMember⟩ ⟨isObject, isPenalty⟩
  | swap =>
      simp only [Command.operation, bind_eq_ok, readObject_eq_ok, readToken, field_eq_ok,
        refusing_eq_ok] at made
      obtain ⟨token, ⟨isObject, isToken⟩, successor, accepted, _, names, ⟨⟩⟩ := made
      obtain ⟨isNamed, own, issued⟩ := counterparty_eq_ok accepted
      rw [own]
      exact .swap names isNamed ⟨isObject, issued ▸ isToken⟩
  | swapByAdmin =>
      simp only [Command.operation, bind_eq_ok, readObject_eq_ok, Checked.both_eq_ok, apply_eq_ok,
        field_eq_ok] at made
      obtain ⟨_, ⟨isObject, _, _, ⟨_, isFormer, rfl⟩, isSuccessor, rfl⟩, _, names, ⟨⟩⟩ := made
      exact .swapByAdmin names ⟨isObject, isFormer⟩ ⟨isObject, isSuccessor⟩
  | fillVacancy =>
      simp only [Command.operation, bind_eq_ok, readObject_eq_ok, Checked.both_eq_ok, apply_eq_ok,
        readToken, field_eq_ok, refusing_eq_ok] at made
      obtain ⟨_, ⟨isObject, _, _, ⟨_, isExiting, rfl⟩, isToken, rfl⟩, successor, accepted, _, names,
        ⟨⟩⟩ := made
      obtain ⟨isNamed, own, issued⟩ := counterparty_eq_ok accepted
      dsimp only at issued ⊢
      rw [own]
      exact .fillVacancy names isNamed ⟨isObject, isExiting⟩ ⟨isObject, issued ▸ isToken⟩
  | proposeLateFee =>
      simp only [Command.operation, bind_eq_ok, readObject_eq_ok, field_eq_ok] at made
      obtain ⟨_, ⟨isObject, isRate⟩, _, names, ⟨⟩⟩ := made
      exact .proposeLateFee names ⟨isObject, isRate⟩

/-- Whatever a command asks for, it is the caller who acts. -/
theorem Asks.proof_eq (asks : command.Asks authority caller captured body operation) :
    operation.proof = some caller := by
  cases asks with
  | onCircle isPlain =>
      cases command <;> cases isPlain <;> rfl
  | onMember isPlain =>
      cases command <;> cases isPlain <;> rfl
  | _ => rfl

end Command

end SavingsCircle.Http
