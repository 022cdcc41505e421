import SavingsCircle.Proofs.Custody.Oversize
import SavingsCircle.Proofs.Fees.Exactness
import SavingsCircle.Proofs.Http.Asking

/-!
# What schemas admit and what they report

An amount that its schema admits is positive and safe, a rate is a rate, and an address or the name
of an asset has ink. So whatever operation a command makes of a request, it is given what is fit
(`Command.Asks.isFit`).

What a schema does not admit is reported. The readers of a body stand side by side, and each of them
adds its issues: `Command.parts` lists, for every command, the parts of the body that are read, and
`Command.operation_eq_error` says that the issues of all of them make up the refusal.
-/

namespace SavingsCircle

/-! ## Numbers and texts -/

namespace Number

theorem lt_ofInt_iff {a b : Int} : (ofInt a).lt (ofInt b) = true ↔ a < b := by
  simp [lt, ofInt]

theorem le_ofInt_iff {a b : Int} : (ofInt a).le (ofInt b) = true ↔ a ≤ b := by
  simp only [le, lt, equals, ofInt, Bool.or_eq_true, decide_eq_true_eq, Int.cast_lt, Int.cast_inj]
  omega

/-- A number that is an integer is that integer. -/
theorem eq_ofInt_of_int? {value : Number} {n : Int} (whole : value.int? = some n) :
    value = ofInt n := by
  cases value with
  | nan | infinity => cases whole
  | finite a =>
      rw [int?] at whole
      split at whole
      · next isWhole =>
        obtain rfl := Option.some.inj whole
        rw [ofInt, Rat.coe_int_num_of_den_eq_one isWhole]
      · cases whole

end Number

namespace Text

theorem exists_mem_dropWhile {cs : List Char} {p : Char → Bool} (some : cs.dropWhile p ≠ []) :
    ∃ c ∈ cs.dropWhile p, p c = false :=
  ⟨_, List.head_mem some, by simpa using List.head_dropWhile_not p some⟩

theorem hasInk_trim {s : String} (some : trim s ≠ "") : hasInk (trim s) = true := by
  have left : trimChars s.toList ≠ [] := by
    intro nothing
    rw [trim, nothing] at some
    exact some rfl
  rw [hasInk, trim, String.toList_ofList, List.any_eq_true]
  rw [trimChars, Ne, List.reverse_eq_nil_iff] at left
  rw [trimChars]
  obtain ⟨c, mem, ink⟩ := exists_mem_dropWhile left
  exact ⟨c, List.mem_reverse.2 mem, by simp [ink]⟩

end Text

/-! ## Schemas -/

namespace Schema

variable {α : Type} {rules : List (Rule α)} {value a : α}

theorem obeying_eq_ok :
    obeying rules value = .ok a ↔ (∀ rule ∈ rules, rule value = none) ∧ value = a := by
  rw [obeying, ← List.filterMap_eq_nil_iff]
  cases rules.filterMap fun rule => rule value <;> simp

theorem obeying_of_number {rules : List (Rule Number)} {given : Option Json} {value : Number}
    (admitted : number rules given = .ok value) : ∀ rule ∈ rules, rule value = none := by
  unfold number at admitted
  split at admitted
  · cases admitted
  · obtain ⟨obeys, rfl⟩ := obeying_eq_ok.1 admitted
    exact obeys
  · cases admitted

theorem exists_ofInt {value : Number} (whole : Rule.whole value = none) :
    ∃ n, value = .ofInt n := by
  rw [Rule.whole] at whole
  split at whole
  · next isWhole =>
    obtain ⟨n, isInteger⟩ := Option.isSome_iff_exists.1 isWhole
    exact ⟨n, Number.eq_ofInt_of_int? isInteger⟩
  · cases whole

theorem above_ofInt {bound : Nat} {n : Int} : Rule.above bound (.ofInt n) = none ↔ bound < n := by
  rw [Rule.above, Number.ofNat, ← Number.lt_ofInt_iff]
  split <;> simp_all

theorem atLeast_ofInt {bound : Nat} {n : Int} :
    Rule.atLeast bound (.ofInt n) = none ↔ bound ≤ n := by
  rw [Rule.atLeast, Number.ofNat, ← Number.le_ofInt_iff]
  split <;> simp_all

theorem atMost_ofInt {bound : Nat} {n : Int} : Rule.atMost bound (.ofInt n) = none ↔ n ≤ bound := by
  rw [Rule.atMost, Number.ofNat, ← Number.le_ofInt_iff]
  split <;> simp_all

theorem isAmount_of_amount {given : Option Json} {value : Number}
    (admitted : amount given = .ok value) : value.IsAmount := by
  have obeys := obeying_of_number admitted
  simp only [List.forall_mem_cons] at obeys
  obtain ⟨whole, positive, small, _⟩ := obeys
  obtain ⟨n, rfl⟩ := exists_ofInt whole
  rw [above_ofInt] at positive
  rw [atMost_ofInt] at small
  obtain ⟨units, rfl⟩ := Int.eq_ofNat_of_zero_le positive.le
  exact ⟨units, Number.safeNat?_ofNat (by omega), by omega⟩

/-- A rate that is admitted is one. -/
theorem isSome_rate? {given : Option Json} {value : Number} (admitted : rate given = .ok value) :
    (Fees.rate? value).isSome := by
  have obeys := obeying_of_number admitted
  simp only [List.forall_mem_cons] at obeys
  obtain ⟨whole, least, most, _⟩ := obeys
  obtain ⟨n, rfl⟩ := exists_ofInt whole
  rw [atLeast_ofInt] at least
  rw [atMost_ofInt] at most
  obtain ⟨points, rfl⟩ := Int.eq_ofNat_of_zero_le least
  have small : points ≤ Fees.wholeRate := by omega
  change (Fees.rate? (.ofNat points)).isSome
  rw [Fees.rate?, Number.nat?_ofNat, Option.bind_some, if_pos small]
  rfl

/-- An address or a name of an asset that is admitted has ink. -/
theorem hasInk_of_address {given : Option Json} {name : String}
    (admitted : address given = .ok name) : Text.hasInk name = true := by
  unfold address at admitted
  split at admitted
  · next written =>
    rw [text, obeying_eq_ok, List.forall_mem_cons] at admitted
    obtain ⟨⟨long, _⟩, rfl⟩ := admitted
    refine Text.hasInk_trim fun empty => ?_
    simp [empty, Rule.minSize, Text.size, Text.units] at long
  · next noText =>
    unfold text at admitted
    split at admitted
    · exact absurd rfl (noText _)
    · cases admitted

theorem optional_eq_ok {reader : Reader α} {given : Option Json} {read : Option α}
    (admitted : optional reader given = .ok read) :
    read = none ∨ ∃ a, reader given = .ok a ∧ read = some a := by
  unfold optional at admitted
  split at admitted
  · exact .inl (Except.ok.inj admitted).symm
  · obtain ⟨a, isRead, rfl⟩ := Http.apply_eq_ok.1 admitted
    exact .inr ⟨a, isRead, rfl⟩

theorem isSome_rate?_getD {given : Option Json} {read : Option Number}
    (admitted : optional rate given = .ok read) :
    (Fees.rate? (read.getD (.ofNat 0))).isSome := by
  obtain rfl | ⟨value, isRate, rfl⟩ := optional_eq_ok admitted
  · rfl
  · exact isSome_rate? isRate

/-- A penalty that is admitted is a natural number, and one that is missing is zero. -/
theorem isSome_nat?_of_penalty {given : Option Json} {value : Number}
    (admitted : orElse (number [.whole, .atLeast 0]) (.ofNat 0) given = .ok value) :
    value.nat?.isSome := by
  unfold orElse at admitted
  split at admitted
  · obtain rfl := Except.ok.inj admitted
    rfl
  · have obeys := obeying_of_number admitted
    simp only [List.forall_mem_cons] at obeys
    obtain ⟨whole, least, _⟩ := obeys
    obtain ⟨n, rfl⟩ := exists_ofInt whole
    rw [atLeast_ofInt] at least
    obtain ⟨units, rfl⟩ := Int.eq_ofNat_of_zero_le least
    exact Option.isSome_iff_exists.2 ⟨units, Number.nat?_ofNat units⟩

end Schema

namespace Http

/-- Whatever a command asks for, it is given what is fit. -/
theorem Command.Asks.isFit {authority : Authority} {caller : Proof} {captured : List String}
    {body : Json} {command : Command} {operation : Operation}
    (asks : command.Asks authority caller captured body operation) : operation.IsFit := by
  cases asks with
  | deposit _ isAmount => exact Schema.isAmount_of_amount isAmount.accepted
  | createCircle isContribution _ isAsset isDuration isLateFeeRate isInsuranceFeeRate =>
      constructor
      · exact Schema.isAmount_of_amount isContribution.accepted
      · rintro duration given
        obtain rfl | ⟨_, isAmount, rfl⟩ := Schema.optional_eq_ok isDuration.accepted
        · cases given
        · cases given
          exact Schema.isAmount_of_amount isAmount
      · exact Schema.isSome_rate?_getD isLateFeeRate.accepted
      · exact Schema.isSome_rate?_getD isInsuranceFeeRate.accepted
      · exact ⟨_, rfl, Schema.hasInk_of_address isAsset.accepted⟩
  | kick _ _ isPenalty => exact Schema.isSome_nat?_of_penalty isPenalty.accepted
  | onCircle isPlain => cases command <;> cases isPlain <;> trivial
  | onMember isPlain _ isMember =>
      -- Of the commands that need one address only one checks it again.
      cases command <;> cases isPlain <;>
        first | trivial | exact ⟨_, rfl, Schema.hasInk_of_address isMember.accepted⟩
  | _ => trivial

/-! ## Reports -/

variable {α β : Type}

/-- All that is wrong with what was to be read. -/
def issuesOf : Checked α → List Issue
  | .ok _ => []
  | .error issues => issues

@[simp] theorem issuesOf_both (first : Checked (α → β)) (second : Checked α) :
    issuesOf (first.both second) = issuesOf first ++ issuesOf second := by
  cases first <;> cases second <;> simp [Checked.both, issuesOf]

@[simp] theorem issuesOf_apply (f : α → β) (read : Checked α) :
    issuesOf (Checked.apply f read) = issuesOf read :=
  issuesOf_both ..

structure Part where
  name : String
  /-- All that is wrong with a value of the part, or with there being none. -/
  judge : Option Json → List Issue

namespace Part

def of (name : String) (reader : Schema.Reader α) : Part where
  name
  judge value := issuesOf (reader value)

/-- All that is wrong with a part of a body, each issue under the name of the part. -/
def issues (part : Part) (body : Json) : List Issue :=
  (part.judge (body.field? part.name)).map fun issue =>
    { issue with path := part.name :: issue.path }

@[simp] theorem issues_of (name : String) (reader : Schema.Reader α) (body : Json) :
    (of name reader).issues body = issuesOf (Schema.field body name reader) := by
  simp only [issues, of, Schema.field]
  cases reader (body.field? name) <;> rfl

theorem head?_path_of_mem_issues {part : Part} {body : Json} {issue : Issue}
    (mem : issue ∈ part.issues body) : issue.path.head? = some part.name := by
  obtain ⟨_, _, rfl⟩ := List.mem_map.1 mem
  rfl

end Part

/-- What a command reads of a body. -/
def Command.parts : Command → List Part
  | .setProtocolFee => [.of "feeBasisPoints" Schema.rate, .of "treasury" Schema.address]
  | .deposit => [.of "asset" Schema.address, .of "amount" Schema.amount]
  | .emergencyWithdraw => [.of "asset" Schema.address]
  | .createCircle =>
    [.of "contribution" Schema.amount, .of "isRandomQueue" (Schema.orElse Schema.flag false),
      .of "asset" Schema.address, .of "cycleDuration" (Schema.optional Schema.amount),
      .of "lateFeeBps" (Schema.optional Schema.rate),
      .of "insuranceFeeBps" (Schema.optional Schema.rate)]
  | .processPayout => [.of "recipient" Schema.address]
  | .transferAdmin => [.of "newAdmin" Schema.address]
  | .kick =>
    [.of "member" Schema.address,
      .of "penalty" (Schema.orElse (Schema.number [.whole, .atLeast 0]) (.ofNat 0))]
  | .swap => [.of "newMemberToken" (Schema.text [.minSize 1])]
  | .swapByAdmin => [.of "oldMember" Schema.address, .of "newMember" Schema.address]
  | .eject | .coverMember => [.of "member" Schema.address]
  | .fillVacancy =>
    [.of "exiting" Schema.address, .of "newMemberToken" (Schema.text [.minSize 1])]
  | .proposeLateFee => [.of "lateFeeBps" Schema.rate]
  | .claimProtocol | .adminAction | .join | .finalize | .contribute | .rollover | .requestExit
  | .proposeDissolution | .voteDissolution | .withdrawProRata | .voteLateFee => []

theorem readObject_eq_error {read : Json → Checked α} {members : List (String × Json)}
    {issues : List Issue} (found : issuesOf (read (.object members)) = issues)
    (broken : issues ≠ []) : readObject (.object members) read = .error (.ofIssues issues) := by
  subst found
  rw [readObject]
  cases outcome : read (.object members) with
  | ok a => exact absurd (by rw [outcome]; rfl) broken
  | error issues => rfl

section

variable {authority : Authority} {caller : Proof} {captured : List String} {body : Json}
variable {command : Command} {refusal : Refusal}

/-- A body whose parts are not all admitted is refused, and the refusal reports all that is wrong
with any of them. -/
theorem Command.operation_eq_error {members : List (String × Json)} {issues : List Issue}
    (found : command.parts.flatMap (·.issues (.object members)) = issues) (broken : issues ≠ []) :
    command.operation authority caller captured (.object members) =
      .error (.ofIssues issues) := by
  cases command with
  | claimProtocol | adminAction | join | finalize | contribute | rollover | requestExit
  | proposeDissolution | voteDissolution | withdrawProRata | voteLateFee =>
      exact absurd found.symm broken
  | setProtocolFee | deposit | emergencyWithdraw | createCircle =>
      simp only [Command.operation]
      exact readObject_eq_error (by simpa [parts, readTerms] using found) broken
  | _ =>
      simp only [Command.operation]
      rw [readObject_eq_error (by simpa [parts, readToken] using found) broken]
      rfl

def notObject (body : Json) : Issue :=
  ⟨[], .invalidType, "Expected object, received " ++ Schema.typeName body⟩

theorem readObject_of_no_object {read : Json → Checked α}
    (noObject : ∀ members, body ≠ .object members) :
    readObject body read = .error (.ofIssues [notObject body]) := by
  cases body with
  | object members => exact absurd rfl (noObject members)
  | _ => rfl

/-- A body that is no object is refused as a whole, if any part of it is to be read. -/
theorem Command.operation_of_no_object (authority : Authority) (caller : Proof)
    (captured : List String) (reads : command.parts ≠ [])
    (noObject : ∀ members, body ≠ .object members) :
    command.operation authority caller captured body = .error (.ofIssues [notObject body]) := by
  cases command with
  | claimProtocol | adminAction | join | finalize | contribute | rollover | requestExit
  | proposeDissolution | voteDissolution | withdrawProRata | voteLateFee => exact absurd rfl reads
  | setProtocolFee | deposit | emergencyWithdraw | createCircle =>
      simp only [Command.operation, readObject_of_no_object noObject]
  | _ =>
      simp only [Command.operation, readObject_of_no_object noObject]
      rfl

/-- A part that is not admitted is reported, with all that is wrong with it if the body is an object
at all. -/
theorem Command.operation_of_issues (authority : Authority) (caller : Proof)
    (captured : List String) {part : Part} (mem : part ∈ command.parts)
    (broken : part.issues body ≠ []) :
    ∃ issues, issues ≠ [] ∧
      command.operation authority caller captured body = .error (.ofIssues issues) ∧
        ((∃ members, body = .object members) → part.issues body ⊆ issues) := by
  by_cases isObject : ∃ members, body = .object members
  · obtain ⟨members, rfl⟩ := isObject
    have listed : part.issues (.object members) ⊆
        command.parts.flatMap (·.issues (.object members)) :=
      fun issue wrong => List.mem_flatMap.2 ⟨part, mem, wrong⟩
    have some : command.parts.flatMap (·.issues (.object members)) ≠ [] := fun none =>
      broken (List.subset_nil.1 (none ▸ listed))
    exact ⟨_, some, operation_eq_error rfl some, fun _ => listed⟩
  · have refused := operation_of_no_object authority caller captured (List.ne_nil_of_mem mem)
      (not_exists.1 isObject)
    exact ⟨_, List.cons_ne_nil _ _, refused, fun given => absurd given isObject⟩

end

def refusedToken : Refusal :=
  .ofFailure (.request 401 "UNAUTHORIZED" "Counterparty token is not valid.")

/-- If something is refused, a schema reports what is wrong or the token of a second signer is
refused. -/
def Reports (outcome : Except Refusal α) : Prop :=
  ∀ refusal, outcome = .error refusal →
    refusal = refusedToken ∨ ∃ issues, refusal = .ofIssues issues

namespace Reports

theorem ok (a : α) : Reports (.ok a) := nofun

theorem bind {outcome : Except Refusal α} {next : α → Except Refusal β} (first : Reports outcome)
    (rest : ∀ a, Reports (next a)) : Reports (outcome >>= next) := by
  cases outcome with
  | ok a => exact rest a
  | error refusal =>
      rintro _ ⟨⟩
      exact first refusal rfl

theorem conforming (read : Checked α) : Reports (Http.conforming read) := by
  cases read with
  | ok a => exact nofun
  | error issues =>
      rintro _ ⟨⟩
      exact .inr ⟨issues, rfl⟩

theorem counterparty (authority : Authority) (token : String) :
    Reports (refusing (Http.counterparty authority token)) := by
  rw [Http.counterparty]
  cases authority.parse? token with
  | some proof => exact nofun
  | none =>
      rintro _ ⟨⟩
      exact .inl rfl

/-- Nothing that a path or a body gives is refused in any other way. -/
theorem operation (command : Command) (authority : Authority) (caller : Proof)
    (captured : List String) (body : Json) :
    Reports (command.operation authority caller captured body) := by
  cases command with
  | claimProtocol | adminAction => exact .ok _
  | setProtocolFee | deposit | emergencyWithdraw | createCircle => exact .conforming _
  | join | finalize | contribute | rollover | requestExit | proposeDissolution | voteDissolution
  | withdrawProRata | voteLateFee => exact (conforming _).bind fun _ => .ok _
  | processPayout | transferAdmin | kick | swapByAdmin | eject | coverMember | proposeLateFee =>
      exact (conforming _).bind fun _ => (conforming _).bind fun _ => .ok _
  | swap | fillVacancy =>
      exact (conforming _).bind fun _ => (counterparty _ _).bind fun _ =>
        (conforming _).bind fun _ => .ok _

end Reports

end Http

end SavingsCircle
