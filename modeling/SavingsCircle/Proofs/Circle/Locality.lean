import SavingsCircle.Proofs.Circle.Isolation

/-!
# What a call on a circle depends on

A call on a circle reads the circle, the records of its members and the protocol's configuration,
and nothing else of the books. Two books that agree on these (`Books.AgreesOn`) may have nothing
else in common: the checks of the call go the same way in both, one by one (`Alike`), and where
they let it through it makes the same change to the circle and asks for the same transfers.
-/

namespace SavingsCircle

/-- Two chains of checks that end alike: with the same failure, or with results that are related. -/
inductive Alike {α β : Type} (R : α → β → Prop) : Except Failure α → Except Failure β → Prop where
  | ok {a b} (related : R a b) : Alike R (.ok a) (.ok b)
  | error {failure} : Alike R (.error failure) (.error failure)

namespace Alike

variable {α β γ δ : Type} {R : α → β → Prop} {S : γ → δ → Prop}

theorem bind {first : Except Failure α} {other : Except Failure β} {next : α → Except Failure γ}
    {otherNext : β → Except Failure δ} (alike : Alike R first other)
    (goes : ∀ a b, R a b → Alike S (next a) (otherNext b)) :
    Alike S (first >>= next) (other >>= otherNext) := by
  cases alike with
  | ok related => exact goes _ _ related
  | error => exact .error

theorem check {first : Except Failure α} {next : α → Except Failure γ}
    {otherNext : α → Except Failure δ}
    (goes : ∀ a, first = .ok a → Alike S (next a) (otherNext a)) :
    Alike S (first >>= next) (first >>= otherNext) := by
  cases first with
  | error _ => exact .error
  | ok a => exact goes a rfl

theorem ends {first : Except Failure α} {other : Except Failure β} (alike : Alike R first other) :
    (∃ failure, first = .error failure ∧ other = .error failure) ∨
      ∃ a b, first = .ok a ∧ other = .ok b ∧ R a b := by
  cases alike with
  | ok related => exact .inr ⟨_, _, rfl, rfl, related⟩
  | error => exact .inl ⟨_, rfl, rfl⟩

end Alike

namespace Records

def SameOf (number : Nat) (records others : Records) : Prop :=
  records.select (number == ·) = others.select (number == ·)

namespace SameOf

variable {number : Nat} {records others : Records}

theorem record? (same : SameOf number records others) (address : Address) :
    records.record? number address = others.record? number address := by
  have kept : (number == number) = true := beq_self_eq_true number
  rw [← record?_select kept address, same, record?_select kept address]

theorem record (same : SameOf number records others) (address : Address) :
    records.record number address = others.record number address := by
  rw [Records.record, Records.record, same.record?]

theorem update (same : SameOf number records others) {address : Address}
    {change : MemberRecord → MemberRecord}
    (keeps : ∀ record, record.isOf number address = true → (change record).circle = number) :
    SameOf number (records.update number address change)
      (others.update number address change) := by
  rw [SameOf, select_update keeps, select_update keeps, same]

theorem remove (same : SameOf number records others) (address : Address) :
    SameOf number (records.remove number address) (others.remove number address) := by
  rw [SameOf, select_remove, select_remove, same]

theorem reindex (same : SameOf number records others) (directory : Directory) :
    SameOf number (records.reindex number directory) (others.reindex number directory) := by
  rw [SameOf, select_reindex, select_reindex, same]

theorem enroll (same : SameOf number records others) (address : Address) (index : Nat)
    (now : Number) :
    SameOf number (records.enroll number address index now)
      (others.enroll number address index now) := by
  have kept : (number == number) = true := beq_self_eq_true number
  rw [SameOf, select_enroll kept, select_enroll kept, same]

end SameOf

end Records

namespace Circle

variable {circle : Circle} {records others : Records}

theorem isEjected_of_same (same : Records.SameOf circle.id records others) :
    circle.isEjected records = circle.isEjected others := by
  funext address
  rw [isEjected, isEjected, statusOf, statusOf, same.record?]

theorem activeSeat?_of_same (same : Records.SameOf circle.id records others) (address : Address) :
    circle.activeSeat? records address = circle.activeSeat? others address := by
  rw [activeSeat?, activeSeat?, isEjected_of_same same]

theorem isVoter_of_same (same : Records.SameOf circle.id records others) :
    circle.isVoter records = circle.isVoter others := by
  funext address
  rw [isVoter, isVoter, isEjected_of_same same]

theorem isCycleComplete_of_same (same : Records.SameOf circle.id records others) :
    circle.isCycleComplete records = circle.isCycleComplete others := by
  rw [isCycleComplete, isCycleComplete, isEjected_of_same same]

theorem settle_of_same {number : Nat} (same : Records.SameOf number records others)
    (own : circle.id = number) : circle.settle records = circle.settle others := by
  subst own
  have dropped : circle.dropVotes records = circle.dropVotes others := by
    rw [dropVotes, dropVotes, isVoter_of_same same]
  have count : (circle.dropVotes others).voterCount records =
      (circle.dropVotes others).voterCount others := by
    have same : Records.SameOf (circle.dropVotes others).id records others := same
    rw [voterCount, voterCount, isEjected_of_same same]
  simp only [settle, dropped, count]

end Circle

/-- A receipt that reads an answer from what belongs to a circle, if from the books at all. -/
inductive Receipt.IsOn (number : Nat) : Receipt → Prop where
  | settled {answer} : IsOn number (.settled answer)
  | enrolled {address} : IsOn number (.enrolled number address)

/-- Changes that do the same to a circle: only the records of other circles may differ. -/
structure Change.Matches (number : Nat) (change other : Change) : Prop where
  records : Records.SameOf number change.records other.records
  rest : { change with records := [], departed := [] } =
    { other with records := [], departed := [] }
  isOn : change.receipt.IsOn number

/-- Books that agree on a circle, on the records of its members and on the configuration. -/
structure Books.AgreesOn (number : Nat) (books other : Books) : Prop where
  circle : books.circle? number = other.circle? number
  records : Records.SameOf number books.records other.records
  protocol : books.protocol = other.protocol

/-- Effects that are the same for a circle. -/
structure Effect.Matches (number : Nat) (effect other : Effect) : Prop where
  books : effect.books.AgreesOn number other.books
  draws : effect.draws = other.draws
  events : effect.events = other.events
  transfers : effect.transfers = other.transfers
  answer : effect.receipt.read? effect.books = other.receipt.read? other.books

theorem Books.id_of_circle {books : Books} {id : Number} {circle : Circle} {number : Nat}
    (found : books.circle id = .ok circle) (isNumber : id.nat? = some number) :
    circle.id = number :=
  Option.some.inj ((nat?_of_circle found).symm.trans isNumber)

namespace Books.AgreesOn

variable {host : Host} {moment : Moment} {books other : Books} {number : Nat} {id : Number}
variable {circle : Circle}

theorem found (agrees : books.AgreesOn number other) (isNumber : id.nat? = some number) :
    books.circle id = other.circle id := by
  rw [Books.circle, Books.circle, isNumber, Option.bind_some, Option.bind_some, agrees.circle]

theorem read {α : Type} (agrees : books.AgreesOn number other) (isNumber : id.nat? = some number)
    {read otherRead : Circle → Except Failure α}
    (same : ∀ circle, books.AgreesOn circle.id other → read circle = otherRead circle) :
    (books.circle id >>= read) = (other.circle id >>= otherRead) := by
  rw [agrees.found isNumber]
  cases found : other.circle id with
  | error _ => rfl
  | ok circle =>
      obtain rfl : circle.id = number := id_of_circle found isNumber
      exact same circle agrees

theorem membersOf (agrees : books.AgreesOn number other) (isNumber : id.nat? = some number) :
    books.membersOf id = other.membersOf id :=
  agrees.read isNumber fun _ agrees => by simp only [agrees.records.record]

theorem memberOf (agrees : books.AgreesOn number other) (isNumber : id.nat? = some number)
    (member : Address) : books.memberOf id member = other.memberOf id member :=
  agrees.read isNumber fun _ agrees => agrees.records.record member

theorem contributionsOf (agrees : books.AgreesOn number other)
    (isNumber : id.nat? = some number) (member : Address) :
    books.contributionsOf id member = other.contributionsOf id member :=
  agrees.read isNumber fun _ _ => rfl

theorem feeRate (agrees : books.AgreesOn number other) : books.feeRate = other.feeRate := by
  rw [Books.feeRate, Books.feeRate, agrees.protocol]

theorem treasury (agrees : books.AgreesOn number other) : books.treasury = other.treasury := by
  rw [Books.treasury, Books.treasury, agrees.protocol]

/-- Books that agree still do after the same change to the circle. -/
theorem install (agrees : books.AgreesOn number other) {change otherChange : Change}
    (same : change.Matches number otherChange) :
    (books.install change).Matches number (other.install otherChange) := by
  have circle : change.circle = otherChange.circle := congrArg (·.circle) same.rest
  have receipt : change.receipt = otherChange.receipt := congrArg (·.receipt) same.rest
  have replaced : (books.replaceCircle change.circle).circle? number =
      (other.replaceCircle otherChange.circle).circle? number := by
    rw [circle?_replaceCircle, circle?_replaceCircle, agrees.circle, circle]
  have answers : change.receipt.read? (books.install change).books =
      otherChange.receipt.read? (other.install otherChange).books := by
    -- What is read from the books is the record of a member of this circle.
    have isOn := same.isOn
    rw [← receipt]
    generalize change.receipt = asked at isOn
    cases isOn with
    | settled => rfl
    | enrolled => exact congrArg (Option.map Answer.member) (same.records.record? _)
  exact ⟨⟨replaced, same.records, agrees.protocol⟩, congrArg (·.draws) same.rest,
    congrArg (·.events) same.rest, congrArg (·.transfers) same.rest, answers⟩

/-- A call by the administrator goes alike if what it does to the circle does. -/
theorem byAdmin (agrees : books.AgreesOn number other) (isNumber : id.nat? = some number)
    {proof : Option Proof} {body otherBody : Circle → Except Failure Change}
    (goes : ∀ circle, books.AgreesOn circle.id other →
      Alike (Change.Matches circle.id) (body circle) (otherBody circle)) :
    Alike (Effect.Matches number) (books.byAdmin host moment proof id body)
      (other.byAdmin host moment proof id otherBody) := by
  rw [Books.byAdmin, Books.byAdmin, agrees.found isNumber]
  refine .check fun circle found => .check fun _ _ => .check fun _ _ => ?_
  obtain rfl : circle.id = number := id_of_circle found isNumber
  refine (goes circle agrees).bind fun change otherChange same => .ok ?_
  -- Agreement does not speak of the emergency lock, which the call restarts in both.
  have active : { books with lastActiveAt := moment.now }.AgreesOn circle.id
      { other with lastActiveAt := moment.now } :=
    ⟨agrees.circle, agrees.records, agrees.protocol⟩
  exact active.install same

theorem byMember (agrees : books.AgreesOn number other) (isNumber : id.nat? = some number)
    {proof : Option Proof} {body otherBody : Address → Circle → Except Failure Change}
    (goes : ∀ caller circle, books.AgreesOn circle.id other →
      Alike (Change.Matches circle.id) (body caller circle) (otherBody caller circle)) :
    Alike (Effect.Matches number) (books.byMember host proof id body)
      (other.byMember host proof id otherBody) := by
  rw [Books.byMember, Books.byMember, agrees.found isNumber]
  refine .check fun caller _ => .check fun circle found => ?_
  obtain rfl : circle.id = number := id_of_circle found isNumber
  exact (goes caller circle agrees).bind fun change otherChange same => .ok (agrees.install same)

theorem answering (agrees : books.AgreesOn circle.id other) (next : Circle) (answer : Answer) :
    (next.answering books.records moment answer).Matches circle.id
      (next.answering other.records moment answer) :=
  ⟨agrees.records, rfl, .settled⟩

theorem afterVote (agrees : books.AgreesOn circle.id other) {voted : Circle}
    (keeps : voted.id = circle.id) (answer : Circle → Answer) :
    (voted.afterVote books.records moment answer).Matches circle.id
      (voted.afterVote other.records moment answer) := by
  rw [Circle.afterVote, Circle.afterVote, Circle.settle_of_same agrees.records keeps]
  exact ⟨agrees.records, rfl, .settled⟩

/-! ## Calls

In each call the checks that look at records are first put in terms of the same records; then the
checks are gone through one by one, and the records that the call leaves are the same again. -/

theorem transferAdmin (agrees : books.AgreesOn number other) (isNumber : id.nat? = some number)
    (proof : Option Proof) (admin : Option Address) :
    Alike (Effect.Matches number) (books.transferAdmin host moment proof id admin)
      (other.transferAdmin host moment proof id admin) := by
  refine agrees.byAdmin isNumber fun circle agrees => ?_
  refine .check fun _ _ => .check fun _ _ => .ok ?_
  exact agrees.answering _ _

theorem join (agrees : books.AgreesOn number other) (isNumber : id.nat? = some number)
    (proof : Option Proof) :
    Alike (Effect.Matches number) (books.join host moment proof id)
      (other.join host moment proof id) := by
  refine agrees.byMember isNumber fun member circle agrees => ?_
  refine .check fun _ _ => .check fun _ _ => .check fun _ _ => .check fun _ _ => .ok ?_
  exact ⟨agrees.records.enroll _ _ _, rfl, .enrolled⟩

theorem kick (agrees : books.AgreesOn number other) (isNumber : id.nat? = some number)
    (proof : Option Proof) (member : Address) (penalty : Number) :
    Alike (Effect.Matches number) (books.kick host moment proof id member penalty)
      (other.kick host moment proof id member penalty) := by
  rw [Books.kick, Books.kick, agrees.treasury]
  refine agrees.byAdmin isNumber fun circle agrees => ?_
  refine .check fun _ _ => .check fun penalty _ => .check fun found _ => ?_
  obtain ⟨position, seat⟩ := found
  refine .check fun _ _ => .check fun _ _ => .check fun _ _ => ?_
  have records := (agrees.records.reindex (circle.removeSeat position).directory).remove member
  dsimp only
  rw [Circle.settle_of_same records]
  · exact .ok ⟨records, rfl, .settled⟩
  · rfl

/-- A swap is made alike, whoever asks for it. -/
theorem swapIn (agrees : books.AgreesOn circle.id other) (former successor : Address) :
    Alike (Change.Matches circle.id) (books.swapIn moment circle former successor)
      (other.swapIn moment circle former successor) := by
  rw [Books.swapIn, Books.swapIn, agrees.records.record]
  refine .check fun _ _ => .check fun position _ => ?_
  split
  · exact .ok (agrees.answering _ _)
  · refine .check fun _ _ => .check fun record _ => ?_
    have enrolled := (agrees.records.remove former).enroll successor position moment.now
    refine .ok ⟨.reindex (.update enrolled ?_) _, rfl, .settled⟩
    exact fun _ => MemberRecord.circle_of_isOf

theorem swap (agrees : books.AgreesOn number other) (isNumber : id.nat? = some number)
    (formerProof successorProof : Option Proof) :
    Alike (Effect.Matches number) (books.swap host moment formerProof successorProof id)
      (other.swap host moment formerProof successorProof id) := by
  rw [Books.swap, Books.swap, agrees.found isNumber]
  refine .check fun former _ => .check fun successor _ => .check fun circle found => ?_
  obtain rfl : circle.id = number := id_of_circle found isNumber
  exact (agrees.swapIn former successor).bind fun _ _ same => .ok (agrees.install same)

theorem swapByAdmin (agrees : books.AgreesOn number other) (isNumber : id.nat? = some number)
    (proof : Option Proof) (former successor : Address) :
    Alike (Effect.Matches number) (books.swapByAdmin host moment proof id former successor)
      (other.swapByAdmin host moment proof id former successor) :=
  agrees.byAdmin isNumber fun _ agrees => agrees.swapIn former successor

theorem eject (agrees : books.AgreesOn number other) (isNumber : id.nat? = some number)
    (proof : Option Proof) (member : Address) :
    Alike (Effect.Matches number) (books.eject host moment proof id member)
      (other.eject host moment proof id member) := by
  refine agrees.byAdmin isNumber fun circle agrees => ?_
  rw [agrees.records.record]
  refine .check fun _ _ => .check fun _ _ => .check fun record recorded => .check fun _ _ => ?_
  have own := (Records.isOf_of_record? (demandSome_eq_ok.1 recorded)).1
  have records : Records.SameOf circle.id
      (books.records.update circle.id member fun _ => { record with status := .ejected })
      (other.records.update circle.id member fun _ => { record with status := .ejected }) :=
    agrees.records.update fun _ _ => own
  dsimp only
  rw [Circle.settle_of_same records rfl]
  exact .ok ⟨records, rfl, .settled⟩

theorem requestExit (agrees : books.AgreesOn number other) (isNumber : id.nat? = some number)
    (proof : Option Proof) :
    Alike (Effect.Matches number) (books.requestExit host moment proof id)
      (other.requestExit host moment proof id) := by
  refine agrees.byMember isNumber fun member circle agrees => ?_
  rw [agrees.records.record]
  refine .check fun _ _ => .check fun _ _ => .check fun record recorded => .check fun _ _ => .ok ?_
  have own := (Records.isOf_of_record? (demandSome_eq_ok.1 recorded)).1
  exact ⟨agrees.records.update fun _ _ => own, rfl, .settled⟩

theorem fillVacancy (agrees : books.AgreesOn number other) (isNumber : id.nat? = some number)
    (proof successorProof : Option Proof) (exiting : Address) :
    Alike (Effect.Matches number)
      (books.fillVacancy host moment proof successorProof id exiting)
      (other.fillVacancy host moment proof successorProof id exiting) := by
  refine agrees.byAdmin isNumber fun circle agrees => ?_
  rw [agrees.records.record]
  refine .check fun successor _ => .check fun _ _ => .check fun found _ => ?_
  obtain ⟨position, seat⟩ := found
  refine .check fun _ _ => .check fun _ _ => .check fun _ _ => .check fun _ _ => ?_
  have ejected := agrees.records.update fun record (own : record.isOf circle.id exiting = true) =>
    show { record with status := Status.ejected }.circle = circle.id from
      MemberRecord.circle_of_isOf own
  have records := (ejected.reindex (circle.vacateSeat position exiting successor).directory).enroll
    successor position moment.now
  dsimp only
  rw [Circle.settle_of_same records]
  · exact .ok ⟨records, rfl, .enrolled⟩
  · rfl

theorem finalize (agrees : books.AgreesOn number other) (isNumber : id.nat? = some number)
    (proof : Option Proof) :
    Alike (Effect.Matches number) (books.finalize host moment proof id)
      (other.finalize host moment proof id) := by
  refine agrees.byAdmin isNumber fun circle agrees => ?_
  refine .check fun _ _ => ?_
  split
  · exact .ok (agrees.answering _ _)
  · refine .check fun _ _ => ?_
    split
    exact .check fun _ _ => .ok ⟨agrees.records, rfl, .settled⟩

theorem processPayout (agrees : books.AgreesOn number other) (isNumber : id.nat? = some number)
    (proof : Option Proof) (recipient : Address) :
    Alike (Effect.Matches number) (books.processPayout host moment proof id recipient)
      (other.processPayout host moment proof id recipient) := by
  rw [Books.processPayout, Books.processPayout, agrees.treasury, agrees.feeRate]
  refine agrees.byAdmin isNumber fun circle agrees => ?_
  rw [Circle.activeSeat?_of_same agrees.records]
  refine .check fun _ _ => .check fun _ _ => .check fun found _ => ?_
  obtain ⟨position, seat⟩ := found
  refine .check fun _ _ => .check fun _ _ => .check fun _ _ => ?_
  have complete : (circle.paySeat position).isCycleComplete books.records =
      (circle.paySeat position).isCycleComplete other.records :=
    Circle.isCycleComplete_of_same agrees.records
  dsimp only
  rw [complete]
  exact .ok ⟨agrees.records, rfl, .settled⟩

theorem rollover (agrees : books.AgreesOn number other) (isNumber : id.nat? = some number)
    (proof : Option Proof) :
    Alike (Effect.Matches number) (books.rollover host moment proof id)
      (other.rollover host moment proof id) := by
  refine agrees.byAdmin isNumber fun circle agrees => ?_
  rw [Circle.isCycleComplete_of_same agrees.records]
  exact .check fun _ _ => .check fun _ _ => .ok ⟨agrees.records, rfl, .settled⟩

theorem contribute (agrees : books.AgreesOn number other) (isNumber : id.nat? = some number)
    (proof : Option Proof) :
    Alike (Effect.Matches number) (books.contribute host moment proof id)
      (other.contribute host moment proof id) := by
  refine agrees.byMember isNumber fun member circle agrees => ?_
  rw [Circle.activeSeat?_of_same agrees.records, agrees.records.record]
  refine .check fun _ _ => .check fun found _ => ?_
  obtain ⟨position, seat⟩ := found
  refine .check fun _ _ => .check fun _ _ => .ok ?_
  exact ⟨agrees.records.update fun _ => MemberRecord.circle_of_isOf, rfl, .settled⟩

theorem coverMember (agrees : books.AgreesOn number other) (isNumber : id.nat? = some number)
    (proof : Option Proof) (member : Address) :
    Alike (Effect.Matches number) (books.coverMember host moment proof id member)
      (other.coverMember host moment proof id member) := by
  refine agrees.byAdmin isNumber fun circle agrees => ?_
  rw [Circle.activeSeat?_of_same agrees.records]
  refine .check fun _ _ => .check fun found _ => ?_
  obtain ⟨position, seat⟩ := found
  exact .check fun _ _ => .check fun _ _ => .check fun _ _ => .ok ⟨agrees.records, rfl, .settled⟩

theorem proposeDissolution (agrees : books.AgreesOn number other)
    (isNumber : id.nat? = some number) (proof : Option Proof) :
    Alike (Effect.Matches number) (books.proposeDissolution host moment proof id)
      (other.proposeDissolution host moment proof id) := by
  refine agrees.byMember isNumber fun member circle agrees => ?_
  rw [Circle.demandVoter, Circle.isVoter_of_same agrees.records]
  refine .check fun _ _ => .check fun _ _ => .ok (agrees.afterVote ?_ _)
  rfl

theorem voteDissolution (agrees : books.AgreesOn number other) (isNumber : id.nat? = some number)
    (proof : Option Proof) :
    Alike (Effect.Matches number) (books.voteDissolution host moment proof id)
      (other.voteDissolution host moment proof id) := by
  refine agrees.byMember isNumber fun member circle agrees => ?_
  rw [Circle.demandVoter, Circle.isVoter_of_same agrees.records]
  refine .check fun _ _ => .check fun _ _ => .check fun _ _ => .ok (agrees.afterVote ?_ _)
  rfl

theorem proposeLateFee (agrees : books.AgreesOn number other) (isNumber : id.nat? = some number)
    (proof : Option Proof) (rate : Number) :
    Alike (Effect.Matches number) (books.proposeLateFee host moment proof id rate)
      (other.proposeLateFee host moment proof id rate) := by
  refine agrees.byMember isNumber fun member circle agrees => ?_
  rw [Circle.demandVoter, Circle.isVoter_of_same agrees.records]
  refine .check fun _ _ => .check fun _ _ => .check fun _ _ => .ok (agrees.afterVote ?_ _)
  rfl

theorem voteLateFee (agrees : books.AgreesOn number other) (isNumber : id.nat? = some number)
    (proof : Option Proof) :
    Alike (Effect.Matches number) (books.voteLateFee host moment proof id)
      (other.voteLateFee host moment proof id) := by
  refine agrees.byMember isNumber fun member circle agrees => ?_
  rw [Circle.demandVoter, Circle.isVoter_of_same agrees.records]
  refine .check fun _ _ => .check fun _ _ => .check fun _ _ => .check fun _ _ => ?_
  refine .ok (agrees.afterVote ?_ _)
  rfl

theorem withdrawProRata (agrees : books.AgreesOn number other) (isNumber : id.nat? = some number)
    (proof : Option Proof) :
    Alike (Effect.Matches number) (books.withdrawProRata host moment proof id)
      (other.withdrawProRata host moment proof id) := by
  refine agrees.byMember isNumber fun member circle agrees => ?_
  refine .check fun _ _ => .check fun found _ => ?_
  obtain ⟨position, seat⟩ := found
  dsimp only
  split
  · exact .ok (agrees.answering _ _)
  · exact .check fun _ _ => .ok ⟨agrees.records, rfl, .settled⟩

end Books.AgreesOn

/-- A call on a circle goes alike on books that agree on the circle. -/
theorem Operation.perform_alike {operation : Operation} {number : Nat} {books other : Books}
    (isOn : operation.isOn number = true) (agrees : books.AgreesOn number other) (host : Host)
    (moment : Moment) :
    Alike (Effect.Matches number) (operation.perform host moment books)
      (operation.perform host moment other) := by
  have isNumber : operation.circleId?.bind (·.nat?) = some number := beq_iff_eq.1 isOn
  cases operation with
  | claimProtocol | adminAction | setProtocolFee | createCircle | deposit | emergencyWithdraw =>
      cases isNumber
  | transferAdmin => exact agrees.transferAdmin isNumber _ _
  | join => exact agrees.join isNumber _
  | kick => exact agrees.kick isNumber _ _ _
  | swap => exact agrees.swap isNumber _ _
  | swapByAdmin => exact agrees.swapByAdmin isNumber _ _ _
  | eject => exact agrees.eject isNumber _ _
  | requestExit => exact agrees.requestExit isNumber _
  | fillVacancy => exact agrees.fillVacancy isNumber _ _ _
  | finalize => exact agrees.finalize isNumber _
  | processPayout => exact agrees.processPayout isNumber _ _
  | rollover => exact agrees.rollover isNumber _
  | contribute => exact agrees.contribute isNumber _
  | coverMember => exact agrees.coverMember isNumber _ _
  | proposeDissolution => exact agrees.proposeDissolution isNumber _
  | voteDissolution => exact agrees.voteDissolution isNumber _
  | proposeLateFee => exact agrees.proposeLateFee isNumber _ _
  | voteLateFee => exact agrees.voteLateFee isNumber _
  | withdrawProRata => exact agrees.withdrawProRata isNumber _

def Query.isOn (query : Query) (number : Nat) : Bool :=
  match query with
  | .circle id | .members id | .payoutQueue id | .cycleInfo id | .payoutStatus id | .member id _
  | .contributions id _ => id.nat? == some number
  | _ => false

/-- A query about a circle is answered alike. -/
theorem Query.answer_alike {query : Query} {number : Nat} {world other : World}
    (isOn : query.isOn number = true) (agrees : world.books.AgreesOn number other.books) :
    query.answer world = query.answer other := by
  cases query with
  | protocol | feeRate | treasury | lastActiveAt | circles | snapshot | deposited | balance
  | isChainValid | events => cases isOn
  | circle | payoutQueue | cycleInfo | payoutStatus =>
      simp only [Query.answer, agrees.found (beq_iff_eq.1 isOn)]
  | members => simp only [Query.answer, agrees.membersOf (beq_iff_eq.1 isOn)]
  | member => simp only [Query.answer, agrees.memberOf (beq_iff_eq.1 isOn)]
  | contributions => simp only [Query.answer, agrees.contributionsOf (beq_iff_eq.1 isOn)]

end SavingsCircle
