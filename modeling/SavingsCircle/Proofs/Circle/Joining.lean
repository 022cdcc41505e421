import SavingsCircle.Proofs.Circle.Standing
import SavingsCircle.Proofs.Circle.Status
import SavingsCircle.Proofs.Run.Alone

/-!
# Joining a circle

Whoever joins a circle is entered in its directory, and everything that depends on being a member
goes by the directory: the calls of members, and whether someone can join. The reserved address
cannot be entered. Joining therefore makes everyone a member but the one who goes by it, who has a
seat then and remains a stranger (`joining_registers_unless_reserved`).

An address that has joined keeps its one seat until an event takes it off the roster: while the
directory finds it, nobody can join by it or succeed to a seat under it.
-/

namespace SavingsCircle

namespace Operation

/-- The calls by which someone takes part in a circle as its member. -/
def actsAsMember : Operation → Bool
  | .contribute .. | .requestExit .. | .proposeDissolution .. | .voteDissolution ..
  | .proposeLateFee .. | .voteLateFee .. => true
  | _ => false

/-- The one of them that a member who is put out can still make. -/
def isExit : Operation → Bool
  | .requestExit .. => true
  | _ => false

end Operation

namespace Circle

variable {circle : Circle} {records : Records} {address : Address}

theorem demandOpen_eq_error {failure : Failure} :
    circle.demandOpen = .error failure ↔
      circle.isDissolved = true ∧ .ofKind .alreadyDissolved = failure := by
  simp [demandOpen, demand_eq_error]

/-- A member takes part unless the directory does not find the member or the member is put out. -/
theorem Indexed.activeSeat?_eq_none_iff (indexed : circle.Indexed) :
    circle.activeSeat? records address = none ↔
      circle.position? address = none ∨ circle.isEjected records address = true := by
  rw [activeSeat?]
  by_cases out : circle.isEjected records address = true
  · simp [out]
  · rw [if_neg out]
    cases placed : circle.position? address with
    | none => simp [seat?, placed]
    | some position =>
        obtain ⟨_, _, seated⟩ := indexed.exists_seat? (by rw [placed]; rfl)
        simp [seated, out]

theorem isVoter_eq_false_iff :
    circle.isVoter records address = false ↔
      circle.position? address = none ∨ circle.isEjected records address = true := by
  cases placed : circle.position? address <;> simp [isVoter, placed]

/-- Why someone who sits in a circle cannot join it. -/
def rejoinFailure (circle : Circle) (host : Host) (proof : Proof) : Failure :=
  if host.authority.verify proof = false then
    .circle .unauthorized "Authorization proof was rejected."
  else if circle.isDissolved then .ofKind .alreadyDissolved
  else .ofKind .alreadyJoined

end Circle

section

variable {host : Host} {moment : Moment} {books : Books} {circle : Circle} {id : Number}
variable {member : Address}

theorem byMember_eq_error {proof : Option Proof} {body : Address → Circle → Except Failure Change}
    {failure : Failure} (accepted : host.authorize proof = .ok member)
    (found : books.circle id = .ok circle) :
    books.byMember host proof id body = .error failure ↔ body member circle = .error failure := by
  rw [Books.byMember, accepted, found]
  change (body member circle >>= _) = _ ↔ _
  cases body member circle <;> simp [bind, Except.bind, pure, Except.pure]

/-- Nobody is taken for a stranger by a call whose only check of the caller is passed. -/
theorem checked_eq_stranger_iff {α β : Type} {check : Except Failure α}
    {rest : α → Except Failure β} (others : ∀ a, rest a ≠ .error (.ofKind .notMember)) :
    (circle.demandOpen >>= fun _ => check >>= rest) = .error (.ofKind .notMember) ↔
      circle.isDissolved = false ∧ check = .error (.ofKind .notMember) := by
  have differ : Failure.ofKind .alreadyDissolved ≠ .ofKind .notMember := by decide
  simp only [bind_eq_error, Circle.demandOpen_eq_error, demandOpen_eq_ok]
  simp [others, differ]

/-- Someone who would act as a member is taken for a stranger exactly when the directory does not
find them, or when they are put out and do not ask to leave. -/
theorem Operation.refused_as_stranger_iff {operation : Operation} (indexed : circle.Indexed)
    (acts : operation.actsAsMember = true) (named : operation.circleId? = some id)
    (accepted : host.authorize operation.proof = .ok member)
    (found : books.circle id = .ok circle) :
    operation.perform host moment books = .error (.ofKind .notMember) ↔
      circle.isDissolved = false ∧
        (circle.position? member = none ∨
          operation.isExit = false ∧ circle.isEjected books.records member = true) := by
  have voting : circle.demandVoter books.records member = .error (.ofKind .notMember) ↔
      circle.position? member = none ∨ circle.isEjected books.records member = true := by
    simp [Circle.demandVoter, demand_eq_error, Circle.isVoter_eq_false_iff]
  cases operation with
  | contribute =>
      obtain rfl := Option.some.inj named
      refine (byMember_eq_error accepted found).trans ?_
      rw [checked_eq_stranger_iff]
      · simp [demandSome_eq_error, indexed.activeSeat?_eq_none_iff, isExit]
      · simp [bind_eq_error, demand_eq_error, demandSome_eq_error, Records.record, Failure.ofKind,
          pure, Except.pure]
  | requestExit =>
      obtain rfl := Option.some.inj named
      refine (byMember_eq_error accepted found).trans ?_
      rw [checked_eq_stranger_iff]
      · simp [demand_eq_error, isExit]
      · simp [bind_eq_error, demand_eq_error, demandSome_eq_error, Records.record, Failure.ofKind,
          pure, Except.pure]
  | proposeDissolution | voteDissolution | proposeLateFee | voteLateFee =>
      obtain rfl := Option.some.inj named
      refine (byMember_eq_error accepted found).trans ?_
      rw [checked_eq_stranger_iff]
      · simp [voting, isExit]
      · simp [bind_eq_error, demand_eq_error, demandRate, demandSome_eq_error, Failure.ofKind,
          pure, Except.pure]
  | _ => simp [actsAsMember] at acts

/-- Nobody can join whom the directory finds. -/
theorem join_eq_rejoinFailure {proof : Proof} (theirs : proof.principal = member)
    (seated : (circle.position? member).isSome) (found : books.circle id = .ok circle) :
    (Operation.join (some proof) id).perform host moment books =
      .error (circle.rejoinFailure host proof) := by
  subst theirs
  by_cases genuine : host.authority.verify proof = true
  · have accepted : host.authorize (some proof) = .ok proof.principal := by
      simp [Host.authorize, demandSome, demand, genuine, bind, Except.bind, pure, Except.pure]
    refine (byMember_eq_error accepted found).2 ?_
    simp only [bind_eq_error, Circle.demandOpen_eq_error, demandOpen_eq_ok, demand_eq_error,
      Circle.rejoinFailure]
    have present : (circle.position? proof.principal).isNone = false := by
      rw [← Option.not_isSome, seated]
      rfl
    cases dissolved : circle.isDissolved <;> simp [genuine, present]
  · have refused : host.authorize (some proof) =
        .error (.circle .unauthorized "Authorization proof was rejected.") := by
      simp [Host.authorize, demandSome, demand, genuine, bind, Except.bind]
    have forged : host.authority.verify proof = false := Bool.eq_false_iff.2 genuine
    rw [Operation.perform, Books.join, Books.byMember, refused, Circle.rejoinFailure, if_pos forged]
    rfl

end

/-- Whether an event takes an address off the roster: it is removed, or someone else is put in its
place. -/
def Event.unseats (address : Address) : Event → Bool
  | .kicked _ member _ _ => member = address
  | .memberSwapped _ former _ => former = address
  | .vacancyFilled _ exiting _ _ => exiting = address
  | _ => false

def Event.enlists (address : Address) (listed : Bool) : Event → Bool
  | .memberJoined _ member => listed || member = address
  | .kicked _ member _ _ => listed && member ≠ address
  | .memberSwapped _ former _ => listed && former ≠ address
  | .vacancyFilled _ exiting _ _ => listed && exiting ≠ address
  | _ => listed

theorem Event.enlists_of_stays {address : Address} {event : Event}
    (stays : event.unseats address = false) : event.enlists address true = true := by
  cases event with
  | kicked | memberSwapped | vacancyFilled =>
      simpa [Event.enlists, Event.unseats] using stays
  | _ => rfl

/-- Whether an address has joined a circle with the given history and stayed on its roster. -/
def isEnlisted (address : Address) (past : List Event) : Bool :=
  past.foldl (Event.enlists address) false

section

variable {address : Address} {past : List Event}

theorem isEnlisted_append (address : Address) (past recent : List Event) :
    isEnlisted address (past ++ recent) =
      recent.foldl (Event.enlists address) (isEnlisted address past) :=
  List.foldl_append

theorem isEnlisted_decisions {circle : Circle} {records : Records} (address : Address)
    (past more : List Event) :
    isEnlisted address (past ++ ((circle.settle records).2 ++ more)) =
      isEnlisted address (past ++ more) := by
  rw [isEnlisted_append, isEnlisted_append]
  exact circle.foldl_settle records _ more fun _ _ decision => by cases decision <;> rfl

/-- Whoever has joined stays enlisted until an event takes them off the roster. -/
theorem isEnlisted_of_join {id : Nat} {front back : List Event}
    (stays : ∀ event ∈ back, event.unseats address = false) :
    isEnlisted address (front ++ .memberJoined id address :: back) = true := by
  have joined : isEnlisted address (front ++ [.memberJoined id address]) = true := by
    simp [isEnlisted_append, Event.enlists]
  rw [List.append_cons, isEnlisted_append, joined]
  induction back with
  | nil => rfl
  | cons event back ih =>
      rw [List.forall_mem_cons] at stays
      rw [List.foldl_cons, Event.enlists_of_stays stays.1]
      exact ih stays.2

end

namespace Circle

/-- Everyone who has joined and stayed, but for the reserved address, has one seat. -/
def SeatsOnce (circle : Circle) (past : List Event) : Prop :=
  ∀ address ≠ Directory.reserved, isEnlisted address past = true →
    circle.members.count address = 1

theorem count_members (circle : Circle) (address : Address) :
    circle.members.count address = (circle.seatsOf address).length := by
  rw [members, seatsOf, List.count, List.countP_map, List.countP_eq_length_filter]
  congr 2

namespace SeatsOnce

variable {circle next : Circle} {past recent : List Event}

theorem congr (once : circle.SeatsOnce past) (members : next.members = circle.members)
    (blind : ∀ address listed, recent.foldl (Event.enlists address) listed = listed) :
    next.SeatsOnce (past ++ recent) := by
  intro address apart listed
  rw [isEnlisted_append, blind] at listed
  rw [members]
  exact once address apart listed

/-- The directory finds everyone who has joined and stayed, so nobody new goes by that address. -/
theorem ne_of_absent (once : circle.SeatsOnce past) (indexed : circle.Indexed)
    {address newcomer : Address} (apart : address ≠ Directory.reserved)
    (listed : isEnlisted address past = true) (absent : circle.position? newcomer = none) :
    newcomer ≠ address := by
  rintro rfl
  have mem := List.count_pos_iff.1 (Nat.lt_of_lt_of_eq Nat.zero_lt_one (once _ apart listed).symm)
  exact indexed.not_mem absent apart mem

/-- Someone joins whom the directory does not find. -/
theorem addSeat (once : circle.SeatsOnce past) (indexed : circle.Indexed) {newcomer : Address}
    (absent : circle.position? newcomer = none) :
    (circle.addSeat newcomer).SeatsOnce (past ++ [.memberJoined circle.id newcomer]) := by
  intro address apart listed
  rw [members_addSeat, List.count_append]
  by_cases own : newcomer = address
  · subst own
    rw [List.count_eq_zero_of_not_mem (indexed.not_mem absent apart), List.count_singleton_self]
  · have before : isEnlisted address past = true := by
      simpa [isEnlisted_append, Event.enlists, own] using listed
    rw [once address apart before, List.count_singleton, if_neg (by simpa using own)]

theorem removeSeat (once : circle.SeatsOnce past) {position : Nat} {seat : Seat}
    (here : circle.seats[position]? = some seat) {refund penalty : Amount} :
    (circle.removeSeat position).SeatsOnce
      (past ++ [.kicked circle.id seat.holder refund penalty]) := by
  intro address apart listed
  have stays : isEnlisted address past = true ∧ seat.holder ≠ address := by
    simpa [isEnlisted_append, Event.enlists] using listed
  rw [count_members, seatsOf_removeSeat here stays.2, ← count_members]
  exact once address apart stays.1

theorem renameMember (once : circle.SeatsOnce past) (indexed : circle.Indexed)
    {former successor : Address} (absent : circle.position? successor = none) :
    (circle.renameMember former successor).SeatsOnce
      (past ++ [.memberSwapped circle.id former successor]) := by
  intro address apart listed
  have stays : isEnlisted address past = true ∧ former ≠ address := by
    simpa [isEnlisted_append, Event.enlists] using listed
  have differ := once.ne_of_absent indexed apart stays.1 absent
  rw [count_members, seatsOf_renameMember stays.2 differ, ← count_members]
  exact once address apart stays.1

/-- Someone whom the directory does not find is given the seat of a member. -/
theorem vacateSeat (once : circle.SeatsOnce past) (indexed : circle.Indexed) {position : Nat}
    {seat : Seat} (here : circle.seats[position]? = some seat) {successor : Address}
    (absent : circle.position? successor = none) {refund : Amount} :
    (circle.vacateSeat position seat.holder successor).SeatsOnce
      (past ++ [.vacancyFilled circle.id seat.holder successor refund]) := by
  intro address apart listed
  have stays : isEnlisted address past = true ∧ seat.holder ≠ address := by
    simpa [isEnlisted_append, Event.enlists] using listed
  have differ := once.ne_of_absent indexed apart stays.1 absent
  rw [count_members, seatsOf_vacateSeat here stays.2 differ, ← count_members]
  exact once address apart stays.1

theorem settle {records : Records} {more : List Event} (once : circle.SeatsOnce (past ++ more)) :
    (circle.settle records).1.SeatsOnce (past ++ ((circle.settle records).2 ++ more)) := by
  intro address apart listed
  rw [isEnlisted_decisions] at listed
  rw [members_settle]
  exact once address apart listed

end SeatsOnce

end Circle

section

variable {host : Host} {moment : Moment} {books : Books} {circle : Circle} {caller : Address}
variable {operation : Operation} {change : Change} {past : List Event}

theorem Swapping.seatsOnce {former successor : Address} (sound : circle.Sound)
    (once : circle.SeatsOnce past)
    (swapping : Swapping moment books circle former successor change) :
    change.circle.SeatsOnce (past ++ change.events) := by
  cases swapping with
  | same => exact once.congr rfl fun _ _ => rfl
  | renamed _ _ _ absent _ isRenamed =>
      subst isRenamed
      exact once.renameMember sound.indexed absent

/-- No call gives a second seat to someone who has joined and stayed. -/
theorem Deed.seatsOnce (sound : circle.Sound) (once : circle.SeatsOnce past)
    (deed : Deed host moment books circle caller operation change) :
    change.circle.SeatsOnce (past ++ change.events) := by
  cases deed with
  | join _ absent => exact once.addSeat sound.indexed absent
  | kick _ _ seated _ _ _ _ _ _ isRemoved _ isKept =>
      obtain ⟨here, rfl⟩ := sound.indexed.holder_of_seat? seated
      subst isKept isRemoved
      exact Circle.SeatsOnce.settle (once.removeSeat here)
  | swap _ swapping | swapByAdmin swapping => exact swapping.seatsOnce sound once
  | fillVacancy _ _ seated _ _ absent _ _ isVacated _ isKept =>
      obtain ⟨here, rfl⟩ := sound.indexed.holder_of_seat? seated
      subst isKept isVacated
      exact Circle.SeatsOnce.settle (once.vacateSeat sound.indexed here absent)
  | eject => exact Circle.SeatsOnce.settle (once.congr rfl fun _ _ => rfl)
  | proposeDissolution | voteDissolution | proposeLateFee | voteLateFee =>
      dsimp only [Circle.afterVote, Circle.answering]
      rw [← List.append_nil (Circle.settle _ _).2]
      exact Circle.SeatsOnce.settle (once.congr rfl fun _ _ => rfl)
  | processPayout _ _ _ _ _ _ _ _ isPaid =>
      subst isPaid
      exact once.congr (by simp) fun _ listed => Event.foldl_payout (fun _ => rfl) listed _ _
  | contribute | withdrawProRata =>
      exact once.congr (circle.members_updateSeat _ fun _ => rfl) fun _ _ => rfl
  | coverMember _ _ _ _ _ isCovered =>
      subst isCovered
      exact once.congr (circle.members_updateSeat _ fun _ => rfl) fun _ _ => rfl
  | rollover => exact once.congr (by simp) fun _ _ => rfl
  | _ => exact once.congr rfl fun _ _ => rfl

end

theorem circleInvariant_seatsOnce (host : Host) :
    CircleInvariant host (fun _ => True) fun circle _ past =>
      circle.Sound ∧ circle.SeatsOnce past where
  congr holds _ := holds
  founded isNew := ⟨isNew.sound, fun _ _ listed => absurd listed Bool.false_ne_true⟩
  deed holds deed _ := ⟨deed.sound holds.1, deed.seatsOnce holds.1 holds.2⟩

/-- How the service deals with a member of a circle: the roster names the member once, what was paid
in for the seat can be asked for, nobody joins under that address again, and the member is taken for
a stranger only when put out, and not even then when asking to leave. -/
structure World.Recognizes (host : Host) (world : World) (circle : Circle) (member : Address) :
    Prop where
  once : circle.members.count member = 1
  seated : ∃ position seat, circle.position? member = some position ∧
    circle.seats[position]? = some seat ∧ seat.holder = member ∧
    ∀ id, world.books.circle id = .ok circle →
      (Query.contributions id member).answer world = .ok (.amount seat.paidIn)
  rejoining : ∀ (proof : Proof) id plan, proof.principal = member →
    world.books.circle id = .ok circle →
    (Step.call (.join (some proof) id) plan).run host world =
      (world.detached, .of (.error (circle.rejoinFailure host proof)) [])
  acting : ∀ (operation : Operation) id, operation.actsAsMember = true →
    operation.circleId? = some id →
    host.authorize operation.proof = .ok member → world.books.circle id = .ok circle →
      (operation.perform host world.moment world.books = .error (.ofKind .notMember) ↔
        circle.isDissolved = false ∧ operation.isExit = false ∧
          circle.isEjected world.books.records member = true)

/-- Whoever the directory finds at an only seat is recognized. -/
theorem Circle.Indexed.recognizes {host : Host} {world : World} {circle : Circle}
    {member : Address} (indexed : circle.Indexed) (once : circle.members.count member = 1)
    (apart : member ≠ Directory.reserved) : world.Recognizes host circle member := by
  have mem : member ∈ circle.members :=
    List.count_pos_iff.1 (Nat.lt_of_lt_of_eq Nat.zero_lt_one once.symm)
  have present := indexed.complete mem apart
  obtain ⟨position, seat, seated⟩ := indexed.exists_seat? present
  obtain ⟨here, holder⟩ := indexed.holder_of_seat? seated
  obtain ⟨placed, _⟩ := Circle.seat?_eq_some_iff.1 seated
  refine ⟨once, ⟨position, seat, placed, here, holder, ?_⟩, ?_, ?_⟩
  · intro id found
    simp [Query.answer, Books.contributionsOf, found, seated, bind, Except.bind, pure, Except.pure]
  · intro proof id plan theirs found
    exact Step.run_of_refused (join_eq_rejoinFailure theirs present found)
  · intro operation id acts named accepted found
    rw [Operation.refused_as_stranger_iff indexed acts named accepted found]
    simp [placed]

section

variable {host : Host} {world : World} {id : Number} {circle : Circle} {member : Address}

/-- What a call that joins leaves behind. -/
theorem join_run_eq_ok {proof : Option Proof} {plan : List Encounter} {answer : Answer}
    (accepted : host.authorize proof = .ok member) (found : world.books.circle id = .ok circle)
    (returned : ((Step.call (.join proof id) plan).run host world).2.outcome = .ok answer) :
    circle.isDissolved = false ∧ circle.position? member = none ∧
      ((Step.call (.join proof id) plan).run host world).1.books =
        { world.books.replaceCircle (circle.addSeat member) with
          records :=
            world.books.records.enroll circle.id member circle.seats.length world.now } := by
  obtain ⟨effect, written, performed, committed, _, ran, _⟩ := Step.run_eq_ok returned
  cases performs_of_perform performed with
  | byAdmin _ _ _ administers => simp [Operation.isAdministrative] at administers
  | byMember named same caller _ deed =>
      obtain rfl := Option.some.inj named
      obtain rfl := Except.ok.inj (found.symm.trans same)
      obtain rfl := Except.ok.inj (accepted.symm.trans caller)
      cases deed with
      | join isOpen absent =>
          refine ⟨isOpen, absent, ?_⟩
          -- A join makes no transfer, so whatever is planned for its transfers never comes.
          have nothing : (settle host plan [] written).world = written := by cases plan <;> rfl
          rw [ran]
          change (settle host plan [] written).world.books = _
          rw [nothing, World.books_commit committed]
          rfl

end

/-- In every world of a run, whoever joins a circle is at the end of its roster then, and the
directory finds them there and they are taken for a member, unless they go by the reserved address.
Everyone else who has joined and was not taken off the roster since is recognized. -/
theorem joining_registers_unless_reserved {host : Host} {now clock : Number} {nonce : String}
    {draws : Draws} {steps : List Step} {world : World} {id : Number} {circle : Circle}
    (visits : Visits host (.opened now clock nonce draws) steps world)
    (found : world.books.circle id = .ok circle) :
    (∀ member proof plan answer, host.authorize proof = .ok member →
      ((Step.call (.join proof id) plan).run host world).2.outcome = .ok answer →
      ∃ next joined, next = ((Step.call (.join proof id) plan).run host world).1 ∧
        next.books.circle id = .ok joined ∧ joined.members = circle.members ++ [member] ∧
        joined.position? member =
          (if member = Directory.reserved then none else some circle.members.length) ∧
        ∀ operation : Operation, operation.actsAsMember = true → operation.circleId? = some id →
          host.authorize operation.proof = .ok member →
          (operation.perform host next.moment next.books = .error (.ofKind .notMember) ↔
            member = Directory.reserved)) ∧
    ∀ member ≠ Directory.reserved, ∀ front back,
      history circle.id world.trail.events = front ++ .memberJoined circle.id member :: back →
      (∀ event ∈ back, event.unseats member = false) → world.Recognizes host circle member := by
  obtain ⟨sound, once⟩ := (circleInvariant_seatsOnce host).holds (fun _ _ _ _ => trivial) visits
    (Books.mem_of_circle found)
  constructor
  · intro member proof plan answer accepted returned
    obtain ⟨isOpen, absent, books⟩ := join_run_eq_ok accepted found returned
    have joins : ((Step.call (.join proof id) plan).run host world).1.books.circle id =
        .ok (circle.addSeat member) := by
      rw [books]
      exact Books.circle_replaceCircle found rfl
    have size : circle.members.length = circle.seats.length := List.length_map ..
    have placed : (circle.addSeat member).position? member =
        if member = Directory.reserved then none else some circle.members.length := by
      rw [Circle.position?_addSeat, absent, size]
      by_cases isReserved : member = Directory.reserved <;> simp [isReserved]
    refine ⟨_, circle.addSeat member, rfl, joins, Circle.members_addSeat .., placed, ?_⟩
    intro operation acts named theirs
    rw [Operation.refused_as_stranger_iff (sound.indexed.addSeat absent) acts named theirs joins,
      placed, books]
    -- The record of whoever joins is a fresh one, so nobody is put out then.
    have status := (circle.addSeat member).statusOf_enroll world.books.records member
      circle.seats.length world.now
    have takesPart : (circle.addSeat member).isEjected (world.books.records.enroll circle.id member
        circle.seats.length world.now) member = false :=
      beq_eq_false_iff_ne.2 fun out => nomatch status.symm.trans out
    by_cases isReserved : member = Directory.reserved
    · simp [isReserved, isOpen, Circle.addSeat]
    · simp [isReserved, takesPart]
  · intro member apart front back past stays
    refine sound.indexed.recognizes (once member apart ?_) apart
    rw [past]
    exact isEnlisted_of_join stays

/-- Two members join, the second is swapped for another, and joins again. -/
theorem joining_registers_after_swap :
    let admin := Host.sample.proofOf "a"
    let proof := Host.sample.proofOf "b"
    let id := Number.ofNat 1
    let steps : List Step :=
      [.call (.createCircle admin .sample) [], .call (.join admin id) [],
        .call (.join proof id) [], .call (.swapByAdmin admin id "b" "c") []]
    let world := (runAll Host.sample steps World.sample).1
    ∃ circle joined, world.books.circle id = .ok circle ∧
      world.Recognizes Host.sample circle "a" ∧
      ((Step.call (.join proof id) []).run Host.sample world).1.books.circle id = .ok joined ∧
      joined.members = ["a", "c", "b"] ∧ joined.position? "b" = some 2 := by
  intro admin proof id steps world
  have isCircle : (world.books.circle id).toOption.map (fun circle =>
      (circle.id, circle.members, history circle.id world.trail.events)) =
      some (1, ["a", "c"],
        [.memberJoined 1 "a", .memberJoined 1 "b", .memberSwapped 1 "b" "c"]) := by
    decide +kernel
  have returned : ((Step.call (.join proof id) []).run Host.sample world).2.outcome.toOption.map
      (fun _ => ()) = some () := by
    decide +kernel
  have accepted : Host.sample.authorize proof = .ok "b" := rfl
  have visits : Visits Host.sample World.sample steps world := .inl rfl
  clear_value world
  obtain ⟨circle, found, facts⟩ := exists_ok_of_map_toOption isCircle
  simp only [Prod.mk.injEq] at facts
  obtain ⟨number, members, past⟩ := facts
  obtain ⟨answer, isAnswer, _⟩ := exists_ok_of_map_toOption returned
  obtain ⟨registers, recognizes⟩ := joining_registers_unless_reserved visits found
  obtain ⟨_, joined, rfl, isJoined, areMembers, placed, _⟩ :=
    registers "b" proof [] answer accepted isAnswer
  rw [members] at areMembers placed
  refine ⟨circle, joined, found, ?_, isJoined, areMembers, ?_⟩
  · refine recognizes "a" (by decide) [] _ (by rw [past, number]; rfl) ?_
    simp [Event.unseats]
  · rw [placed, if_neg (by decide)]
    rfl

/-- Whoever goes by the reserved address joins twice, sits twice, and is a stranger all the same. -/
theorem reserved_joins_twice :
    let proof := Host.sample.proofOf Directory.reserved
    let id := Number.ofNat 1
    let steps : List Step :=
      [.call (.createCircle (Host.sample.proofOf "a") .sample) [], .call (.join proof id) [],
        .call (.join proof id) []]
    let world := (runAll Host.sample steps World.sample).1
    ∃ circle, world.books.circle id = .ok circle ∧
      circle.members = [Directory.reserved, Directory.reserved] ∧
      circle.position? Directory.reserved = none ∧
      ((Step.call (.contribute proof id) []).run Host.sample world).2.outcome =
        .error (.ofKind .notMember) := by
  intro proof id steps world
  have isCircle : (world.books.circle id).toOption.map (fun circle =>
      (circle.members, circle.position? Directory.reserved)) =
      some ([Directory.reserved, Directory.reserved], none) := by
    decide +kernel
  have refused : ((Step.call (.contribute proof id) []).run Host.sample world).2.outcome.map
      (fun _ => ()) = .error (.ofKind .notMember) := by
    decide +kernel
  obtain ⟨circle, found, facts⟩ := exists_ok_of_map_toOption isCircle
  obtain ⟨members, absent⟩ := Prod.mk.inj facts
  refine ⟨circle, found, members, absent, ?_⟩
  generalize ((Step.call (.contribute proof id) []).run Host.sample world).2.outcome = outcome
    at refused
  cases outcome with
  | ok _ => simp [Except.map] at refused
  | error failure => exact congrArg Except.error (Except.error.inj refused)

end SavingsCircle
