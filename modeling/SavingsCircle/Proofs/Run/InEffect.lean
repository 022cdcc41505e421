import SavingsCircle.Proofs.Circle.Withdrawals

/-!
# Calls in effect

A call that has written the books is in effect until it fails, or a call around it does, and is
undone. Which calls are in effect can be told from the moves of a run (`inEffect`): a call that
begins opens a group of calls, one that returns leaves its group to the call around it, and one that
fails takes its group along.

The books a failed call leaves are those it began with, so each group goes with the calls in
progress (`Accounted`). What every call carries on from the calls before it therefore holds of all
calls in effect, at any point of a run and at any depth.
-/

namespace SavingsCircle

/-- The groups of calls after a move. There is one for each call in progress, the innermost first,
and a last one for the calls around all of these. -/
def regroup (groups : List (List Operation)) : Move → List (List Operation)
  | .write operation => [operation] :: groups
  | .conclude =>
    match groups with
    | inner :: outer :: groups => (outer ++ inner) :: groups
    | groups => groups
  | .fail => groups.tail
  | .refuse _ | .carry _ | .act _ => groups

def regroupAll (groups : List (List Operation)) (passages : List Passage) :
    List (List Operation) :=
  passages.foldl (fun groups passage => regroup groups passage.move) groups

/-- The calls that have written the books on the way and were not undone, in the order in which
they began. -/
def inEffect (passages : List Passage) : List Operation :=
  (regroupAll [[]] passages).reverse.flatten

def worldAfter (start : World) (passages : List Passage) : World :=
  (passages.getLast?.map (·.world)).getD start

/-- A property of calls in effect and books that holds now, and held when each of the calls in
progress began of the calls that were in effect by then. -/
inductive Accounted (P : List Operation → Books → Prop) : List (List Operation) → Config → Prop
  | alone {group world} (holds : P group world.books) : Accounted P [group] ⟨[], world⟩
  | within {group groups frame frames world}
      (holds : P (group :: groups).reverse.flatten world.books)
      (before : Accounted P groups ⟨frames, frame.start⟩) :
      Accounted P (group :: groups) ⟨frame :: frames, world⟩

/-- A property of calls in effect and books that every admitted call carries on. -/
structure CarriedOn (host : Host) (Admits : Passage → Prop)
    (P : List Operation → Books → Prop) : Prop where
  write {calls books moment operation effect written} : P calls books →
    operation.perform host moment books = .ok effect → Admits ⟨.write operation, written⟩ →
    written.books = effect.books → P (calls ++ [operation]) effect.books

section

variable {P : List Operation → Books → Prop} {group other : List Operation}
variable {groups : List (List Operation)} {frames : List Frame} {world next : World}

namespace Accounted

theorem now {c : Config} (accounted : Accounted P groups c) :
    P groups.reverse.flatten c.world.books := by
  cases accounted with
  | alone holds => simpa using holds
  | within holds => exact holds

theorem change (accounted : Accounted P (group :: groups) ⟨frames, world⟩)
    (holds : P (other :: groups).reverse.flatten next.books) :
    Accounted P (other :: groups) ⟨frames, next⟩ := by
  cases accounted with
  | alone => exact .alone (by simpa using holds)
  | within _ before => exact .within holds before

theorem same (accounted : Accounted P groups ⟨frames, world⟩)
    (books : next.books = world.books) : Accounted P groups ⟨frames, next⟩ := by
  cases accounted with
  | alone holds => exact .alone (books ▸ holds)
  | within holds before => exact .within (by rwa [books]) before

variable {host : Host} {Admits : Passage → Prop}

/-- One move of the machine goes with the groups. -/
theorem advance (carried : CarriedOn host Admits P) {a b : Config} {move : Move}
    (advance : Advance host a move b) (lasting : move.isReset = false)
    (admitted : Admits ⟨move, b.world⟩) (accounted : Accounted P groups a) :
    Accounted P (regroup groups move) b := by
  cases advance with
  | refused | unrecorded => exact accounted.same rfl
  | written performed committed =>
      have books := World.books_commit committed
      refine .within ?_ accounted
      rw [List.reverse_cons, List.flatten_append, List.flatten_singleton, books]
      exact carried.write accounted.now performed admitted books
  | carried made =>
      obtain ⟨_, _, rfl⟩ := World.carry_eq_ok made
      cases accounted with
      | within holds before => exact .within holds before
  | failed =>
      -- The innermost group goes, and the books are those of which the other groups told.
      cases accounted with
      | within _ before => exact before.same rfl
  | concluded =>
      cases accounted with
      | @within inner groups _ _ _ holds before =>
          cases groups with
          | nil => cases before
          | cons outer groups =>
              have joined : ((outer ++ inner) :: groups).reverse.flatten =
                  (inner :: outer :: groups).reverse.flatten := by simp
              exact before.change (joined ▸ holds)
  | @acted _ world step noCall =>
      have only : ∀ passage ∈ step.course host world, passage.move.isReset = false := by
        cases step with
        | call => cases noCall
        | _ => simpa [Step.course] using lasting
      exact accounted.same (Step.books_run_of_not_call noCall only)

theorem path (carried : CarriedOn host Admits P) {a b : Config} {passages : List Passage}
    (path : Path host a passages b)
    (lasting : ∀ passage ∈ passages, passage.move.isReset = false)
    (admitted : ∀ passage ∈ passages, Admits passage) (accounted : Accounted P groups a) :
    Accounted P (regroupAll groups passages) b := by
  induction path generalizing groups with
  | nil => exact accounted
  | cons first _ ih =>
      rw [List.forall_mem_cons] at lasting admitted
      exact ih lasting.2 admitted.2 (accounted.advance carried first lasting.1 admitted.1)

end Accounted

end

theorem Path.world_eq {host : Host} {a b : Config} {passages : List Passage}
    (path : Path host a passages b) : b.world = worldAfter a.world passages := by
  induction path with
  | nil => rfl
  | @cons _ _ _ _ rest _ _ ih =>
      rw [ih, worldAfter, worldAfter, List.getLast?_cons]
      cases rest.getLast? <;> rfl

theorem Path.split {host : Host} {a c : Config} {front back : List Passage}
    (path : Path host a (front ++ back) c) : ∃ b, Path host a front b := by
  induction front generalizing a with
  | nil => exact ⟨a, .nil⟩
  | cons passage front ih =>
      cases path with
      | cons first others =>
          obtain ⟨b, rest⟩ := ih others
          exact ⟨b, .cons first rest⟩

theorem worldAfter_append (world : World) (front back : List Passage) :
    worldAfter world (front ++ back) = worldAfter (worldAfter world front) back := by
  rw [worldAfter, worldAfter, worldAfter, List.getLast?_append]
  cases back.getLast? <;> rfl

theorem Step.worldAfter_course (host : Host) (step : Step) (world : World) :
    worldAfter world (step.course host world) = (step.run host world).1 :=
  (Step.path host [] step world).world_eq.symm

theorem worldAfter_settleCourse (host : Host) (plan : List Encounter) (transfers : List Transfer)
    (world : World) :
    worldAfter world (settleCourse host plan transfers world) =
      (settle host plan transfers world).world := by
  obtain ⟨_, _, path⟩ := settleCourse_path host world [] plan transfers world
  exact path.world_eq.symm

theorem worldAfter_runCourse (host : Host) (steps : List Step) (start : World) :
    worldAfter start (runCourse host steps start) = (runAll host steps start).1 :=
  (runCourse_path host [] steps start).world_eq.symm

section

variable {host : Host} {Admits : Passage → Prop} {P : List Operation → Books → Prop}

/-- What every call carries on holds, anywhere in a run, of the calls in effect. -/
theorem CarriedOn.of_front (carried : CarriedOn host Admits P) {steps : List Step} {start : World}
    (holds : P [] start.books)
    (lasting : ∀ passage ∈ runCourse host steps start, passage.move.isReset = false)
    (admitted : ∀ passage ∈ runCourse host steps start, Admits passage)
    {front back : List Passage} (parts : runCourse host steps start = front ++ back) :
    P (inEffect front) (worldAfter start front).books := by
  have path := runCourse_path host [] steps start
  rw [parts] at path lasting admitted
  rw [List.forall_mem_append] at lasting admitted
  obtain ⟨inside, before⟩ := path.split
  have isWorld : inside.world = worldAfter start front := before.world_eq
  rw [← isWorld]
  exact (Accounted.path carried before lasting.1 admitted.1 (.alone holds)).now

/-- What every call carries on holds, at the end of a step, of the calls that are in effect then. -/
theorem CarriedOn.of_step (carried : CarriedOn host Admits P) {step : Step} {world : World}
    (holds : P [] world.books)
    (lasting : ∀ passage ∈ step.course host world, passage.move.isReset = false)
    (admitted : ∀ passage ∈ step.course host world, Admits passage) :
    P (inEffect (step.course host world)) (step.run host world).1.books :=
  (Accounted.path carried (Step.path host [] step world) lasting admitted (.alone holds)).now

theorem regroupAll_append (groups : List (List Operation)) (front back : List Passage) :
    regroupAll groups (front ++ back) = regroupAll (regroupAll groups front) back :=
  List.foldl_append

theorem regroupAll_carryCourse (groups : List (List Operation)) (transfers : List Transfer)
    (world : World) : regroupAll groups (carryCourse transfers world) = groups := by
  induction transfers generalizing world with
  | nil => rfl
  | cons transfer transfers ih =>
      simp only [carryCourse]
      cases world.carry transfer with
      | error _ => rfl
      | ok next => exact ih next

/-- A call is in effect with what its transfers left in effect, unless one of them failed. -/
theorem Settlement.regroupAll_course {settlement : Settlement} {course : List Passage}
    {kept : List Operation}
    (within : ∀ group groups,
      regroupAll (group :: groups) course = (group ++ kept) :: groups)
    (operation : Operation) (written last : World) (group : List Operation)
    (groups : List (List Operation)) :
    regroupAll (group :: groups)
        (⟨.write operation, written⟩ :: course ++ [⟨settlement.lastMove, last⟩]) =
      (group ++ if settlement.failure.isNone then operation :: kept else []) :: groups := by
  change regroupAll ([operation] :: group :: groups) (course ++ _) = _
  rw [regroupAll_append, within]
  obtain ⟨_, _, _ | _⟩ := settlement
  · rfl
  · exact congrArg (· :: groups) (List.append_nil group).symm

mutual

/-- What a step leaves in effect goes to the innermost group. -/
theorem Step.regroup_course (host : Host) : ∀ (step : Step) (world : World), ∃ kept,
    ∀ group groups, regroupAll (group :: groups) (step.course host world) =
      (group ++ kept) :: groups
  | .call operation plan, world => by
    simp only [Step.course]
    cases operation.perform host world.moment world.books with
    | error _ => exact ⟨[], fun group groups => by simp [regroupAll, regroup]⟩
    | ok effect =>
        cases committed : world.commit effect with
        | error _ => exact ⟨[], fun group groups => by simp [committed, regroupAll, regroup]⟩
        | ok written =>
            obtain ⟨kept, within⟩ := settleCourse_regroup host plan effect.transfers written
            simp only [committed]
            exact ⟨_, Settlement.regroupAll_course within operation written _⟩
  | .query _, _ | .reset, _ | .mint .., _ | .transfer .., _ | .setClock _, _ | .advance _, _
  | .setDating _, _ | .unknown, _ => ⟨[], fun group groups => by
    simp [Step.course, regroupAll, regroup]⟩

theorem runCourse_regroup (host : Host) : ∀ (steps : List Step) (world : World), ∃ kept,
    ∀ group groups, regroupAll (group :: groups) (runCourse host steps world) =
      (group ++ kept) :: groups
  | [], _ => ⟨[], fun group groups => by simp [runCourse, regroupAll]⟩
  | step :: steps, world => by
    obtain ⟨first, before⟩ := Step.regroup_course host step world
    obtain ⟨rest, after⟩ := runCourse_regroup host steps (step.run host world).1
    refine ⟨first ++ rest, fun group groups => ?_⟩
    rw [runCourse, regroupAll_append, before, after, List.append_assoc]

theorem settleCourse_regroup (host : Host) : ∀ (plan : List Encounter)
    (transfers : List Transfer) (world : World), ∃ kept,
    ∀ group groups, regroupAll (group :: groups) (settleCourse host plan transfers world) =
      (group ++ kept) :: groups
  | [], transfers, world => ⟨[], fun group groups => by
    rw [settleCourse, regroupAll_carryCourse, List.append_nil]⟩
  | _ :: _, [], _ => ⟨[], fun group groups => by simp [settleCourse, regroupAll]⟩
  | .meets steps fault :: plan, transfer :: transfers, world => by
    obtain ⟨met, before⟩ := runCourse_regroup host steps world
    simp only [settleCourse]
    cases fault with
    | some _ => exact ⟨met, fun group groups => by rw [List.append_nil, before]⟩
    | none =>
        cases (runAll host steps world).1.carry transfer with
        | error _ => exact ⟨met, fun group groups => by rw [List.append_nil, before]⟩
        | ok next =>
            obtain ⟨rest, after⟩ := settleCourse_regroup host plan transfers next
            refine ⟨met ++ rest, fun group groups => ?_⟩
            rw [regroupAll_append, before, ← List.append_assoc, ← after]
            rfl

end

variable {operation : Operation} {plan : List Encounter} {world : World}

/-- A call that returns is in effect, before all that its transfers left in effect. -/
theorem Step.inEffect_course_of_ok {answer : Answer}
    (returned : ((Step.call operation plan).run host world).2.outcome = .ok answer) :
    ∃ nested, inEffect ((Step.call operation plan).course host world) = operation :: nested := by
  obtain ⟨effect, written, performed, committed, unfailed, _⟩ := Step.run_eq_ok returned
  obtain ⟨kept, within⟩ := settleCourse_regroup host plan effect.transfers written
  simp only [Step.course, performed, committed]
  rw [inEffect, Settlement.regroupAll_course within, unfailed]
  exact ⟨kept, by simp⟩

end

end SavingsCircle
