import RuntimeContracts.Behaviour.Interleaving

/-!
# Jobs behind a mutex do not overlap

Under the locked discipline at most one worker is inside a job, and it holds the mutex. Each worker
makes the moves of its jobs one after the other, and of each job once, up to where the job panics. A
mutex that a panic has poisoned lets the next job in like any other.
-/

namespace RuntimeContracts.Interleaving

inductive WorkerStep (place : Nat) (mutex : Mutex) (counter : Nat) :
    Worker → Move → Worker → Mutex → Nat → Prop where
  | start (job : Job) (rest : List Job) (hfree : mutex.held = false) :
      WorkerStep place mutex counter ⟨job :: rest, .idle⟩ (.started place)
        ⟨rest, .running job 0⟩ ⟨true, mutex.poisoned⟩ counter
  | read (queue : List Job) (rest : Job) (seen : Nat) :
      WorkerStep place mutex counter ⟨queue, .running (.read :: rest) seen⟩
        (.performed place .read) ⟨queue, .running rest counter⟩ mutex counter
  | pause (queue : List Job) (rest : Job) (seen : Nat) :
      WorkerStep place mutex counter ⟨queue, .running (.pause :: rest) seen⟩
        (.performed place .pause) ⟨queue, .running rest seen⟩ mutex counter
  | write (queue : List Job) (rest : Job) (seen : Nat) :
      WorkerStep place mutex counter ⟨queue, .running (.write :: rest) seen⟩
        (.performed place .write) ⟨queue, .running rest seen⟩ mutex (seen + 1)
  | panic (queue : List Job) (rest : Job) (seen : Nat) :
      WorkerStep place mutex counter ⟨queue, .running (.panic :: rest) seen⟩ (.ended place true)
        ⟨queue, .leaving true⟩ mutex counter
  | finish (queue : List Job) (seen : Nat) :
      WorkerStep place mutex counter ⟨queue, .running [] seen⟩ (.ended place false)
        ⟨queue, .leaving false⟩ mutex counter
  | release (queue : List Job) (panicked : Bool) :
      WorkerStep place mutex counter ⟨queue, .leaving panicked⟩ (.released place)
        ⟨queue, .idle⟩ (mutex.release panicked) counter

namespace World

theorem exists_step_of_move {world next : World} {place : Nat}
    (h : world.move .locked place = some next) :
    ∃ old move new mutex counter, world.workers[place]? = some old ∧
      WorkerStep place world.mutex world.counter old move new mutex counter ∧
      next = ⟨mutex, counter, world.workers.set place new, move :: world.history⟩ := by
  unfold World.move at h
  cases hworker : world.workers[place]? with
  | none => simp [hworker] at h
  | some worker =>
    obtain ⟨queue, stage⟩ := worker
    rw [hworker] at h
    refine ⟨⟨queue, stage⟩, ?_⟩
    cases stage with
    | idle =>
      cases queue with
      | nil => cases h
      | cons job rest =>
        cases hheld : world.mutex.held with
        | true =>
          simp only [Discipline.enter, Mutex.acquire_of_held hheld] at h
          cases h
        | false =>
          simp only [Discipline.enter, Mutex.acquire_of_not_held hheld] at h
          cases h
          exact ⟨_, _, _, _, rfl, .start job rest hheld, rfl⟩
    | running rest seen =>
      cases rest with
      | nil =>
        cases h
        exact ⟨_, _, _, _, rfl, .finish queue seen, rfl⟩
      | cons step rest =>
        cases step with
        | read =>
          cases h
          exact ⟨_, _, _, _, rfl, .read queue rest seen, rfl⟩
        | pause =>
          cases h
          exact ⟨_, _, _, _, rfl, .pause queue rest seen, rfl⟩
        | write =>
          cases h
          exact ⟨_, _, _, _, rfl, .write queue rest seen, rfl⟩
        | panic =>
          cases h
          exact ⟨_, _, _, _, rfl, .panic queue rest seen, rfl⟩
    | leaving panicked =>
      cases h
      exact ⟨_, _, _, _, rfl, .release queue panicked, rfl⟩

/-- What every move of a worker keeps, every schedule keeps. -/
theorem run_induction {motive : World → Prop}
    (hstep : ∀ (world : World) place old move new mutex counter, motive world →
      world.workers[place]? = some old →
      WorkerStep place world.mutex world.counter old move new mutex counter →
      motive ⟨mutex, counter, world.workers.set place new, move :: world.history⟩)
    {world : World} (h : motive world) (schedule : List Nat) :
    motive (world.run .locked schedule) := by
  induction schedule generalizing world with
  | nil => exact h
  | cons place rest ih =>
    apply ih
    unfold World.advance
    cases hmove : world.move .locked place with
    | none => exact h
    | some next =>
      obtain ⟨old, move, new, mutex, counter, hold, hworker, rfl⟩ := exists_step_of_move hmove
      exact hstep world place old move new mutex counter h hold hworker

end World

/-- What stands in a list in which one place was set. -/
theorem getElem?_set_cases {α : Type} {items : List α} {place other : Nat} {new item : α}
    (h : (items.set place new)[other]? = some item) :
    other = place ∧ item = new ∨ other ≠ place ∧ items[other]? = some item := by
  by_cases hother : other = place
  · subst hother
    obtain ⟨hlt, hitem⟩ := List.getElem?_eq_some_iff.1 h
    rw [List.getElem_set_self] at hitem
    exact .inl ⟨rfl, hitem.symm⟩
  · rw [List.getElem?_set_ne (Ne.symm hother)] at h
    exact .inr ⟨hother, h⟩

/-! ## The holder of the mutex -/

/-- The holder of the mutex is the only worker that is not idle; without a holder, all are. -/
structure HeldBy (world : World) (holder : Option Nat) : Prop where
  held_eq : world.mutex.held = holder.isSome
  lt_length : ∀ place, holder = some place → place < world.workers.length
  busy_iff : ∀ place worker, world.workers[place]? = some worker →
    (worker.stage ≠ .idle ↔ holder = some place)

theorem heldBy_none_new (queues : List (List Job)) : HeldBy (World.new queues) none := by
  refine ⟨rfl, nofun, ?_⟩
  intro place worker hworker
  obtain ⟨queue, -, rfl⟩ := List.mem_map.1 (List.mem_of_getElem? hworker)
  exact iff_of_false (fun hbusy => hbusy rfl) nofun

namespace HeldBy

variable {world : World} {holder : Option Nat}

theorem holder_eq_none (h : HeldBy world holder) (hfree : world.mutex.held = false) :
    holder = none := by
  have hheld := h.held_eq
  rw [hfree] at hheld
  exact Option.isNone_iff_eq_none.1 (by simpa using hheld.symm)

/-- One worker is replaced; the holder is as before for all others. -/
theorem replace (h : HeldBy world holder) {place : Nat} {old new : Worker}
    (hold : world.workers[place]? = some old) {holder' : Option Nat}
    {mutex : Mutex} (hmutex : mutex.held = holder'.isSome)
    (hnew : new.stage ≠ .idle ↔ holder' = some place)
    (hothers : ∀ other, other ≠ place → (holder = some other ↔ holder' = some other))
    (counter : Nat) (history : List Move) :
    HeldBy ⟨mutex, counter, world.workers.set place new, history⟩ holder' := by
  have hlt : place < world.workers.length := (List.getElem?_eq_some_iff.1 hold).1
  refine ⟨hmutex, ?_, ?_⟩
  · intro other hother
    rw [List.length_set]
    by_cases hplace : other = place
    · rw [hplace]
      exact hlt
    · exact h.lt_length other ((hothers other hplace).2 hother)
  · intro other worker hworker
    rcases getElem?_set_cases hworker with ⟨rfl, rfl⟩ | ⟨hplace, hworker⟩
    · exact hnew
    · exact (h.busy_iff other worker hworker).trans (hothers other hplace)

theorem step (h : HeldBy world holder) {place : Nat} {old new : Worker} {move : Move}
    {mutex : Mutex} {counter : Nat} (hold : world.workers[place]? = some old)
    (hstep : WorkerStep place world.mutex world.counter old move new mutex counter) :
    ∃ holder', HeldBy ⟨mutex, counter, world.workers.set place new, move :: world.history⟩
      holder' := by
  have hbusy : old.stage ≠ .idle → holder = some place := (h.busy_iff place old hold).1
  cases hstep with
  | start job rest hfree =>
    have hnone : holder = none := h.holder_eq_none hfree
    subst hnone
    refine ⟨some place, ?_⟩
    refine h.replace hold rfl ?_ ?_ world.counter _
    · exact iff_of_true nofun rfl
    · intro other hne
      exact iff_of_false nofun fun heq => hne (Option.some.inj heq).symm
  | release queue panicked =>
    have hplace : holder = some place := hbusy nofun
    subst hplace
    refine ⟨none, ?_⟩
    refine h.replace hold rfl ?_ ?_ world.counter _
    · exact iff_of_false (fun hidle => hidle rfl) nofun
    · intro other hne
      exact iff_of_false (fun heq => hne (Option.some.inj heq).symm) nofun
  | read | pause | write | panic | finish =>
    have hplace : holder = some place := hbusy nofun
    refine ⟨holder, ?_⟩
    refine h.replace hold h.held_eq ?_ (fun _ _ => Iff.rfl) _ _
    exact iff_of_true nofun hplace

theorem busy_unique (h : HeldBy world holder) {first second : Nat} {one other : Worker}
    (hone : world.workers[first]? = some one) (hother : world.workers[second]? = some other)
    (hfirst : one.stage ≠ .idle) (hsecond : other.stage ≠ .idle) : first = second := by
  have hholder := (h.busy_iff first one hone).1 hfirst
  rw [(h.busy_iff second other hother).1 hsecond] at hholder
  exact (Option.some.inj hholder).symm

end HeldBy

theorem exists_heldBy_run {world : World} (h : ∃ holder, HeldBy world holder)
    (schedule : List Nat) : ∃ holder, HeldBy (world.run .locked schedule) holder := by
  refine World.run_induction (motive := fun world => ∃ holder, HeldBy world holder) ?_ h schedule
  intro world place old move new mutex counter hheld hold hstep
  obtain ⟨holder, hheld⟩ := hheld
  exact hheld.step hold hstep

/-! ## The moves of a worker -/

def Move.worker : Move → Nat
  | .started worker => worker
  | .performed worker _ => worker
  | .ended worker _ => worker
  | .released worker => worker

def movesOf (place : Nat) (history : List Move) : List Move :=
  (history.filter fun move => move.worker = place).reverse

/-- The steps of a job that are performed: those before a panic. -/
def reachedSteps (job : Job) : List JobStep := job.takeWhile (· ≠ .panic)

def jobMoves (place : Nat) (job : Job) : List Move :=
  (reachedSteps job).map (.performed place) ++
    [.ended place (job.contains .panic), .released place]

def script (place : Nat) (job : Job) : List Move := .started place :: jobMoves place job

def Stage.movesLeft (place : Nat) : Stage → List Move
  | .idle => []
  | .running rest _ => jobMoves place rest
  | .leaving _ => [.released place]

def Worker.movesLeft (place : Nat) (worker : Worker) : List Move :=
  worker.stage.movesLeft place ++ worker.queue.flatMap (script place)

/-- A worker makes the move that is the first of those left. -/
theorem WorkerStep.movesLeft_eq {place counter counter' : Nat} {mutex mutex' : Mutex}
    {old new : Worker} {move : Move}
    (h : WorkerStep place mutex counter old move new mutex' counter') :
    old.movesLeft place = move :: new.movesLeft place ∧ move.worker = place := by
  cases h with
  | start job rest hfree => exact ⟨rfl, rfl⟩
  | read queue rest seen =>
    simp [Worker.movesLeft, Stage.movesLeft, jobMoves, reachedSteps, Move.worker]
  | pause queue rest seen =>
    simp [Worker.movesLeft, Stage.movesLeft, jobMoves, reachedSteps, Move.worker]
  | write queue rest seen =>
    simp [Worker.movesLeft, Stage.movesLeft, jobMoves, reachedSteps, Move.worker]
  | panic queue rest seen =>
    simp [Worker.movesLeft, Stage.movesLeft, jobMoves, reachedSteps, Move.worker]
  | finish queue seen => exact ⟨rfl, rfl⟩
  | release queue panicked => exact ⟨rfl, rfl⟩

structure Follows (queues : List (List Job)) (world : World) : Prop where
  length_eq : world.workers.length = queues.length
  moves_eq : ∀ (place : Nat) worker queue, world.workers[place]? = some worker →
    queues[place]? = some queue →
      movesOf place world.history ++ worker.movesLeft place = queue.flatMap (script place)

theorem follows_new (queues : List (List Job)) : Follows queues (World.new queues) := by
  refine ⟨List.length_map _, ?_⟩
  intro place worker queue hworker hqueue
  change (queues.map _)[place]? = some worker at hworker
  rw [List.getElem?_map, hqueue] at hworker
  cases hworker
  rfl

theorem Follows.step {queues : List (List Job)} {world : World} (h : Follows queues world)
    {place : Nat} {old new : Worker} {move : Move} {mutex : Mutex} {counter : Nat}
    (hold : world.workers[place]? = some old)
    (hstep : WorkerStep place world.mutex world.counter old move new mutex counter) :
    Follows queues ⟨mutex, counter, world.workers.set place new, move :: world.history⟩ := by
  obtain ⟨hleft, hmove⟩ := hstep.movesLeft_eq
  refine ⟨List.length_set.trans h.length_eq, ?_⟩
  intro other worker queue hworker hqueue
  rcases getElem?_set_cases hworker with ⟨rfl, rfl⟩ | ⟨hother, hworker⟩
  · -- The move goes from the first of those left to the last of those made.
    have hbefore := h.moves_eq other old queue hold hqueue
    rw [hleft] at hbefore
    have hmade : movesOf other (move :: world.history) = movesOf other world.history ++ [move] := by
      simp [movesOf, hmove]
    rw [hmade, List.append_assoc]
    exact hbefore
  · have hmade : movesOf other (move :: world.history) = movesOf other world.history := by
      simp [movesOf, hmove, Ne.symm hother]
    rw [hmade]
    exact h.moves_eq other worker queue hworker hqueue

theorem follows_run (queues : List (List Job)) (schedule : List Nat) :
    Follows queues ((World.new queues).run .locked schedule) := by
  refine World.run_induction (motive := Follows queues) ?_ (follows_new queues) schedule
  intro world place old move new mutex counter hfollows hold hstep
  exact hfollows.step hold hstep

end RuntimeContracts.Interleaving
