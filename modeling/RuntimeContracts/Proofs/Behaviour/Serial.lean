import Mathlib.Algebra.BigOperators.Group.List.Defs
import Mathlib.Algebra.GroupWithZero.Nat
import RuntimeContracts.Behaviour.Session
import RuntimeContracts.Proofs.Behaviour.Exclusion

/-!
# Jobs behind a mutex run one after the other

Whatever the order in which workers move, some worker can move until all are finished, and a job
that panicked keeps no other out. So increments of a shared counter are not lost: the counter is the
number of jobs that have come to their write.
-/

namespace RuntimeContracts.Interleaving

/-! ## Progress -/

namespace World

variable {world : World} {place : Nat} {worker : Worker}

/-- A worker inside a job is never blocked. -/
theorem exists_move_of_busy (hworker : world.workers[place]? = some worker)
    (hbusy : worker.stage ≠ .idle) : ∃ next, world.move .locked place = some next := by
  obtain ⟨queue, stage⟩ := worker
  unfold World.move
  rw [hworker]
  cases stage with
  | idle => exact absurd rfl hbusy
  | running rest seen =>
    cases rest with
    | nil => exact ⟨_, rfl⟩
    | cons step rest => cases step <;> exact ⟨_, rfl⟩
  | leaving panicked => exact ⟨_, rfl⟩

/-- A waiting job is let in whenever nobody holds the mutex, poisoned or not. -/
theorem exists_move_of_free (hworker : world.workers[place]? = some worker)
    (hidle : worker.stage = .idle) (hqueue : worker.queue ≠ [])
    (hfree : world.mutex.held = false) : ∃ next, world.move .locked place = some next := by
  obtain ⟨queue, stage⟩ := worker
  cases hidle
  unfold World.move
  rw [hworker]
  cases queue with
  | nil => exact absurd rfl hqueue
  | cons job rest =>
    simp only [Discipline.enter, Mutex.acquire_of_not_held hfree]
    exact ⟨_, rfl⟩

end World

theorem HeldBy.exists_move {world : World} {holder : Option Nat} (h : HeldBy world holder)
    (hunfinished : world.isFinished = false) :
    ∃ place < world.workers.length, ∃ next, world.move .locked place = some next := by
  cases holder with
  | some place =>
    have hlt := h.lt_length place rfl
    have hworker : world.workers[place]? = some world.workers[place] :=
      List.getElem?_eq_getElem hlt
    have hbusy := (h.busy_iff place _ hworker).2 rfl
    exact ⟨place, hlt, World.exists_move_of_busy hworker hbusy⟩
  | none =>
    obtain ⟨worker, hmem, hleft⟩ := List.all_eq_false.1 hunfinished
    obtain ⟨place, hlt, hplace⟩ := List.getElem_of_mem hmem
    have hworker : world.workers[place]? = some worker := by
      rw [List.getElem?_eq_getElem hlt, hplace]
    have hidle : worker.stage = .idle := by
      refine Decidable.of_not_not fun hbusy => ?_
      cases (h.busy_iff place worker hworker).1 hbusy
    have hqueue : worker.queue ≠ [] := by
      intro hnil
      simp [hnil, hidle] at hleft
    exact ⟨place, hlt, World.exists_move_of_free hworker hidle hqueue h.held_eq⟩

theorem sum_map_set {α : Type} (f : α → Nat) {items : List α} {place : Nat} {old : α}
    (h : items[place]? = some old) (new : α) :
    ((items.set place new).map f).sum + f old = (items.map f).sum + f new := by
  induction items generalizing place with
  | nil => cases h
  | cons item rest ih =>
    cases place with
    | zero =>
      cases h
      simp only [List.set_cons_zero, List.map_cons, List.sum_cons]
      omega
    | succ place =>
      have hplace : rest[place]? = some old := h
      have hrest := ih hplace
      simp only [List.set_cons_succ, List.map_cons, List.sum_cons]
      omega

/-! The moves that are left at most, counted as `World.moveBound` counts them. -/

def Stage.bound : Stage → Nat
  | .idle => 0
  | .running rest _ => rest.length + 2
  | .leaving _ => 1

def Worker.bound (worker : Worker) : Nat :=
  worker.stage.bound + (worker.queue.map fun job => job.length + 3).sum

def World.bound (world : World) : Nat := (world.workers.map Worker.bound).sum

theorem WorkerStep.bound_lt {place counter counter' : Nat} {mutex mutex' : Mutex}
    {old new : Worker} {move : Move}
    (h : WorkerStep place mutex counter old move new mutex' counter') : new.bound < old.bound := by
  cases h <;> simp only [Worker.bound, Stage.bound, List.map_cons, List.sum_cons,
    List.length_cons, List.length_nil] <;> omega

namespace World

theorem bound_lt_of_step {world : World} {place : Nat} {old new : Worker} {move : Move}
    {mutex : Mutex} {counter : Nat} (hold : world.workers[place]? = some old)
    (hstep : WorkerStep place world.mutex world.counter old move new mutex counter) :
    World.bound ⟨mutex, counter, world.workers.set place new, move :: world.history⟩ <
      world.bound := by
  have hsum := sum_map_set Worker.bound hold new
  have hlt := hstep.bound_lt
  unfold World.bound
  dsimp only
  omega

theorem bound_run_le (world : World) (schedule : List Nat) :
    (world.run .locked schedule).bound ≤ world.bound := by
  refine run_induction (motive := fun next => next.bound ≤ world.bound) ?_ (Nat.le_refl _) schedule
  intro next place old move new mutex counter hle hold hstep
  have hlt := bound_lt_of_step hold hstep
  omega

theorem bound_run_lt {world : World} {place : Nat} {schedule : List Nat}
    (hmem : place ∈ schedule) (hmove : ∃ next, world.move .locked place = some next) :
    (world.run .locked schedule).bound < world.bound := by
  induction schedule with
  | nil => cases hmem
  | cons first rest ih =>
    change ((world.advance .locked first).run .locked rest).bound < world.bound
    unfold World.advance
    cases hfirst : world.move .locked first with
    | none =>
      -- The first worker is blocked, so it is another one that can move.
      have hne : place ≠ first := by
        rintro rfl
        obtain ⟨next, hnext⟩ := hmove
        rw [hfirst] at hnext
        cases hnext
      exact ih (List.mem_of_ne_of_mem hne hmem)
    | some next =>
      obtain ⟨old, move, new, mutex, counter, hold, hstep, rfl⟩ := exists_step_of_move hfirst
      have hlt := bound_lt_of_step hold hstep
      have hle := bound_run_le ⟨mutex, counter, world.workers.set first new,
        move :: world.history⟩ rest
      exact Nat.lt_of_le_of_lt hle hlt

/-- Workers that are moved in turn finish. -/
theorem isFinished_roundRobin {world : World} (h : ∃ holder, HeldBy world holder) {rounds : Nat}
    (hbound : world.bound ≤ rounds) : (world.roundRobin .locked rounds).isFinished = true := by
  induction rounds generalizing world with
  | zero =>
    refine Decidable.of_not_not fun hunfinished => ?_
    obtain ⟨holder, hheld⟩ := h
    obtain ⟨place, -, hmove⟩ := hheld.exists_move (Bool.eq_false_iff.2 hunfinished)
    have hlt := bound_run_lt (List.mem_singleton.2 (Eq.refl place)) hmove
    omega
  | succ rounds ih =>
    rw [roundRobin]
    split
    · next hfinished => exact hfinished
    · next hunfinished =>
      obtain ⟨holder, hheld⟩ := h
      obtain ⟨place, hplace, hmove⟩ := hheld.exists_move (Bool.eq_false_iff.2 hunfinished)
      have hlt := bound_run_lt (List.mem_range.2 hplace) hmove
      exact ih (exists_heldBy_run ⟨holder, hheld⟩ _) (by omega)

theorem exists_run_eq_roundRobin (rounds : Nat) (world : World) :
    ∃ schedule, world.roundRobin .locked rounds = world.run .locked schedule := by
  induction rounds generalizing world with
  | zero => exact ⟨[], rfl⟩
  | succ rounds ih =>
    rw [roundRobin]
    split
    · exact ⟨[], rfl⟩
    · obtain ⟨schedule, hschedule⟩ := ih (world.run .locked (List.range world.workers.length))
      refine ⟨List.range world.workers.length ++ schedule, ?_⟩
      rw [hschedule]
      exact (List.foldl_append ..).symm

end World

/-! ## Increments -/

def accesses (job : Job) : List JobStep := job.filter fun step => step = .read || step = .write

/-- The job reads the counter and writes it back later; it may pause and panic anywhere. -/
def IsIncrement (job : Job) : Prop := accesses job = [.read, .write]

instance (job : Job) : Decidable (IsIncrement job) := inferInstanceAs (Decidable (_ = _))

def reachesWrite (job : Job) : Bool := (reachedSteps job).contains .write

def Move.isWrite : Move → Bool
  | .performed _ .write => true
  | _ => false

/-- What is left of an increment: all of it, its write with the counter as it was read, or no
access. -/
def Stage.Counts (counter : Nat) : Stage → Prop
  | .idle | .leaving _ => True
  | .running rest seen => accesses rest = [.read, .write] ∨
      accesses rest = [.write] ∧ seen = counter ∨ accesses rest = []

def Stage.writesLeft : Stage → Nat
  | .running rest _ => (reachesWrite rest).toNat
  | .idle | .leaving _ => 0

def Worker.writesLeft (worker : Worker) : Nat :=
  worker.stage.writesLeft + worker.queue.countP reachesWrite

theorem reachesWrite_of_no_access {job : Job} (h : accesses job = []) :
    reachesWrite job = false := by
  have hnone : .write ∉ job := by
    intro hmem
    have haccess : .write ∈ accesses job := List.mem_filter.2 ⟨hmem, rfl⟩
    rw [h] at haccess
    cases haccess
  have hreached : .write ∉ reachedSteps job := fun hmem =>
    hnone ((List.takeWhile_sublist _).subset hmem)
  exact Bool.eq_false_iff.2 fun hcontains => hreached (List.contains_iff_mem.1 hcontains)

theorem reachesWrite_cons (step : JobStep) (rest : Job) :
    reachesWrite (step :: rest) = match step with
      | .write => true
      | .panic => false
      | .read | .pause => reachesWrite rest := by
  cases step <;> simp [reachesWrite, reachedSteps]

/-- One step of a worker whose jobs are increments: it writes back one more than the counter is. -/
theorem WorkerStep.counts {place counter counter' : Nat} {mutex mutex' : Mutex}
    {old new : Worker} {move : Move}
    (h : WorkerStep place mutex counter old move new mutex' counter')
    (hqueue : ∀ job ∈ old.queue, IsIncrement job) (hold : old.stage.Counts counter) :
    new.stage.Counts counter' ∧ counter' + new.writesLeft = counter + old.writesLeft ∧
      counter' = counter + move.isWrite.toNat := by
  cases h with
  | start job rest hfree =>
    have hjob : IsIncrement job := hqueue job List.mem_cons_self
    refine ⟨.inl hjob, ?_, rfl⟩
    have hcount : (if reachesWrite job = true then 1 else 0) = (reachesWrite job).toNat := by
      cases reachesWrite job <;> rfl
    simp only [Worker.writesLeft, Stage.writesLeft, List.countP_cons, hcount]
    omega
  | read queue rest seen =>
    have hrest : accesses (.read :: rest) = .read :: accesses rest := rfl
    refine ⟨?_, ?_, rfl⟩
    · rcases hold with hboth | ⟨hwrite, -⟩ | hnone
      · rw [hrest] at hboth
        exact .inr (.inl ⟨(List.cons.inj hboth).2, rfl⟩)
      · cases hrest.symm.trans hwrite
      · cases hrest.symm.trans hnone
    · simp only [Worker.writesLeft, Stage.writesLeft, reachesWrite_cons]
  | pause queue rest seen =>
    refine ⟨hold, ?_, rfl⟩
    simp only [Worker.writesLeft, Stage.writesLeft, reachesWrite_cons]
  | write queue rest seen =>
    have hrest : accesses (.write :: rest) = .write :: accesses rest := rfl
    rcases hold with hboth | ⟨hwrite, hseen⟩ | hnone
    · cases hrest.symm.trans hboth
    · -- Nobody has written since this job read, and it does not write again.
      rw [hrest] at hwrite
      have hdone : accesses rest = [] := (List.cons.inj hwrite).2
      refine ⟨.inr (.inr hdone), ?_, ?_⟩
      · simp only [Worker.writesLeft, Stage.writesLeft, reachesWrite_cons,
          reachesWrite_of_no_access hdone, Bool.toNat_true, Bool.toNat_false]
        omega
      · simp only [Move.isWrite, Bool.toNat_true]
        omega
    · cases hrest.symm.trans hnone
  | panic queue rest seen =>
    refine ⟨trivial, ?_, rfl⟩
    simp only [Worker.writesLeft, Stage.writesLeft, reachesWrite_cons, Bool.toNat_false]
  | finish queue seen => exact ⟨trivial, rfl, rfl⟩
  | release queue panicked => exact ⟨trivial, rfl, rfl⟩

theorem WorkerStep.busy_of_write {place counter counter' : Nat} {mutex mutex' : Mutex}
    {old new : Worker} {move : Move}
    (h : WorkerStep place mutex counter old move new mutex' counter')
    (hwrite : move.isWrite = true) : old.stage ≠ .idle := by
  cases h with
  | write => nofun
  | start | read | pause | panic | finish | release => cases hwrite

theorem WorkerStep.mem_queue {place counter counter' : Nat} {mutex mutex' : Mutex}
    {old new : Worker} {move : Move}
    (h : WorkerStep place mutex counter old move new mutex' counter') {job : Job}
    (hmem : job ∈ new.queue) : job ∈ old.queue := by
  cases h with
  | start first rest hfree => exact List.mem_cons_of_mem _ hmem
  | read | pause | write | panic | finish | release => exact hmem

structure Counting (total : Nat) (world : World) : Prop where
  held : ∃ holder, HeldBy world holder
  increments : ∀ (place : Nat) worker, world.workers[place]? = some worker →
    ∀ job ∈ worker.queue, IsIncrement job
  counts : ∀ (place : Nat) worker, world.workers[place]? = some worker →
    worker.stage.Counts world.counter
  counter_eq : world.counter = world.history.countP Move.isWrite
  total_eq : world.counter + (world.workers.map Worker.writesLeft).sum = total

theorem counting_new {queues : List (List Job)} (h : ∀ job ∈ queues.flatten, IsIncrement job) :
    Counting (queues.flatten.countP reachesWrite) (World.new queues) := by
  have hworker : ∀ (place : Nat) worker, (World.new queues).workers[place]? = some worker →
      ∃ queue ∈ queues, worker = ⟨queue, .idle⟩ := by
    intro place worker hworker
    obtain ⟨queue, hqueue, heq⟩ := List.mem_map.1 (List.mem_of_getElem? hworker)
    exact ⟨queue, hqueue, heq.symm⟩
  refine ⟨⟨none, heldBy_none_new queues⟩, ?_, ?_, rfl, ?_⟩
  · intro place worker hplace job hjob
    obtain ⟨queue, hqueue, rfl⟩ := hworker place worker hplace
    exact h job (List.mem_flatten.2 ⟨queue, hqueue, hjob⟩)
  · intro place worker hplace
    obtain ⟨queue, -, rfl⟩ := hworker place worker hplace
    trivial
  · have hleft : (Worker.writesLeft ∘ fun queue => (⟨queue, .idle⟩ : Worker)) =
        List.countP reachesWrite := by
      funext queue
      simp [Worker.writesLeft, Stage.writesLeft]
    simp only [World.new, List.map_map, hleft, List.countP_flatten, Nat.zero_add]

theorem Counting.step {total : Nat} {world : World} (h : Counting total world) {place : Nat}
    {old new : Worker} {move : Move} {mutex : Mutex} {counter : Nat}
    (hold : world.workers[place]? = some old)
    (hstep : WorkerStep place world.mutex world.counter old move new mutex counter) :
    Counting total ⟨mutex, counter, world.workers.set place new, move :: world.history⟩ := by
  obtain ⟨holder, hheld⟩ := h.held
  have hqueue := h.increments place old hold
  obtain ⟨hnew, hleft, hcounter⟩ := hstep.counts hqueue (h.counts place old hold)
  refine ⟨hheld.step hold hstep, ?_, ?_, ?_, ?_⟩
  · intro other worker hworker job hjob
    rcases getElem?_set_cases hworker with ⟨rfl, rfl⟩ | ⟨-, hworker⟩
    · exact hqueue job (hstep.mem_queue hjob)
    · exact h.increments other worker hworker job hjob
  · intro other worker hworker
    rcases getElem?_set_cases hworker with ⟨rfl, rfl⟩ | ⟨hother, hworker⟩
    · exact hnew
    · cases hwrite : move.isWrite with
      | true =>
        -- Only the holder of the mutex writes, so the other worker is idle.
        have hidle : worker.stage = .idle := by
          refine Decidable.of_not_not fun hbusy => hother ?_
          exact hheld.busy_unique hworker hold hbusy (hstep.busy_of_write hwrite)
        rw [hidle]
        trivial
      | false =>
        rw [hwrite, Bool.toNat_false, Nat.add_zero] at hcounter
        rw [hcounter]
        exact h.counts other worker hworker
  · have hmoves : (move :: world.history).countP Move.isWrite =
        world.history.countP Move.isWrite + move.isWrite.toNat := by
      cases hwrite : move.isWrite <;> simp [hwrite]
    have hbefore := h.counter_eq
    dsimp only
    omega
  · have hsum := sum_map_set Worker.writesLeft hold new
    have htotal := h.total_eq
    dsimp only
    omega

theorem counting_run {queues : List (List Job)} (h : ∀ job ∈ queues.flatten, IsIncrement job)
    (schedule : List Nat) :
    Counting (queues.flatten.countP reachesWrite) ((World.new queues).run .locked schedule) := by
  refine World.run_induction (motive := Counting _) ?_ (counting_new h) schedule
  intro world place old move new mutex counter hcounting hold hstep
  exact hcounting.step hold hstep

theorem Counting.counter_of_finished {total : Nat} {world : World} (h : Counting total world)
    (hfinished : world.isFinished = true) : world.counter = total := by
  have hnone : ∀ worker ∈ world.workers, worker.writesLeft = 0 := by
    intro worker hmem
    have hdone := List.all_eq_true.1 hfinished worker hmem
    obtain ⟨hqueue, hstage⟩ := Bool.and_eq_true_iff.1 hdone
    simp [Worker.writesLeft, List.isEmpty_iff.1 hqueue, of_decide_eq_true hstage,
      Stage.writesLeft]
  have hsum : (world.workers.map Worker.writesLeft).sum = 0 := by
    refine List.sum_eq_zero_iff_forall_eq_nat.2 fun left hmem => ?_
    obtain ⟨worker, hworker, rfl⟩ := List.mem_map.1 hmem
    exact hnone worker hworker
  have htotal := h.total_eq
  omega

/-! ## Moving in turn -/

namespace World

theorem bound_new (queues : List (List Job)) : (World.new queues).bound = moveBound queues := by
  have hfold : ∀ (jobs : List Job) (start : Nat),
      jobs.foldl (fun bound job => bound + job.length + 3) start =
        start + (jobs.map fun job => job.length + 3).sum := by
    intro jobs
    induction jobs with
    | nil => exact fun start => rfl
    | cons job rest ih =>
      intro start
      rw [List.foldl_cons, ih, List.map_cons, List.sum_cons]
      omega
  have hworkers : (Worker.bound ∘ fun queue => (⟨queue, .idle⟩ : Worker)) =
      List.sum ∘ List.map fun job => job.length + 3 := by
    funext queue
    simp [Worker.bound, Stage.bound]
  unfold moveBound World.bound World.new
  rw [hfold, Nat.zero_add, List.map_flatten, List.sum_flatten, List.map_map, List.map_map, hworkers]

/-- Increments that run in turn behind the mutex are all counted. -/
theorem finalCounter_locked {queues : List (List Job)}
    (h : ∀ job ∈ queues.flatten, IsIncrement job) :
    finalCounter .locked queues = queues.flatten.countP reachesWrite := by
  have hfinished : ((World.new queues).roundRobin .locked (moveBound queues)).isFinished = true :=
    isFinished_roundRobin ⟨none, heldBy_none_new queues⟩ (Nat.le_of_eq (bound_new queues))
  unfold finalCounter
  obtain ⟨schedule, hschedule⟩ := exists_run_eq_roundRobin (moveBound queues) (World.new queues)
  rw [hschedule] at hfinished ⊢
  exact (counting_run h schedule).counter_of_finished hfinished

end World

/-- Threads that increment in one locked context count all their jobs. -/
theorem countJobs_locked (threads jobs : Nat) :
    Behaviour.countJobs threads jobs .locked = threads * jobs := by
  have hincrement : ∀ job ∈ (List.replicate threads (List.replicate jobs increment)).flatten,
      job = increment := by
    intro job hmem
    obtain ⟨queue, hqueue, hjob⟩ := List.mem_flatten.1 hmem
    rw [List.eq_of_mem_replicate hqueue] at hjob
    exact List.eq_of_mem_replicate hjob
  have hcounts := World.finalCounter_locked fun job hmem =>
    hincrement job hmem ▸ (show IsIncrement increment by decide)
  have hreaches : reachesWrite increment = true := by decide
  unfold Behaviour.countJobs
  rw [hcounts, List.countP_flatten, List.map_replicate, List.countP_replicate, if_pos hreaches,
    List.sum_replicate_nat]

/-! ## Serial execution -/

theorem HeldBy.free_of_all_idle {world : World} {holder : Option Nat} (h : HeldBy world holder)
    (hidle : ∀ worker ∈ world.workers, worker.stage = .idle) : world.mutex.held = false := by
  cases holder with
  | none => exact h.held_eq
  | some place =>
    have hlt := h.lt_length place rfl
    have hbusy := (h.busy_iff place _ (List.getElem?_eq_getElem hlt)).2 rfl
    exact absurd (hidle _ (List.getElem_mem hlt)) hbusy

/-- However the moves of the workers interleave, at most one of them is inside a job, and each makes
the moves of its jobs in order, of each once. A worker inside a job is never blocked, and a waiting
one is let in whenever all are idle, so that they all can finish. If the jobs are increments, then
the counter is the number of writes, and in the end that of the jobs that come to their write. -/
theorem locked_jobs_are_serial (queues : List (List Job)) (schedule : List Nat) :
    let world := (World.new queues).run .locked schedule
    (∀ (first second : Nat) one other, world.workers[first]? = some one →
        world.workers[second]? = some other → one.stage ≠ .idle → other.stage ≠ .idle →
          first = second) ∧
      Follows queues world ∧
      (∀ (place : Nat) worker, world.workers[place]? = some worker →
        (worker.stage ≠ .idle ∨
          worker.queue ≠ [] ∧ ∀ other ∈ world.workers, other.stage = .idle) →
        ∃ next, world.move .locked place = some next) ∧
      (∃ more, (world.run .locked more).isFinished = true) ∧
      ((∀ job ∈ queues.flatten, IsIncrement job) →
        world.counter = world.history.countP Move.isWrite ∧
          (world.isFinished = true → world.counter = queues.flatten.countP reachesWrite)) := by
  intro world
  obtain ⟨holder, hheld⟩ : ∃ holder, HeldBy world holder :=
    exists_heldBy_run ⟨none, heldBy_none_new queues⟩ schedule
  refine ⟨?_, follows_run queues schedule, ?_, ?_, ?_⟩
  · intro first second one other hone hother
    exact hheld.busy_unique hone hother
  · intro place worker hworker hready
    by_cases hidle : worker.stage = .idle
    · obtain ⟨hqueue, hall⟩ := hready.resolve_left fun hbusy => hbusy hidle
      have hfree := hheld.free_of_all_idle hall
      exact World.exists_move_of_free hworker hidle hqueue hfree
    · exact World.exists_move_of_busy hworker hidle
  · obtain ⟨more, hmore⟩ := World.exists_run_eq_roundRobin world.bound world
    refine ⟨more, ?_⟩
    rw [← hmore]
    exact World.isFinished_roundRobin ⟨holder, hheld⟩ (Nat.le_refl _)
  · intro hincrements
    have hcounting := counting_run hincrements schedule
    exact ⟨hcounting.counter_eq, hcounting.counter_of_finished⟩

/-- Two of four increments panic, one of them before its write; the schedule switches between the
workers at every step. -/
theorem three_increments_reach_their_write :
    let queues : List (List Job) :=
      [[[.read, .panic, .write], increment], [[.pause, .read, .write, .panic], increment]]
    let world := (World.new queues).run .locked
      (List.flatten (List.replicate 28 [0, 1]))
    (∀ job ∈ queues.flatten, IsIncrement job) ∧ world.isFinished = true ∧
      world.mutex.poisoned = true ∧ world.counter = 3 := by
  intro queues world
  have hincrements : ∀ job ∈ queues.flatten, IsIncrement job := by decide
  have hfinished : world.isFinished = true := by decide +kernel
  have hpoisoned : world.mutex.poisoned = true := by decide +kernel
  have hcount : queues.flatten.countP reachesWrite = 3 := by decide
  have hcounter :=
    ((locked_jobs_are_serial queues _).2.2.2.2 hincrements).2 hfinished
  exact ⟨hincrements, hfinished, hpoisoned, hcounter.trans hcount⟩

/-- Without the mutex, two increments may both read before either writes. -/
example : ((World.new [[increment], [increment]]).run .free
    [0, 0, 1, 1, 0, 0, 1, 1]).counter = 1 := by
  decide

end RuntimeContracts.Interleaving
