import RuntimeContracts.Behaviour.Mutex

/-!
# Interleaved jobs

Several workers run their jobs against one shared counter, one step at a time and in any order.
Under the locked discipline a worker acquires the mutex before a job and releases it after the job,
also after one that panics; under the free discipline jobs overlap.
-/

namespace RuntimeContracts.Interleaving

/-- One step of a job: the counter is read, and later written back as what was read plus one. -/
inductive JobStep where
  | read
  | pause
  | write
  | panic
deriving DecidableEq, Repr

abbrev Job := List JobStep

/-- An increment that lets others run between its read and its write. -/
def increment : Job := [.read, .pause, .write]

inductive Stage where
  | idle
  | running (rest : Job) (seen : Nat)
  | leaving (panicked : Bool)
deriving DecidableEq, Repr

structure Worker where
  queue : List Job
  stage : Stage
deriving DecidableEq, Repr

inductive Discipline where
  | free
  | locked
deriving DecidableEq, Repr

inductive Move where
  | started (worker : Nat)
  | performed (worker : Nat) (step : JobStep)
  | ended (worker : Nat) (panicked : Bool)
  | released (worker : Nat)
deriving DecidableEq, Repr

/-- The moves made so far are kept, the last one first. -/
structure World where
  mutex : Mutex
  counter : Nat
  workers : List Worker
  history : List Move
deriving DecidableEq, Repr

namespace World

def new (queues : List (List Job)) : World :=
  ⟨Mutex.new, 0, queues.map (⟨·, .idle⟩), []⟩

def setWorker (world : World) (place : Nat) (worker : Worker) (move : Move) : World :=
  { world with workers := world.workers.set place worker, history := move :: world.history }

end World

namespace Discipline

def enter : Discipline → Mutex → Option Mutex
  | free, mutex => some mutex
  | locked, mutex => mutex.acquire

def leave (panicking : Bool) : Discipline → Mutex → Mutex
  | free, mutex => mutex
  | locked, mutex => mutex.release panicking

end Discipline

namespace World

/-- The next move of the worker at a place; `none` while it is blocked and when it is done. -/
def move (discipline : Discipline) (place : Nat) (world : World) : Option World :=
  match world.workers[place]? with
  | none => none
  | some ⟨queue, .idle⟩ =>
    match queue with
    | [] => none
    | job :: rest =>
      match discipline.enter world.mutex with
      | none => none
      | some mutex =>
        some ({ world with mutex }.setWorker place ⟨rest, .running job 0⟩ (.started place))
  | some ⟨queue, .running [] _⟩ =>
    some (world.setWorker place ⟨queue, .leaving false⟩ (.ended place false))
  | some ⟨queue, .running (step :: rest) seen⟩ =>
    match step with
    | .read =>
      some (world.setWorker place ⟨queue, .running rest world.counter⟩ (.performed place .read))
    | .pause =>
      some (world.setWorker place ⟨queue, .running rest seen⟩ (.performed place .pause))
    | .write =>
      some ({ world with counter := seen + 1 }.setWorker place ⟨queue, .running rest seen⟩
        (.performed place .write))
    | .panic =>
      some (world.setWorker place ⟨queue, .leaving true⟩ (.ended place true))
  | some ⟨queue, .leaving panicked⟩ =>
    some ({ world with mutex := discipline.leave panicked world.mutex }.setWorker place
      ⟨queue, .idle⟩ (.released place))

/-- A worker that cannot move is passed over. -/
def advance (discipline : Discipline) (world : World) (place : Nat) : World :=
  (world.move discipline place).getD world

/-- The world after the workers moved in the order of the schedule. -/
def run (discipline : Discipline) (world : World) (schedule : List Nat) : World :=
  schedule.foldl (advance discipline) world

def isFinished (world : World) : Bool :=
  world.workers.all fun worker => worker.queue.isEmpty && worker.stage = .idle

/-- Moves all workers in turn, until they are finished or the rounds are used up. -/
def roundRobin (discipline : Discipline) : Nat → World → World
  | 0, world => world
  | rounds + 1, world =>
    if world.isFinished then world
    else roundRobin discipline rounds (world.run discipline (List.range world.workers.length))

/-- The moves that the jobs need at most: the steps of each, a start, an end and a release. -/
def moveBound (queues : List (List Job)) : Nat :=
  queues.flatten.foldl (fun bound job => bound + job.length + 3) 0

def finalCounter (discipline : Discipline) (queues : List (List Job)) : Nat :=
  ((World.new queues).roundRobin discipline (moveBound queues)).counter

end World
end RuntimeContracts.Interleaving
