/-!
# Mutexes

A mutex has at most one holder. A holder that panics poisons it on the way out, and whoever locks it
then is told so. Acquiring recovers from that, as nothing is guarded that a panic could leave half
done.
-/

namespace RuntimeContracts

structure Mutex where
  held : Bool
  poisoned : Bool
deriving DecidableEq, Repr

namespace Mutex

def new : Mutex := ⟨false, false⟩

/-- What locking comes to. Both guards hold the mutex; the second one says that it is poisoned. -/
inductive LockResult where
  | blocked
  | guard (mutex : Mutex)
  | poisonedGuard (mutex : Mutex)
deriving DecidableEq, Repr

def lock (mutex : Mutex) : LockResult :=
  if mutex.held then .blocked
  else if mutex.poisoned then .poisonedGuard { mutex with held := true }
  else .guard { mutex with held := true }

/-- Takes a guard for what it is, whatever it says. -/
def LockResult.recover : LockResult → Option Mutex
  | .blocked => none
  | .guard mutex | .poisonedGuard mutex => some mutex

/-- Fails only while somebody holds the mutex. -/
def acquire (mutex : Mutex) : Option Mutex := mutex.lock.recover

def release (mutex : Mutex) (panicking : Bool) : Mutex :=
  ⟨false, mutex.poisoned || panicking⟩

theorem lock_of_held {mutex : Mutex} (h : mutex.held = true) : mutex.lock = .blocked := if_pos h

theorem lock_of_not_held {mutex : Mutex} (h : mutex.held = false) :
    mutex.lock = if mutex.poisoned then .poisonedGuard ⟨true, true⟩ else .guard ⟨true, false⟩ := by
  obtain ⟨held, poisoned⟩ := mutex
  subst h
  cases poisoned <;> rfl

theorem acquire_of_not_held {mutex : Mutex} (h : mutex.held = false) :
    mutex.acquire = some ⟨true, mutex.poisoned⟩ := by
  rw [acquire, lock_of_not_held h]
  cases mutex.poisoned with
  | false | true => rfl

theorem acquire_of_held {mutex : Mutex} (h : mutex.held = true) : mutex.acquire = none := by
  rw [acquire, lock_of_held h]
  rfl

@[simp] theorem held_release (mutex : Mutex) (panicking : Bool) :
    (mutex.release panicking).held = false := rfl

end Mutex
end RuntimeContracts
