import Mathlib.Data.List.Basic

/-!
# Fair counting semaphores

A returned permit goes to the waiter that is first in the queue.  That waiter
has the permit from then on, but learns it only when it is polled.
-/

structure Semaphore (Waiter : Type u) where
  permits : Nat
  queue : List Waiter
  assigned : List Waiter

namespace Semaphore

variable {Waiter : Type u}

def new (permits : Nat) : Semaphore Waiter :=
  { permits, queue := [], assigned := [] }

variable (semaphore : Semaphore Waiter)

/-- The permits no one has taken out of the semaphore yet. -/
def remaining : Nat := semaphore.permits + semaphore.assigned.length

/-- Return a permit. -/
def addPermit : Semaphore Waiter :=
  match semaphore.queue with
  | [] => { semaphore with permits := semaphore.permits + 1 }
  | waiter :: queue =>
    { semaphore with queue, assigned := semaphore.assigned ++ [waiter] }

/-- The first poll of a waiter: take a permit or join the queue. -/
def enter (waiter : Waiter) : Bool × Semaphore Waiter :=
  if 0 < semaphore.permits then
    (true, { semaphore with permits := semaphore.permits - 1 })
  else (false, { semaphore with queue := semaphore.queue ++ [waiter] })

variable [DecidableEq Waiter]

/-- A later poll: take the permit that was assigned to the waiter. -/
def wake (waiter : Waiter) : Bool × Semaphore Waiter :=
  if waiter ∈ semaphore.assigned then
    (true, { semaphore with assigned := semaphore.assigned.erase waiter })
  else (false, semaphore)

/-- A waiter is dropped.  A permit that was assigned to it is returned. -/
def leave (waiter : Waiter) :
    Semaphore Waiter :=
  match semaphore.wake waiter with
  | (true, semaphore) => semaphore.addPermit
  | (false, semaphore) =>
    { semaphore with queue := semaphore.queue.erase waiter }

omit [DecidableEq Waiter] in
@[simp]
theorem remaining_new (permits : Nat) :
    (new permits : Semaphore Waiter).remaining = permits := rfl

omit [DecidableEq Waiter] in
@[simp]
theorem remaining_addPermit (semaphore : Semaphore Waiter) :
    semaphore.addPermit.remaining = semaphore.remaining + 1 := by
  unfold addPermit remaining
  split
  · simp only
    omega
  · simp only [List.length_append, List.length_singleton]
    omega

omit [DecidableEq Waiter] in
theorem remaining_enter (semaphore : Semaphore Waiter) (waiter : Waiter) :
    (semaphore.enter waiter).2.remaining +
      (if (semaphore.enter waiter).1 then 1 else 0) =
      semaphore.remaining := by
  unfold enter remaining
  split
  · simp only [if_true]
    omega
  · simp

theorem remaining_wake (waiter : Waiter) :
    (semaphore.wake waiter).2.remaining +
      (if (semaphore.wake waiter).1 then 1 else 0) =
      semaphore.remaining := by
  unfold wake remaining
  split
  · next assigned =>
    have some := List.length_pos_of_mem assigned
    simp only [List.length_erase_of_mem assigned, if_true]
    omega
  · simp

@[simp]
theorem remaining_leave (waiter : Waiter) :
    (semaphore.leave waiter).remaining = semaphore.remaining := by
  have woken := semaphore.remaining_wake waiter
  unfold leave
  split
  · next later taken =>
    rw [taken] at woken
    rw [remaining_addPermit]
    exact woken
  · next later missed =>
    rw [missed] at woken
    exact woken

end Semaphore
