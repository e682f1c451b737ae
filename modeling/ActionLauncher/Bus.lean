/-!
A bus that hands every publication to all its receivers without ever waiting for one.  Only the
newest publications are retained for them, a power of two; a receiver that lags behind misses the
oldest.  What is published while there is no receiver is counted and lost.  A bus is the state that
all its clones share, so what is done through a clone is done to the bus.
-/

namespace ActionLauncher

/-- A receiver: its number, and how many stored publications it has passed. -/
structure Receiver where
  number : Nat
  position : Nat
  deriving DecidableEq, Repr

structure Bus (α : Type) where
  /-- How many publications are retained. -/
  capacity : Nat
  /-- The publications that had a receiver, in order; only the newest of them are retained. -/
  log : Array α
  /-- How many publications there were. -/
  published : Nat
  receivers : List Receiver
  /-- The number of the next receiver. -/
  nextNumber : Nat

/-- What a receiver is told when it asks for its next publication. -/
inductive Reception (α : Type)
  | item (item : α)
  /-- So many publications that it had not passed are no longer retained. -/
  | lagged (missed : Nat)
  | empty

namespace Bus

variable {α : Type}

/-- The least power of two that is not below `n`. -/
def powerAbove (n : Nat) : Nat :=
  if n ≤ 1 then 1 else Nat.pow 2 (Nat.log2 (n - 1) + 1)

/-- The largest capacity that can be asked for: two to the power of 55. -/
def maxCapacity : Nat := 36028797018963968

/-- A bus without publications and receivers.  There is none of capacity zero, and none beyond the
largest capacity. -/
def ofCapacity? (capacity : Nat) : Option (Bus α) :=
  if capacity = 0 ∨ maxCapacity < capacity then none
  else some ⟨powerAbove capacity, #[], 0, [], 0⟩

/-- The capacity of a bus for which none is asked. -/
def defaultCapacity : Nat := 256

def empty : Bus α :=
  ⟨defaultCapacity, #[], 0, [], 0⟩

def receiverCount (bus : Bus α) : Nat :=
  bus.receivers.length

/-- Adds a receiver of what is published from now on; returns its number. -/
def subscribe (bus : Bus α) : Nat × Bus α :=
  (bus.nextNumber,
    { bus with
      receivers := bus.receivers ++ [⟨bus.nextNumber, bus.log.size⟩]
      nextNumber := bus.nextNumber + 1 })

def unsubscribe (bus : Bus α) (number : Nat) : Bus α :=
  { bus with receivers := bus.receivers.filter fun r => r.number != number }

/-- Publishes; returns the number of receivers. -/
def publish (bus : Bus α) (item : α) : Nat × Bus α :=
  if bus.receivers.isEmpty then (0, { bus with published := bus.published + 1 })
  else
    (bus.receiverCount,
      { bus with
        log := bus.log.push item
        published := bus.published + 1 })

/-- Publishes one after another; returns the number of receivers of the last one. -/
def publishAll (bus : Bus α) (items : List α) : Nat × Bus α :=
  items.foldl (fun (_, bus) item => bus.publish item) (0, bus)

/-- The position of the oldest publication that is retained. -/
def oldest (bus : Bus α) : Nat :=
  bus.log.size - bus.capacity

/-- What a receiver at a position is told, and its position afterwards.  One that lags behind goes
on at the oldest publication that is retained. -/
def receive (bus : Bus α) (position : Nat) : Reception α × Nat :=
  if position < bus.oldest then (.lagged (bus.oldest - position), bus.oldest)
  else match bus.log[position]? with
    | some item => (.item item, position + 1)
    | none => (.empty, position)

theorem left_of_receive {bus : Bus α} {position next : Nat} {reception : Reception α}
    (h : bus.receive position = (reception, next)) (hsome : reception ≠ .empty) :
    bus.log.size - next < bus.log.size - position := by
  unfold receive at h
  split at h
  · rename_i hlags
    obtain ⟨-, rfl⟩ := Prod.mk.inj h
    simp only [oldest] at hlags ⊢
    omega
  · split at h
    · rename_i item hitem
      obtain ⟨-, rfl⟩ := Prod.mk.inj h
      have hbound := (Array.getElem?_eq_some_iff.1 hitem).1
      omega
    · obtain ⟨rfl, -⟩ := Prod.mk.inj h
      exact absurd rfl hsome

/-- Receives until nothing is left, whether or not the receiver lags behind; returns the position
afterwards. -/
def collect (bus : Bus α) (position : Nat) : List α × Nat :=
  match h : bus.receive position with
  | (.item item, next) =>
      have := left_of_receive h (by simp)
      let (rest, last) := collect bus next
      (item :: rest, last)
  | (.lagged _, next) =>
      have := left_of_receive h (by simp)
      collect bus next
  | (.empty, next) => ([], next)
  termination_by bus.log.size - position

/-- Takes everything that is pending for a receiver. -/
def drain (bus : Bus α) (number : Nat) : List α × Bus α :=
  match bus.receivers.find? fun r => r.number == number with
  | none => ([], bus)
  | some receiver =>
      let (items, position) := bus.collect receiver.position
      (items, { bus with
        receivers := bus.receivers.map fun r =>
          if r.number = number then { r with position } else r })

/-- A short account of the bus for diagnostics. -/
def describe (bus : Bus α) : String :=
  "EventBus \x7b subscriber_count: " ++ toString bus.receiverCount ++ ", published_count: " ++
    toString bus.published ++ " \x7d"

end Bus

end ActionLauncher
