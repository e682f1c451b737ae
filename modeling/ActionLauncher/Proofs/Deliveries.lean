import Mathlib.Data.List.DropRight
import Mathlib.Order.Bounds.Basic
import ActionLauncher.Bus

namespace ActionLauncher.Bus

variable {α : Type}

/-- What can be done with a bus, through the bus itself or any of its clones. -/
inductive Call (α : Type)
  | subscribe
  | unsubscribe (number : Nat)
  | publish (item : α)
  | drain (number : Nat)

def Call.isSubscribe : Call α → Bool
  | subscribe => true
  | _ => false

def Call.isPublish : Call α → Bool
  | publish _ => true
  | _ => false

def Call.perform (bus : Bus α) : Call α → Bus α
  | subscribe => bus.subscribe.2
  | unsubscribe number => bus.unsubscribe number
  | publish item => (bus.publish item).2
  | drain number => (bus.drain number).2

/-- The bus after a history of calls, the newest of which comes first. -/
def after (bus : Bus α) : List (Call α) → Bus α
  | [] => bus
  | call :: earlier => call.perform (bus.after earlier)

/-- How many receivers were added; each gets the number of those before it. -/
def subscriptions (history : List (Call α)) : Nat :=
  history.countP Call.isSubscribe

/-- The receivers that were added and not removed. -/
def live : List (Call α) → List Nat
  | [] => []
  | .subscribe :: earlier => live earlier ++ [subscriptions earlier]
  | .unsubscribe number :: earlier => (live earlier).filter (· != number)
  | .publish _ :: earlier | .drain _ :: earlier => live earlier

/-- What was published since a receiver was added or last drained, in order. -/
def since (number : Nat) : List (Call α) → List α
  | [] => []
  | .subscribe :: earlier => if subscriptions earlier = number then [] else since number earlier
  | .unsubscribe _ :: earlier => since number earlier
  | .publish item :: earlier => since number earlier ++ [item]
  | .drain drained :: earlier => if drained = number then [] else since number earlier

section Collect

variable {bus : Bus α} {position : Nat}

theorem receive_of_lagging (h : position < bus.oldest) :
    bus.receive position = (.lagged (bus.oldest - position), bus.oldest) :=
  if_pos h

theorem receive_of_retained (h : bus.oldest ≤ position) (hlt : position < bus.log.size) :
    bus.receive position = (.item bus.log[position], position + 1) := by
  rw [receive, if_neg (by omega), Array.getElem?_eq_getElem hlt]

theorem receive_of_end (h : bus.log.size ≤ position) :
    bus.receive position = (.empty, position) := by
  have holdest : ¬ position < bus.oldest := by
    rw [oldest]
    omega
  rw [receive, if_neg holdest, Array.getElem?_eq_none h]

theorem collect_step (bus : Bus α) (position : Nat) :
    bus.collect position =
      match bus.receive position with
      | (.item item, next) => (item :: (bus.collect next).1, (bus.collect next).2)
      | (.lagged _, next) => bus.collect next
      | (.empty, next) => ([], next) := by
  rw [collect]
  split <;> rename_i heq <;> simp only [heq]

theorem collect_of_retained (h : bus.oldest ≤ position) (hsize : position ≤ bus.log.size) :
    bus.collect position = (bus.log.toList.drop position, bus.log.size) := by
  induction hleft : bus.log.size - position generalizing position with
  | zero =>
      have hend : position = bus.log.size := by omega
      subst hend
      rw [collect_step, receive_of_end (Nat.le_refl _), List.drop_eq_nil_of_le (by simp)]
  | succ left ih =>
      have hlt : position < bus.log.size := by omega
      have hnext : bus.collect (position + 1) =
          (bus.log.toList.drop (position + 1), bus.log.size) :=
        ih (by omega) (by omega) (by omega)
      have hfirst : bus.log.toList.drop position =
          bus.log[position] :: bus.log.toList.drop (position + 1) :=
        List.drop_eq_getElem_cons (by simpa using hlt)
      rw [collect_step, receive_of_retained h hlt, hfirst]
      dsimp only
      rw [hnext]

theorem collect_eq (hsize : position ≤ bus.log.size) :
    bus.collect position = ((bus.log.toList.drop position).rtake bus.capacity, bus.log.size) := by
  have holdest : bus.oldest ≤ bus.log.size := Nat.sub_le _ _
  have hrtake : (bus.log.toList.drop position).rtake bus.capacity =
      bus.log.toList.drop (max position bus.oldest) := by
    rw [List.rtake, List.drop_drop, List.length_drop, Array.length_toList, oldest]
    congr 1
    omega
  rw [hrtake]
  rcases Nat.lt_or_ge position bus.oldest with hlags | hretained
  · rw [collect_step, receive_of_lagging hlags, Nat.max_eq_right (Nat.le_of_lt hlags)]
    exact collect_of_retained (Nat.le_refl _) holdest
  · rw [Nat.max_eq_left hretained]
    exact collect_of_retained hretained hsize

end Collect

section History

variable {history : List (Call α)}

theorem lt_subscriptions_of_mem_live {number : Nat} (h : number ∈ live history) :
    number < subscriptions history := by
  induction history with
  | nil => simp [live] at h
  | cons call earlier ih =>
      have hmore : subscriptions earlier ≤ subscriptions (call :: earlier) :=
        (List.sublist_cons_self call earlier).countP_le
      cases call with
      | subscribe =>
          have hnext : subscriptions (.subscribe :: earlier) = subscriptions earlier + 1 :=
            List.countP_cons_of_pos rfl
          rw [live, List.mem_append, List.mem_singleton] at h
          rcases h with h | rfl
          · exact Nat.lt_of_lt_of_le (ih h) hmore
          · omega
      | unsubscribe removed => exact Nat.lt_of_lt_of_le (ih (List.mem_of_mem_filter h)) hmore
      | publish item => exact Nat.lt_of_lt_of_le (ih h) hmore
      | drain drained => exact Nat.lt_of_lt_of_le (ih h) hmore

end History

/-- The bus keeps account of a history: every receiver stands before what it is owed. -/
structure Accounts (capacity : Nat) (history : List (Call α)) (bus : Bus α) : Prop where
  capacity_eq : bus.capacity = capacity
  published : bus.published = history.countP Call.isPublish
  nextNumber : bus.nextNumber = subscriptions history
  numbers : bus.receivers.map Receiver.number = live history
  reached : ∀ receiver ∈ bus.receivers, receiver.position ≤ bus.log.size
  owed : ∀ receiver ∈ bus.receivers,
    bus.log.toList.drop receiver.position = since receiver.number history

namespace Accounts

variable {capacity : Nat} {history : List (Call α)} {bus : Bus α}

theorem mem_live (h : Accounts capacity history bus) {receiver : Receiver}
    (hreceiver : receiver ∈ bus.receivers) : receiver.number ∈ live history := by
  rw [← h.numbers]
  exact List.mem_map_of_mem hreceiver

theorem find (h : Accounts capacity history bus) {number : Nat} (hnumber : number ∈ live history) :
    ∃ receiver ∈ bus.receivers, receiver.number = number ∧
      bus.receivers.find? (fun r => r.number == number) = some receiver := by
  rw [← h.numbers] at hnumber
  obtain ⟨known, hknown, rfl⟩ := List.mem_map.1 hnumber
  cases hfind : bus.receivers.find? fun r => r.number == known.number with
  | none => exact absurd (List.find?_eq_none.1 hfind known hknown) (by simp)
  | some receiver =>
      exact ⟨receiver, List.mem_of_find?_eq_some hfind, by simpa using List.find?_some hfind, rfl⟩

theorem drain_eq (h : Accounts capacity history bus) {number : Nat}
    (hnumber : number ∈ live history) :
    bus.drain number = ((since number history).rtake capacity,
      { bus with
        receivers := bus.receivers.map fun r =>
          if r.number = number then { r with position := bus.log.size } else r }) := by
  obtain ⟨receiver, hmem, hreceiver, hfind⟩ := h.find hnumber
  rw [drain, hfind]
  dsimp only
  rw [collect_eq (h.reached receiver hmem), h.owed receiver hmem, hreceiver, h.capacity_eq]

theorem drain_eq_self (h : Accounts capacity history bus) {number : Nat}
    (hnumber : number ∉ live history) : bus.drain number = ([], bus) := by
  have hnone : bus.receivers.find? (fun r => r.number == number) = none := by
    rw [List.find?_eq_none]
    intro receiver hmem hreceiver
    rw [beq_iff_eq] at hreceiver
    exact hnumber (hreceiver ▸ h.mem_live hmem)
  rw [drain, hnone]

theorem start {bus : Bus α} (h : ofCapacity? capacity = some bus) :
    Accounts (powerAbove capacity) [] bus := by
  unfold ofCapacity? at h
  split at h
  · cases h
  · cases h
    exact ⟨rfl, rfl, rfl, rfl, by simp, by simp⟩

theorem subscribe (h : Accounts capacity history bus) :
    Accounts capacity (.subscribe :: history) bus.subscribe.2 where
  capacity_eq := h.capacity_eq
  published := h.published
  nextNumber := by
    show bus.nextNumber + 1 = _
    rw [h.nextNumber]
    exact (List.countP_cons_of_pos rfl).symm
  numbers := by
    show (bus.receivers ++ [Receiver.mk bus.nextNumber bus.log.size]).map Receiver.number = _
    rw [List.map_append, h.numbers, h.nextNumber]
    rfl
  reached := by
    intro receiver hreceiver
    rcases List.mem_append.1 hreceiver with hreceiver | hreceiver
    · exact h.reached receiver hreceiver
    · rw [List.mem_singleton.1 hreceiver]
      exact Nat.le_refl _
  owed := by
    intro receiver hreceiver
    show bus.log.toList.drop receiver.position = _
    rw [since]
    rcases List.mem_append.1 hreceiver with hreceiver | hreceiver
    · have hlt := lt_subscriptions_of_mem_live (h.mem_live hreceiver)
      rw [if_neg (by omega), h.owed receiver hreceiver]
    · rw [List.mem_singleton.1 hreceiver, if_pos h.nextNumber.symm]
      exact List.drop_eq_nil_of_le (by simp)

theorem unsubscribe (h : Accounts capacity history bus) (number : Nat) :
    Accounts capacity (.unsubscribe number :: history) (bus.unsubscribe number) where
  capacity_eq := h.capacity_eq
  published := h.published
  nextNumber := h.nextNumber
  numbers := by
    show (bus.receivers.filter fun r => r.number != number).map Receiver.number = _
    rw [live, ← h.numbers, List.filter_map]
    rfl
  reached := fun receiver hreceiver => h.reached receiver (List.mem_of_mem_filter hreceiver)
  owed := fun receiver hreceiver => h.owed receiver (List.mem_of_mem_filter hreceiver)

theorem publish (h : Accounts capacity history bus) (item : α) :
    Accounts capacity (.publish item :: history) (bus.publish item).2 := by
  have hcount : bus.published + 1 = (Call.publish item :: history).countP Call.isPublish := by
    rw [h.published]
    exact (List.countP_cons_of_pos rfl).symm
  unfold Bus.publish
  split
  · -- Nobody is owed anything, so nothing needs to be kept.
    rename_i hnobody
    rw [List.isEmpty_iff] at hnobody
    refine ⟨h.capacity_eq, hcount, h.nextNumber, h.numbers, h.reached, ?_⟩
    intro receiver hreceiver
    change receiver ∈ bus.receivers at hreceiver
    rw [hnobody] at hreceiver
    cases hreceiver
  · refine ⟨h.capacity_eq, hcount, h.nextNumber, h.numbers, ?_, ?_⟩
    · intro receiver hreceiver
      show receiver.position ≤ (bus.log.push item).size
      rw [Array.size_push]
      exact Nat.le_succ_of_le (h.reached receiver hreceiver)
    · intro receiver hreceiver
      have hreached := h.reached receiver hreceiver
      show (bus.log.push item).toList.drop receiver.position = _
      rw [Array.toList_push, List.drop_append_of_le_length (by simpa using hreached),
        h.owed receiver hreceiver]
      rfl

theorem drain (h : Accounts capacity history bus) (number : Nat) :
    Accounts capacity (.drain number :: history) (bus.drain number).2 := by
  by_cases hnumber : number ∈ live history
  · rw [h.drain_eq hnumber]
    refine ⟨h.capacity_eq, h.published, h.nextNumber, ?numbers, ?reached, ?owed⟩
    case numbers =>
      rw [live, ← h.numbers, List.map_map]
      refine List.map_congr_left fun receiver _ => ?_
      dsimp only [Function.comp_apply]
      split <;> rfl
    case reached =>
      intro receiver hreceiver
      obtain ⟨r, hr, rfl⟩ := List.mem_map.1 hreceiver
      split
      · exact Nat.le_refl _
      · exact h.reached r hr
    case owed =>
      intro receiver hreceiver
      obtain ⟨r, hr, rfl⟩ := List.mem_map.1 hreceiver
      rw [since]
      split
      · rename_i hdrained
        rw [if_pos hdrained.symm]
        exact List.drop_eq_nil_of_le (by simp)
      · rename_i hother
        rw [if_neg (Ne.symm hother)]
        exact h.owed r hr
  · rw [h.drain_eq_self hnumber]
    refine ⟨h.capacity_eq, h.published, h.nextNumber, h.numbers, h.reached, ?_⟩
    intro receiver hreceiver
    have hother : number ≠ receiver.number := by
      rintro rfl
      exact hnumber (h.mem_live hreceiver)
    rw [since, if_neg hother]
    exact h.owed receiver hreceiver

theorem perform (h : Accounts capacity history bus) (call : Call α) :
    Accounts capacity (call :: history) (call.perform bus) := by
  cases call with
  | subscribe => exact h.subscribe
  | unsubscribe number => exact h.unsubscribe number
  | publish item => exact h.publish item
  | drain number => exact h.drain number

theorem after {bus : Bus α} (h : Accounts capacity [] bus) (history : List (Call α)) :
    Accounts capacity history (bus.after history) := by
  induction history with
  | nil => exact h
  | cons call earlier ih => exact ih.perform call

end Accounts

theorem powerAbove_isLeast (capacity : Nat) :
    IsLeast { n | capacity ≤ n ∧ ∃ k, n = Nat.pow 2 k } (powerAbove capacity) := by
  unfold powerAbove
  split
  · rename_i hone
    refine ⟨⟨hone, 0, rfl⟩, ?_⟩
    rintro n ⟨-, k, rfl⟩
    exact Nat.one_le_two_pow
  · have hpos : capacity - 1 ≠ 0 := by omega
    refine ⟨⟨?_, _, rfl⟩, ?_⟩
    · have hlt : capacity - 1 < 2 ^ ((capacity - 1).log2 + 1) :=
        (Nat.log2_lt hpos).1 (Nat.lt_succ_self _)
      show capacity ≤ 2 ^ ((capacity - 1).log2 + 1)
      omega
    · rintro n ⟨hle, k, rfl⟩
      have hlt : capacity - 1 < Nat.pow 2 k := by omega
      have hlog : (capacity - 1).log2 < k := (Nat.log2_lt hpos).2 hlt
      exact Nat.pow_le_pow_right (by decide) hlog

/-- What a bus answers after a history of calls. -/
structure Delivers (retained : Nat) (history : List (Call α)) (bus : Bus α) : Prop where
  published : bus.published = history.countP Call.isPublish
  subscribe : bus.subscribe.1 = subscriptions history
  publish : ∀ item, (bus.publish item).1 = (live history).length
  drain : ∀ number ∈ live history, (bus.drain number).1 = (since number history).rtake retained
  drain_again : ∀ number ∈ live history, ((bus.drain number).2.drain number).1 = []

/-- Whatever was done with a bus, every publication is counted and told how many receivers are
alive, and each of those is handed the newest of what was published since it was added or last
drained: as many publications as the bus retains, the least power of two that its capacity asks
for. -/
theorem after_delivers {capacity : Nat} {bus : Bus α} (h : ofCapacity? capacity = some bus) :
    ∃ retained, IsLeast { n | capacity ≤ n ∧ ∃ k, n = Nat.pow 2 k } retained ∧
      ∀ history : List (Call α), Delivers retained history (bus.after history) := by
  refine ⟨powerAbove capacity, powerAbove_isLeast capacity, fun history => ?_⟩
  have haccounts := (Accounts.start h).after history
  refine ⟨haccounts.published, haccounts.nextNumber, ?publish, ?drain, ?drain_again⟩
  case publish =>
    intro item
    rw [← haccounts.numbers, List.length_map, Bus.publish]
    split
    · rename_i hnobody
      rw [List.isEmpty_iff.1 hnobody]
      rfl
    · rfl
  case drain =>
    intro number hnumber
    rw [haccounts.drain_eq hnumber]
  case drain_again =>
    intro number hnumber
    have hdrained := haccounts.drain number
    rw [hdrained.drain_eq hnumber, since, if_pos rfl]
    exact List.rtake_nil _

/-- Two receivers, the first of which lags behind what a bus of capacity three retains. -/
def overrun : List (Call Nat) :=
  [.publish 6, .publish 5, .subscribe, .publish 4, .publish 3, .publish 2, .publish 1, .subscribe]

theorem after_delivers_overrun :
    ∃ bus : Bus Nat, ofCapacity? 3 = some bus ∧ live overrun = [0, 1] ∧
      ((bus.after overrun).drain 0).1 = [3, 4, 5, 6] ∧
      ((bus.after overrun).drain 1).1 = [5, 6] := by
  have hbus : ofCapacity? 3 = some (⟨4, #[], 0, [], 0⟩ : Bus Nat) := rfl
  have hlive : live overrun = [0, 1] := rfl
  obtain ⟨retained, hleast, hdelivers⟩ := after_delivers hbus
  obtain rfl : retained = 4 := hleast.unique (powerAbove_isLeast 3)
  have hdrain := (hdelivers overrun).drain
  rw [hlive] at hdrain
  exact ⟨_, hbus, hlive, hdrain 0 (by decide), hdrain 1 (by decide)⟩

end ActionLauncher.Bus
