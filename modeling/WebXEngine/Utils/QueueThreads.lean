import WebXEngine.Foundations.Monitors
import WebXEngine.Foundations.Runs
import WebXEngine.Utils.Fault
import WebXEngine.Utils.Queue

/-! # Threads at a queue

The queue with its lock and its condition variable. A thread that finds nothing in the queue sleeps until
an item is delivered or the queue is stopped, and looks again. The engine puts all items with the same
priority.

* **`QueueThreads.step`** — what the threads do, in the order in which they have the lock.
* **`QueueThreads.Sound`** — items are returned in the order in which they were put, no wake-up is lost,
  and no thread sleeps at a queue that has been stopped.
* **`sound_of_run`** — this is so after every run. -/

namespace WebXEngine

variable {T α : Type*} [DecidableEq T]

/-! ## The threads -/

/-- A queue with the threads that wait for items, and what has happened: the items that were accepted,
and what the calls of the threads have returned, in the order of the lock. -/
structure QueueThreads (T α : Type*) where
  queue : WebXQueue α
  sleepers : Sleepers T
  accepted : List α
  returned : List (T × QueueAnswer α)

/-- What a thread does when it has the lock. A thread puts an item, and notifies one of those that sleep;
it looks for an item, when it calls for one or when it has been woken up; it wakes up for no reason; it
stops the queue. -/
inductive ThreadAction (T α : Type*)
  | put (item : α) (notified : Option T)
  | get (thread : T)
  | wake (thread : T)
  | stop
  deriving DecidableEq, Repr

namespace QueueThreads

/-- A new queue. -/
def new : QueueThreads T α := ⟨.new, .nobody, [], []⟩

/-- The number for items that are put without a priority. -/
def defaultPriority : Int32 := 0

/-- An item is put. It fails when an iterator is compared that the insertion has made invalid. -/
def put (threads : QueueThreads T α) (item : α) (notified : Option T) :
    Except Fault (QueueThreads T α) :=
  if threads.queue.unavailable then
    pure threads
  else
    match threads.queue.put none item defaultPriority with
    | none => throw .freedObject
    | some queue => pure
        { threads with
          queue := queue
          sleepers := threads.sleepers.notifyOne notified
          accepted := threads.accepted ++ [item] }

/-- A thread looks for an item. -/
def get (threads : QueueThreads T α) (thread : T) : QueueThreads T α :=
  match threads.queue.get with
  | (.waits, queue) => { threads with queue := queue, sleepers := threads.sleepers.sleep thread }
  | (answer, queue) =>
      { threads with
        queue := queue
        sleepers := threads.sleepers.leave thread
        returned := threads.returned ++ [(thread, answer)] }

/-- The queue is stopped. -/
def stop (threads : QueueThreads T α) : QueueThreads T α :=
  { threads with queue := threads.queue.stop, sleepers := threads.sleepers.notifyAll }

/-- A step. -/
def step (threads : QueueThreads T α) : ThreadAction T α → Except Fault (QueueThreads T α)
  | .put item notified => threads.put item notified
  | .get thread => pure (threads.get thread)
  | .wake thread => pure { threads with sleepers := threads.sleepers.wake thread }
  | .stop => pure threads.stop

/-- The steps that can be taken: a notification wakes a thread that sleeps if there is one, and a thread
that sleeps does nothing. -/
def Allowed (threads : QueueThreads T α) : ThreadAction T α → Prop
  | .put _ notified => threads.queue.unavailable = false → threads.sleepers.CanNotify notified
  | .get thread => thread ∉ threads.sleepers.asleep
  | .wake thread => thread ∈ threads.sleepers.asleep
  | .stop => True

instance (threads : QueueThreads T α) : ∀ action, Decidable (threads.Allowed action)
  | .put _ notified => inferInstanceAs
      (Decidable (threads.queue.unavailable = false → threads.sleepers.CanNotify notified))
  | .get thread => inferInstanceAs (Decidable (thread ∉ threads.sleepers.asleep))
  | .wake thread => inferInstanceAs (Decidable (thread ∈ threads.sleepers.asleep))
  | .stop => inferInstanceAs (Decidable True)

/-! ## What holds after every run -/

/-- What holds of a queue with its threads. -/
structure Sound (threads : QueueThreads T α) : Prop where
  /-- The items are returned in the order in which they were accepted, and each of them once. -/
  order : threads.accepted =
    itemsReturned (threads.returned.map Prod.snd) ++ threads.queue.queue.map WebXQueue.Item.content
  /-- All items have the same priority. -/
  priority : ∀ item ∈ threads.queue.queue, item.priority = defaultPriority
  /-- No wake-up is lost. -/
  served : threads.sleepers.Served threads.queue.queue.length
  /-- Nobody sleeps at a queue that has been stopped. -/
  stopped : threads.queue.unavailable = true → threads.sleepers.asleep = ∅

omit [DecidableEq T] in
/-- A new queue has neither items nor threads. -/
theorem sound_new : Sound (new : QueueThreads T α) where
  order := rfl
  priority := fun _ hitem => absurd hitem List.not_mem_nil
  served := Sleepers.served_zero
  stopped := fun hstopped => absurd hstopped Bool.false_ne_true

variable {threads : QueueThreads T α}

/-- Items are returned in the order of the answers. -/
theorem itemsReturned_append (answers answers' : List (QueueAnswer α)) :
    itemsReturned (answers ++ answers') = itemsReturned answers ++ itemsReturned answers' := by
  induction answers with
  | nil => rfl
  | cons answer answers ih => cases answer <;> simp [itemsReturned, ih]

/-- An item that is put into a queue that is stopped is lost. -/
theorem put_of_stopped (hstopped : threads.queue.unavailable = true) (item : α)
    (notified : Option T) : threads.put item notified = .ok threads := by
  rw [QueueThreads.put, if_pos hstopped]
  rfl

/-- An item that is put comes to the end, as it has the priority of the others. -/
theorem Sound.put_eq (h : threads.Sound) (hstopped : threads.queue.unavailable = false) (item : α)
    (notified : Option T) :
    threads.put item notified = .ok
      { threads with
        queue := { threads.queue with queue := threads.queue.queue ++ [⟨item, defaultPriority⟩] }
        sleepers := threads.sleepers.notifyOne notified
        accepted := threads.accepted ++ [item] } := by
  have hend : WebXQueue.insertBefore ⟨item, defaultPriority⟩ threads.queue.queue = none :=
    WebXQueue.insertBefore_eq_none.mpr fun other hother =>
      Int32.le_of_eq (h.priority other hother)
  rw [QueueThreads.put, if_neg (Bool.not_eq_true _ ▸ hstopped), WebXQueue.put_of_end hstopped hend]
  rfl

/-- **An item that is put** keeps what holds, and the step never fails. -/
theorem Sound.put (h : threads.Sound) (item : α) {notified : Option T}
    (hallowed : threads.Allowed (.put item notified)) :
    ∃ next, threads.put item notified = .ok next ∧ next.Sound := by
  cases hstopped : threads.queue.unavailable with
  | true => exact ⟨threads, put_of_stopped hstopped item notified, h⟩
  | false =>
      refine ⟨_, h.put_eq hstopped item notified, ?_, ?_, ?_,
        fun hstop => absurd (hstop.symm.trans hstopped) (by decide)⟩
      · show threads.accepted ++ [item] = _
        rw [h.order, List.map_append, List.append_assoc]
        rfl
      · intro other hother
        rcases List.mem_append.mp hother with hother | hother
        · exact h.priority other hother
        · rw [List.mem_singleton.mp hother]
      · show Sleepers.Served _ (threads.queue.queue ++ [_]).length
        rw [List.length_append]
        exact h.served.notifyOne (hallowed hstopped)

/-- **A thread that looks for an item** gets the first one, or null when the queue is stopped, or it
sleeps. -/
theorem Sound.get (h : threads.Sound) (thread : T) : (threads.get thread).Sound := by
  obtain ⟨⟨queue, unavailable⟩, sleepers, accepted, returned⟩ := threads
  have horder : accepted =
      itemsReturned (returned.map Prod.snd) ++ queue.map WebXQueue.Item.content := h.order
  cases unavailable with
  | true =>
      have hasleep : (sleepers.leave thread).asleep = ∅ := h.stopped rfl
      refine ⟨?_, h.priority, Sleepers.served_of_asleep_eq_empty hasleep, fun _ => hasleep⟩
      show accepted = itemsReturned ((returned ++ [(thread, QueueAnswer.null)]).map Prod.snd) ++ _
      rw [List.map_append, itemsReturned_append, horder]
      exact congrArg (· ++ _) (List.append_nil _).symm
  | false =>
      cases queue with
      | nil => exact ⟨h.order, h.priority, Sleepers.served_zero,
          fun hstop => absurd hstop Bool.false_ne_true⟩
      | cons item queue =>
          refine ⟨?_, fun other hother => h.priority other (List.mem_cons_of_mem _ hother),
            Sleepers.Served.leave h.served, fun hstop => absurd hstop Bool.false_ne_true⟩
          show accepted =
            itemsReturned ((returned ++ [(thread, QueueAnswer.item item.content)]).map Prod.snd) ++ _
          rw [List.map_append, itemsReturned_append, horder, List.append_assoc]
          rfl

/-- The stop wakes up all the threads. -/
theorem Sound.stop (h : threads.Sound) : threads.stop.Sound :=
  ⟨h.order, h.priority, Sleepers.served_of_asleep_eq_empty rfl, fun _ => rfl⟩

/-- **A step** that can be taken does not fail, and keeps what holds. -/
theorem Sound.step (h : threads.Sound) {action : ThreadAction T α} (hallowed : threads.Allowed action) :
    ∃ next, threads.step action = .ok next ∧ next.Sound := by
  cases action with
  | put item notified => exact h.put item hallowed
  | get thread => exact ⟨_, rfl, h.get thread⟩
  | wake thread =>
      refine ⟨_, rfl, h.order, h.priority, h.served.wake hallowed, fun hstopped => ?_⟩
      have hsleeps : thread ∈ threads.sleepers.asleep := hallowed
      rw [h.stopped hstopped] at hsleeps
      exact absurd hsleeps (Finset.notMem_empty thread)
  | stop => exact ⟨_, rfl, h.stop⟩

/-- **After every run** of the threads the items have been returned in the order in which they were put,
no wake-up has been lost, and nobody sleeps at a queue that has been stopped. -/
theorem sound_of_run {actions : List (ThreadAction T α)}
    (hrun : Run step Allowed new actions threads) : threads.Sound :=
  hrun.invariant
    (fun threads action next h hallowed hstep => by
      obtain ⟨next', hnext, hsound⟩ := h.step hallowed
      rw [hstep] at hnext
      exact (Except.ok.inj hnext) ▸ hsound)
    sound_new

/-- A thread that sleeps until an item is delivered. -/
theorem sound_of_run_delivered : ∃ threads : QueueThreads ℕ ℕ,
    threads.returned = [(1, .item 7)] ∧ threads.Sound := by
  have hrun : Run step Allowed (new : QueueThreads ℕ ℕ) [.get 1, .put 7 (some 1), .get 1] _ :=
    .cons (by decide) rfl (.cons (by decide) rfl (.single (by decide) rfl))
  exact ⟨_, rfl, sound_of_run hrun⟩

end QueueThreads

end WebXEngine
