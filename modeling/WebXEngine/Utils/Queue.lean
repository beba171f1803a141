import Mathlib.Algebra.Order.Ring.Int
import WebXEngine.Foundations.StableQueues

/-! # The message queue

A queue with priorities. An item is inserted before the first one with a greater priority number, and
the iterator that found the place is then compared with the end of the queue. The insertion has
invalidated it: what the comparison says is a parameter. An iterator of the deque is the address of an
item, and never that of the end.

* **`WebXQueue`** — the items and the flag, with `put`, `get` and `stop`.
* **`StableRun`** — what a stable priority queue answers to a sequence of calls.
* **`servesInOrder_of_notEnd`** — the queue is one, as the iterator is not the end.
* **`servesInOrder_iff`** — without a value of the comparison, it is one exactly when no item is put
  before another one. -/

namespace WebXEngine

variable {α : Type*}

/-! ## The queue -/

namespace WebXQueue

/-- An item with its priority. -/
structure Item (α : Type*) where
  content : α
  priority : Int32
  deriving DecidableEq, Repr

/-- The number by which items are ordered. -/
def Item.key (item : Item α) : ℤ := item.priority.toInt

end WebXQueue

/-- The items of a queue, and if it is stopped. -/
structure WebXQueue (α : Type*) where
  queue : List (WebXQueue.Item α)
  unavailable : Bool
  deriving DecidableEq, Repr

/-- A call on a queue. -/
inductive QueueCall (α : Type*)
  | put (item : α) (priority : Int32)
  | get
  | stop
  deriving DecidableEq, Repr

/-- The answer to a call: an item, no item, or none yet. A caller that waits calls again when an item
is delivered. -/
inductive QueueAnswer (α : Type*)
  | done
  | item (content : α)
  | null
  | waits
  deriving DecidableEq, Repr

namespace WebXQueue

/-- A new queue. -/
def new : WebXQueue α := { queue := [], unavailable := false }

/-- The loop of an insertion: the items with the new one before the first with a greater priority
number; nothing if it comes to the end. -/
def insertBefore (newItem : Item α) : List (Item α) → Option (List (Item α))
  | [] => none
  | i :: rest =>
      if newItem.priority < i.priority then some (newItem :: i :: rest)
      else (insertBefore newItem rest).map (i :: ·)

/-- An item that is put into the queue; no value if the comparison with the end has none. The
parameter is the value of this comparison for an iterator that was invalidated. -/
def put (invalidatedIsEnd : Option Bool) (q : WebXQueue α) (item : α) (priority : Int32) :
    Option (WebXQueue α) :=
  if q.unavailable then
    some q
  else
    let newItem : Item α := { content := item, priority := priority }
    match insertBefore newItem q.queue with
    | none => some { q with queue := q.queue ++ [newItem] }
    | some queue => invalidatedIsEnd.map fun isEnd =>
        { q with queue := if isEnd then queue ++ [newItem] else queue }

/-- The first item is taken from the queue, unless the caller has to wait. -/
def get (q : WebXQueue α) : QueueAnswer α × WebXQueue α :=
  if q.unavailable then
    (.null, q)
  else
    match q.queue with
    | [] => (.waits, q)
    | item :: queue => (.item item.content, { q with queue := queue })

/-- The queue is stopped. -/
def stop (q : WebXQueue α) : WebXQueue α := { q with unavailable := true }

/-- What a call does. -/
def call (invalidatedIsEnd : Option Bool) (q : WebXQueue α) :
    QueueCall α → Option (QueueAnswer α × WebXQueue α)
  | .put item priority => (q.put invalidatedIsEnd item priority).map (.done, ·)
  | .get => some q.get
  | .stop => some (.done, q.stop)

/-- What a sequence of calls does: the answers and the queue after them. -/
def run (invalidatedIsEnd : Option Bool) (q : WebXQueue α) :
    List (QueueCall α) → Option (List (QueueAnswer α) × WebXQueue α)
  | [] => some ([], q)
  | c :: calls => do
      let (answer, q) ← q.call invalidatedIsEnd c
      let (answers, q) ← q.run invalidatedIsEnd calls
      return (answer :: answers, q)

end WebXQueue

/-! ## A stable priority queue -/

/-- What a stable priority queue answers to a sequence of calls, from the items that wait in the order
of their arrival, until it is stopped; with the items that wait after the calls. -/
inductive StableRun : List (WebXQueue.Item α) → Bool → List (QueueCall α) → List (QueueAnswer α) →
    List (WebXQueue.Item α) → Prop
  | nil (waiting : List (WebXQueue.Item α)) (stopped : Bool) : StableRun waiting stopped [] [] waiting
  | put {waiting rest : List (WebXQueue.Item α)} {calls : List (QueueCall α)}
      {answers : List (QueueAnswer α)} (item : α) (priority : Int32)
      (h : StableRun (waiting ++ [⟨item, priority⟩]) false calls answers rest) :
      StableRun waiting false (.put item priority :: calls) (.done :: answers) rest
  | get {waiting others rest : List (WebXQueue.Item α)} {calls : List (QueueCall α)}
      {answers : List (QueueAnswer α)} {next : WebXQueue.Item α}
      (hnext : IsNext WebXQueue.Item.key waiting next others)
      (h : StableRun others false calls answers rest) :
      StableRun waiting false (.get :: calls) (.item next.content :: answers) rest
  | wait {rest : List (WebXQueue.Item α)} {calls : List (QueueCall α)}
      {answers : List (QueueAnswer α)} (h : StableRun [] false calls answers rest) :
      StableRun [] false (.get :: calls) (.waits :: answers) rest
  | putStopped {waiting rest : List (WebXQueue.Item α)} {calls : List (QueueCall α)}
      {answers : List (QueueAnswer α)} (item : α) (priority : Int32)
      (h : StableRun waiting true calls answers rest) :
      StableRun waiting true (.put item priority :: calls) (.done :: answers) rest
  | getStopped {waiting rest : List (WebXQueue.Item α)} {calls : List (QueueCall α)}
      {answers : List (QueueAnswer α)} (h : StableRun waiting true calls answers rest) :
      StableRun waiting true (.get :: calls) (.null :: answers) rest
  | stop {waiting rest : List (WebXQueue.Item α)} {stopped : Bool} {calls : List (QueueCall α)}
      {answers : List (QueueAnswer α)} (h : StableRun waiting true calls answers rest) :
      StableRun waiting stopped (.stop :: calls) (.done :: answers) rest

/-- The items that are put before the queue is stopped. -/
def itemsPut : Bool → List (QueueCall α) → List α
  | _, [] => []
  | false, .put item _ :: calls => item :: itemsPut false calls
  | true, .put _ _ :: calls => itemsPut true calls
  | stopped, .get :: calls => itemsPut stopped calls
  | _, .stop :: calls => itemsPut true calls

/-- The items that are returned. -/
def itemsReturned : List (QueueAnswer α) → List α
  | [] => []
  | .item content :: answers => content :: itemsReturned answers
  | .done :: answers | .null :: answers | .waits :: answers => itemsReturned answers

/-- **The queue is a stable priority queue** for a sequence of calls: its answers are those of one,
and the items that are put are those that are returned and those that are left. -/
def ServesInOrder (invalidatedIsEnd : Option Bool) (calls : List (QueueCall α)) : Prop :=
  ∃ answers q waiting, WebXQueue.new.run invalidatedIsEnd calls = some (answers, q) ∧
    StableRun [] false calls answers waiting ∧
    (itemsPut false calls).Perm (itemsReturned answers ++ q.queue.map WebXQueue.Item.content)

/-- No item is put into a queue that has one with a greater priority number, before it is stopped. -/
def NeverOvertakes (q : WebXQueue α) : List (QueueCall α) → Prop
  | [] => True
  | c :: calls =>
      (∀ item priority, c = .put item priority → q.unavailable = false →
        ∀ i ∈ q.queue, i.priority ≤ priority) ∧
      ∀ answer next, q.call none c = some (answer, next) → NeverOvertakes next calls

/-! ## Insertion -/

namespace WebXQueue

/-- The loop finds the place of an item that is ordered by its priority number. -/
theorem insertBefore_eq_some {newItem : Item α} {queue queue' : List (Item α)}
    (h : insertBefore newItem queue = some queue') : queue' = insertByKey Item.key newItem queue := by
  induction queue generalizing queue' with
  | nil => exact nomatch h
  | cons i rest ih =>
    rw [insertBefore] at h
    split_ifs at h with hlt
    · cases h
      have hkey : newItem.key < i.key := Int32.lt_iff_toInt_lt.mp hlt
      rw [insertByKey_cons_of_lt hkey]
    · have hkey : i.key ≤ newItem.key := Int32.le_iff_toInt_le.mp (Int32.not_lt.mp hlt)
      obtain ⟨inserted, hinserted, rfl⟩ := Option.map_eq_some_iff.mp h
      rw [ih hinserted, insertByKey_cons_of_le hkey]

/-- The loop comes to the end when no item has a greater priority number. -/
theorem insertBefore_eq_none {newItem : Item α} {queue : List (Item α)} :
    insertBefore newItem queue = none ↔ ∀ i ∈ queue, i.priority ≤ newItem.priority := by
  induction queue with
  | nil => exact iff_of_true rfl fun i hi => nomatch hi
  | cons i rest ih =>
    rw [insertBefore, List.forall_mem_cons, ← ih]
    split_ifs with hlt
    · exact iff_of_false (fun h => nomatch h) fun h => Int32.not_le.mpr hlt h.1
    · rw [Option.map_eq_none_iff, iff_and_self]
      exact fun _ => Int32.not_lt.mp hlt

/-- An item that is served last is added at the end. -/
theorem put_of_end {invalidatedIsEnd : Option Bool} {q : WebXQueue α} {item : α} {priority : Int32}
    (hstopped : q.unavailable = false) (h : insertBefore ⟨item, priority⟩ q.queue = none) :
    q.put invalidatedIsEnd item priority =
      some { q with queue := q.queue ++ [⟨item, priority⟩] } := by
  simp only [put, hstopped, h, if_neg Bool.false_ne_true]

/-- An item that was inserted is added again when the iterator is equal to the end. -/
theorem put_of_inserted {invalidatedIsEnd : Option Bool} {q : WebXQueue α} {item : α}
    {priority : Int32} (hstopped : q.unavailable = false) {queue : List (Item α)}
    (h : insertBefore ⟨item, priority⟩ q.queue = some queue) :
    q.put invalidatedIsEnd item priority = invalidatedIsEnd.map fun isEnd =>
      { q with queue := if isEnd then queue ++ [⟨item, priority⟩] else queue } := by
  simp only [put, hstopped, h, if_neg Bool.false_ne_true]

/-- **One call.** The items stay arranged, and the answer is that of a stable priority queue, if no
item is put before another one or the comparison of the iterator says that it is not the end. -/
theorem exists_call {q : WebXQueue α} {waiting : List (Item α)}
    (hqueue : q.queue = arrange Item.key waiting) {invalidatedIsEnd : Option Bool} {c : QueueCall α}
    (h : invalidatedIsEnd = some false ∨ ∀ item priority, c = .put item priority →
      q.unavailable = false → ∀ i ∈ q.queue, i.priority ≤ priority) :
    ∃ answer next waiting', q.call invalidatedIsEnd c = some (answer, next) ∧
      next.queue = arrange Item.key waiting' ∧ ∀ calls answers rest,
        StableRun waiting' next.unavailable calls answers rest →
        StableRun waiting q.unavailable (c :: calls) (answer :: answers) rest := by
  obtain ⟨queue, unavailable⟩ := q
  obtain rfl : queue = arrange Item.key waiting := hqueue
  cases c with
  | stop => exact ⟨.done, _, waiting, rfl, rfl, fun calls answers rest hrun => .stop hrun⟩
  | get =>
    cases unavailable with
    | true => exact ⟨.null, _, waiting, rfl, rfl, fun calls answers rest hrun => .getStopped hrun⟩
    | false =>
      rcases harranged : arrange Item.key waiting with _ | ⟨item, queue⟩
      · obtain rfl : waiting = [] := List.perm_nil.mp (harranged ▸ (arrange_perm waiting).symm)
        exact ⟨.waits, _, [], rfl, rfl, fun calls answers rest hrun => .wait hrun⟩
      · obtain ⟨others, hnext, hothers⟩ := isNext_of_arrange harranged
        exact ⟨.item item.content, _, others, rfl, hothers.symm,
          fun calls answers rest hrun => .get hnext hrun⟩
  | put item priority =>
    cases unavailable with
    | true =>
      exact ⟨.done, _, waiting, rfl, rfl, fun calls answers rest hrun => .putStopped item priority hrun⟩
    | false =>
      have hput : put invalidatedIsEnd ⟨arrange Item.key waiting, false⟩ item priority =
          some ⟨arrange Item.key (waiting ++ [⟨item, priority⟩]), false⟩ := by
        rw [arrange_concat]
        rcases hinsert : insertBefore ⟨item, priority⟩ (arrange Item.key waiting) with _ | inserted
        · have hle : ∀ i ∈ arrange Item.key waiting, i.key ≤ Item.key ⟨item, priority⟩ :=
            fun i hi => Int32.le_iff_toInt_le.mp (insertBefore_eq_none.mp hinsert i hi)
          rw [put_of_end rfl hinsert, insertByKey_eq_concat hle]
        · -- another item has a greater number
          have hnotEnd : invalidatedIsEnd = some false := h.resolve_right fun hle =>
            Option.some_ne_none _
              (hinsert.symm.trans (insertBefore_eq_none.mpr (hle item priority rfl rfl)))
          rw [put_of_inserted rfl hinsert, hnotEnd, insertBefore_eq_some hinsert]
          rfl
      refine ⟨.done, ⟨arrange Item.key (waiting ++ [⟨item, priority⟩]), false⟩,
        waiting ++ [⟨item, priority⟩], ?_, rfl, fun calls answers rest hrun => .put item priority hrun⟩
      rw [call, hput]
      rfl

/-- A call that has a value puts no item before another one, if the comparison has none. -/
theorem le_of_put {q next : WebXQueue α} {item : α} {priority : Int32}
    (h : q.put none item priority = some next) (hstopped : q.unavailable = false) :
    ∀ i ∈ q.queue, i.priority ≤ priority := by
  rcases hinsert : insertBefore ⟨item, priority⟩ q.queue with _ | inserted
  · exact insertBefore_eq_none.mp hinsert
  · rw [put_of_inserted hstopped hinsert] at h
    exact nomatch h

end WebXQueue

/-! ## Sequences of calls -/

/-- No item is lost, and none is returned twice. -/
theorem StableRun.perm {waiting rest : List (WebXQueue.Item α)} {stopped : Bool}
    {calls : List (QueueCall α)} {answers : List (QueueAnswer α)}
    (h : StableRun waiting stopped calls answers rest) :
    (waiting.map WebXQueue.Item.content ++ itemsPut stopped calls).Perm
      (itemsReturned answers ++ rest.map WebXQueue.Item.content) := by
  induction h with
  | nil waiting stopped =>
    cases stopped <;> exact .of_eq (List.append_nil _)
  | put item priority _ ih =>
    rwa [List.map_append, List.append_assoc] at ih
  | get hnext _ ih =>
    exact ((hnext.perm.map WebXQueue.Item.content).append_right _).trans (ih.cons _)
  | wait _ ih => exact ih
  | putStopped item priority _ ih => exact ih
  | getStopped _ ih => exact ih
  | @stop waiting rest stopped calls answers _ ih =>
    cases stopped <;> exact ih

namespace WebXQueue

/-- **A sequence of calls** is answered as a stable priority queue does. -/
theorem exists_stableRun {invalidatedIsEnd : Option Bool} {calls : List (QueueCall α)}
    {q : WebXQueue α} {waiting : List (Item α)} (hqueue : q.queue = arrange Item.key waiting)
    (h : invalidatedIsEnd = some false ∨ invalidatedIsEnd = none ∧ NeverOvertakes q calls) :
    ∃ answers last rest, q.run invalidatedIsEnd calls = some (answers, last) ∧
      StableRun waiting q.unavailable calls answers rest ∧
      last.queue = arrange Item.key rest := by
  induction calls generalizing q waiting with
  | nil => exact ⟨[], q, waiting, rfl, .nil waiting q.unavailable, hqueue⟩
  | cons c calls ih =>
    obtain ⟨answer, next, waiting', hcall, hnext, hstable⟩ :=
      exists_call hqueue (h.imp_right fun hnever => hnever.2.1)
    have hnever : invalidatedIsEnd = some false ∨ invalidatedIsEnd = none ∧ NeverOvertakes next calls :=
      h.imp_right fun ⟨hnone, hnever⟩ => ⟨hnone, hnever.2 answer next (hnone ▸ hcall)⟩
    obtain ⟨answers, last, rest, hrun, hanswers, hlast⟩ := ih hnext hnever
    refine ⟨answer :: answers, last, rest, ?_, hstable calls answers rest hanswers, hlast⟩
    exact Option.bind_eq_some_iff.mpr ⟨_, hcall, Option.bind_eq_some_iff.mpr ⟨_, hrun, rfl⟩⟩

/-- The calls of a sequence that has a value put no item before another one. -/
theorem neverOvertakes_of_run {calls : List (QueueCall α)} {q last : WebXQueue α}
    {answers : List (QueueAnswer α)} (h : q.run none calls = some (answers, last)) :
    NeverOvertakes q calls := by
  induction calls generalizing q answers last with
  | nil => trivial
  | cons c calls ih =>
    obtain ⟨⟨answer, next⟩, hcall, h⟩ := Option.bind_eq_some_iff.mp h
    obtain ⟨⟨answers', last'⟩, hrun, -⟩ := Option.bind_eq_some_iff.mp h
    constructor
    · rintro item priority rfl hstopped
      obtain ⟨next', hput, -⟩ := Option.map_eq_some_iff.mp hcall
      exact le_of_put hput hstopped
    · intro answer' next' hcall'
      obtain ⟨rfl, rfl⟩ := Prod.mk.inj (Option.some.inj (hcall.symm.trans hcall'))
      exact ih hrun

/-- A queue that is answered as a stable priority queue serves in order. -/
theorem servesInOrder {invalidatedIsEnd : Option Bool} {calls : List (QueueCall α)}
    (h : invalidatedIsEnd = some false ∨ invalidatedIsEnd = none ∧ NeverOvertakes new calls) :
    ServesInOrder invalidatedIsEnd calls := by
  have hempty : (new : WebXQueue α).queue = arrange Item.key [] := rfl
  obtain ⟨answers, last, rest, hrun, hstable, hlast⟩ := exists_stableRun hempty h
  refine ⟨answers, last, rest, hrun, hstable, hstable.perm.trans ?_⟩
  rw [hlast]
  exact (((arrange_perm rest).map Item.content).symm).append_left _

end WebXQueue

/-- **The queue is a stable priority queue** for every sequence of calls, as an iterator that was
invalidated is not the end. -/
theorem servesInOrder_of_notEnd (invalidatedIsEnd : Option Bool) (hnotEnd : invalidatedIsEnd = some false)
    (calls : List (QueueCall α)) : ServesInOrder invalidatedIsEnd calls :=
  WebXQueue.servesInOrder (.inl hnotEnd)

/-- An item with the priority number 1 is put, and then one with the priority number 0, which is served
first. No item is added to the queue after it was stopped. -/
theorem servesInOrder_of_notEnd_overtaken :
    let calls : List (QueueCall ℕ) :=
      [.put 7 1, .put 8 0, .get, .put 9 1, .get, .stop, .put 6 0, .get]
    ServesInOrder (some false) calls ∧ WebXQueue.new.run (some false) calls =
      some ([.done, .done, .item 8, .done, .item 7, .done, .done, .null], ⟨[⟨9, 1⟩], true⟩) :=
  ⟨servesInOrder_of_notEnd (some false) rfl _, rfl⟩

/-- Without a value of the comparison, **the queue is a stable priority queue exactly when no item is put
before another one**: this is so when all items have the same priority number. -/
theorem servesInOrder_iff (calls : List (QueueCall α)) :
    ServesInOrder none calls ↔ NeverOvertakes WebXQueue.new calls := by
  constructor
  · rintro ⟨answers, q, waiting, hrun, -, -⟩
    exact WebXQueue.neverOvertakes_of_run hrun
  · exact fun h => WebXQueue.servesInOrder (.inr ⟨rfl, h⟩)

end WebXEngine
