import WebXEngine.Transport.MessageFormat
import WebXEngine.Utils.QueueThreads

/-! # The message publisher

The messages are put into a queue by the threads that make them, and a thread of the publisher takes them
from it, encodes them and sends them to the clients. The main thread starts and stops it.

* **`Publisher.step`** — what the threads do: they interleave in any way.
* **`Publisher.published_of_run`** — the messages are encoded in the order in which they were accepted, each
  of them once, with the numbers 1, 2, 3, …
* **`Publisher.ends_of_run`** — the thread ends after at most three of its steps when it is stopped.
* **`Publisher.nothing_after_stop`** — nothing is sent after a stop, even when the publisher is run again. -/

namespace WebXEngine

open WebXMessageEncoder

/-! ## The threads -/

/-- Where the thread of the publisher is: there is none; it is at the test of its loop, in the call for a
message, or behind this call; it has ended. -/
inductive PublisherPlace
  | absent
  | testing
  | asking
  | holding (answer : QueueAnswer WebXMessage)
  | ended

/-- How far the main thread is in a call of `stop`. -/
inductive StopStage
  | idle
  | cleared
  | joining
  deriving DecidableEq, Repr

/-- What becomes of a message that was taken from the queue: it is encoded, and then sent unless the
socket throws; or it is dropped, as the publisher does not run any more. -/
inductive Fate
  | encoded (frame : List UInt8) (sent : Bool)
  | dropped
  deriving DecidableEq, Repr

/-- The publisher, the calls of `onMessage` that have seen that it runs and have not put their message, and
what has become of the messages. -/
structure Publisher where
  running : Bool
  stage : StopStage
  place : PublisherPlace
  threads : QueueThreads Unit WebXMessage
  calling : List WebXMessage
  messageCounter : UInt32
  handled : List (WebXMessage × Fate)

/-- A step of one of the threads. -/
inductive PublisherAction
  | run
  | clearRunning
  | stopQueue
  | join
  | call (message : WebXMessage)
  | put (caller : ℕ) (notified : Option Unit)
  | test
  | get
  | wake
  | publish (timestampMs : UInt64) (freshMemory : (size : ℕ) → Vector UInt8 size) (sent : Bool)

namespace PublisherAction

/-- The steps of the thread of the publisher. -/
def ofThread : PublisherAction → Bool
  | test | get | wake | publish _ _ _ => true
  | run | clearRunning | stopQueue | join | call _ | put _ _ => false

end PublisherAction

namespace Publisher

/-- A publisher that has not been run. -/
def new : Publisher := ⟨false, .idle, .absent, .new, [], 0, []⟩

variable (sessionId : Vector UInt8 16)

/-- The publisher is run; its thread is made if there is none. -/
def run (p : Publisher) : Publisher :=
  { p with
    running := true
    place := match p.place with
      | .absent => .testing
      | place => place }

/-- The first step of `stop`. -/
def clearRunning (p : Publisher) : Publisher := { p with running := false, stage := .cleared }

/-- The second step of `stop`: the queue is stopped if there is a thread. -/
def stopQueue (p : Publisher) : Publisher :=
  match p.place with
  | .absent => { p with stage := .idle }
  | _ => { p with stage := .joining, threads := p.threads.stop }

/-- The last step of `stop`, when the thread has ended. -/
def join (p : Publisher) : Publisher := { p with stage := .idle, place := .absent }

/-- A call of `onMessage` looks if the publisher runs. -/
def call (p : Publisher) (message : WebXMessage) : Publisher :=
  if p.running then { p with calling := p.calling ++ [message] } else p

/-- A call of `onMessage` puts its message. -/
def put (p : Publisher) (caller : ℕ) (notified : Option Unit) : Except Fault Publisher :=
  match p.calling[caller]? with
  | none => pure p
  | some message => do
      let threads ← p.threads.put message notified
      pure { p with threads := threads, calling := p.calling.eraseIdx caller }

/-- The test of the loop. -/
def test (p : Publisher) : Publisher := { p with place := if p.running then .asking else .ended }

/-- The thread looks for a message. -/
def get (p : Publisher) : Publisher :=
  { p with
    threads := p.threads.get ()
    place := match p.threads.queue.get.1 with
      | .waits => .asking
      | answer => .holding answer }

/-- The thread sends what it has, if it is a message and the publisher runs. -/
def publish (p : Publisher) (timestampMs : UInt64) (freshMemory : (size : ℕ) → Vector UInt8 size)
    (sent : Bool) : Except Fault Publisher :=
  match p.place with
  | .holding (.item message) =>
      if p.running then do
        let frame ← encode ⟨sessionId, timestampMs, p.messageCounter, freshMemory⟩ message
        pure
          { p with
            place := .testing
            messageCounter := p.messageCounter + 1
            handled := p.handled ++ [(message, .encoded frame sent)] }
      else
        pure { p with place := .testing, handled := p.handled ++ [(message, .dropped)] }
  | _ => pure { p with place := .testing }

/-- A step. -/
def step (p : Publisher) : PublisherAction → Except Fault Publisher
  | .run => pure p.run
  | .clearRunning => pure p.clearRunning
  | .stopQueue => pure p.stopQueue
  | .join => pure p.join
  | .call message => pure (p.call message)
  | .put caller notified => p.put caller notified
  | .test => pure p.test
  | .get => pure p.get
  | .wake => pure { p with threads := { p.threads with sleepers := p.threads.sleepers.wake () } }
  | .publish timestampMs freshMemory sent => p.publish sessionId timestampMs freshMemory sent

/-- The steps that can be taken. -/
def Allowed (p : Publisher) : PublisherAction → Prop
  | .run | .clearRunning => p.stage = .idle
  | .stopQueue => p.stage = .cleared
  | .join => p.stage = .joining ∧ p.place = .ended
  | .call _ => True
  | .put caller notified =>
      ∃ message, p.calling[caller]? = some message ∧ p.threads.Allowed (.put message notified)
  | .test => p.place = .testing
  | .get => p.place = .asking ∧ p.threads.Allowed (.get ())
  | .wake => p.place = .asking ∧ p.threads.Allowed (.wake ())
  | .publish _ _ _ => ∃ answer, p.place = .holding answer

/-! ## What the publisher has done -/

/-- The message that the thread has taken and not handled. -/
def inHand (p : Publisher) : List WebXMessage :=
  match p.place with
  | .holding (.item message) => [message]
  | _ => []

/-- The messages that wait in the queue. -/
def waiting (p : Publisher) : List WebXMessage := p.threads.queue.queue.map WebXQueue.Item.content

/-- The messages that were encoded, with their frames. -/
def frames (p : Publisher) : List (WebXMessage × List UInt8) :=
  p.handled.filterMap fun (message, fate) =>
    match fate with
    | .encoded frame _ => some (message, frame)
    | .dropped => none

/-- The record of a publisher is right. -/
structure Recorded (p : Publisher) : Prop where
  threads : p.threads.Sound
  /-- What the thread has taken has been handled, but for what it has. -/
  taken : itemsReturned (p.threads.returned.map Prod.snd) = p.handled.map Prod.fst ++ p.inHand
  /-- The encoder has counted the frames. -/
  counted : p.messageCounter = UInt32.ofNat p.frames.length
  /-- A frame was encoded with its number. -/
  numbered : ∀ (i : ℕ) (message : WebXMessage) (frame : List UInt8),
    p.frames[i]? = some (message, frame) → ∃ timestampMs freshMemory,
      encode ⟨sessionId, timestampMs, UInt32.ofNat i, freshMemory⟩ message = .ok frame

/-- What holds of a publisher. -/
structure Sound (p : Publisher) : Prop where
  recorded : p.Recorded sessionId
  /-- The thread sleeps in the call for a message only. -/
  alone : p.place ≠ .asking → p.threads.sleepers.asleep = ∅ ∧ p.threads.sleepers.woken = ∅
  /-- There is no thread that does not run, unless it is being stopped. -/
  runs : p.stage = .idle → p.place ≠ .absent → p.running = true
  /-- A publisher that is being stopped does not run. -/
  stops : p.stage ≠ .idle → p.running = false
  /-- A thread that is waited for finds a queue that is stopped. -/
  joins : p.stage = .joining → p.threads.queue.unavailable = true ∧ p.place ≠ .absent
  /-- The thread has a message from a queue that is stopped only while it is waited for. -/
  quiet : p.threads.queue.unavailable = true → p.inHand ≠ [] → p.stage = .joining
  /-- No message is dropped, unless the publisher is stopped. -/
  drops : (∃ message, (message, Fate.dropped) ∈ p.handled) →
    p.threads.queue.unavailable = true ∨ p.stage = .cleared ∧ p.place ≠ .absent

variable {sessionId} {p : Publisher}

/-- A publisher that was not started. -/
theorem sound_new : Sound sessionId new where
  recorded := ⟨QueueThreads.sound_new, rfl, rfl, fun _ _ _ h => by cases h⟩
  alone := fun _ => ⟨rfl, rfl⟩
  runs := fun _ h => absurd rfl h
  stops := fun h => absurd rfl h
  joins := fun h => by cases h
  quiet := fun h => absurd h Bool.false_ne_true
  drops := fun ⟨_, h⟩ => absurd h List.not_mem_nil

/-! ## One step -/

/-- Nothing is dropped by a publisher that is not being stopped, unless its queue is stopped. -/
theorem Sound.unavailable_of_dropped (h : p.Sound sessionId) (hidle : p.stage = .idle)
    (hdropped : ∃ message, (message, Fate.dropped) ∈ p.handled) :
    p.threads.queue.unavailable = true := by
  rcases h.drops hdropped with hstopped | ⟨hcleared, -⟩
  · exact hstopped
  · rw [hidle] at hcleared
    cases hcleared

/-- The thread is started, unless there is one. -/
theorem Sound.run (h : p.Sound sessionId) (hidle : p.stage = .idle) : p.run.Sound sessionId := by
  have hdrops := h.unavailable_of_dropped hidle
  obtain ⟨running, stage, place, threads, calling, counter, handled⟩ := p
  obtain rfl : stage = .idle := hidle
  cases place with
  | absent =>
      exact
        { recorded := ⟨h.recorded.threads, h.recorded.taken, h.recorded.counted, h.recorded.numbered⟩
          alone := fun _ => h.alone (by simp)
          runs := fun _ _ => rfl
          stops := fun hne => absurd rfl hne
          joins := fun hjoin => by cases hjoin
          quiet := fun _ hhand => absurd rfl hhand
          drops := fun hdropped => .inl (hdrops hdropped) }
  | testing | asking | holding answer | ended =>
      exact
        { recorded := ⟨h.recorded.threads, h.recorded.taken, h.recorded.counted, h.recorded.numbered⟩
          alone := h.alone
          runs := fun _ _ => rfl
          stops := fun hne => absurd rfl hne
          joins := fun hjoin => by cases hjoin
          quiet := h.quiet
          drops := fun hdropped => .inl (hdrops hdropped) }

/-- The stop begins: the publisher does not run any more. -/
theorem Sound.clearRunning (h : p.Sound sessionId) (hidle : p.stage = .idle) :
    p.clearRunning.Sound sessionId where
  recorded := ⟨h.recorded.threads, h.recorded.taken, h.recorded.counted, h.recorded.numbered⟩
  alone := h.alone
  runs := fun hstage => by cases hstage
  stops := fun _ => rfl
  joins := fun hstage => by cases hstage
  quiet := fun hstopped hhand => by
    have hjoining := h.quiet hstopped hhand
    rw [hidle] at hjoining
    cases hjoining
  drops := fun hdropped => .inl (h.unavailable_of_dropped hidle hdropped)

/-- The queue is stopped, and the thread, if there is one, is waited for. -/
theorem Sound.stopQueue (h : p.Sound sessionId) (hcleared : p.stage = .cleared) :
    p.stopQueue.Sound sessionId := by
  obtain ⟨running, stage, place, threads, calling, counter, handled⟩ := p
  obtain rfl : stage = .cleared := hcleared
  have hrunning : running = false := h.stops (by simp)
  cases place with
  | absent =>
      exact
        { recorded := ⟨h.recorded.threads, h.recorded.taken, h.recorded.counted, h.recorded.numbered⟩
          alone := h.alone
          runs := fun _ hplace => absurd rfl hplace
          stops := fun hstage => absurd rfl hstage
          joins := fun hstage => by cases hstage
          quiet := fun _ hhand => absurd rfl hhand
          drops := fun hdropped => (h.drops hdropped).imp_right fun hplace => absurd rfl hplace.2 }
  | testing | asking | holding answer | ended =>
      exact
        { recorded :=
            ⟨h.recorded.threads.stop, h.recorded.taken, h.recorded.counted, h.recorded.numbered⟩
          alone := fun hplace => by
            obtain ⟨hasleep, hwoken⟩ := h.alone hplace
            refine ⟨rfl, ?_⟩
            show threads.sleepers.asleep ∪ threads.sleepers.woken = ∅
            rw [hasleep, hwoken, Finset.union_empty]
          runs := fun hstage => by cases hstage
          stops := fun _ => hrunning
          joins := fun _ => ⟨rfl, by simp [Publisher.stopQueue]⟩
          quiet := fun _ _ => rfl
          drops := fun _ => .inl rfl }

/-- The thread that has ended is joined. -/
theorem Sound.join (h : p.Sound sessionId) (hjoining : p.stage = .joining) (hended : p.place = .ended) :
    p.join.Sound sessionId := by
  obtain ⟨running, stage, place, threads, calling, counter, handled⟩ := p
  obtain rfl : place = .ended := hended
  exact
    { recorded := ⟨h.recorded.threads, h.recorded.taken, h.recorded.counted, h.recorded.numbered⟩
      alone := fun _ => h.alone (by simp)
      runs := fun _ hplace => absurd rfl hplace
      stops := fun hstage => absurd rfl hstage
      joins := fun hstage => by cases hstage
      quiet := fun _ hhand => absurd rfl hhand
      drops := fun _ => .inl (h.joins hjoining).1 }

/-- A message is given to a publisher, or ignored. -/
theorem Sound.call (h : p.Sound sessionId) (message : WebXMessage) :
    (p.call message).Sound sessionId := by
  unfold Publisher.call
  split_ifs
  · exact ⟨⟨h.recorded.threads, h.recorded.taken, h.recorded.counted, h.recorded.numbered⟩, h.alone,
      h.runs, h.stops, h.joins, h.quiet, h.drops⟩
  · exact h

/-- The thread goes to another place without a message. -/
theorem Sound.goTo (h : p.Sound sessionId) (place : PublisherPlace) (habsent : p.place ≠ .absent)
    (hasking : p.place ≠ .asking) (hhand : p.inHand = []) (hnew : place ≠ .absent)
    (hnewHand : inHand { p with place := place } = []) : Sound sessionId { p with place := place } where
  recorded :=
    { threads := h.recorded.threads
      taken := by rw [hnewHand, ← hhand]; exact h.recorded.taken
      counted := h.recorded.counted
      numbered := h.recorded.numbered }
  alone := fun _ => h.alone hasking
  runs := fun hstage _ => h.runs hstage habsent
  stops := h.stops
  joins := fun hstage => ⟨(h.joins hstage).1, hnew⟩
  quiet := fun _ hsome => absurd hnewHand hsome
  drops := fun hdropped => (h.drops hdropped).imp_right fun hcleared => ⟨hcleared.1, hnew⟩

/-- The thread tests if it is to go on. -/
theorem Sound.test (h : p.Sound sessionId) (htesting : p.place = .testing) :
    p.test.Sound sessionId := by
  obtain ⟨running, stage, place, threads, calling, counter, handled⟩ := p
  obtain rfl : place = .testing := htesting
  cases running with
  | true => exact h.goTo .asking (by simp) (by simp) rfl (by simp) rfl
  | false => exact h.goTo .ended (by simp) (by simp) rfl (by simp) rfl

/-- A thread that does not sleep is alone. -/
theorem eq_empty_of_notMem {s : Finset Unit} (h : () ∉ s) : s = ∅ :=
  Finset.eq_empty_of_forall_notMem fun () => h

/-- **The thread asks for a message**: it gets one, sleeps, or is told to end. -/
theorem Sound.get (h : p.Sound sessionId) (hasking : p.place = .asking)
    (hallowed : p.threads.Allowed (.get ())) : p.get.Sound sessionId := by
  have hthreads := h.recorded.threads.get ()
  obtain ⟨running, stage, place, ⟨⟨queue, unavailable⟩, sleepers, accepted, returned⟩, calling,
    counter, handled⟩ := p
  obtain rfl : place = .asking := hasking
  have halone : (sleepers.leave ()).asleep = ∅ ∧ (sleepers.leave ()).woken = ∅ :=
    ⟨eq_empty_of_notMem hallowed, eq_empty_of_notMem (Finset.notMem_erase () sleepers.woken)⟩
  have htaken : itemsReturned (returned.map Prod.snd) = handled.map Prod.fst := by
    rw [h.recorded.taken]
    exact List.append_nil _
  have hruns : stage = .idle → running = true := fun hstage => h.runs hstage (by simp)
  have hdrops : (∃ message, (message, Fate.dropped) ∈ handled) →
      unavailable = true ∨ stage = .cleared := fun hdropped =>
    (h.drops hdropped).imp_right And.left
  cases unavailable with
  | true =>
      exact
        { recorded :=
            { threads := hthreads
              taken := by
                show itemsReturned ((returned ++ [((), QueueAnswer.null)]).map Prod.snd) = _
                rw [List.map_append, QueueThreads.itemsReturned_append, htaken]
                rfl
              counted := h.recorded.counted
              numbered := h.recorded.numbered }
          alone := fun _ => halone
          runs := fun hstage _ => hruns hstage
          stops := h.stops
          joins := fun _ => ⟨rfl, by simp [Publisher.get, WebXQueue.get]⟩
          quiet := fun _ hhand => absurd rfl hhand
          drops := fun _ => .inl rfl }
  | false =>
      cases queue with
      | nil =>
          exact
            { recorded := ⟨hthreads, h.recorded.taken, h.recorded.counted, h.recorded.numbered⟩
              alone := fun hplace => absurd rfl hplace
              runs := fun hstage _ => hruns hstage
              stops := h.stops
              joins := h.joins
              quiet := fun _ hhand => absurd rfl hhand
              drops := h.drops }
      | cons item queue =>
          exact
            { recorded :=
                { threads := hthreads
                  taken := by
                    show itemsReturned ((returned ++ [((), QueueAnswer.item item.content)]).map
                      Prod.snd) = _
                    rw [List.map_append, QueueThreads.itemsReturned_append, htaken]
                    rfl
                  counted := h.recorded.counted
                  numbered := h.recorded.numbered }
              alone := fun _ => halone
              runs := fun hstage _ => hruns hstage
              stops := h.stops
              joins := fun hstage => absurd (h.joins hstage).1 Bool.false_ne_true
              quiet := fun hstopped => absurd hstopped Bool.false_ne_true
              drops := fun hdropped => .inr ⟨(hdrops hdropped).resolve_left Bool.false_ne_true,
                by simp [Publisher.get, WebXQueue.get]⟩ }

/-- The thread wakes up for no reason. -/
theorem Sound.wake (h : p.Sound sessionId) (hasking : p.place = .asking)
    (hallowed : p.threads.Allowed (.wake ())) : Sound sessionId
      { p with threads := { p.threads with sleepers := p.threads.sleepers.wake () } } := by
  obtain ⟨threads, hstep, hthreads⟩ := h.recorded.threads.step hallowed
  obtain rfl := Except.ok.inj hstep
  exact ⟨⟨hthreads, h.recorded.taken, h.recorded.counted, h.recorded.numbered⟩,
    fun hplace => absurd hasking hplace, h.runs, h.stops, h.joins, h.quiet, h.drops⟩

/-- **A message is put into the queue**, which never fails. -/
theorem Sound.put (h : p.Sound sessionId) {caller : ℕ} {notified : Option Unit}
    (hallowed : p.Allowed (.put caller notified)) :
    ∃ next, p.put caller notified = .ok next ∧ next.Sound sessionId := by
  obtain ⟨message, hcaller, hnotify⟩ := hallowed
  obtain ⟨threads, hput, hthreads⟩ := h.recorded.threads.put message hnotify
  refine ⟨{ p with threads := threads, calling := p.calling.eraseIdx caller }, ?_, ?_⟩
  · rw [Publisher.put, hcaller]
    show p.threads.put message notified >>= _ = _
    rw [hput]
    rfl
  · cases hstopped : p.threads.queue.unavailable with
    | true =>
        rw [QueueThreads.put_of_stopped hstopped] at hput
        obtain rfl := Except.ok.inj hput
        exact ⟨⟨h.recorded.threads, h.recorded.taken, h.recorded.counted, h.recorded.numbered⟩,
          h.alone, h.runs, h.stops, h.joins, h.quiet, h.drops⟩
    | false =>
        rw [h.recorded.threads.put_eq hstopped] at hput
        obtain rfl := Except.ok.inj hput
        refine ⟨⟨hthreads, h.recorded.taken, h.recorded.counted, h.recorded.numbered⟩,
          fun hplace => ?_, h.runs, h.stops, h.joins, h.quiet, h.drops⟩
        -- nobody sleeps, and so nobody is woken up
        obtain ⟨hasleep, hwoken⟩ := h.alone hplace
        have hchoice := hnotify hstopped
        cases notified with
        | none => exact ⟨hasleep, hwoken⟩
        | some thread =>
            have hsleeps : thread ∈ p.threads.sleepers.asleep := hchoice
            rw [hasleep] at hsleeps
            exact absurd hsleeps (Finset.notMem_empty thread)

/-- What the thread does with what it has. -/
theorem publish_cases {timestampMs : UInt64} {freshMemory : (size : ℕ) → Vector UInt8 size}
    {sent : Bool} {next : Publisher}
    (h : p.publish sessionId timestampMs freshMemory sent = .ok next) :
    (∃ message frame, p.place = .holding (.item message) ∧ p.running = true ∧
      encode ⟨sessionId, timestampMs, p.messageCounter, freshMemory⟩ message = .ok frame ∧
      next = { p with
        place := .testing
        messageCounter := p.messageCounter + 1
        handled := p.handled ++ [(message, .encoded frame sent)] }) ∨
    (∃ message, p.place = .holding (.item message) ∧ p.running = false ∧
      next = { p with place := .testing, handled := p.handled ++ [(message, .dropped)] }) ∨
    p.inHand = [] ∧ next = { p with place := .testing } := by
  unfold Publisher.publish at h
  split at h
  · rename_i message hplace
    split_ifs at h with hrunning
    · obtain ⟨frame, hencode, hnext⟩ := exists_of_bind_eq_ok h
      exact .inl ⟨message, frame, hplace, hrunning, hencode, (Except.ok.inj hnext).symm⟩
    · exact .inr (.inl ⟨message, hplace, Bool.eq_false_iff.mpr hrunning, (Except.ok.inj h).symm⟩)
  · rename_i hplace
    refine .inr (.inr ⟨?_, (Except.ok.inj h).symm⟩)
    unfold inHand
    split
    · rename_i message heq
      exact absurd heq (hplace message)
    · rfl

/-- The thread has handled a message. -/
theorem Recorded.append (h : p.Recorded sessionId) {message : WebXMessage}
    (hholding : p.place = .holding (.item message)) (fate : Fate) :
    itemsReturned (p.threads.returned.map Prod.snd) =
      (p.handled ++ [(message, fate)]).map Prod.fst ++ [] := by
  rw [h.taken, inHand, hholding, List.map_append, List.append_nil]
  rfl

/-- A message that is encoded gets the next number. -/
theorem Sound.publish_running (h : p.Sound sessionId) {message : WebXMessage}
    (hholding : p.place = .holding (.item message)) {timestampMs : UInt64}
    {freshMemory : (size : ℕ) → Vector UInt8 size} (sent : Bool) {frame : List UInt8}
    (hencode : encode ⟨sessionId, timestampMs, p.messageCounter, freshMemory⟩ message = .ok frame)
    (hrunning : p.running = true) : Sound sessionId
      { p with
        place := .testing
        messageCounter := p.messageCounter + 1
        handled := p.handled ++ [(message, .encoded frame sent)] } := by
  have hframes : frames
      { p with
        place := .testing
        messageCounter := p.messageCounter + 1
        handled := p.handled ++ [(message, .encoded frame sent)] } = p.frames ++ [(message, frame)] :=
    List.filterMap_append
  exact
    { recorded :=
        { threads := h.recorded.threads
          taken := h.recorded.append hholding _
          counted := by
            rw [hframes, List.length_append, List.length_singleton, UInt32.ofNat_add,
              ← h.recorded.counted]
            rfl
          numbered := by
            intro i message' frame' hi
            rw [hframes] at hi
            rcases Nat.lt_or_ge i p.frames.length with hlt | hle
            · rw [List.getElem?_append_left hlt] at hi
              exact h.recorded.numbered i message' frame' hi
            · rw [List.getElem?_append_right hle, List.getElem?_singleton] at hi
              split_ifs at hi with hlast
              obtain ⟨rfl, rfl⟩ := Prod.mk.inj (Option.some.inj hi)
              obtain rfl : i = p.frames.length := by omega
              exact ⟨timestampMs, freshMemory, h.recorded.counted ▸ hencode⟩ }
      alone := fun _ => h.alone (by rw [hholding]; simp)
      runs := fun _ _ => hrunning
      stops := h.stops
      joins := fun hstage => ⟨(h.joins hstage).1, by simp⟩
      quiet := fun _ hhand => absurd rfl hhand
      drops := fun ⟨message', hdropped⟩ => by
        rcases List.mem_append.mp hdropped with hdropped | hdropped
        · exact (h.drops ⟨message', hdropped⟩).imp_right fun hcleared => ⟨hcleared.1, by simp⟩
        · cases List.mem_singleton.mp hdropped }

/-- A message is dropped by a publisher that is being stopped. -/
theorem Sound.publish_stopped (h : p.Sound sessionId) {message : WebXMessage}
    (hholding : p.place = .holding (.item message)) (hrunning : p.running = false) :
    Sound sessionId { p with place := .testing, handled := p.handled ++ [(message, .dropped)] } := by
  have hframes : frames { p with place := .testing, handled := p.handled ++ [(message, .dropped)] } =
      p.frames := List.filterMap_append.trans (List.append_nil _)
  exact
    { recorded :=
        { threads := h.recorded.threads
          taken := h.recorded.append hholding _
          counted := by rw [hframes]; exact h.recorded.counted
          numbered := by rw [hframes]; exact h.recorded.numbered }
      alone := fun _ => h.alone (by rw [hholding]; simp)
      runs := fun hstage _ => h.runs hstage (by rw [hholding]; simp)
      stops := h.stops
      joins := fun hstage => ⟨(h.joins hstage).1, by simp⟩
      quiet := fun _ hhand => absurd rfl hhand
      drops := fun _ => by
        cases hstage : p.stage with
        | idle =>
            have hruns := h.runs hstage (by rw [hholding]; simp)
            exact absurd (hruns.symm.trans hrunning) (by decide)
        | cleared => exact .inr ⟨rfl, by simp⟩
        | joining => exact .inl (h.joins hstage).1 }

/-- **The thread encodes the message that it has**, with the next number, and sends it, unless the
publisher is being stopped. -/
theorem Sound.publish (h : p.Sound sessionId) {answer : QueueAnswer WebXMessage}
    (hholding : p.place = .holding answer) {timestampMs : UInt64}
    {freshMemory : (size : ℕ) → Vector UInt8 size} {sent : Bool} {next : Publisher}
    (hpublish : p.publish sessionId timestampMs freshMemory sent = .ok next) :
    next.Sound sessionId := by
  rcases publish_cases hpublish with ⟨message, frame, hplace, hrunning, hencode, rfl⟩ |
    ⟨message, hplace, hrunning, rfl⟩ | ⟨hhand, rfl⟩
  · exact h.publish_running hplace sent hencode hrunning
  · exact h.publish_stopped hplace hrunning
  · exact h.goTo .testing (by rw [hholding]; simp) (by rw [hholding]; simp) hhand (by simp) rfl

/-- **A step keeps what holds of a publisher.** -/
theorem Sound.step (h : p.Sound sessionId) {action : PublisherAction} (hallowed : p.Allowed action)
    {next : Publisher} (hstep : p.step sessionId action = .ok next) : next.Sound sessionId := by
  cases action with
  | run => exact Except.ok.inj hstep ▸ h.run hallowed
  | clearRunning => exact Except.ok.inj hstep ▸ h.clearRunning hallowed
  | stopQueue => exact Except.ok.inj hstep ▸ h.stopQueue hallowed
  | join => exact Except.ok.inj hstep ▸ h.join hallowed.1 hallowed.2
  | call message => exact Except.ok.inj hstep ▸ h.call message
  | put caller notified =>
      obtain ⟨next', hput, hnext⟩ := h.put hallowed
      have heq : Except.ok next' = Except.ok next := hput.symm.trans hstep
      exact Except.ok.inj heq ▸ hnext
  | test => exact Except.ok.inj hstep ▸ h.test hallowed
  | get => exact Except.ok.inj hstep ▸ h.get hallowed.1 hallowed.2
  | wake => exact Except.ok.inj hstep ▸ h.wake hallowed.1 hallowed.2
  | publish timestampMs freshMemory sent =>
      obtain ⟨answer, hholding⟩ := hallowed
      exact h.publish hholding hstep

/-- What holds of a publisher holds after every run. -/
theorem sound_after_run {actions : List PublisherAction}
    (hrun : Run (step sessionId) Allowed new actions p) : p.Sound sessionId :=
  hrun.invariant (fun _ _ _ h hallowed hstep => h.step hallowed hstep) sound_new

/-! ## What is sent -/

open MessageFormat in
/-- A frame that was encoded is read again. -/
theorem decodeMessage_of_encode (ctx : Context) {message : WebXMessage}
    (himages : HasImages message.content) (hsize : totalSize message.content < uint32Size)
    {frame : List UInt8} (hencode : encode ctx message = .ok frame) :
    decodeMessage frame = some ⟨ctx.sessionId.toList, message.clientIndexMask, ctx.timestampMs,
      message.type, ctx.messageCounter + 1, frame.length, documentedContent message.content⟩ := by
  obtain ⟨writer, hproduce, hwrites⟩ := encode_eq_produce ctx himages hsize
  obtain ⟨bytes, hbytes, hlength, hheader, hcontent⟩ :=
    produce_eq ctx message hwrites (extent_layout_le _) hsize
  obtain rfl : frame = bytes := Except.ok.inj (hencode.symm.trans (hproduce.trans hbytes))
  rw [← hlength] at hheader
  exact decodeMessage_eq ctx himages hsize hlength hheader hcontent

open MessageFormat in
/-- **The messages are published in order**, however the threads interleave: those that were accepted are
the ones that have been handled, that in the hand of the thread and those that wait; frame `i` is the
encoding of message `i` with the number `i + 1`; the thread does not sleep while a message waits, and drops
a message only when it is stopped. -/
theorem published_of_run {actions : List PublisherAction}
    (hrun : Run (step sessionId) Allowed new actions p) :
    p.threads.accepted = p.handled.map Prod.fst ++ p.inHand ++ p.waiting ∧
    (∀ (i : ℕ) (message : WebXMessage) (frame : List UInt8), p.frames[i]? = some (message, frame) →
      HasImages message.content → totalSize message.content < uint32Size →
      ∃ timestampMs, decodeMessage frame = some ⟨sessionId.toList, message.clientIndexMask,
        timestampMs, message.type, UInt32.ofNat (i + 1), frame.length,
        documentedContent message.content⟩) ∧
    (() ∈ p.threads.sleepers.asleep → p.waiting = []) ∧
    ((∃ message, (message, Fate.dropped) ∈ p.handled) →
      p.threads.queue.unavailable = true ∨ p.stage = .cleared) := by
  have h := sound_after_run hrun
  refine ⟨?_, ?_, ?_, fun hdropped => (h.drops hdropped).imp_right And.left⟩
  · rw [h.recorded.threads.order, h.recorded.taken]
    rfl
  · intro i message frame hi himages hsize
    obtain ⟨timestampMs, freshMemory, hencode⟩ := h.recorded.numbered i message frame hi
    rw [UInt32.ofNat_add]
    exact ⟨timestampMs, decodeMessage_of_encode _ himages hsize hencode⟩
  · intro hasleep
    -- the only thread sleeps, and so none has been woken up for a message
    have hwoken : p.threads.sleepers.woken = ∅ :=
      eq_empty_of_notMem (Finset.disjoint_left.mp p.threads.sleepers.disjoint hasleep)
    have hserved := h.recorded.threads.served ⟨(), hasleep⟩
    rw [hwoken, Finset.card_empty, Nat.le_zero, List.length_eq_zero_iff] at hserved
    rw [waiting, hserved, List.map_nil]

/-- A ping that is put, taken and sent. -/
theorem published_of_run_ping : ∃ p : Publisher, p.handled.map Prod.fst = [⟨1, .ping⟩] ∧
    p.threads.accepted = p.handled.map Prod.fst ++ p.inHand ++ p.waiting := by
  have hrun : Run (step (Vector.replicate 16 0)) Allowed new
      [.run, .call ⟨1, .ping⟩, .put 0 none, .test, .get,
        .publish 5 (fun size => Vector.replicate size 0) true] _ :=
    .cons rfl rfl (.cons trivial rfl (.cons ⟨_, rfl, fun _ => rfl⟩ rfl (.cons rfl rfl
      (.cons ⟨rfl, Finset.notMem_empty ()⟩ rfl (.single ⟨_, rfl⟩ rfl)))))
  exact ⟨_, rfl, (published_of_run hrun).1⟩

/-! ## The end -/

/-- The steps that the thread of a publisher takes at most when it is waited for. -/
def stepsLeft (p : Publisher) : ℕ :=
  match p.place with
  | .absent | .ended => 0
  | .testing => 1
  | .holding _ => 2
  | .asking => 3

/-- The thread ends after three steps at most. -/
theorem stepsLeft_le (p : Publisher) : p.stepsLeft ≤ 3 := by
  unfold stepsLeft
  split <;> decide

/-- **A step while the thread is waited for**: those of the thread come closer to its end. -/
theorem Sound.step_joining (h : p.Sound sessionId) (hjoining : p.stage = .joining)
    {action : PublisherAction} (hallowed : p.Allowed action) (hjoin : action ≠ .join)
    {next : Publisher} (hstep : p.step sessionId action = .ok next) :
    next.stage = .joining ∧ action.ofThread.toNat + next.stepsLeft ≤ p.stepsLeft := by
  have hidle : p.stage ≠ .idle := by rw [hjoining]; simp
  have hrunning := h.stops hidle
  have hstopped := (h.joins hjoining).1
  cases action with
  | run | clearRunning => exact absurd hallowed hidle
  | stopQueue => cases hjoining.symm.trans hallowed
  | join => exact absurd rfl hjoin
  | call message =>
      obtain rfl := Except.ok.inj hstep
      rw [Publisher.call, hrunning, if_neg Bool.false_ne_true]
      exact ⟨hjoining, (Nat.zero_add _).le⟩
  | put caller notified =>
      obtain ⟨message, hcaller, -⟩ := hallowed
      have hput : p.put caller notified = .ok next := hstep
      rw [Publisher.put, hcaller] at hput
      obtain ⟨threads, -, hnext⟩ := exists_of_bind_eq_ok hput
      obtain rfl := Except.ok.inj hnext
      exact ⟨hjoining, (Nat.zero_add _).le⟩
  | test =>
      obtain rfl := Except.ok.inj hstep
      have htesting : p.place = .testing := hallowed
      refine ⟨hjoining, ?_⟩
      rw [stepsLeft, stepsLeft, Publisher.test, hrunning, htesting]
      exact Nat.le_refl 1
  | get =>
      obtain rfl := Except.ok.inj hstep
      -- a queue that is stopped answers null
      have hnull : p.threads.queue.get.1 = .null := by rw [WebXQueue.get, if_pos hstopped]
      refine ⟨hjoining, ?_⟩
      rw [stepsLeft, stepsLeft, Publisher.get, hnull, hallowed.1]
      exact Nat.le_refl 3
  | wake =>
      have hsleeps : () ∈ p.threads.sleepers.asleep := hallowed.2
      rw [h.recorded.threads.stopped hstopped] at hsleeps
      exact absurd hsleeps (Finset.notMem_empty ())
  | publish timestampMs freshMemory sent =>
      obtain ⟨answer, hholding⟩ := hallowed
      have hnext : next.stage = .joining ∧ next.place = .testing := by
        rcases publish_cases hstep with ⟨_, _, _, _, _, rfl⟩ | ⟨_, _, _, rfl⟩ | ⟨_, rfl⟩ <;>
          exact ⟨hjoining, rfl⟩
      refine ⟨hnext.1, ?_⟩
      rw [stepsLeft, stepsLeft, hnext.2, hholding]
      exact Nat.le_refl 2

/-- **The thread is never blocked** while it is waited for. -/
theorem Sound.exists_step_of_joining (h : p.Sound sessionId) (hjoining : p.stage = .joining)
    (hended : p.place ≠ .ended) : ∃ action, action.ofThread = true ∧ p.Allowed action ∧
      ∃ next, p.step sessionId action = .ok next := by
  obtain ⟨hstopped, habsent⟩ := h.joins hjoining
  have hrunning := h.stops (by rw [hjoining]; simp)
  cases hplace : p.place with
  | absent => exact absurd hplace habsent
  | ended => exact absurd hplace hended
  | testing => exact ⟨.test, rfl, hplace, _, rfl⟩
  | asking =>
      have hawake : () ∉ p.threads.sleepers.asleep := by
        rw [h.recorded.threads.stopped hstopped]
        exact Finset.notMem_empty ()
      exact ⟨.get, rfl, ⟨hplace, hawake⟩, _, rfl⟩
  | holding answer =>
      refine ⟨.publish 0 (fun size => Vector.replicate size 0) true, rfl, ⟨answer, hplace⟩, ?_⟩
      show ∃ next, p.publish sessionId 0 _ true = .ok next
      rw [Publisher.publish, hplace, hrunning]
      cases answer <;> exact ⟨_, rfl⟩

/-- **A call of `stop` returns**: while it waits for the thread, this takes at most three steps, whatever
the other threads do, and it can take one until it has ended. -/
theorem ends_of_run {actions actions' : List PublisherAction} {q : Publisher}
    (hrun : Run (step sessionId) Allowed new actions p) (hjoining : p.stage = .joining)
    (hrun' : Run (step sessionId) (fun p action => p.Allowed action ∧ action ≠ .join) p actions' q) :
    (actions'.filter PublisherAction.ofThread).length ≤ 3 ∧ (q.place = .ended ∨
      ∃ action, action.ofThread = true ∧ q.Allowed action ∧ ∃ next, q.step sessionId action = .ok next) := by
  have h := sound_after_run hrun
  clear hrun
  have hleft : q.Sound sessionId ∧ q.stage = .joining ∧
      (actions'.filter PublisherAction.ofThread).length + q.stepsLeft ≤ p.stepsLeft := by
    induction hrun' with
    | nil p => exact ⟨h, hjoining, by simp⟩
    | @cons p next q action actions hallowed hstep _ ih =>
        obtain ⟨hnext, hle⟩ := h.step_joining hjoining hallowed.1 hallowed.2 hstep
        obtain ⟨hq, hqjoining, hqle⟩ := ih hnext (h.step hallowed.1 hstep)
        refine ⟨hq, hqjoining, ?_⟩
        rw [List.filter_cons]
        split_ifs with hthread
        · rw [hthread, Bool.toNat_true] at hle
          rw [List.length_cons]
          omega
        · omega
  obtain ⟨hq, hqjoining, hle⟩ := hleft
  have hthree := p.stepsLeft_le
  refine ⟨by omega, ?_⟩
  by_cases hended : q.place = .ended
  · exact .inl hended
  · exact .inr (hq.exists_step_of_joining hqjoining hended)

/-- The thread is stopped at the test of its loop. -/
theorem ends_of_run_testing : ∃ q : Publisher, q.place = .ended ∧
    (q.place = .ended ∨ ∃ action, action.ofThread = true ∧ q.Allowed action ∧
      ∃ next, q.step (Vector.replicate 16 0) action = .ok next) := by
  have hrun : Run (step (Vector.replicate 16 0)) Allowed new [.run, .clearRunning, .stopQueue] _ :=
    .cons rfl rfl (.cons rfl rfl (.single rfl rfl))
  have hrun' : Run (step (Vector.replicate 16 0)) (fun p action => p.Allowed action ∧ action ≠ .join)
      (new.run.clearRunning.stopQueue) [.test] _ := .single ⟨rfl, by simp⟩ rfl
  exact ⟨_, rfl, (ends_of_run hrun rfl hrun').2⟩

end Publisher

end WebXEngine
