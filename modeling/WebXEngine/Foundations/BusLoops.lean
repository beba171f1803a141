import Mathlib.Tactic.Common

/-! # Loops on an event bus

Threads that look for events on a bus, and for other things, round after round, until an event ends them.
The bus gives an event to the threads that it knows as subscribers when the event is sent; for the others
the event is lost.

* **`LoopBody`** — the rounds of a loop, and what they find on the bus.
* **`BusLoop`** — a thread with its loop, and the events that wait for it.
* **`BusLoop.Sound`** — what holds of it; only the event that ends it does so.
* **`BusLoop.Hears`**, **`BusLoop.Deaf`** — after this event was sent, a thread can end, or it cannot.
* **`BusLoop.Step`** — what a thread can do. -/

namespace WebXEngine

/-- What a round finds on the bus: it does not come so far; nothing; an event; or an event that it cannot
receive. -/
inductive BusAnswer (Event : Type*)
  | interrupted
  | nothing
  | event (event : Event)
  | failed
  deriving DecidableEq, Repr

/-- The rounds of a loop, which an event ends. -/
structure LoopBody (S Input Event Failure : Type*) where
  round : S → Input → Except Failure S
  running : S → Bool
  answer : Input → BusAnswer Event
  shutdown : Event
  /-- What the rounds keep. -/
  Inv : S → Prop
  keeps {s t : S} {input : Input} : Inv s → running s = true → round s input = .ok t → Inv t
  /-- A round is the last one exactly when it receives the event. -/
  ends {s t : S} {input : Input} : Inv s → running s = true → round s input = .ok t →
    (running t = false ↔ answer input = .event shutdown)
  /-- The event can be received. -/
  stoppable {s : S} : Inv s → running s = true →
    ∃ input t, answer input = .event shutdown ∧ round s input = .ok t

/-- Where a thread is: there is none; it makes its sockets; it is in its loop; it has ended; it was waited
for. -/
inductive LoopPlace
  | absent
  | starting
  | polling
  | ended
  | joined
  deriving DecidableEq, Repr

/-- A thread with its loop: whether the bus knows its subscription, and the events that wait for it. -/
structure BusLoop (S Event : Type*) where
  place : LoopPlace
  subscribed : Bool
  inbox : List Event
  state : S

namespace BusLoop

variable {S Input Event Failure : Type*}

/-- No thread. -/
def new (state : S) : BusLoop S Event := ⟨.absent, false, [], state⟩

variable (body : LoopBody S Input Event Failure) (loop : BusLoop S Event)

/-- The thread is made. -/
def run : BusLoop S Event := { loop with place := .starting }

/-- The thread has made its sockets. -/
def connect : BusLoop S Event := { loop with place := .polling }

/-- The bus gets to know the subscription. -/
def subscribe : BusLoop S Event := { loop with subscribed := true }

/-- An event is sent. -/
def deliver (event : Event) : BusLoop S Event :=
  if loop.subscribed then { loop with inbox := loop.inbox ++ [event] } else loop

/-- The thread was waited for, if there is one. -/
def join : BusLoop S Event :=
  { loop with place := match loop.place with
      | .absent => .absent
      | _ => .joined }

/-- There is no thread, or it has ended. -/
def Left : Prop := loop.place = .absent ∨ loop.place = .ended ∨ loop.place = .joined

instance : Decidable loop.Left := inferInstanceAs (Decidable (_ ∨ _ ∨ _))

/-- What can be found when these events wait. -/
def Finds (inbox : List Event) : BusAnswer Event → Prop
  | .interrupted => True
  | .nothing => inbox = []
  | .event event => inbox.head? = some event
  | .failed => inbox ≠ []

/-- The events that wait after a round. -/
def remaining (inbox : List Event) : BusAnswer Event → List Event
  | .event _ => inbox.tail
  | .interrupted | .nothing | .failed => inbox

/-- A round of the loop. -/
def round (input : Input) : Except Failure (BusLoop S Event) :=
  (body.round loop.state input).map fun state =>
    { loop with
      state := state
      place := if body.running state then .polling else .ended
      inbox := remaining loop.inbox (body.answer input) }

/-- The rounds that can be made. -/
def Allowed (input : Input) : Prop := loop.place = .polling ∧ Finds loop.inbox (body.answer input)

/-! ## What holds of a thread -/

/-- What holds of a thread, before or after the event that ends it was sent. -/
structure Sound (sent : Bool) (loop : BusLoop S Event) : Prop where
  inv : body.Inv loop.state
  running : loop.place ≠ .ended → loop.place ≠ .joined → body.running loop.state = true
  ended : loop.place = .ended ∨ loop.place = .joined → sent = true
  inbox : loop.inbox = [] ∨ loop.inbox = [body.shutdown] ∧ sent = true
  subscribed : loop.subscribed = true → sent = false → loop.place = .polling

/-- After the event was sent, the thread does not run, or the event waits for it. -/
def Hears : Prop := loop.Left ∨ loop.place = .polling ∧ loop.inbox = [body.shutdown]

/-- After the event was sent, the thread runs and no event waits for it. -/
def Deaf : Prop := (loop.place = .starting ∨ loop.place = .polling) ∧ loop.inbox = []

variable {body loop} {sent : Bool}

/-- A thread that was not started yet. -/
theorem sound_new {state : S} (hinv : body.Inv state) (hrunning : body.running state = true) :
    Sound body false (new state) where
  inv := hinv
  running := fun _ _ => hrunning
  ended := fun h => by rcases h with h | h <;> cases h
  inbox := .inl rfl
  subscribed := fun h => by cases h

/-- The thread is started before the event is sent. -/
theorem Sound.run (h : loop.Sound body sent) (habsent : loop.place = .absent) (hsent : sent = false) :
    loop.run.Sound body sent where
  inv := h.inv
  running := fun _ _ => h.running (by simp [habsent]) (by simp [habsent])
  ended := fun hplace => by rcases hplace with hplace | hplace <;> cases hplace
  inbox := h.inbox
  subscribed := fun hsubscribed _ => by
    have hpolling := h.subscribed hsubscribed hsent
    rw [habsent] at hpolling
    cases hpolling

/-- The thread opens its socket and begins to poll. -/
theorem Sound.connect (h : loop.Sound body sent) (hstarting : loop.place = .starting) :
    loop.connect.Sound body sent where
  inv := h.inv
  running := fun _ _ => h.running (by simp [hstarting]) (by simp [hstarting])
  ended := fun hplace => by rcases hplace with hplace | hplace <;> cases hplace
  inbox := h.inbox
  subscribed := fun _ _ => rfl

/-- The subscription of a thread that polls takes effect. -/
theorem Sound.subscribe (h : loop.Sound body sent) (hpolling : loop.place = .polling) :
    loop.subscribe.Sound body sent :=
  ⟨h.inv, h.running, h.ended, h.inbox, fun _ _ => hpolling⟩

/-- The state of a thread is changed by others. -/
theorem Sound.withState (h : loop.Sound body sent) {state : S} (hinv : body.Inv state)
    (hrunning : body.running state = body.running loop.state) :
    Sound body sent { loop with state := state } :=
  ⟨hinv, fun hended hjoined => hrunning.trans (h.running hended hjoined), h.ended, h.inbox,
    h.subscribed⟩

/-- **The event is sent**: a thread that has subscribed gets it, and it is lost for the others. -/
theorem Sound.deliver (h : loop.Sound body false) : (loop.deliver body.shutdown).Sound body true := by
  have hinbox : loop.inbox = [] := by
    rcases h.inbox with hinbox | ⟨-, hsent⟩
    · exact hinbox
    · cases hsent
  rw [BusLoop.deliver]
  split_ifs
  · exact ⟨h.inv, h.running, fun _ => rfl, .inr ⟨by rw [hinbox]; rfl, rfl⟩, fun _ hsent => by cases hsent⟩
  · exact ⟨h.inv, h.running, fun _ => rfl, .inl hinbox, fun _ hsent => by cases hsent⟩

/-- A thread that has left is joined. -/
theorem Sound.join (h : loop.Sound body true) (hleft : loop.Left) : loop.join.Sound body true where
  inv := h.inv
  running := fun hended hjoined => by
    have habsent : loop.place = .absent := by
      rcases hleft with habsent | hplace | hplace
      · exact habsent
      · exact absurd (by simp [BusLoop.join, hplace]) hjoined
      · exact absurd (by simp [BusLoop.join, hplace]) hjoined
    exact h.running (by simp [habsent]) (by simp [habsent])
  ended := fun _ => rfl
  inbox := h.inbox
  subscribed := fun _ hsent => by cases hsent

/-- **A round ends the thread exactly when it receives the event.** -/
theorem Sound.round (h : loop.Sound body sent) {input : Input} (hallowed : loop.Allowed body input)
    {next : BusLoop S Event} (hround : loop.round body input = .ok next) :
    next.Sound body sent ∧ next.subscribed = loop.subscribed ∧
      (body.answer input = .event body.shutdown ∧ next.place = .ended ∨
        next.place = .polling ∧ next.inbox = loop.inbox) := by
  obtain ⟨hpolling, hfinds⟩ := hallowed
  have hrunning := h.running (by simp [hpolling]) (by simp [hpolling])
  cases hbody : body.round loop.state input with
  | error e =>
      rw [BusLoop.round, hbody] at hround
      cases hround
  | ok state =>
      rw [BusLoop.round, hbody] at hround
      obtain rfl := Except.ok.inj hround
      have hinv := body.keeps h.inv hrunning hbody
      have hends := body.ends h.inv hrunning hbody
      by_cases hevent : body.answer input = .event body.shutdown
      · -- the event waited, and so it was sent
        have hstopped : body.running state = false := hends.mpr hevent
        rw [hevent] at hfinds
        have hsent : sent = true := by
          rcases h.inbox with hinbox | ⟨-, hsent⟩
          · rw [hinbox] at hfinds
            cases hfinds
          · exact hsent
        refine ⟨⟨hinv, fun hplace => absurd (by simp [hstopped]) hplace, fun _ => hsent, .inl ?_,
          fun _ hnot => by rw [hsent] at hnot; cases hnot⟩, rfl, .inl ⟨hevent, by simp [hstopped]⟩⟩
        rcases h.inbox with hinbox | ⟨hinbox, -⟩ <;> rw [hevent, hinbox] <;> rfl
      · have hruns : body.running state = true := by
          cases hstate : body.running state with
          | true => rfl
          | false => exact absurd (hends.mp hstate) hevent
        -- no other event waits
        have hsame : remaining loop.inbox (body.answer input) = loop.inbox := by
          cases hanswer : body.answer input with
          | interrupted | nothing | failed => rfl
          | event event =>
              rw [hanswer] at hfinds hevent
              rcases h.inbox with hinbox | ⟨hinbox, -⟩
              · rw [hinbox] at hfinds
                cases hfinds
              · rw [hinbox] at hfinds
                obtain rfl := Option.some.inj hfinds
                exact absurd rfl hevent
        refine ⟨⟨hinv, fun _ _ => hruns, fun hplace => ?_, ?_, fun _ _ => by simp [hruns]⟩, rfl,
          .inr ⟨by simp [hruns], hsame⟩⟩
        · simp [hruns] at hplace
        · rw [hsame]
          exact h.inbox

/-! ## After the event was sent -/

/-- A subscriber hears the event, and so does a thread that was not made. -/
theorem Sound.hears_deliver (h : loop.Sound body false)
    (hknown : loop.place = .absent ∨ loop.subscribed = true) :
    (loop.deliver body.shutdown).Hears body := by
  rw [BusLoop.deliver]
  split_ifs with hsubscribed
  · right
    refine ⟨h.subscribed hsubscribed rfl, ?_⟩
    rcases h.inbox with hinbox | ⟨-, hsent⟩
    · rw [hinbox]
      rfl
    · cases hsent
  · exact .inl (.inl (hknown.resolve_right hsubscribed))

/-- A thread whose subscription is not known does not. -/
theorem Sound.deaf_deliver (h : loop.Sound body false) (hplace : loop.place ≠ .absent)
    (hunknown : loop.subscribed ≠ true) : (loop.deliver body.shutdown).Deaf := by
  rw [BusLoop.deliver, if_neg hunknown]
  refine ⟨?_, ?_⟩
  · have hended : loop.place ≠ .ended ∧ loop.place ≠ .joined :=
      ⟨fun heq => Bool.false_ne_true (h.ended (.inl heq)),
        fun heq => Bool.false_ne_true (h.ended (.inr heq))⟩
    cases hplaced : loop.place with
    | absent => exact absurd hplaced hplace
    | starting => exact .inl rfl
    | polling => exact .inr rfl
    | ended => exact absurd hplaced hended.1
    | joined => exact absurd hplaced hended.2
  · rcases h.inbox with hinbox | ⟨-, hsent⟩
    · exact hinbox
    · cases hsent

/-! ## The steps of a thread -/

/-- A step of a thread: it makes its sockets, the bus gets to know its subscription, it makes a round; or
others change its state. -/
inductive Step (body : LoopBody S Input Event Failure) (loop : BusLoop S Event) :
    BusLoop S Event → Prop
  | connect (h : loop.place = .starting) : Step body loop loop.connect
  | subscribe (h : loop.place = .polling) : Step body loop loop.subscribe
  | round {input : Input} {next : BusLoop S Event} (h : loop.Allowed body input)
      (hround : loop.round body input = .ok next) : Step body loop next
  | changed {state : S} (hinv : body.Inv loop.state → body.Inv state)
      (hrunning : body.running state = body.running loop.state) :
      Step body loop { loop with state := state }

variable {next : BusLoop S Event}

/-- **A step keeps what holds of a thread.** -/
theorem Step.sound (hstep : loop.Step body next) (h : loop.Sound body sent) : next.Sound body sent := by
  cases hstep with
  | connect hstarting => exact h.connect hstarting
  | subscribe hpolling => exact h.subscribe hpolling
  | round hallowed hround => exact (h.round hallowed hround).1
  | changed hinv hrunning => exact h.withState (hinv h.inv) hrunning

/-- A thread that has left stays where it is. -/
theorem Step.place (hstep : loop.Step body next) : next.place = loop.place ∨ ¬ loop.Left := by
  cases hstep with
  | connect hstarting => exact .inr (by simp [Left, hstarting])
  | subscribe hpolling => exact .inl rfl
  | round hallowed hround => exact .inr (by simp [Left, hallowed.1])
  | changed hinv hrunning => exact .inl rfl

/-- **A step keeps a thread hearing.** -/
theorem Step.hears (hstep : loop.Step body next) (h : loop.Sound body sent)
    (hhears : loop.Hears body) : next.Hears body := by
  cases hstep with
  | connect hstarting =>
      rcases hhears with hleft | ⟨hpolling, -⟩
      · simp [Left, hstarting] at hleft
      · rw [hstarting] at hpolling
        cases hpolling
  | subscribe hpolling => exact hhears
  | round hallowed hround =>
      obtain ⟨-, -, ⟨-, hended⟩ | ⟨hpolling, hinbox⟩⟩ := h.round hallowed hround
      · exact .inl (.inr (.inl hended))
      · rcases hhears with hleft | ⟨-, hwaits⟩
        · -- a thread that has left makes no round
          simp [Left, hallowed.1] at hleft
        · exact .inr ⟨hpolling, hinbox.trans hwaits⟩
  | changed hinv hrunning => exact hhears

/-- **A step does not end a deaf thread.** -/
theorem Step.deaf (hstep : loop.Step body next) (h : loop.Sound body sent) (hdeaf : loop.Deaf) :
    next.Deaf := by
  cases hstep with
  | connect hstarting => exact ⟨.inr rfl, hdeaf.2⟩
  | subscribe hpolling => exact hdeaf
  | round hallowed hround =>
      obtain ⟨-, -, ⟨hevent, -⟩ | ⟨hpolling, hinbox⟩⟩ := h.round hallowed hround
      · have hfinds := hallowed.2
        rw [hevent, hdeaf.2] at hfinds
        cases hfinds
      · exact ⟨.inr hpolling, hinbox.trans hdeaf.2⟩
  | changed hinv hrunning => exact hdeaf

/-- A deaf thread runs. -/
theorem Deaf.not_left (hdeaf : loop.Deaf) : ¬ loop.Left := by
  rw [Left]
  rcases hdeaf.1 with hplace | hplace <;> simp [hplace]

/-- **A thread that hears the event can end.** -/
theorem Hears.exists_round (hhears : loop.Hears body) (h : loop.Sound body sent)
    (hrunning : ¬ loop.Left) :
    loop.place = .polling ∧ ∃ input next, loop.Allowed body input ∧
      loop.round body input = .ok next ∧ next.Left := by
  obtain ⟨hpolling, hwaits⟩ := hhears.resolve_left hrunning
  obtain ⟨input, state, hevent, hbody⟩ :=
    body.stoppable h.inv (h.running (by simp [hpolling]) (by simp [hpolling]))
  have hallowed : loop.Allowed body input := ⟨hpolling, by rw [hevent, hwaits]; rfl⟩
  refine ⟨hpolling, input, _, hallowed, by rw [BusLoop.round, hbody]; rfl, ?_⟩
  have hstopped : body.running state = false :=
    (body.ends h.inv (h.running (by simp [hpolling]) (by simp [hpolling])) hbody).mpr hevent
  exact .inr (.inl (by simp [hstopped]))

end BusLoop

end WebXEngine
