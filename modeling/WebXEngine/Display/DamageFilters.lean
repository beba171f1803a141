import WebXEngine.Display.Manager

/-! # The damage that is filtered

A new size or place of a window adds a filter; the damage events with its window and serial number
are dropped until the last one of them, or until the filter is older than a second at the end of a
flush.

* **`WebXEventListener.flushEvents`** — one flush: the events that are passed on, and the filters.
* **`DropsAccountedFor`** — what the filter drops is accounted for by the events with new sizes.
* **`dropsAccountedFor`** — this is so after every sequence of flushes and events. -/

namespace WebXEngine

variable {root : UInt32}

/-! ## Events and flushes -/

/-- An event of the queue: one that changes the windows, or one of another type. -/
inductive X11Event (root : UInt32)
  | window (event : XEvent root)
  | other (type : ℕ)

namespace X11Event

/-- The damage of an event that reports some. -/
def damage : X11Event root → Option WebXDamageEvent
  | .window (.damage event) => some event
  | _ => none

/-- The event reports a new size or place of a window, with a serial number. -/
def isConfigure (x11Window : UInt32) (serial : ℕ) : X11Event root → Bool
  | .window (.configure event) => event.x11Window = x11Window && event.serial = serial
  | _ => false

/-- The event is the last damage of a window with a serial number. -/
def isLastDamage (x11Window : UInt32) (serial : ℕ) : X11Event root → Bool
  | .window (.damage event) => event.x11Window = x11Window && event.serial = serial && !event.more
  | _ => false

end X11Event

/-- An event with the time at which it is taken from the queue. -/
structure QueuedEvent (root : UInt32) where
  event : X11Event root
  time : Time

/-- The events of a flush, and the time at its end. -/
structure EventFlush (root : UInt32) where
  events : List (QueuedEvent root)
  now : Time

namespace WebXEventListener

/-- The filter for events of all types. -/
def filterX11 (now : Time) (damageFilters : List WebXDamageFilter) :
    X11Event root → Bool × List WebXDamageFilter
  | .window event => filter now damageFilters event
  | .other _ => (true, damageFilters)

variable (settings : WebXSettings)

/-- The filter that the settings ask for. -/
def filterFunction (damageFilters : List WebXDamageFilter) (queued : QueuedEvent root) :
    Bool × List WebXDamageFilter :=
  if settings.event.filterDamageAfterConfigureNotify then
    filterX11 queued.time damageFilters queued.event
  else
    (true, damageFilters)

/-- The filters after some events. -/
def filtersAfter (damageFilters : List WebXDamageFilter) (events : List (QueuedEvent root)) :
    List WebXDamageFilter :=
  events.foldl (fun damageFilters queued => (filterFunction settings damageFilters queued).2)
    damageFilters

/-- What the filter says of each event. -/
def outcomes (damageFilters : List WebXDamageFilter) :
    List (QueuedEvent root) → List (QueuedEvent root × Bool)
  | [] => []
  | queued :: events =>
      (queued, (filterFunction settings damageFilters queued).1) ::
        outcomes (filterFunction settings damageFilters queued).2 events

/-- The events that are passed on. -/
def passedOn (outcomes : List (QueuedEvent root × Bool)) : List (QueuedEvent root) :=
  (outcomes.filter fun outcome => outcome.2).map fun outcome => outcome.1

/-- A flush: the events that are passed on, and the filters that are left. -/
def flushEvents (damageFilters : List WebXDamageFilter) (flush : EventFlush root) :
    List (QueuedEvent root) × List WebXDamageFilter :=
  (passedOn (outcomes settings damageFilters flush.events),
    removeOldFilters flush.now (filtersAfter settings damageFilters flush.events))

/-- The filters after some flushes. -/
def filtersAfterFlushes (damageFilters : List WebXDamageFilter) (flushes : List (EventFlush root)) :
    List WebXDamageFilter :=
  flushes.foldl (fun damageFilters flush => (flushEvents settings damageFilters flush).2)
    damageFilters

/-- What the filter says of each event of some flushes. -/
def outcomesOfFlushes (damageFilters : List WebXDamageFilter) :
    List (EventFlush root) → List (QueuedEvent root × Bool)
  | [] => []
  | flush :: flushes =>
      outcomes settings damageFilters flush.events ++
        outcomesOfFlushes (flushEvents settings damageFilters flush).2 flushes

end WebXEventListener

open WebXEventListener

/-- The events of some flushes. -/
def eventsOfFlushes (flushes : List (EventFlush root)) : List (QueuedEvent root) :=
  flushes.flatMap EventFlush.events

/-- A new size or place of a window was taken from the queue in some flush, at most a second before
the end of the last one. -/
def ConfiguredRecently (flushes : List (EventFlush root)) (x11Window : UInt32) (serial : ℕ) : Prop :=
  ∃ earlier last, flushes = earlier ++ [last] ∧ ∃ queued ∈ eventsOfFlushes flushes,
    queued.event.isConfigure x11Window serial = true ∧ last.now - queued.time ≤ Time.ofMs 1000

/-- **What the filter drops is accounted for**, after some flushes and some events of the next one:
the events that report no damage are passed on in order; a damage event is dropped only when a new
size or place of its window with its serial number was reported before it in the same flush, or
recently; and not more last damage events are dropped than new sizes or places were reported. -/
structure DropsAccountedFor (settings : WebXSettings) (flushes : List (EventFlush root))
    (events : List (QueuedEvent root)) : Prop where
  passed :
    (passedOn (outcomesOfFlushes settings [] flushes ++
      outcomes settings (filtersAfterFlushes settings [] flushes) events)).filter
        (fun queued => queued.event.damage.isNone) =
      (eventsOfFlushes flushes ++ events).filter fun queued => queued.event.damage.isNone
  dropped : ∀ before queued after damage, events = before ++ queued :: after →
    queued.event.damage = some damage →
    (filterFunction settings
      (filtersAfter settings (filtersAfterFlushes settings [] flushes) before) queued).1 = false →
    (∃ earlier ∈ before, earlier.event.isConfigure damage.x11Window damage.serial = true) ∨
      ConfiguredRecently flushes damage.x11Window damage.serial
  count : ∀ x11Window serial,
    (outcomesOfFlushes settings [] flushes ++
      outcomes settings (filtersAfterFlushes settings [] flushes) events).countP
        (fun outcome => !outcome.2 && outcome.1.event.isLastDamage x11Window serial) ≤
      (eventsOfFlushes flushes ++ events).countP fun queued =>
        queued.event.isConfigure x11Window serial

/-! ## One event -/

namespace WebXDamageFilter

/-- The filter is for a window with a serial number. -/
def isFor (x11Window : UInt32) (serial : ℕ) (damageFilter : WebXDamageFilter) : Bool :=
  damageFilter.x11Window = x11Window && damageFilter.serial = serial

/-- A filter is for a window and a serial number. -/
theorem isFor_iff {x11Window : UInt32} {serial : ℕ} {damageFilter : WebXDamageFilter} :
    damageFilter.isFor x11Window serial = true ↔
      damageFilter.x11Window = x11Window ∧ damageFilter.serial = serial := by
  rw [isFor, Bool.and_eq_true, decide_eq_true_iff, decide_eq_true_iff]

end WebXDamageFilter

namespace WebXEventListener

/-- An event that reports no damage is passed on. -/
theorem filterX11_of_damage_eq_none {event : X11Event root} (h : event.damage = none) (now : Time)
    (damageFilters : List WebXDamageFilter) : (filterX11 now damageFilters event).1 = true := by
  rcases event with event | type
  · cases event with
    | damage event => exact nomatch h
    | map | unmap | reparent | configure => rfl
  · rfl

/-- An event that is dropped reports damage for which there is a filter. -/
theorem exists_filter_of_dropped {event : X11Event root} {damage : WebXDamageEvent}
    (hdamage : event.damage = some damage) {now : Time} {damageFilters : List WebXDamageFilter}
    (h : (filterX11 now damageFilters event).1 = false) :
    ∃ damageFilter ∈ damageFilters,
      damageFilter.isFor damage.x11Window damage.serial = true := by
  rcases event with event | type
  · cases event with
    | damage event =>
      cases hdamage
      by_contra hnone
      have hany : ¬ damageFilters.any (matchesDamage damage) = true :=
        fun hany => hnone (List.any_eq_true.mp hany)
      rw [filterX11, filter, if_neg hany] at h
      exact Bool.noConfusion h
    | map | unmap | reparent | configure => cases hdamage
  · cases hdamage

/-- A filter after an event was there before, or the event reports a new size or place. -/
theorem mem_filterX11 {event : X11Event root} {now : Time} {damageFilters : List WebXDamageFilter}
    {damageFilter : WebXDamageFilter} (h : damageFilter ∈ (filterX11 now damageFilters event).2) :
    damageFilter ∈ damageFilters ∨ damageFilter.timestamp = now ∧
      event.isConfigure damageFilter.x11Window damageFilter.serial = true := by
  rcases event with event | type
  · cases event with
    | damage event =>
      rw [filterX11, filter] at h
      split_ifs at h with hany hmore
      · exact .inl h
      · exact .inl (List.mem_of_mem_eraseP h)
      · exact .inl h
    | configure event =>
      rcases List.mem_append.mp h with h | h
      · exact .inl h
      · rw [List.mem_singleton.mp h]
        exact .inr ⟨rfl, by simp [X11Event.isConfigure]⟩
    | map | unmap | reparent => exact .inl h
  · exact .inl h

end WebXEventListener

/-- One thing is erased of those that fulfil a condition, and none of the other ones. -/
theorem countP_eraseP {α : Type*} {p : α → Bool} {l : List α} (h : l.any p = true) :
    (l.eraseP p).countP p + 1 = l.countP p := by
  obtain ⟨a, ha, hp⟩ := List.any_eq_true.mp h
  obtain ⟨b, before, after, -, hb, hl, herase⟩ := List.exists_of_eraseP ha hp
  rw [herase, hl, List.countP_append, List.countP_append, List.countP_cons_of_pos hb, Nat.add_assoc]

namespace WebXEventListener

/-- **One event**: a filter is used up by the last damage that is dropped, and there is one more after
a new size or place. -/
theorem countP_filterX11 (event : X11Event root) (now : Time) (damageFilters : List WebXDamageFilter)
    (x11Window : UInt32) (serial : ℕ) :
    (filterX11 now damageFilters event).2.countP (WebXDamageFilter.isFor x11Window serial) +
        (if !(filterX11 now damageFilters event).1 && event.isLastDamage x11Window serial
          then 1 else 0) ≤
      damageFilters.countP (WebXDamageFilter.isFor x11Window serial) +
        (if event.isConfigure x11Window serial then 1 else 0) := by
  rcases event with event | type
  · cases event with
    | damage event =>
      rw [filterX11, filter]
      by_cases hany : damageFilters.any (matchesDamage event) = true
      · rw [if_pos hany]
        cases hmore : event.more with
        | true => simp [X11Event.isLastDamage, hmore]
        | false =>
          by_cases hsame : event.x11Window = x11Window ∧ event.serial = serial
          · -- the filter that is used up is one for this window and serial number
            obtain ⟨rfl, rfl⟩ := hsame
            have hcount := countP_eraseP hany
            have hlast : X11Event.isLastDamage event.x11Window event.serial
                (.window (.damage event) : X11Event root) = true := by
              simp [X11Event.isLastDamage, hmore]
            rw [hlast]
            exact Nat.le_of_eq hcount
          · have hnotLast : X11Event.isLastDamage x11Window serial
                (.window (.damage event) : X11Event root) = false := by
              rw [X11Event.isLastDamage, ← Bool.decide_and, decide_eq_false hsame, Bool.false_and]
            rw [hnotLast]
            exact List.eraseP_sublist.countP_le
      · rw [if_neg hany]
        exact Nat.le_refl _
    | configure event =>
      rw [filterX11, filter, List.countP_append, List.countP_singleton]
      exact Nat.le_refl _
    | map | unmap | reparent => exact Nat.le_refl _
  · exact Nat.le_refl _

/-! ## Sequences of events -/

variable {settings : WebXSettings} {damageFilters : List WebXDamageFilter}
  {events : List (QueuedEvent root)} {flushes : List (EventFlush root)}

/-- The filters are used when they are enabled. -/
theorem filterFunction_eq (henabled : settings.event.filterDamageAfterConfigureNotify = true)
    (damageFilters : List WebXDamageFilter) (queued : QueuedEvent root) :
    filterFunction settings damageFilters queued = filterX11 queued.time damageFilters queued.event :=
  if_pos henabled

/-- The first event changes the filters for the others. -/
theorem filtersAfter_cons (henabled : settings.event.filterDamageAfterConfigureNotify = true)
    (queued : QueuedEvent root) : filtersAfter settings damageFilters (queued :: events) =
      filtersAfter settings (filterX11 queued.time damageFilters queued.event).2 events := by
  rw [← filterFunction_eq henabled]
  rfl

/-- The events of the first flush come first. -/
theorem eventsOfFlushes_cons (flush : EventFlush root) :
    eventsOfFlushes (flush :: flushes) = flush.events ++ eventsOfFlushes flushes := rfl

/-- The events of the last flush come last. -/
theorem eventsOfFlushes_concat (flush : EventFlush root) :
    eventsOfFlushes (flushes ++ [flush]) = eventsOfFlushes flushes ++ flush.events := by
  rw [eventsOfFlushes, List.flatMap_append, List.flatMap_singleton, eventsOfFlushes]

/-- Outcomes are passed on in order. -/
theorem passedOn_append (outcomes outcomes' : List (QueuedEvent root × Bool)) :
    passedOn (outcomes ++ outcomes') = passedOn outcomes ++ passedOn outcomes' := by
  rw [passedOn, List.filter_append, List.map_append, passedOn, passedOn]

/-- The events that report no damage are passed on in order. -/
theorem filter_passedOn (henabled : settings.event.filterDamageAfterConfigureNotify = true) :
    (passedOn (outcomes settings damageFilters events)).filter
        (fun queued => queued.event.damage.isNone) =
      events.filter fun queued => queued.event.damage.isNone := by
  induction events generalizing damageFilters with
  | nil => rfl
  | cons queued events ih =>
    rw [outcomes, filterFunction_eq henabled, ← List.singleton_append, passedOn_append,
      List.filter_append, ih]
    cases hdamage : queued.event.damage with
    | none =>
      rw [filterX11_of_damage_eq_none hdamage, List.filter_cons_of_pos (by rw [hdamage]; rfl)]
      simp [passedOn, hdamage]
    | some damage =>
      rw [List.filter_cons_of_neg (by rw [hdamage]; exact Bool.false_ne_true)]
      cases (filterX11 queued.time damageFilters queued.event).1 <;> simp [passedOn, hdamage]

/-- A filter after some events was there before, or one of them reports a new size or place. -/
theorem mem_filtersAfter (henabled : settings.event.filterDamageAfterConfigureNotify = true)
    {damageFilter : WebXDamageFilter}
    (h : damageFilter ∈ filtersAfter settings damageFilters events) :
    damageFilter ∈ damageFilters ∨ ∃ queued ∈ events, queued.time = damageFilter.timestamp ∧
      queued.event.isConfigure damageFilter.x11Window damageFilter.serial = true := by
  induction events generalizing damageFilters with
  | nil => exact .inl h
  | cons queued events ih =>
    rw [filtersAfter_cons henabled] at h
    rcases ih h with hbefore | ⟨later, hlater, hconfigure⟩
    · exact (mem_filterX11 hbefore).imp_right fun ⟨htime, hconfigure⟩ =>
        ⟨queued, List.mem_cons_self .., htime.symm, hconfigure⟩
    · exact .inr ⟨later, List.mem_cons_of_mem queued hlater, hconfigure⟩

variable (damageFilters events) in
/-- Filters are used up by the last damage that is dropped. -/
theorem countP_outcomes (henabled : settings.event.filterDamageAfterConfigureNotify = true)
    (x11Window : UInt32) (serial : ℕ) :
    (filtersAfter settings damageFilters events).countP (WebXDamageFilter.isFor x11Window serial) +
        (outcomes settings damageFilters events).countP
          (fun outcome => !outcome.2 && outcome.1.event.isLastDamage x11Window serial) ≤
      damageFilters.countP (WebXDamageFilter.isFor x11Window serial) +
        events.countP fun queued => queued.event.isConfigure x11Window serial := by
  induction events generalizing damageFilters with
  | nil => exact Nat.le_refl _
  | cons queued events ih =>
    have hstep := countP_filterX11 queued.event queued.time damageFilters x11Window serial
    have hrest := ih (filterX11 queued.time damageFilters queued.event).2
    rw [filtersAfter_cons henabled, outcomes, List.countP_cons, List.countP_cons,
      filterFunction_eq henabled]
    dsimp only at hstep ⊢
    omega

/-! ## Sequences of flushes -/

/-- The events of flushes that report no damage are passed on in order. -/
theorem filter_passedOn_flushes (henabled : settings.event.filterDamageAfterConfigureNotify = true) :
    (passedOn (outcomesOfFlushes settings damageFilters flushes)).filter
        (fun queued => queued.event.damage.isNone) =
      (eventsOfFlushes flushes).filter fun queued => queued.event.damage.isNone := by
  induction flushes generalizing damageFilters with
  | nil => rfl
  | cons flush flushes ih =>
    rw [outcomesOfFlushes, passedOn_append, List.filter_append, filter_passedOn henabled, ih,
      eventsOfFlushes_cons, List.filter_append]

variable (damageFilters flushes) in
/-- **Each filter drops one event at most**: those that are left and the last damages that were dropped
are no more than the filters before and the configure events. -/
theorem countP_outcomesOfFlushes (henabled : settings.event.filterDamageAfterConfigureNotify = true)
    (x11Window : UInt32) (serial : ℕ) :
    (filtersAfterFlushes settings damageFilters flushes).countP
          (WebXDamageFilter.isFor x11Window serial) +
        (outcomesOfFlushes settings damageFilters flushes).countP
          (fun outcome => !outcome.2 && outcome.1.event.isLastDamage x11Window serial) ≤
      damageFilters.countP (WebXDamageFilter.isFor x11Window serial) +
        (eventsOfFlushes flushes).countP fun queued =>
          queued.event.isConfigure x11Window serial := by
  induction flushes generalizing damageFilters with
  | nil => exact Nat.le_refl _
  | cons flush flushes ih =>
    have hflush := countP_outcomes damageFilters flush.events henabled x11Window serial
    -- a flush ends with the removal of old filters, which does not add any
    have hold : (flushEvents settings damageFilters flush).2.countP
          (WebXDamageFilter.isFor x11Window serial) ≤
        (filtersAfter settings damageFilters flush.events).countP
          (WebXDamageFilter.isFor x11Window serial) := List.filter_sublist.countP_le
    have hrest := ih (flushEvents settings damageFilters flush).2
    rw [outcomesOfFlushes, List.countP_append, eventsOfFlushes_cons, List.countP_append,
      filtersAfterFlushes, List.foldl_cons, ← filtersAfterFlushes]
    omega

/-- A filter after some flushes comes from one of their events, and is not old. -/
theorem mem_filtersAfterFlushes
    (henabled : settings.event.filterDamageAfterConfigureNotify = true)
    {damageFilter : WebXDamageFilter}
    (h : damageFilter ∈ filtersAfterFlushes settings [] flushes) :
    ∃ queued ∈ eventsOfFlushes flushes, queued.time = damageFilter.timestamp ∧
      queued.event.isConfigure damageFilter.x11Window damageFilter.serial = true ∧
      ∃ earlier last, flushes = earlier ++ [last] ∧ last.now - queued.time ≤ Time.ofMs 1000 := by
  induction flushes using List.reverseRecOn with
  | nil => exact nomatch h
  | append_singleton earlier last ih =>
    rw [filtersAfterFlushes, List.foldl_concat] at h
    obtain ⟨hafter, hage⟩ := List.mem_filter.mp h
    have hrecent : last.now - damageFilter.timestamp ≤ Time.ofMs 1000 :=
      not_lt.mp (of_decide_eq_true hage)
    rw [eventsOfFlushes_concat]
    -- the filter was there before the last flush, or comes from one of its events
    rcases mem_filtersAfter henabled hafter with hbefore | ⟨queued, hqueued, htime, hconfigure⟩
    · obtain ⟨queued, hqueued, htime, hconfigure, -⟩ := ih hbefore
      exact ⟨queued, List.mem_append_left _ hqueued, htime, hconfigure, earlier, last, rfl,
        htime ▸ hrecent⟩
    · exact ⟨queued, List.mem_append_right _ hqueued, htime, hconfigure, earlier, last, rfl,
        htime ▸ hrecent⟩

end WebXEventListener

/-! ## The manager -/

namespace EngineState

variable {settings : WebXSettings} {stackDepth : ℕ} {now : Time} {state state' : EngineState}

/-- An event that is handled leaves the filters as they are. -/
theorem damageFilters_of_handleXEvent {event : XEvent root}
    (h : state.handleXEvent settings stackDepth now event = .ok state') :
    state'.damageFilters = state.damageFilters := by
  cases event with
  | map x11Window server | unmap x11Window | reparent x11Window parentX11Window =>
    obtain ⟨display, -, h⟩ := exists_of_bind_eq_ok h
    cases h
    rfl
  | configure event =>
    rcases WebXDisplay.eq_of_callIfWindowVisible h with rfl | h
    · rfl
    · obtain ⟨display, -, h⟩ := exists_of_bind_eq_ok h
      obtain ⟨window, -, h⟩ := exists_of_bind_eq_ok h
      cases h
      split_ifs <;> rfl
  | damage event =>
    cases h
    rfl

/-- The manager has the filters that the listener leaves. -/
theorem damageFilters_of_handleQueuedEvent {event : XEvent root}
    (h : state.handleQueuedEvent settings stackDepth now event = .ok state') :
    state'.damageFilters =
      (WebXEventListener.filterFunction settings state.damageFilters ⟨.window event, now⟩).2 := by
  have hfiltered (filtered : Bool × List WebXDamageFilter)
      (h : (if filtered.1 then
          handleXEvent settings stackDepth now { state with damageFilters := filtered.2 } event
        else .ok { state with damageFilters := filtered.2 }) = .ok state') :
      state'.damageFilters = filtered.2 := by
    split_ifs at h
    · exact damageFilters_of_handleXEvent h
    · cases h
      rfl
  exact hfiltered (WebXEventListener.filterFunction settings state.damageFilters
    ⟨.window event, now⟩) h

/-- The manager has the filters that a flush leaves. -/
theorem damageFilters_of_flushQueuedEvents {events : List (XEvent root)}
    (h : state.flushQueuedEvents settings stackDepth now events = .ok state') :
    state'.damageFilters = (WebXEventListener.flushEvents settings state.damageFilters
      ⟨events.map fun event => ⟨.window event, now⟩, now⟩).2 := by
  obtain ⟨last, hevents, h⟩ := exists_of_bind_eq_ok h
  cases h
  refine congrArg (WebXEventListener.removeOldFilters now) ?_
  clear h
  induction events generalizing state with
  | nil =>
    cases hevents
    rfl
  | cons event events ih =>
    rw [List.foldlM_cons] at hevents
    obtain ⟨next, hevent, hrest⟩ := exists_of_bind_eq_ok hevents
    rw [ih hrest, damageFilters_of_handleQueuedEvent hevent]
    rfl

end EngineState

/-- **The filter drops only what is accounted for**, after every sequence of flushes and events, when
the settings ask for it. -/
theorem dropsAccountedFor {settings : WebXSettings}
    (henabled : settings.event.filterDamageAfterConfigureNotify = true)
    (flushes : List (EventFlush root)) (events : List (QueuedEvent root)) :
    DropsAccountedFor settings flushes events where
  passed := by
    rw [passedOn_append, List.filter_append, filter_passedOn_flushes henabled,
      filter_passedOn henabled, List.filter_append]
  dropped := by
    rintro before queued after damage rfl hdamage hdropped
    rw [filterFunction_eq henabled] at hdropped
    obtain ⟨damageFilter, hmem, hfor⟩ := exists_filter_of_dropped hdamage hdropped
    obtain ⟨hwindow, hserial⟩ := WebXDamageFilter.isFor_iff.mp hfor
    rw [← hwindow, ← hserial]
    rcases mem_filtersAfter henabled hmem with hold | ⟨earlier, hearlier, -, hconfigure⟩
    · -- the filter was left by the last flush
      obtain ⟨earlier, hearlier, -, hconfigure, flushes', last, hflushes, hrecent⟩ :=
        mem_filtersAfterFlushes henabled hold
      exact .inr ⟨flushes', last, hflushes, earlier, hearlier, hconfigure, hrecent⟩
    · exact .inl ⟨earlier, hearlier, hconfigure⟩
  count := by
    intro x11Window serial
    have hflushes := countP_outcomesOfFlushes [] flushes henabled x11Window serial
    have hevents := countP_outcomes (filtersAfterFlushes settings [] flushes) events henabled
      x11Window serial
    rw [List.countP_nil, Nat.zero_add] at hflushes
    rw [List.countP_append, List.countP_append]
    omega

/-- A window that moves, and its damage. -/
theorem dropsAccountedFor_move :
    DropsAccountedFor .default
      [(⟨[⟨.window (.configure ⟨2, 7, 0, 0, 10, 10⟩), 5⟩], 9⟩ : EventFlush 1)]
      [⟨.window (.damage ⟨2, 7, false, .ofSize 0 0 10 10⟩), 12⟩] :=
  dropsAccountedFor rfl _ _

end WebXEngine
