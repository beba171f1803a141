import Mathlib.Algebra.Order.Group.Int
import Mathlib.Data.List.Count

/-! # Sweeping over spans

Spans of a line are swept from left to right: each has an event where it opens and one where it
closes, and the sweep keeps the tags of the spans that are open. Events of one place come in any
order.

* **`SpanEvent.Sweep`** — the events of some spans, in the order of their places.
* **`SpanEvent.Open`** — the tags that are kept after some events.
* **`Open.perm_over`** — between two places, the tags of the spans that are there are kept.
* **`Open.mem_of_closes`** — a tag that is removed is there.
* **`Open.exists_span`** — a tag that is kept belongs to a span that reaches the place.
* **`Open.eq_nil`** — no tag is kept at the end. -/

namespace WebXEngine

variable {α : Type*}

/-- A span with a tag. -/
structure Span (α : Type*) where
  lower : ℤ
  upper : ℤ
  tag : α

/-- Where a span opens or closes. -/
structure SpanEvent (α : Type*) where
  place : ℤ
  opens : Bool
  tag : α

/-- The two events of a span. -/
def Span.events (span : Span α) : List (SpanEvent α) :=
  [⟨span.lower, true, span.tag⟩, ⟨span.upper, false, span.tag⟩]

namespace SpanEvent

/-- The events of spans, in the order of their places. -/
structure Sweep (spans : List (Span α)) (events : List (SpanEvent α)) : Prop where
  perm : events.Perm (spans.flatMap Span.events)
  sorted : events.Pairwise fun e f => e.place ≤ f.place

/-- The tags of the events that open. -/
def opened (events : List (SpanEvent α)) : List α :=
  (events.filter fun e => e.opens).map SpanEvent.tag

/-- The tags of the events that close. -/
def closed (events : List (SpanEvent α)) : List α :=
  (events.filter fun e => !e.opens).map SpanEvent.tag

@[simp] theorem opened_append (events events' : List (SpanEvent α)) :
    opened (events ++ events') = opened events ++ opened events' := by
  rw [opened, List.filter_append, List.map_append, opened, opened]

@[simp] theorem closed_append (events events' : List (SpanEvent α)) :
    closed (events ++ events') = closed events ++ closed events' := by
  rw [closed, List.filter_append, List.map_append, closed, closed]

/-- Fewer events open fewer spans. -/
theorem opened_sublist {events events' : List (SpanEvent α)} (h : events.Sublist events') :
    (opened events).Sublist (opened events') := (h.filter _).map _

/-- Fewer events close fewer spans. -/
theorem closed_sublist {events events' : List (SpanEvent α)} (h : events.Sublist events') :
    (closed events).Sublist (closed events') := (h.filter _).map _

/-- The tags that are kept after some events: those that were opened, without those that were closed. -/
def Open (done : List (SpanEvent α)) (active : List α) : Prop :=
  (active ++ closed done).Perm (opened done)

/-- No span is open at the beginning. -/
theorem Open.nil : Open ([] : List (SpanEvent α)) [] := .refl _

/-- A tag is added where its span opens. -/
theorem Open.concat_opens {done : List (SpanEvent α)} {active active' : List α} {e : SpanEvent α}
    (h : Open done active) (hopens : e.opens = true) (hadd : active'.Perm (e.tag :: active)) :
    Open (done ++ [e]) active' := by
  have hopened : opened [e] = [e.tag] := by simp [opened, hopens]
  have hclosed : closed [e] = [] := by simp [closed, hopens]
  rw [Open, opened_append, closed_append, hopened, hclosed, List.append_nil]
  refine (hadd.append_right _).trans ?_
  exact (h.cons e.tag).trans (List.perm_append_singleton _ _).symm

/-- A tag is removed where its span closes. -/
theorem Open.concat_closes {done : List (SpanEvent α)} {active active' : List α} {e : SpanEvent α}
    (h : Open done active) (hcloses : e.opens = false) (hremove : active.Perm (e.tag :: active')) :
    Open (done ++ [e]) active' := by
  have hopened : opened [e] = [] := by simp [opened, hcloses]
  have hclosed : closed [e] = [e.tag] := by simp [closed, hcloses]
  rw [Open, opened_append, closed_append, hopened, hclosed, List.append_nil, ← List.append_assoc]
  refine (List.perm_append_singleton _ _).trans ?_
  exact (hremove.append_right (closed done)).symm.trans h

/-! ## What is open -/

section

variable {spans : List (Span α)} {done todo : List (SpanEvent α)} {active : List α}

/-- The events that are kept, when one is kept of each span whose place satisfies a test. -/
theorem map_tag_filter_flatMap {keep : SpanEvent α → Bool} {place : Span α → ℤ} {p : ℤ → Bool}
    (hkeep : ∀ span : Span α, ((span.events.filter fun e => p e.place).filter keep).map
      SpanEvent.tag = if p (place span) then [span.tag] else []) :
    (((spans.flatMap Span.events).filter fun e => p e.place).filter keep).map SpanEvent.tag =
      (spans.filter fun span => p (place span)).map Span.tag := by
  induction spans with
  | nil => rfl
  | cons span spans ih =>
      rw [List.flatMap_cons, List.filter_append, List.filter_append, List.map_append, ih, hkeep,
        List.filter_cons]
      split_ifs <;> rfl

/-- The events up to some place that open are those of the spans that begin there. -/
theorem Sweep.opened_perm {events : List (SpanEvent α)} (h : Sweep spans events) (p : ℤ → Bool) :
    (opened (events.filter fun e => p e.place)).Perm
      ((spans.filter fun span => p span.lower).map Span.tag) := by
  refine (((h.perm.filter _).filter _).map _).trans (.of_eq (map_tag_filter_flatMap fun span => ?_))
  cases hlower : p span.lower <;> cases hupper : p span.upper <;>
    simp [Span.events, hlower, hupper]

/-- The events up to some place that close are those of the spans that end there. -/
theorem Sweep.closed_perm {events : List (SpanEvent α)} (h : Sweep spans events) (p : ℤ → Bool) :
    (closed (events.filter fun e => p e.place)).Perm
      ((spans.filter fun span => p span.upper).map Span.tag) := by
  refine (((h.perm.filter _).filter _).map _).trans (.of_eq (map_tag_filter_flatMap fun span => ?_))
  cases hlower : p span.lower <;> cases hupper : p span.upper <;>
    simp [Span.events, hlower, hupper]

/-- The events that satisfy a test of their places, when those to come do not. -/
theorem filter_eq_done {p : ℤ → Bool} (hdone : ∀ e ∈ done, p e.place = true)
    (htodo : ∀ e ∈ todo, p e.place = false) :
    ((done ++ todo).filter fun e => p e.place) = done := by
  rw [List.filter_append, List.filter_eq_self.mpr hdone, List.filter_eq_nil_iff.mpr fun e he => ?_,
    List.append_nil]
  rw [htodo e he]
  exact Bool.false_ne_true

/-- **Between two places, exactly the spans that are there are open.** -/
theorem Open.perm_over (hopen : Open done active) (h : Sweep spans (done ++ todo))
    (hlt : ∀ span ∈ spans, span.lower < span.upper) {c : ℤ} (hdone : ∀ e ∈ done, e.place ≤ c)
    (htodo : ∀ e ∈ todo, c < e.place) :
    active.Perm
      ((spans.filter fun span => span.lower ≤ c ∧ c < span.upper).map Span.tag) := by
  have hevents : ((done ++ todo).filter fun e => decide (e.place ≤ c)) = done :=
    filter_eq_done (p := fun place => decide (place ≤ c)) (by simpa using hdone)
      (by simpa using htodo)
  have hopened := h.opened_perm fun place => decide (place ≤ c)
  have hclosed := h.closed_perm fun place => decide (place ≤ c)
  rw [hevents] at hopened hclosed
  -- the spans that have begun are those that are open and those that have ended
  have hspans : (spans.filter fun span => decide (span.lower ≤ c)).Perm
      ((spans.filter fun span => decide (span.lower ≤ c ∧ c < span.upper)) ++
        spans.filter fun span => decide (span.upper ≤ c)) := by
    clear h hopened hclosed
    induction spans with
    | nil => exact .refl _
    | cons span spans ih =>
        rw [List.forall_mem_cons] at hlt
        have hspan := hlt.1
        rcases lt_trichotomy c span.lower with hbefore | hat | hafter
        · simpa [List.filter_cons, show ¬ span.lower ≤ c by omega,
            show ¬ span.upper ≤ c by omega] using ih hlt.2
        · simpa [List.filter_cons, show span.lower ≤ c by omega,
            show ¬ span.upper ≤ c by omega, show c < span.upper by omega] using ih hlt.2
        · by_cases hended : span.upper ≤ c
          · simpa [List.filter_cons, hafter.le, hended, not_lt.mpr hended] using
              ((ih hlt.2).cons span).trans List.perm_middle.symm
          · simpa [List.filter_cons, hafter.le, hended, not_le.mp hended] using ih hlt.2
  have hall := (hspans.map Span.tag)
  rw [List.map_append] at hall
  have hboth := hopen.trans (hopened.trans (hall.trans (hclosed.symm.append_left _)))
  exact (List.perm_append_right_iff _).mp hboth

/-- **At the end of a sweep nothing is open.** -/
theorem Open.eq_nil (hopen : Open done active) (h : Sweep spans done) : active = [] := by
  have hopened := h.opened_perm fun _ => true
  have hclosed := h.closed_perm fun _ => true
  rw [List.filter_eq_self.mpr fun _ _ => rfl, List.filter_eq_self.mpr fun _ _ => rfl] at hopened hclosed
  have hlength := (hopen.trans (hopened.trans hclosed.symm)).length_eq
  rw [List.length_append] at hlength
  exact List.length_eq_zero_iff.mp (by omega)

/-! ## Counting tags -/

variable [DecidableEq α]

/-- The spans of a tag that begin where a test holds are those opened there. -/
theorem Sweep.count_opened {events : List (SpanEvent α)} (h : Sweep spans events) (p : ℤ → Bool)
    (tag : α) :
    (opened (events.filter fun e => p e.place)).count tag =
      spans.countP fun span => span.tag = tag && p span.lower := by
  rw [(h.opened_perm p).count_eq, List.count, List.countP_map, List.countP_filter]
  rfl

/-- The spans of a tag that end where a test holds are those closed there. -/
theorem Sweep.count_closed {events : List (SpanEvent α)} (h : Sweep spans events) (p : ℤ → Bool)
    (tag : α) :
    (closed (events.filter fun e => p e.place)).count tag =
      spans.countP fun span => span.tag = tag && p span.upper := by
  rw [(h.closed_perm p).count_eq, List.count, List.countP_map, List.countP_filter]
  rfl

/-- A tag is kept as often as it was opened and not closed. -/
theorem Open.count_eq (hopen : Open done active) (tag : α) :
    active.count tag + (closed done).count tag = (opened done).count tag := by
  rw [← List.count_append, List.Perm.count_eq hopen]

/-- **A span that closes is open.** -/
theorem Open.mem_of_closes {e : SpanEvent α} (hopen : Open done active)
    (h : Sweep spans (done ++ e :: todo)) (hlt : ∀ span ∈ spans, span.lower < span.upper)
    (hcloses : e.opens = false) : e.tag ∈ active := by
  obtain ⟨-, hsorted, hbefore⟩ := List.pairwise_append.mp h.sorted
  have htodo : ∀ f ∈ e :: todo, e.place ≤ f.place :=
    List.forall_mem_cons.mpr ⟨le_rfl, (List.pairwise_cons.mp hsorted).1⟩
  have hdone : ∀ f ∈ done ++ [e], f.place ≤ e.place := by
    intro f hf
    rcases List.mem_append.mp hf with hf | hf
    · exact hbefore f hf e List.mem_cons_self
    · exact (List.mem_singleton.mp hf) ▸ le_rfl
  have hclosed : (done ++ [e]).Sublist
      ((done ++ e :: todo).filter fun f => decide (f.place ≤ e.place)) := by
    have hpart : ((done ++ [e]).filter fun f => decide (f.place ≤ e.place)) = done ++ [e] :=
      List.filter_eq_self.mpr fun f hf => decide_eq_true (hdone f hf)
    rw [← hpart]
    exact List.Sublist.filter _ (by simp)
  have hopened : ((done ++ e :: todo).filter fun f => decide (f.place < e.place)).Sublist done := by
    have hnone : ((e :: todo).filter fun f => decide (f.place < e.place)) = [] :=
      List.filter_eq_nil_iff.mpr fun f hf =>
        decide_eq_true_iff.not.mpr (not_lt.mpr (htodo f hf))
    rw [List.filter_append, hnone, List.append_nil]
    exact List.filter_sublist
  -- what has closed up to here has ended here, and so has opened before
  have hcount := calc
    (closed done).count e.tag + 1
        = (closed (done ++ [e])).count e.tag := by simp [closed, hcloses]
    _ ≤ spans.countP fun span => span.tag = e.tag && decide (span.upper ≤ e.place) := by
        rw [← h.count_closed fun place => decide (place ≤ e.place)]
        exact (closed_sublist hclosed).count_le _
    _ ≤ spans.countP fun span => span.tag = e.tag && decide (span.lower < e.place) := by
        refine List.countP_mono_left fun span hspan hended => ?_
        simp only [Bool.and_eq_true, decide_eq_true_eq] at hended ⊢
        exact ⟨hended.1, (hlt span hspan).trans_le hended.2⟩
    _ ≤ (opened done).count e.tag := by
        rw [← h.count_opened fun place => decide (place < e.place)]
        exact (opened_sublist hopened).count_le _
  have hactive := hopen.count_eq e.tag
  exact List.count_pos_iff.mp (by omega)

/-- **A tag that is open belongs to a span that reaches the place.** -/
theorem Open.exists_span (hopen : Open done active) (h : Sweep spans (done ++ todo)) {tag : α}
    (htag : tag ∈ active) {p : ℤ} (hdone : ∀ e ∈ done, e.place ≤ p)
    (htodo : ∀ e ∈ todo, p ≤ e.place) :
    ∃ span ∈ spans, span.tag = tag ∧ span.lower ≤ p ∧ p ≤ span.upper := by
  by_contra hnone
  push Not at hnone
  have hopened : done.Sublist ((done ++ todo).filter fun f => decide (f.place ≤ p)) := by
    have hpart : (done.filter fun f => decide (f.place ≤ p)) = done :=
      List.filter_eq_self.mpr fun f hf => decide_eq_true (hdone f hf)
    rw [List.filter_append, hpart]
    exact List.sublist_append_left _ _
  have hclosed : ((done ++ todo).filter fun f => decide (f.place < p)).Sublist done := by
    have hempty : (todo.filter fun f => decide (f.place < p)) = [] :=
      List.filter_eq_nil_iff.mpr fun f hf => decide_eq_true_iff.not.mpr (not_lt.mpr (htodo f hf))
    rw [List.filter_append, hempty, List.append_nil]
    exact List.filter_sublist
  -- all the spans of the tag that have opened have closed
  have hcount := calc
    (opened done).count tag
        ≤ spans.countP fun span => span.tag = tag && decide (span.lower ≤ p) := by
        rw [← h.count_opened fun place => decide (place ≤ p)]
        exact (opened_sublist hopened).count_le _
    _ ≤ spans.countP fun span => span.tag = tag && decide (span.upper < p) := by
        refine List.countP_mono_left fun span hspan hbegun => ?_
        simp only [Bool.and_eq_true, decide_eq_true_eq] at hbegun ⊢
        exact ⟨hbegun.1, hnone span hspan hbegun.1 hbegun.2⟩
    _ ≤ (closed done).count tag := by
        rw [← h.count_closed fun place => decide (place < p)]
        exact (closed_sublist hclosed).count_le _
  have hactive := hopen.count_eq tag
  have hpos := List.count_pos_iff.mpr htag
  omega

end

end SpanEvent

end WebXEngine
