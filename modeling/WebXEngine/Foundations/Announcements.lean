import Mathlib.Data.List.Induction

/-! # Announcements

Some messages of a log tell a value, and the listeners keep the last one.

* **`LastTold`** — the last value that the messages tell.
* **`LastTold.append`** — messages that tell the same value, or none, change nothing. -/

variable {M V : Type*} {tells : M → Option V} {value : V} {messages : List M}

/-- The last value that the messages of a log tell. -/
def LastTold (tells : M → Option V) (value : V) (messages : List M) : Prop :=
  (messages.filterMap tells).getLast? = some value

/-- A message that tells a value. -/
theorem lastTold_concat (messages : List M) {message : M} (h : tells message = some value) :
    LastTold tells value (messages ++ [message]) := by
  have hlast : [message].filterMap tells = [value] := by
    rw [List.filterMap_cons_some h, List.filterMap_nil]
  rw [LastTold, List.filterMap_append, hlast, List.getLast?_concat]

/-- The value stays the last one as long as no other is told. -/
theorem LastTold.append (h : LastTold tells value messages) {more : List M}
    (hmore : ∀ message ∈ more, ∀ v, tells message = some v → v = value) :
    LastTold tells value (messages ++ more) := by
  induction more using List.reverseRecOn with
  | nil => rwa [List.append_nil]
  | append_singleton more message ih =>
      have hbefore : LastTold tells value (messages ++ more) :=
        ih fun m hm => hmore m (List.mem_append_left _ hm)
      rw [← List.append_assoc]
      cases htells : tells message with
      | none =>
          rw [LastTold, List.filterMap_append, List.filterMap_cons_none htells, List.filterMap_nil,
            List.append_nil]
          exact hbefore
      | some v =>
          have hmem : message ∈ more ++ [message] :=
            List.mem_append_right _ (List.mem_singleton_self _)
          rw [hmore message hmem v htells] at htells
          exact lastTold_concat _ htells
