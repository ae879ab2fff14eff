/-!
# Monitors

A monitor reads the events of a log one after the other and refuses those that break a protocol.  A log is kept with its
newest event first.  What a monitor has accepted it has accepted event by event, so that a statement about the whole log
is one about every moment of the run that wrote it.
-/

namespace Agm.Lib

structure Monitor (ε σ : Type) where
  start : σ
  next : σ → ε → Option σ

namespace Monitor

variable {ε σ : Type} (m : Monitor ε σ)

/-- The state after a log; `none` if one of its events was refused. -/
def after : List ε → Option σ
  | [] => some m.start
  | e :: past => (after past).bind fun s => m.next s e

variable {m} {e : ε} {es past : List ε} {s t : σ}

theorem after_cons (h : m.after past = some s) : m.after (e :: past) = m.next s e := by
  rw [after, h, Option.bind_some]

theorem after_cons_of_next (h : m.after past = some s) (hn : m.next s e = some t) : m.after (e :: past) = some t :=
  (after_cons h).trans hn

/-- Events that leave the state as it is. -/
theorem after_append (h : m.after past = some s) (hes : ∀ e ∈ es, m.next s e = some s) :
    m.after (es ++ past) = some s := by
  induction es with
  | nil => exact h
  | cons e es ih =>
    have hrest := ih fun e' he' => hes e' (List.mem_cons_of_mem e he')
    exact after_cons_of_next hrest (hes e List.mem_cons_self)

end Monitor

end Agm.Lib
