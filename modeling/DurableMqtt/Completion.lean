import DurableMqtt.Request

/-!
The answers that waiting callers have been given. A caller keeps the first answer it gets.
-/

namespace DurableMqtt

structure Completions where
  answers : List (Waiter × Ack) := []
deriving Inhabited

namespace Completions

def answer? (c : Completions) (w : Waiter) : Option Ack :=
  (c.answers.find? (·.1 == w)).map (·.2)

def complete (c : Completions) (w : Waiter) (ack : Ack) : Completions :=
  match c.answer? w with
  | some _ => c
  | none => ⟨c.answers ++ [(w, ack)]⟩

end Completions

end DurableMqtt
