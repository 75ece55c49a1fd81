/-!
The pool that runs application code. Jobs are taken from one line in the order in which they
were submitted; a worker takes a job and runs it in two steps, so with several workers the
order of running depends on how their steps fall.
-/

namespace DurableMqtt

/-- Jobs that wait, oldest first; the job that each worker has taken; and the jobs that were
run, oldest first. -/
structure CallbackPool (α : Type) where
  waiting : List α := []
  workers : List (Option α)
  ran : List α := []

namespace CallbackPool

variable {α : Type}

def start (size : Nat) : CallbackPool α := { workers := List.replicate (max size 1) none }

def submit (p : CallbackPool α) (job : α) : CallbackPool α :=
  { p with waiting := p.waiting ++ [job] }

def take (p : CallbackPool α) (worker : Nat) : CallbackPool α :=
  match p.waiting, p.workers[worker]? with
  | job :: rest, some none =>
    { p with waiting := rest, workers := p.workers.set worker (some job) }
  | _, _ => p

/-- A worker runs the job that it has taken. A job that fails is over as well. -/
def run (p : CallbackPool α) (worker : Nat) : CallbackPool α :=
  match p.workers[worker]? with
  | some (some job) =>
    { p with workers := p.workers.set worker none, ran := p.ran ++ [job] }
  | _ => p

def finish (p : CallbackPool α) : CallbackPool α :=
  p.waiting.foldl (fun p _ => (p.take 0).run 0) p

end CallbackPool

end DurableMqtt
