import Mathlib.Logic.Basic

/-!
# Programs observed for a bounded number of operations

Firmware never returns: its meaning is what it has done after any number of
interactions with its surroundings.  A `Prog` is therefore run with a budget.
Every interaction (`Prog.op`) spends one unit; when the budget is gone the
observation stops and the state reached so far is the result.  A property of
every reachable program point is a property of every budget.

Pure steps (`Prog.get`, `Prog.modify`) are free, so a program point is the
moment before an interaction.  A `Prog.loop` unrolls at most once per unit of
budget; `Prog.Metered` (in `Logic.Frame`) says when that bound cuts nothing
short.
-/

namespace SprinklersAlarmClock.Logic

variable {ε σ α β : Type}

/-- What one bounded observation of a program shows: either the program
returned with some budget left, or the observation (or the program itself)
stopped in a state. -/
inductive Outcome (σ α : Type) where
  | done (a : α) (left : Nat) (s : σ)
  | stop (s : σ)

/-- A program over surroundings `ε` and state `σ`: a budget and a state give
an outcome. -/
def Prog (ε σ α : Type) : Type := ε → Nat → σ → Outcome σ α

namespace Prog

/-- Sequencing hands the unspent budget on. -/
def bind (c : Prog ε σ α) (f : α → Prog ε σ β) : Prog ε σ β := fun env n s =>
  match c env n s with
  | .done a n' s' => f a env n' s'
  | .stop s' => .stop s'

instance : Monad (Prog ε σ) where
  pure a := fun _ n s => .done a n s
  bind := bind

/-- One interaction with the surroundings. -/
def op (f : ε → σ → α × σ) : Prog ε σ α := fun env n s =>
  match n with
  | 0 => .stop s
  | n + 1 => .done (f env s).1 n (f env s).2

/-- Reading the state is free. -/
def get : Prog ε σ σ := fun _ n s => .done s n s

/-- So is an assignment. -/
def modify (f : σ → σ) : Prog ε σ Unit := fun _ n s => .done () n (f s)

/-- The processor stops for good (a fault, not the end of the observation). -/
def halt : Prog ε σ α := fun _ _ s => .stop s

/-- `loop` unrolled at most `k` times. -/
def loopN (body : β → Prog ε σ (β ⊕ α)) : Nat → β → Prog ε σ α
  | 0, _ => halt
  | k + 1, b => body b >>= fun
      | .inl b' => loopN body k b'
      | .inr a => pure a

/-- Repeat `body`, threading a loop variable, until it answers `.inr`. -/
def loop (body : β → Prog ε σ (β ⊕ α)) (b : β) : Prog ε σ α := fun env n s =>
  loopN body (n + 1) b env n s

/-- `while (cond) body`. -/
def whileDo (cond : Prog ε σ Bool) (body : Prog ε σ Unit) : Prog ε σ Unit :=
  loop (fun _ : Unit => do
    if ← cond then
      body
      return .inl ()
    else
      return .inr ()) ()

/-- A counted loop of `n` rounds over a loop variable; a round that answers
`true` breaks out. -/
def upTo (body : β → Prog ε σ (β × Bool)) : Nat → β → Prog ε σ β
  | 0, b => pure b
  | n + 1, b => body b >>= fun r =>
      if r.2 then pure r.1 else upTo body n r.1

/-- A protothread of the shape
`PT_BEGIN; while (true) { before; PT_WAIT_UNTIL(cond); after; }`.

`resumed` says that the local continuation is set, so that the call enters at
the wait.  `setLc` records the continuation.  The call returns when the
condition is false; otherwise `after` runs and the loop goes round in the same
call. -/
def protothread (resumed : σ → Bool) (setLc : σ → σ) (before : Prog ε σ Unit)
    (cond : Prog ε σ Bool) (after : Prog ε σ Unit) : Prog ε σ Unit :=
  get >>= fun s => loop (fun atWait : Bool =>
    (if atWait then pure () else before) >>= fun _ => do
      modify setLc
      if ← cond then
        after
        return .inl false
      else
        return .inr ()) (resumed s)

/-- The state in which an observation of `n` operations ends. -/
def run (c : Prog ε σ α) (env : ε) (n : Nat) (s : σ) : σ :=
  match c env n s with
  | .done _ _ s' => s'
  | .stop s' => s'

end Prog

end SprinklersAlarmClock.Logic
