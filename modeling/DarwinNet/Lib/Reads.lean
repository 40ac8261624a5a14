import Mathlib.Logic.Basic

/-!
Computations that look keys up in a store while others may write to it. A `Reads` is what is left
of one: its result, or the key it looks up next. `Reads.run` is its result over a store that
does not change.
-/

namespace DarwinNet.Lib

inductive Reads (K V α : Type)
  | done (a : α)
  | get (key : K) (next : Option V → Reads K V α)

namespace Reads

variable {K V α β : Type}

def bind (f : α → Reads K V β) : Reads K V α → Reads K V β
  | done a => f a
  | get key next => get key fun v => bind f (next v)

instance : Monad (Reads K V) where
  pure := done
  bind q f := bind f q

/-- The result if every look-up is answered from `store`. -/
def run (store : K → Option V) : Reads K V α → α
  | done a => a
  | get key next => run store (next (store key))

end Reads

end DarwinNet.Lib
