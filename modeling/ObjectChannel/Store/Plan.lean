/-
Trouble on schedule: which calls to a store go wrong and how, and how the streams from it behave.

A call is known by its method and by how many calls of that method there were, so that a plan can
describe every pattern of faults of a run.
-/
import ObjectChannel.Failure

namespace ObjectChannel.Store

/-- What happens to a call in place of what the store would do. `φ` is what a store may be made to
answer. -/
inductive Fate (φ : Type) where
  | raise (e : Failure)
  | answer (reply : φ)
  deriving Inhabited

/-- The fate of the `n`-th call of a method, counted from one; none where the call goes well. -/
abbrev Plan (μ φ : Type) := (method : μ) → (n : Nat) → Option (Fate φ)

/-- A fate for one call of a method, or for all of them. -/
structure Rule (μ φ : Type) where
  method : μ
  call : Option Nat
  fate : Fate φ

/-- The plan of a list of rules: the first one that fits a call decides. -/
def Plan.ofRules {μ φ : Type} [BEq μ] (rules : List (Rule μ φ)) : Plan μ φ := fun method n =>
  (rules.find? fun r => r.method == method && r.call.all (· == n)).map (·.fate)

/-- The plan under which all goes well. -/
def Plan.none {μ φ : Type} : Plan μ φ := fun _ _ => .none

/-- How a stream behaves. -/
structure StreamHabit where
  /-- The most bytes that a read delivers. -/
  chunk : Option Nat := none
  /-- How many bytes are delivered before the stream breaks. -/
  failAfter : Option Nat := none
  /-- How many bytes a read delivers beyond what it should. -/
  overread : Nat := 0
  /-- Whether closing fails. -/
  closeFails : Bool := false
  deriving DecidableEq, Inhabited

/-- The habit of the `n`-th stream that is opened, counted from zero. -/
abbrev StreamPlan := Nat → StreamHabit

/-- The habits of the first streams one by one, and that of all streams behind them. -/
def StreamPlan.ofList (first : List StreamHabit) (others : StreamHabit) : StreamPlan := fun n =>
  first.getD n others

/-- An open stream over some bytes. -/
structure Stream where
  data : Bytes
  habit : StreamHabit := {}
  /-- How many bytes were delivered. -/
  delivered : Nat := 0
  deriving Inhabited

namespace Stream

/-- Whether the stream is broken by now. -/
def isBroken (t : Stream) : Bool := t.habit.failAfter.any (· ≤ t.delivered)

/-- How many bytes a read of the given size asks for: no more than a chunk, and none beyond the
point where the stream breaks. -/
def quota (t : Stream) (n : Option Nat) : Nat :=
  let n := n.getD (t.data.size - t.delivered)
  let n := t.habit.chunk.elim n (min n ·)
  t.habit.failAfter.elim n fun k => min n (k - t.delivered)

/-- The next bytes. -/
def read (t : Stream) (n : Option Nat) : Except Failure (Bytes × Stream) :=
  if t.isBroken then .error (.store "stream broken" none)
  else
    let got := t.data.slice t.delivered (t.delivered + (t.quota n + t.habit.overread))
    .ok (got, { t with delivered := t.delivered + got.size })

/-- What closing the stream comes to. -/
def close (t : Stream) : Except Failure Unit :=
  if t.habit.closeFails then .error (.store "close failed" none) else .ok ()

end Stream
end ObjectChannel.Store
