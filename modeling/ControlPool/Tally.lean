import ControlPool.Error

/-!
# Counters

What is counted while the pool works: messages admitted and found pending already, keys refused by
reason, entries drained, and entries extracted by kind.
-/

namespace ControlPool

/-- A quantity that is counted: messages filed, messages found pending already, entries drained,
keys refused for a reason, and payloads extracted under a kind. -/
inductive Counter where
  | admitted
  | duplicates
  | drained
  | rejected (reason : Reason)
  | extracted (kind : Kind)
  deriving DecidableEq, Inhabited

namespace Counter

/-- All counters. -/
def all : List Counter :=
  [admitted, duplicates, drained] ++ Reason.all.map rejected ++ Kind.all.map extracted

/-- The name of a counter in reports. -/
def name : Counter → String
  | admitted => "admitted"
  | duplicates => "duplicates"
  | drained => "drained"
  | rejected reason => "rejected." ++ reason.label
  | extracted kind => "extracted." ++ kind.tag

end Counter

/-- A number for each counter. -/
@[ext] structure Tally where
  count : Counter → Nat

namespace Tally

/-- Nothing counted. -/
def zero : Tally := ⟨fun _ => 0⟩

instance : Inhabited Tally := ⟨zero⟩

/-- The numbers of two tallies together. -/
def add (a b : Tally) : Tally := ⟨fun counter => a.count counter + b.count counter⟩

instance : Add Tally := ⟨add⟩

/-- A number for one counter. -/
def single (counter : Counter) (n : Nat) : Tally := ⟨fun c => if c = counter then n else 0⟩

/-- Nothing counted is nothing of each. -/
@[simp] theorem count_zero (counter : Counter) : zero.count counter = 0 := rfl

/-- Tallies add counter by counter. -/
@[simp] theorem count_add (a b : Tally) (counter : Counter) :
    (a + b).count counter = a.count counter + b.count counter := rfl

/-- A single number counts for its own counter only. -/
@[simp] theorem count_single (counter c : Counter) (n : Nat) :
    (single counter n).count c = if c = counter then n else 0 := rfl

end Tally

end ControlPool
