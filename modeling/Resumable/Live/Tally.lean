import Resumable.Live.Timeline

/-!
# Counting draws

Each counter gives its numbers in the order in which they are drawn: by time, and within one moment
in tree order. What a handler draws may change what is drawn later, so `Tally.settle` plays a run
again with the numbers that its own draws would get until they are the ones it was played with. Each
round fixes at least the next draw in order.
-/

namespace Resumable

/-- How many numbers each counter has given. -/
abbrev Counts := Nat → Nat

namespace Tally

/-- The numbers of draws that are made in order, after `counts` were given. -/
def number (counts : Counts) : List Draw → List (Place × Nat)
  | [] => []
  | draw :: rest =>
    let next := counts draw.counter + 1
    (draw.place, next) ::
      number (fun counter => if counter = draw.counter then next else counts counter) rest

def after (counts : Counts) (draws : List Draw) : Counts :=
  fun counter => counts counter + draws.countP fun draw => draw.counter = counter

/-- The numbering that a table of numbers stands for. -/
def numbering (table : List (Place × Nat)) : Numbering :=
  fun place => (table.lookup place).getD 0

def inOrder (draws : List Draw) : List Draw :=
  chronological Draw.time draws

variable {α : Type}

/-- Plays a run with a table of numbers, and again with the numbers that its draws get, until the
table stays the same; at most `rounds` times. -/
def settleFrom (play : Numbering → Option α) (draws : α → List Draw) (counts : Counts) :
    (rounds : Nat) → (table : List (Place × Nat)) → Option α
  | 0, _ => none
  | rounds + 1, table => do
    let played ← play (numbering table)
    let next := number counts (inOrder (draws played))
    if next = table then pure played else settleFrom play draws counts rounds next

/-- The run in which every draw gives its counter's next number. -/
def settle (play : Numbering → Option α) (draws : α → List Draw) (counts : Counts)
    (rounds : Nat) : Option α :=
  settleFrom play draws counts rounds []

end Tally

end Resumable
