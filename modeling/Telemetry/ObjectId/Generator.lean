import Telemetry.ObjectId

/-!
# Making object ids

A process makes ids from the seconds of its clock, five bytes it has chosen once, and a counter of
32 bits of which the three low bytes are kept. The counter wraps, the clock may jump; what the two
parts say is kept apart in the number, seconds first.
-/

namespace Telemetry.ObjectId

/-- The id of one moment, process and counter value. Of the seconds the low 32 bits are kept, of the
counter the low 24, so two counters that differ by a multiple of `2 ^ 24` make the same id within a
second. -/
def make (seconds : Int) (process : Fin (2 ^ 40)) (counter : UInt32) : ObjectId where
  value := (seconds % 2 ^ 32).toNat * 2 ^ 64 + process.val * 2 ^ 24 + counter.toNat % 2 ^ 24
  value_lt := by
    have hs : (seconds % 2 ^ 32).toNat < 2 ^ 32 := by omega
    have hp := process.isLt
    omega

/-- What a process keeps between two ids. The clock is not part of it: it is read for each id, and
may go back. -/
structure Generator where
  /-- five bytes chosen once per process -/
  process : Fin (2 ^ 40)
  /-- the number of the next id, which wraps -/
  counter : UInt32

namespace Generator

/-- Make one id at the given second. The counter goes on by one whatever the clock shows. -/
def next (g : Generator) (seconds : Int) : ObjectId × Generator :=
  (make seconds g.process g.counter, { g with counter := g.counter + 1 })

/-- The `i`-th id made from here on, when the clock shows `seconds j` at the `j`-th. It is given at
once, without the ids before it, so two ids of a run can be compared by their places. -/
def nth (g : Generator) (seconds : Nat → Int) (i : Nat) : ObjectId :=
  make (seconds i) g.process (g.counter + UInt32.ofNat i)

/-- The ids of `n` calls in a row, with the generator left after them. -/
def take (g : Generator) (seconds : Nat → Int) : Nat → List ObjectId × Generator
  | 0 => ([], g)
  | n + 1 =>
    let (ids, g') := take g seconds n
    let (id, g'') := g'.next (seconds n)
    (ids ++ [id], g'')

end Generator

end Telemetry.ObjectId
