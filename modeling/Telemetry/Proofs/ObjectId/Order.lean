import Telemetry.ObjectId.Generator

/-!
# The order of the ids of one process

Of two ids the one of the earlier second is smaller. Within a second the low three bytes of the
counter decide, so a later id is larger only as long as these bytes do not wrap, which they do every
`2 ^ 24` ids wherever the counter stands at first.

* `nth_lt_iff` — when a later id is larger.
* `nth_inj` — fewer than `2 ^ 24` ids in a row differ, whatever the clock shows.
-/

namespace Telemetry.ObjectId.Generator

variable {g : Generator} {seconds : Nat → Int} {i j : Nat}

/-- The three parts of an id as one number: the seconds, the process and the counter, from the most
to the least significant. The counter is cut to its three bytes, which is where the order can be
lost. -/
theorem nth_value (g : Generator) (seconds : Nat → Int) (i : Nat) :
    (g.nth seconds i).value
      = (seconds i % 2 ^ 32).toNat * 2 ^ 64 + g.process.val * 2 ^ 24
        + (g.counter.toNat + i) % 2 ^ 24 := by
  change _ + _ + (g.counter + UInt32.ofNat i).toNat % 2 ^ 24 = _
  rw [UInt32.toNat_add, UInt32.toNat_ofNat']
  omega

/-- Whether the low three bytes of the counter wrap between two ids. The upper byte of the counter
is not part of an id, so only these matter. -/
def Wraps (g : Generator) (i j : Nat) : Prop :=
  (g.counter.toNat + i) / 2 ^ 24 < (g.counter.toNat + j) / 2 ^ 24

instance (g : Generator) (i j : Nat) : Decidable (g.Wraps i j) := Nat.decLt ..

/-- Of two ids from different seconds the later one is larger, whatever their counters are. -/
theorem nth_lt_of_seconds (h0 : 0 ≤ seconds i) (hlt : seconds i < seconds j)
    (h32 : seconds j < 2 ^ 32) : g.nth seconds i < g.nth seconds j := by
  change (g.nth seconds i).value < (g.nth seconds j).value
  rw [nth_value, nth_value]
  have hp := g.process.isLt
  omega

/-- Within one second the counters decide, and the later id is larger unless the counter has started
again from zero between the two. -/
theorem nth_lt_iff_of_same (h : seconds i = seconds j) (hij : i < j) (hfew : j < i + 2 ^ 24) :
    g.nth seconds i < g.nth seconds j ↔ ¬g.Wraps i j := by
  change (g.nth seconds i).value < (g.nth seconds j).value ↔ _
  rw [nth_value, nth_value, h, Wraps]
  omega

/-- Of two ids that are not too far apart the later one is larger, unless they are of one second and
the counter has started again between them. -/
theorem nth_lt_iff (h0 : 0 ≤ seconds i) (hle : seconds i ≤ seconds j) (h32 : seconds j < 2 ^ 32)
    (hij : i < j) (hfew : j < i + 2 ^ 24) :
    g.nth seconds i < g.nth seconds j ↔ (seconds i = seconds j → ¬g.Wraps i j) := by
  rcases Int.lt_or_eq_of_le hle with hlt | he
  · have lt := nth_lt_of_seconds (g := g) h0 hlt h32
    simp [lt, Int.ne_of_lt hlt]
  · rw [nth_lt_iff_of_same he hij hfew]
    simp [he]

/-- Fewer than `2 ^ 24` ids in a row differ, whatever the clock shows. -/
theorem nth_inj (hi : i < 2 ^ 24) (hj : j < 2 ^ 24) (h : g.nth seconds i = g.nth seconds j) :
    i = j := by
  have hv := congrArg ObjectId.value h
  rw [nth_value, nth_value] at hv
  omega

end Telemetry.ObjectId.Generator
