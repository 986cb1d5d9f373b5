import Telemetry.Json.Value

/-!
# What a JSON text says

A draft is the content of a text in the order of writing, up to the first place where the text stops
being JSON. It keeps what a value has lost: repeated keys, the order of the members, and where a
fault stands. A reader that knows what it expects meets a draft from left to right, so a mismatch
before the fault is found first.

Two things are faults only for a reader that wants them: a string with half of a surrogate pair, and
a number too large for floating point. They are `none` inside their node; a key of that kind is the
fault that stands in its place.

* `Draft.value` is the value of a draft without faults: members in increasing order of their keys,
  of several members with one key the last.
-/

namespace Telemetry.Json

/-- Why a text is refused. Where it stands is not kept, for nothing is made of it but the refusal.
-/
inductive Fault where
  /-- the text ends too early -/
  | truncated
  /-- the text is not JSON -/
  | malformed
  /-- the text is JSON of another shape than the one wanted -/
  | mismatch
deriving DecidableEq

/-- The content of a text up to its first fault. It is what a reader sees who takes the text from
left to right, whatever the reader expects. -/
inductive Draft where
  | null
  | boolean (b : Bool)
  /-- a number, `none` beyond the range of floating point -/
  | number (n : Option Number)
  /-- a string, `none` with half of a surrogate pair -/
  | string (s : Option String)
  /-- the items read, and the fault met instead of another item or the end -/
  | array (items : List Draft) (fault : Option Fault)
  /-- the members read, and the fault met instead of another member or the end; a key that does not
  end is the key of a broken member -/
  | object (members : List (Except Fault String × Draft)) (fault : Option Fault)
  /-- no value could be read here; the fault found by a reader who wants the value, and the one
  found by a reader who passes over it -/
  | broken (wanted passed : Fault)

namespace Draft

instance : Inhabited Draft := ⟨null⟩

/-- The nesting of values that a reader follows. A text that goes deeper is refused, so that it
cannot use up the memory for the calls of the reader. -/
def maxDepth : Nat := 127

/-- A fault that ends a list, if there is one. -/
def ending : Option Fault → Except Fault Unit
  | none => .ok ()
  | some f => .error f

mutual

/-- Read a draft as a value, at most `depth` levels deep. A fault that ends a list is met after its
items, as it stands behind them in the text. -/
def valueWithin : (depth : Nat) → Draft → Except Fault Value
  | _, null => .ok .null
  | _, boolean b => .ok (.boolean b)
  | _, number (some n) => .ok (.number n)
  | _, number none => .error .malformed
  | _, string (some s) => .ok (.string s)
  | _, string none => .error .malformed
  | 0, array _ _ => .error .malformed
  | depth + 1, array items fault => do
    let vs ← itemsWithin depth items
    ending fault
    return .array vs
  | 0, object _ _ => .error .malformed
  | depth + 1, object members fault => do
    let ms ← membersWithin depth members
    ending fault
    return .object (OrderedMap.ofList ms).entries
  | _, broken f _ => .error f

/-- The items of an array, up to the first that has a fault. -/
def itemsWithin : (depth : Nat) → List Draft → Except Fault (List Value)
  | _, [] => .ok []
  | depth, d :: ds => do
    let v ← valueWithin depth d
    let vs ← itemsWithin depth ds
    return v :: vs

/-- The members of an object as they are written, up to the first that has a fault. -/
def membersWithin : (depth : Nat) → List (Except Fault String × Draft) →
    Except Fault (List (String × Value))
  | _, [] => .ok []
  | depth, m :: ms => do
    let m' ← memberWithin depth m
    let ms' ← membersWithin depth ms
    return m' :: ms'

/-- A member with its value, or the fault of its key. -/
def memberWithin : (depth : Nat) → Except Fault String × Draft → Except Fault (String × Value)
  | _, (.error f, _) => .error f
  | depth, (.ok k, d) => do
    let v ← valueWithin depth d
    return (k, v)

end

/-- The value of a draft, read as deep as a reader goes. This is what a reader without expectations
makes of it. -/
def value (d : Draft) : Except Fault Value := d.valueWithin maxDepth

mutual

/-- The fault that a reader meets who passes over a draft without looking at its content. Such a
reader is content with half of a surrogate pair and with a number that is too large, and with any
depth. -/
def skip : Draft → Except Fault Unit
  | broken _ f => .error f
  | array items fault => do
    skipItems items
    ending fault
  | object members fault => do
    skipMembers members
    ending fault
  | _ => .ok ()

/-- The fault that is met in passing over some items. -/
def skipItems : List Draft → Except Fault Unit
  | [] => .ok ()
  | d :: ds => do
    skip d
    skipItems ds

/-- The fault that is met in passing over some members. -/
def skipMembers : List (Except Fault String × Draft) → Except Fault Unit
  | [] => .ok ()
  | m :: ms => do
    skipMember m
    skipMembers ms

/-- The fault that is met in passing over the value of a member; its key has been read by then. -/
def skipMember : Except Fault String × Draft → Except Fault Unit
  | (_, d) => skip d

end

end Draft

end Telemetry.Json
