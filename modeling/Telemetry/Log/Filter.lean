import Telemetry.Log.Directive

/-!
# Which records are written

A filter is a list of directives. A record is written if the directive closest to it lets its level
through, or if one of the spans around it lies in the scope of a directive that does.

A directive with a field but without a span is about records that have the field as much as about
spans, unless it compares the value of the field: values are only known of spans.
-/

namespace Telemetry.Log

/-- What decides about records. -/
structure Filter where
  /-- the directives, no two of one scope -/
  directives : List Directive
  /-- the level of the widest directive there has been -/
  widest : Level

namespace Filter

/-- The filter before its first directive, which lets nothing through. -/
def empty : Filter := ⟨[], .off⟩

/-- Add a directive in place of one of the same scope. How wide the replaced one was is not
forgotten. -/
def add (f : Filter) (d : Directive) : Filter where
  directives := (f.directives.filter fun e => e.scope ≠ d.scope) ++ [d]
  widest := f.widest.wider (if d.scope.comparesValues then .trace else d.level)

/-- The filter of some directives. Without any only errors are let through. -/
def ofDirectives : List Directive → Filter
  | [] => empty.add ⟨{}, .error⟩
  | ds => ds.foldl add empty

/-- A text that should be a directive and is none. -/
structure Complaint where
  text : String
  why : Refusal
deriving DecidableEq

/-- The line of a complaint. -/
def Complaint.message (c : Complaint) : String :=
  "ignoring `" ++ c.text ++ "`: " ++ c.why.message

/-- The filter of a text, in which directives have commas between them, and complaints about what
is no directive and is passed over. -/
def read (s : String) : Filter × List Complaint :=
  let texts := (s.splitOn ",").filter fun t => !t.isEmpty
  (ofDirectives (texts.filterMap fun t => (Directive.read t).toOption),
    texts.filterMap fun t =>
      match Directive.read t with
      | .ok _ => none
      | .error why => some ⟨t, why⟩)

/-- How close a scope is to the records it covers: first counts the length of the target, then the
number of fields. -/
def closeness (s : Scope) : Nat × Nat :=
  ((s.target.map fun t => t.utf8ByteSize + 1).getD 0, s.fields.length)

/-- Whether the first of two scopes of one record is the closer one. Of two that are equally close
it is the one whose field comes later in the alphabet. -/
def isCloser (a b : Scope) : Bool :=
  let (m, k) := closeness a
  let (n, l) := closeness b
  n < m || (n = m && (l < k || (l = k && b.fields.map (·.name) < a.fields.map (·.name))))

/-- The directive that decides about a record by itself. -/
def deciding? (f : Filter) (r : Record) : Option Directive :=
  (f.directives.filter fun d => d.scope.aboutRecords && d.scope.coversRecord r).foldl
    (fun best d => match best with
      | some b => some (if isCloser d.scope b.scope then d else b)
      | none => some d)
    none

/-- Whether a span is looked at and lets a level through. It is not looked at if no directive is as
wide as its own level. -/
def spanLets (f : Filter) (x : Span) (level : Level) : Bool :=
  f.widest.lets Span.level &&
    f.directives.any fun d => d.scope.aboutSpans && d.scope.coversSpan x && d.level.lets level

/-- Whether a record is written. -/
def lets (f : Filter) (r : Record) : Bool :=
  (f.deciding? r).any (fun d => d.level.lets r.level) ||
    r.within.any fun x => f.spanLets x r.level

end Filter

end Telemetry.Log
