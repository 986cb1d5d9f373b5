/-!
# TOML documents as trees of tables

A TOML document builds its tables piece by piece: by headers, by headers of arrays of tables, and by
dotted keys. What has been built in one way cannot be built again, and a table is open to later
pieces only in some ways. A table remembers how it came to be, and every piece is put in place with
the check of its kind.

* A header opens a table that has only been named on the way to another; it never opens one that a
  header, a dotted key or an inline table has made.
* A dotted key goes through tables that dotted keys have made or that have only been named on the
  way to another, and its last part must be new in a table of its own kind.
-/

namespace Telemetry.Toml

/-- How a table came to be. -/
inductive Origin where
  /-- by a header of its own, or as the document -/
  | header
  /-- named on the way to another table in a header -/
  | implied
  /-- by a dotted key -/
  | dotted
  /-- written in braces as a value -/
  | inline
deriving DecidableEq

/-- A value of a document. -/
inductive Tree where
  | string (s : String)
  | integer (n : Int)
  | float (text : String)
  | boolean (b : Bool)
  /-- a date, a time, or both -/
  | moment (text : String)
  | array (items : List Tree)
  | table (origin : Origin) (entries : List (String × Tree))
  /-- an array of tables, the last one open -/
  | tables (before : List (List (String × Tree))) (last : List (String × Tree))

/-- The entries of a table in the order in which they are first named. -/
abbrev Entries := List (String × Tree)

namespace Entries

/-- The value of a key in one table. Tables are looked up by their own keys only, not by dotted
paths. -/
def get? (key : String) : Entries → Option Tree
  | [] => none
  | (k, t) :: rest => if k = key then some t else get? key rest

/-- Set a key, keeping its place if it is there. -/
def set (key : String) (t : Tree) : Entries → Entries
  | [] => [(key, t)]
  | (k, u) :: rest => if k = key then (k, t) :: rest else (k, u) :: set key t rest

/-- Go down along a path and change the table at its end; `none` if the path or the change is not
allowed. Missing tables are made. With `dotted` the path is that of a dotted key. -/
def descend (dotted : Bool) (change : Origin → Entries → Option Entries) :
    List String → Origin → Entries → Option Entries
  | [], origin, es => change origin es
  | key :: path, _, es =>
    match get? key es with
    | none =>
      let origin := if dotted then Origin.dotted else .implied
      (descend dotted change path origin []).map fun sub => es ++ [(key, .table origin sub)]
    | some (.table origin sub) =>
      if origin = .inline ∨ (dotted ∧ origin = .header) then none
      else (descend dotted change path origin sub).map fun sub => set key (.table origin sub) es
    | some (.tables before last) =>
      (descend dotted change path .header last).map fun last => set key (.tables before last) es
    | some _ => none

/-- Put a new key into the table at the end of a dotted path. -/
def put (path : List String) (key : String) (t : Tree) (origin : Origin) (es : Entries) :
    Option Entries :=
  descend true (fun origin es =>
    if path ≠ [] ∧ origin ≠ .dotted then none
    else match get? key es with
      | some _ => none
      | none => some (es ++ [(key, t)])) path origin es

/-- Open the table of a header. -/
def openTable (path : List String) (key : String) (es : Entries) : Option Entries :=
  descend false (fun _ es =>
    match get? key es with
    | none => some (es ++ [(key, .table .header [])])
    | some (.table .implied sub) => some (set key (.table .header sub) es)
    | some _ => none) path .header es

/-- Add a table to an array of tables. -/
def appendTable (path : List String) (key : String) (es : Entries) : Option Entries :=
  descend false (fun _ es =>
    match get? key es with
    | none => some (es ++ [(key, .tables [] [])])
    | some (.tables before last) => some (set key (.tables (before ++ [last]) []) es)
    | some _ => none) path .header es

/-- Put a key into the table that the last header has opened. -/
def putUnder (header : List String) (path : List String) (key : String) (t : Tree) (es : Entries) :
    Option Entries :=
  descend false (fun _ es => put path key t .header es) header .header es

/-- The table of the pairs in braces. -/
def inlineTable : List (List String × String × Tree) → Option Entries
  | pairs => pairs.foldlM (fun es (path, key, t) => putInline path key t es) []
where
  /-- In braces a dotted path goes through tables that dotted paths in the same braces have made. -/
  putInline (path : List String) (key : String) (t : Tree) (es : Entries) : Option Entries :=
    put path key t .inline es

end Entries

end Telemetry.Toml
