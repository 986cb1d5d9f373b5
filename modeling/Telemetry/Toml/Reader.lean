import Telemetry.Toml.Scalar

/-!
# Reading TOML text

A document is a sequence of lines: headers, key and value pairs, comments. The reader builds the
tree of tables as it goes and refuses the text at the first line that is not TOML or that builds a
table it must not build.
-/

namespace Telemetry.Toml

/-- How deep arrays and tables in braces may nest, and how many parts a dotted key may have. -/
def nestingLimit : Nat := 80

/-! ## Keys -/

/-- A character of a key without quotes. -/
def isBareKeyChar (c : Char) : Bool := c.isAlphanum || c == '_' || c == '-'

/-- One part of a key: bare, or a string on one line. -/
def readSimpleKey : List Char → Option (String × List Char)
  | '"' :: rest => readBasic (rest.length + 1) [] rest
  | '\'' :: rest => readLiteral [] rest
  | cs =>
    let bare := cs.takeWhile isBareKeyChar
    if bare.isEmpty then none else some (String.ofList bare, cs.drop bare.length)

/-- A key with its parts, and the blanks around each. -/
def readKeyParts : (fuel : Nat) → List Char → Option (List String × List Char)
  | 0, _ => none
  | fuel + 1, cs => do
    let (part, rest) ← readSimpleKey (skipBlanks cs)
    match skipBlanks rest with
    | '.' :: rest =>
      let (parts, rest) ← readKeyParts fuel rest
      return (part :: parts, rest)
    | rest => return ([part], rest)

/-- A dotted key: the path and the last part. -/
def readKey (cs : List Char) : Option ((List String × String) × List Char) := do
  let (parts, rest) ← readKeyParts (cs.length + 1) cs
  if nestingLimit ≤ parts.length then none
  let last ← parts.getLast?
  return ((parts.dropLast, last), rest)

/-! ## Values -/

/-- The text after a comment, if one is here. The line end does not belong to it. -/
def skipComment : List Char → List Char
  | '#' :: rest => rest.dropWhile isPlain
  | cs => cs

/-- Skip blanks, comments and line ends. -/
def skipFiller : (fuel : Nat) → List Char → List Char
  | 0, cs => cs
  | fuel + 1, cs =>
    match skipBlanks cs with
    | '#' :: rest => skipFiller fuel (rest.dropWhile isPlain)
    | cs =>
      match lineEnd? cs with
      | some rest => skipFiller fuel rest
      | none => cs

mutual

/-- A value, with `depth` levels of nesting left. -/
def readValue : (fuel depth : Nat) → List Char → Option (Tree × List Char)
  | 0, _, _ => none
  | _ + 1, _, [] => none
  | fuel + 1, depth, c :: cs =>
    if c = '"' ∨ c = '\'' then (readString (c :: cs)).map fun (s, rest) => (.string s, rest)
    else if c = '[' then
      if depth ≤ 1 then none
      else (readItems fuel (depth - 1) (skipFiller cs.length cs)).map fun (ts, rest) =>
        (.array ts, rest)
    else if c = '\x7b' then
      if depth ≤ 1 then none
      else do
        let (pairs, rest) ← readPairs fuel (depth - 1) (skipBlanks cs)
        let es ← Entries.inlineTable pairs
        return (.table .inline es, rest)
    else if c = 't' then
      match cs with
      | 'r' :: 'u' :: 'e' :: rest => some (.boolean true, rest)
      | _ => none
    else if c = 'f' then
      match cs with
      | 'a' :: 'l' :: 's' :: 'e' :: rest => some (.boolean false, rest)
      | _ => none
    else readNumeric (c :: cs)

/-- The items of an array up to its closing bracket. -/
def readItems : (fuel depth : Nat) → List Char → Option (List Tree × List Char)
  | 0, _, _ => none
  | _ + 1, _, ']' :: rest => some ([], rest)
  | fuel + 1, depth, cs => do
    let (t, rest) ← readValue fuel depth cs
    match skipFiller rest.length rest with
    | ']' :: rest => return ([t], rest)
    | ',' :: rest =>
      let (ts, rest) ← readItems fuel depth (skipFiller rest.length rest)
      return (t :: ts, rest)
    | _ => none

/-- The pairs of a table in braces up to its closing brace. -/
def readPairs : (fuel depth : Nat) → List Char →
    Option (List (List String × String × Tree) × List Char)
  | 0, _, _ => none
  | _ + 1, _, '\x7d' :: rest => some ([], rest)
  | fuel + 1, depth, cs => do
    let (pair, rest) ← readPair fuel depth cs
    match skipBlanks rest with
    | '\x7d' :: rest => return ([pair], rest)
    | ',' :: rest =>
      match skipBlanks rest with
      | '\x7d' :: _ => none
      | rest =>
        let (pairs, rest) ← readPairs fuel depth rest
        return (pair :: pairs, rest)
    | _ => none

/-- A key and its value. -/
def readPair : (fuel depth : Nat) → List Char →
    Option ((List String × String × Tree) × List Char)
  | 0, _, _ => none
  | fuel + 1, depth, cs => do
    let ((path, key), rest) ← readKey cs
    let rest ← expect '=' rest
    let (t, rest) ← readValue fuel depth (skipBlanks rest)
    return ((path, key, t), rest)

end

/-! ## Documents -/

/-- The text after the end of a line, where only a comment may stand before it. -/
def finishLine (cs : List Char) : Option (List Char) :=
  match skipComment (skipBlanks cs) with
  | [] => some []
  | rest => lineEnd? rest

/-- A document while it is read: its tables, and the path of the table that is open. -/
structure Draft where
  root : Entries
  header : List String

/-- One line that is not empty. The two brackets of an array of tables are looked for before the one
of a table. -/
def readLine (d : Draft) (cs : List Char) : Option (Draft × List Char) :=
  match cs with
  | '[' :: '[' :: rest => do
    let ((path, key), rest) ← readKey rest
    let rest ← expect ']' rest
    let rest ← expect ']' rest
    let root ← d.root.appendTable path key
    return (⟨root, path ++ [key]⟩, rest)
  | '[' :: rest => do
    let ((path, key), rest) ← readKey rest
    let rest ← expect ']' rest
    let root ← d.root.openTable path key
    return (⟨root, path ++ [key]⟩, rest)
  | cs => do
    let ((path, key, t), rest) ← readPair (2 * cs.length + 2) nestingLimit cs
    let root ← d.root.putUnder d.header path key t
    return (⟨root, d.header⟩, rest)

/-- Line after line. Every turn takes at least one character, so the length of the text is fuel
enough. -/
def readLines : (fuel : Nat) → Draft → List Char → Option Draft
  | 0, _, _ => none
  | fuel + 1, d, cs =>
    match skipComment (skipBlanks cs) with
    | [] => some d
    | cs =>
      match lineEnd? cs with
      | some rest => readLines fuel d rest
      | none => do
        let (d, rest) ← readLine d cs
        let rest ← finishLine rest
        readLines fuel d rest

/-- The tables of a document, or nothing if the text is not TOML. A byte order mark in front of it
does not count. -/
def read (s : String) : Option Entries :=
  let cs := match s.toList with
    | '\ufeff' :: rest => rest
    | cs => cs
  (readLines (cs.length + 1) ⟨[], []⟩ cs).map Draft.root

end Telemetry.Toml
