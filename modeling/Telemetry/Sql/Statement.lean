/-!
# SQL statements with bound parameters

A statement is put together from pieces: words of SQL and slots for values. The text shows a
question mark for each slot, and the values are sent beside it in the same order, so no value ever
becomes part of the text.
-/

namespace Telemetry.Sql

/-- A value sent beside the text of a statement, in the form in which the server takes it. Ids and
documents are sent as texts; numbers occur as bounds of ranges and as limits. -/
inductive Param where
  | text (s : String)
  | integer (n : Int64)
deriving DecidableEq

/-- A piece of a statement. Only words come from the program itself; whatever comes from outside is
put into a slot. -/
inductive Piece where
  | words (s : String)
  | slot (p : Param)

/-- What a piece adds to the text: its words, or the mark of a slot. The value of a slot leaves no
trace in the text, which is what makes a statement a template. -/
def Piece.text : Piece → String
  | words s => s
  | slot _ => "?"

/-- The value a piece brings, if it is a slot. -/
def Piece.param? : Piece → Option Param
  | words _ => none
  | slot p => some p

/-- A statement as it is sent. Statements are equal if the server cannot tell them apart, so the
pieces they were made of are not kept. -/
structure Statement where
  text : String
  params : List Param
deriving DecidableEq

/-- The statement made of the given pieces. The marks and the values are taken from the same list,
so there are as many of the one as of the other, as long as no words have a mark of their own. -/
def Statement.ofPieces (ps : List Piece) : Statement where
  text := String.join (ps.map Piece.text)
  params := ps.filterMap Piece.param?

/-- A statement without values, such as those that begin and end a transaction. -/
def Statement.plain (s : String) : Statement := ⟨s, []⟩

/-- Lists of pieces with a separator between them, and none at either end. No list at all makes no
piece, so whoever joins conditions has to see to the empty case. -/
def joined (separator : String) : List (List Piece) → List Piece
  | [] => []
  | [ps] => ps
  | ps :: rest => ps ++ .words separator :: joined separator rest

end Telemetry.Sql
