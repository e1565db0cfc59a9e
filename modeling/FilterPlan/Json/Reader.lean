/-
  JSON values from tokens.

  A reader keeps the arrays and objects it is inside of on a stack, innermost first, so texts may
  nest to any depth.  Every token either moves it on or is refused: `step?` is the whole grammar,
  one line for each place where a token may stand.
-/
import FilterPlan.Json.Token

namespace FilterPlan

/-- An array or object that a reader is inside of; what it holds so far is in reverse. -/
inductive Frame
  | array (done : List Json)
  /-- The value of `key` is due. -/
  | object (done : List (Option String × Json)) (key : Option String)

/-- Where a reader stands. -/
inductive Reader
  /-- A value is due. -/
  | value (stack : List Frame)
  /-- An array has just been opened. -/
  | firstItem (stack : List Frame)
  /-- An item has just ended. -/
  | afterItem (done : List Json) (stack : List Frame)
  /-- An object has just been opened. -/
  | firstKey (stack : List Frame)
  /-- A comma stood between two members. -/
  | nextKey (done : List (Option String × Json)) (stack : List Frame)
  /-- A key has just been read. -/
  | afterKey (done : List (Option String × Json)) (key : Option String) (stack : List Frame)
  /-- A member has just ended. -/
  | afterMember (done : List (Option String × Json)) (stack : List Frame)
  /-- The text's value is complete. -/
  | finished (value : Json)

namespace Reader

/-- Where a reader stands after a complete value. -/
def supply (stack : List Frame) (value : Json) : Reader :=
  match stack with
  | [] => .finished value
  | .array done :: stack => .afterItem (value :: done) stack
  | .object done key :: stack => .afterMember ((key, value) :: done) stack

/-- Takes a token that begins a value. -/
def begin? (stack : List Frame) : Token → Option Reader
  | .scalar s => some (supply stack (.scalar s))
  | .openArray => some (.firstItem stack)
  | .openObject => some (.firstKey stack)
  | _ => none

/-- Takes one token. -/
def step? : Reader → Token → Option Reader
  | .value stack, t => begin? stack t
  | .firstItem stack, .closeArray => some (supply stack (.array []))
  | .firstItem stack, t => begin? (.array [] :: stack) t
  | .afterItem done stack, .comma => some (.value (.array done :: stack))
  | .afterItem done stack, .closeArray => some (supply stack (.array done.reverse))
  | .firstKey stack, .closeObject => some (supply stack (.object []))
  | .firstKey stack, .scalar (.text key) => some (.afterKey [] key stack)
  | .nextKey done stack, .scalar (.text key) => some (.afterKey done key stack)
  | .afterKey done key stack, .colon => some (.value (.object done key :: stack))
  | .afterMember done stack, .comma => some (.nextKey done stack)
  | .afterMember done stack, .closeObject => some (supply stack (.object done.reverse))
  | _, _ => none

end Reader

namespace Json

/-- The value that a list of tokens spells. -/
def ofTokens? (tokens : List Token) : Option Json :=
  match tokens.foldlM Reader.step? (.value []) with
  | some (.finished value) => some value
  | _ => none

/-- The value that a text spells: one JSON value with nothing but white space around it. -/
def read? (text : String) : Option Json := (Token.tokens? text.toList).bind ofTokens?

end Json

end FilterPlan
