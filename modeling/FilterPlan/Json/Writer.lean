/-
  JSON texts.

  1. **Scalars** — strings escape the double quote, the backslash and the characters below U+0020,
     and nothing else.  A scalar that keeps less than its text said is written by one text that
     says as much: `0.0` for a number that is no integer, an unpaired surrogate for a string that
     is no text.
  2. **Compact** — `write` puts the tokens of a value one after the other, without white space.
  3. **Indented** — `writeIndented` gives each item and each member a line of its own, two spaces
     deeper than what holds it; empty arrays and objects stay on their line.
-/
import FilterPlan.Json.Token

namespace FilterPlan

/-! ## Scalars -/

/-- A character as it is written inside a string. -/
def escapeChar (c : Char) : List Char :=
  if c = '"' then ['\\', '"']
  else if c = '\\' then ['\\', '\\']
  else if c = '\x08' then ['\\', 'b']
  else if c = '\x0C' then ['\\', 'f']
  else if c = '\n' then ['\\', 'n']
  else if c = '\r' then ['\\', 'r']
  else if c = '\t' then ['\\', 't']
  else if c.toNat < 0x20 then
    ['\\', 'u', '0', '0', Nat.digitChar (c.toNat / 16), Nat.digitChar (c.toNat % 16)]
  else [c]

/-- The characters between double quotes, escaped as needed. -/
def quotedChars (cs : List Char) : List Char := '"' :: cs.flatMap escapeChar ++ ['"']

/-- A scalar as it is written. -/
def Scalar.chars : Scalar → List Char
  | .null => "null".toList
  | .bool true => "true".toList
  | .bool false => "false".toList
  | .int (.ofNat n) => Nat.toDigits 10 n
  | .int (.negSucc n) => '-' :: Nat.toDigits 10 (n + 1)
  | .real => "0.0".toList
  | .text (some s) => quotedChars s.toList
  | .text none => "\"\\ud800\"".toList

/-- A token as it is written. -/
def Token.chars : Token → List Char
  | .scalar s => s.chars
  | .openArray => ['[']
  | .closeArray => [']']
  | .openObject => ['\x7b']
  | .closeObject => ['\x7d']
  | .colon => [':']
  | .comma => [',']

namespace Json

/-! ## Compact -/

mutual

/-- The tokens of a value. -/
def tokens : Json → List Token
  | .scalar s => [.scalar s]
  | .array items => .openArray :: itemTokens items ++ [.closeArray]
  | .object members => .openObject :: memberTokens members ++ [.closeObject]

/-- The tokens of items with commas between them. -/
def itemTokens : List Json → List Token
  | [] => []
  | item :: rest =>
    match rest with
    | [] => item.tokens
    | _ :: _ => item.tokens ++ .comma :: itemTokens rest

/-- The tokens of members with commas between them. -/
def memberTokens : List (Option String × Json) → List Token
  | [] => []
  | (key, value) :: rest =>
    match rest with
    | [] => .scalar (.text key) :: .colon :: value.tokens
    | _ :: _ => .scalar (.text key) :: .colon :: value.tokens ++ .comma :: memberTokens rest

end

/-- The value as a text without white space. -/
def write (value : Json) : String := String.ofList (value.tokens.flatMap Token.chars)

/-! ## Indented -/

/-- The start of a line at this depth. -/
def newline (depth : Nat) : List Char := '\n' :: List.replicate (2 * depth) ' '

mutual

/-- The characters of a value that begins on a line of this depth. -/
def indented (depth : Nat) : Json → List Char
  | .scalar s => s.chars
  | .array items =>
    if items.isEmpty then ['[', ']']
    else '[' :: indentedItems (depth + 1) items ++ newline depth ++ [']']
  | .object members =>
    if members.isEmpty then ['\x7b', '\x7d']
    else '\x7b' :: indentedMembers (depth + 1) members ++ newline depth ++ ['\x7d']

/-- The lines of items at this depth. -/
def indentedItems (depth : Nat) : List Json → List Char
  | [] => []
  | item :: rest =>
    newline depth ++ item.indented depth ++ (if rest.isEmpty then [] else [','])
      ++ indentedItems depth rest

/-- The lines of members at this depth. -/
def indentedMembers (depth : Nat) : List (Option String × Json) → List Char
  | [] => []
  | (key, value) :: rest =>
    newline depth ++ (Scalar.text key).chars ++ [':', ' '] ++ value.indented depth
      ++ (if rest.isEmpty then [] else [',']) ++ indentedMembers depth rest

end

/-- The value as a text with a line for each part. -/
def writeIndented (value : Json) : String := String.ofList (value.indented 0)

example : (record [("a", .array [.int 1, .null])]).write = "\x7b\"a\":[1,null]\x7d" := by decide
example : (array [.text "\n\x1f"]).writeIndented = "[\n  \"\\n\\u001f\"\n]" := by decide

end Json

end FilterPlan
