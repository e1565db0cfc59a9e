/-
  The tokens of JSON texts.

  1. **Tokens** — a scalar, a bracket, a colon or a comma.  White space stands between tokens and
     is no token.
  2. **Words** — whatever is neither white space, punctuation nor a string is a run of word
     characters, and such a run is `null`, `true`, `false` or a number in full: no token ends in
     the middle of a word.
  3. **Strings** — a string is scanned into code points, an escape `\u` giving any 16-bit one.  A
     high surrogate and a low one right after it are one character; a surrogate that is left over
     makes the string no text.
  4. **Scanning** — `tokens?` runs a scanner over the characters one by one and refuses a text as
     soon as no token can go on.
-/
import FilterPlan.Json.Value
import FilterPlan.Text.Numeral

namespace FilterPlan

/-- A token of a JSON text. -/
inductive Token
  | scalar (s : Scalar)
  | openArray
  | closeArray
  | openObject
  | closeObject
  | colon
  | comma
deriving DecidableEq

namespace Token

/-! ## Words -/

/-- Holds of the four characters that may stand between tokens. -/
def isSpace (c : Char) : Bool := c == ' ' || c == '\t' || c == '\n' || c == '\r'

/-- Holds of the characters that words are made of. -/
def isWordChar (c : Char) : Bool := c.isAlphanum || c == '+' || c == '-' || c == '.'

/-- The token that a punctuation character is. -/
def punctuation? : Char → Option Token
  | '[' => some .openArray
  | ']' => some .closeArray
  | '\x7b' => some .openObject
  | '\x7d' => some .closeObject
  | ':' => some .colon
  | ',' => some .comma
  | _ => none

/-- Holds of a run of digits without leading zeros. -/
def isWhole (cs : List Char) : Bool := Text.isDigits cs && (cs.head? != some '0' || cs == ['0'])

/-- Holds of an exponent, or of nothing. -/
def isExponent : List Char → Bool
  | [] => true
  | e :: '+' :: ds => (e == 'e' || e == 'E') && Text.isDigits ds
  | e :: '-' :: ds => (e == 'e' || e == 'E') && Text.isDigits ds
  | e :: ds => (e == 'e' || e == 'E') && Text.isDigits ds

/-- Holds of what may follow the whole part of a number: a fraction, an exponent, both or
    neither. -/
def isFraction : List Char → Bool
  | '.' :: cs => Text.isDigits (cs.takeWhile Char.isDigit) && isExponent (cs.dropWhile Char.isDigit)
  | cs => isExponent cs

/-- The number that a word without a sign spells. -/
def magnitude? (word : List Char) : Option (Option Nat) :=
  let whole := word.takeWhile Char.isDigit
  let rest := word.dropWhile Char.isDigit
  if isWhole whole && isFraction rest then
    some (if rest.isEmpty then some (Nat.ofDigitChars 10 whole 0) else none)
  else none

/-- The number that a word spells.  A minus before zero makes it no integer. -/
def number? : List Char → Option Scalar
  | '-' :: word => (magnitude? word).map fun
    | some (n + 1) => .int (-(n + 1 : Nat))
    | _ => .real
  | word => (magnitude? word).map fun
    | some n => .int n
    | none => .real

/-- The scalar that a word spells. -/
def word? (word : List Char) : Option Scalar :=
  if word = "null".toList then some .null
  else if word = "true".toList then some (.bool true)
  else if word = "false".toList then some (.bool false)
  else number? word

/-! ## Strings -/

/-- The code point of an escape of one letter. -/
def escape? : Char → Option Nat
  | '"' => some 0x22
  | '\\' => some 0x5C
  | '/' => some 0x2F
  | 'b' => some 0x08
  | 'f' => some 0x0C
  | 'n' => some 0x0A
  | 'r' => some 0x0D
  | 't' => some 0x09
  | _ => none

/-- The value of a hexadecimal digit. -/
def hexDigit? (c : Char) : Option Nat :=
  if c.isDigit then some (c.toNat - '0'.toNat)
  else if 'a' ≤ c ∧ c ≤ 'f' then some (c.toNat - 'a'.toNat + 10)
  else if 'A' ≤ c ∧ c ≤ 'F' then some (c.toNat - 'A'.toNat + 10)
  else none

/-- Holds of the first half of a surrogate pair. -/
def isHigh (n : Nat) : Bool := 0xD800 ≤ n && n < 0xDC00

/-- Holds of the second half of a surrogate pair. -/
def isLow (n : Nat) : Bool := 0xDC00 ≤ n && n < 0xE000

/-- The characters of a string's code points, unless a surrogate is left over. -/
def assemble? : List Nat → Option (List Char)
  | [] => some []
  | n :: rest =>
    if isHigh n then
      match rest with
      | low :: rest =>
        if isLow low then
          (assemble? rest).map (Char.ofNat (0x10000 + (n - 0xD800) * 0x400 + (low - 0xDC00)) :: ·)
        else none
      | [] => none
    else if isLow n then none
    else (assemble? rest).map (Char.ofNat n :: ·)

/-! ## Scanning

  All that a scanner collects, it collects in reverse. -/

/-- What a scanner is in the middle of. -/
inductive Mode
  | between
  | word (spelt : List Char)
  | quoted (points : List Nat)
  | escaped (points : List Nat)
  /-- Inside an escape of four digits; `due` more come after the next one. -/
  | hex (points : List Nat) (due value : Nat)

/-- A scanner and the tokens behind it. -/
structure Scanner where
  mode : Mode := .between
  tokens : List Token := []

namespace Scanner

/-- Moves over a character that is in no word and no string. -/
def open? (tokens : List Token) (c : Char) : Option Scanner :=
  if isSpace c then some ⟨.between, tokens⟩
  else if c = '"' then some ⟨.quoted [], tokens⟩
  else if isWordChar c then some ⟨.word [c], tokens⟩
  else (punctuation? c).map fun t => ⟨.between, t :: tokens⟩

/-- The tokens with the word that has just ended. -/
def endWord? (spelt : List Char) (tokens : List Token) : Option (List Token) :=
  (word? spelt.reverse).map fun s => .scalar s :: tokens

/-- Moves over one character. -/
def step? (s : Scanner) (c : Char) : Option Scanner :=
  match s.mode with
  | .between => open? s.tokens c
  | .word spelt =>
    if isWordChar c then some ⟨.word (c :: spelt), s.tokens⟩
    else (endWord? spelt s.tokens).bind fun tokens => open? tokens c
  | .quoted points =>
    if c = '"' then
      let text := (assemble? points.reverse).map String.ofList
      some ⟨.between, .scalar (.text text) :: s.tokens⟩
    else if c = '\\' then some ⟨.escaped points, s.tokens⟩
    else if c.toNat < 0x20 then none
    else some ⟨.quoted (c.toNat :: points), s.tokens⟩
  | .escaped points =>
    if c = 'u' then some ⟨.hex points 3 0, s.tokens⟩
    else (escape? c).map fun n => ⟨.quoted (n :: points), s.tokens⟩
  | .hex points due value =>
    (hexDigit? c).map fun digit =>
      match due with
      | 0 => ⟨.quoted ((value * 16 + digit) :: points), s.tokens⟩
      | due + 1 => ⟨.hex points due (value * 16 + digit), s.tokens⟩

/-- The tokens of a text that ends here. -/
def finish? (s : Scanner) : Option (List Token) :=
  match s.mode with
  | .between => some s.tokens.reverse
  | .word spelt => (endWord? spelt s.tokens).map List.reverse
  | _ => none

end Scanner

/-- The tokens of a text. -/
def tokens? (cs : List Char) : Option (List Token) :=
  (cs.foldlM Scanner.step? ({ } : Scanner)).bind Scanner.finish?

example : tokens? "[-0, 12e1,-7]".toList = some [.openArray, .scalar .real, .comma,
    .scalar .real, .comma, .scalar (.int (-7)), .closeArray] := by decide
example : tokens? "\"\\ud83d\\ude00\" \"\\udc00\"".toList =
    some [.scalar (.text (some "😀")), .scalar (.text none)] := by decide +kernel
example : tokens? "01".toList = none := by decide

end Token

end FilterPlan
