/-
  What a JSON text is.

  1. **Numbers and strings** — a number is a whole part with a sign, a fraction and an exponent as
     it likes; a string is characters and escapes between double quotes.  Its escapes may give half
     of a surrogate pair, and a string whose halves do not fit together is no text.
  2. **Tokens** — `Spells` says which characters spell a token, `Spelling` puts any white space
     between the tokens.
  3. **Values** — `Derives` is the grammar of values over tokens.
  4. **Documents** — the tokens of one value and nothing else.

  Nothing here says how a text is read: every rule takes a piece of text as given.
-/
import FilterPlan.Json.Token

namespace FilterPlan

/-! ## Numbers -/

namespace Number

/-- Zero, or digits that do not begin with it. -/
inductive Whole : List Char → Prop
  | zero : Whole ['0']
  | digits {c cs} (hc : c ≠ '0') (h : Text.isDigits (c :: cs) = true) : Whole (c :: cs)

/-- A point with digits behind it, or nothing. -/
inductive Fraction : List Char → Prop
  | absent : Fraction []
  | present {ds} (h : Text.isDigits ds = true) : Fraction ('.' :: ds)

/-- An `e` with digits behind it, perhaps with a sign between, or nothing. -/
inductive Exponent : List Char → Prop
  | absent : Exponent []
  | present {e sign ds} (he : e = 'e' ∨ e = 'E') (hsign : sign = [] ∨ sign = ['+'] ∨ sign = ['-'])
    (h : Text.isDigits ds = true) : Exponent (e :: (sign ++ ds))

/-- A number without a sign, and its value if it is a whole part alone. -/
inductive Magnitude : List Char → Option Nat → Prop
  | whole {cs} (h : Whole cs) : Magnitude cs (some (Nat.ofDigitChars 10 cs 0))
  | broken {whole fraction exponent} (hwhole : Whole whole) (hfraction : Fraction fraction)
    (hexponent : Exponent exponent) (h : fraction ++ exponent ≠ []) :
    Magnitude (whole ++ (fraction ++ exponent)) none

end Number

/-- A number and what it keeps of its value: integers do, but a negative zero is none. -/
inductive Number : List Char → Scalar → Prop
  | natural {cs n} (h : Number.Magnitude cs (some n)) : Number cs (.int n)
  | negative {cs n} (h : Number.Magnitude cs (some n)) (hn : n ≠ 0) : Number ('-' :: cs) (.int (-n))
  | negativeZero {cs} (h : Number.Magnitude cs (some 0)) : Number ('-' :: cs) .real
  | real {cs} (h : Number.Magnitude cs none) : Number cs .real
  | negativeReal {cs} (h : Number.Magnitude cs none) : Number ('-' :: cs) .real

/-! ## Strings -/

namespace Token

/-- Hexadecimal digits and the number that they spell. -/
inductive HexDigits : List Char → Nat → Prop
  | nil : HexDigits [] 0
  | snoc {cs n c d} (h : HexDigits cs n) (hd : hexDigit? c = some d) :
    HexDigits (cs ++ [c]) (n * 16 + d)

/-- What stands between the quotes of a string, and the code points that it gives. -/
inductive Quoted : List Char → List Nat → Prop
  | nil : Quoted [] []
  | plain {c cs ns} (hquote : c ≠ '"') (hslash : c ≠ '\\') (hcontrol : 0x20 ≤ c.toNat)
    (h : Quoted cs ns) : Quoted (c :: cs) (c.toNat :: ns)
  | escape {c n cs ns} (hn : escape? c = some n) (h : Quoted cs ns) :
    Quoted ('\\' :: c :: cs) (n :: ns)
  | unit {digits n cs ns} (hdigits : HexDigits digits n) (hlength : digits.length = 4)
    (h : Quoted cs ns) : Quoted ('\\' :: 'u' :: (digits ++ cs)) (n :: ns)

/-- The code points stand for these characters, one each or a surrogate pair. -/
inductive Encodes : List Nat → List Char → Prop
  | nil : Encodes [] []
  | single {ns cs} (c : Char) (h : Encodes ns cs) : Encodes (c.toNat :: ns) (c :: cs)
  | pair {high low ns cs} (hhigh : isHigh high = true) (hlow : isLow low = true)
    (h : Encodes ns cs) :
    Encodes (high :: low :: ns)
      (Char.ofNat (0x10000 + (high - 0xD800) * 0x400 + (low - 0xDC00)) :: cs)

/-- The text that code points stand for, if they are one. -/
inductive Content : List Nat → Option String → Prop
  | text {points s} (h : Encodes points s.toList) : Content points (some s)
  | noText {points} (h : ∀ cs, ¬ Encodes points cs) : Content points none

/-! ## Tokens -/

/-- The characters spell the scalar as a word. -/
inductive Word : List Char → Scalar → Prop
  | null : Word "null".toList .null
  | bool (b : Bool) : Word (if b then "true" else "false").toList (.bool b)
  | number {cs s} (h : Number cs s) : Word cs s

/-- The characters spell the token. -/
inductive Spells : List Char → Token → Prop
  | mark {c t} (h : punctuation? c = some t) : Spells [c] t
  | word {cs s} (h : Word cs s) : Spells cs (.scalar s)
  | string {body points t} (h : Quoted body points) (ht : Content points t) :
    Spells ('"' :: (body ++ ['"'])) (.scalar (.text t))

/-- The characters spell the tokens in turn, with white space around them. -/
inductive Spelling : List Char → List Token → Prop
  | nil : Spelling [] []
  | space {c cs ts} (hc : isSpace c = true) (h : Spelling cs ts) : Spelling (c :: cs) ts
  | token {word t cs ts} (ht : Spells word t) (h : Spelling cs ts) :
    Spelling (word ++ cs) (t :: ts)

end Token

/-! ## Values -/

namespace Json

/-- What tokens can make up: a value, or the items of an array or the members of an object with
    commas between them, one at least. -/
inductive Phrase
  | value (j : Json)
  | items (js : List Json)
  | members (ms : List (Option String × Json))

/-- The grammar of values. -/
inductive Derives : List Token → Phrase → Prop
  | scalar (s : Scalar) : Derives [.scalar s] (.value (.scalar s))
  | emptyArray : Derives [.openArray, .closeArray] (.value (.array []))
  | array {ts js} (h : Derives ts (.items js)) :
    Derives (.openArray :: (ts ++ [.closeArray])) (.value (.array js))
  | emptyObject : Derives [.openObject, .closeObject] (.value (.object []))
  | object {ts ms} (h : Derives ts (.members ms)) :
    Derives (.openObject :: (ts ++ [.closeObject])) (.value (.object ms))
  | item {ts j} (h : Derives ts (.value j)) : Derives ts (.items [j])
  | moreItems {ts us js j} (hitems : Derives ts (.items js)) (hitem : Derives us (.value j)) :
    Derives (ts ++ .comma :: us) (.items (js ++ [j]))
  | member {ts key j} (h : Derives ts (.value j)) :
    Derives (.scalar (.text key) :: .colon :: ts) (.members [(key, j)])
  | moreMembers {ts us ms key j} (hmembers : Derives ts (.members ms))
    (hmember : Derives us (.value j)) :
    Derives (ts ++ .comma :: .scalar (.text key) :: .colon :: us) (.members (ms ++ [(key, j)]))

/-! ## Documents -/

/-- **Documents.**  The text is the tokens of this value and nothing else but white space. -/
def IsDocument (text : String) (j : Json) : Prop :=
  ∃ ts, Token.Spelling text.toList ts ∧ Derives ts (.value j)

end Json

end FilterPlan
