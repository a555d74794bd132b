import ClusterTopology.Json.Basic
import ClusterTopology.SortedMap

/-!
# JSON texts

Reading JSON texts and writing them.  A text is cut into brackets, separators and
scalar values; blanks between them mean nothing.  The literals of numbers have a
sign, digits without a leading zero, a fraction and an exponent, all but the
digits optional.  The contents of a string literal are units of sixteen bits, in
which a character beyond the first 65536 is a high surrogate and a low one after
it; a surrogate without its partner stands for no character.  Of members of one
name in an object the last counts, and the members of an object are kept in the
order of their names.

A value is written without blanks.  In strings only quotes, backslashes and
control characters are escaped.

## Main definitions

* `Text.Surrogate.decode` — the characters that units of sixteen bits stand for.
* `Json.ofNumber?` — the value of a number literal.
* `Json.tokens?` — the tokens of a text.
* `Json.parse?` — the value of a text.
* `Json.render` — the text of a value.

## Main results

* `Json.length_lt_of_stringUnits` — a string literal takes up some text.
-/

namespace ClusterTopology

/-! ### Surrogate pairs -/

namespace Text.Surrogate

/-- Whether a unit is the first one of a pair. -/
def isHigh (u : Nat) : Bool := 0xD800 ≤ u && u < 0xDC00

/-- Whether a unit is the second one of a pair. -/
def isLow (u : Nat) : Bool := 0xDC00 ≤ u && u < 0xE000

/-- The character of a pair of surrogates. -/
def join (high low : Nat) : Char :=
  Char.ofNat (0x10000 + (high - 0xD800) * 0x400 + (low - 0xDC00))

/-- The characters that units stand for, if every surrogate has its partner. -/
def decode : List Nat → Option (List Char)
  | [] => some []
  | u :: us =>
    if isLow u then none
    else if isHigh u then
      match us with
      | [] => none
      | low :: us => if isLow low then (decode us).map (join u low :: ·) else none
    else (decode us).map (Char.ofNat u :: ·)

@[simp] theorem decode_nil : decode [] = some [] := rfl

end Text.Surrogate

namespace Json

/-! ### Number literals -/

/-- The value of a run of decimal digits. -/
def digitsValue (digits : List Char) : Nat :=
  digits.foldl (fun n c => 10 * n + (c.toNat - '0'.toNat)) 0

/-- Whether the characters are one or more decimal digits. -/
def isDigits (cs : List Char) : Bool := !cs.isEmpty && cs.all Char.isDigit

/-- Whether the characters are digits without a leading zero. -/
def isWhole : List Char → Bool
  | ['0'] => true
  | cs => isDigits cs && cs.head? != some '0'

/-- Whether the characters are nothing or an exponent. -/
def isExponent : List Char → Bool
  | [] => true
  | e :: '+' :: digits => (e == 'e' || e == 'E') && isDigits digits
  | e :: '-' :: digits => (e == 'e' || e == 'E') && isDigits digits
  | e :: digits => (e == 'e' || e == 'E') && isDigits digits

/-- Whether the characters are nothing or a fraction, and then nothing or an
exponent. -/
def isFraction : List Char → Bool
  | '.' :: cs => isDigits (cs.takeWhile Char.isDigit) && isExponent (cs.dropWhile Char.isDigit)
  | cs => isExponent cs

/-- The value of an integer literal: a float if the integer does not fit into 64
bits, and for the literal `-0`. -/
def ofInteger (negative : Bool) (n : Nat) (literal : List Char) : Json :=
  let value : Int := if negative then -n else n
  if (negative && n == 0) || value < minInt || maxInt < value then float (String.ofList literal)
  else int value

/-- The value of a number literal. -/
def ofNumber? (literal : List Char) : Option Json :=
  let negative := literal.head? == some '-'
  let unsigned := if negative then literal.drop 1 else literal
  let whole := unsigned.takeWhile Char.isDigit
  let tail := unsigned.dropWhile Char.isDigit
  if isWhole whole && isFraction tail then
    if tail.isEmpty then some (ofInteger negative (digitsValue whole) literal)
    else some (float (String.ofList literal))
  else none

/-! ### Tokens -/

/-- A token of a JSON text. -/
inductive Token
  /-- An opening bracket. -/
  | openArray
  /-- A closing bracket. -/
  | closeArray
  /-- An opening brace. -/
  | openObject
  /-- A closing brace. -/
  | closeObject
  /-- The separator of a name and its value. -/
  | colon
  /-- The separator of elements and of members. -/
  | comma
  /-- A string, a number or one of the named values. -/
  | scalar (v : Json)

/-! ### String literals -/

/-- The value of a hexadecimal digit. -/
def hexDigit? (c : Char) : Option Nat :=
  if '0' ≤ c ∧ c ≤ '9' then some (c.toNat - '0'.toNat)
  else if 'a' ≤ c ∧ c ≤ 'f' then some (c.toNat - 'a'.toNat + 10)
  else if 'A' ≤ c ∧ c ≤ 'F' then some (c.toNat - 'A'.toNat + 10)
  else none

/-- The value of hexadecimal digits. -/
def hexValue? (digits : List Char) : Option Nat :=
  digits.foldlM (fun n c => (hexDigit? c).map (16 * n + ·)) 0

/-- The character that a letter after a backslash stands for. -/
def escaped? : Char → Option Char
  | '"' => some '"'
  | '\\' => some '\\'
  | '/' => some '/'
  | 'b' => some '\x08'
  | 'f' => some '\x0c'
  | 'n' => some '\n'
  | 'r' => some '\r'
  | 't' => some '\t'
  | _ => none

/-- The units of a string literal whose opening quote has been read, and the
text after its closing quote. -/
def stringUnits : List Char → Option (List Nat × List Char)
  | [] => none
  | '"' :: rest => some ([], rest)
  | '\\' :: 'u' :: a :: b :: c :: d :: rest =>
    (hexValue? [a, b, c, d]).bind fun u => (stringUnits rest).map fun r => (u :: r.1, r.2)
  | '\\' :: c :: rest =>
    (escaped? c).bind fun e => (stringUnits rest).map fun r => (e.toNat :: r.1, r.2)
  | c :: rest =>
    if c.toNat < 0x20 then none else (stringUnits rest).map fun r => (c.toNat :: r.1, r.2)

/-- A string literal takes up some text. -/
theorem length_lt_of_stringUnits {cs : List Char} {us : List Nat} {rest : List Char}
    (h : stringUnits cs = some (us, rest)) : rest.length < cs.length := by
  fun_induction stringUnits cs generalizing us rest with
  | case1 => simp at h
  | case2 => simp_all
  | case3 _ _ _ _ tail ih =>
    simp only [Option.bind_eq_some_iff, Option.map_eq_some_iff] at h
    obtain ⟨_, _, r, hr, heq⟩ := h
    have := ih hr
    simp_all
    omega
  | case4 _ tail _ ih =>
    simp only [Option.bind_eq_some_iff, Option.map_eq_some_iff] at h
    obtain ⟨_, _, r, hr, heq⟩ := h
    have := ih hr
    simp_all
    omega
  | case5 => simp_all
  | case6 c tail _ _ _ hc ih =>
    simp only [Option.map_eq_some_iff] at h
    obtain ⟨r, hr, heq⟩ := h
    have := ih hr
    simp_all
    omega

/-! ### Splitting a text -/

/-- Whether a character is a blank between tokens. -/
def isBlank (c : Char) : Bool := c == ' ' || c == '\n' || c == '\r' || c == '\t'

/-- Whether a character belongs to a number or a named value. -/
def isWordChar (c : Char) : Bool := c.isAlphanum || c == '-' || c == '+' || c == '.'

/-- The token of a bracket or separator. -/
def punctuation? : Char → Option Token
  | '[' => some .openArray
  | ']' => some .closeArray
  | '{' => some .openObject
  | '}' => some .closeObject
  | ':' => some .colon
  | ',' => some .comma
  | _ => none

/-- The value of a word: a named value or a number. -/
def ofWord? (word : List Char) : Option Json :=
  if word = ['n', 'u', 'l', 'l'] then some null
  else if word = ['t', 'r', 'u', 'e'] then some (bool true)
  else if word = ['f', 'a', 'l', 's', 'e'] then some (bool false)
  else ofNumber? word

/-- The tokens of a text. -/
def tokens? : List Char → Option (List Token)
  | [] => some []
  | c :: cs =>
    if isBlank c then tokens? cs
    else if c = '"' then
      match _ : stringUnits cs with
      | none => none
      | some (us, rest) =>
        (Text.Surrogate.decode us).bind fun text =>
          (tokens? rest).map (.scalar (str (String.ofList text)) :: ·)
    else if isWordChar c then
      (ofWord? (c :: cs.takeWhile isWordChar)).bind fun v =>
        (tokens? (cs.dropWhile isWordChar)).map (.scalar v :: ·)
    else (punctuation? c).bind fun t => (tokens? cs).map (t :: ·)
termination_by cs => cs.length
decreasing_by
  all_goals simp_wf
  · have := length_lt_of_stringUnits ‹_›; omega
  · have := (List.dropWhile_suffix isWordChar : cs.dropWhile isWordChar <:+ cs).length_le; omega

/-! ### Reading -/

/-- The object of the given members; of members of one name the last counts. -/
def ofMembers (members : List (String × Json)) : Json := obj (SortedMap.ofList members).toList

mutual

/-- The value at the front of the tokens and the tokens after it.  The fuel
bounds the number of nested calls. -/
def readValue : Nat → List Token → Option (Json × List Token)
  | _, .scalar v :: ts => some (v, ts)
  | _, .openArray :: .closeArray :: ts => some (arr [], ts)
  | fuel + 1, .openArray :: ts => (readElements fuel ts).map fun r => (arr r.1, r.2)
  | _, .openObject :: .closeObject :: ts => some (obj [], ts)
  | fuel + 1, .openObject :: ts => (readMembers fuel ts).map fun r => (ofMembers r.1, r.2)
  | _, _ => none

/-- The elements of an array whose bracket has been read, one at least. -/
def readElements : Nat → List Token → Option (List Json × List Token)
  | 0, _ => none
  | fuel + 1, ts => (readValue fuel ts).bind fun
    | (v, .closeArray :: ts) => some ([v], ts)
    | (v, .comma :: ts) => (readElements fuel ts).map fun r => (v :: r.1, r.2)
    | _ => none

/-- The members of an object whose brace has been read, one at least. -/
def readMembers : Nat → List Token → Option (List (String × Json) × List Token)
  | fuel + 1, .scalar (str name) :: .colon :: ts => (readValue fuel ts).bind fun
    | (v, .closeObject :: ts) => some ([(name, v)], ts)
    | (v, .comma :: ts) => (readMembers fuel ts).map fun r => ((name, v) :: r.1, r.2)
    | _ => none
  | _, _ => none

end

/-- The value that the tokens stand for.  A value nests at most two calls per
token, so the fuel never runs out. -/
def ofTokens? (ts : List Token) : Option Json :=
  match readValue (2 * ts.length) ts with
  | some (v, []) => some v
  | _ => none

/-- The value of a JSON text. -/
def parse? (text : String) : Option Json := (tokens? text.toList).bind ofTokens?

/-! ### Writing -/

/-- The four hexadecimal digits of a number below 65536. -/
def hexDigits4 (n : Nat) : List Char :=
  [n / 4096 % 16, n / 256 % 16, n / 16 % 16, n % 16].map Nat.digitChar

/-- A character inside a string literal. -/
def escapeChar (c : Char) : List Char :=
  if c = '"' ∨ c = '\\' then ['\\', c]
  else if c = '\n' then ['\\', 'n']
  else if c = '\r' then ['\\', 'r']
  else if c = '\t' then ['\\', 't']
  else if c.toNat < 0x20 then '\\' :: 'u' :: hexDigits4 c.toNat
  else [c]

/-- The literal of a string. -/
def quote (s : String) : String :=
  String.ofList ('"' :: s.toList.flatMap escapeChar ++ ['"'])

mutual

/-- The text of a value. -/
def render : Json → String
  | null => "null"
  | bool b => if b then "true" else "false"
  | int n => toString n
  | float literal => literal
  | str s => quote s
  | arr elements => "[" ++ String.intercalate "," (renderElements elements) ++ "]"
  | obj members => "\x7b" ++ String.intercalate "," (renderMembers members) ++ "\x7d"

/-- The texts of the elements of an array. -/
def renderElements : List Json → List String
  | [] => []
  | v :: vs => render v :: renderElements vs

/-- The texts of the members of an object. -/
def renderMembers : List (String × Json) → List String
  | [] => []
  | (name, v) :: ms => (quote name ++ ":" ++ render v) :: renderMembers ms

end

end Json

end ClusterTopology
