import GeoPlacement.Json.Value

/-!
# Reading a document

The reader works in two stages. `Token.scan?` cuts a text into tokens, skipping the four blank
characters of JSON; `Machine.step?` then consumes one token after another, keeping the containers
that are still open on a stack. Both stages are strict: no leading zeros or `+`, digits on both
sides of a point, no control characters in strings, no trailing commas and nothing after the
document.

Three parts are well formed and hold no value. They are `Json.unreadable` in the document.

- A string with a surrogate that is not half of a pair.
- An object with such a string for a name.
- A container inside of more than `Machine.maxDepth` others.

`Json.document?` gives the document as it was written, `Json.read?` its value.
-/

namespace GeoPlacement

/-- A lexical token of JSON. -/
inductive Token
  | openList
  | closeList
  | openObject
  | closeObject
  | comma
  | colon
  | scalar (value : Json)

namespace Token

/-! ### Numbers -/

/-- The digits before the point: a lone zero, or a run that does not start with zero. -/
def whole? (cs : List Char) : Option (List (Fin 10) × List Char) :=
  match splitDigits cs with
  | ([], _) => none
  | ([d], rest) => some ([d], rest)
  | (d :: more, rest) => if d.val = 0 then none else some (d :: more, rest)

/-- The digits after a point, which has at least one behind it. -/
def fraction? : List Char → Option (List (Fin 10) × List Char)
  | '.' :: rest =>
    match splitDigits rest with
    | ([], _) => none
    | (digits, after) => some (digits, after)
  | cs => some ([], cs)

/-- An exponent, `none` inside if there is none. -/
def exponent? : List Char → Option (Option Int × List Char)
  | [] => some (none, [])
  | c :: rest =>
    if c = 'e' || c = 'E' then
      (Decimal.exponent? rest).map fun (value, after) => (some value, after)
    else
      some (none, c :: rest)

/-- A number after its sign. Without point and exponent it is an integer, except that the
negative zero is not one. -/
def number? (negative : Bool) (cs : List Char) : Option (Json × List Char) := do
  let (whole, rest) ← whole? cs
  let (fraction, rest) ← fraction? rest
  let (exponent, rest) ← exponent? rest
  let magnitude : Int := natOfDigits whole
  if fraction.isEmpty && exponent.isNone && !(negative && magnitude == 0) then
    some (.int (if negative then -magnitude else magnitude), rest)
  else
    some (.decimal ⟨negative, whole, fraction, exponent.getD 0⟩, rest)

/-! ### Strings -/

/-- The value of a hexadecimal digit of either case. -/
def hexValue? (c : Char) : Option Nat :=
  if '0' ≤ c ∧ c ≤ '9' then some (c.toNat - '0'.toNat)
  else if 'a' ≤ c ∧ c ≤ 'f' then some (c.toNat - 'a'.toNat + 10)
  else if 'A' ≤ c ∧ c ≤ 'F' then some (c.toNat - 'A'.toNat + 10)
  else none

/-- Four hexadecimal digits as a number. -/
def unit? (a b c d : Char) : Option Nat := do
  let a ← hexValue? a
  let b ← hexValue? b
  let c ← hexValue? c
  let d ← hexValue? d
  some (((a * 16 + b) * 16 + c) * 16 + d)

/-- A piece of a quoted string. -/
inductive Piece
  | char (c : Char)
  /-- A 16-bit unit that is half of a character. -/
  | surrogate (unit : Nat)

namespace Piece

/-- The piece of a 16-bit unit. -/
def ofUnit (unit : Nat) : Piece :=
  if 0xD800 ≤ unit ∧ unit < 0xE000 then surrogate unit else char (Char.ofNat unit)

/-- The character of a high surrogate followed by a low one. -/
def pair? (high low : Nat) : Option Char :=
  if high < 0xDC00 ∧ 0xDC00 ≤ low then
    some (Char.ofNat (0x10000 + (high - 0xD800) * 0x400 + (low - 0xDC00)))
  else
    none

/-- The characters of some pieces, in which every surrogate has to be half of a pair. -/
def characters? : List Piece → Option (List Char)
  | [] => some []
  | char c :: rest => (characters? rest).map (c :: ·)
  | surrogate high :: surrogate low :: rest => do
    let c ← pair? high low
    let more ← characters? rest
    some (c :: more)
  | [surrogate _] => none
  | surrogate _ :: char _ :: _ => none

/-- The document of a string, given its pieces. -/
def document (pieces : List Piece) : Json :=
  match characters? pieces with
  | some cs => .str (String.ofList cs)
  | none => .unreadable

end Piece

/-- The characters that a backslash and one letter stand for. -/
def shortEscape? (c : Char) : Option Char :=
  if c = '"' || c = '\\' || c = '/' then some c
  else if c = 'b' then some '\x08'
  else if c = 'f' then some '\x0c'
  else if c = 'n' then some '\n'
  else if c = 'r' then some '\r'
  else if c = 't' then some '\t'
  else none

/-- The rest of a string after its opening quotation mark; `seen` are the pieces so far, the last
one first. -/
def stringBody? (seen : List Piece) : List Char → Option (Json × List Char)
  | [] => none
  | '"' :: rest => some (Piece.document seen.reverse, rest)
  | '\\' :: 'u' :: a :: b :: c :: d :: rest =>
    match unit? a b c d with
    | some unit => stringBody? (Piece.ofUnit unit :: seen) rest
    | none => none
  | '\\' :: c :: rest =>
    match shortEscape? c with
    | some plain => stringBody? (.char plain :: seen) rest
    | none => none
  | c :: rest => if c.toNat < 0x20 || c = '\\' then none else stringBody? (.char c :: seen) rest

/-! ### Tokens -/

/-- The three words of JSON. -/
def word? (cs : List Char) : Option (Json × List Char) :=
  match cs with
  | 'n' :: 'u' :: 'l' :: 'l' :: rest => some (.null, rest)
  | 't' :: 'r' :: 'u' :: 'e' :: rest => some (.bool true, rest)
  | 'f' :: 'a' :: 'l' :: 's' :: 'e' :: rest => some (.bool false, rest)
  | _ => none

/-- The single characters that are tokens. -/
def mark? (c : Char) : Option Token :=
  if c = '[' then some .openList
  else if c = ']' then some .closeList
  else if c = '\x7b' then some .openObject
  else if c = '\x7d' then some .closeObject
  else if c = ',' then some .comma
  else if c = ':' then some .colon
  else none

/-- A blank between tokens. -/
def isBlank (c : Char) : Bool :=
  c = ' ' || c = '\t' || c = '\n' || c = '\r'

/-- A scalar that starts with `c`. -/
def scalar? (c : Char) (rest : List Char) : Option (Json × List Char) :=
  if c = '"' then stringBody? [] rest
  else if c = '-' then number? true rest
  else if (digit? c).isSome then number? false (c :: rest)
  else word? (c :: rest)

/-- Cuts a text into tokens. Each round takes at least one character, so the number of
characters bounds the rounds. -/
def scanWithin (rounds : Nat) (seen : List Token) (cs : List Char) : Option (List Token) :=
  match rounds, cs with
  | _, [] => some seen.reverse
  | 0, _ :: _ => none
  | rounds + 1, c :: rest =>
    if isBlank c then
      scanWithin rounds seen rest
    else
      match mark? c with
      | some mark => scanWithin rounds (mark :: seen) rest
      | none =>
        match scalar? c rest with
        | some (value, after) => scanWithin rounds (.scalar value :: seen) after
        | none => none

/-- The tokens of a text. -/
def scan? (text : String) : Option (List Token) :=
  scanWithin text.length [] text.toList

end Token

/-! ### The machine -/

/-- A container that is still open, its last item first. A name is none where it holds half a
character. -/
inductive Frame
  | list (items : List Json)
  | object (members : List (Option String × Json)) (name : Option String)

/-- What the reader expects next, with the open containers around it. -/
inductive Machine
  /-- A value. -/
  | atValue (stack : List Frame)
  /-- A value, or the end of the list just opened. -/
  | atFirstItem (stack : List Frame)
  /-- A member's name, or the end of the object just opened. -/
  | atFirstName (stack : List Frame)
  /-- A member's name after a comma. -/
  | atName (members : List (Option String × Json)) (stack : List Frame)
  /-- The colon after a name. -/
  | atColon (name : Option String) (members : List (Option String × Json)) (stack : List Frame)
  /-- A comma or the end of the innermost container, after a complete value. -/
  | afterValue (value : Json) (stack : List Frame)

namespace Machine

/-- How many containers may stand inside of each other. -/
def maxDepth : Nat := 127

/-- A container inside of the open ones. -/
def inside (stack : List Frame) (container : Json) : Json :=
  if (stack.drop (maxDepth - 1)).isEmpty then container else .unreadable

/-- The object of some members, the last one first. -/
def object (members : List (Option String × Json)) : Json :=
  match members.reverse.mapM fun (name, value) => name.map (·, value) with
  | some members => .obj members
  | none => .unreadable

/-- A name, if the scalar is one. -/
def name? : Json → Option (Option String)
  | .str name => some (some name)
  | .unreadable => some none
  | _ => none

/-- Opens a container or takes a scalar. -/
def begin? (stack : List Frame) : Token → Option Machine
  | .openList => some (.atFirstItem stack)
  | .openObject => some (.atFirstName stack)
  | .scalar value => some (.afterValue value stack)
  | _ => none

/-- Takes a member's name. -/
def beginMember? (members : List (Option String × Json)) (stack : List Frame) :
    Token → Option Machine
  | .scalar value => (name? value).map (.atColon · members stack)
  | _ => none

/-- A complete value inside its innermost container. -/
def continue? (value : Json) : List Frame → Token → Option Machine
  | .list items :: stack, .comma => some (.atValue (.list (value :: items) :: stack))
  | .list items :: stack, .closeList =>
    some (.afterValue (inside stack (.arr (value :: items).reverse)) stack)
  | .object members name :: stack, .comma => some (.atName ((name, value) :: members) stack)
  | .object members name :: stack, .closeObject =>
    some (.afterValue (inside stack (object ((name, value) :: members))) stack)
  | _, _ => none

/-- Consumes one token. -/
def step? : Machine → Token → Option Machine
  | .atValue stack, token => begin? stack token
  | .atFirstItem stack, .closeList => some (.afterValue (inside stack (.arr [])) stack)
  | .atFirstItem stack, token => begin? (.list [] :: stack) token
  | .atFirstName stack, .closeObject => some (.afterValue (inside stack (.obj [])) stack)
  | .atFirstName stack, token => beginMember? [] stack token
  | .atName members stack, token => beginMember? members stack token
  | .atColon name members stack, .colon => some (.atValue (.object members name :: stack))
  | .atColon _ _ _, _ => none
  | .afterValue value stack, token => continue? value stack token

/-- The document, once nothing is open. -/
def result? : Machine → Option Json
  | .afterValue value [] => some value
  | _ => none

end Machine

/-- Reads a text as one **document**, kept as it was written. -/
def Json.document? (text : String) : Option Json := do
  let tokens ← Token.scan? text
  let final ← tokens.foldlM Machine.step? (.atValue [])
  final.result?

/-- Reads a text as the value of one document. -/
def Json.read? (text : String) : Option Json :=
  (Json.document? text).bind Json.value?

end GeoPlacement
