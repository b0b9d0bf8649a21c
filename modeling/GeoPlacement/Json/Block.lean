import GeoPlacement.Json.Printer

/-!
# Block text of a document

`Json.block` writes a document as YAML in block style, one scalar a line. The members of an object
stand below its name, two blanks further in; the items of a list follow a hyphen and are not
moved in. An empty object or list is written with its brackets, and a string without quotation
marks where it reads back as the same string.
-/

namespace GeoPlacement

namespace Block

/-- The strings that stand for another value when they are not quoted. -/
def reservedWords : List String :=
  ["null", "true", "false", "yes", "no", "on", "off", "y", "n"]

/-- Whether a plain string may begin so. -/
def mayBegin (c : Char) : Bool :=
  c.isAlpha || c == '.' || c == '/' || c == '_'

/-- Whether a character may stand in a plain string, given the one after it. -/
def mayFollow (c : Char) (next : Option Char) : Bool :=
  if c = ':' then next.any (· != ' ')
  else if c = ' ' then next.any fun d => d != ' ' && d != '#'
  else 0x20 < c.toNat && c.toNat < 0x7f

/-- Whether all characters may stand where they are. -/
def allPlain : List Char → Bool
  | [] => true
  | c :: rest => mayFollow c rest.head? && allPlain rest

/-- Whether a string that begins with a point is a number or its like. -/
def looksNumeric : List Char → Bool
  | '.' :: c :: _ => c.isDigit || c == 'i' || c == 'I' || c == 'n' || c == 'N'
  | '.' :: [] => true
  | _ => false

/-- Whether a string reads back as itself without quotation marks. -/
def isPlain (text : String) : Bool :=
  let cs := text.toList
  cs.head?.any mayBegin && allPlain cs && !looksNumeric cs &&
    !reservedWords.contains (text.map Char.toLower)

/-- A string in the text. -/
def string (text : String) : String :=
  if isPlain text then text else Json.quote text

/-- The lines of an item, the first of them after a hyphen. -/
def hang : List String → List String
  | [] => []
  | first :: rest => ("- " ++ first) :: rest.map ("  " ++ ·)

/-- Moves lines in. -/
def indent (lines : List String) : List String :=
  lines.map ("  " ++ ·)

mutual

/-- The lines of a document. -/
def lines : Json → List String
  | .str text => [string text]
  | .arr [] => ["[]"]
  | .arr (item :: rest) => itemLines (item :: rest)
  | .obj [] => ["\x7b\x7d"]
  | .obj (head :: rest) => memberLines (head :: rest)
  | value => [value.compact]

/-- The lines of the items of a list. -/
def itemLines : List Json → List String
  | [] => []
  | item :: rest => hang (lines item) ++ itemLines rest

/-- The lines of the members of an object. -/
def memberLines : List (String × Json) → List String
  | [] => []
  | (name, value) :: rest =>
    let below := lines value
    let head := match value with
      | .obj (_ :: _) => (string name ++ ":") :: indent below
      | .arr (_ :: _) => (string name ++ ":") :: below
      | _ => below.map ((string name ++ ": ") ++ ·)
    head ++ memberLines rest

end

end Block

/-- The **block text** of a document, each line ended. -/
def Json.block (value : Json) : String :=
  String.join ((Block.lines value).map (· ++ "\n"))

end GeoPlacement
