/-!
# Locations

Where on a server a request goes. The location of a request is written as one text: a path and,
after a question mark, parameters separated by ampersands. A name or a namespace is put into that
text as it stands, so that a question mark in a name begins the parameters and a hash sign ends the
location. `Location.read?` says where the text leads; not every text leads somewhere.
-/

namespace GeoPlacement

/-- A **location** on a server. -/
structure Location where
  path : String
  /-- The parameters as they are sent, the empty ones left out. -/
  query : List String := []
deriving Repr, DecidableEq

namespace Location

/-- The greatest size of the text of a location in bytes. -/
def maxSize : Nat := 65534

/-- Whether a character may stand in a path. -/
def isPathChar (c : Char) : Bool :=
  ' ' < c && c != '<' && c != '>' && c != '\x60'

/-- Whether a character may stand in the parameters. -/
def isQueryChar (c : Char) : Bool :=
  ' ' < c && c != '<' && c != '>' && c != '"'

/-- The parameters that follow a path. -/
def parameters : List Char → List Char
  | '?' :: rest => rest.takeWhile (· != '#')
  | _ => []

/-- Reads the text of a location. What follows a hash sign is no part of it. -/
def read? (text : String) : Option Location :=
  if maxSize < text.utf8ByteSize then none
  else
    let (path, rest) := text.toList.span fun c => c != '?' && c != '#'
    let query := parameters rest
    if path.all isPathChar && query.all isQueryChar then
      some {
        path := String.ofList path
        query := ((query.splitOn '&').filter (!·.isEmpty)).map String.ofList }
    else none

end Location

end GeoPlacement
