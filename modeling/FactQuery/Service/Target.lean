import FactQuery.Text.PercentCode
import FactQuery.Text.Pieces

/-!
# Targets of requests

A request is sent to a reference: a path, or a whole address of which only the path and the query
count.  The path is that of one service, so it begins with a single slash, and its segments `.` and
`..` are worked off before any percent code is decoded.  Then its percent codes are decoded twice,
once on the way and once on arrival.  The query is a list of fields.
-/

set_option autoImplicit false

namespace FactQuery.Service

open FactQuery.Text

/-- A path and a query, with their percent codes. -/
structure Target where
  path : List Char
  query : List Char
  deriving DecidableEq, Repr

namespace Target

/-! ## References -/

/-- Whether a text begins with a scheme, and the text behind its colon.  A scheme may be empty. -/
def splitScheme (text : List Char) : Bool × List Char :=
  match cut ':' text with
  | (scheme, some behind) =>
    let isSchemeChar := fun c : Char => c.isAlphanum || c == '+' || c == '-' || c == '.'
    if scheme.head?.all Char.isAlpha && scheme.all isSchemeChar then (!scheme.isEmpty, behind)
    else (false, text)
  | (_, none) => (false, text)

/-- The authority behind two slashes, and the text behind it. -/
def splitAuthority (text : List Char) : List Char × List Char :=
  match text with
  | '/' :: '/' :: rest =>
    let inside := fun c : Char => !(c == '/' || c == '?' || c == '#')
    (rest.takeWhile inside, rest.dropWhile inside)
  | _ => ([], text)

/-- Segments with `.` and `..` worked off.  Nothing leads above the empty segment at the front. -/
def walkSegments (passed : List (List Char)) : List (List Char) → List (List Char)
  | [] => passed
  | segment :: others =>
    if segment == ['.'] then walkSegments passed others
    else if segment == ['.', '.'] then
      walkSegments (if passed == [[]] then passed else passed.dropLast) others
    else walkSegments (passed ++ [segment]) others

def walkPath (path : List Char) : List Char :=
  List.intercalate ['/'] (walkSegments [] (pieces '/' path))

def orRoot (path : List Char) : List Char :=
  if path.isEmpty then ['/'] else path

def isControl (c : Char) : Bool :=
  c.toNat < 0x20 || c.toNat == 0x7f

/-- Whether a path can stand where there is no authority, and perhaps no scheme. -/
def isPlainPath (hasScheme : Bool) : List Char → Bool
  | '/' :: '/' :: _ => hasScheme
  | ':' :: _ => hasScheme
  | _ => true

/-- The target that a reference names.  A whole address names a path as it stands. -/
def ofReference? (reference : String) : Option Target :=
  let text := reference.toList
  let (location, _) := cut '#' text
  let (address, query) := cut '?' location
  let (hasScheme, behind) := splitScheme address
  let (authority, path) := splitAuthority behind
  if text.any isControl || (authority.isEmpty && !isPlainPath hasScheme path) then none
  else
    let walked := if hasScheme || !authority.isEmpty then walkPath path else path
    let rooted :=
      if hasScheme && !authority.isEmpty then walked
      else walkPath ('/' :: walked.dropWhile (· == '/'))
    some ⟨orRoot rooted, query.getD []⟩

/-! ## Parameters -/

/-- A field with the texts that its name and its value stand for.  A plus sign stands for a space,
and a field without an equals sign has an empty value. -/
def fieldOf (field : List Char) : String × String :=
  let decode := fun text : List Char =>
    String.ofList (percentDecode (text.map fun c => if c == '+' then ' ' else c))
  let (name, value) := cut '=' field
  (decode name, decode (value.getD []))

def parameters (target : Target) : List (String × String) :=
  ((pieces '&' target.query).filter fun field => !field.isEmpty).map fieldOf

def parameter? (target : Target) (name : String) : Option String :=
  (target.parameters.reverse.find? (·.1 == name)).map Prod.snd

def queryOf (parameters : List (String × String)) : List Char :=
  let field := fun pair : String × String =>
    percentEncode pair.1.toList ++ '=' :: percentEncode pair.2.toList
  List.intercalate ['&'] (parameters.map field)

/-! ## Places -/

def place (target : Target) : List Char :=
  percentDecode (percentDecode target.path)

def withoutSlashes (text : List Char) : List Char :=
  (text.reverse.dropWhile (· == '/')).reverse

def again (target : Target) (place : List Char) : Target :=
  let (location, _) := cut '#' place
  let behind := if place == location && !target.query.isEmpty then '?' :: target.query else []
  let (path, query) := cut '?' (location ++ behind)
  ⟨orRoot (walkPath path), query.getD []⟩

/-- The target that is reached in the end.  A place that is known only without the slashes at its
end leads on to the place without them.  The number bounds how often this happens. -/
def settle? (known : List Char → Bool) : Nat → Target → Option Target
  | 0, _ => none
  | bound + 1, target =>
    let place := target.place
    let shorter := withoutSlashes place
    if known place || place == ['/'] || place == shorter then some target
    else if known shorter then settle? known bound (target.again shorter)
    else some target

end Target

end FactQuery.Service
