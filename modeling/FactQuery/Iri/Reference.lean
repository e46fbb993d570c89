import FactQuery.Iri.Host

/-!
# References and their resolution

A reference has a scheme, an authority, a path with parameters, a query and a fragment, each of
which may be missing.  A relative reference is resolved against a base: what it lacks comes from the
base, its path continues the directory of the base, and the segments `.` and `..` are worked off.

Only schemes with a hierarchy of paths are resolved; for any other scheme, and for a reference with
a scheme other than the base's, the reference stands as it is.
-/

set_option autoImplicit false

namespace FactQuery.Iri

open FactQuery.Text

/-- The parts of a reference.  A missing part is empty. -/
structure Reference where
  scheme : List Char
  authority : List Char
  path : List Char
  parameters : List Char
  query : List Char
  fragment : List Char
  deriving DecidableEq, Repr

/-- The schemes whose references are resolved.  The empty name stands for a missing scheme. -/
def hierarchicalSchemes : List String :=
  ["", "ftp", "http", "gopher", "nntp", "imap", "wais", "file", "https", "shttp", "mms",
    "prospero", "rtsp", "rtspu", "sftp", "svn", "svn+ssh", "ws", "wss"]

def parameterSchemes : List String :=
  ["", "ftp", "hdl", "prospero", "http", "imap", "https", "shttp", "rtsp", "rtspu", "sip",
    "sips", "mms", "sftp", "tel"]

namespace Reference

def isSchemeChar (c : Char) : Bool :=
  c.isAlphanum || c == '+' || c == '-' || c == '.'

def splitScheme (text : List Char) : Option (List Char × List Char) :=
  match cut ':' text with
  | (scheme, some behind) =>
    if scheme.head?.any Char.isAlpha && scheme.all isSchemeChar then
      some (scheme.map Char.toLower, behind)
    else none
  | (_, none) => none

def splitAuthority : List Char → List Char × List Char
  | '/' :: '/' :: rest =>
    let inside := fun c => !(c == '/' || c == '?' || c == '#')
    (rest.takeWhile inside, rest.dropWhile inside)
  | text => ([], text)

def splitParameters (path : List Char) : List Char × List Char :=
  let directory := ((path.reverse.dropWhile (· != '/'))).reverse
  let segment := path.drop directory.length
  match cut ';' segment with
  | (name, some parameters) => (directory ++ name, parameters)
  | (_, none) => (path, [])

/-- A reference without the controls and spaces at its front and without tabs and line ends. -/
def clean (text : List Char) : List Char :=
  (text.dropWhile fun c => c.toNat ≤ 0x20).filter fun c =>
    !(c == '\t' || c == '\r' || c == '\n')

def parse (scheme : List Char) (text : List Char) : Except AuthorityError Reference := do
  let (scheme, rest) := (splitScheme (clean text)).getD (scheme, clean text)
  let (authority, rest) := splitAuthority rest
  checkBrackets authority
  let (rest, fragment) := cut '#' rest
  let (path, query) := cut '?' rest
  checkDeceptive authority
  let (path, parameters) :=
    if parameterSchemes.contains (String.ofList scheme) then splitParameters path else (path, [])
  return ⟨scheme, authority, path, parameters, query.getD [], fragment.getD []⟩

/-- A part with its delimiter in front, or nothing where the part is missing. -/
def behind (delimiter : Char) (part : List Char) : List Char :=
  if part.isEmpty then [] else delimiter :: part

def slashesTwice : List Char → Bool
  | '/' :: '/' :: _ => true
  | _ => false

/-- The text of a reference whose scheme has a hierarchy.  An empty authority is written behind a
scheme, unless the path begins with two slashes of its own. -/
def write (reference : Reference) : List Char :=
  let path := reference.path ++ behind ';' reference.parameters
  let hasAuthority :=
    !reference.authority.isEmpty || (!reference.scheme.isEmpty && !slashesTwice path)
  let rooted := if path.isEmpty || path.head? == some '/' then path else '/' :: path
  let location := if hasAuthority then '/' :: '/' :: reference.authority ++ rooted else path
  let scheme := if reference.scheme.isEmpty then [] else reference.scheme ++ [':']
  scheme ++ location ++ behind '?' reference.query ++ behind '#' reference.fragment

/-- The segments of a path without its file, as a relative path continues them. -/
def directory (path : List Char) : List (List Char) :=
  let segments := pieces '/' path
  if segments.getLast? == some [] then segments else segments.dropLast

def dropInnerEmpty (segments : List (List Char)) : List (List Char) :=
  match segments with
  | [] => []
  | first :: others =>
    first :: (others.dropLast.filter fun segment => !segment.isEmpty) ++ others.getLast?.toList

/-- The segment `.` stays in place and `..` leaves the last segment, if there is one. -/
def walk (segments : List (List Char)) : List (List Char) :=
  segments.foldl (fun passed segment =>
    if segment == ['.', '.'] then passed.dropLast
    else if segment == ['.'] then passed
    else passed ++ [segment]) []

/-- The path that segments lead to.  A path that ends in `.` or `..` names a directory. -/
def pathOf (segments : List (List Char)) : List Char :=
  let atDirectory := segments.getLast?.any fun last => last == ['.'] || last == ['.', '.']
  let path := List.intercalate ['/'] (walk segments ++ if atDirectory then [[]] else [])
  if path.isEmpty then ['/'] else path

def mergePaths (base path : List Char) : List Char :=
  if path.head? == some '/' then pathOf (pieces '/' path)
  else pathOf (dropInnerEmpty (directory base ++ pieces '/' path))

/-- A reference with the parts it lacks taken from its base. -/
def against (base reference : Reference) : Reference :=
  if !reference.authority.isEmpty then reference
  else if reference.path.isEmpty && reference.parameters.isEmpty then
    { reference with
      authority := base.authority
      path := base.path
      parameters := base.parameters
      query := if reference.query.isEmpty then base.query else reference.query }
  else
    { reference with
      authority := base.authority
      path := mergePaths base.path reference.path }

end Reference

def resolve (base reference : String) : Except AuthorityError String :=
  if base.isEmpty then .ok reference
  else if reference.isEmpty then .ok base
  else do
    let start ← Reference.parse [] base.toList
    let target ← Reference.parse start.scheme reference.toList
    if target.scheme != start.scheme then return reference
    if !hierarchicalSchemes.contains (String.ofList target.scheme) then return reference
    return String.ofList (start.against target).write

/-- A reference is relative unless a colon stands in front of its first slash. -/
def isRelative (reference : String) : Bool :=
  !((cut '/' reference.toList).1).contains ':'

def resolveWith (base : Option String) (reference : String) : Except AuthorityError String :=
  match base with
  | some base =>
    if !base.isEmpty && isRelative reference then resolve base reference else .ok reference
  | none => .ok reference

end FactQuery.Iri
