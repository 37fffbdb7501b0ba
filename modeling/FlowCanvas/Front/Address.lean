import FlowCanvas.Front.Host.Site
import FlowCanvas.Front.Text.Encoding

/-!
# Addresses of requests

The address of a request is a path and a query; a scheme and a site may stand in front, and white
space is taken out where none can be. Percent escapes stand for the bytes of UTF-8 text, in which
malformed sequences are replaced; an escape without two hexadecimal digits stands for itself. A
path is cut into segments after decoding, a query into its parameters before.
-/

namespace FlowCanvas.Front

open Text

/-! ### Bytes and text -/

/-- The bytes of a text in which percent escapes are bytes. -/
def percentDecode : List Char → List Nat
  | [] => []
  | '%' :: a :: b :: rest =>
    match hexDigit? a, hexDigit? b with
    | some x, some y => (16 * x + y) :: percentDecode rest
    | _, _ => 37 :: percentDecode (a :: b :: rest)
  | c :: rest => utf8Bytes c ++ percentDecode rest

/-- A text with its percent escapes read. -/
def unescape (cs : List Char) : List Char := utf8Decode (percentDecode cs)

/-! ### Locations -/

/-- An address in its parts. What is missing is empty. -/
structure Location where
  scheme : List Char
  site : List Char
  path : List Char
  query : List Char

/-- Takes blanks and control characters off the front, and tabs and line breaks out of the
whole. -/
def clean (cs : List Char) : List Char :=
  (cs.dropWhile fun c ↦ decide (c.toNat ≤ 0x20)).filter fun c ↦
    c ≠ '\t' && c ≠ '\n' && c ≠ '\r'

/-- May the character stand in the name of a scheme? -/
def isSchemeChar (c : Char) : Bool := c.isAlphanum || c == '+' || c == '-' || c == '.'

/-- The scheme of an address in lower case, and what follows it. Its name starts with a letter and
ends with a colon. -/
def takeScheme (cs : List Char) : List Char × List Char :=
  let scheme := cs.takeWhile (· ≠ ':')
  match scheme, cs.drop scheme.length with
  | first :: _, _ :: rest =>
    if first.isAlpha && scheme.all isSchemeChar then (scheme.map Char.toLower, rest) else ([], cs)
  | _, _ => ([], cs)

/-- The site of an address, and what follows it. A site stands behind two slashes at the front. -/
def takeSite : List Char → List Char × List Char
  | '/' :: '/' :: rest =>
    (rest.takeWhile fun c ↦ c ≠ '/' && c ≠ '?', rest.dropWhile fun c ↦ c ≠ '/' && c ≠ '?')
  | cs => ([], cs)

namespace Location

/-- The parts of an address. What follows a number sign is left out. -/
def ofText (cs : List Char) : Location :=
  let named := takeScheme (cutAt '#' (clean cs)).1
  let placed := takeSite named.2
  let located := cutAt '?' placed.2
  ⟨named.1, placed.1, located.1, located.2⟩

/-- The parts of an address, if its site can be one. -/
def ofText? (cs : List Char) : Except Obstacle Location :=
  let l := ofText cs
  match Host.Site.fault? l.site with
  | some f => .error f
  | none => .ok l

/-- The path and the query of a location as an address of its own. -/
def inner (l : Location) : List Char :=
  l.path ++ (if l.query.isEmpty then [] else '?' :: l.query)

/-- A location without a query as a path, with its site in ASCII. A path with two slashes at the
front has a site before it, which may be empty. -/
def asPath (l : Location) : Except Obstacle (List Char) := do
  let site ← (Host.Site.ofText l.site).encode
  let placed :=
    if site.isEmpty && !"//".toList.isPrefixOf l.path then l.path
    else '/' :: '/' :: (site ++ l.path)
  return if l.scheme.isEmpty then placed else l.scheme ++ ':' :: placed

end Location

/-! ### Paths and queries -/

/-- The segments of a decoded path. How many slashes it starts with does not matter. -/
def segments (path : List Char) : List String :=
  (splitOn '/' (path.dropWhile (· = '/'))).map String.ofList

/-- Makes one slash of every run of slashes. -/
def mergeSlashes : List Char → List Char
  | [] => []
  | c :: rest =>
    if c = '/' ∧ rest.head? = some '/' then mergeSlashes rest else c :: mergeSlashes rest

/-- Reads a name or value of a query, in which a plus sign is a blank. -/
def queryText (cs : List Char) : String :=
  String.ofList (unescape (cs.map fun c ↦ if c = '+' then ' ' else c))

/-- The parameters of a query, in order. -/
def parameters (query : List Char) : List (String × String) :=
  ((splitOn '&' query).filter (!·.isEmpty)).map fun part ↦
    let pair := cutAt '=' part
    (queryText pair.1, queryText pair.2)

/-- The first parameter of a name. -/
def parameter? (query : List Char) (name : String) : Option String :=
  ((parameters query).find? (·.1 = name)).map Prod.snd

end FlowCanvas.Front
