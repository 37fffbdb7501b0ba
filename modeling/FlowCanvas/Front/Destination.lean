import FlowCanvas.Front.Address

/-!
# Destinations

Where the address of a request leads. An address that names an impossible site leads nowhere, and
so does one whose host has labels that cannot be decoded. A host that is written with other signs
than those of names is not looked at: the request is answered as if it named none.
-/

namespace FlowCanvas.Front

open Text

/-- Where a request goes: the scheme, the site in ASCII, the decoded path, and the query as it is
written. -/
structure Destination where
  scheme : List Char
  site : List Char
  path : List Char
  query : List Char

namespace Destination

/-! ### Finding a destination -/

/-- Where an address leads. The client takes it apart, and the transport does so again with the path
and query, and once more with the path alone: so a path that starts with two slashes of its own
loses another site, and in a third one the site is put in ASCII. Without a site the request goes to
this machine. -/
def ofAddress (address : String) : Except Obstacle Destination := do
  let outer ← Location.ofText? address.toList
  let located ← Location.ofText? outer.inner
  let path ← (← Location.ofText? located.path).asPath
  let named := if outer.site.isEmpty then "localhost".toList else outer.site
  let site ← (Host.Site.ofText named).encode
  match Host.Site.fault? site with
  | some f => .error f
  | none =>
    return {
      scheme := if outer.scheme.isEmpty then "http".toList else outer.scheme
      site, path := unescape path, query := located.query }

/-- The channel that a scheme implies, with its colon. -/
def impliedChannel (scheme : String) : List Char :=
  if scheme = "http" ∨ scheme = "ws" then ":80".toList
  else if scheme = "https" ∨ scheme = "wss" then ":443".toList
  else []

/-- Does the scheme ask for a connection that stays open? -/
def staysOpen (d : Destination) : Bool :=
  d.scheme == "ws".toList || d.scheme == "wss".toList

/-! ### Hosts -/

/-- Is this nothing, or a colon and a number that does not start with zero? -/
def isChannel : List Char → Bool
  | [] => true
  | c :: digits =>
    c == ':' && !digits.isEmpty && digits.head? != some '0' && digits.all Number.isDigit

/-- Is this the name of a host, with letters, figures, points and hyphens only, or a host's number
in brackets? A channel may follow. -/
def isHost : List Char → Bool
  | '[' :: rest =>
    let number := cutAt ']' rest
    let front := cutAt ':' number.1
    number.1.contains ':' && front.1.all Host.isHexDigit && !front.2.isEmpty &&
      (front.2.all fun c ↦ Host.isHexDigit c || c == '.' || c == ':') &&
      rest.contains ']' && isChannel number.2
  | cs =>
    let name := cs.takeWhile (· ≠ ':')
    !name.isEmpty && (name.all fun c ↦ c.isAlphanum || c == '.' || c == '-') &&
      isChannel (cs.drop name.length)

/-- The host of a destination and its channel, unless the scheme implies that channel. Nothing if
the site has other parts or other signs. -/
def host (d : Destination) : List Char :=
  let channel := impliedChannel (String.ofList d.scheme)
  let named :=
    if channel.isSuffixOf d.site then d.site.take (d.site.length - channel.length) else d.site
  if isHost named then named else []

/-- Why nothing can be sent to a destination, if nothing can. The name of its host must decode to
one. -/
def fault? (d : Destination) : Option Obstacle :=
  let site := Host.Site.ofText d.host
  match Host.decodeName site.name with
  | .error f => some f
  | .ok name =>
    Host.Site.signFault? (name ++ if site.channel.isEmpty then [] else ':' :: site.channel)

/-- Is the name of the host one that the service does not answer under, since some label is
empty? -/
def isRefused (d : Destination) : Bool := (Host.plainFault? (cutAt ':' d.host).1).isSome

end Destination

end FlowCanvas.Front
