import FlowCanvas.Front.Json.Reader
import FlowCanvas.Front.Obstacle
import FlowCanvas.Service.Payload
import FlowCanvas.Text.Blank
import FlowCanvas.Text.Case

/-!
# Content of requests

What a client sends along with a request, and what its body is read as. A body is JSON if its media
type says so and its text, in whichever Unicode encoding, is JSON; how deep arrays and objects may be
nested in it is supplied.
-/

namespace FlowCanvas

/-! ### Nesting -/

namespace Json

mutual

/-- The first container that lies too deep in others, if there is one. -/
def tooDeep? (room : Nat) : Json → Option Shape
  | arr items =>
    match room with
    | 0 => some .arr
    | room + 1 => itemTooDeep? room items
  | obj members =>
    match room with
    | 0 => some .obj
    | room + 1 => memberTooDeep? room members
  | _ => none

/-- The first container among items that lies too deep. -/
def itemTooDeep? (room : Nat) : List Json → Option Shape
  | [] => none
  | v :: rest =>
    match tooDeep? room v with
    | some container => some container
    | none => itemTooDeep? room rest

/-- The first container among members that lies too deep. -/
def memberTooDeep? (room : Nat) : List (String × Json) → Option Shape
  | [] => none
  | (_, v) :: rest =>
    match tooDeep? room v with
    | some container => some container
    | none => memberTooDeep? room rest

end

end Json

namespace Front

/-! ### Content -/

/-- What a client sends along. -/
inductive Content where
  /-- No content. -/
  | none
  /-- A value sent as JSON. -/
  | value (v : Json)
  /-- Text of some media type. -/
  | text (s mediaType : String)

/-- Is the character white space in a header? -/
def isHeaderBlank (c : Char) : Bool := c == ' ' || c == '\t'

/-- Does a media type, without its parameters, say JSON? -/
def isJsonType (mediaType : String) : Bool :=
  let t := (Text.trim isHeaderBlank (mediaType.toList.takeWhile (· ≠ ';'))).map Text.lowerChar
  t == "application/json".toList ||
    ("application/".toList.isPrefixOf t && "+json".toList.isSuffixOf t)

/-- The fault of a container that lies too deep to be read. -/
def tooDeep (container : Json.Shape) : Fault :=
  .tooDeep (" while decoding a JSON " ++ (if container = .arr then "array" else "object") ++
    " from a unicode string")

/-- The text of a body. Its bytes may be in another encoding than that of the request, and in UTF-8
a byte order mark may stand before the text. -/
def bodyText? (s : String) : Option (List Char) :=
  match s.toList with
  | '\uFEFF' :: rest => some rest
  | cs =>
    let bytes := cs.flatMap Text.utf8Bytes
    (Text.Encoding.ofBytes bytes).decode? bytes

/-- Reads the text of a body, in which arrays and objects may be nested so deep; none if it is not
JSON. -/
def readBody (nesting : Nat) (s : String) : Service.Content :=
  match bodyText? s with
  | none => .ok none
  | some cs =>
    match Json.read nesting cs with
    | .ok v => .ok (some v)
    | .error .malformed => .ok none
    | .error (.tooDeep container) => .error (tooDeep container)

/-- The JSON value of some content, if it has one. A value sent as JSON is read from its text, too,
but its text is JSON. -/
def Content.read (nesting : Nat) : Content → Service.Content
  | none => .ok .none
  | value v =>
    match v.tooDeep? nesting with
    | .none => .ok (some v)
    | some container => .error (tooDeep container)
  | text s mediaType => if isJsonType mediaType then readBody nesting s else .ok .none

/-- Why some content cannot be sent, if it cannot. -/
def Content.fault? : Content → Option Obstacle
  | text _ mediaType =>
    if mediaType.toList.any fun c ↦ c = '\r' || c = '\n' then some .brokenHeader else Option.none
  | _ => Option.none

end Front

end FlowCanvas
