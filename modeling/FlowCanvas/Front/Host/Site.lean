import FlowCanvas.Front.Host.Literal
import FlowCanvas.Front.Host.Name
import FlowCanvas.Front.Text.Encoding

/-!
# Sites

Where a request goes is written as a user and a password before an at sign, the name of a host or
its number in brackets, and the number of a channel behind a colon. All but the name may be missing,
and a user or a password may also be there and be empty. A request names its site in ASCII
(`Site.encode`).
-/

namespace FlowCanvas.Front.Host

/-- Where a request goes. A channel that is missing is empty. -/
structure Site where
  user : Option (List Char)
  password : Option (List Char)
  name : List Char
  channel : List Char

namespace Site

/-- The user and the password that stand before an at sign, if there is one. -/
def accountOf (cs : List Char) : Option (List Char) × Option (List Char) :=
  if cs.contains '@' then
    let text := (Text.cutAtLast '@' cs).1
    let parts := Text.cutAt ':' text
    (some parts.1, if text.contains ':' then some parts.2 else none)
  else (none, none)

/-- The parts of a site. A name in brackets ends with its bracket, and any other before a colon. -/
def ofText (cs : List Char) : Site :=
  let account := accountOf cs
  let place := (Text.cutAtLast '@' cs).2
  if place.contains '[' then
    let bracketed := Text.cutAt ']' (Text.cutAt '[' place).2
    ⟨account.1, account.2, bracketed.1, (Text.cutAt ':' bracketed.2).2⟩
  else
    let named := Text.cutAt ':' place
    ⟨account.1, account.2, named.1, named.2⟩

/-! ### What a site may be -/

/-- What is wrong with the brackets of a site. They come in pairs, enclose the whole name, and hold
a host's number. -/
def bracketFault? (cs : List Char) : Option Obstacle :=
  if cs.contains '[' != cs.contains ']' then some .strayBracket
  else if cs.contains '[' then
    let place := (Text.cutAtLast '@' cs).2
    if place.contains '[' then
      let after := (Text.cutAt ']' (Text.cutAt '[' place).2).2
      if place.head? != some '[' || !(after.isEmpty || after.head? == some ':') then
        some .strayBracket
      else literalFault? (ofText cs).name
    else literalFault? (ofText cs).name
  else none

/-- The characters beyond ASCII that stand for a sign which separates the parts of an address, or
for several signs with such a one among them. -/
def hiddenSigns : List Nat := [
  0x2047, 0x2048, 0x2049, 0x2100, 0x2101, 0x2105, 0x2106, 0x2A74, 0xFE13, 0xFE16, 0xFE55, 0xFE56,
  0xFE5F, 0xFE6B, 0xFF03, 0xFF0F, 0xFF1A, 0xFF1F, 0xFF20]

/-- Is there a hidden sign in a site? -/
def signFault? (cs : List Char) : Option Obstacle :=
  if cs.any fun c ↦ hiddenSigns.contains c.toNat then some (.hiddenSign (String.ofList cs))
  else none

/-- Why a text cannot be a site, if it cannot. -/
def fault? (cs : List Char) : Option Obstacle := (bracketFault? cs).or (signFault? cs)

/-! ### Sites in ASCII -/

/-- The number of a site's channel, if it names one. -/
def channelNumber? (s : Site) : Except Obstacle (Option Nat) :=
  let cs := s.channel
  if cs.isEmpty then .ok none
  else if cs.all Number.isDigit then
    if Number.digitLimit < cs.length then .error (.tooManyDigits cs.length)
    else if 0x10000 ≤ Number.ofDigits cs then .error .channelOutOfRange
    else .ok (some (Number.ofDigits cs))
  else .error (.unreadableChannel (String.ofList cs))

/-- Does a character of a user or a password stand for itself? -/
def isAccountChar (c : Char) : Bool :=
  c.isAlphanum || "_.-~%!$&'()*+,;=".toList.contains c

/-- A user or a password with escapes for the bytes of all other characters. -/
def escapeAccount (cs : List Char) : List Char :=
  cs.flatMap fun c ↦
    if isAccountChar c then [c]
    else (Text.utf8Bytes c).flatMap fun b ↦ '%' :: (Text.hex 2 b).toList.map Char.toUpper

/-- The user and password of a site in ASCII, with the at sign. Without a user there are none. -/
def account (s : Site) : List Char :=
  match s.user with
  | none => []
  | some user =>
    escapeAccount user ++ (s.password.elim [] fun p ↦ ':' :: escapeAccount p) ++ ['@']

/-- A name in lower case. Its zone keeps its case. -/
def lowered (name : List Char) : List Char :=
  (name.takeWhile (· ≠ '%')).map Text.lowerChar ++ name.dropWhile (· ≠ '%')

/-- A site in ASCII. -/
def encode (s : Site) : Except Obstacle (List Char) := do
  let name ← (encodeName (lowered s.name)).mapError .unusableLabel
  let channel ← s.channelNumber?
  return s.account ++ (if name.contains ':' then '[' :: name ++ [']'] else name) ++
    channel.elim [] fun n ↦ ':' :: (toString n).toList

end Site

end FlowCanvas.Front.Host
