import FlowCanvas.Fault
import FlowCanvas.Front.Host.LabelFault

/-!
# Obstacles

What can keep a request from being sent at all, by cause, and the wording of each cause.
-/

namespace FlowCanvas.Front

/-- Why a request cannot be sent. -/
inductive Obstacle where
  /-- The media type of its content breaks the line of its header. -/
  | brokenHeader
  /-- A bracket of a site that has no counterpart, or does not enclose the host's name. -/
  | strayBracket
  /-- A host's number in a later notation that is malformed. -/
  | unreadableLaterNumber
  /-- A host's number in brackets that should stand without them. -/
  | bracketedDotted
  /-- A text in brackets that is not a host's number. -/
  | notHostNumber (text : String)
  /-- A site with a character that stands for a sign between the parts of an address. -/
  | hiddenSign (site : String)
  /-- A label that cannot be encoded. -/
  | unusableLabel (cause : Host.LabelFault)
  /-- A label that cannot be decoded. -/
  | unreadableLabel (cause : Host.LabelFault)
  /-- A label that decodes to a text which is encoded otherwise. -/
  | unstableLabel (label encoded : String)
  /-- The channel of a site that is not a number. -/
  | unreadableChannel (channel : String)
  /-- The channel of a site beyond the largest. -/
  | channelOutOfRange
  /-- A whole number with too many digits to be read. -/
  | tooManyDigits (count : Nat)

/-- The wording of an obstacle. -/
def Obstacle.message : Obstacle → String
  | brokenHeader => Fault.brokenHeader.message
  | strayBracket => "Invalid IPv6 URL"
  | unreadableLaterNumber => "IPvFuture address is invalid"
  | bracketedDotted => "An IPv4 address cannot be in brackets"
  | notHostNumber text =>
    Text.quoted text ++ " does not appear to be an IPv4 or IPv6 address"
  | hiddenSign site =>
    "netloc '" ++ site ++ "' contains invalid characters under NFKC normalization"
  | unusableLabel cause =>
    "encoding with 'idna' codec failed (UnicodeError: " ++ cause.message ++ ")"
  | unreadableLabel cause =>
    "decoding with 'idna' codec failed (UnicodeError: " ++ cause.message ++ ")"
  | unstableLabel label encoded =>
    "('IDNA does not round-trip', b" ++ Text.quoted label ++ ", b" ++ Text.quoted encoded ++ ")"
  | unreadableChannel channel =>
    "Port could not be cast to integer value as " ++ Text.quoted channel
  | channelOutOfRange => "Port out of range 0-65535"
  | tooManyDigits count =>
    "Exceeds the limit (4300 digits) for integer string conversion: value has " ++
      toString count ++ " digits; use sys.set_int_max_str_digits() to increase the limit"

end FlowCanvas.Front
