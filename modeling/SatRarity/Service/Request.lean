import SatRarity.Text.Blank
import SatRarity.Text.Percent

set_option autoImplicit false

/-! # Requests

A request has a method, a path in which nothing is encoded, a query, a body, and perhaps a content
type and the host of a client. Only local clients are served; a client without a host counts as one.
-/

namespace SatRarity.Service

open Text

/-- A request over HTTP. A body that is empty is none. -/
structure Request where
  method : String
  path : String
  query : String
  body : String
  contentType : Option String
  client : Option String
  deriving DecidableEq

namespace Request

def localHosts : List String := ["127.0.0.1", "::1", "testclient"]

/-- The host of the client, if it is not local. -/
def remoteHost? (r : Request) : Option String :=
  r.client.filter fun host => !localHosts.contains host

/-- The path as it is logged: as in a link, but without tabs and line ends. -/
def shownPath (r : Request) : String :=
  String.ofList ((linkPath r.path.toList).filter fun c => !(c == '\t' || c == '\n' || c == '\r'))

/-- A white space character of ASCII. -/
def isAsciiSpacing (c : Char) : Bool := isSpacing c && c.toNat < 0x80

/-- The media type of a content type: what stands before the parameters, in small letters. Only
white space of ASCII may stand around it. -/
def mediaType (contentType : String) : List Char :=
  (trim isAsciiSpacing (contentType.toList.takeWhile (· != ';'))).map Char.toLower

/-- The media type is `application/json`, or an `application` type with the suffix `+json`. -/
def isJsonType (contentType : String) : Bool :=
  let media := mediaType contentType
  match media.dropWhile (· != '/') with
  | '/' :: subtype =>
    media.takeWhile (· != '/') == "application".toList && !subtype.contains '/'
      && (subtype == "json".toList || "+json".toList.isSuffixOf subtype)
  | _ => false

def declaresJson (r : Request) : Bool := r.contentType.any isJsonType

end Request

end SatRarity.Service
