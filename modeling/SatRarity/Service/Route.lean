import SatRarity.Service.Request
import SatRarity.Text.Percent

set_option autoImplicit false

/-! # Routes

A path leads to at most one route, and every route has one method. A parameter is one segment of
the path that is not empty; it holds whatever the segment holds. A path without a parameter may end
with a line feed, which is not looked at.

Other paths lead to the pages about the service. A path that leads nowhere but would lead somewhere
without the slashes at its end is redirected.
-/

namespace SatRarity.Service

open Text

/-! ## Routes -/

/-- What a path leads to. -/
inductive Route
  | tiers
  | schedule
  | code (value : String)
  | tier (name : String)
  | derive
  deriving DecidableEq

namespace Route

/-- The only method of a route. -/
def method : Route → String
  | derive => "POST"
  | tiers | schedule | code _ | tier _ => "GET"

/-- The text after the given beginning, if that is one segment and not empty. -/
def segmentAfter? (beginning path : List Char) : Option String :=
  if beginning.isPrefixOf path then
    let segment := path.drop beginning.length
    if segment.isEmpty || segment.contains '/' then none else some (String.ofList segment)
  else none

/-- The path is the given one, a line feed at its end not counted. -/
def isPath (fixed path : String) : Bool := path == fixed || path == fixed ++ "\n"

/-- The route that a path leads to. -/
def ofPath? (path : String) : Option Route :=
  if isPath "/api/tiers" path then some .tiers
  else if isPath "/api/schedule" path then some .schedule
  else if isPath "/api/derive" path then some .derive
  else match segmentAfter? "/api/rarity/code/".toList path.toList with
    | some value => some (.code value)
    | none => (segmentAfter? "/api/rarity/".toList path.toList).map .tier

end Route

/-! ## Pages about the service -/

/-- A page about the service. -/
inductive Page
  /-- The description of the routes. -/
  | openapi
  | docs
  | oauth2Redirect
  | redoc
  deriving DecidableEq

namespace Page

def all : List Page := [openapi, docs, oauth2Redirect, redoc]

def path : Page → String
  | openapi => "/openapi.json"
  | docs => "/docs"
  | oauth2Redirect => "/docs/oauth2-redirect"
  | redoc => "/redoc"

/-- The methods of every page. -/
def methods : List String := ["GET", "HEAD"]

/-- The page that a path leads to. -/
def ofPath? (path : String) : Option Page := all.find? fun page => Route.isPath page.path path

end Page

/-! ## Redirections -/

namespace Route

/-- The path leads to a route or to a page about the service. -/
def isKnown (path : String) : Bool := (ofPath? path).isSome || (Page.ofPath? path).isSome

/-- The path without the slashes at its end, if it has some and leads somewhere without them. -/
def redirection? (path : String) : Option String :=
  let shorter := String.ofList (trimRight (· == '/') path.toList)
  if shorter != path && isKnown shorter then some shorter else none

end Route

/-- The link to a path of the service, with the query of the request that asked for it. -/
def link (path query : String) : String :=
  percentEncode ("http://testserver" ++ String.ofList (linkPath path.toList)
    ++ (if query.isEmpty then "" else "?" ++ query))

end SatRarity.Service
