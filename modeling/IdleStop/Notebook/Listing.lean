import IdleStop.Check.Action
import IdleStop.Http.Url
import IdleStop.Notebook.Session
import IdleStop.Notebook.Terminal
import IdleStop.Text.Parts
/-!
# Listings

The notebook server lists its sessions and its terminals, each at its own
path and as a JSON array. A listing is read whole or not at all: an answer
that is incomplete, reports no success, or has one item that cannot be read
is an error, never a shorter list.
-/

namespace IdleStop

open Json (Tree)

/-- What becomes of a request. -/
inductive Reply
  /-- The server cannot be reached. -/
  | unreachable
  /-- The server takes the request and closes the connection. -/
  | dropped
  /-- The server answers; the connection may end before the body does. -/
  | answer (status : Nat) (body : List UInt8) (complete : Bool)
  deriving DecidableEq, Repr

/-- What the notebook server lists. -/
inductive Listing
  | sessions
  | terminals
  deriving DecidableEq, Repr

namespace Listing

/-- Where a listing is found. -/
def path : Listing → String
  | sessions => "/api/sessions"
  | terminals => "/api/terminals"

/-- The noun for a listing in messages. -/
def noun : Listing → String
  | sessions => "kernel"
  | terminals => "terminal"

/-- The items of a listing that a text is, each as `item?` reads it. -/
def ofText? {α : Type} (item? : Tree → Option α) (text : String) : Option (List α) :=
  (Tree.parse? text).bind (Tree.list? item?)

/-- The text of an answer's body. Some answers have none, whatever is sent. -/
def bodyText? (status : Nat) (body : List UInt8) (complete : Bool) : Option String :=
  if Http.carriesBody status then
    if complete then some (Utf8.decodeLossy body) else none
  else some ""

/-- Fetches a listing from the server at an address. -/
def fetch {α : Type} (listing : Listing) (item? : Tree → Option α) (server : String)
    (reply : Reply) : Action (List α) := do
  let endpoint := server ++ listing.path
  let request := Event.call (.get listing.path)
  let failed {β : Type} (fault : TransportFault) : Action β :=
    Action.fail (.transport endpoint fault)
  match (Http.Url.parse? endpoint).map (·.anonymous) with
  | none =>
    Action.emit (request false)
    failed .badAddress
  | some url =>
    if url.isRequestable then
      match reply with
      | .unreachable =>
        Action.emit (request false)
        failed (.unanswered url.text)
      | .dropped =>
        Action.emit (request true)
        failed (.unanswered url.text)
      | .answer status body complete =>
        Action.emit (request true)
        match bodyText? status body complete with
        | none => failed (.cutShort url.text)
        | some text =>
          Action.log .notebook .debug (listing.noun ++ " activity: " ++ trimmed text)
          if Http.isSuccess status then
            match ofText? item? text with
            | some items => return items
            | none => failed (.malformedListing listing.noun)
          else failed (.status status)
    else
      Action.emit (request false)
      failed (.foreignAddress url.text)

end Listing

/-- The notebook server: its address, and what becomes of requests to it. -/
structure Server where
  address : String
  sessions : Reply
  terminals : Reply
  deriving DecidableEq, Repr

namespace Server

/-- The address of the notebook server on this machine. -/
def localAddress (port : UInt16) : String :=
  "https://localhost:" ++ toString port.toNat

/-- Fetches the sessions. -/
def fetchSessions (s : Server) : Action (List Session) :=
  Listing.sessions.fetch Session.ofTree? s.address s.sessions

/-- Fetches the terminals. -/
def fetchTerminals (s : Server) : Action (List Terminal) :=
  Listing.terminals.fetch Terminal.ofTree? s.address s.terminals

end Server

end IdleStop
