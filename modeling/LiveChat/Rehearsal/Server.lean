import LiveChat.Http.EventSource
import LiveChat.Stream.Connection

/-!
A server whose side of the event stream is laid down beforehand. Each time a connection is opened
the next plan is used up; a connection that opens is fed by a feed. Times are milliseconds.
-/

set_option autoImplicit false

namespace LiveChat.Rehearsal

open LiveChat.Stream (StreamError Framer Endpoint Connection)

/-- What comes over a feed: whole payloads, or parts of a body that holds them. -/
inductive Arrival where
  | payload (text : String)
  | part (octets : List UInt8)
  | failure (error : StreamError)

structure Feed where
  arrivals : List Arrival
  /-- Nothing more will arrive. -/
  ended : Bool
  /-- Nobody listens any more. -/
  released : Bool

def Feed.new : Feed := { arrivals := [], ended := false, released := false }

instance : Inhabited Feed := ⟨.new⟩

/-- What an attempt to open a connection leads to. -/
inductive Plan where
  | failure (error : StreamError)
  | payloads (feed : Nat)
  | reply (reply : Http.Reply) (feed : Nat)

structure Planned where
  plan : Plan
  /-- How long it takes to come about. -/
  delay : Nat

/-- Who is asked for a connection: the plans alone, or a server over HTTP, which is sent a request
and whose events have a limit. -/
inductive Source where
  | plans
  | http (origin : Url) (limit : Nat)

structure Server where
  source : Source
  plans : List Planned
  feeds : List Feed
  opens : Nat
  requests : List Http.Request

/-- The far end of a connection. -/
inductive Line where
  /-- A request goes out once the plan comes about. -/
  | opening (due : Nat) (plan : Plan) (request : Option Http.Request)
  | payloads (feed : Nat)
  | body (framer : Framer) (ready : List String) (feed : Nat)

/-- What is heard on a line. -/
inductive Heard where
  | nothing
  | signal (signal : Connection.Signal)
  | payload (text : String)

def closedText : String := "server closed the stream"

def failureText (index : Nat) : String := "scripted failure #" ++ Nat.repr index

def noPlan : Source → StreamError
  | .plans => .connect "no scripted connection left"
  | .http _ _ => .connect "no scripted response left"

def Plan.feed? : Plan → Option Nat
  | failure _ => none
  | payloads feed => some feed
  | reply _ feed => some feed

def Line.feed? : Line → Option Nat
  | opening _ plan _ => plan.feed?
  | payloads feed => some feed
  | body _ _ feed => some feed

namespace Server

def new (source : Source) : Server :=
  { source, plans := [], feeds := [], opens := 0, requests := [] }

def plan (server : Server) (plan : Plan) (delay : Nat) : Server :=
  { server with plans := server.plans ++ [{ plan, delay }] }

/-- Makes a feed and gives its place. -/
def addFeed (server : Server) (feed : Feed) : Server × Nat :=
  ({ server with feeds := server.feeds ++ [feed] }, server.feeds.length)

def modifyFeed (server : Server) (feed : Nat) (change : Feed → Feed) : Server :=
  { server with feeds := server.feeds.modify feed change }

/-- Lets go of a line. -/
def release (server : Server) (line : Line) : Server :=
  match line.feed? with
  | none => server
  | some feed => server.modifyFeed feed fun feed => { feed with released := true }

/-- Takes the next plan for a new line. -/
def take (server : Server) (now : Nat) (request : Option Http.Request) : Line × Server :=
  match server.plans with
  | [] => (.opening now (.failure (noPlan server.source)) request, server)
  | next :: plans => (.opening (now + next.delay) next.plan request, { server with plans })

def openLine (server : Server) (now : Nat) (endpoint : Endpoint) : Line × Server :=
  let server := { server with opens := server.opens + 1 }
  match server.source with
  | .plans => server.take now none
  | .http origin _ =>
      match Http.EventSource.request origin endpoint with
      | .error error => (.opening now (.failure error) none, server)
      | .ok request => server.take now (some request)

def limit (server : Server) : Nat :=
  match server.source with
  | .plans => 0
  | .http _ limit => limit

/-- The payloads in the next parts that complete any, what stops them, and what follows. -/
def frame (framer : Framer) :
    List Arrival → Framer × List String × Option StreamError × List Arrival
  | [] => (framer, [], none, [])
  | .part octets :: rest =>
      match framer.feed octets with
      | (framer, []) => frame framer rest
      | (framer, payloads) => (framer, payloads, none, rest)
  | .payload text :: rest => (framer, [text], none, rest)
  | .failure error :: rest => (framer, [], some error, rest)

def closed : Heard := .signal (.failed (.broken closedText))

/-- What is heard when a plan comes about. -/
def begin (server : Server) (plan : Plan) : Heard × Line :=
  match plan with
  | .failure error => (.signal (.failed error), .opening 0 plan none)
  | .payloads feed => (.signal .opened, .payloads feed)
  | .reply reply feed =>
      match Http.EventSource.body reply with
      | .error error => (.signal (.failed error), .opening 0 plan none)
      | .ok _ => (.signal .opened, .body (.new server.limit) [] feed)

def hear (server : Server) (now : Nat) (line : Line) : Heard × Line × Server :=
  match line with
  | .opening due plan request =>
      if now < due then (.nothing, line, server)
      else
        let (heard, line) := server.begin plan
        (heard, line, { server with requests := server.requests ++ request.toList })
  | .payloads place =>
      let feed := server.feeds.getD place .new
      match feed.arrivals with
      | [] => (if feed.ended then closed else .nothing, line, server)
      | arrival :: arrivals =>
          let heard := match arrival with
            | .payload text => Heard.payload text
            | .failure error => .signal (.failed error)
            | .part _ => .nothing
          (heard, line, server.modifyFeed place fun feed => { feed with arrivals })
  | .body framer (payload :: ready) place => (.payload payload, .body framer ready place, server)
  | .body framer [] place =>
      let feed := server.feeds.getD place .new
      let (framer, payloads, error, arrivals) := frame framer feed.arrivals
      let server := server.modifyFeed place fun feed => { feed with arrivals }
      match payloads, error with
      | payload :: ready, _ => (.payload payload, .body framer ready place, server)
      | [], some error => (.signal (.failed error), .body framer [] place, server)
      | [], none => (if feed.ended then closed else .nothing, .body framer [] place, server)

end Server

end LiveChat.Rehearsal
