import LiveChat.Text.Utf8

/-!
Cutting a body of octets into event payloads. Lines end in LF; a CR before it is dropped. A line
of nothing but CRs ends an event, whose payload is its data lines joined by LF. An event with a
line or a payload over the limit is discarded whole, and nothing of it is kept meanwhile.
-/

set_option autoImplicit false

namespace LiveChat.Stream

structure Framer where
  limit : Nat
  /-- What arrived of the current line. -/
  line : Array UInt8
  /-- The current line holds something other than CR, whether it is kept or not. -/
  filled : Bool
  /-- The joined data lines of the current event, if it has one. -/
  data : Option String
  /-- The current event is being discarded. -/
  oversized : Bool
  deriving DecidableEq

namespace Framer

def new (limit : Nat) : Framer :=
  { limit, line := #[], filled := false, data := none, oversized := false }

def lf : UInt8 := 10

def cr : UInt8 := 13

def discard (framer : Framer) : Framer :=
  { framer with line := #[], data := none, oversized := true }

/-- The value of a line whose field is `data`; the space after the colon does not belong to it. -/
def dataOfLine? (line : List UInt8) : Option String :=
  if line.head? = some 58 then none
  else
    let chars := (Text.Utf8.decodeLossy line).toList
    if chars.takeWhile (· ≠ ':') = ['d', 'a', 't', 'a'] then
      match chars.dropWhile (· ≠ ':') with
      | _ :: ' ' :: value => some (String.ofList value)
      | _ :: value => some (String.ofList value)
      | [] => some ""
    else none

def withoutCr (line : Array UInt8) : Array UInt8 :=
  if line.back? = some cr then line.pop else line

def addData (framer : Framer) (value : String) : Framer :=
  let joined := match framer.data with
    | none => value
    | some data => data ++ "\n" ++ value
  if framer.limit < joined.utf8ByteSize then framer.discard
  else { framer with data := some joined }

def endLine (framer : Framer) : Framer × Option String :=
  let ended := { framer with line := #[], filled := false }
  if !framer.filled then
    ({ ended with data := none, oversized := false },
      if framer.oversized then none else framer.data)
  else if framer.oversized then (ended, none)
  else match dataOfLine? (withoutCr framer.line).toList with
    | none => (ended, none)
    | some value => (ended.addData value, none)

def keep (framer : Framer) (octet : UInt8) : Framer :=
  let framer := { framer with filled := framer.filled || octet ≠ cr }
  if framer.oversized then framer
  else
    let kept := { framer with line := framer.line.push octet }
    if kept.limit < kept.line.size then kept.discard else kept

def step (framer : Framer) (octet : UInt8) : Framer × Option String :=
  if octet = lf then framer.endLine else (framer.keep octet, none)

def feedFrom (framer : Framer) (seen : List String) : List UInt8 → Framer × List String
  | [] => (framer, seen.reverse)
  | octet :: rest =>
      match framer.step octet with
      | (next, none) => feedFrom next seen rest
      | (next, some payload) => feedFrom next (payload :: seen) rest

/-- The payloads of the events that this part of the body completes. -/
def feed (framer : Framer) (octets : List UInt8) : Framer × List String :=
  framer.feedFrom [] octets

end Framer

end LiveChat.Stream
