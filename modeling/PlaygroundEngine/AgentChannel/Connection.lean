import PlaygroundEngine.AgentChannel.ParseCommand

/-!
# Serving one connection

The loop that gathers a request, the answer to its line and the staging of the
accepted event. What the socket does is a list of read outcomes.
-/

namespace PlaygroundEngine

open Reflection
set_option autoImplicit false

structure AgentChannel (F : Type) [Zero F] where
  stagedEvents : List (PlatformEvent F) := []
  drainBuffer : List (PlatformEvent F) := []

namespace AgentChannel

def maximumRequestLength : Nat := 1024

def readBufferLength : Nat := 256

def lineFeed : UInt8 := 10

/-- One wait for the connection and the read after it. -/
inductive ReadOutcome where
  /-- The wait was stopped, timed out or failed. -/
  | notReady
  | interrupted
  | failed
  | endOfInput
  | received (bytes : Bytes)
  deriving DecidableEq

/-- The loop's condition fails on what has been read so far. -/
def Stops (request : Bytes) : Prop :=
  lineFeed ∈ request ∨ maximumRequestLength ≤ request.length

instance decidableStops (request : Bytes) : Decidable (Stops request) :=
  inferInstanceAs (Decidable (_ ∨ _))

/-- The receive loop: the request and `endOfInput`, or `none` where the loop
returns from the function. No further outcome is a wait that times out. -/
def receive (request : Bytes) (outcomes : List ReadOutcome) : Option (Bytes × Bool) :=
  if Stops request then some (request, false)
  else
    match outcomes with
    | [] => none
    | .notReady :: _ => none
    | .failed :: _ => none
    | .interrupted :: rest => receive request rest
    | .endOfInput :: _ => some (request, true)
    | .received bytes :: rest => receive (request ++ bytes) rest

inductive Disposition where
  | dropped
  | rejected
  | handed (line : Bytes)
  deriving DecidableEq

def disposition (outcomes : List ReadOutcome) : Disposition :=
  match receive [] outcomes with
  | none => .dropped
  | some (request, endOfInput) =>
    if lineFeed ∉ request ∧ endOfInput = false then .rejected
    else .handed (request.takeWhile fun c => c != lineFeed)

variable {F : Type} [Zero F]

/-- The push under the mutex. -/
def stage (channel : AgentChannel F) (event : PlatformEvent F) : AgentChannel F :=
  { channel with stagedEvents := channel.stagedEvents ++ [event] }

def clearDrainBuffer (channel : AgentChannel F) : AgentChannel F :=
  { channel with drainBuffer := [] }

/-- The swap under the mutex. -/
def swapBuffers (channel : AgentChannel F) : AgentChannel F :=
  { stagedEvents := channel.drainBuffer, drainBuffer := channel.stagedEvents }

def drainInto (channel : AgentChannel F) (record : PlatformEventRecord F) :
    PlatformEventRecord F × AgentChannel F :=
  let channel := channel.clearDrainBuffer.swapBuffers
  (record.appendBatch channel.drainBuffer, channel)

def okReply : Bytes := bytesOf "ok\n"

def errorReply (error : AgentCommandError) : Bytes :=
  bytesOf "error " ++
    (AgentCommandError.enumeration.enumToName error).getD (bytesOf "Unknown") ++ [lineFeed]

def buildResponse (reader : FloatReader F) (now : UInt64) (line : Bytes)
    (channel : AgentChannel F) : Bytes × AgentChannel F :=
  match parseCommand reader line with
  | .error error => (errorReply error, channel)
  | .ok event => (okReply, channel.stage { event with timestamp := now })

def handleConnection (reader : FloatReader F) (now : UInt64) (outcomes : List ReadOutcome)
    (channel : AgentChannel F) : Option Bytes × AgentChannel F :=
  match disposition outcomes with
  | .dropped => (none, channel)
  | .rejected => (some (errorReply .badArgument), channel)
  | .handed line =>
    let (reply, channel) := buildResponse reader now line channel
    (some reply, channel)

end AgentChannel

end PlaygroundEngine
