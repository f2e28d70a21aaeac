import PlaygroundEngine.EventDelivery
import PlaygroundEngine.Library.Holdings

/-!
# The channel's descriptors and its two threads

`Start`, `Stop`, `ReaderLoop` and the rest of the process as one step relation, one system call or
one read of the stop flag a step. A call that blocks returns once the kernel has something to
report to it; before that it can only be interrupted or fail. Descriptor numbers are given out
again as soon as they are free.
-/

namespace PlaygroundEngine.AgentChannel

open Library
set_option autoImplicit false

abbrev Descriptor := Nat

/-- What a descriptor stands for. Everything the channel did not open is `other`. -/
inductive KernelObject where
  | listener
  | wake
  | connection (number : Nat)
  | other
  deriving DecidableEq

/-- What the socket's path names. -/
inductive SocketFile where
  | own (restricted : Bool)
  | other
  deriving DecidableEq

inductive AgentChannelError where
  | socketPathTooLong
  | socketCreationFailed
  | wakeDescriptorCreationFailed
  | bindFailed
  | listenFailed
  deriving DecidableEq

/-- The size of the path in a socket address. -/
def sunPathLength : Nat := 108

/-- The next statement of `Start`, of the frame loop, or of `Stop`. -/
inductive MainPhase where
  | measuringPath
  | creatingSocket
  | unlinkingLeftover
  | binding
  | restricting
  | listening
  | creatingWake
  | closingUnstarted (unlinks : Bool) (error : AgentChannelError)
  | unlinkingUnstarted (error : AgentChannelError)
  | failed (error : AgentChannelError)
  | running
  | signalling
  | joining
  | closingListener
  | closingWake
  | unlinkingSocket
  | stopped
  deriving DecidableEq

structure Connection where
  descriptor : Descriptor
  /-- Connections are numbered as they are accepted. -/
  number : Nat

/-- A request while it is received, with what the reads came to so far. -/
structure Gathering where
  connection : Connection
  outcomes : List ReadOutcome := []
  request : Bytes := []

def Gathering.add (gathering : Gathering) (outcome : ReadOutcome) (bytes : Bytes) : Gathering :=
  { gathering with
    outcomes := gathering.outcomes ++ [outcome]
    request := gathering.request ++ bytes }

/-- What `WaitReadable` is called for. -/
inductive Wait where
  | accept
  | request (gathering : Gathering)

def Wait.object : Wait → KernelObject
  | .accept => .listener
  | .request gathering => .connection gathering.connection.number

/-- What brings a step about. -/
inductive StepKind where
  /-- Nothing stands in its way. -/
  | due
  /-- A call that blocks is interrupted or fails, which can happen at any time. -/
  | failure
  /-- The rest of the system does it. An interrupted call to send, after which the thread stands
  where it did, is put here too. -/
  | outside
  deriving DecidableEq

def StepKind.weight : StepKind → Nat
  | .outside => 0
  | _ => 1

/-- The next statement of the reader thread. -/
inductive ThreadPhase (F : Type) [Zero F] where
  | unstarted
  | head
  /-- The stop flag at the top of the wait's loop. -/
  | entering (wait : Wait)
  | polling (wait : Wait)
  /-- After a poll that reported something. -/
  | polled (wait : Wait) (wakeReadable ready : Bool)
  | accepting
  /-- The condition of the receive loop. -/
  | receiving (gathering : Gathering)
  | reading (gathering : Gathering)
  | responding (gathering : Gathering) (endOfInput : Bool)
  | staging (connection : Connection) (request : Request) (event : PlatformEvent F)
  | sending (connection : Connection) (request : Request) (reply : Bytes) (sent : Nat)
  | closing (connection : Connection)
  | finished

/-- A wait that does not end in `Ready`. -/
def Wait.abandoned {F : Type} [Zero F] : Wait → ThreadPhase F
  | .accept => .finished
  | .request gathering => .closing gathering.connection

def Wait.ready {F : Type} [Zero F] : Wait → ThreadPhase F
  | .accept => .accepting
  | .request gathering => .reading gathering

variable {F : Type} [Zero F]

/-- The end of `HandleConnection`; `now` is the reading of the clock. -/
def Gathering.respond (reader : FloatReader F) (now : UInt64) (endOfInput : Bool)
    (gathering : Gathering) : ThreadPhase F :=
  let request : Request := ⟨gathering.outcomes, now⟩
  if lineFeed ∉ gathering.request ∧ endOfInput = false then
    .sending gathering.connection request (errorReply .badArgument) 0
  else
    match parseCommand reader (gathering.request.takeWhile fun c => c != lineFeed) with
    | .error error => .sending gathering.connection request (errorReply error) 0
    | .ok event => .staging gathering.connection request { event with timestamp := now }

/-- Steps of the reader thread that only move it on; `readable` is what a poll reports. -/
inductive ThreadStep (stopping wakeSignalled : Bool) (readable : KernelObject → Bool) :
    ThreadPhase F → StepKind → ThreadPhase F → Prop where
  | loopStops : stopping = true → ThreadStep stopping wakeSignalled readable .head .due .finished
  | loopWaits : stopping = false →
      ThreadStep stopping wakeSignalled readable .head .due (.entering .accept)
  | waitStops (wait : Wait) : stopping = true →
      ThreadStep stopping wakeSignalled readable (.entering wait) .due wait.abandoned
  | waitPolls (wait : Wait) : stopping = false →
      ThreadStep stopping wakeSignalled readable (.entering wait) .due (.polling wait)
  | pollInterrupted (wait : Wait) :
      ThreadStep stopping wakeSignalled readable (.polling wait) .failure (.entering wait)
  | pollFails (wait : Wait) :
      ThreadStep stopping wakeSignalled readable (.polling wait) .failure wait.abandoned
  /-- Only a wait for a request has a timeout. -/
  | pollTimesOut (gathering : Gathering) :
      ThreadStep stopping wakeSignalled readable (.polling (.request gathering)) .due
        (.closing gathering.connection)
  | pollReturns (wait : Wait) (wakeReadable ready : Bool) :
      (wakeReadable = true → wakeSignalled = true) →
      (ready = true → readable wait.object = true) → wakeReadable = true ∨ ready = true →
      ThreadStep stopping wakeSignalled readable (.polling wait) .due
        (.polled wait wakeReadable ready)
  /-- All that is reported is something other than input on the wake descriptor. -/
  | pollReturnsEmpty (wait : Wait) :
      ThreadStep stopping wakeSignalled readable (.polling wait) .failure (.polled wait false false)
  | polledStops (wait : Wait) (wakeReadable ready : Bool) :
      wakeReadable = true ∨ stopping = true →
      ThreadStep stopping wakeSignalled readable (.polled wait wakeReadable ready) .due
        wait.abandoned
  | polledReady (wait : Wait) : stopping = false →
      ThreadStep stopping wakeSignalled readable (.polled wait false true) .due wait.ready
  | polledAgain (wait : Wait) : stopping = false →
      ThreadStep stopping wakeSignalled readable (.polled wait false false) .due (.entering wait)
  | acceptInterrupted : ThreadStep stopping wakeSignalled readable .accepting .failure .head
  | acceptFails : readable .listener = true →
      ThreadStep stopping wakeSignalled readable .accepting .due .finished
  | gatherEnds (gathering : Gathering) : Stops gathering.request →
      ThreadStep stopping wakeSignalled readable (.receiving gathering) .due
        (.responding gathering false)
  | gatherWaits (gathering : Gathering) : ¬ Stops gathering.request →
      ThreadStep stopping wakeSignalled readable (.receiving gathering) .due
        (.entering (.request gathering))
  | reads (gathering : Gathering) (bytes : Bytes) :
      readable (.connection gathering.connection.number) = true →
      bytes ≠ [] → bytes.length ≤ readBufferLength →
      ThreadStep stopping wakeSignalled readable (.reading gathering) .due
        (.receiving (gathering.add (.received bytes) bytes))
  | readEnds (gathering : Gathering) :
      readable (.connection gathering.connection.number) = true →
      ThreadStep stopping wakeSignalled readable (.reading gathering) .due
        (.responding (gathering.add .endOfInput []) true)
  | readInterrupted (gathering : Gathering) :
      ThreadStep stopping wakeSignalled readable (.reading gathering) .failure
        (.receiving (gathering.add .interrupted []))
  | readFails (gathering : Gathering) :
      readable (.connection gathering.connection.number) = true →
      ThreadStep stopping wakeSignalled readable (.reading gathering) .due
        (.closing gathering.connection)

/-- What a poll reports after the thread's call: a read takes from its connection, and `more` says
whether something is left there. -/
def ThreadPhase.drain (more : Bool) (readable : KernelObject → Bool) :
    ThreadPhase F → KernelObject → Bool
  | .reading gathering =>
    Function.update readable (.connection gathering.connection.number) more
  | _ => readable

/-- The process: both threads, the descriptor table and the socket's path. -/
structure Process (F : Type) [Zero F] where
  execution : Execution F := {}
  table : Descriptor → Option KernelObject := fun _ => none
  socketFile : Option SocketFile := none
  stopping : Bool := false
  /-- The wake descriptor can be read; nothing ever reads it. -/
  wakeSignalled : Bool := false
  listenDescriptor : Descriptor := 0
  wakeDescriptor : Descriptor := 0
  main : MainPhase := .measuringPath
  thread : ThreadPhase F := .unstarted
  /-- Connections accepted so far. -/
  accepted : Nat := 0
  /-- The request each connection came to. -/
  requests : Nat → Option Request := fun _ => none
  /-- What each connection's peer was sent. -/
  wire : Nat → Bytes := fun _ => []
  /-- An accept or a read would return. -/
  readable : KernelObject → Bool := fun _ => false
  /-- A send on the connection would return. -/
  writable : Nat → Bool := fun _ => true
  /-- A call to unlink the own socket failed, which neither `Start` nor `Stop` looks at. -/
  unlinkFailed : Bool := false

def KernelObject.IsOwn (object : KernelObject) : Prop := object ≠ .other

/-- `bound` says whether the call is after the bind; the one before it is for a leftover. -/
def Process.unlink (s : Process F) (bound fails : Bool) : Process F :=
  if fails then { s with unlinkFailed := s.unlinkFailed || bound }
  else { s with socketFile := none }

def SocketFile.restrict : SocketFile → SocketFile
  | .own _ => .own true
  | .other => .other

namespace Process

variable (s : Process F) (bound fails : Bool)

@[simp] theorem unlink_table : (s.unlink bound fails).table = s.table := by
  cases fails <;> rfl

@[simp] theorem unlink_thread : (s.unlink bound fails).thread = s.thread := by
  cases fails <;> rfl

@[simp] theorem unlink_execution : (s.unlink bound fails).execution = s.execution := by
  cases fails <;> rfl

@[simp] theorem unlink_stopping : (s.unlink bound fails).stopping = s.stopping := by
  cases fails <;> rfl

@[simp] theorem unlink_listenDescriptor :
    (s.unlink bound fails).listenDescriptor = s.listenDescriptor := by
  cases fails <;> rfl

@[simp] theorem unlink_wire : (s.unlink bound fails).wire = s.wire := by
  cases fails <;> rfl

@[simp] theorem unlink_requests : (s.unlink bound fails).requests = s.requests := by
  cases fails <;> rfl

@[simp] theorem unlink_accepted : (s.unlink bound fails).accepted = s.accepted := by
  cases fails <;> rfl

@[simp] theorem unlink_readable : (s.unlink bound fails).readable = s.readable := by
  cases fails <;> rfl

theorem unlink_socketFile {restricted : Bool}
    (h : (s.unlink bound fails).socketFile = some (.own restricted)) :
    s.socketFile = some (.own restricted) ∧
      (s.unlink bound fails).unlinkFailed = (s.unlinkFailed || bound) := by
  cases fails with
  | false => exact absurd h.symm (Option.some_ne_none _)
  | true => exact ⟨h, rfl⟩

end Process

inductive ProcessStep (reader : FloatReader F) (pathLength : Nat) (s : Process F) :
    StepKind → Process F → Prop where
  -- `Start`
  | pathTooLong : sunPathLength ≤ pathLength → s.main = .measuringPath →
      ProcessStep reader pathLength s .due { s with main := .failed .socketPathTooLong }
  | pathFits : pathLength < sunPathLength → s.main = .measuringPath →
      ProcessStep reader pathLength s .due { s with main := .creatingSocket }
  | socketFails : s.main = .creatingSocket →
      ProcessStep reader pathLength s .due { s with main := .failed .socketCreationFailed }
  | socket (descriptor : Descriptor) : s.main = .creatingSocket →
      s.table descriptor = none →
      ProcessStep reader pathLength s .due { s with
        table := Function.update s.table descriptor (some .listener)
        listenDescriptor := descriptor
        main := .unlinkingLeftover }
  | unlinkLeftover (fails : Bool) : s.main = .unlinkingLeftover →
      ProcessStep reader pathLength s .due { s.unlink false fails with main := .binding }
  | bindFails : s.main = .binding →
      ProcessStep reader pathLength s .due { s with main := .closingUnstarted false .bindFailed }
  | bind : s.socketFile = none → s.main = .binding →
      ProcessStep reader pathLength s .due { s with
        socketFile := some (.own false)
        main := .restricting }
  | chmodFails : s.main = .restricting →
      ProcessStep reader pathLength s .due { s with main := .closingUnstarted true .bindFailed }
  | chmod : s.main = .restricting →
      ProcessStep reader pathLength s .due { s with
        socketFile := s.socketFile.map SocketFile.restrict
        main := .listening }
  | listenFails : s.main = .listening →
      ProcessStep reader pathLength s .due { s with main := .closingUnstarted true .listenFailed }
  | listen : s.main = .listening →
      ProcessStep reader pathLength s .due { s with main := .creatingWake }
  | eventfdFails : s.main = .creatingWake →
      ProcessStep reader pathLength s .due { s with
        main := .closingUnstarted true .wakeDescriptorCreationFailed }
  /-- The channel is made, and its thread started. -/
  | eventfd (descriptor : Descriptor) : s.main = .creatingWake →
      s.table descriptor = none →
      ProcessStep reader pathLength s .due { s with
        table := Function.update s.table descriptor (some .wake)
        wakeDescriptor := descriptor
        main := .running
        thread := .head }
  | closeUnstarted (unlinks : Bool) (error : AgentChannelError) :
      s.main = .closingUnstarted unlinks error →
      ProcessStep reader pathLength s .due { s with
        table := Function.update s.table s.listenDescriptor none
        main := if unlinks then .unlinkingUnstarted error else .failed error }
  | unlinkUnstarted (error : AgentChannelError) (fails : Bool) :
      s.main = .unlinkingUnstarted error →
      ProcessStep reader pathLength s .due { s.unlink true fails with main := .failed error }
  /-- A step of the frame loop or a callback. -/
  | frame (execution : Execution F) : s.main = .running →
      Step reader s.execution execution →
      execution.readerPhase = s.execution.readerPhase →
      execution.answers = s.execution.answers → execution.staged = s.execution.staged →
      ProcessStep reader pathLength s .due { s with execution }
  -- `Stop`
  | storeStopping : s.execution.phase = .consuming → s.main = .running →
      ProcessStep reader pathLength s .due { s with stopping := true, main := .signalling }
  | signal : s.main = .signalling →
      ProcessStep reader pathLength s .due { s with wakeSignalled := true, main := .joining }
  | signalFails : s.main = .signalling →
      ProcessStep reader pathLength s .due { s with main := .joining }
  | join : s.main = .joining → s.thread = .finished →
      ProcessStep reader pathLength s .due { s with main := .closingListener }
  | closeListener : s.main = .closingListener →
      ProcessStep reader pathLength s .due { s with
        table := Function.update s.table s.listenDescriptor none
        main := .closingWake }
  | closeWake : s.main = .closingWake →
      ProcessStep reader pathLength s .due { s with
        table := Function.update s.table s.wakeDescriptor none
        main := .unlinkingSocket }
  | unlinkSocket (fails : Bool) : s.main = .unlinkingSocket →
      ProcessStep reader pathLength s .due { s.unlink true fails with main := .stopped }
  -- `ReaderLoop`
  | thread (kind : StepKind) (next : ThreadPhase F) (more : Bool) :
      ThreadStep s.stopping s.wakeSignalled s.readable s.thread kind next →
      ProcessStep reader pathLength s kind { s with
        readable := s.thread.drain more s.readable
        thread := next }
  | accept (descriptor : Descriptor) (more : Bool) : s.thread = .accepting →
      s.readable .listener = true → s.table descriptor = none →
      ProcessStep reader pathLength s .due { s with
        table := Function.update s.table descriptor (some (.connection s.accepted))
        readable := Function.update s.readable .listener more
        accepted := s.accepted + 1
        thread := .receiving { connection := ⟨descriptor, s.accepted⟩ } }
  | respond (gathering : Gathering) (endOfInput : Bool) (now : UInt64) :
      s.thread = .responding gathering endOfInput →
      ProcessStep reader pathLength s .due { s with
        execution := s.execution.accept reader ⟨gathering.outcomes, now⟩
        requests := Function.update s.requests gathering.connection.number
          (some ⟨gathering.outcomes, now⟩)
        thread := gathering.respond reader now endOfInput }
  | stage (connection : Connection) (request : Request) (event : PlatformEvent F) :
      s.thread = .staging connection request event →
      ProcessStep reader pathLength s .due { s with
        execution := s.execution.push request event
        thread := .sending connection request okReply 0 }
  | send (connection : Connection) (request : Request) (reply : Bytes)
      (sent written : Nat) (room : Bool) :
      s.thread = .sending connection request reply sent →
      s.writable connection.number = true → 0 < written → sent + written ≤ reply.length →
      ProcessStep reader pathLength s .due { s with
        wire := Function.update s.wire connection.number
          (s.wire connection.number ++ (reply.drop sent).take written)
        writable := Function.update s.writable connection.number room
        thread := .sending connection request reply (sent + written) }
  | sendInterrupted (connection : Connection) (request : Request) (reply : Bytes)
      (sent : Nat) : s.thread = .sending connection request reply sent → sent < reply.length →
      ProcessStep reader pathLength s .outside s
  /-- The whole reply is sent, or sending fails. -/
  | sendEnds (connection : Connection) (request : Request) (reply : Bytes)
      (sent : Nat) : s.thread = .sending connection request reply sent →
      reply.length ≤ sent ∨ s.writable connection.number = true →
      ProcessStep reader pathLength s .due { s with
        execution := s.execution.sendReply request reply
        thread := .closing connection }
  | close (connection : Connection) : s.thread = .closing connection →
      ProcessStep reader pathLength s .due { s with
        table := Function.update s.table connection.descriptor none
        thread := .head }
  -- The rest of the process and of the system
  /-- A client connects, sends, hangs up or is lost. -/
  | arrives (object : KernelObject) :
      ProcessStep reader pathLength s .outside { s with
        readable := Function.update s.readable object true }
  /-- A client takes what it was sent, or is gone. -/
  | takes (number : Nat) :
      ProcessStep reader pathLength s .outside { s with
        writable := Function.update s.writable number true }
  | others (table : Descriptor → Option KernelObject) :
      Interferes KernelObject.IsOwn s.table table →
      ProcessStep reader pathLength s .outside { s with table }
  | otherFile (file : Option SocketFile) :
      (∀ restricted, file ≠ some (.own restricted)) →
      ProcessStep reader pathLength s .outside { s with socketFile := file }

/-- Before `Start`: nothing of the table or at the path is the channel's. -/
structure Process.Initial (s : Process F) : Prop where
  fresh : s = { ({} : Process F) with table := s.table, socketFile := s.socketFile }
  table : ∀ descriptor object, s.table descriptor = some object → ¬ object.IsOwn
  socketFile : ∀ restricted, s.socketFile ≠ some (.own restricted)

inductive Process.Reachable (reader : FloatReader F) (pathLength : Nat) : Process F → Prop where
  | initial {s : Process F} : s.Initial → Reachable reader pathLength s
  | step {s s' : Process F} {kind : StepKind} : Reachable reader pathLength s →
      ProcessStep reader pathLength s kind s' → Reachable reader pathLength s'

/-- The objects that the main thread has open. -/
def Process.mainHolds (s : Process F) : List (Descriptor × KernelObject) :=
  match s.main with
  | .unlinkingLeftover | .binding | .restricting | .listening | .creatingWake
  | .closingUnstarted _ _ => [(s.listenDescriptor, .listener)]
  | .running | .signalling | .joining | .closingListener =>
    [(s.listenDescriptor, .listener), (s.wakeDescriptor, .wake)]
  | .closingWake => [(s.wakeDescriptor, .wake)]
  | _ => []

/-- The connection that the reader thread is serving. -/
def ThreadPhase.connection? : ThreadPhase F → Option Connection
  | .entering (.request gathering) | .polling (.request gathering)
  | .polled (.request gathering) _ _ | .receiving gathering | .reading gathering
  | .responding gathering _ => some gathering.connection
  | .staging connection _ _ | .sending connection _ _ _ | .closing connection => some connection
  | _ => none

def Connection.held (connection : Connection) : Descriptor × KernelObject :=
  (connection.descriptor, .connection connection.number)

def Process.holds (s : Process F) : List (Descriptor × KernelObject) :=
  s.mainHolds ++ (s.thread.connection?.map Connection.held).toList

/-- The descriptors that the main thread's next call is on, with what they should stand for. -/
def Process.mainCalls (s : Process F) : List (Descriptor × KernelObject) :=
  match s.main with
  | .binding | .listening | .closingUnstarted _ _ | .closingListener =>
    [(s.listenDescriptor, .listener)]
  | .signalling | .closingWake => [(s.wakeDescriptor, .wake)]
  | _ => []

def Process.waitsOn (s : Process F) : Wait → Descriptor × KernelObject
  | .accept => (s.listenDescriptor, .listener)
  | .request gathering => gathering.connection.held

/-- What the reader thread's next call is made on. -/
def Process.threadCalls (s : Process F) : List (Descriptor × KernelObject) :=
  match s.thread with
  | .polling wait => [s.waitsOn wait, (s.wakeDescriptor, .wake)]
  | .accepting => [(s.listenDescriptor, .listener)]
  | .reading gathering => [gathering.connection.held]
  | .sending connection _ _ _ | .closing connection => [connection.held]
  | _ => []

end PlaygroundEngine.AgentChannel
