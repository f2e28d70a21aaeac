import PlaygroundEngine.AgentChannel.Segmentation
import PlaygroundEngine.Library.Conveyance
import PlaygroundEngine.WindowServer
import Mathlib.Logic.Relation

/-!
# From the producers to the frame's record

The callbacks, the reader thread and the frame loop as one step relation. A step
is what no other party can come between: the main thread's own statements, the
staging push and the swap.
-/

namespace PlaygroundEngine

open Library AgentChannel
set_option autoImplicit false

variable {F : Type} [Zero F]

/-- One connection served by the reader thread, at one reading of the clock. -/
structure Request where
  outcomes : List ReadOutcome
  now : UInt64

def Request.event (reader : FloatReader F) (request : Request) : Option (PlatformEvent F) :=
  match disposition request.outcomes with
  | .handed line =>
    match parseCommand reader line with
    | .ok event => some { event with timestamp := request.now }
    | .error _ => none
  | _ => none

/-- What is wrong with a request that is answered with an error. -/
def Request.error (reader : FloatReader F) (request : Request) : Option AgentCommandError :=
  match disposition request.outcomes with
  | .dropped => none
  | .rejected => some .badArgument
  | .handed line =>
    match parseCommand reader line with
    | .ok _ => none
    | .error error => some error

inductive ReaderPhase (F : Type) [Zero F] where
  | waiting
  | staging (request : Request) (event : PlatformEvent F)
  | replying (request : Request) (reply : Bytes)

/-- Where `runStep` stands; everything after the drain is `consuming`. -/
inductive FramePhase where
  | consuming
  | cleared
  | pumped
  | drainCleared
  | swapped
  deriving DecidableEq

structure Answer where
  request : Request
  reply : Bytes

structure Execution (F : Type) [Zero F] where
  platformEvents : PlatformEventRecord F := {}
  windowServer : WindowServerBackend F := {}
  channel : AgentChannel F := {}
  phase : FramePhase := .consuming
  readerPhase : ReaderPhase F := .waiting
  /-- The records of the frames before the current one. -/
  pastRecords : List (List (PlatformEvent F)) := []
  /-- Everything the callbacks have appended. -/
  fired : List (PlatformEvent F) := []
  /-- Everything the reader thread has pushed. -/
  staged : List (PlatformEvent F) := []
  answers : List Answer := []

namespace Execution

def fire (e : Execution F) (event : PlatformEvent F) (now : UInt64) : Execution F :=
  { e with
    windowServer := e.windowServer.appendEvent event now
    fired := e.fired ++ [{ event with timestamp := now }] }

def clear (e : Execution F) : Execution F :=
  { e with
    pastRecords := e.pastRecords ++ [e.platformEvents.events]
    platformEvents := e.platformEvents.clear
    phase := .cleared }

def pump (e : Execution F) : Execution F :=
  { e with
    platformEvents := (e.windowServer.pump e.platformEvents).1
    windowServer := (e.windowServer.pump e.platformEvents).2
    phase := .pumped }

def clearDrainBuffer (e : Execution F) : Execution F :=
  { e with channel := e.channel.clearDrainBuffer, phase := .drainCleared }

def swap (e : Execution F) : Execution F :=
  { e with channel := e.channel.swapBuffers, phase := .swapped }

def append (e : Execution F) : Execution F :=
  { e with
    platformEvents := e.platformEvents.appendBatch e.channel.drainBuffer
    phase := .consuming }

/-- The reader thread gathers a request and parses its line. -/
def accept (e : Execution F) (reader : FloatReader F) (request : Request) : Execution F :=
  { e with
    readerPhase :=
      match disposition request.outcomes with
      | .dropped => .waiting
      | .rejected => .replying request (errorReply .badArgument)
      | .handed line =>
        match parseCommand reader line with
        | .error error => .replying request (errorReply error)
        | .ok event => .staging request { event with timestamp := request.now } }

def push (e : Execution F) (request : Request) (event : PlatformEvent F) : Execution F :=
  { e with
    channel := e.channel.stage event
    readerPhase := .replying request okReply
    staged := e.staged ++ [event] }

def sendReply (e : Execution F) (request : Request) (reply : Bytes) : Execution F :=
  { e with readerPhase := .waiting, answers := e.answers ++ [⟨request, reply⟩] }

end Execution

/-- One step of one party. A callback may fire at any time; a frame without a
window server or without a channel skips that part. -/
inductive Step (reader : FloatReader F) : Execution F → Execution F → Prop where
  | callback (e : Execution F) (event : PlatformEvent F) (now : UInt64) :
      Step reader e (e.fire event now)
  | clear (e : Execution F) : e.phase = .consuming → Step reader e e.clear
  | pump (e : Execution F) : e.phase = .cleared → Step reader e e.pump
  | withoutWindowServer (e : Execution F) :
      e.phase = .cleared → Step reader e { e with phase := .pumped }
  | clearDrainBuffer (e : Execution F) : e.phase = .pumped → Step reader e e.clearDrainBuffer
  | swap (e : Execution F) : e.phase = .drainCleared → Step reader e e.swap
  | append (e : Execution F) : e.phase = .swapped → Step reader e e.append
  | withoutChannel (e : Execution F) :
      e.phase = .pumped → Step reader e { e with phase := .consuming }
  | accept (e : Execution F) (request : Request) :
      e.readerPhase = .waiting → Step reader e (e.accept reader request)
  | push (e : Execution F) (request : Request) (event : PlatformEvent F) :
      e.readerPhase = .staging request event → Step reader e (e.push request event)
  | sendReply (e : Execution F) (request : Request) (reply : Bytes) :
      e.readerPhase = .replying request reply → Step reader e (e.sendReply request reply)

def Reachable (reader : FloatReader F) (e : Execution F) : Prop :=
  Relation.ReflTransGen (Step reader) {} e

namespace Execution

/-- The record of every frame begun so far, the current one last. -/
def records (e : Execution F) : List (List (PlatformEvent F)) :=
  e.pastRecords ++ [e.platformEvents.events]

/-- What the channel holds for a later append. The drain buffer counts between
the swap and the append; otherwise it is a leftover of an earlier frame. -/
def channelPending (e : Execution F) : List (PlatformEvent F) :=
  (if e.phase = .swapped then e.channel.drainBuffer else []) ++ e.channel.stagedEvents

def acknowledged (e : Execution F) (reader : FloatReader F) : List (PlatformEvent F) :=
  e.answers.filterMap fun answer =>
    if answer.reply = okReply then answer.request.event reader else none

/-- The event that is staged but whose reply is not sent yet. -/
def unanswered (e : Execution F) (reader : FloatReader F) : List (PlatformEvent F) :=
  match e.readerPhase with
  | .replying request reply =>
    if reply = okReply then (request.event reader).toList else []
  | _ => []

end Execution

/-- The reply says whether the request has an event, and if not, what is wrong with it. -/
def Request.AnsweredBy (reader : FloatReader F) (request : Request) (reply : Bytes) : Prop :=
  (reply = okReply ∧ (request.event reader).isSome) ∨
    ((∃ error, request.error reader = some error ∧ reply = errorReply error) ∧
      request.event reader = none)

variable {reader : FloatReader F}

theorem handleConnection_steps (e : Execution F) (request : Request)
    (hphase : e.readerPhase = .waiting) :
    ∃ e', Relation.ReflTransGen (Step reader) e e' ∧ e'.readerPhase = .waiting ∧
      e'.channel = (handleConnection reader request.now request.outcomes e.channel).2 ∧
      e'.answers = e.answers ++
        (handleConnection reader request.now request.outcomes e.channel).1.toList.map
          (⟨request, ·⟩) := by
  have haccept : Relation.ReflTransGen (Step reader) e (e.accept reader request) :=
    .single (.accept e request hphase)
  have hreply : ∀ {e₁ : Execution F} {reply}, e₁.readerPhase = .replying request reply →
      Relation.ReflTransGen (Step reader) e e₁ →
      Relation.ReflTransGen (Step reader) e (e₁.sendReply request reply) := by
    intro e₁ reply hreplying hsteps
    exact hsteps.tail (.sendReply e₁ request reply hreplying)
  cases hdisposition : disposition request.outcomes with
  | dropped =>
    refine ⟨_, haccept, ?_, ?_, ?_⟩
    · simp only [Execution.accept, hdisposition]
    · simp only [Execution.accept, handleConnection, hdisposition]
    · simp only [Execution.accept, handleConnection, hdisposition, Option.toList_none,
        List.map_nil, List.append_nil]
  | rejected =>
    have hreplying : (e.accept reader request).readerPhase =
        .replying request (errorReply .badArgument) := by
      simp only [Execution.accept, hdisposition]
    refine ⟨_, hreply hreplying haccept, rfl, ?_, ?_⟩
    · simp only [Execution.sendReply, Execution.accept, handleConnection, hdisposition]
    · simp only [Execution.sendReply, Execution.accept, handleConnection, hdisposition]
      rfl
  | handed line =>
    cases hparse : parseCommand reader line with
    | error error =>
      have hreplying : (e.accept reader request).readerPhase =
          .replying request (errorReply error) := by
        simp only [Execution.accept, hdisposition, hparse]
      refine ⟨_, hreply hreplying haccept, rfl, ?_, ?_⟩
      · simp only [Execution.sendReply, Execution.accept, handleConnection, hdisposition,
          buildResponse, hparse]
      · simp only [Execution.sendReply, Execution.accept, handleConnection, hdisposition,
          buildResponse, hparse]
        rfl
    | ok event =>
      have hstaging : (e.accept reader request).readerPhase =
          .staging request { event with timestamp := request.now } := by
        simp only [Execution.accept, hdisposition, hparse]
      refine ⟨_, hreply rfl (haccept.tail (.push _ request _ hstaging)), rfl, ?_, ?_⟩
      · simp only [Execution.sendReply, Execution.push, Execution.accept, handleConnection,
          hdisposition, buildResponse, hparse]
      · simp only [Execution.sendReply, Execution.push, Execution.accept, handleConnection,
          hdisposition, buildResponse, hparse]
        rfl

theorem drainInto_steps (e : Execution F) (hphase : e.phase = .pumped) :
    Relation.ReflTransGen (Step reader) e
      { e with
        platformEvents := (e.channel.drainInto e.platformEvents).1
        channel := (e.channel.drainInto e.platformEvents).2
        phase := .consuming } :=
  have hdrain : Relation.ReflTransGen (Step reader) e e.clearDrainBuffer :=
    .single (.clearDrainBuffer e hphase)
  (hdrain.tail (.swap _ rfl)).tail (.append _ rfl)

/-! ### The record and the two producers -/

/-- Every record is a window part followed by an injected part, and each producer's
parts convey what it produced. -/
structure Attributed (e : Execution F)
    (past : List (List (PlatformEvent F) × List (PlatformEvent F)))
    (window injected : List (PlatformEvent F)) : Prop where
  pastRecords : e.pastRecords = past.map fun part => part.1 ++ part.2
  current : e.platformEvents.events = window ++ injected
  fired : Conveys (past.map Prod.fst ++ [window]) e.windowServer.pendingEvents.events e.fired
  staged : Conveys (past.map Prod.snd ++ [injected]) e.channelPending e.staged
  undrained : e.phase ≠ .consuming → injected = []
  emptied : e.phase = .drainCleared → e.channel.drainBuffer = []

theorem channelPending_of_ne {e : Execution F} (h : e.phase ≠ .swapped) :
    e.channelPending = e.channel.stagedEvents := by
  rw [Execution.channelPending, if_neg h, List.nil_append]

theorem channelPending_swapped {e : Execution F} (h : e.phase = .swapped) :
    e.channelPending = e.channel.drainBuffer ++ e.channel.stagedEvents := by
  rw [Execution.channelPending, if_pos h]

theorem channelPending_phase {e e' : Execution F} (hchannel : e'.channel.stagedEvents =
    e.channel.stagedEvents) (h : e.phase ≠ .swapped) (h' : e'.phase ≠ .swapped) :
    e'.channelPending = e.channelPending := by
  rw [channelPending_of_ne h, channelPending_of_ne h', hchannel]

namespace Attributed

variable {e : Execution F} {past : List (List (PlatformEvent F) × List (PlatformEvent F))}
  {window injected : List (PlatformEvent F)}

theorem fire (h : Attributed e past window injected) (event : PlatformEvent F) (now : UInt64) :
    Attributed (e.fire event now) past window injected where
  pastRecords := h.pastRecords
  current := h.current
  fired := h.fired.produce { event with timestamp := now }
  staged := h.staged
  undrained := h.undrained
  emptied := h.emptied

theorem clear (h : Attributed e past window injected) (hphase : e.phase = .consuming) :
    Attributed e.clear (past ++ [(window, injected)]) [] [] where
  pastRecords := by
    change e.pastRecords ++ [e.platformEvents.events] = _
    rw [h.pastRecords, h.current, List.map_append, List.map_singleton]
  current := rfl
  fired := by
    rw [List.map_append, List.map_singleton]
    exact h.fired.openBatch
  staged := by
    have hpending : e.clear.channelPending = e.channelPending :=
      channelPending_phase rfl (by rw [hphase]; decide) (by simp [Execution.clear])
    rw [hpending, List.map_append, List.map_singleton]
    exact h.staged.openBatch
  undrained := fun _ => rfl
  emptied := fun hdrain => nomatch hdrain

theorem pump (h : Attributed e past window injected) (hphase : e.phase = .cleared) :
    Attributed e.pump past (window ++ e.windowServer.pendingEvents.events) [] where
  pastRecords := h.pastRecords
  current := by
    have hnone := h.undrained (by rw [hphase]; decide)
    change e.platformEvents.events ++ e.windowServer.pendingEvents.events = _
    rw [h.current, hnone, List.append_nil, List.append_nil]
  fired := by
    have htake := h.fired
    rw [← List.append_nil e.windowServer.pendingEvents.events] at htake
    exact htake.take
  staged := by
    have hnone := h.undrained (by rw [hphase]; decide)
    have hpending : e.pump.channelPending = e.channelPending :=
      channelPending_phase rfl (by rw [hphase]; decide) (by simp [Execution.pump])
    rw [hpending, ← hnone]
    exact h.staged
  undrained := fun _ => rfl
  emptied := fun hdrain => nomatch hdrain

theorem skip (h : Attributed e past window injected) {phase : FramePhase}
    (hphase : e.phase ≠ .swapped) (hnext : phase ≠ .swapped) (hdrain : phase ≠ .drainCleared)
    (hopen : phase ≠ .consuming → e.phase ≠ .consuming) :
    Attributed { e with phase := phase } past window injected where
  pastRecords := h.pastRecords
  current := h.current
  fired := h.fired
  staged := by
    rw [channelPending_of_ne hnext, ← channelPending_of_ne hphase]
    exact h.staged
  undrained := fun hne => h.undrained (hopen hne)
  emptied := fun heq => absurd heq hdrain

theorem clearDrainBuffer (h : Attributed e past window injected) (hphase : e.phase = .pumped) :
    Attributed e.clearDrainBuffer past window injected where
  pastRecords := h.pastRecords
  current := h.current
  fired := h.fired
  staged := by
    have hpending : e.clearDrainBuffer.channelPending = e.channelPending :=
      channelPending_phase rfl (by rw [hphase]; decide) (by simp [Execution.clearDrainBuffer])
    rw [hpending]
    exact h.staged
  undrained := fun _ => h.undrained (by rw [hphase]; decide)
  emptied := fun _ => rfl

theorem swap (h : Attributed e past window injected) (hphase : e.phase = .drainCleared) :
    Attributed e.swap past window injected where
  pastRecords := h.pastRecords
  current := h.current
  fired := h.fired
  staged := by
    have hpending : e.swap.channelPending = e.channelPending := by
      have hleft : e.swap.channelPending = e.channel.stagedEvents ++ e.channel.drainBuffer :=
        channelPending_swapped rfl
      rw [hleft, h.emptied hphase, List.append_nil, channelPending_of_ne (by rw [hphase]; decide)]
    rw [hpending]
    exact h.staged
  undrained := fun _ => h.undrained (by rw [hphase]; decide)
  emptied := fun hdrain => nomatch hdrain

theorem append (h : Attributed e past window injected) (hphase : e.phase = .swapped) :
    Attributed e.append past window (injected ++ e.channel.drainBuffer) where
  pastRecords := h.pastRecords
  current := by
    change e.platformEvents.events ++ e.channel.drainBuffer = _
    rw [h.current, List.append_assoc]
  fired := h.fired
  staged := by
    have htake := h.staged
    rw [channelPending_swapped hphase] at htake
    rw [channelPending_of_ne (by simp [Execution.append])]
    exact htake.take
  undrained := fun hne => absurd rfl hne
  emptied := fun hdrain => nomatch hdrain

theorem push (h : Attributed e past window injected) (request : Request)
    (event : PlatformEvent F) : Attributed (e.push request event) past window injected where
  pastRecords := h.pastRecords
  current := h.current
  fired := h.fired
  staged := by
    have hpending : (e.push request event).channelPending = e.channelPending ++ [event] := by
      simp only [Execution.channelPending, List.append_assoc]
      rfl
    rw [hpending]
    exact h.staged.produce event
  undrained := h.undrained
  emptied := h.emptied

end Attributed

theorem attributed_step {reader : FloatReader F} {e e' : Execution F}
    (h : ∃ past window injected, Attributed e past window injected) (hstep : Step reader e e') :
    ∃ past window injected, Attributed e' past window injected := by
  obtain ⟨past, window, injected, h⟩ := h
  cases hstep with
  | callback event now => exact ⟨_, _, _, h.fire event now⟩
  | clear hphase => exact ⟨_, _, _, h.clear hphase⟩
  | pump hphase => exact ⟨_, _, _, h.pump hphase⟩
  | withoutWindowServer hphase =>
    exact ⟨_, _, _, h.skip (by rw [hphase]; decide) (by decide) (by decide)
      fun _ => by rw [hphase]; decide⟩
  | clearDrainBuffer hphase => exact ⟨_, _, _, h.clearDrainBuffer hphase⟩
  | swap hphase => exact ⟨_, _, _, h.swap hphase⟩
  | append hphase => exact ⟨_, _, _, h.append hphase⟩
  | withoutChannel hphase =>
    exact ⟨_, _, _, h.skip (by rw [hphase]; decide) (by decide) (by decide)
      fun hne => absurd rfl hne⟩
  | accept request _ =>
    exact ⟨_, _, _, h.pastRecords, h.current, h.fired, h.staged, h.undrained, h.emptied⟩
  | push request event _ => exact ⟨_, _, _, h.push request event⟩
  | sendReply request reply _ =>
    exact ⟨_, _, _, h.pastRecords, h.current, h.fired, h.staged, h.undrained, h.emptied⟩

theorem attributed_reachable {reader : FloatReader F} {e : Execution F} (h : Reachable reader e) :
    ∃ past window injected, Attributed e past window injected := by
  induction h with
  | refl =>
    exact ⟨[], [], [], rfl, rfl, Conveys.start, Conveys.start, fun _ => rfl,
      fun hdrain => nomatch hdrain⟩
  | tail _ hstep ih => exact attributed_step ih hstep

/-- The reader thread has staged the events of the requests it answers with `ok`. -/
structure Answered (reader : FloatReader F) (e : Execution F) : Prop where
  staged : e.staged = e.acknowledged reader ++ e.unanswered reader
  staging : ∀ request event, e.readerPhase = .staging request event →
    request.event reader = some event
  replying : ∀ request reply, e.readerPhase = .replying request reply →
    request.AnsweredBy reader reply
  answers : ∀ answer ∈ e.answers, answer.request.AnsweredBy reader answer.reply

theorem errorReply_ne_okReply (error : AgentCommandError) : errorReply error ≠ okReply :=
  (errorReply_ne_ok error).symm

namespace Answered

variable {reader : FloatReader F} {e : Execution F}

theorem accept (h : Answered reader e) (request : Request) (hphase : e.readerPhase = .waiting) :
    Answered reader (e.accept reader request) := by
  have hstaged : e.staged = e.acknowledged reader := by
    have hnone : e.unanswered reader = [] := by rw [Execution.unanswered, hphase]
    rw [h.staged, hnone, List.append_nil]
  have hrefused : ∀ error, request.event reader = none → request.error reader = some error →
      Answered reader { e with readerPhase := .replying request (errorReply error) } := by
    intro error hevent hkind
    refine ⟨?_, (fun _ _ heq => nomatch heq), ?_, h.answers⟩
    · change e.staged = e.acknowledged reader ++
        if errorReply error = okReply then (request.event reader).toList else []
      rw [if_neg (errorReply_ne_okReply error), List.append_nil, hstaged]
    · intro request' reply heq
      cases heq
      exact Or.inr ⟨⟨error, hkind, rfl⟩, hevent⟩
  unfold Execution.accept
  cases hdisposition : disposition request.outcomes with
  | dropped =>
    refine ⟨?_, (fun _ _ heq => nomatch heq), (fun _ _ heq => nomatch heq), h.answers⟩
    change e.staged = e.acknowledged reader ++ []
    rw [List.append_nil, hstaged]
  | rejected =>
    exact hrefused .badArgument (by rw [Request.event, hdisposition])
      (by rw [Request.error, hdisposition])
  | handed line =>
    cases hparse : parseCommand reader line with
    | error error =>
      simp only [hparse]
      exact hrefused error (by simp only [Request.event, hdisposition, hparse])
        (by simp only [Request.error, hdisposition, hparse])
    | ok event =>
      simp only [hparse]
      refine ⟨?_, ?_, (fun _ _ heq => nomatch heq), h.answers⟩
      · change e.staged = e.acknowledged reader ++ []
        rw [List.append_nil, hstaged]
      · intro request' event' heq
        cases heq
        simp only [Request.event, hdisposition, hparse]

theorem push (h : Answered reader e) {request : Request} {event : PlatformEvent F}
    (hphase : e.readerPhase = .staging request event) :
    Answered reader (e.push request event) where
  staged := by
    have hevent := h.staging request event hphase
    have hnone : e.unanswered reader = [] := by rw [Execution.unanswered, hphase]
    change e.staged ++ [event] = e.acknowledged reader ++
      if okReply = okReply then (request.event reader).toList else []
    rw [if_pos rfl, hevent, h.staged, hnone, List.append_nil]
    rfl
  staging := fun _ _ heq => nomatch heq
  replying := by
    intro request' reply heq
    cases heq
    exact Or.inl ⟨rfl, by rw [h.staging request event hphase]; rfl⟩
  answers := h.answers

theorem sendReply (h : Answered reader e) {request : Request} {reply : Bytes}
    (hphase : e.readerPhase = .replying request reply) :
    Answered reader (e.sendReply request reply) where
  staged := by
    have hstaged := h.staged
    simp only [Execution.unanswered, hphase] at hstaged
    simp only [Execution.unanswered, Execution.acknowledged, Execution.sendReply,
      List.filterMap_append, List.append_nil]
    rw [hstaged]
    refine congrArg (e.acknowledged reader ++ ·) ?_
    rcases h.replying request reply hphase with ⟨hok, _⟩ | ⟨⟨error, _, herror⟩, _⟩
    · cases hevent : request.event reader <;> simp [hok, hevent]
    · simp [herror, errorReply_ne_okReply]
  staging := fun _ _ heq => nomatch heq
  replying := fun _ _ heq => nomatch heq
  answers := by
    intro answer hanswer
    rcases List.mem_append.mp hanswer with hold | hnew
    · exact h.answers answer hold
    · rw [List.mem_singleton.mp hnew]
      exact h.replying request reply hphase

end Answered

theorem answered_step {reader : FloatReader F} {e e' : Execution F} (h : Answered reader e)
    (hstep : Step reader e e') : Answered reader e' := by
  cases hstep with
  | accept request hphase => exact h.accept request hphase
  | push request event hphase => exact h.push hphase
  | sendReply request reply hphase => exact h.sendReply hphase
  | callback | clear | pump | withoutWindowServer | clearDrainBuffer | swap | append
  | withoutChannel => exact ⟨h.staged, h.staging, h.replying, h.answers⟩

theorem answered_reachable {reader : FloatReader F} {e : Execution F} (h : Reachable reader e) :
    Answered reader e := by
  induction h with
  | refl =>
    exact ⟨rfl, (fun _ _ heq => nomatch heq), (fun _ _ heq => nomatch heq),
      fun _ hmem => nomatch hmem⟩
  | tail _ hstep ih => exact answered_step ih hstep

/-- At any point of any interleaving: each record is window events followed by
injected ones; in order, the window parts and the backend's batch are what the
callbacks appended, and the injected parts and the channel's buffers are what
was staged; what was staged is what `ok` has been or is about to be sent for; and
an answer is `ok` exactly when the request has an event, else it names the request's error. -/
theorem delivered_exactly_once {reader : FloatReader F} {e : Execution F}
    (h : Reachable reader e) :
    (∃ parts : List (List (PlatformEvent F) × List (PlatformEvent F)),
      e.records = parts.map (fun part => part.1 ++ part.2) ∧
      (parts.map Prod.fst).flatten ++ e.windowServer.pendingEvents.events = e.fired ∧
      (parts.map Prod.snd).flatten ++ e.channelPending = e.staged) ∧
    e.staged = e.acknowledged reader ++ e.unanswered reader ∧
    ∀ answer ∈ e.answers, answer.request.AnsweredBy reader answer.reply := by
  obtain ⟨past, window, injected, hattributed⟩ := attributed_reachable h
  have hanswered := answered_reachable h
  refine ⟨⟨past ++ [(window, injected)], ?_, ?_, ?_⟩, hanswered.staged, hanswered.answers⟩
  · rw [Execution.records, hattributed.pastRecords, hattributed.current, List.map_append,
      List.map_singleton]
  · rw [List.map_append, List.map_singleton]
    exact hattributed.fired
  · rw [List.map_append, List.map_singleton]
    exact hattributed.staged

def focusRequest : Request where
  outcomes := [.received (bytesOf "FocusGained\n"), .endOfInput]
  now := 7

/-- A close callback fires before the frame and a second one inside the drain,
while the reader thread serves a focus command. -/
def interleaved : Execution Nat :=
  let served := ((({} : Execution Nat).fire { type := .closeRequested } 3).accept naturalReader
    focusRequest).push focusRequest { type := .focusGained, timestamp := 7 }
  let swapped := ((served.clear.pump.sendReply focusRequest okReply).clearDrainBuffer).swap
  (swapped.fire { type := .closeRequested } 9).append

theorem reachable_interleaved : Reachable naturalReader interleaved := by
  have haccept : Reachable naturalReader
      ((({} : Execution Nat).fire { type := .closeRequested } 3).accept naturalReader
        focusRequest) :=
    (Relation.ReflTransGen.single (.callback _ _ _)).tail (.accept _ _ rfl)
  have hdisposition : disposition focusRequest.outcomes = .handed (bytesOf "FocusGained") := by
    decide
  have hpush := haccept.tail (.push _ focusRequest { type := .focusGained, timestamp := 7 } (by
    simp only [Execution.accept, hdisposition, parseCommand_focusGained layout_focusGained]
    rfl))
  exact (((((((hpush.tail (.clear _ rfl)).tail (.pump _ rfl)).tail
    (.sendReply _ focusRequest okReply rfl)).tail (.clearDrainBuffer _ rfl)).tail
    (.swap _ rfl)).tail (.callback _ _ _)).tail (.append _ rfl))

theorem delivered_exactly_once_interleaved :
    interleaved.records = [[], [{ type := .closeRequested, timestamp := 3 },
      { type := .focusGained, timestamp := 7 }]] ∧
    interleaved.staged =
      interleaved.acknowledged naturalReader ++ interleaved.unanswered naturalReader :=
  ⟨rfl, (delivered_exactly_once reachable_interleaved).2.1⟩

end PlaygroundEngine
