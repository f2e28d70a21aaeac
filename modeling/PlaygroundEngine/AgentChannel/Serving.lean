import PlaygroundEngine.AgentChannel.Lifecycle

/-!
# The reader thread as the channel of the frames

The thread's single calls add up to the steps that the frames see: one connection is received, its
event staged, its reply sent. What a client is sent can be told from its request.
-/

namespace PlaygroundEngine.AgentChannel

open Library
set_option autoImplicit false

variable {F : Type} [Zero F]

def ThreadPhase.readerPhase : ThreadPhase F → ReaderPhase F
  | .staging _ request event => .staging request event
  | .sending _ request reply _ => .replying request reply
  | _ => .waiting

/-- The event of the connection that is not staged yet. -/
def ThreadPhase.unstaged : ThreadPhase F → List (PlatformEvent F)
  | .staging _ _ event => [event]
  | _ => []

/-- The reads so far came to the request, whatever the later ones do. -/
def Gathering.Consistent (gathering : Gathering) : Prop :=
  ∀ rest, receive [] (gathering.outcomes ++ rest) = receive gathering.request rest

def Gathering.Ended (gathering : Gathering) (endOfInput : Bool) : Prop :=
  receive [] gathering.outcomes = some (gathering.request, endOfInput)

/-- Between two looks at the condition the request does not stop the loop. -/
def ThreadPhase.Gathers : ThreadPhase F → Prop
  | .entering (.request gathering) | .polling (.request gathering)
  | .polled (.request gathering) _ _ | .reading gathering =>
    gathering.Consistent ∧ ¬ Stops gathering.request
  | .receiving gathering => gathering.Consistent
  | .responding gathering endOfInput => gathering.Ended endOfInput
  | _ => True

namespace Gathering

variable {gathering : Gathering}

theorem Consistent.start (connection : Connection) :
    ({ connection } : Gathering).Consistent :=
  fun _ => rfl

theorem Consistent.stopped (h : gathering.Consistent) (hstops : Stops gathering.request) :
    gathering.Ended false := by
  have hreceive := h []
  rw [List.append_nil] at hreceive
  exact hreceive.trans (receive_stops hstops [])

theorem Consistent.received (h : gathering.Consistent) (hgoes : ¬ Stops gathering.request)
    (bytes : Bytes) : (gathering.add (.received bytes) bytes).Consistent := by
  intro rest
  change receive [] ((gathering.outcomes ++ [.received bytes]) ++ rest) = _
  rw [List.append_assoc, h]
  exact receive_received hgoes bytes rest

theorem Consistent.interrupted (h : gathering.Consistent) (hgoes : ¬ Stops gathering.request) :
    (gathering.add .interrupted []).Consistent := by
  intro rest
  change receive [] ((gathering.outcomes ++ [.interrupted]) ++ rest) =
    receive (gathering.request ++ []) rest
  rw [List.append_assoc, h, List.append_nil]
  change receive gathering.request (.interrupted :: rest) = _
  rw [receive, if_neg hgoes]

theorem Consistent.ended (h : gathering.Consistent) (hgoes : ¬ Stops gathering.request) :
    (gathering.add .endOfInput []).Ended true := by
  change receive [] (gathering.outcomes ++ [.endOfInput]) = some (gathering.request ++ [], true)
  rw [h, List.append_nil, receive, if_neg hgoes]

/-- The end of `HandleConnection` is the step that accepts the whole request. -/
theorem Ended.readerPhase_respond {endOfInput : Bool} (h : gathering.Ended endOfInput)
    (reader : FloatReader F) (now : UInt64) (e : Execution F) :
    (gathering.respond reader now endOfInput).readerPhase =
      (e.accept reader ⟨gathering.outcomes, now⟩).readerPhase := by
  have hdisposition : disposition gathering.outcomes =
      if lineFeed ∉ gathering.request ∧ endOfInput = false then .rejected
      else .handed (gathering.request.takeWhile fun c => c != lineFeed) := by
    rw [disposition, h]
  unfold Gathering.respond Execution.accept
  dsimp only
  rw [hdisposition]
  by_cases hcut : lineFeed ∉ gathering.request ∧ endOfInput = false
  · rw [if_pos hcut, if_pos hcut]
    rfl
  · rw [if_neg hcut, if_neg hcut]
    dsimp only
    cases parseCommand reader (gathering.request.takeWhile fun c => c != lineFeed) <;> rfl

theorem Ended.unstaged_respond {endOfInput : Bool} (h : gathering.Ended endOfInput)
    (reader : FloatReader F) (now : UInt64) :
    (gathering.respond reader now endOfInput).unstaged =
      (Request.event reader ⟨gathering.outcomes, now⟩).toList := by
  have hdisposition : disposition gathering.outcomes =
      if lineFeed ∉ gathering.request ∧ endOfInput = false then .rejected
      else .handed (gathering.request.takeWhile fun c => c != lineFeed) := by
    rw [disposition, h]
  unfold Gathering.respond Request.event
  dsimp only
  rw [hdisposition]
  by_cases hcut : lineFeed ∉ gathering.request ∧ endOfInput = false
  · rw [if_pos hcut, if_pos hcut]
    rfl
  · rw [if_neg hcut, if_neg hcut]
    dsimp only
    cases parseCommand reader (gathering.request.takeWhile fun c => c != lineFeed) <;> rfl

theorem gathers_respond (reader : FloatReader F) (now : UInt64) (endOfInput : Bool)
    (gathering : Gathering) : (gathering.respond reader now endOfInput).Gathers := by
  unfold Gathering.respond
  dsimp only
  split
  · trivial
  · split <;> trivial

end Gathering

theorem Wait.gathers_abandoned (wait : Wait) : (wait.abandoned : ThreadPhase F).Gathers := by
  cases wait <;> trivial

theorem Wait.gathers_ready (wait : Wait) (h : (ThreadPhase.entering wait : ThreadPhase F).Gathers) :
    (wait.ready : ThreadPhase F).Gathers := by
  cases wait with
  | accept => trivial
  | request gathering => exact h

namespace ThreadStep

variable {stopping wakeSignalled : Bool} {readable : KernelObject → Bool} {kind : StepKind}
  {thread next : ThreadPhase F}

theorem gathers (h : ThreadStep stopping wakeSignalled readable thread kind next)
    (hgathers : thread.Gathers) : next.Gathers := by
  cases h with
  | waitStops wait | pollFails wait => exact wait.gathers_abandoned
  | polledStops wait => exact wait.gathers_abandoned
  | polledReady wait => exact wait.gathers_ready (by cases wait <;> exact hgathers)
  | waitPolls wait | pollInterrupted wait => cases wait <;> exact hgathers
  | pollReturns wait | pollReturnsEmpty wait => cases wait <;> exact hgathers
  | polledAgain wait => cases wait <;> exact hgathers
  | gatherEnds gathering hstops => exact hgathers.stopped hstops
  | gatherWaits gathering hgoes => exact ⟨hgathers, hgoes⟩
  | reads gathering bytes => exact hgathers.1.received hgathers.2 bytes
  | readEnds => exact hgathers.1.ended hgathers.2
  | readInterrupted => exact hgathers.1.interrupted hgathers.2
  | _ => trivial

theorem readerPhase (h : ThreadStep stopping wakeSignalled readable thread kind next) :
    thread.readerPhase = .waiting ∧ next.readerPhase = .waiting := by
  cases h with
  | waitStops wait | pollFails wait => cases wait <;> exact ⟨rfl, rfl⟩
  | polledStops wait => cases wait <;> exact ⟨rfl, rfl⟩
  | polledReady wait => cases wait <;> exact ⟨rfl, rfl⟩
  | _ => exact ⟨rfl, rfl⟩

theorem unstaged (h : ThreadStep stopping wakeSignalled readable thread kind next) :
    thread.unstaged = [] ∧ next.unstaged = [] := by
  cases h with
  | waitStops wait | pollFails wait => cases wait <;> exact ⟨rfl, rfl⟩
  | polledStops wait => cases wait <;> exact ⟨rfl, rfl⟩
  | polledReady wait => cases wait <;> exact ⟨rfl, rfl⟩
  | _ => exact ⟨rfl, rfl⟩

end ThreadStep

/-! ### The frames' channel -/

/-- The process seen as one run of the frames' channel. -/
structure Refines (reader : FloatReader F) (s : Process F) : Prop where
  gathers : s.thread.Gathers
  phase : s.execution.readerPhase = s.thread.readerPhase
  reachable : PlaygroundEngine.Reachable reader s.execution

theorem Process.Initial.refines {s : Process F} (h : s.Initial) (reader : FloatReader F) :
    Refines reader s := by
  rw [h.fresh]
  exact ⟨trivial, rfl, Relation.ReflTransGen.refl⟩

theorem Refines.same {reader : FloatReader F} {s s' : Process F} (h : Refines reader s)
    (hexecution : s'.execution = s.execution) (hgathers : s'.thread.Gathers)
    (hphase : s'.thread.readerPhase = s.thread.readerPhase) : Refines reader s' := by
  refine ⟨hgathers, ?_, ?_⟩
  · rw [hexecution, hphase, h.phase]
  · rw [hexecution]
    exact h.reachable

theorem ThreadPhase.readerPhase_of_idle {thread : ThreadPhase F} (h : thread.idle = true) :
    thread.readerPhase = .waiting := by
  cases thread with
  | unstarted => rfl
  | finished => rfl
  | _ => exact absurd h Bool.false_ne_true

theorem Refines.step {reader : FloatReader F} {pathLength : Nat} {kind : StepKind}
    {s s' : Process F} (h : Refines reader s) (hopened : Opened s)
    (hstep : ProcessStep reader pathLength s kind s') : Refines reader s' := by
  cases hstep with
  | unlinkLeftover fails | unlinkSocket fails =>
    exact h.same (s.unlink_execution _ fails) ((s.unlink_thread _ fails).symm ▸ h.gathers)
      (congrArg _ (s.unlink_thread _ fails))
  | unlinkUnstarted error fails =>
    exact h.same (s.unlink_execution _ fails) ((s.unlink_thread _ fails).symm ▸ h.gathers)
      (congrArg _ (s.unlink_thread _ fails))
  | frame execution _ hframe hphase =>
    exact ⟨h.gathers, hphase.trans h.phase, h.reachable.tail hframe⟩
  | eventfd descriptor hmain =>
    refine h.same rfl trivial (ThreadPhase.readerPhase_of_idle ?_).symm
    exact hopened.idle.resolve_left (by rw [hmain]; exact Bool.false_ne_true)
  | thread kind next more hthread =>
    refine h.same rfl (hthread.gathers h.gathers) ?_
    rw [hthread.readerPhase.1]
    exact hthread.readerPhase.2
  | accept descriptor more hthread =>
    exact h.same rfl (Gathering.Consistent.start _) (by rw [hthread]; rfl)
  | respond gathering endOfInput now hthread =>
    have hended : gathering.Ended endOfInput := by
      have hgathers := h.gathers
      rw [hthread] at hgathers
      exact hgathers
    have hwaiting : s.execution.readerPhase = .waiting := by
      rw [h.phase, hthread]
      rfl
    exact ⟨gathering.gathers_respond reader now endOfInput,
      (hended.readerPhase_respond reader now s.execution).symm,
      h.reachable.tail (.accept _ _ hwaiting)⟩
  | stage connection request event hthread =>
    have hstaging : s.execution.readerPhase = .staging request event := by
      rw [h.phase, hthread]
      rfl
    exact ⟨trivial, rfl, h.reachable.tail (.push _ _ _ hstaging)⟩
  | send connection request reply sent written room hthread =>
    exact h.same rfl trivial (by rw [hthread]; rfl)
  | sendEnds connection request reply sent hthread =>
    have hreplying : s.execution.readerPhase = .replying request reply := by
      rw [h.phase, hthread]
      rfl
    exact ⟨trivial, rfl, h.reachable.tail (.sendReply _ _ _ hreplying)⟩
  | close connection hthread => exact h.same rfl trivial (by rw [hthread]; rfl)
  | sendInterrupted => exact h
  | _ => exact h.same rfl h.gathers rfl

theorem Refines.of_reachable {reader : FloatReader F} {pathLength : Nat} {s : Process F}
    (h : s.Reachable reader pathLength) : Refines reader s := by
  induction h with
  | initial hinitial => exact hinitial.refines reader
  | step hreachable hstep ih => exact ih.step (Opened.reachable hreachable) hstep

def eventsOf (reader : FloatReader F) (requests : Nat → Option Request) (count : Nat) :
    List (PlatformEvent F) :=
  (List.range count).filterMap fun number => (requests number).bind (Request.event reader)

section eventsOf

variable {reader : FloatReader F} {requests : Nat → Option Request}

theorem eventsOf_succ (count : Nat) : eventsOf reader requests (count + 1) =
    eventsOf reader requests count ++
      ((requests count).bind (Request.event reader)).toList := by
  rw [eventsOf, List.range_succ, List.filterMap_append]
  refine congrArg (eventsOf reader requests count ++ ·) ?_
  rw [List.filterMap_cons, List.filterMap_nil]
  cases (requests count).bind (Request.event reader) <;> rfl

theorem eventsOf_update {count number : Nat} (h : count ≤ number) (request : Option Request) :
    eventsOf reader (Function.update requests number request) count =
      eventsOf reader requests count := by
  refine List.filterMap_congr fun other hother => ?_
  have hne : other ≠ number := Nat.ne_of_lt (Nat.lt_of_lt_of_le (List.mem_range.mp hother) h)
  rw [Function.update_of_ne hne]

end eventsOf

/-- The request that is still received. -/
def ThreadPhase.gathering? : ThreadPhase F → Option Gathering
  | .entering (.request gathering) | .polling (.request gathering)
  | .polled (.request gathering) _ _ | .receiving gathering | .reading gathering
  | .responding gathering _ => some gathering
  | _ => none

/-- The request that is received as a whole and not answered yet. -/
def ThreadPhase.served? : ThreadPhase F → Option (Connection × Request)
  | .staging connection request _ | .sending connection request _ _ => some (connection, request)
  | _ => none

/-- What the connection that is still to be written to was sent. -/
def ThreadPhase.sent? (thread : ThreadPhase F) : Option (Connection × Bytes) :=
  match thread with
  | .staging connection _ _ => some (connection, [])
  | .sending connection _ reply sent => some (connection, reply.take sent)
  | _ => thread.gathering?.map fun gathering => (gathering.connection, [])

namespace ThreadStep

variable {stopping wakeSignalled : Bool} {readable : KernelObject → Bool} {kind : StepKind}
  {thread next : ThreadPhase F}

theorem served? (h : ThreadStep stopping wakeSignalled readable thread kind next) :
    next.served? = none := by
  cases h with
  | waitStops wait | pollFails wait => cases wait <;> rfl
  | polledStops wait => cases wait <;> rfl
  | polledReady wait => cases wait <;> rfl
  | _ => rfl

theorem sent? (h : ThreadStep stopping wakeSignalled readable thread kind next)
    {sent : Connection × Bytes} (hsent : next.sent? = some sent) : thread.sent? = some sent := by
  cases h with
  | waitStops wait | pollFails wait => cases wait <;> cases hsent
  | polledStops wait => cases wait <;> cases hsent
  | waitPolls wait | pollInterrupted wait => cases wait <;> exact hsent
  | pollReturns wait | pollReturnsEmpty wait => cases wait <;> exact hsent
  | polledReady wait => cases wait <;> exact hsent
  | polledAgain wait => cases wait <;> exact hsent
  | loopStops | loopWaits | pollTimesOut | acceptInterrupted | acceptFails | readFails =>
    cases hsent
  | gatherEnds | gatherWaits | reads | readEnds | readInterrupted => exact hsent

theorem gathering? (h : ThreadStep stopping wakeSignalled readable thread kind next)
    {gathering : Gathering} (hnext : next.gathering? = some gathering) :
    ∃ before, thread.gathering? = some before ∧ before.connection = gathering.connection := by
  cases h with
  | waitStops wait | pollFails wait => cases wait <;> cases hnext
  | polledStops wait => cases wait <;> cases hnext
  | waitPolls wait | pollInterrupted wait => cases wait <;> exact ⟨gathering, hnext, rfl⟩
  | pollReturns wait | pollReturnsEmpty wait => cases wait <;> exact ⟨gathering, hnext, rfl⟩
  | polledReady wait => cases wait <;> exact ⟨gathering, hnext, rfl⟩
  | polledAgain wait => cases wait <;> exact ⟨gathering, hnext, rfl⟩
  | loopStops | loopWaits | pollTimesOut | acceptInterrupted | acceptFails | readFails =>
    cases hnext
  | gatherEnds before | gatherWaits before => exact ⟨gathering, hnext, rfl⟩
  | reads before => exact ⟨before, rfl, by cases hnext; rfl⟩
  | readEnds before | readInterrupted before => exact ⟨before, rfl, by cases hnext; rfl⟩

end ThreadStep

theorem Gathering.answers_respond (reader : FloatReader F) (now : UInt64) (endOfInput : Bool)
    (gathering : Gathering) :
    (gathering.respond reader now endOfInput).gathering? = none ∧
      (gathering.respond reader now endOfInput).served? =
        some (gathering.connection, ⟨gathering.outcomes, now⟩) ∧
      (gathering.respond reader now endOfInput).sent? = some (gathering.connection, []) := by
  unfold Gathering.respond
  dsimp only
  split
  · exact ⟨rfl, rfl, rfl⟩
  · split <;> exact ⟨rfl, rfl, rfl⟩

/-- The thread has taken up nothing new. -/
structure ThreadPhase.Continues (thread next : ThreadPhase F) : Prop where
  connection : ∀ {connection}, next.connection? = some connection →
    thread.connection? = some connection
  gathering : ∀ {gathering}, next.gathering? = some gathering →
    ∃ before, thread.gathering? = some before ∧ before.connection = gathering.connection
  served : ∀ {served}, next.served? = some served → thread.served? = some served
  sent : ∀ {sent}, next.sent? = some sent → thread.sent? = some sent
  unstaged : next.unstaged = thread.unstaged

namespace ThreadPhase.Continues

variable {thread next : ThreadPhase F}

theorem refl (thread : ThreadPhase F) : Continues thread thread where
  connection h := h
  gathering h := ⟨_, h, rfl⟩
  served h := h
  sent h := h
  unstaged := rfl

theorem step {stopping wakeSignalled : Bool} {readable : KernelObject → Bool} {kind : StepKind}
    (h : ThreadStep stopping wakeSignalled readable thread kind next) : Continues thread next where
  connection hnext := h.connection?.symm.trans hnext
  gathering hnext := h.gathering? hnext
  served hnext := absurd (h.served?.symm.trans hnext) (Option.some_ne_none _).symm
  sent hnext := h.sent? hnext
  unstaged := h.unstaged.2.trans h.unstaged.1.symm

theorem toHead (hunstaged : thread.unstaged = []) : Continues thread .head where
  connection hnext := nomatch hnext
  gathering hnext := nomatch hnext
  served hnext := nomatch hnext
  sent hnext := nomatch hnext
  unstaged := hunstaged.symm

theorem toClosing (connection : Connection) (request : Request) (reply : Bytes) (sent : Nat) :
    Continues (.sending connection request reply sent : ThreadPhase F) (.closing connection) where
  connection hnext := hnext
  gathering hnext := nomatch hnext
  served hnext := nomatch hnext
  sent hnext := nomatch hnext
  unstaged := rfl

end ThreadPhase.Continues

structure Served (reader : FloatReader F) (s : Process F) : Prop where
  current : ∀ connection, s.thread.connection? = some connection →
    connection.number + 1 = s.accepted
  unrequested : ∀ gathering, s.thread.gathering? = some gathering →
    s.requests gathering.connection.number = none
  requested : ∀ connection request, s.thread.served? = some (connection, request) →
    s.requests connection.number = some request
  sent : ∀ connection bytes, s.thread.sent? = some (connection, bytes) →
    s.wire connection.number = bytes
  fresh : ∀ number, s.accepted ≤ number → s.requests number = none ∧ s.wire number = []
  staged : s.execution.staged ++ s.thread.unstaged = eventsOf reader s.requests s.accepted
  wire : ∀ number, s.wire number ≠ [] → ∃ request reply, s.requests number = some request ∧
    request.AnsweredBy reader reply ∧ s.wire number <+: reply ∧
    eventsOf reader s.requests (number + 1) <+: s.execution.staged

theorem Process.Initial.served {s : Process F} (h : s.Initial) (reader : FloatReader F) :
    Served reader s := by
  rw [h.fresh]
  exact
    { current := fun _ hnone => nomatch hnone
      unrequested := fun _ hnone => nomatch hnone
      requested := fun _ _ hnone => nomatch hnone
      sent := fun _ _ hnone => nomatch hnone
      fresh := fun _ _ => ⟨rfl, rfl⟩
      staged := rfl
      wire := fun _ hne => absurd rfl hne }

namespace Served

variable {reader : FloatReader F} {s s' : Process F}

theorem continues (h : Served reader s) (hthread : s.thread.Continues s'.thread)
    (hstaged : s'.execution.staged = s.execution.staged) (haccepted : s'.accepted = s.accepted)
    (hrequests : s'.requests = s.requests) (hwire : s'.wire = s.wire) : Served reader s' where
  current connection hnext := by
    rw [haccepted]
    exact h.current connection (hthread.connection hnext)
  unrequested gathering hnext := by
    obtain ⟨before, hbefore, hsame⟩ := hthread.gathering hnext
    rw [hrequests, ← hsame]
    exact h.unrequested before hbefore
  requested connection request hnext := by
    rw [hrequests]
    exact h.requested connection request (hthread.served hnext)
  sent connection bytes hnext := by
    rw [hwire]
    exact h.sent connection bytes (hthread.sent hnext)
  fresh number hnumber := by
    rw [hrequests, hwire]
    exact h.fresh number (haccepted ▸ hnumber)
  staged := by
    rw [hstaged, hthread.unstaged, hrequests, haccepted]
    exact h.staged
  wire := by
    rw [hwire, hrequests, hstaged]
    exact h.wire

theorem number_lt (h : Served reader s) {number : Nat} (hwire : s.wire number ≠ []) :
    number < s.accepted :=
  Nat.lt_of_not_le fun hle => hwire (h.fresh number hle).2

theorem accept (h : Served reader s) (hthread : s.thread = .accepting) (descriptor : Descriptor)
    (more : Bool) :
    Served reader { s with
      table := Function.update s.table descriptor (some (.connection s.accepted))
      readable := Function.update s.readable .listener more
      accepted := s.accepted + 1
      thread := .receiving { connection := ⟨descriptor, s.accepted⟩ } } where
  current connection hnext := by
    cases hnext
    rfl
  unrequested gathering hnext := by
    cases hnext
    exact (h.fresh s.accepted (Nat.le_refl _)).1
  requested _ _ hnext := nomatch hnext
  sent connection bytes hnext := by
    cases hnext
    exact (h.fresh s.accepted (Nat.le_refl _)).2
  fresh number hnumber := h.fresh number (Nat.le_of_succ_le hnumber)
  staged := by
    have hstaged := h.staged
    rw [hthread] at hstaged
    change s.execution.staged ++ [] = eventsOf reader s.requests (s.accepted + 1)
    rw [eventsOf_succ, (h.fresh s.accepted (Nat.le_refl _)).1, ← hstaged]
    exact (List.append_nil _).symm
  wire := h.wire

theorem respond (h : Served reader s) {gathering : Gathering} {endOfInput : Bool}
    (hthread : s.thread = .responding gathering endOfInput)
    (hended : gathering.Ended endOfInput) (now : UInt64) :
    Served reader { s with
      execution := s.execution.accept reader ⟨gathering.outcomes, now⟩
      requests := Function.update s.requests gathering.connection.number
        (some ⟨gathering.outcomes, now⟩)
      thread := gathering.respond reader now endOfInput } := by
  obtain ⟨hgathering, hserved, hsent⟩ := gathering.answers_respond reader now endOfInput
  have hcurrent : gathering.connection.number + 1 = s.accepted :=
    h.current gathering.connection (by rw [hthread]; rfl)
  have hsilent : s.wire gathering.connection.number = [] :=
    h.sent gathering.connection [] (by rw [hthread]; rfl)
  refine ⟨?_, ?_, ?_, ?_, ?_, ?_, ?_⟩
  · intro connection hnext
    rw [gathering.connection?_respond reader now endOfInput] at hnext
    cases hnext
    exact hcurrent
  · intro other hnext
    exact absurd (hgathering.symm.trans hnext) (Option.some_ne_none _).symm
  · intro connection request hnext
    have hsame := Option.some_inj.mp (hserved.symm.trans hnext)
    cases hsame
    exact Function.update_self ..
  · intro connection bytes hnext
    have hsame := Option.some_inj.mp (hsent.symm.trans hnext)
    cases hsame
    exact hsilent
  · intro number hnumber
    have hne : number ≠ gathering.connection.number := by
      change s.accepted ≤ number at hnumber
      omega
    have hfresh := h.fresh number hnumber
    exact ⟨(Function.update_of_ne hne ..).trans hfresh.1, hfresh.2⟩
  · have hstaged := h.staged
    have hnone := h.unrequested gathering (by rw [hthread]; rfl)
    rw [hthread, ← hcurrent, eventsOf_succ, hnone] at hstaged
    change s.execution.staged ++ [] = eventsOf reader s.requests _ ++ [] at hstaged
    rw [List.append_nil, List.append_nil] at hstaged
    change s.execution.staged ++ (gathering.respond reader now endOfInput).unstaged =
      eventsOf reader (Function.update s.requests gathering.connection.number
        (some ⟨gathering.outcomes, now⟩)) s.accepted
    rw [hended.unstaged_respond reader now, ← hcurrent, eventsOf_succ,
      eventsOf_update (Nat.le_refl _), Function.update_self, hstaged]
    rfl
  · intro number hwire
    have hlt := h.number_lt hwire
    have hne : number ≠ gathering.connection.number := fun heq => hwire (heq ▸ hsilent)
    obtain ⟨request, reply, hrequest, hanswered, hprefix, hevents⟩ := h.wire number hwire
    refine ⟨request, reply, (Function.update_of_ne hne ..).trans hrequest, hanswered, hprefix, ?_⟩
    have hle : number + 1 ≤ gathering.connection.number := by omega
    have hsame : eventsOf reader (Function.update s.requests gathering.connection.number
        (some ⟨gathering.outcomes, now⟩)) (number + 1) =
        eventsOf reader s.requests (number + 1) := eventsOf_update hle _
    exact hsame ▸ hevents

theorem stage (h : Served reader s) {connection : Connection} {request : Request}
    {event : PlatformEvent F} (hthread : s.thread = .staging connection request event) :
    Served reader { s with
      execution := s.execution.push request event
      thread := .sending connection request okReply 0 } where
  current other hnext := by
    cases hnext
    exact h.current connection (by rw [hthread]; rfl)
  unrequested _ hnext := nomatch hnext
  requested other request' hnext := by
    cases hnext
    exact h.requested connection request (by rw [hthread]; rfl)
  sent other bytes hnext := by
    cases hnext
    exact h.sent connection [] (by rw [hthread]; rfl)
  fresh := h.fresh
  staged := by
    have hstaged := h.staged
    rw [hthread] at hstaged
    exact (List.append_nil _).trans hstaged
  wire number hwire := by
    obtain ⟨request', reply, hrequest, hanswered, hprefix, hevents⟩ := h.wire number hwire
    exact ⟨request', reply, hrequest, hanswered, hprefix, hevents.trans (List.prefix_append _ _)⟩

theorem send (h : Served reader s) {connection : Connection} {request : Request} {reply : Bytes}
    {sent : Nat} (hthread : s.thread = .sending connection request reply sent)
    (hanswered : request.AnsweredBy reader reply) (written : Nat) (room : Bool) :
    Served reader { s with
      wire := Function.update s.wire connection.number
        (s.wire connection.number ++ (reply.drop sent).take written)
      writable := Function.update s.writable connection.number room
      thread := .sending connection request reply (sent + written) } := by
  have hcurrent : connection.number + 1 = s.accepted :=
    h.current connection (by rw [hthread]; rfl)
  have hrequested : s.requests connection.number = some request :=
    h.requested connection request (by rw [hthread]; rfl)
  have hsent : s.wire connection.number ++ (reply.drop sent).take written =
      reply.take (sent + written) := by
    rw [h.sent connection (reply.take sent) (by rw [hthread]; rfl), List.take_add]
  refine ⟨?_, (fun _ hnext => nomatch hnext), ?_, ?_, ?_, ?_, ?_⟩
  · intro other hnext
    cases hnext
    exact hcurrent
  · intro other request' hnext
    cases hnext
    exact hrequested
  · intro other bytes hnext
    cases hnext
    exact (Function.update_self ..).trans hsent
  · intro number hnumber
    have hne : number ≠ connection.number := by
      change s.accepted ≤ number at hnumber
      omega
    have hfresh := h.fresh number hnumber
    exact ⟨hfresh.1, (Function.update_of_ne hne ..).trans hfresh.2⟩
  · have hstaged := h.staged
    rw [hthread] at hstaged
    exact hstaged
  · intro number hwire
    dsimp only at hwire ⊢
    by_cases hsame : number = connection.number
    · subst hsame
      refine ⟨request, reply, hrequested, hanswered, ?_, ?_⟩
      · rw [Function.update_self, hsent]
        exact List.take_prefix _ _
      · have hstaged := h.staged
        rw [hthread, ← hcurrent] at hstaged
        rw [← hstaged]
        exact (List.append_nil _) ▸ List.prefix_refl _
    · rw [Function.update_of_ne hsame] at hwire ⊢
      exact h.wire number hwire

theorem step {pathLength : Nat} {kind : StepKind} (h : Served reader s)
    (hopened : Opened s) (hrefines : Refines reader s)
    (hstep : ProcessStep reader pathLength s kind s') : Served reader s' := by
  have hidle : s.main.serving = false → s.thread.unstaged = [] := by
    intro hmain
    have hthread := hopened.idle.resolve_left (by rw [hmain]; exact Bool.false_ne_true)
    revert hthread
    cases s.thread <;> simp [ThreadPhase.idle, ThreadPhase.unstaged]
  have hmain : s'.thread = s.thread → s'.execution.staged = s.execution.staged →
      s'.accepted = s.accepted → s'.requests = s.requests → s'.wire = s.wire →
      Served reader s' := by
    intro hthread hstaged haccepted hrequests hwire
    exact h.continues (hthread ▸ .refl s.thread) hstaged haccepted hrequests hwire
  cases hstep with
  | unlinkLeftover fails | unlinkSocket fails =>
    exact hmain (s.unlink_thread _ fails) (congrArg _ (s.unlink_execution _ fails))
      (s.unlink_accepted _ fails) (s.unlink_requests _ fails) (s.unlink_wire _ fails)
  | unlinkUnstarted error fails =>
    exact hmain (s.unlink_thread _ fails) (congrArg _ (s.unlink_execution _ fails))
      (s.unlink_accepted _ fails) (s.unlink_requests _ fails) (s.unlink_wire _ fails)
  | frame execution _ _ _ _ hstaged => exact hmain rfl hstaged rfl rfl rfl
  | eventfd descriptor heq =>
    exact h.continues (.toHead (hidle (by rw [heq]; rfl))) rfl rfl rfl rfl
  | thread kind next more hthread => exact h.continues (.step hthread) rfl rfl rfl rfl
  | accept descriptor more hthread => exact h.accept hthread descriptor more
  | respond gathering endOfInput now hthread =>
    have hgathers := hrefines.gathers
    rw [hthread] at hgathers
    exact h.respond hthread hgathers now
  | stage connection request event hthread => exact h.stage hthread
  | send connection request reply sent written room hthread =>
    have hphase := hrefines.phase
    rw [hthread] at hphase
    have hanswered := (answered_reachable hrefines.reachable).replying request reply hphase
    exact h.send hthread hanswered written room
  | sendEnds connection request reply sent hthread =>
    exact h.continues (hthread ▸ .toClosing connection request reply sent) rfl rfl rfl rfl
  | close connection hthread =>
    exact h.continues (.toHead (by rw [hthread]; rfl)) rfl rfl rfl rfl
  | sendInterrupted => exact h
  | _ => exact hmain rfl rfl rfl rfl rfl

theorem of_reachable {pathLength : Nat} (h : s.Reachable reader pathLength) :
    Served reader s := by
  induction h with
  | initial hinitial => exact hinitial.served reader
  | step hreachable hstep ih =>
    exact ih.step (Opened.reachable hreachable) (.of_reachable hreachable) hstep

end Served

/-- A client that was sent anything was sent the beginning of the reply to its request, and by then
its event and those of all clients before it were staged. -/
theorem reply_follows_event {reader : FloatReader F} {pathLength : Nat} {s : Process F}
    (h : s.Reachable reader pathLength) {number : Nat} (hwire : s.wire number ≠ []) :
    ∃ request reply, s.requests number = some request ∧ request.AnsweredBy reader reply ∧
      s.wire number <+: reply ∧
      eventsOf reader s.requests (number + 1) <+: s.execution.staged :=
  (Served.of_reachable h).wire number hwire

/-- The frames take over one event for each connection whose request has one, in the order in
which the connections were accepted, however the threads' calls fall. -/
theorem injected_in_order {reader : FloatReader F} {pathLength : Nat} {s : Process F}
    (h : s.Reachable reader pathLength) :
    ∃ parts : List (List (PlatformEvent F) × List (PlatformEvent F)),
      s.execution.records = parts.map (fun part => part.1 ++ part.2) ∧
      (parts.map Prod.fst).flatten ++ s.execution.windowServer.pendingEvents.events =
        s.execution.fired ∧
      (parts.map Prod.snd).flatten ++ (s.execution.channelPending ++ s.thread.unstaged) =
        eventsOf reader s.requests s.accepted := by
  obtain ⟨past, window, injected, hattributed⟩ :=
    attributed_reachable (Refines.of_reachable h).reachable
  refine ⟨past ++ [(window, injected)], ?_, ?_, ?_⟩
  · rw [Execution.records, hattributed.pastRecords, hattributed.current, List.map_append,
      List.map_singleton]
  · rw [List.map_append, List.map_singleton]
    exact hattributed.fired
  · rw [← (Served.of_reachable h).staged, List.map_append, List.map_singleton,
      ← List.append_assoc]
    exact congrArg (· ++ s.thread.unstaged) hattributed.staged

def focusLine : Bytes := bytesOf "FocusGained\n"

/-- The focus command is staged and the first byte of its reply sent. -/
def answering : Process Nat := { waiting with
  execution := (({} : Execution Nat).accept naturalReader ⟨[.received focusLine], 7⟩).push
    ⟨[.received focusLine], 7⟩ { type := .focusGained, timestamp := 7 }
  table := Function.update waiting.table 5 (some (.connection 0))
  accepted := 1
  requests := Function.update (fun _ => none) 0 (some ⟨[.received focusLine], 7⟩)
  wire := Function.update (fun _ => []) 0 (okReply.take 1)
  readable := Function.update (Function.update (Function.update (Function.update (fun _ => false)
    .listener true) .listener false) (.connection 0) true) (.connection 0) false
  writable := Function.update (fun _ => true) 0 true
  thread := .sending ⟨5, 0⟩ ⟨[.received focusLine], 7⟩ okReply 1 }

theorem respond_focusLine :
    ({ connection := ⟨5, 0⟩, outcomes := [.received focusLine], request := focusLine } :
      Gathering).respond naturalReader 7 false =
    .staging ⟨5, 0⟩ ⟨[.received focusLine], 7⟩ { type := .focusGained, timestamp := 7 } := by
  have hended : lineFeed ∈ focusLine := by decide
  have hline : focusLine.takeWhile (fun c => c != lineFeed) = bytesOf "FocusGained" := by decide
  simp only [Gathering.respond, hended, not_true_eq_false, false_and, if_false, hline,
    parseCommand_focusGained layout_focusGained]

theorem reachable_answering : answering.Reachable naturalReader 19 := by
  have hconnected := ((reachable_waiting.step (.arrives .listener)).step
    (.thread _ _ false (.pollReturns .accept false true nofun (fun _ => rfl) (Or.inr rfl)))).step
    (.thread _ _ false (.polledReady .accept rfl))
  have haccepted := hconnected.step (.accept 5 false rfl rfl rfl)
  have hpolling := ((haccepted.step (.thread _ _ false (.gatherWaits _ not_stops_nil))).step
    (.thread _ _ false (.waitPolls _ rfl))).step (.arrives (.connection 0))
  have hpolled := hpolling.step
    (.thread _ _ false (.pollReturns _ false true nofun (fun _ => rfl) (Or.inr rfl)))
  have hread := (hpolled.step (.thread _ _ false (.polledReady _ rfl))).step
    (.thread _ _ false (.reads _ focusLine rfl (by decide) (by decide)))
  have hresponding := hread.step (.thread _ _ false (.gatherEnds _ (Or.inl (by decide))))
  have hstaging := hresponding.step (.respond _ false 7 rfl)
  have hsending := hstaging.step (.stage _ _ _ respond_focusLine)
  exact hsending.step (.send _ _ okReply 0 1 true rfl rfl (by decide) (by decide))

theorem reply_follows_event_answering :
    ∃ request reply, answering.requests 0 = some request ∧
      request.AnsweredBy naturalReader reply ∧ answering.wire 0 <+: reply ∧
      eventsOf naturalReader answering.requests 1 <+: answering.execution.staged :=
  reply_follows_event reachable_answering (by decide)

theorem injected_in_order_answering :
    ∃ parts : List (List (PlatformEvent Nat) × List (PlatformEvent Nat)),
      answering.execution.records = parts.map (fun part => part.1 ++ part.2) ∧
      (parts.map Prod.snd).flatten ++ (answering.execution.channelPending ++ []) =
        eventsOf naturalReader answering.requests 1 := by
  obtain ⟨parts, hrecords, _, hinjected⟩ := injected_in_order reachable_answering
  exact ⟨parts, hrecords, hinjected⟩

end PlaygroundEngine.AgentChannel
