import PlaygroundEngine.AgentChannel.Serving
import PlaygroundEngine.Library.Countdown

/-!
# The end of `Stop`

The wake and the flag reach the thread wherever it is, and what it still has to do is bounded. It
can be kept waiting only where neither the wake nor a client lets its call return.
-/

namespace PlaygroundEngine.AgentChannel

open Library
set_option autoImplicit false

variable {F : Type} [Zero F]

def MainPhase.stops : MainPhase → Bool
  | .signalling | .joining | .closingListener | .closingWake | .unlinkingSocket | .stopped => true
  | _ => false

/-- The steps that `Stop` still takes. -/
def MainPhase.remaining : MainPhase → Nat
  | .signalling => 5
  | .joining => 4
  | .closingListener => 3
  | .closingWake => 2
  | .unlinkingSocket => 1
  | _ => 0

/-- No more steps than these are left to the thread once it can see the flag. -/
def ThreadPhase.remaining : ThreadPhase F → Nat
  | .unstarted | .finished => 0
  | .head | .entering .accept | .polled .accept _ _ => 1
  | .polling .accept | .closing _ => 2
  | .entering (.request _) | .polled (.request _) _ _ => 3
  | .polling (.request _) => 4
  | .sending _ _ reply sent => 3 + (reply.length - sent)
  | .staging _ _ _ => 7
  | .responding _ _ => 27
  | .receiving _ => 28
  | .reading _ | .accepting => 29

def Process.remaining (s : Process F) : Nat := s.main.remaining + s.thread.remaining

theorem StepKind.weight_le (kind : StepKind) : kind.weight ≤ 1 := by
  cases kind <;> decide

theorem errorReply_length (error : AgentCommandError) : (errorReply error).length ≤ 23 := by
  cases error <;> decide

theorem Gathering.remaining_respond (reader : FloatReader F) (now : UInt64) (endOfInput : Bool)
    (gathering : Gathering) : (gathering.respond reader now endOfInput).remaining < 27 := by
  have hreply : ∀ error, 3 + ((errorReply error).length - 0) < 27 := by
    intro error
    have hlength := errorReply_length error
    omega
  unfold Gathering.respond
  dsimp only
  split
  · exact hreply .badArgument
  · split
    · exact hreply _
    · exact (by decide : 7 < 27)

def ThreadPhase.started : ThreadPhase F → Bool
  | .unstarted => false
  | _ => true

theorem ThreadStep.started {stopping wakeSignalled : Bool} {readable : KernelObject → Bool}
    {kind : StepKind} {thread next : ThreadPhase F}
    (h : ThreadStep stopping wakeSignalled readable thread kind next) : next.started = true := by
  cases h with
  | waitStops wait => cases wait <;> rfl
  | pollFails wait => cases wait <;> rfl
  | polledStops wait => cases wait <;> rfl
  | polledReady wait => cases wait <;> rfl
  | _ => rfl

theorem Gathering.started_respond (reader : FloatReader F) (now : UInt64) (endOfInput : Bool)
    (gathering : Gathering) : (gathering.respond reader now endOfInput).started = true := by
  unfold Gathering.respond
  dsimp only
  split
  · rfl
  · split <;> rfl

theorem ThreadStep.remaining_lt {wakeSignalled : Bool} {readable : KernelObject → Bool}
    {kind : StepKind} {thread next : ThreadPhase F}
    (h : ThreadStep true wakeSignalled readable thread kind next) :
    next.remaining < thread.remaining := by
  cases h with
  | waitStops wait => cases wait <;> simp [ThreadPhase.remaining, Wait.abandoned]
  | pollInterrupted wait => cases wait <;> simp [ThreadPhase.remaining]
  | pollFails wait => cases wait <;> simp [ThreadPhase.remaining, Wait.abandoned]
  | pollReturns wait => cases wait <;> simp [ThreadPhase.remaining]
  | pollReturnsEmpty wait => cases wait <;> simp [ThreadPhase.remaining]
  | polledStops wait => cases wait <;> simp [ThreadPhase.remaining, Wait.abandoned]
  | loopWaits hflag | waitPolls _ hflag | polledReady _ hflag | polledAgain _ hflag =>
    exact absurd hflag Bool.noConfusion
  | _ => simp [ThreadPhase.remaining]

/-- `Stop` alone sets the flag, and the thread was started before it. -/
structure Process.StopsOnFlag (s : Process F) : Prop where
  flag : s.stopping = true → s.main.stops = true
  started : s.thread.started = true ∨ s.main ≠ .running ∧ s.main.stops = false

theorem Process.StopsOnFlag.step {reader : FloatReader F} {pathLength : Nat} {kind : StepKind}
    {s s' : Process F} (h : s.StopsOnFlag) (hstep : ProcessStep reader pathLength s kind s') :
    s'.StopsOnFlag := by
  have hmain : s'.stopping = s.stopping → s'.thread = s.thread →
      (s.main = .running ∨ s.main.stops = true ↔ s'.main = .running ∨ s'.main.stops = true) →
      (s.main.stops = true → s'.main.stops = true) → s'.StopsOnFlag := by
    intro hflag hthread hiff hstops
    refine ⟨fun hstopping => hstops (h.flag (hflag ▸ hstopping)), ?_⟩
    rw [hthread]
    refine h.started.imp_right fun hold => ?_
    rw [← Bool.not_eq_true, ← not_or] at hold ⊢
    exact fun hnew => hold (hiff.mpr hnew)
  have hthread : s'.stopping = s.stopping → s'.main = s.main → s'.thread.started = true →
      s'.StopsOnFlag := by
    intro hflag heq hstarted
    exact ⟨fun hstopping => heq ▸ h.flag (hflag ▸ hstopping), Or.inl hstarted⟩
  cases hstep with
  | unlinkLeftover fails heq | unlinkUnstarted error fails heq | unlinkSocket fails heq =>
    refine hmain (s.unlink_stopping _ fails) (s.unlink_thread _ fails) ?_ ?_ <;>
      simp [heq, MainPhase.stops]
  | storeStopping _ heq =>
    exact ⟨fun _ => rfl, Or.inl (h.started.resolve_right fun hnot => hnot.1 heq)⟩
  | pathTooLong | pathFits | socketFails | bindFails | bind | chmodFails | chmod | listenFails
  | listen | eventfdFails | signal | signalFails | closeListener | closeWake =>
    rename_i heq
    refine hmain rfl rfl ?_ ?_ <;> simp [heq, MainPhase.stops]
  | socket descriptor heq | join heq =>
    refine hmain rfl rfl ?_ ?_ <;> simp [heq, MainPhase.stops]
  | closeUnstarted unlinks error heq =>
    refine hmain rfl rfl ?_ ?_ <;> cases unlinks <;> simp [heq, MainPhase.stops]
  | eventfd descriptor heq =>
    refine ⟨fun hstopping => ?_, Or.inl rfl⟩
    have hstops := h.flag hstopping
    rw [heq] at hstops
    exact absurd hstops Bool.false_ne_true
  | thread kind next more hnext => exact hthread rfl rfl hnext.started
  | respond gathering endOfInput now =>
    exact hthread rfl rfl (gathering.started_respond reader now endOfInput)
  | accept | stage | send | sendEnds | close => exact hthread rfl rfl rfl
  | frame | others | otherFile | arrives | takes | sendInterrupted =>
    exact hmain rfl rfl Iff.rfl id

theorem Process.StopsOnFlag.reachable {reader : FloatReader F} {pathLength : Nat} {s : Process F}
    (h : s.Reachable reader pathLength) : s.StopsOnFlag := by
  induction h with
  | initial hinitial =>
    rw [hinitial.fresh]
    exact ⟨fun hstopping => absurd hstopping Bool.false_ne_true,
      Or.inr ⟨MainPhase.noConfusion, rfl⟩⟩
  | step _ hstep ih => exact ih.step hstep

structure Process.Stopping (s : Process F) : Prop extends s.StopsOnFlag where
  stored : s.stopping = true

theorem Process.stopping_step {reader : FloatReader F} {pathLength : Nat} {kind : StepKind}
    {s s' : Process F} (h : s.Stopping) (hstep : ProcessStep reader pathLength s kind s') :
    s'.stopping = true ∧ s'.remaining + kind.weight ≤ s.remaining := by
  have hmain : ∀ {main}, s.main = main → main.stops = true :=
    fun heq => heq ▸ h.flag h.stored
  cases hstep with
  | pathTooLong | pathFits | socketFails | bindFails | bind | chmodFails | chmod | listenFails
  | listen | eventfdFails | storeStopping =>
    rename_i heq
    exact absurd (hmain heq) Bool.false_ne_true
  | socket descriptor heq | eventfd descriptor heq | unlinkLeftover fails heq =>
    exact absurd (hmain heq) Bool.false_ne_true
  | closeUnstarted unlinks error heq | unlinkUnstarted error fails heq | frame execution heq =>
    exact absurd (hmain heq) Bool.false_ne_true
  | signal heq | signalFails heq | closeListener heq | closeWake heq | join heq =>
    refine ⟨h.stored, ?_⟩
    simp only [Process.remaining, heq, MainPhase.remaining, StepKind.weight]
    omega
  | unlinkSocket fails heq =>
    refine ⟨(s.unlink_stopping _ fails).trans h.stored, ?_⟩
    simp only [Process.remaining, heq, MainPhase.remaining, StepKind.weight, s.unlink_thread]
    omega
  | thread kind next more hthread =>
    rw [h.stored] at hthread
    have hless := hthread.remaining_lt
    have hweight := kind.weight_le
    refine ⟨h.stored, ?_⟩
    simp only [Process.remaining]
    omega
  | accept descriptor more hthread =>
    refine ⟨h.stored, ?_⟩
    simp [Process.remaining, hthread, ThreadPhase.remaining, StepKind.weight]
  | respond gathering endOfInput now hthread =>
    refine ⟨h.stored, ?_⟩
    have hless := gathering.remaining_respond reader now endOfInput
    simp only [Process.remaining, hthread, StepKind.weight]
    exact Nat.add_le_add_left hless _
  | stage connection request event hthread =>
    refine ⟨h.stored, ?_⟩
    simp only [Process.remaining, hthread]
    exact Nat.add_le_add_left (by decide : 6 + 1 ≤ 7) _
  | send connection request reply sent written room hthread _ hwritten hlength =>
    refine ⟨h.stored, ?_⟩
    simp only [Process.remaining, hthread, ThreadPhase.remaining, StepKind.weight]
    omega
  | sendEnds connection request reply sent hthread =>
    refine ⟨h.stored, ?_⟩
    simp only [Process.remaining, hthread, ThreadPhase.remaining, StepKind.weight]
    omega
  | close connection hthread =>
    refine ⟨h.stored, ?_⟩
    simp [Process.remaining, hthread, ThreadPhase.remaining, StepKind.weight]
  | others | otherFile | arrives | takes | sendInterrupted => exact ⟨h.stored, Nat.le_refl _⟩

theorem stop_countsDown (reader : FloatReader F) (pathLength : Nat) :
    CountsDown (ProcessStep reader pathLength) StepKind.weight Process.Stopping
      Process.remaining where
  keeps h hstep := ⟨h.toStopsOnFlag.step hstep, (Process.stopping_step h hstep).1⟩
  uses h hstep := (Process.stopping_step h hstep).2

theorem MainPhase.remaining_le (main : MainPhase) : main.remaining ≤ 5 := by
  cases main <;> simp [MainPhase.remaining]

theorem reply_length {reader : FloatReader F} {request : Request} {reply : Bytes}
    (h : request.AnsweredBy reader reply) : reply.length ≤ 23 := by
  rcases h with ⟨rfl, _⟩ | ⟨⟨error, _, rfl⟩, _⟩
  · decide
  · exact errorReply_length error

theorem Refines.remaining_le {reader : FloatReader F} {s : Process F} (h : Refines reader s) :
    s.remaining ≤ 34 := by
  have hthread : s.thread.remaining ≤ 29 := by
    have hphase := h.phase
    cases heq : s.thread with
    | sending connection request reply sent =>
      rw [heq] at hphase
      have hanswered := (answered_reachable h.reachable).replying request reply hphase
      have hlength := reply_length hanswered
      simp only [ThreadPhase.remaining]
      omega
    | entering wait | polling wait => cases wait <;> simp [ThreadPhase.remaining]
    | polled wait => cases wait <;> simp [ThreadPhase.remaining]
    | _ => simp [ThreadPhase.remaining]
  exact Nat.add_le_add s.main.remaining_le hthread

/-- The object that a poll has reported, while the thread relies on the report. -/
def ThreadPhase.reported? : ThreadPhase F → Option KernelObject
  | .polled wait _ true => some wait.object
  | .accepting => some .listener
  | .reading gathering => some (.connection gathering.connection.number)
  | _ => none

/-- No accept or read is entered blind. -/
def Process.Sighted (s : Process F) : Prop :=
  ∀ object, s.thread.reported? = some object → s.readable object = true

theorem Wait.reported?_abandoned (wait : Wait) :
    (wait.abandoned : ThreadPhase F).reported? = none := by
  cases wait <;> rfl

theorem Wait.reported?_ready (wait : Wait) :
    (wait.ready : ThreadPhase F).reported? = some wait.object := by
  cases wait <;> rfl

theorem Gathering.reported?_respond (reader : FloatReader F) (now : UInt64) (endOfInput : Bool)
    (gathering : Gathering) : (gathering.respond reader now endOfInput).reported? = none := by
  unfold Gathering.respond
  dsimp only
  split
  · rfl
  · split <;> rfl

theorem ThreadStep.reported {stopping wakeSignalled : Bool} {readable : KernelObject → Bool}
    {kind : StepKind} {thread next : ThreadPhase F}
    (h : ThreadStep stopping wakeSignalled readable thread kind next)
    (hsighted : ∀ object, thread.reported? = some object → readable object = true) (more : Bool)
    {object : KernelObject} (hnext : next.reported? = some object) :
    thread.drain more readable object = true := by
  cases h with
  | waitStops wait | pollFails wait | polledStops wait =>
    rw [wait.reported?_abandoned] at hnext
    cases hnext
  | pollReturns wait wakeReadable ready _ hready =>
    cases ready with
    | false => cases hnext
    | true =>
      cases hnext
      exact hready rfl
  | polledReady wait =>
    rw [wait.reported?_ready] at hnext
    exact hsighted object hnext
  | _ => cases hnext

theorem Process.Sighted.step {reader : FloatReader F} {pathLength : Nat} {kind : StepKind}
    {s s' : Process F} (h : s.Sighted) (hstep : ProcessStep reader pathLength s kind s') :
    s'.Sighted := by
  have hnone : s'.thread.reported? = none → s'.Sighted := by
    intro hreported object hobject
    rw [hreported] at hobject
    cases hobject
  cases hstep with
  | unlinkLeftover fails | unlinkSocket fails =>
    intro object
    simp only [s.unlink_thread, s.unlink_readable]
    exact h object
  | unlinkUnstarted error fails =>
    intro object
    simp only [s.unlink_thread, s.unlink_readable]
    exact h object
  | thread kind next more hthread => exact fun object hnext => hthread.reported h more hnext
  | eventfd | accept | stage | send | sendEnds | close => exact hnone rfl
  | respond gathering endOfInput now =>
    exact hnone (gathering.reported?_respond reader now endOfInput)
  | arrives arrived =>
    intro object hobject
    by_cases hsame : object = arrived
    · rw [hsame]
      exact Function.update_self ..
    · exact (Function.update_of_ne hsame ..).trans (h object hobject)
  | _ => exact h

theorem Process.Sighted.reachable {reader : FloatReader F} {pathLength : Nat} {s : Process F}
    (h : s.Reachable reader pathLength) : s.Sighted := by
  induction h with
  | initial hinitial =>
    rw [hinitial.fresh]
    exact fun _ hnone => nomatch hnone
  | step _ hstep ih => exact ih.step hstep

/-- The thread is in a call that nothing lets return: the poll for a connection, or a send to a
client that takes nothing. -/
def Process.Blocked (s : Process F) : Prop :=
  match s.thread with
  | .polling .accept => s.wakeSignalled = false ∧ s.readable .listener = false
  | .sending connection _ reply sent => sent < reply.length ∧ s.writable connection.number = false
  | _ => False

theorem exists_threadStep (reader : FloatReader F) (pathLength : Nat) {s : Process F}
    (hstopping : s.stopping = true) (hsighted : s.Sighted) (hblocked : ¬ s.Blocked)
    (hrunning : s.thread.idle = false) : ∃ s', ProcessStep reader pathLength s .due s' := by
  have hthread : ∀ {thread next}, s.thread = thread →
      ThreadStep true s.wakeSignalled s.readable thread .due next →
      ∃ s', ProcessStep reader pathLength s .due s' := by
    rintro _ next rfl hnext
    exact ⟨_, .thread .due next false (by rw [hstopping]; exact hnext)⟩
  have hreported : ∀ {object}, s.thread.reported? = some object → s.readable object = true :=
    fun heq => hsighted _ heq
  unfold Process.Blocked at hblocked
  cases heq : s.thread with
  | unstarted | finished =>
    rw [heq] at hrunning
    exact absurd hrunning Bool.noConfusion
  | head => exact hthread heq (.loopStops rfl)
  | entering wait => exact hthread heq (.waitStops wait rfl)
  | polling wait =>
    cases wait with
    | request gathering => exact hthread heq (.pollTimesOut gathering)
    | accept =>
      simp only [heq, not_and, Bool.not_eq_false] at hblocked
      cases hwake : s.wakeSignalled with
      | true =>
        exact hthread heq (.pollReturns .accept true false (fun _ => hwake) nofun (Or.inl rfl))
      | false =>
        exact hthread heq
          (.pollReturns .accept false true nofun (fun _ => hblocked hwake) (Or.inr rfl))
  | polled wait wakeReadable ready =>
    exact hthread heq (.polledStops wait wakeReadable ready (Or.inr rfl))
  | accepting => exact hthread heq (.acceptFails (hreported (by rw [heq]; rfl)))
  | receiving gathering =>
    rcases Classical.em (Stops gathering.request) with hstops | hgoes
    · exact hthread heq (.gatherEnds gathering hstops)
    · exact hthread heq (.gatherWaits gathering hgoes)
  | reading gathering => exact hthread heq (.readFails gathering (hreported (by rw [heq]; rfl)))
  | responding gathering endOfInput => exact ⟨_, .respond gathering endOfInput 0 heq⟩
  | staging connection request event => exact ⟨_, .stage connection request event heq⟩
  | sending connection request reply sent =>
    simp only [heq, not_and, Bool.not_eq_false] at hblocked
    refine ⟨_, .sendEnds connection request reply sent heq ?_⟩
    exact (Nat.lt_or_ge sent reply.length).symm.imp_right hblocked
  | closing connection => exact ⟨_, .close connection heq⟩

theorem Process.Stopping.exists_step (reader : FloatReader F) (pathLength : Nat) {s : Process F}
    (h : s.Stopping) (hsighted : s.Sighted) (hmain : s.main ≠ .stopped)
    (hjoining : ¬ (s.main = .joining ∧ s.Blocked)) :
    ∃ s', ProcessStep reader pathLength s .due s' := by
  have hstops := h.flag h.stored
  cases heq : s.main with
  | signalling => exact ⟨_, .signal heq⟩
  | closingListener => exact ⟨_, .closeListener heq⟩
  | closingWake => exact ⟨_, .closeWake heq⟩
  | unlinkingSocket => exact ⟨_, .unlinkSocket false heq⟩
  | stopped => exact absurd heq hmain
  | joining =>
    have hstarted := h.started.resolve_right fun hnot => by
      rw [hstops] at hnot
      exact absurd hnot.2 Bool.noConfusion
    cases hidle : s.thread.idle with
    | false =>
      exact exists_threadStep reader pathLength h.stored hsighted
        (fun hblocked => hjoining ⟨heq, hblocked⟩) hidle
    | true =>
      refine ⟨_, .join heq ?_⟩
      revert hstarted hidle
      cases s.thread <;> simp [ThreadPhase.idle, ThreadPhase.started]
  | _ =>
    rw [heq] at hstops
    exact absurd hstops Bool.false_ne_true

theorem ended_stuck (reader : FloatReader F) (pathLength : Nat) {s : Process F}
    (hmain : s.main = .stopped) (hidle : s.thread.idle = true) :
    ∀ s', ¬ ProcessStep reader pathLength s .due s' := by
  intro s' hstep
  cases hstep with
  | thread kind next more hnext =>
    rw [hnext.not_idle] at hidle
    cases hidle
  | _ => simp_all [ThreadPhase.idle]

/-- A blocked thread is in its poll or its send, and so are the steps it could take. -/
theorem Process.Blocked.cases {s : Process F} (h : s.Blocked) :
    s.thread = .polling .accept ∧ s.wakeSignalled = false ∧ s.readable .listener = false ∨
      ∃ connection request reply sent, s.thread = .sending connection request reply sent ∧
        sent < reply.length ∧ s.writable connection.number = false := by
  unfold Process.Blocked at h
  split at h
  · exact Or.inl ⟨‹_›, h⟩
  · exact Or.inr ⟨_, _, _, _, ‹_›, h⟩
  · exact h.elim

theorem blocked_stuck (reader : FloatReader F) (pathLength : Nat) {s : Process F}
    (hmain : s.main = .joining) (hblocked : s.Blocked) :
    ∀ s', ¬ ProcessStep reader pathLength s .due s' := by
  intro s' hstep
  rcases hblocked.cases with ⟨hthread, hwake, hlistener⟩ |
      ⟨connection, request, reply, sent, hthread, hsent, hfull⟩
  · cases hstep with
    | thread kind next more hnext =>
      rw [hthread, hwake] at hnext
      cases hnext with
      | pollReturns _ wakeReadable ready hsignalled hready hreported =>
        rcases hreported with hreported | hreported
        · exact Bool.false_ne_true (hsignalled hreported)
        · exact Bool.false_ne_true (hlistener.symm.trans (hready hreported))
    | _ => simp_all
  · cases hstep with
    | thread kind next more hnext =>
      rw [hthread] at hnext
      cases hnext
    | send connection' request' reply' sent' written room hsending hwritable =>
      cases hthread.symm.trans hsending
      rw [hwritable] at hfull
      exact Bool.noConfusion hfull
    | sendEnds connection' request' reply' sent' hsending hends =>
      cases hthread.symm.trans hsending
      rcases hends with hlength | hwritable
      · omega
      · rw [hwritable] at hfull
        exact Bool.noConfusion hfull
    | _ => simp_all

/-- From the moment the flag is stored the two threads take at most 34 more steps, whatever clients
do. Where nothing lets them take another, `Stop` has returned, or it waits for a thread that neither
the wake nor a client lets go on. -/
theorem stop_returns {reader : FloatReader F} {pathLength : Nat} {s t : Process F} {steps : Nat}
    (h : s.Reachable reader pathLength) (hstopping : s.stopping = true)
    (hrun : CountedRun (ProcessStep reader pathLength) StepKind.weight s steps t) :
    steps ≤ 34 ∧ ((∀ t', ¬ ProcessStep reader pathLength t .due t') ↔
      t.main = .stopped ∨ t.main = .joining ∧ t.Blocked) := by
  have hstart : s.Stopping := ⟨Process.StopsOnFlag.reachable h, hstopping⟩
  have hcounts := stop_countsDown reader pathLength
  have hbound := (Refines.of_reachable h).remaining_le
  have hlast : t.Reachable reader pathLength := hrun.preserves .step h
  refine ⟨Nat.le_trans (hcounts.count_le hstart hrun) hbound, fun hstuck => ?_, ?_⟩
  · by_contra hnot
    rw [not_or] at hnot
    obtain ⟨t', hstep⟩ := (hcounts.run hstart hrun).1.exists_step reader pathLength
      (.reachable hlast) hnot.1 hnot.2
    exact hstuck t' hstep
  · rintro (hmain | ⟨hmain, hblocked⟩)
    · refine ended_stuck reader pathLength hmain ?_
      exact (Opened.reachable hlast).idle.resolve_left (by rw [hmain]; exact Bool.false_ne_true)
    · exact blocked_stuck reader pathLength hmain hblocked

/-- A stop that finds the thread in its poll. -/
theorem stop_returns_waiting :
    ∃ t : Process Nat, CountedRun (ProcessStep naturalReader 19) StepKind.weight
      { waiting with stopping := true, main := .signalling } 7 t ∧ 7 ≤ 34 ∧ t.main = .stopped := by
  have hstop : ({ waiting with stopping := true, main := .signalling } : Process Nat).Reachable
      naturalReader 19 := reachable_waiting.step (.storeStopping rfl rfl)
  have hfirst : CountedRun (ProcessStep naturalReader 19) StepKind.weight
      { waiting with stopping := true, main := .signalling } 0
      { waiting with stopping := true, main := .signalling } := .refl
  have hwoken := (hfirst.tail (.signal rfl)).tail
    (.thread _ _ false (.pollReturns .accept true false (fun _ => rfl) nofun (Or.inl rfl)))
  have hjoined := (hwoken.tail
    (.thread _ _ false (.polledStops .accept true false (Or.inl rfl)))).tail (.join rfl rfl)
  have hrun := ((hjoined.tail (.closeListener rfl)).tail (.closeWake rfl)).tail
    (.unlinkSocket false rfl)
  have hreturns := stop_returns hstop rfl hrun
  exact ⟨_, hrun, hreturns.1, (hreturns.2.mp (ended_stuck naturalReader 19 rfl rfl)).resolve_right
    fun hjoining => nomatch hjoining.1⟩

end PlaygroundEngine.AgentChannel
