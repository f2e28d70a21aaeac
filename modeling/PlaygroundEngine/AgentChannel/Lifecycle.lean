import PlaygroundEngine.AgentChannel.Sockets

/-!
# What the channel has open

Whatever the threads and the rest of the system do between `Start` and the end of `Stop`, a call is
made on the object it was meant for, and nothing is left behind.
-/

namespace PlaygroundEngine.AgentChannel

open Library
set_option autoImplicit false

variable {F : Type} [Zero F]

def MainPhase.serving : MainPhase → Bool
  | .running | .signalling | .joining => true
  | _ => false

def ThreadPhase.idle : ThreadPhase F → Bool
  | .unstarted | .finished => true
  | _ => false

theorem ThreadPhase.connection?_of_idle {thread : ThreadPhase F} (h : thread.idle = true) :
    thread.connection? = none := by
  cases thread with
  | unstarted => rfl
  | finished => rfl
  | _ => exact absurd h Bool.false_ne_true

theorem ThreadStep.not_idle {stopping wakeSignalled : Bool} {readable : KernelObject → Bool}
    {kind : StepKind} {thread next : ThreadPhase F}
    (h : ThreadStep stopping wakeSignalled readable thread kind next) : thread.idle = false := by
  cases h <;> rfl

theorem Wait.connection?_abandoned (wait : Wait) :
    (wait.abandoned : ThreadPhase F).connection? =
      (ThreadPhase.entering wait : ThreadPhase F).connection? := by
  cases wait <;> rfl

theorem Wait.connection?_ready (wait : Wait) :
    (wait.ready : ThreadPhase F).connection? =
      (ThreadPhase.entering wait : ThreadPhase F).connection? := by
  cases wait <;> rfl

theorem ThreadStep.connection? {stopping wakeSignalled : Bool} {readable : KernelObject → Bool}
    {kind : StepKind} {thread next : ThreadPhase F}
    (h : ThreadStep stopping wakeSignalled readable thread kind next) :
    next.connection? = thread.connection? := by
  cases h with
  | waitStops wait => exact wait.connection?_abandoned
  | pollFails wait => exact wait.connection?_abandoned.trans (by cases wait <;> rfl)
  | polledStops wait => exact wait.connection?_abandoned.trans (by cases wait <;> rfl)
  | polledReady wait => exact wait.connection?_ready.trans (by cases wait <;> rfl)
  | waitPolls wait => cases wait <;> rfl
  | pollInterrupted wait => cases wait <;> rfl
  | pollReturns wait => cases wait <;> rfl
  | pollReturnsEmpty wait => cases wait <;> rfl
  | polledAgain wait => cases wait <;> rfl
  | _ => rfl

theorem Gathering.connection?_respond (reader : FloatReader F) (now : UInt64) (endOfInput : Bool)
    (gathering : Gathering) :
    (gathering.respond reader now endOfInput).connection? = some gathering.connection := by
  unfold Gathering.respond
  dsimp only
  split
  · rfl
  · split <;> rfl

theorem Process.mem_holds (s : Process F) (descriptor : Descriptor) (object : KernelObject) :
    (descriptor, object) ∈ s.holds ↔ (descriptor, object) ∈ s.mainHolds ∨
      ∃ connection, s.thread.connection? = some connection ∧
        descriptor = connection.descriptor ∧ object = .connection connection.number := by
  rw [Process.holds, List.mem_append]
  refine or_congr_right ?_
  cases s.thread.connection? with
  | none => simp
  | some connection => simp [Connection.held]

theorem Process.mem_mainHolds (s : Process F) (descriptor : Descriptor) (object : KernelObject) :
    (descriptor, object) ∈ s.mainHolds →
      descriptor = s.listenDescriptor ∧ object = .listener ∨
        descriptor = s.wakeDescriptor ∧ object = .wake := by
  unfold Process.mainHolds
  split <;> simp +contextual

structure Opened (s : Process F) : Prop where
  idle : s.main.serving = true ∨ s.thread.idle = true
  holds : Possesses KernelObject.IsOwn s.table fun descriptor object =>
    (descriptor, object) ∈ s.holds

theorem Opened.connection?_none {s : Process F} (h : Opened s) (hmain : s.main.serving = false) :
    s.thread.connection? = none := by
  refine ThreadPhase.connection?_of_idle (h.idle.resolve_left ?_)
  rw [hmain]
  exact Bool.false_ne_true

theorem Process.Initial.opened {s : Process F} (h : s.Initial) : Opened s := by
  have hmain : s.main = .measuringPath := by rw [h.fresh]
  have hthread : s.thread = .unstarted := by rw [h.fresh]
  refine ⟨Or.inr (by rw [hthread]; rfl), fun descriptor object => ?_⟩
  have hnone : s.holds = [] := by
    rw [Process.holds, Process.mainHolds, hmain, hthread]
    rfl
  rw [hnone]
  constructor
  · exact fun hmem => absurd hmem List.not_mem_nil
  · exact fun hown => absurd hown.2 (h.table descriptor object hown.1)

theorem Opened.same {s s' : Process F} (h : Opened s)
    (hidle : s'.main.serving = true ∨ s'.thread.idle = true) (htable : s'.table = s.table)
    (hholds : s'.holds = s.holds) : Opened s' := by
  refine ⟨hidle, ?_⟩
  rw [htable, hholds]
  exact h.holds

theorem Opened.mainStep {s s' : Process F} (h : Opened s) (hmain : s.main.serving = false)
    (hthread : s'.thread = s.thread) (htable : s'.table = s.table)
    (hholds : s'.mainHolds = s.mainHolds) : Opened s' := by
  refine h.same (Or.inr ?_) htable ?_
  · rw [hthread]
    exact h.idle.resolve_left (by rw [hmain]; exact Bool.false_ne_true)
  · rw [Process.holds, Process.holds, hholds, hthread]

theorem Opened.threadStep {s s' : Process F} (h : Opened s) (hrunning : s.thread.idle = false)
    (hmain : s'.main = s.main) (htable : s'.table = s.table)
    (hlisten : s'.listenDescriptor = s.listenDescriptor)
    (hwake : s'.wakeDescriptor = s.wakeDescriptor)
    (hthread : s'.thread.connection? = s.thread.connection?) : Opened s' := by
  have hserving := h.idle.resolve_right (by rw [hrunning]; exact Bool.false_ne_true)
  refine h.same (Or.inl (by rw [hmain]; exact hserving)) htable ?_
  rw [Process.holds, Process.holds, Process.mainHolds, Process.mainHolds, hmain, hlisten, hwake,
    hthread]

theorem Opened.serving {s : Process F} (h : Opened s) (hrunning : s.thread.idle = false) :
    s.main.serving = true :=
  h.idle.resolve_right (by rw [hrunning]; exact Bool.false_ne_true)

theorem Opened.step {reader : FloatReader F} {pathLength : Nat} {kind : StepKind}
    {s s' : Process F} (h : Opened s) (hstep : ProcessStep reader pathLength s kind s') :
    Opened s' := by
  cases hstep with
  | pathTooLong | pathFits | socketFails | bindFails | bind | chmodFails | chmod | listenFails
  | listen | eventfdFails =>
    rename_i hmain
    exact h.mainStep (by rw [hmain]; rfl) rfl rfl (by simp only [Process.mainHolds, hmain])
  | unlinkLeftover | unlinkSocket | unlinkUnstarted =>
    rename_i fails hmain
    refine h.mainStep (by rw [hmain]; rfl) (s.unlink_thread _ fails) (s.unlink_table _ fails) ?_
    simp only [Process.mainHolds, hmain, Process.unlink_listenDescriptor]
  | storeStopping | signal | signalFails =>
    rename_i hmain
    refine h.same (Or.inl rfl) rfl ?_
    simp only [Process.holds, Process.mainHolds, hmain]
  | join hmain hthread =>
    refine h.same (Or.inr (by rw [hthread]; rfl)) rfl ?_
    simp only [Process.holds, Process.mainHolds, hmain]
  | frame _ hmain => exact h.same h.idle rfl rfl
  | otherFile | arrives | takes => exact h.same h.idle rfl rfl
  | sendInterrupted => exact h
  | others table htable => exact ⟨h.idle, h.holds.interfere htable⟩
  | socket descriptor hmain hfree =>
    have hnone := h.connection?_none (by rw [hmain]; rfl)
    refine ⟨Or.inr (h.idle.resolve_left (by rw [hmain]; exact Bool.false_ne_true)), ?_⟩
    refine (h.holds.acquire hfree KernelObject.noConfusion).congr fun slot object => ?_
    simp [Process.mem_holds, Process.mainHolds, hmain, hnone]
  | eventfd descriptor hmain hfree =>
    have hnone := h.connection?_none (by rw [hmain]; rfl)
    have hhead : (ThreadPhase.head : ThreadPhase F).connection? = none := rfl
    refine ⟨Or.inl rfl, ?_⟩
    refine (h.holds.acquire hfree KernelObject.noConfusion).congr fun slot object => ?_
    simp [Process.mem_holds, Process.mainHolds, hmain, hnone, hhead, or_comm]
  | closeUnstarted unlinks error hmain =>
    have hnone := h.connection?_none (by rw [hmain]; rfl)
    refine ⟨Or.inr (h.idle.resolve_left (by rw [hmain]; exact Bool.false_ne_true)), ?_⟩
    have hheld : (s.listenDescriptor, .listener) ∈ s.holds := by
      simp [Process.mem_holds, Process.mainHolds, hmain]
    refine (h.holds.release hheld ?_).congr ?_
    · simp [Process.mem_holds, Process.mainHolds, hmain]
    · intro slot object
      cases unlinks <;> simp [Process.mem_holds, Process.mainHolds, hmain, hnone]
  | closeListener hmain =>
    have hnone := h.connection?_none (by rw [hmain]; rfl)
    refine ⟨Or.inr (h.idle.resolve_left (by rw [hmain]; exact Bool.false_ne_true)), ?_⟩
    have hheld : (s.listenDescriptor, .listener) ∈ s.holds := by
      simp [Process.mem_holds, Process.mainHolds, hmain]
    refine (h.holds.release hheld ?_).congr ?_
    · simp [Process.mem_holds, Process.mainHolds, hmain]
    · intro slot object
      cases object <;> simp [Process.mem_holds, Process.mainHolds, hmain, hnone]
  | closeWake hmain =>
    have hnone := h.connection?_none (by rw [hmain]; rfl)
    refine ⟨Or.inr (h.idle.resolve_left (by rw [hmain]; exact Bool.false_ne_true)), ?_⟩
    have hheld : (s.wakeDescriptor, .wake) ∈ s.holds := by
      simp [Process.mem_holds, Process.mainHolds, hmain]
    refine (h.holds.release hheld ?_).congr ?_
    · simp [Process.mem_holds, Process.mainHolds, hmain]
    · intro slot object
      simp [Process.mem_holds, Process.mainHolds, hmain, hnone]
  | thread kind next more hthread =>
    exact h.threadStep hthread.not_idle rfl rfl rfl rfl hthread.connection?
  | respond gathering endOfInput now hthread =>
    refine h.threadStep (by rw [hthread]; rfl) rfl rfl rfl rfl ?_
    rw [hthread]
    exact gathering.connection?_respond reader now endOfInput
  | stage connection request event hthread =>
    exact h.threadStep (by rw [hthread]; rfl) rfl rfl rfl rfl (by rw [hthread]; rfl)
  | send connection request reply sent written room hthread =>
    exact h.threadStep (by rw [hthread]; rfl) rfl rfl rfl rfl (by rw [hthread]; rfl)
  | sendEnds connection request reply sent hthread =>
    exact h.threadStep (by rw [hthread]; rfl) rfl rfl rfl rfl (by rw [hthread]; rfl)
  | accept descriptor more hthread _ hfree =>
    refine ⟨Or.inl (h.serving (by rw [hthread]; rfl)), ?_⟩
    have hnone : s.thread.connection? = none := by rw [hthread]; rfl
    refine (h.holds.acquire hfree KernelObject.noConfusion).congr fun slot object => ?_
    rw [Process.mem_holds, Process.mem_holds, hnone]
    constructor
    · rintro (hmem | ⟨connection, hconnection, rfl, rfl⟩)
      · exact Or.inr (Or.inl hmem)
      · cases hconnection
        exact Or.inl ⟨rfl, rfl⟩
    · rintro (⟨rfl, rfl⟩ | hmem | ⟨connection, hconnection, _⟩)
      · exact Or.inr ⟨_, rfl, rfl, rfl⟩
      · exact Or.inl hmem
      · cases hconnection
  | close connection hthread =>
    refine ⟨Or.inl (h.serving (by rw [hthread]; rfl)), ?_⟩
    have hsome : s.thread.connection? = some connection := by rw [hthread]; rfl
    have hhead : (ThreadPhase.head : ThreadPhase F).connection? = none := rfl
    have hmain : ∀ slot object, (slot, object) ∈ s.mainHolds →
        object ≠ .connection connection.number := by
      intro slot object hmem
      rcases s.mem_mainHolds slot object hmem with ⟨_, rfl⟩ | ⟨_, rfl⟩
      · exact KernelObject.noConfusion
      · exact KernelObject.noConfusion
    have hheld : connection.held ∈ s.holds :=
      (s.mem_holds _ _).mpr (Or.inr ⟨connection, hsome, rfl, rfl⟩)
    refine (h.holds.release hheld ?_).congr ?_
    · intro slot hslot
      rw [Process.mem_holds, hsome] at hslot
      rcases hslot with hmem | ⟨other, hother, rfl, _⟩
      · exact absurd rfl (hmain _ _ hmem)
      · rw [Option.some_inj.mp hother]
    · intro slot object
      rw [Process.mem_holds, Process.mem_holds, hsome]
      constructor
      · rintro (hmem | ⟨other, hother, _⟩)
        · exact ⟨Or.inl hmem, hmain _ _ hmem⟩
        · rw [hhead] at hother
          exact absurd hother.symm (Option.some_ne_none other)
      · rintro ⟨hmem | ⟨other, hother, _, rfl⟩, hne⟩
        · exact Or.inl hmem
        · rw [Option.some_inj.mp hother] at hne
          exact absurd rfl hne

theorem Opened.reachable {reader : FloatReader F} {pathLength : Nat} {s : Process F}
    (h : s.Reachable reader pathLength) : Opened s := by
  induction h with
  | initial hinitial => exact hinitial.opened
  | step _ hstep ih => exact ih.step hstep

/-- The call that removes the channel's socket is still to come. -/
def MainPhase.named : MainPhase → Bool
  | .restricting | .listening | .creatingWake | .closingUnstarted true _ | .unlinkingUnstarted _
  | .running | .signalling | .joining | .closingListener | .closingWake | .unlinkingSocket => true
  | _ => false

/-- The socket is not restricted yet, or never will be. -/
def MainPhase.unrestricted : MainPhase → Bool
  | .restricting | .closingUnstarted true _ | .unlinkingUnstarted _ | .failed _ => true
  | _ => false

structure Named (s : Process F) : Prop where
  own : ∀ restricted, s.socketFile = some (.own restricted) →
    s.main.named = true ∨ s.unlinkFailed = true
  unrestricted : s.socketFile = some (.own false) → s.main.unrestricted = true

theorem Named.same {s s' : Process F} (h : Named s) (hfile : s'.socketFile = s.socketFile)
    (hfailed : s'.unlinkFailed = s.unlinkFailed)
    (hnamed : s.main.named = true → s'.main.named = true)
    (hunrestricted : s.main.unrestricted = true → s'.main.unrestricted = true) : Named s' := by
  refine ⟨fun restricted hown => ?_, fun hown => ?_⟩
  · rw [hfile] at hown
    rw [hfailed]
    exact (h.own restricted hown).imp_left hnamed
  · rw [hfile] at hown
    exact hunrestricted (h.unrestricted hown)

theorem Named.unlink {s s' : Process F} (h : Named s) (bound fails : Bool)
    (hfile : s'.socketFile = (s.unlink bound fails).socketFile)
    (hfailed : s'.unlinkFailed = (s.unlink bound fails).unlinkFailed)
    (hnamed : bound = false → s.main.named = false)
    (hunrestricted : s.main.unrestricted = true → s'.main.unrestricted = true) : Named s' := by
  refine ⟨fun restricted hown => ?_, fun hown => ?_⟩
  · rw [hfile] at hown
    obtain ⟨hbefore, hflag⟩ := s.unlink_socketFile bound fails hown
    rw [hfailed, hflag]
    cases bound with
    | true => exact Or.inr (Bool.or_true _)
    | false =>
      -- before the bind the channel has no socket at the path
      have hnot : ¬ s.main.named = true := by rw [hnamed rfl]; exact Bool.false_ne_true
      exact Or.inr (by rw [Bool.or_false]; exact (h.own restricted hbefore).resolve_left hnot)
  · rw [hfile] at hown
    exact hunrestricted (h.unrestricted (s.unlink_socketFile bound fails hown).1)

theorem Process.Initial.named {s : Process F} (h : s.Initial) : Named s :=
  ⟨fun restricted hown => absurd hown (h.socketFile restricted),
    fun hown => absurd hown (h.socketFile false)⟩

theorem Named.step {reader : FloatReader F} {pathLength : Nat} {kind : StepKind}
    {s s' : Process F} (h : Named s) (hstep : ProcessStep reader pathLength s kind s') :
    Named s' := by
  cases hstep with
  | pathTooLong | pathFits | socketFails | chmodFails | listenFails | listen | eventfdFails
  | storeStopping | signal | signalFails | closeListener | closeWake | bindFails =>
    rename_i hmain
    refine h.same rfl rfl ?_ ?_ <;> simp [hmain, MainPhase.named, MainPhase.unrestricted]
  | socket descriptor hmain | eventfd descriptor hmain | join hmain =>
    refine h.same rfl rfl ?_ ?_ <;> simp [hmain, MainPhase.named, MainPhase.unrestricted]
  | unlinkLeftover fails hmain | unlinkSocket fails hmain | unlinkUnstarted error fails hmain =>
    exact h.unlink _ fails rfl rfl (by simp [hmain, MainPhase.named])
      (by simp [hmain, MainPhase.unrestricted])
  | closeUnstarted unlinks error hmain =>
    refine h.same rfl rfl ?_ ?_ <;> cases unlinks <;>
      simp [hmain, MainPhase.named, MainPhase.unrestricted]
  | bind => exact ⟨fun _ _ => Or.inl rfl, fun _ => rfl⟩
  | chmod hmain =>
    refine ⟨fun _ _ => Or.inl rfl, fun hown => ?_⟩
    obtain ⟨file, _, hrestrict⟩ := Option.map_eq_some_iff.mp hown
    cases file <;> cases hrestrict
  | otherFile file hfile =>
    exact ⟨fun restricted hown => absurd hown (hfile restricted),
      fun hown => absurd hown (hfile false)⟩
  | frame | thread | accept | respond | stage | send | sendEnds | close | others | arrives
  | takes => exact h.same rfl rfl id id
  | sendInterrupted => exact h

theorem Named.reachable {reader : FloatReader F} {pathLength : Nat} {s : Process F}
    (h : s.Reachable reader pathLength) : Named s := by
  induction h with
  | initial hinitial => exact hinitial.named
  | step _ hstep ih => exact ih.step hstep

def MainPhase.ended : MainPhase → Bool
  | .failed _ | .stopped => true
  | _ => false

structure ChannelSafe (s : Process F) : Prop where
  /-- A call on a descriptor is on the object it is meant for. -/
  calls : ∀ call ∈ s.mainCalls ++ s.threadCalls, s.table call.1 = some call.2
  /-- Only the owner can reach a socket that is served. -/
  restricted : s.main.serving = true → s.socketFile ≠ some (.own false)
  joined : s.main.ended = true → s.thread.idle = true
  closed : s.main.ended = true →
    ∀ descriptor object, s.table descriptor = some object → ¬ object.IsOwn
  unlinked : s.main.ended = true →
    ∀ restricted, s.socketFile = some (.own restricted) → s.unlinkFailed = true

theorem Process.mainCalls_subset (s : Process F) : ∀ call ∈ s.mainCalls, call ∈ s.holds := by
  intro call hcall
  refine List.mem_append_left _ ?_
  revert hcall
  unfold Process.mainCalls Process.mainHolds
  cases s.main <;> simp +contextual

theorem Process.waitsOn_subset (s : Process F) {wait : Wait}
    (hserving : s.main.serving = true)
    (hconnection : s.thread.connection? = (ThreadPhase.entering wait : ThreadPhase F).connection?) :
    s.waitsOn wait ∈ s.holds := by
  cases wait with
  | accept =>
    refine List.mem_append_left _ ?_
    revert hserving
    unfold Process.mainHolds Process.waitsOn
    cases s.main <;> simp [MainPhase.serving]
  | request gathering =>
    refine List.mem_append_right _ ?_
    rw [hconnection]
    exact List.mem_singleton_self _

theorem Process.wake_mem_holds (s : Process F) (hserving : s.main.serving = true) :
    (s.wakeDescriptor, .wake) ∈ s.holds := by
  refine List.mem_append_left _ ?_
  revert hserving
  unfold Process.mainHolds
  cases s.main <;> simp [MainPhase.serving]

theorem Opened.threadCalls_subset {s : Process F} (h : Opened s) :
    ∀ call ∈ s.threadCalls, call ∈ s.holds := by
  have hconnection : ∀ {connection : Connection}, s.thread.connection? = some connection →
      connection.held ∈ s.holds := by
    intro connection hsome
    refine List.mem_append_right _ ?_
    rw [hsome]
    exact List.mem_singleton_self _
  intro call hcall
  unfold Process.threadCalls at hcall
  split at hcall
  case h_1 wait hthread =>
    have hserving := h.serving (by rw [hthread]; rfl)
    rcases List.mem_cons.mp hcall with rfl | hwake
    · exact s.waitsOn_subset hserving (by rw [hthread]; cases wait <;> rfl)
    · rw [List.mem_singleton.mp hwake]
      exact s.wake_mem_holds hserving
  case h_2 hthread =>
    rw [List.mem_singleton.mp hcall]
    have hthen : s.thread.connection? =
        (ThreadPhase.entering Wait.accept : ThreadPhase F).connection? := by rw [hthread]; rfl
    exact s.waitsOn_subset (h.serving (by rw [hthread]; rfl)) hthen
  case h_3 gathering hthread =>
    rw [List.mem_singleton.mp hcall]
    exact hconnection (by rw [hthread]; rfl)
  case h_4 connection _ _ _ hthread =>
    rw [List.mem_singleton.mp hcall]
    exact hconnection (by rw [hthread]; rfl)
  case h_5 connection hthread =>
    rw [List.mem_singleton.mp hcall]
    exact hconnection (by rw [hthread]; rfl)
  case h_6 => exact absurd hcall List.not_mem_nil

theorem MainPhase.serving_of_ended {main : MainPhase} (h : main.ended = true) :
    main.serving = false := by
  cases main <;> first | rfl | exact absurd h Bool.false_ne_true

/-- Whatever the two threads and the rest of the system have done. -/
theorem channel_safe {reader : FloatReader F} {pathLength : Nat} {s : Process F}
    (h : s.Reachable reader pathLength) : ChannelSafe s := by
  have hopened := Opened.reachable h
  have hnamed := Named.reachable h
  have hidle : s.main.ended = true → s.thread.idle = true := by
    intro hended
    refine hopened.idle.resolve_left ?_
    rw [MainPhase.serving_of_ended hended]
    exact Bool.false_ne_true
  refine ⟨?_, ?_, hidle, ?_, ?_⟩
  · intro call hcall
    refine hopened.holds.lookup ?_
    rcases List.mem_append.mp hcall with hmain | hthread
    · exact s.mainCalls_subset call hmain
    · exact hopened.threadCalls_subset call hthread
  · intro hserving hown
    have hunrestricted := hnamed.unrestricted hown
    revert hserving hunrestricted
    cases s.main <;> simp [MainPhase.serving, MainPhase.unrestricted]
  · intro hended descriptor object hobject hown
    have hheld := (hopened.holds descriptor object).mpr ⟨hobject, hown⟩
    rw [Process.holds, ThreadPhase.connection?_of_idle (hidle hended)] at hheld
    have hnone : s.mainHolds = [] := by
      revert hended
      unfold Process.mainHolds
      cases s.main <;> simp [MainPhase.ended]
    rw [hnone] at hheld
    exact absurd hheld List.not_mem_nil
  · intro hended restricted hown
    refine (hnamed.own restricted hown).resolve_left ?_
    revert hended
    cases s.main <;> simp [MainPhase.ended, MainPhase.named]

def waiting : Process Nat where
  table := Function.update (Function.update (fun _ => none) 3 (some .listener)) 4 (some .wake)
  socketFile := some (.own true)
  listenDescriptor := 3
  wakeDescriptor := 4
  main := .running
  thread := .polling .accept

theorem reachable_waiting : waiting.Reachable naturalReader 19 := by
  have hempty : ({} : Process Nat).Initial :=
    ⟨rfl, (fun _ _ hnone => nomatch hnone), fun _ hnone => nomatch hnone⟩
  have hfits : ({ main := .creatingSocket } : Process Nat).Reachable naturalReader 19 :=
    (Process.Reachable.initial hempty).step (.pathFits (by decide) rfl)
  have hsocket := hfits.step (.socket 3 rfl rfl)
  have hbound := ((hsocket.step (.unlinkLeftover false rfl)).step (.bind rfl rfl)).step
    (.chmod rfl)
  have hrunning := (hbound.step (.listen rfl)).step (.eventfd 4 rfl rfl)
  exact (hrunning.step (.thread _ _ false (.loopWaits rfl))).step
    (.thread _ _ false (.waitPolls .accept rfl))

theorem channel_safe_waiting :
    waiting.table 3 = some .listener ∧ waiting.table 4 = some .wake ∧
      waiting.socketFile ≠ some (.own false) := by
  have hsafe := channel_safe reachable_waiting
  have hcalls : waiting.mainCalls ++ waiting.threadCalls = [(3, .listener), (4, .wake)] := rfl
  exact ⟨hsafe.calls (3, .listener) (hcalls ▸ List.mem_cons_self),
    hsafe.calls (4, .wake) (hcalls ▸ List.mem_cons_of_mem _ List.mem_cons_self),
    hsafe.restricted rfl⟩

end PlaygroundEngine.AgentChannel
