import PlaygroundEngine.AgentChannel.Connection
import PlaygroundEngine.AgentChannel.Spelling

/-!
# Requests and their segmentation

A client's stream reaches the loop cut into reads of at most a buffer. The loop
looks at the cap between two reads only, so a read may carry a request past it.
-/

namespace PlaygroundEngine.AgentChannel

open Library Reflection
set_option autoImplicit false

/-- `outcomes` delivers the whole stream and then the client's close. -/
inductive Delivers : Bytes → List ReadOutcome → Prop where
  | closed : Delivers [] [.endOfInput]
  | interrupted {stream : Bytes} {outcomes : List ReadOutcome} :
      Delivers stream outcomes → Delivers stream (.interrupted :: outcomes)
  | received {bytes stream : Bytes} {outcomes : List ReadOutcome} :
      bytes ≠ [] → bytes.length ≤ readBufferLength → Delivers stream outcomes →
      Delivers (bytes ++ stream) (.received bytes :: outcomes)

structure FirstLine (stream line rest : Bytes) : Prop where
  split : stream = line ++ lineFeed :: rest
  unbroken : lineFeed ∉ line

theorem receive_stops {request : Bytes} (h : Stops request) (outcomes : List ReadOutcome) :
    receive request outcomes = some (request, false) := by
  rw [receive.eq_def, if_pos h]

theorem receive_received {request : Bytes} (h : ¬ Stops request) (bytes : Bytes)
    (outcomes : List ReadOutcome) :
    receive request (.received bytes :: outcomes) = receive (request ++ bytes) outcomes := by
  rw [receive, if_neg h]

theorem takeWhile_unbroken {line : Bytes} (h : lineFeed ∉ line) :
    (∀ c ∈ line, (c == lineFeed) = false) := by
  intro c hc
  rw [beq_eq_false_iff_ne]
  intro heq
  exact h (heq ▸ hc)

theorem FirstLine.takeWhile {stream line rest : Bytes} (h : FirstLine stream line rest) :
    stream.takeWhile (fun c => c != lineFeed) = line := by
  rw [h.split]
  refine takeWhile_word (takeWhile_unbroken h.unbroken) ?_
  intro c hc
  cases hc
  rfl

theorem FirstLine.unique {stream line line' rest rest' : Bytes} (h : FirstLine stream line rest)
    (h' : FirstLine stream line' rest') : line = line' := by
  rw [← h.takeWhile, h'.takeWhile]

theorem exists_firstLine {stream : Bytes} (h : lineFeed ∈ stream) :
    ∃ line rest, FirstLine stream line rest := by
  obtain ⟨line, rest, hsplit, hunbroken⟩ := List.eq_append_cons_of_mem h
  exact ⟨line, rest, hsplit, hunbroken⟩

/-- The loop ends with the whole of a stream that never stops it, or with a
prefix that stops it although the part before the last read does not. -/
theorem receive_delivered {stream : Bytes} {outcomes : List ReadOutcome}
    (h : Delivers stream outcomes) {request : Bytes} (hrequest : ¬ Stops request) :
    (receive request outcomes = some (request ++ stream, true) ∧ ¬ Stops (request ++ stream)) ∨
      ∃ early late rest, request ++ stream = (early ++ late) ++ rest ∧
        receive request outcomes = some (early ++ late, false) ∧ Stops (early ++ late) ∧
        ¬ Stops early ∧ late.length ≤ readBufferLength := by
  induction h generalizing request with
  | closed =>
    refine Or.inl ⟨?_, by rwa [List.append_nil]⟩
    rw [receive, if_neg hrequest, List.append_nil]
  | interrupted _ ih =>
    rw [receive, if_neg hrequest]
    exact ih hrequest
  | @received bytes stream outcomes _ hlength _ ih =>
    rw [receive_received hrequest, ← List.append_assoc]
    rcases Classical.em (Stops (request ++ bytes)) with hstops | hgoes
    · exact Or.inr ⟨request, bytes, stream, rfl, receive_stops hstops outcomes, hstops, hrequest,
        hlength⟩
    · exact ih hgoes

theorem not_stops_nil : ¬ Stops [] := by
  intro h
  rcases h with h | h
  · cases h
  · exact absurd h (by decide)

theorem disposition_delivered {stream : Bytes} {outcomes : List ReadOutcome}
    (h : Delivers stream outcomes) :
    (disposition outcomes = .handed stream ∧ ¬ Stops stream) ∨
      (∃ line rest, FirstLine stream line rest ∧ disposition outcomes = .handed line ∧
        line.length < maximumRequestLength + readBufferLength - 1) ∨
      (disposition outcomes = .rejected ∧ ∃ read rest, stream = read ++ rest ∧
        lineFeed ∉ read ∧ maximumRequestLength ≤ read.length) := by
  rcases receive_delivered h not_stops_nil with hall | hpart
  · obtain ⟨hreceive, hgoes⟩ := hall
    rw [List.nil_append] at hreceive hgoes
    have hunbroken : lineFeed ∉ stream := fun hmem => hgoes (Or.inl hmem)
    refine Or.inl ⟨?_, hgoes⟩
    simp only [disposition, hreceive, Bool.true_eq_false, and_false, if_false]
    rw [List.takeWhile_eq_self_iff.mpr]
    intro c hc
    rw [bne, takeWhile_unbroken hunbroken c hc]
    rfl
  · obtain ⟨early, late, rest, hstream, hreceive, hstops, hearly, hlate⟩ := hpart
    rw [List.nil_append] at hstream
    rcases Classical.em (lineFeed ∈ early ++ late) with hmem | hunbroken
    · obtain ⟨line, tail, hline⟩ := exists_firstLine hmem
      refine Or.inr (Or.inl ⟨line, tail ++ rest, ⟨?_, hline.unbroken⟩, ?_, ?_⟩)
      · rw [hstream, hline.split, List.append_assoc, List.cons_append]
      · simp only [disposition, hreceive, hmem, not_true_eq_false, false_and, if_false,
          hline.takeWhile]
      · have hlength := congrArg List.length hline.split
        have hshort : early.length < maximumRequestLength :=
          Nat.lt_of_not_le fun hlong => hearly (Or.inr hlong)
        simp only [List.length_append, List.length_cons] at hlength
        omega
    · have hlong : maximumRequestLength ≤ (early ++ late).length := by
        rcases hstops with hmem | hlong
        · exact absurd hmem hunbroken
        · exact hlong
      refine Or.inr (Or.inr ⟨?_, early ++ late, rest, hstream, hunbroken, hlong⟩)
      simp only [disposition, hreceive, hunbroken, not_false_eq_true, and_self, if_true]

/-- One byte at a time. -/
def trickle (bytes : Bytes) (outcomes : List ReadOutcome) : List ReadOutcome :=
  bytes.map (fun c => .received [c]) ++ outcomes

theorem delivers_trickle (bytes : Bytes) {stream : Bytes} {outcomes : List ReadOutcome}
    (h : Delivers stream outcomes) : Delivers (bytes ++ stream) (trickle bytes outcomes) := by
  induction bytes with
  | nil => exact h
  | cons c bytes ih =>
    have hread : Delivers ([c] ++ (bytes ++ stream)) (.received [c] :: trickle bytes outcomes) :=
      .received (List.cons_ne_nil c []) (Nat.succ_le_succ (Nat.zero_le _)) ih
    exact hread

theorem exists_delivers (stream : Bytes) : ∃ outcomes, Delivers stream outcomes := by
  have h := delivers_trickle stream .closed
  rw [List.append_nil] at h
  exact ⟨_, h⟩

theorem receive_trickle (bytes : Bytes) {request : Bytes} (outcomes : List ReadOutcome)
    (hunbroken : lineFeed ∉ request ++ bytes)
    (hlength : (request ++ bytes).length ≤ maximumRequestLength) :
    receive request (trickle bytes outcomes) = receive (request ++ bytes) outcomes := by
  induction bytes generalizing request with
  | nil => rw [List.append_nil]; rfl
  | cons c bytes ih =>
    have hgoes : ¬ Stops request := by
      intro hstops
      rcases hstops with hmem | hlong
      · exact hunbroken (List.mem_append_left _ hmem)
      · rw [List.length_append, List.length_cons] at hlength
        omega
    have hassoc : request ++ c :: bytes = (request ++ [c]) ++ bytes := by
      rw [List.append_assoc, List.singleton_append]
    rw [hassoc] at hunbroken hlength ⊢
    rw [← ih hunbroken hlength]
    exact receive_received hgoes [c] (trickle bytes outcomes)

theorem exists_rejected {stream line rest : Bytes} (hline : FirstLine stream line rest)
    (hlong : maximumRequestLength ≤ line.length) :
    ∃ outcomes, Delivers stream outcomes ∧ disposition outcomes = .rejected := by
  have hsplit : stream = line.take maximumRequestLength ++
      (line.drop maximumRequestLength ++ lineFeed :: rest) := by
    rw [← List.append_assoc, List.take_append_drop, hline.split]
  obtain ⟨outcomes, hrest⟩ := exists_delivers (line.drop maximumRequestLength ++ lineFeed :: rest)
  have hunbroken : lineFeed ∉ line.take maximumRequestLength :=
    fun hmem => hline.unbroken (List.mem_of_mem_take hmem)
  have hlength : (line.take maximumRequestLength).length = maximumRequestLength :=
    List.length_take_of_le hlong
  refine ⟨trickle (line.take maximumRequestLength) outcomes, ?_, ?_⟩
  · rw [hsplit]
    exact delivers_trickle _ hrest
  · have hreceive : receive [] (trickle (line.take maximumRequestLength) outcomes) =
        some (line.take maximumRequestLength, false) := by
      rw [receive_trickle _ outcomes (by rwa [List.nil_append])
        (by rw [List.nil_append, hlength]), List.nil_append]
      exact receive_stops (Or.inr hlength.ge) outcomes
    simp only [disposition, hreceive, hunbroken, not_false_eq_true, and_self, if_true]

theorem exists_handed {stream line rest : Bytes} (hline : FirstLine stream line rest)
    (hlong : maximumRequestLength ≤ line.length)
    (hshort : line.length < maximumRequestLength + readBufferLength - 1) :
    ∃ outcomes, Delivers stream outcomes ∧ disposition outcomes = .handed line := by
  have hsplit : stream = line.take (maximumRequestLength - 1) ++
      ((line.drop (maximumRequestLength - 1) ++ [lineFeed]) ++ rest) := by
    rw [← List.append_assoc, ← List.append_assoc, List.take_append_drop, List.append_assoc,
      List.singleton_append, hline.split]
  obtain ⟨outcomes, hrest⟩ := exists_delivers rest
  have hunbroken : lineFeed ∉ line.take (maximumRequestLength - 1) :=
    fun hmem => hline.unbroken (List.mem_of_mem_take hmem)
  have hlength : (line.take (maximumRequestLength - 1)).length = maximumRequestLength - 1 :=
    List.length_take_of_le (by omega)
  have hread : (line.drop (maximumRequestLength - 1) ++ [lineFeed]).length ≤ readBufferLength := by
    simp only [List.length_append, List.length_drop, List.length_singleton, maximumRequestLength,
      readBufferLength] at hshort ⊢
    omega
  refine ⟨trickle (line.take (maximumRequestLength - 1))
    (.received (line.drop (maximumRequestLength - 1) ++ [lineFeed]) :: outcomes), ?_, ?_⟩
  · rw [hsplit]
    exact delivers_trickle _ (.received (by simp) hread hrest)
  · have hgoes : ¬ Stops (line.take (maximumRequestLength - 1)) := by
      intro hstops
      rcases hstops with hmem | hcap
      · exact hunbroken hmem
      · rw [hlength] at hcap
        exact absurd hcap (by decide)
    have hwhole : FirstLine (line ++ [lineFeed]) line [] := ⟨rfl, hline.unbroken⟩
    have hmem : lineFeed ∈ line ++ [lineFeed] := List.mem_append_right _ List.mem_cons_self
    have hreceive : receive [] (trickle (line.take (maximumRequestLength - 1))
        (.received (line.drop (maximumRequestLength - 1) ++ [lineFeed]) :: outcomes)) =
        some (line ++ [lineFeed], false) := by
      rw [receive_trickle _ _ (by rwa [List.nil_append])
        (by rw [List.nil_append, hlength]; exact Nat.sub_le _ _), List.nil_append,
        receive_received hgoes, ← List.append_assoc, List.take_append_drop]
      exact receive_stops (Or.inl hmem) outcomes
    simp only [disposition, hreceive, hmem, not_true_eq_false, false_and, if_false,
      hwhole.takeWhile]

variable {F : Type} [Zero F]

/-- However the stream is delivered, the reply and the staged events are the
same, and no line handed to the parser is longer than the cap. -/
def SegmentationIndependent (reader : FloatReader F) (now : UInt64) (stream : Bytes) : Prop :=
  (∀ outcomes outcomes' channel, Delivers stream outcomes → Delivers stream outcomes' →
    handleConnection reader now outcomes channel =
      handleConnection reader now outcomes' channel) ∧
  ∀ outcomes line, Delivers stream outcomes → disposition outcomes = .handed line →
    line.length ≤ maximumRequestLength

/-- The first line does not end within one read beyond the cap, unless it ends
exactly there and is refused in the way a truncated request is. -/
def AvoidsOvershoot (reader : FloatReader F) (stream : Bytes) : Prop :=
  ∀ line rest, FirstLine stream line rest → maximumRequestLength ≤ line.length →
    line.length < maximumRequestLength + readBufferLength - 1 →
    line.length = maximumRequestLength ∧ parseCommand reader line = .error .badArgument

theorem FirstLine.length_ge {stream line rest read tail : Bytes} (h : FirstLine stream line rest)
    (hstream : stream = read ++ tail) (hread : lineFeed ∉ read) : read.length ≤ line.length := by
  rw [← h.takeWhile, hstream, List.takeWhile_append_of_pos, List.length_append]
  · exact Nat.le_add_right _ _
  · intro c hc
    rw [bne, takeWhile_unbroken hread c hc]
    rfl

theorem handleConnection_handed_badArgument (reader : FloatReader F) (now : UInt64)
    {outcomes : List ReadOutcome} {line : Bytes} (channel : AgentChannel F)
    (hhanded : disposition outcomes = .handed line)
    (hparse : parseCommand reader line = .error .badArgument) :
    handleConnection reader now outcomes channel = (some (errorReply .badArgument), channel) := by
  simp only [handleConnection, hhanded, buildResponse, hparse]

theorem handleConnection_rejected (reader : FloatReader F) (now : UInt64)
    {outcomes : List ReadOutcome} (channel : AgentChannel F)
    (hrejected : disposition outcomes = .rejected) :
    handleConnection reader now outcomes channel = (some (errorReply .badArgument), channel) := by
  simp only [handleConnection, hrejected]

theorem handleConnection_agree {reader : FloatReader F} {now : UInt64} {stream : Bytes}
    (havoids : AvoidsOvershoot reader stream) {outcomes outcomes' : List ReadOutcome}
    (channel : AgentChannel F) (h : Delivers stream outcomes) (h' : Delivers stream outcomes') :
    handleConnection reader now outcomes channel =
      handleConnection reader now outcomes' channel := by
  have hsame : ∀ {outcomes outcomes'}, disposition outcomes = disposition outcomes' →
      handleConnection reader now outcomes channel =
        handleConnection reader now outcomes' channel := by
    intro outcomes outcomes' heq
    rw [handleConnection, handleConnection, heq]
  -- a rejected prefix and a whole line meet only on a line the cap falls into
  have hmeet : ∀ {outcomes outcomes' line rest read tail}, FirstLine stream line rest →
      disposition outcomes = .handed line →
      line.length < maximumRequestLength + readBufferLength - 1 →
      disposition outcomes' = .rejected → stream = read ++ tail → lineFeed ∉ read →
      maximumRequestLength ≤ read.length →
      handleConnection reader now outcomes channel =
        handleConnection reader now outcomes' channel := by
    intro outcomes outcomes' line rest read tail hline hhanded hshort hrejected hstream hread hcap
    have hlength := hline.length_ge hstream hread
    obtain ⟨_, hparse⟩ := havoids line rest hline (by omega) hshort
    rw [handleConnection_handed_badArgument reader now channel hhanded hparse,
      handleConnection_rejected reader now channel hrejected]
  have hwhole : ∀ {line rest}, FirstLine stream line rest → ¬ Stops stream → False := by
    intro line rest hline hgoes
    refine hgoes (Or.inl ?_)
    rw [hline.split]
    exact List.mem_append_right _ List.mem_cons_self
  have hcut : ∀ {read tail}, stream = read ++ tail → maximumRequestLength ≤ read.length →
      ¬ Stops stream → False := by
    intro read tail hstream hcap hgoes
    refine hgoes (Or.inr ?_)
    rw [hstream, List.length_append]
    omega
  rcases disposition_delivered h with ⟨hd, hgoes⟩ | ⟨line, rest, hline, hd, hshort⟩ |
    ⟨hd, read, tail, hstream, hread, hcap⟩
  · rcases disposition_delivered h' with ⟨hd', _⟩ | ⟨line', rest', hline', _, _⟩ |
      ⟨_, read', tail', hstream', _, hcap'⟩
    · exact hsame (hd.trans hd'.symm)
    · exact (hwhole hline' hgoes).elim
    · exact (hcut hstream' hcap' hgoes).elim
  · rcases disposition_delivered h' with ⟨_, hgoes'⟩ | ⟨line', rest', hline', hd', _⟩ |
      ⟨hd', read', tail', hstream', hread', hcap'⟩
    · exact (hwhole hline hgoes').elim
    · rw [← hline.unique hline'] at hd'
      exact hsame (hd.trans hd'.symm)
    · exact hmeet hline hd hshort hd' hstream' hread' hcap'
  · rcases disposition_delivered h' with ⟨_, hgoes'⟩ | ⟨line', rest', hline', hd', hshort'⟩ |
      ⟨hd', _⟩
    · exact (hcut hstream hcap hgoes').elim
    · exact (hmeet hline' hd' hshort' hd hstream hread hcap).symm
    · exact hsame (hd.trans hd'.symm)

theorem handed_length {reader : FloatReader F} {stream : Bytes}
    (havoids : AvoidsOvershoot reader stream) {outcomes : List ReadOutcome} {line : Bytes}
    (h : Delivers stream outcomes) (hhanded : disposition outcomes = .handed line) :
    line.length ≤ maximumRequestLength := by
  rcases disposition_delivered h with ⟨hd, hgoes⟩ | ⟨line', rest, hline, hd, hshort⟩ | ⟨hd, _⟩
  · rw [hd] at hhanded
    cases hhanded
    exact Nat.le_of_not_le fun hlong => hgoes (Or.inr hlong)
  · rw [hd] at hhanded
    cases hhanded
    rcases Nat.lt_or_ge line.length maximumRequestLength with hbelow | habove
    · exact Nat.le_of_lt hbelow
    · exact Nat.le_of_eq (havoids line rest hline habove hshort).1
  · rw [hd] at hhanded
    cases hhanded

theorem errorReply_injective {error error' : AgentCommandError}
    (h : errorReply error = errorReply error') : error = error' := by
  have hreplies : ∀ error error' : AgentCommandError,
      errorReply error = errorReply error' → error = error' := by
    intro error error'
    cases error <;> cases error' <;> decide
  exact hreplies error error' h

theorem errorReply_ne_ok (error : AgentCommandError) : okReply ≠ errorReply error := by
  cases error <;> decide

/-- The connection is served independently of the segmentation exactly when the
first line does not end in the read that crosses the cap. -/
theorem handleConnection_independent_iff (reader : FloatReader F) (now : UInt64)
    (stream : Bytes) :
    SegmentationIndependent reader now stream ↔ AvoidsOvershoot reader stream := by
  constructor
  · intro h line rest hline hlong hshort
    obtain ⟨hagree, hcap⟩ := h
    obtain ⟨handing, hhanding, hhanded⟩ := exists_handed hline hlong hshort
    obtain ⟨rejecting, hrejecting, hrejected⟩ := exists_rejected hline hlong
    refine ⟨Nat.le_antisymm (hcap handing line hhanding hhanded) hlong, ?_⟩
    have hreply := hagree handing rejecting {} hhanding hrejecting
    rw [handleConnection_rejected reader now {} hrejected] at hreply
    simp only [handleConnection, hhanded, buildResponse] at hreply
    cases hparse : parseCommand reader line with
    | ok event =>
      rw [hparse] at hreply
      exact absurd (Option.some.inj (Prod.mk.inj hreply).1) (errorReply_ne_ok _)
    | error failure =>
      rw [hparse] at hreply
      rw [errorReply_injective (Option.some.inj (Prod.mk.inj hreply).1)]
  · intro havoids
    refine ⟨?_, ?_⟩
    · intro outcomes outcomes' channel h h'
      exact handleConnection_agree havoids channel h h'
    · intro outcomes line h hhanded
      exact handed_length havoids h hhanded

/-- A command padded with blanks to 1100 bytes. -/
def paddedLine : Bytes := bytesOf "FocusGained" ++ List.replicate 1089 32

theorem layout_focusGained :
    Layout isSeparator [bytesOf "FocusGained"] (bytesOf "FocusGained") := by
  have hword : IsWord isSeparator (bytesOf "FocusGained") := isWord_verbName .focusGained
  have hline := layout_spaced (show isSeparator 32 = true from rfl)
    (List.forall_mem_singleton.mpr hword)
  exact hline

theorem parseCommand_focusGained {line : Bytes}
    (hwords : Layout isSeparator [bytesOf "FocusGained"] line) :
    parseCommand naturalReader line = .ok { type := .focusGained } := by
  rw [parseCommand_ok_iff naturalReader hwords]
  exact .intro (namesVerb_verbName .focusGained) rfl .bare

theorem layout_paddedLine : Layout isSeparator [bytesOf "FocusGained"] paddedLine := by
  refine layout_focusGained.padRight ?_
  intro c hc
  rw [(List.mem_replicate.mp hc).2]
  rfl

theorem firstLine_paddedLine : FirstLine (paddedLine ++ [lineFeed]) paddedLine [] where
  split := rfl
  unbroken := by
    intro hmem
    rcases List.mem_append.mp hmem with hmem | hmem
    · exact absurd hmem (by decide)
    · exact absurd (List.mem_replicate.mp hmem).2 (by decide)

theorem length_paddedLine : paddedLine.length = 1100 := by
  rw [paddedLine, List.length_append, List.length_replicate]
  rfl

/-- One stream that is answered in two ways. -/
theorem handleConnection_paddedLine :
    ¬ SegmentationIndependent naturalReader 0 (paddedLine ++ [lineFeed]) ∧
      ∃ outcomes outcomes', Delivers (paddedLine ++ [lineFeed]) outcomes ∧
        Delivers (paddedLine ++ [lineFeed]) outcomes' ∧
        (handleConnection naturalReader 0 outcomes {}).1 = some okReply ∧
        (handleConnection naturalReader 0 outcomes' {}).1 = some (errorReply .badArgument) := by
  have hlong : maximumRequestLength ≤ paddedLine.length := by
    rw [length_paddedLine]
    decide
  have hshort : paddedLine.length < maximumRequestLength + readBufferLength - 1 := by
    rw [length_paddedLine]
    decide
  obtain ⟨handing, hhanding, hhanded⟩ := exists_handed firstLine_paddedLine hlong hshort
  obtain ⟨rejecting, hrejecting, hrejected⟩ := exists_rejected firstLine_paddedLine hlong
  refine ⟨?_, handing, rejecting, hhanding, hrejecting, ?_, ?_⟩
  · intro h
    have hcap := h.2 handing paddedLine hhanding hhanded
    rw [length_paddedLine] at hcap
    exact absurd hcap (by decide)
  · simp only [handleConnection, hhanded, buildResponse,
      parseCommand_focusGained layout_paddedLine]
  · rw [handleConnection_rejected naturalReader 0 {} hrejected]

end PlaygroundEngine.AgentChannel
