import PlaygroundEngine.AgentChannel.Grammar

/-!
# Spelling an event

The command that spells an injectable event, and the round trip through the
parser. Names are the ones the enumerator tables give.
-/

namespace PlaygroundEngine.AgentChannel

open Library Reflection
set_option autoImplicit false

variable {F : Type} [Zero F]

/-- The events of an injectable type whose fields other than those of the verb
have their defaults. -/
inductive Spellable (reader : FloatReader F) : PlatformEvent F → Prop where
  | coordinates {type : PlatformEventType} {x y : F} :
      argumentShape type = some .coordinates → reader.isFinite x → reader.isFinite y →
      Spellable reader { type, x, y }
  | key {type : PlatformEventType} {code : InputCode} {repeated : Bool} :
      argumentShape type = some .key → isKeyboardCode code →
      (repeated = true → type = .keyPressed) → Spellable reader { type, code, repeated }
  | pointerButton {type : PlatformEventType} {code : InputCode} :
      argumentShape type = some .pointerButton → isPointerCode code →
      Spellable reader { type, code }
  | character {type : PlatformEventType} {codepoint : UInt32} :
      argumentShape type = some .character → Spellable reader { type, codepoint }
  | bare {type : PlatformEventType} : argumentShape type = some .bare → Spellable reader { type }

/-- A formatting of the finite numbers that the reader inverts. -/
structure Formats (reader : FloatReader F) (toChars : F → Bytes) : Prop where
  inverse : ∀ value, reader.isFinite value → reader.fromChars (toChars value) = some (value, [])
  word : ∀ value, reader.isFinite value → IsWord isSeparator (toChars value)

/-- The shortest decimal numeral. -/
def decimal (n : Nat) : Bytes :=
  if n < 10 then [UInt8.ofNat (48 + n)] else decimal (n / 10) ++ [UInt8.ofNat (48 + n % 10)]

def verbName (type : PlatformEventType) : Bytes :=
  (PlatformEventType.enumeration.enumToName type).getD []

def codeName (code : InputCode) : Bytes := (InputCode.enumeration.enumToName code).getD []

def argumentWords (toChars : F → Bytes) (event : PlatformEvent F) : List Bytes :=
  match argumentShape event.type with
  | some .coordinates => [toChars event.x, toChars event.y]
  | some .key => codeName event.code :: if event.repeated then [bytesOf "repeat"] else []
  | some .pointerButton => [codeName event.code]
  | some .character => [decimal event.codepoint.toNat]
  | some .bare => []
  | none => []

def spell (toChars : F → Bytes) (event : PlatformEvent F) : Bytes :=
  spaced 32 (verbName event.type :: argumentWords toChars event)

theorem digit_spec : ∀ d < 10, isDigit (UInt8.ofNat (48 + d)) = true ∧
    (UInt8.ofNat (48 + d)).toNat - 48 = d ∧ isSeparator (UInt8.ofNat (48 + d)) = false := by
  decide

theorem decimal_spec (n : Nat) : decimal n ≠ [] ∧ (∀ c ∈ decimal n, isDigit c) ∧
    (∀ c ∈ decimal n, isSeparator c = false) ∧ decimalValue (decimal n) = n := by
  induction n using decimal.induct with
  | case1 n hsmall =>
    obtain ⟨hdigit, hvalue, hsolid⟩ := digit_spec n hsmall
    rw [decimal, if_pos hsmall]
    refine ⟨List.cons_ne_nil _ _, ?_, ?_, ?_⟩
    · intro c hc
      rw [List.mem_singleton.mp hc]
      exact hdigit
    · intro c hc
      rw [List.mem_singleton.mp hc]
      exact hsolid
    · simp only [decimalValue, List.foldl_cons, List.foldl_nil]
      omega
  | case2 n hlarge ih =>
    obtain ⟨_, hdigits, hsolids, hvalues⟩ := ih
    obtain ⟨hdigit, hvalue, hsolid⟩ := digit_spec (n % 10) (Nat.mod_lt n (by omega))
    rw [decimal, if_neg hlarge]
    refine ⟨by simp, ?_, ?_, ?_⟩
    · intro c hc
      rcases List.mem_append.mp hc with hc | hc
      · exact hdigits c hc
      · rw [List.mem_singleton.mp hc]
        exact hdigit
    · intro c hc
      rcases List.mem_append.mp hc with hc | hc
      · exact hsolids c hc
      · rw [List.mem_singleton.mp hc]
        exact hsolid
    · unfold decimalValue at hvalues ⊢
      rw [List.foldl_append, hvalues, List.foldl_cons, List.foldl_nil, hvalue]
      omega

theorem readsUnsigned_decimal (value : UInt32) : ReadsUnsigned (decimal value.toNat) value := by
  obtain ⟨hne, hdigits, _, hvalue⟩ := decimal_spec value.toNat
  exact ⟨hne, hdigits, hvalue⟩

theorem isWord_decimal (n : Nat) : IsWord isSeparator (decimal n) := by
  obtain ⟨hne, _, hsolid, _⟩ := decimal_spec n
  exact ⟨hne, hsolid⟩

theorem namesVerb_verbName (type : PlatformEventType) : NamesVerb (verbName type) type := by
  apply (PlatformEventType.enumeration.enumFromName_eq_some _ _).mp
  apply EnumerationFacet.enumFromName_enumToName
  cases type <;> rfl

theorem isWord_verbName (type : PlatformEventType) : IsWord isSeparator (verbName type) := by
  have hwords : (PlatformEventType.enumeration.enumerators.all fun entry =>
      !entry.identifier.isEmpty && entry.identifier.all fun c => !isSeparator c) = true := by
    decide +kernel
  exact isWord_iff_all.mpr (List.all_eq_true.mp hwords _ (namesVerb_verbName type))

theorem named_of_class {code : InputCode} (h : isKeyboardCode code ∨ isPointerCode code) :
    (InputCode.enumeration.enumToName code).isSome := by
  have hnamed : ∀ n < 264, (1 ≤ n ∧ n ≤ 120) ∨ 256 ≤ n →
      (InputCode.enumeration.enumToName ⟨UInt16.ofNat n⟩).isSome := by
    decide +kernel
  have hrange : code.value.toNat < 264 ∧
      ((1 ≤ code.value.toNat ∧ code.value.toNat ≤ 120) ∨ 256 ≤ code.value.toNat) := by
    rcases h with h | h
    · simp only [isKeyboardCode, InputCode.keyboardRangeFirst, InputCode.keyboardRangeLast,
        Bool.and_eq_true, decide_eq_true_eq, UInt16.le_iff_toNat_le] at h
      have hlow : 1 ≤ code.value.toNat := h.1
      have hhigh : code.value.toNat ≤ 120 := h.2
      omega
    · simp only [isPointerCode, InputCode.pointerRangeFirst, InputCode.pointerRangeLast,
        Bool.and_eq_true, decide_eq_true_eq, UInt16.le_iff_toNat_le] at h
      have hlow : 256 ≤ code.value.toNat := h.1
      have hhigh : code.value.toNat ≤ 263 := h.2
      omega
  have hcode := hnamed code.value.toNat hrange.1 hrange.2
  rwa [UInt16.ofNat_toNat] at hcode

theorem namesCode_codeName {code : InputCode} (h : isKeyboardCode code ∨ isPointerCode code) :
    NamesCode (codeName code) code := by
  obtain ⟨name, hname⟩ := Option.isSome_iff_exists.mp (named_of_class h)
  rw [← enumFromName_code, codeName, hname]
  exact EnumerationFacet.enumFromName_enumToName hname

theorem isWord_code {name : Bytes} {code : InputCode} (h : NamesCode name code) :
    IsWord isSeparator name := by
  have hwords : (InputCode.enumeration.enumerators.all fun entry =>
      !entry.identifier.isEmpty && entry.identifier.all fun c => !isSeparator c) = true := by
    decide +kernel
  exact isWord_iff_all.mpr (List.all_eq_true.mp hwords _ h)

theorem isWord_repeat : IsWord isSeparator (bytesOf "repeat") := isWord_iff_all.mpr rfl

variable {reader : FloatReader F} {toChars : F → Bytes}

theorem argumentWords_describe (hformats : Formats reader toChars) {event : PlatformEvent F}
    (h : Spellable reader event) :
    ∃ shape, argumentShape event.type = some shape ∧
      Describes reader event.type shape (argumentWords toChars event) event ∧
      ∀ word ∈ argumentWords toChars event, IsWord isSeparator word := by
  cases h with
  | coordinates hshape hx hy =>
    refine ⟨_, hshape, ?_, ?_⟩
    · simp only [argumentWords, hshape]
      exact .coordinates ⟨hformats.inverse _ hx, hx⟩ ⟨hformats.inverse _ hy, hy⟩
    · simp only [argumentWords, hshape, List.forall_mem_cons]
      exact ⟨hformats.word _ hx, hformats.word _ hy, fun _ hc => nomatch hc⟩
  | @key type code repeated hshape hcode hrepeat =>
    have hname := namesCode_codeName (Or.inl hcode)
    refine ⟨_, hshape, ?_, ?_⟩
    · simp only [argumentWords, hshape]
      cases repeated with
      | false => exact .key hname hcode
      | true => exact .repeatedKey (hrepeat rfl) hname hcode
    · simp only [argumentWords, hshape, List.forall_mem_cons]
      refine ⟨isWord_code hname, ?_⟩
      intro word hword
      cases repeated with
      | false => cases hword
      | true =>
        rw [List.mem_singleton.mp hword]
        exact isWord_repeat
  | pointerButton hshape hcode =>
    have hname := namesCode_codeName (Or.inr hcode)
    refine ⟨_, hshape, ?_, ?_⟩
    · simp only [argumentWords, hshape]
      exact .pointerButton hname hcode
    · simp only [argumentWords, hshape, List.forall_mem_cons]
      exact ⟨isWord_code hname, fun _ hc => nomatch hc⟩
  | character hshape =>
    refine ⟨_, hshape, ?_, ?_⟩
    · simp only [argumentWords, hshape]
      exact .character (readsUnsigned_decimal _)
    · simp only [argumentWords, hshape, List.forall_mem_cons]
      exact ⟨isWord_decimal _, fun _ hc => nomatch hc⟩
  | bare hshape =>
    refine ⟨_, hshape, ?_, ?_⟩
    · simp only [argumentWords, hshape]
      exact .bare
    · simp only [argumentWords, hshape]
      exact fun _ hc => nomatch hc

theorem parseCommand_spell (hformats : Formats reader toChars) {event : PlatformEvent F}
    (h : Spellable reader event) : parseCommand reader (spell toChars event) = .ok event := by
  obtain ⟨shape, hshape, hdescribes, hwords⟩ := argumentWords_describe hformats h
  have hlayout : Layout isSeparator (verbName event.type :: argumentWords toChars event)
      (spell toChars event) :=
    layout_spaced rfl (List.forall_mem_cons.mpr ⟨isWord_verbName event.type, hwords⟩)
  rw [parseCommand_ok_iff reader hlayout]
  exact .intro (namesVerb_verbName event.type) hshape hdescribes

/-- The parser accepts exactly the documented grammar, it sees the words of a
line and nothing else, and it inverts the spelling of events. -/
theorem parseCommand_grammar (reader : FloatReader F) :
    (∀ line, ∃ words, Layout isSeparator words line ∧
      ∀ words', Layout isSeparator words' line → words' = words) ∧
    (∀ words line, Layout isSeparator words line →
      (∀ event, parseCommand reader line = .ok event ↔ Command reader words event) ∧
      (parseCommand reader line = .error .unknownCommand ↔
        ∀ shape arguments, ¬ StartsWith words shape arguments) ∧
      (parseCommand reader line = .error .badArgumentCount ↔
        ∃ shape arguments, StartsWith words shape arguments ∧
          ¬ shape.AdmitsCount arguments.length) ∧
      (parseCommand reader line = .error .badArgument ↔
        ∃ shape arguments, StartsWith words shape arguments ∧
          shape.AdmitsCount arguments.length ∧ ∀ event, ¬ Command reader words event)) ∧
    (∀ words line line', Layout isSeparator words line → Layout isSeparator words line' →
      parseCommand reader line = parseCommand reader line') ∧
    (∀ toChars, Formats reader toChars → ∀ event, Spellable reader event →
      parseCommand reader (spell toChars event) = .ok event) := by
  refine ⟨?_, ?_, ?_, ?_⟩
  · intro line
    exact ⟨tokenize line, layout_tokenize line, fun words h => (tokenize_eq h).symm⟩
  · intro words line hwords
    exact ⟨parseCommand_ok_iff reader hwords, parseCommand_unknown_iff reader hwords,
      parseCommand_count_iff reader hwords, parseCommand_argument_iff reader hwords⟩
  · intro words line line' hline hline'
    rw [parseCommand, parseCommand, tokenize_eq hline, tokenize_eq hline']
  · intro toChars hformats event h
    exact parseCommand_spell hformats h

/-- Reads the longest run of digits, as the real reader does on such text. -/
def naturalReader : FloatReader Nat where
  fromChars text :=
    if text.takeWhile isDigit = [] then none
    else some (decimalValue (text.takeWhile isDigit), text.dropWhile isDigit)
  isFinite _ := true

theorem formats_decimal : Formats naturalReader decimal where
  inverse := by
    intro value _
    obtain ⟨hne, hdigits, _, hvalue⟩ := decimal_spec value
    obtain ⟨htake, hdrop⟩ := takeWhile_digits hdigits
    simp only [naturalReader, htake, hdrop, if_neg hne, hvalue]
  word := fun value _ => isWord_decimal value

theorem parseCommand_grammar_pointerMoved :
    parseCommand naturalReader (spell decimal { type := .pointerMoved, x := 640, y := 480 }) =
      .ok { type := .pointerMoved, x := 640, y := 480 } :=
  (parseCommand_grammar naturalReader).2.2.2 decimal formats_decimal _ (.coordinates rfl rfl rfl)

end PlaygroundEngine.AgentChannel
