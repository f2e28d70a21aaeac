import PlaygroundEngine.AgentChannel.ParseCommand
import PlaygroundEngine.Library.Words

/-!
# The command grammar

`Command` is the documented vocabulary, stated on words rather than on bytes and
without reference to the parser: a verb, and the argument shape of that verb.
The parser is then shown to accept exactly this language.
-/

namespace PlaygroundEngine.AgentChannel

open Library Reflection
set_option autoImplicit false

variable {F : Type} [Zero F]

def NamesVerb (word : Bytes) (type : PlatformEventType) : Prop :=
  ⟨word, type⟩ ∈ PlatformEventType.enumeration.enumerators

def NamesCode (word : Bytes) (code : InputCode) : Prop :=
  ⟨word, code⟩ ∈ InputCode.enumeration.enumerators

def ReadsFinite (reader : FloatReader F) (word : Bytes) (value : F) : Prop :=
  reader.fromChars word = some (value, []) ∧ reader.isFinite value

def ReadsUnsigned (word : Bytes) (value : UInt32) : Prop :=
  word ≠ [] ∧ (∀ c ∈ word, isDigit c) ∧ decimalValue word = value.toNat

inductive ArgumentShape where
  | coordinates
  | key
  | pointerButton
  | character
  | bare
  deriving DecidableEq

/-- The shape of each injectable verb; a resize is not injectable. -/
def argumentShape : PlatformEventType → Option ArgumentShape
  | .pointerMoved | .pointerMovedRelative | .pointerScrolled => some .coordinates
  | .keyPressed | .keyReleased => some .key
  | .pointerButtonPressed | .pointerButtonReleased => some .pointerButton
  | .characterTyped => some .character
  | .focusGained | .focusLost | .closeRequested => some .bare
  | .windowResized => none

/-- How many words may follow the verb. Both key verbs leave room for an option
word; that only one of them has an option is a matter of the word itself. -/
def ArgumentShape.AdmitsCount : ArgumentShape → Nat → Prop
  | .coordinates, count => count = 2
  | .key, count => count = 1 ∨ count = 2
  | .pointerButton, count => count = 1
  | .character, count => count = 1
  | .bare, count => count = 0

/-- The words after a verb and the event they describe. Every field that is not
mentioned has its default. -/
inductive Describes (reader : FloatReader F) (type : PlatformEventType) :
    ArgumentShape → List Bytes → PlatformEvent F → Prop where
  | coordinates {first second : Bytes} {x y : F} :
      ReadsFinite reader first x → ReadsFinite reader second y →
      Describes reader type .coordinates [first, second] { type, x, y }
  | key {name : Bytes} {code : InputCode} :
      NamesCode name code → isKeyboardCode code → Describes reader type .key [name] { type, code }
  | repeatedKey {name : Bytes} {code : InputCode} :
      type = .keyPressed → NamesCode name code → isKeyboardCode code →
      Describes reader type .key [name, bytesOf "repeat"] { type, code, repeated := true }
  | pointerButton {name : Bytes} {code : InputCode} :
      NamesCode name code → isPointerCode code →
      Describes reader type .pointerButton [name] { type, code }
  | character {word : Bytes} {codepoint : UInt32} :
      ReadsUnsigned word codepoint → Describes reader type .character [word] { type, codepoint }
  | bare : Describes reader type .bare [] { type }

inductive Command (reader : FloatReader F) : List Bytes → PlatformEvent F → Prop where
  | intro {verb : Bytes} {type : PlatformEventType} {shape : ArgumentShape}
      {arguments : List Bytes} {event : PlatformEvent F} :
      NamesVerb verb type → argumentShape type = some shape →
      Describes reader type shape arguments event → Command reader (verb :: arguments) event

def StartsWith (words : List Bytes) (shape : ArgumentShape) (arguments : List Bytes) : Prop :=
  ∃ verb type, NamesVerb verb type ∧ argumentShape type = some shape ∧ words = verb :: arguments

theorem layout_tokenize (line : Bytes) : Layout isSeparator (tokenize line) line := by
  induction line using tokenize.induct with
  | case1 line hstart =>
    rw [tokenize]
    split
    · exact .blank (List.dropWhile_eq_nil_iff.mp hstart)
    · rename_i c rest hcons
      rw [hstart] at hcons
      cases hcons
  | case2 line c rest hstart ih =>
    rw [tokenize]
    split
    · rename_i hnil
      rw [hstart] at hnil
      cases hnil
    · rename_i c' rest' hcons
      rw [hstart] at hcons
      cases hcons
      have hsolid : isSeparator c = false := by
        have hne : line.dropWhile isSeparator ≠ [] := hstart ▸ List.cons_ne_nil c rest
        have hhead := List.head_dropWhile_not isSeparator hne
        simpa [hstart] using hhead
      have hline : line = line.takeWhile isSeparator ++
          ((c :: rest).takeWhile (fun c => !isSeparator c) ++
            (c :: rest).dropWhile fun c => !isSeparator c) := by
        rw [List.takeWhile_append_dropWhile, ← hstart, List.takeWhile_append_dropWhile]
      conv => rhs; rw [hline]
      refine .word (allSeparators_takeWhile line) ⟨?_, ?_⟩ (ends_dropWhile _) ih
      · rw [List.takeWhile_cons_of_pos (by simp [hsolid])]
        exact List.cons_ne_nil _ _
      · intro d hd
        simpa using List.mem_takeWhile_imp hd

theorem tokenize_eq {words : List Bytes} {line : Bytes} (h : Layout isSeparator words line) :
    tokenize line = words :=
  (layout_tokenize line).unique h

omit [Zero F] in
theorem parseFloat_eq_some (reader : FloatReader F) (word : Bytes) (value : F) :
    parseFloat reader word = some value ↔ ReadsFinite reader word value := by
  unfold parseFloat ReadsFinite
  cases hread : reader.fromChars word with
  | none => simp
  | some result =>
    obtain ⟨v, rest⟩ := result
    cases rest with
    | nil =>
      by_cases hfinite : reader.isFinite v
      · simp only [hfinite, if_true, Option.some.injEq, Prod.mk.injEq, and_true]
        exact ⟨fun h => ⟨h, h ▸ hfinite⟩, And.left⟩
      · simp only [hfinite, Option.some.injEq, Prod.mk.injEq, and_true]
        constructor
        · intro h
          cases h
        · rintro ⟨rfl, h⟩
          exact absurd h hfinite
    | cons c rest => simp

theorem takeWhile_digits {word : Bytes} (h : ∀ c ∈ word, isDigit c) :
    word.takeWhile isDigit = word ∧ word.dropWhile isDigit = [] :=
  ⟨List.takeWhile_eq_self_iff.mpr h, List.dropWhile_eq_nil_iff.mpr h⟩

theorem parseUnsigned_eq_some (word : Bytes) (value : UInt32) :
    parseUnsigned word = some value ↔ ReadsUnsigned word value := by
  constructor
  · intro h
    unfold parseUnsigned at h
    split at h
    · rename_i v hread
      cases h
      simp only [fromCharsUnsigned] at hread
      split at hread
      · cases hread
      · split at hread
        · cases hread
        · rename_i hne hrange
          obtain ⟨hvalue, hrest⟩ := Prod.mk.inj (Option.some.inj hread)
          have hdigits := List.dropWhile_eq_nil_iff.mp hrest
          rw [(takeWhile_digits hdigits).1] at hvalue hne hrange
          refine ⟨hne, hdigits, ?_⟩
          rw [← hvalue, UInt32.toNat_ofNat', Nat.mod_eq_of_lt (by omega)]
    · cases h
  · rintro ⟨hne, hdigits, hvalue⟩
    have hrange := value.toNat_lt
    obtain ⟨htake, hdrop⟩ := takeWhile_digits hdigits
    have hsmall : ¬ 2 ^ 32 ≤ value.toNat := by omega
    simp only [parseUnsigned, fromCharsUnsigned, htake, hdrop, hvalue, hne, hsmall, if_false,
      UInt32.ofNat_toNat]

theorem enumFromName_code (name : Bytes) (code : InputCode) :
    InputCode.enumeration.enumFromName name = some code ↔ NamesCode name code :=
  InputCode.enumeration.enumFromName_eq_some name code

theorem NamesCode.unique {name : Bytes} {code code' : InputCode} (h : NamesCode name code)
    (h' : NamesCode name code') : code' = code := by
  have hname := (enumFromName_code name code).mpr h
  rw [(enumFromName_code name code').mpr h'] at hname
  exact Option.some.inj hname

theorem not_namesCode {name : Bytes} (hname : InputCode.enumeration.enumFromName name = none)
    (code : InputCode) : ¬ NamesCode name code := by
  intro h
  rw [(enumFromName_code name code).mpr h] at hname
  cases hname

/-- What is promised of the answer to a verb of a given shape. The count of the
arguments is judged before the arguments themselves. -/
structure Follows (reader : FloatReader F) (type : PlatformEventType) (shape : ArgumentShape)
    (arguments : List Bytes) (answer : Except AgentCommandError (PlatformEvent F)) : Prop where
  accepts : ∀ event, answer = .ok event ↔ Describes reader type shape arguments event
  count : answer = .error .badArgumentCount ↔ ¬ shape.AdmitsCount arguments.length
  known : answer ≠ .error .unknownCommand

variable (reader : FloatReader F) (type : PlatformEventType)

theorem Describes.admitsCount {reader : FloatReader F} {type : PlatformEventType}
    {shape : ArgumentShape} {arguments : List Bytes} {event : PlatformEvent F}
    (h : Describes reader type shape arguments event) : shape.AdmitsCount arguments.length := by
  cases h with
  | repeatedKey => exact Or.inr rfl
  | key => exact Or.inl rfl
  | _ => rfl

theorem Follows.badCount {reader : FloatReader F} {type : PlatformEventType}
    {shape : ArgumentShape} {arguments : List Bytes}
    (hcount : ¬ shape.AdmitsCount arguments.length) :
    Follows reader type shape arguments (.error .badArgumentCount) where
  accepts := fun _ => ⟨(fun h => nomatch h), fun h => absurd h.admitsCount hcount⟩
  count := ⟨fun _ => hcount, fun _ => rfl⟩
  known := fun h => nomatch h

theorem Follows.badArgument {reader : FloatReader F} {type : PlatformEventType}
    {shape : ArgumentShape} {arguments : List Bytes}
    (hcount : shape.AdmitsCount arguments.length)
    (hnone : ∀ event, ¬ Describes reader type shape arguments event) :
    Follows reader type shape arguments (.error .badArgument) where
  accepts := fun event => ⟨(fun h => nomatch h), fun h => absurd h (hnone event)⟩
  count := ⟨(fun h => nomatch h), fun h => absurd hcount h⟩
  known := fun h => nomatch h

theorem Follows.ok {reader : FloatReader F} {type : PlatformEventType}
    {shape : ArgumentShape} {arguments : List Bytes} {event : PlatformEvent F}
    (hevent : Describes reader type shape arguments event)
    (honly : ∀ event', Describes reader type shape arguments event' → event' = event) :
    Follows reader type shape arguments (.ok event) where
  accepts := by
    intro event'
    constructor
    · intro h
      cases h
      exact hevent
    · intro h
      rw [honly event' h]
  count := ⟨(fun h => nomatch h), fun h => absurd hevent.admitsCount h⟩
  known := fun h => nomatch h

theorem parseCoordinates_follows (arguments : List Bytes) :
    Follows reader type .coordinates arguments (parseCoordinates reader type arguments) := by
  match arguments with
  | [] => exact .badCount (by simp [ArgumentShape.AdmitsCount])
  | [_] => exact .badCount (by simp [ArgumentShape.AdmitsCount])
  | _ :: _ :: _ :: _ => exact .badCount (by simp [ArgumentShape.AdmitsCount])
  | [first, second] =>
    simp only [parseCoordinates]
    split
    · rename_i x y hx hy
      have hx' := (parseFloat_eq_some reader first x).mp hx
      have hy' := (parseFloat_eq_some reader second y).mp hy
      refine .ok (.coordinates hx' hy') ?_
      intro event h
      cases h with
      | coordinates hfirst hsecond =>
        have hxx := (parseFloat_eq_some reader first _).mpr hfirst
        have hyy := (parseFloat_eq_some reader second _).mpr hsecond
        rw [hx] at hxx
        rw [hy] at hyy
        cases hxx
        cases hyy
        rfl
    · rename_i hnone
      refine .badArgument (show ArgumentShape.coordinates.AdmitsCount 2 from rfl) ?_
      intro event h
      cases h with
      | coordinates hfirst hsecond =>
        exact hnone _ _ ((parseFloat_eq_some reader first _).mpr hfirst)
          ((parseFloat_eq_some reader second _).mpr hsecond)

theorem parseKey_follows (arguments : List Bytes) :
    Follows reader type .key arguments (parseKey type arguments) := by
  match arguments with
  | [] => exact .badCount (by simp [ArgumentShape.AdmitsCount])
  | name :: options =>
    simp only [parseKey]
    split
    · rename_i hmany
      refine .badCount ?_
      intro hcount
      rcases hcount with hcount | hcount
      · rw [List.length_cons] at hcount
        omega
      · rw [List.length_cons] at hcount
        omega
    · rename_i hfew
      have hcount : ArgumentShape.AdmitsCount .key (name :: options).length := by
        simp only [ArgumentShape.AdmitsCount, List.length_cons]
        omega
      cases hname : InputCode.enumeration.enumFromName name with
      | none =>
        refine .badArgument hcount ?_
        intro event h
        cases h with
        | key hcode _ => exact not_namesCode hname _ hcode
        | repeatedKey _ hcode _ => exact not_namesCode hname _ hcode
      | some code =>
        have hcode := (enumFromName_code name code).mp hname
        cases hkeyboard : isKeyboardCode code with
        | false =>
          simp only [hkeyboard, Bool.not_false, if_true]
          refine .badArgument hcount ?_
          intro event h
          cases h with
          | key hcode' hclass =>
            rw [hcode.unique hcode', hkeyboard] at hclass
            cases hclass
          | repeatedKey _ hcode' hclass =>
            rw [hcode.unique hcode', hkeyboard] at hclass
            cases hclass
        | true =>
          simp only [hkeyboard, Bool.not_true, Bool.false_eq_true, if_false]
          cases options with
          | nil =>
            refine .ok (.key hcode hkeyboard) ?_
            intro event h
            cases h with
            | key hcode' _ => rw [hcode.unique hcode']
          | cons option more =>
            have hmore : more = [] := by
              rw [List.length_cons] at hfew
              exact List.length_eq_zero_iff.mp (by omega)
            subst hmore
            simp only
            split
            · rename_i hbad
              refine .badArgument hcount ?_
              intro event h
              cases h with
              | repeatedKey hpressed _ _ =>
                rcases hbad with hbad | hbad
                · exact hbad hpressed
                · exact hbad rfl
            · rename_i hgood
              obtain ⟨hpressed, hrepeat⟩ := not_or.mp hgood
              have hrepeat := not_not.mp hrepeat
              subst hrepeat
              refine .ok (.repeatedKey (not_not.mp hpressed) hcode hkeyboard) ?_
              intro event h
              cases h with
              | repeatedKey _ hcode' _ => rw [hcode.unique hcode']

theorem parsePointerButton_follows (arguments : List Bytes) :
    Follows reader type .pointerButton arguments (parsePointerButton type arguments) := by
  match arguments with
  | [] => exact .badCount (by simp [ArgumentShape.AdmitsCount])
  | _ :: _ :: _ => exact .badCount (by simp [ArgumentShape.AdmitsCount])
  | [name] =>
    simp only [parsePointerButton]
    cases hname : InputCode.enumeration.enumFromName name with
    | none =>
      refine .badArgument (show ArgumentShape.pointerButton.AdmitsCount 1 from rfl) ?_
      intro event h
      cases h with
      | pointerButton hcode _ => exact not_namesCode hname _ hcode
    | some code =>
      have hcode := (enumFromName_code name code).mp hname
      cases hpointer : isPointerCode code with
      | false =>
        simp only [hpointer, Bool.false_eq_true, if_false]
        refine .badArgument (show ArgumentShape.pointerButton.AdmitsCount 1 from rfl) ?_
        intro event h
        cases h with
        | pointerButton hcode' hclass =>
          rw [hcode.unique hcode', hpointer] at hclass
          cases hclass
      | true =>
        simp only [hpointer, if_true]
        refine .ok (.pointerButton hcode hpointer) ?_
        intro event h
        cases h with
        | pointerButton hcode' _ => rw [hcode.unique hcode']

theorem parseCharacter_follows (arguments : List Bytes) :
    Follows reader type .character arguments (parseCharacter type arguments) := by
  match arguments with
  | [] => exact .badCount (by simp [ArgumentShape.AdmitsCount])
  | _ :: _ :: _ => exact .badCount (by simp [ArgumentShape.AdmitsCount])
  | [text] =>
    simp only [parseCharacter]
    cases hread : parseUnsigned text with
    | none =>
      refine .badArgument (show ArgumentShape.character.AdmitsCount 1 from rfl) ?_
      intro event h
      cases h with
      | character hword =>
        rw [(parseUnsigned_eq_some text _).mpr hword] at hread
        cases hread
    | some codepoint =>
      refine .ok (.character ((parseUnsigned_eq_some text codepoint).mp hread)) ?_
      intro event h
      cases h with
      | character hword =>
        rw [(parseUnsigned_eq_some text _).mpr hword] at hread
        cases hread
        rfl

theorem parseBare_follows (arguments : List Bytes) :
    Follows reader type .bare arguments (parseBare type arguments) := by
  cases arguments with
  | nil =>
    refine .ok .bare ?_
    intro event h
    cases h
    rfl
  | cons _ _ => exact .badCount (by simp [ArgumentShape.AdmitsCount])

theorem parseEvent_follows {shape : ArgumentShape} (hshape : argumentShape type = some shape)
    (arguments : List Bytes) :
    Follows reader type shape arguments (parseEvent reader type arguments) := by
  cases type with
  | pointerMoved | pointerMovedRelative | pointerScrolled =>
    cases hshape
    exact parseCoordinates_follows reader _ arguments
  | keyPressed | keyReleased =>
    cases hshape
    exact parseKey_follows reader _ arguments
  | pointerButtonPressed | pointerButtonReleased =>
    cases hshape
    exact parsePointerButton_follows reader _ arguments
  | characterTyped =>
    cases hshape
    exact parseCharacter_follows reader _ arguments
  | focusGained | focusLost | closeRequested =>
    cases hshape
    exact parseBare_follows reader _ arguments
  | windowResized => cases hshape

theorem parseEvent_unknown (hshape : argumentShape type = none) (arguments : List Bytes) :
    parseEvent reader type arguments = .error .unknownCommand := by
  cases type with
  | windowResized => rfl
  | _ => cases hshape

theorem StartsWith.unique {words : List Bytes} {shape shape' : ArgumentShape}
    {arguments arguments' : List Bytes} (h : StartsWith words shape arguments)
    (h' : StartsWith words shape' arguments') : shape = shape' ∧ arguments = arguments' := by
  obtain ⟨verb, type, hverb, hshape, rfl⟩ := h
  obtain ⟨verb', type', hverb', hshape', hwords⟩ := h'
  cases hwords
  have hname := (PlatformEventType.enumeration.enumFromName_eq_some verb type).mpr hverb
  have hname' := (PlatformEventType.enumeration.enumFromName_eq_some verb type').mpr hverb'
  rw [hname] at hname'
  cases hname'
  rw [hshape] at hshape'
  exact ⟨Option.some.inj hshape', rfl⟩

theorem parseCommand_unknown {words : List Bytes} {line : Bytes}
    (hwords : Layout isSeparator words line)
    (hstart : ∀ shape arguments, ¬ StartsWith words shape arguments) :
    parseCommand reader line = .error .unknownCommand := by
  unfold parseCommand
  rw [tokenize_eq hwords]
  cases words with
  | nil => rfl
  | cons verb arguments =>
    cases hverb : PlatformEventType.enumeration.enumFromName verb with
    | none => simp only [hverb]
    | some type =>
      have hnames := (PlatformEventType.enumeration.enumFromName_eq_some verb type).mp hverb
      simp only [hverb]
      cases hshape : argumentShape type with
      | none => exact parseEvent_unknown reader type hshape arguments
      | some shape => exact absurd ⟨verb, type, hnames, hshape, rfl⟩ (hstart shape arguments)

theorem parseCommand_follows {words : List Bytes} {line : Bytes} {shape : ArgumentShape}
    {arguments : List Bytes} (hwords : Layout isSeparator words line)
    (hstart : StartsWith words shape arguments) :
    (∀ event, parseCommand reader line = .ok event ↔ Command reader words event) ∧
      (parseCommand reader line = .error .badArgumentCount ↔
        ¬ shape.AdmitsCount arguments.length) ∧
      parseCommand reader line ≠ .error .unknownCommand := by
  obtain ⟨verb, type, hverb, hshape, rfl⟩ := hstart
  have hname := (PlatformEventType.enumeration.enumFromName_eq_some verb type).mpr hverb
  have hfollows := parseEvent_follows reader type hshape arguments
  simp only [parseCommand, tokenize_eq hwords, hname]
  refine ⟨?_, hfollows.count, hfollows.known⟩
  intro event
  rw [hfollows.accepts event]
  constructor
  · exact .intro hverb hshape
  · intro h
    cases h with
    | intro hverb' hshape' hdescribes =>
      have hname' := (PlatformEventType.enumeration.enumFromName_eq_some verb _).mpr hverb'
      rw [hname] at hname'
      cases hname'
      rw [hshape] at hshape'
      cases hshape'
      exact hdescribes

theorem Command.startsWith {reader : FloatReader F} {words : List Bytes}
    {event : PlatformEvent F} (h : Command reader words event) :
    ∃ shape arguments, StartsWith words shape arguments := by
  cases h with
  | intro hverb hshape _ => exact ⟨_, _, _, _, hverb, hshape, rfl⟩

theorem parseCommand_ok_iff {words : List Bytes} {line : Bytes}
    (hwords : Layout isSeparator words line) (event : PlatformEvent F) :
    parseCommand reader line = .ok event ↔ Command reader words event := by
  rcases Classical.em (∃ shape arguments, StartsWith words shape arguments) with hstart | hstart
  · obtain ⟨shape, arguments, hstart⟩ := hstart
    exact (parseCommand_follows reader hwords hstart).1 event
  · rw [parseCommand_unknown reader hwords fun shape arguments h => hstart ⟨shape, arguments, h⟩]
    exact ⟨(fun h => nomatch h), fun h => absurd h.startsWith hstart⟩

theorem parseCommand_unknown_iff {words : List Bytes} {line : Bytes}
    (hwords : Layout isSeparator words line) :
    parseCommand reader line = .error .unknownCommand ↔
      ∀ shape arguments, ¬ StartsWith words shape arguments := by
  constructor
  · intro h shape arguments hstart
    exact (parseCommand_follows reader hwords hstart).2.2 h
  · exact parseCommand_unknown reader hwords

theorem parseCommand_count_iff {words : List Bytes} {line : Bytes}
    (hwords : Layout isSeparator words line) :
    parseCommand reader line = .error .badArgumentCount ↔
      ∃ shape arguments, StartsWith words shape arguments ∧
        ¬ shape.AdmitsCount arguments.length := by
  constructor
  · intro h
    have hknown : ¬ ∀ shape arguments, ¬ StartsWith words shape arguments := by
      intro hstart
      rw [parseCommand_unknown reader hwords hstart] at h
      cases h
    obtain ⟨shape, hshape⟩ := not_forall.mp hknown
    obtain ⟨arguments, hstart⟩ := not_forall.mp hshape
    have hstart := not_not.mp hstart
    exact ⟨shape, arguments, hstart, (parseCommand_follows reader hwords hstart).2.1.mp h⟩
  · intro h
    obtain ⟨shape, arguments, hstart, hcount⟩ := h
    exact (parseCommand_follows reader hwords hstart).2.1.mpr hcount

theorem parseCommand_argument_iff {words : List Bytes} {line : Bytes}
    (hwords : Layout isSeparator words line) :
    parseCommand reader line = .error .badArgument ↔
      ∃ shape arguments, StartsWith words shape arguments ∧
        shape.AdmitsCount arguments.length ∧ ∀ event, ¬ Command reader words event := by
  have hok := parseCommand_ok_iff reader hwords
  have hunknown := parseCommand_unknown_iff reader hwords
  have hcount := parseCommand_count_iff reader hwords
  constructor
  · intro h
    rw [h] at hok hunknown hcount
    have hknown : ¬ ∀ shape arguments, ¬ StartsWith words shape arguments :=
      fun hstart => nomatch hunknown.mpr hstart
    obtain ⟨shape, hshape⟩ := not_forall.mp hknown
    obtain ⟨arguments, hstart⟩ := not_forall.mp hshape
    have hstart := not_not.mp hstart
    refine ⟨shape, arguments, hstart, ?_, fun event hevent => nomatch (hok event).mpr hevent⟩
    refine not_not.mp fun hbad => ?_
    exact nomatch hcount.mpr ⟨shape, arguments, hstart, hbad⟩
  · intro h
    obtain ⟨shape, arguments, hstart, hadmits, hnone⟩ := h
    cases hanswer : parseCommand reader line with
    | ok event => exact absurd ((hok event).mp hanswer) (hnone event)
    | error failure =>
      cases failure with
      | badArgument => rfl
      | unknownCommand => exact absurd hstart (hunknown.mp hanswer shape arguments)
      | badArgumentCount =>
        obtain ⟨shape', arguments', hstart', hbad⟩ := hcount.mp hanswer
        obtain ⟨rfl, rfl⟩ := hstart.unique hstart'
        exact absurd hadmits hbad

end PlaygroundEngine.AgentChannel
