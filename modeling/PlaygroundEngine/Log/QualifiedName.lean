import Mathlib.Data.List.TakeWhile
import PlaygroundEngine.Library.MarkedRuns
import PlaygroundEngine.Reflection.Enumeration

/-!
# The qualified name in a signature

A log line names the function it comes from, cut out of the signature that the compiler gives.
Two scans keep the depth of angle brackets and a copy leaves out module attachments.
-/

namespace PlaygroundEngine.Log

set_option autoImplicit false

/-- A closing bracket at depth 0 is passed over. -/
def nextDepth (angleDepth : Nat) (character : UInt8) : Nat :=
  if character = '<'.val.toUInt8 then angleDepth + 1
  else if character = '>'.val.toUInt8 then angleDepth - 1
  else angleDepth

def parenthesisIndex : Nat → Bytes → Option Nat
  | _, [] => none
  | angleDepth, character :: signature =>
    if character = '('.val.toUInt8 ∧ angleDepth = 0 then some 0
    else (parenthesisIndex (nextDepth angleDepth character) signature).map (· + 1)

/-- The second scan from index `i` on; it moves the start at each space at depth 0. -/
def nameStartFrom : Nat → Nat → Nat → Bytes → Nat
  | _, _, nameStart, [] => nameStart
  | angleDepth, i, nameStart, character :: rest =>
    nameStartFrom (nextDepth angleDepth character) (i + 1)
      (if character = ' '.val.toUInt8 ∧ angleDepth = 0 then i + 1 else nameStart) rest

def isPointerMark (character : UInt8) : Bool :=
  character == '*'.val.toUInt8 || character == '&'.val.toUInt8

def isAttachmentMark (character : UInt8) : Bool := character == '@'.val.toUInt8

def endsSkipping (character : UInt8) : Bool :=
  character == ':'.val.toUInt8 || character == '<'.val.toUInt8 ||
    character == '('.val.toUInt8 || character == ' '.val.toUInt8

def extractQualifiedName (signature : Bytes) : Bytes :=
  let signaturePrefix :=
    match parenthesisIndex 0 signature with
    | none => signature
    | some parenthesisIndex => signature.take parenthesisIndex
  let qualifiedName :=
    (signaturePrefix.drop (nameStartFrom 0 0 0 signaturePrefix)).dropWhile isPointerMark
  eraseRuns isAttachmentMark endsSkipping false qualifiedName

/-- A letter, a digit, `_` or `.`. -/
def isAttachmentCharacter (character : UInt8) : Bool :=
  ('a'.val.toUInt8 ≤ character && character ≤ 'z'.val.toUInt8) ||
    ('A'.val.toUInt8 ≤ character && character ≤ 'Z'.val.toUInt8) ||
    ('0'.val.toUInt8 ≤ character && character ≤ '9'.val.toUInt8) ||
    character == '_'.val.toUInt8 || character == '.'.val.toUInt8

def withoutAttachments (name : Bytes) : Bytes :=
  eraseRuns isAttachmentMark (fun character => !isAttachmentCharacter character) false name

def attachmentEnds (name : Bytes) : Bytes :=
  runEnds isAttachmentMark (fun character => !isAttachmentCharacter character) false name

/-- The brackets that are still open, or `none` where one is closed that was not opened. -/
def unclosed : Nat → Bytes → Option Nat
  | depth, [] => some depth
  | depth, character :: text =>
    if character = '>'.val.toUInt8 ∧ depth = 0 then none
    else unclosed (nextDepth depth character) text

def Balanced (text : Bytes) : Prop := unclosed 0 text = some 0

def outside : Nat → Bytes → Bytes
  | _, [] => []
  | depth, character :: text =>
    if depth = 0 then character :: outside (nextDepth depth character) text
    else outside (nextDepth depth character) text

/-- `[return-type ' '] ('*'|'&')* name '(' rest`. -/
structure Signature where
  returnType : Option Bytes
  pointers : Bytes
  name : Bytes
  rest : Bytes
  returnType_balanced : ∀ text ∈ returnType, Balanced text
  pointers_marks : ∀ character ∈ pointers, isPointerMark character = true
  name_balanced : Balanced name
  name_space : ' '.val.toUInt8 ∉ outside 0 name
  name_parenthesis : '('.val.toUInt8 ∉ outside 0 name

namespace Signature

def beforeName (signature : Signature) : Bytes :=
  match signature.returnType with
  | none => []
  | some returnType => returnType ++ [' '.val.toUInt8]

def text (signature : Signature) : Bytes :=
  signature.beforeName ++ signature.pointers ++ signature.name ++
    '('.val.toUInt8 :: signature.rest

/-- The name alone is cut out. -/
def Extracts (signature : Signature) : Prop :=
  extractQualifiedName signature.text = withoutAttachments signature.name

end Signature

def depthAfter (depth : Nat) (text : Bytes) : Nat := text.foldl nextDepth depth

@[simp] theorem depthAfter_nil (depth : Nat) : depthAfter depth [] = depth := rfl

@[simp] theorem depthAfter_cons (depth : Nat) (character : UInt8) (text : Bytes) :
    depthAfter depth (character :: text) = depthAfter (nextDepth depth character) text := rfl

theorem depthAfter_append (depth : Nat) (text rest : Bytes) :
    depthAfter depth (text ++ rest) = depthAfter (depthAfter depth text) rest := by
  simp [depthAfter]

theorem unclosed_append (depth : Nat) (text rest : Bytes) :
    unclosed depth (text ++ rest) =
      (unclosed depth text).bind fun opened => unclosed opened rest := by
  induction text generalizing depth with
  | nil => rfl
  | cons character text ih =>
    simp only [List.cons_append, unclosed]
    split
    · rfl
    · exact ih _

theorem depthAfter_of_unclosed {depth final : Nat} {text : Bytes}
    (h : unclosed depth text = some final) : depthAfter depth text = final := by
  induction text generalizing depth with
  | nil => exact Option.some.inj h
  | cons character text ih =>
    rw [unclosed] at h
    split at h
    · cases h
    · exact ih h

theorem outside_append (depth : Nat) (text rest : Bytes) :
    outside depth (text ++ rest) = outside depth text ++ outside (depthAfter depth text) rest := by
  induction text generalizing depth with
  | nil => rfl
  | cons character text ih =>
    simp only [List.cons_append, outside, depthAfter_cons, ih]
    split <;> simp

theorem not_mem_outside_cons {character first : UInt8} {depth : Nat} {text : Bytes}
    (hfree : character ∉ outside depth (first :: text)) :
    ¬ (first = character ∧ depth = 0) ∧ character ∉ outside (nextDepth depth first) text := by
  constructor
  · intro hgiven
    obtain ⟨rfl, rfl⟩ := hgiven
    exact hfree (by simp [outside])
  · intro hmem
    apply hfree
    rw [outside]
    split
    · exact List.mem_cons_of_mem _ hmem
    · exact hmem

theorem exists_first_outside {character : UInt8} {depth : Nat} {text : Bytes}
    (h : character ∈ outside depth text) :
    ∃ before after, text = before ++ character :: after ∧ depthAfter depth before = 0 ∧
      character ∉ outside depth before := by
  induction text generalizing depth with
  | nil => simp [outside] at h
  | cons first text ih =>
    by_cases hhere : depth = 0 ∧ first = character
    · obtain ⟨rfl, rfl⟩ := hhere
      exact ⟨[], text, rfl, rfl, by simp [outside]⟩
    · have hlater : character ∈ outside (nextDepth depth first) text := by
        rw [outside] at h
        split at h
        · rcases List.mem_cons.mp h with heq | hmem
          · exact absurd ⟨‹depth = 0›, heq.symm⟩ hhere
          · exact hmem
        · exact h
      obtain ⟨before, after, rfl, hdepth, hfree⟩ := ih hlater
      refine ⟨first :: before, after, rfl, hdepth, ?_⟩
      rw [outside]
      split
      · simp only [List.mem_cons, not_or]
        exact ⟨fun heq => hhere ⟨‹depth = 0›, heq.symm⟩, hfree⟩
      · exact hfree

theorem exists_last_outside {character : UInt8} {depth : Nat} {text : Bytes}
    (h : character ∈ outside depth text) :
    ∃ before after, text = before ++ character :: after ∧ depthAfter depth before = 0 ∧
      character ∉ outside (nextDepth 0 character) after := by
  induction text generalizing depth with
  | nil => simp [outside] at h
  | cons first text ih =>
    by_cases hlater : character ∈ outside (nextDepth depth first) text
    · obtain ⟨before, after, rfl, hdepth, hfree⟩ := ih hlater
      exact ⟨first :: before, after, rfl, hdepth, hfree⟩
    · rw [outside] at h
      split at h
      · rename_i hdepth
        subst hdepth
        rcases List.mem_cons.mp h with rfl | hmem
        · exact ⟨[], text, rfl, rfl, hlater⟩
        · exact absurd hmem hlater
      · exact absurd h hlater

theorem balanced_of_append {text rest : Bytes} (hdepth : depthAfter 0 text = 0)
    (hbalanced : Balanced (text ++ rest)) : Balanced text ∧ Balanced rest := by
  unfold Balanced at hbalanced ⊢
  rw [unclosed_append] at hbalanced
  cases hopened : unclosed 0 text with
  | none =>
    rw [hopened] at hbalanced
    cases hbalanced
  | some opened =>
    have hzero : opened = 0 := (depthAfter_of_unclosed hopened).symm.trans hdepth
    rw [hopened, hzero] at hbalanced
    exact ⟨by rw [hzero], hbalanced⟩

theorem depthAfter_of_balanced {text : Bytes} (hbalanced : Balanced text) :
    depthAfter 0 text = 0 :=
  depthAfter_of_unclosed hbalanced

theorem nextDepth_pointerMark {character : UInt8} (hmark : isPointerMark character = true)
    (depth : Nat) : nextDepth depth character = depth := by
  simp only [isPointerMark, Bool.or_eq_true, beq_iff_eq] at hmark
  rcases hmark with rfl | rfl <;> rfl

theorem depthAfter_pointers {pointers : Bytes}
    (hmarks : ∀ character ∈ pointers, isPointerMark character = true) (depth : Nat) :
    depthAfter depth pointers = depth := by
  induction pointers with
  | nil => rfl
  | cons character pointers ih =>
    rw [depthAfter_cons, nextDepth_pointerMark (hmarks _ List.mem_cons_self)]
    exact ih fun c hc => hmarks c (List.mem_cons_of_mem _ hc)

theorem mem_of_mem_outside {character : UInt8} {depth : Nat} {text : Bytes}
    (h : character ∈ outside depth text) : character ∈ text := by
  obtain ⟨before, after, rfl, -, -⟩ := exists_first_outside h
  simp

theorem parenthesisIndex_append {depth : Nat} {text : Bytes}
    (hfree : '('.val.toUInt8 ∉ outside depth text) (rest : Bytes) :
    parenthesisIndex depth (text ++ rest) =
      (parenthesisIndex (depthAfter depth text) rest).map (· + text.length) := by
  induction text generalizing depth with
  | nil => simp
  | cons character text ih =>
    obtain ⟨hother, hrest⟩ := not_mem_outside_cons hfree
    rw [List.cons_append, parenthesisIndex, if_neg hother, ih hrest, Option.map_map,
      depthAfter_cons]
    rfl

theorem nameStartFrom_append (depth i nameStart : Nat) (text rest : Bytes) :
    nameStartFrom depth i nameStart (text ++ rest) =
      nameStartFrom (depthAfter depth text) (i + text.length)
        (nameStartFrom depth i nameStart text) rest := by
  induction text generalizing depth i nameStart with
  | nil => rfl
  | cons character text ih =>
    rw [List.cons_append, nameStartFrom, ih, depthAfter_cons, nameStartFrom, List.length_cons]
    congr 1
    omega

theorem nameStartFrom_free {depth : Nat} {text : Bytes}
    (hfree : ' '.val.toUInt8 ∉ outside depth text) (i nameStart : Nat) :
    nameStartFrom depth i nameStart text = nameStart := by
  induction text generalizing depth i with
  | nil => rfl
  | cons character text ih =>
    obtain ⟨hother, hrest⟩ := not_mem_outside_cons hfree
    rw [nameStartFrom, if_neg hother]
    exact ih hrest _

/-! ### What is cut out -/

namespace Signature

/-- The return type shows no parenthesis outside of its brackets. -/
def ReturnTypePlain (signature : Signature) : Prop :=
  ∀ returnType ∈ signature.returnType, '('.val.toUInt8 ∉ outside 0 returnType

theorem beforeName_depth (signature : Signature) : depthAfter 0 signature.beforeName = 0 := by
  unfold beforeName
  cases hreturn : signature.returnType with
  | none => rfl
  | some returnType =>
    rw [depthAfter_append,
      depthAfter_of_balanced (signature.returnType_balanced returnType hreturn)]
    rfl

theorem beforeName_free {signature : Signature} (hplain : signature.ReturnTypePlain) :
    '('.val.toUInt8 ∉ outside 0 signature.beforeName := by
  unfold beforeName
  cases hreturn : signature.returnType with
  | none => simp [outside]
  | some returnType =>
    rw [outside_append,
      depthAfter_of_balanced (signature.returnType_balanced returnType hreturn)]
    intro hmem
    rcases List.mem_append.mp hmem with hmem | hmem
    · exact hplain returnType hreturn hmem
    · exact absurd hmem (by decide)

theorem nameStart_beforeName (signature : Signature) :
    nameStartFrom 0 0 0 signature.beforeName = signature.beforeName.length := by
  unfold beforeName
  cases hreturn : signature.returnType with
  | none => rfl
  | some returnType =>
    rw [nameStartFrom_append,
      depthAfter_of_balanced (signature.returnType_balanced returnType hreturn)]
    simp [nameStartFrom]

theorem pointers_free (signature : Signature) {character : UInt8}
    (hother : isPointerMark character = false) (depth : Nat) :
    character ∉ outside depth signature.pointers := by
  intro hmem
  have hmark := signature.pointers_marks character (mem_of_mem_outside hmem)
  simp [hother] at hmark

/-- Where no parenthesis comes before the parameters, all that the scans leave is the name. -/
theorem extract_text {signature : Signature} (hplain : signature.ReturnTypePlain) :
    extractQualifiedName signature.text = eraseRuns isAttachmentMark endsSkipping false
      (signature.name.dropWhile isPointerMark) := by
  have hbefore := signature.beforeName_depth
  have hpointers := depthAfter_pointers signature.pointers_marks 0
  have hname := depthAfter_of_balanced signature.name_balanced
  have hfree : '('.val.toUInt8 ∉
      outside 0 (signature.beforeName ++ (signature.pointers ++ signature.name)) := by
    rw [outside_append, hbefore, outside_append, hpointers]
    simp only [List.mem_append, not_or]
    exact ⟨beforeName_free hplain, signature.pointers_free (by decide) 0,
      signature.name_parenthesis⟩
  have hdepth : depthAfter 0 (signature.beforeName ++ (signature.pointers ++ signature.name)) =
      0 := by
    rw [depthAfter_append, hbefore, depthAfter_append, hpointers, hname]
  have hindex : parenthesisIndex 0 signature.text =
      some (signature.beforeName ++ (signature.pointers ++ signature.name)).length := by
    rw [text, List.append_assoc signature.beforeName, parenthesisIndex_append hfree, hdepth]
    simp [parenthesisIndex]
  have hspace : ' '.val.toUInt8 ∉ outside 0 (signature.pointers ++ signature.name) := by
    rw [outside_append, hpointers]
    simp only [List.mem_append, not_or]
    exact ⟨signature.pointers_free (by decide) 0, signature.name_space⟩
  have hstart : nameStartFrom 0 0 0
      (signature.beforeName ++ (signature.pointers ++ signature.name)) =
        signature.beforeName.length := by
    rw [nameStartFrom_append, hbefore, nameStartFrom_free hspace, nameStart_beforeName]
  have htake : signature.text.take
      (signature.beforeName ++ (signature.pointers ++ signature.name)).length =
        signature.beforeName ++ (signature.pointers ++ signature.name) := by
    rw [text, List.append_assoc signature.beforeName]
    exact List.take_left
  simp only [extractQualifiedName, hindex, htake, hstart, List.drop_left]
  rw [List.dropWhile_append_of_pos signature.pointers_marks]

/-- The name starts with no pointer mark and each of its attachments runs into a `:`, `<`, `(` or
space, unless another attachment or the end of the name follows. -/
def NameIntact (signature : Signature) : Prop :=
  (∀ character ∈ signature.name.head?, isPointerMark character = false) ∧
    ∀ character ∈ attachmentEnds signature.name, endsSkipping character = true

theorem dropWhile_eq_self {name : Bytes}
    (hhead : ∀ character ∈ name.head?, isPointerMark character = false) :
    name.dropWhile isPointerMark = name := by
  cases name with
  | nil => rfl
  | cons character name =>
    have hfirst : isPointerMark character = false := hhead character rfl
    simp [hfirst]

theorem endsSkipping_not_attachment (character : UInt8) (hend : endsSkipping character = true) :
    (!isAttachmentCharacter character) = true := by
  simp only [endsSkipping, Bool.or_eq_true, beq_iff_eq] at hend
  rcases hend with ((rfl | rfl) | rfl) | rfl <;> rfl

/-- A name that starts with a pointer mark loses it, and the copy cannot make up for that. -/
theorem extracted_length_lt {name : Bytes} {first : UInt8} (hfirst : first ∈ name.head?)
    (hmark : isPointerMark first = true) :
    (eraseRuns isAttachmentMark endsSkipping false (name.dropWhile isPointerMark)).length <
      (withoutAttachments name).length := by
  have hplain : ∀ character ∈ name.takeWhile isPointerMark,
      isAttachmentMark character = false := by
    intro character hmem
    have hpointer := List.mem_takeWhile_imp hmem
    simp only [isPointerMark, Bool.or_eq_true, beq_iff_eq] at hpointer
    rcases hpointer with rfl | rfl <;> rfl
  have hsplit := List.takeWhile_append_dropWhile (p := isPointerMark) (l := name)
  have hle : (eraseRuns isAttachmentMark endsSkipping false
      (name.dropWhile isPointerMark)).length ≤
        (withoutAttachments (name.dropWhile isPointerMark)).length :=
    (length_eraseRuns_le endsSkipping_not_attachment false _).2
  have hpos : 0 < (name.takeWhile isPointerMark).length := by
    cases name with
    | nil => cases hfirst
    | cons character name =>
      obtain rfl := Option.some.inj hfirst
      simp [hmark]
  have hwithout : withoutAttachments name = name.takeWhile isPointerMark ++
      withoutAttachments (name.dropWhile isPointerMark) := by
    unfold withoutAttachments
    conv_lhs => rw [← hsplit]
    exact eraseRuns_plain hplain _
  rw [hwithout, List.length_append]
  omega

theorem eraseRuns_name_iff (name : Bytes) :
    eraseRuns isAttachmentMark endsSkipping false name = withoutAttachments name ↔
      ∀ character ∈ attachmentEnds name, endsSkipping character = true :=
  eraseRuns_eq_iff endsSkipping_not_attachment false name

/-- A balanced text up to its first parenthesis outside of brackets is read like a signature. -/
theorem exists_inner {returnType : Bytes} (hbalanced : Balanced returnType)
    (hmem : '('.val.toUInt8 ∈ outside 0 returnType) :
    ∃ inner : Signature, returnType = inner.text ∧ inner.ReturnTypePlain := by
  obtain ⟨before, rest, rfl, hdepth, hfree⟩ := exists_first_outside hmem
  have hbefore := (balanced_of_append hdepth hbalanced).1
  by_cases hspace : ' '.val.toUInt8 ∈ outside 0 before
  · obtain ⟨outer, name, rfl, houter, hlast⟩ := exists_last_outside hspace
    have hspaceDepth : depthAfter 0 (outer ++ [' '.val.toUInt8]) = 0 := by
      rw [depthAfter_append, houter]
      rfl
    rw [List.append_cons] at hbefore hfree
    have hparts := balanced_of_append hspaceDepth hbefore
    have houterBalanced := (balanced_of_append houter hparts.1).1
    rw [outside_append, hspaceDepth, outside_append] at hfree
    simp only [List.mem_append, not_or] at hfree
    let inner : Signature :=
      ⟨some outer, [], name, rest, by simpa using houterBalanced, by simp, hparts.2, hlast, hfree.2⟩
    refine ⟨inner, by simp [inner, text, beforeName], ?_⟩
    intro other hother
    obtain rfl := Option.some.inj hother
    exact hfree.1.1
  · let inner : Signature := ⟨none, [], before, rest, by simp, by simp, hbefore, hspace, hfree⟩
    refine ⟨inner, by simp [inner, text, beforeName], ?_⟩
    intro other hother
    cases hother

/-- What follows a signature in the return type is passed over with its parameters. -/
theorem extract_returnType {signature inner : Signature}
    (hreturn : signature.returnType = some inner.text) (hplain : inner.ReturnTypePlain) :
    extractQualifiedName signature.text = eraseRuns isAttachmentMark endsSkipping false
      (inner.name.dropWhile isPointerMark) := by
  let longer : Signature := { inner with
    rest := inner.rest ++ (' '.val.toUInt8 :: signature.pointers ++ signature.name ++
      '('.val.toUInt8 :: signature.rest) }
  have hlonger : longer.ReturnTypePlain := hplain
  have htext : signature.text = longer.text := by
    simp [longer, text, beforeName, hreturn]
  rw [htext, extract_text hlonger]

theorem intact_iff (signature : Signature) :
    eraseRuns isAttachmentMark endsSkipping false (signature.name.dropWhile isPointerMark) =
      withoutAttachments signature.name ↔ signature.NameIntact := by
  constructor
  · intro hcopy
    have hhead : ∀ character ∈ signature.name.head?, isPointerMark character = false := by
      intro character hfirst
      cases hmark : isPointerMark character with
      | false => rfl
      | true =>
        have hlt := extracted_length_lt hfirst hmark
        rw [hcopy] at hlt
        omega
    rw [dropWhile_eq_self hhead, eraseRuns_name_iff] at hcopy
    exact ⟨hhead, hcopy⟩
  · intro hintact
    obtain ⟨hhead, hends⟩ := hintact
    rw [dropWhile_eq_self hhead]
    exact (eraseRuns_name_iff signature.name).mpr hends

/-- Behind a plain return type the name is cut out exactly when it is intact. A parenthesis
outside of the brackets of the return type hides the name: whatever the name is, the answer is
the same, and it is the name that the return type itself shows where that one is intact. -/
theorem extracts_iff (signature : Signature) :
    (signature.ReturnTypePlain → (signature.Extracts ↔ signature.NameIntact)) ∧
    (¬ signature.ReturnTypePlain → ∀ other : Signature,
      other.returnType = signature.returnType →
        extractQualifiedName other.text = extractQualifiedName signature.text) ∧
    ∀ inner : Signature, signature.returnType = some inner.text → inner.ReturnTypePlain →
      inner.NameIntact →
        (signature.Extracts ↔
          withoutAttachments inner.name = withoutAttachments signature.name) := by
  refine ⟨?_, ?_, ?_⟩
  · intro hplain
    rw [Extracts, extract_text hplain]
    exact intact_iff signature
  · intro hplain other hother
    simp only [ReturnTypePlain, not_forall, not_not] at hplain
    obtain ⟨returnType, hreturn, hmem⟩ := hplain
    have hbalanced := signature.returnType_balanced returnType hreturn
    obtain ⟨inner, rfl, hinner⟩ := exists_inner hbalanced hmem
    rw [extract_returnType hreturn hinner, extract_returnType (hother.trans hreturn) hinner]
  · intro inner hreturn hinner hintact
    rw [Extracts, extract_returnType hreturn hinner, (intact_iff inner).mpr hintact]

def attachedClass : Signature where
  returnType := some (bytesOf "void")
  pointers := []
  name := bytesOf "Foo@M::Bar"
  rest := bytesOf ")"
  returnType_balanced := by
    intro text htext
    obtain rfl := Option.some.inj htext
    rfl
  pointers_marks := by simp
  name_balanced := rfl
  name_space := by decide
  name_parenthesis := by decide

/-- `decltype(auto)`, read as a signature. -/
def deduced : Signature where
  returnType := none
  pointers := []
  name := bytesOf "decltype"
  rest := bytesOf "auto)"
  returnType_balanced := by simp
  pointers_marks := by simp
  name_balanced := rfl
  name_space := by decide
  name_parenthesis := by decide

def deducedClass : Signature :=
  { attachedClass with
    returnType := some deduced.text
    returnType_balanced := by
      intro text htext
      obtain rfl := Option.some.inj htext
      rfl }

theorem extracts_iff_attachedClass : attachedClass.Extracts ∧ ¬ deducedClass.Extracts := by
  constructor
  · refine ((extracts_iff attachedClass).1 ?_).mpr ⟨?_, ?_⟩
    · intro returnType hreturn
      obtain rfl := Option.some.inj hreturn
      decide
    · intro character hfirst
      obtain rfl := Option.some.inj hfirst
      decide
    · decide +kernel
  · rw [(extracts_iff deducedClass).2.2 deduced rfl (by intro _ hreturn; cases hreturn) ⟨?_, ?_⟩]
    · decide +kernel
    · intro character hfirst
      obtain rfl := Option.some.inj hfirst
      decide
    · decide +kernel

def attachedArgument : Signature where
  returnType := some (bytesOf "void")
  pointers := []
  name := bytesOf "Foo<A@M>::Bar"
  rest := bytesOf ")"
  returnType_balanced := by
    intro text htext
    obtain rfl := Option.some.inj htext
    rfl
  pointers_marks := by simp
  name_balanced := rfl
  name_space := by decide
  name_parenthesis := by decide

/-- The bracket after the attachment is taken for a part of it. -/
theorem attachedArgument_loses_bracket : ¬ attachedArgument.Extracts := by
  have hcut : extractQualifiedName attachedArgument.text = bytesOf "Foo<A::Bar" := by
    decide +kernel
  have hname : withoutAttachments attachedArgument.name = bytesOf "Foo<A>::Bar" := by
    decide +kernel
  rw [Extracts, hcut, hname]
  decide

end Signature

end PlaygroundEngine.Log
