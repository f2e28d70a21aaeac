import Mathlib.Data.List.TakeWhile

/-!
# Words of a line

A line is cut into words by separator symbols. `Layout` says what the words of a
line are without saying how they are found: the maximal runs of symbols that are
not separators, in order.
-/

namespace Library

set_option autoImplicit false

universe u
variable {α : Type u}

def AllSeparators (sep : α → Bool) (gap : List α) : Prop := ∀ c ∈ gap, sep c = true

structure IsWord (sep : α → Bool) (word : List α) : Prop where
  nonempty : word ≠ []
  solid : ∀ c ∈ word, sep c = false

/-- Nothing can be added to a word in front of such a rest. -/
def Ends (sep : α → Bool) (rest : List α) : Prop := ∀ c ∈ rest.head?, sep c = true

inductive Layout (sep : α → Bool) : List (List α) → List α → Prop where
  | blank {gap : List α} : AllSeparators sep gap → Layout sep [] gap
  | word {gap word rest : List α} {words : List (List α)} :
      AllSeparators sep gap → IsWord sep word → Ends sep rest → Layout sep words rest →
      Layout sep (word :: words) (gap ++ (word ++ rest))

variable {sep : α → Bool}

theorem isWord_iff_all {word : List α} :
    IsWord sep word ↔ (!word.isEmpty && word.all fun c => !sep c) = true := by
  rw [Bool.and_eq_true, Bool.not_eq_true', List.isEmpty_eq_false_iff, List.all_eq_true]
  constructor
  · intro h
    exact ⟨h.nonempty, fun c hc => by rw [h.solid c hc]; rfl⟩
  · intro h
    exact ⟨h.1, fun c hc => by simpa using h.2 c hc⟩

theorem dropWhile_gap {gap rest : List α} (hgap : AllSeparators sep gap) :
    (gap ++ rest).dropWhile sep = rest.dropWhile sep := by
  induction gap with
  | nil => rfl
  | cons c gap ih =>
    rw [List.cons_append, List.dropWhile_cons_of_pos (hgap c List.mem_cons_self)]
    exact ih fun d hd => hgap d (List.mem_cons_of_mem c hd)

theorem dropWhile_word {word rest : List α} (hword : IsWord sep word) :
    (word ++ rest).dropWhile sep = word ++ rest := by
  cases word with
  | nil => exact absurd rfl hword.nonempty
  | cons c word =>
    rw [List.cons_append, List.dropWhile_cons_of_neg]
    simp [hword.solid c List.mem_cons_self]

theorem takeWhile_word {word rest : List α} (hword : ∀ c ∈ word, sep c = false)
    (hrest : Ends sep rest) : (word ++ rest).takeWhile (fun c => !sep c) = word := by
  induction word with
  | nil =>
    cases rest with
    | nil => rfl
    | cons c rest => simp [hrest c rfl]
  | cons c word ih =>
    rw [List.cons_append, List.takeWhile_cons_of_pos (by simp [hword c List.mem_cons_self]),
      ih fun d hd => hword d (List.mem_cons_of_mem c hd)]

theorem dropWhile_word_rest {word rest : List α} (hword : ∀ c ∈ word, sep c = false)
    (hrest : Ends sep rest) : (word ++ rest).dropWhile (fun c => !sep c) = rest := by
  have hsplit := List.takeWhile_append_dropWhile (p := fun c => !sep c) (l := word ++ rest)
  rw [takeWhile_word hword hrest] at hsplit
  exact List.append_cancel_left hsplit

theorem ends_dropWhile (line : List α) : Ends sep (line.dropWhile fun c => !sep c) := by
  intro c hc
  have hne : line.dropWhile (fun c => !sep c) ≠ [] := by
    intro hnil
    rw [hnil] at hc
    cases hc
  have hhead := List.head_dropWhile_not (fun c => !sep c) hne
  have heq : (line.dropWhile fun c => !sep c).head hne = c := by
    rw [List.head?_eq_some_head hne] at hc
    exact Option.some.inj hc
  simpa [heq] using hhead

theorem allSeparators_takeWhile (line : List α) : AllSeparators sep (line.takeWhile sep) :=
  fun _ hc => List.mem_takeWhile_imp hc

theorem Layout.unique {words words' : List (List α)} {line : List α}
    (h : Layout sep words line) (h' : Layout sep words' line) : words = words' := by
  induction h generalizing words' with
  | @blank gap hgap =>
    have hdrop : gap.dropWhile sep = [] := List.dropWhile_eq_nil_iff.mpr hgap
    cases h' with
    | blank => rfl
    | @word gap' word rest words' hgap' hword hrest _ =>
      rw [dropWhile_gap hgap', dropWhile_word hword] at hdrop
      exact absurd (List.append_eq_nil_iff.mp hdrop).1 hword.nonempty
  | @word gap word rest words hgap hword hrest _ ih =>
    have hline : (gap ++ (word ++ rest)).dropWhile sep = word ++ rest := by
      rw [dropWhile_gap hgap, dropWhile_word hword]
    generalize hwhole : gap ++ (word ++ rest) = line at h' hline
    cases h' with
    | blank hgap' =>
      rw [List.dropWhile_eq_nil_iff.mpr hgap'] at hline
      exact absurd (List.append_eq_nil_iff.mp hline.symm).1 hword.nonempty
    | @word gap' word' rest' words' hgap' hword' hrest' hwords' =>
      rw [dropWhile_gap hgap', dropWhile_word hword'] at hline
      have hsame : word' = word := by
        rw [← takeWhile_word hword'.solid hrest', hline, takeWhile_word hword.solid hrest]
      have htail : rest' = rest := by
        rw [← dropWhile_word_rest hword'.solid hrest', hline, dropWhile_word_rest hword.solid hrest]
      subst hsame
      subst htail
      rw [ih hwords']

theorem Layout.pad {words : List (List α)} {line gap : List α} (hgap : AllSeparators sep gap)
    (h : Layout sep words line) : Layout sep words (gap ++ line) := by
  have hjoin : ∀ {gap'}, AllSeparators sep gap' → AllSeparators sep (gap ++ gap') := by
    intro gap' hgap' c hc
    rcases List.mem_append.mp hc with hc | hc
    · exact hgap c hc
    · exact hgap' c hc
  cases h with
  | blank hgap' => exact .blank (hjoin hgap')
  | word hgap' hword hrest hwords =>
    rw [← List.append_assoc]
    exact .word (hjoin hgap') hword hrest hwords

theorem Layout.padRight {words : List (List α)} {line gap : List α} (hgap : AllSeparators sep gap)
    (h : Layout sep words line) : Layout sep words (line ++ gap) := by
  induction h with
  | blank hgap' =>
    refine .blank fun c hc => ?_
    rcases List.mem_append.mp hc with hc | hc
    · exact hgap' c hc
    · exact hgap c hc
  | @word gap' word rest words hgap' hword hrest _ ih =>
    rw [List.append_assoc, List.append_assoc]
    refine .word hgap' hword ?_ ih
    intro c hc
    cases rest with
    | nil => exact hgap c (List.mem_of_mem_head? hc)
    | cons d rest => exact hrest c hc

def spaced (separator : α) : List (List α) → List α
  | [] => []
  | [word] => word
  | word :: next :: words => word ++ separator :: spaced separator (next :: words)

theorem layout_spaced {separator : α} (hsep : sep separator = true) {words : List (List α)}
    (hwords : ∀ word ∈ words, IsWord sep word) : Layout sep words (spaced separator words) := by
  induction words with
  | nil => exact .blank fun c hc => nomatch hc
  | cons word words ih =>
    have hword := hwords word List.mem_cons_self
    have hrest := ih fun w hw => hwords w (List.mem_cons_of_mem word hw)
    cases words with
    | nil =>
      have hline : Layout sep [word] ([] ++ (word ++ [])) :=
        .word (fun c hc => nomatch hc) hword (fun c hc => nomatch hc)
          (.blank fun c hc => nomatch hc)
      simpa [spaced] using hline
    | cons next words =>
      have hline : Layout sep (word :: next :: words)
          ([] ++ (word ++ separator :: spaced separator (next :: words))) := by
        refine .word (fun c hc => nomatch hc) hword ?_ ?_
        · intro c hc
          cases hc
          exact hsep
        · have hgap : AllSeparators sep [separator] := by
            intro c hc
            rw [List.mem_singleton.mp hc]
            exact hsep
          exact hrest.pad hgap
      exact hline

end Library
