import Mathlib.Data.List.Basic
import Mathlib.Data.List.Induction

/-!
# The last word on a matter

A matter stands as the last message that speaks of it left it. Where one producer's messages are
expanded into another's, it is enough to look at the expansion of one message.
-/

namespace Library

universe u v w
variable {α : Type u} {β : Type v} {γ : Type w}
set_option autoImplicit false

/-- `tells` is silent on messages about other matters. -/
def lastWord (tells : α → Option β) (messages : List α) : Option β :=
  (messages.filterMap tells).getLast?

theorem lastWord_append (tells : α → Option β) (before after : List α) :
    lastWord tells (before ++ after) = (lastWord tells after).or (lastWord tells before) := by
  rw [lastWord, List.filterMap_append, List.getLast?_append]
  rfl

theorem lastWord_singleton (tells : α → Option β) (message : α) :
    lastWord tells [message] = tells message := by
  rw [lastWord, List.filterMap_cons, List.filterMap_nil]
  cases tells message <;> rfl

theorem lastWord_concat (tells : α → Option β) (before : List α) (message : α) :
    lastWord tells (before ++ [message]) = (tells message).or (lastWord tells before) := by
  rw [lastWord_append, lastWord_singleton]

theorem lastWord_flatMap (tells : α → Option β) (expand : γ → List α) (messages : List γ) :
    lastWord tells (messages.flatMap expand) =
      lastWord (fun message => lastWord tells (expand message)) messages := by
  induction messages using List.reverseRecOn with
  | nil => rfl
  | append_singleton messages message ih =>
    rw [List.flatMap_append, List.flatMap_singleton, lastWord_append, lastWord_concat, ih]

theorem lastWord_congr {tells tells' : α → Option β} {messages : List α}
    (h : ∀ message ∈ messages, tells message = tells' message) :
    lastWord tells messages = lastWord tells' messages := by
  rw [lastWord, List.filterMap_congr h]
  rfl

theorem lastWord_silent {tells : α → Option β} {messages : List α}
    (h : ∀ message ∈ messages, tells message = none) : lastWord tells messages = none := by
  rw [lastWord, List.filterMap_eq_nil_iff.mpr h]
  rfl

end Library
