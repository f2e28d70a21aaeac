/-!
# Outcomes that are never faults

A computation may stop with an error that its caller expects. Some errors are
faults, which no caller expects; these must not come up at all.
-/

namespace Library

set_option autoImplicit false

universe u v
variable {ε : Type u} {α β : Type v}

/-- The computation stops without a fault, or its result meets the postcondition. -/
def Guarantees (fault : ε → Prop) (outcome : Except ε α) (post : α → Prop) : Prop :=
  match outcome with
  | .ok result => post result
  | .error error => ¬ fault error

namespace Guarantees

variable {fault : ε → Prop} {outcome : Except ε α} {post post' : α → Prop}

theorem pure {result : α} (h : post result) : Guarantees fault (.ok result) post := h

theorem stop {error : ε} (h : ¬ fault error) : Guarantees fault (.error error) post := h

theorem mono (h : Guarantees fault outcome post) (himp : ∀ result, post result → post' result) :
    Guarantees fault outcome post' := by
  cases outcome with
  | ok result => exact himp result h
  | error error => exact h

theorem bind {next : α → Except ε β} {last : β → Prop} (h : Guarantees fault outcome post)
    (hnext : ∀ result, post result → Guarantees fault (next result) last) :
    Guarantees fault (outcome >>= next) last := by
  cases outcome with
  | ok result => exact hnext result h
  | error error => exact h

theorem result (h : Guarantees fault outcome post) {result : α} (hok : outcome = .ok result) :
    post result := by
  rw [hok] at h
  exact h

theorem not_fault (h : Guarantees fault outcome post) {error : ε}
    (herror : outcome = .error error) : ¬ fault error := by
  rw [herror] at h
  exact h

end Guarantees

end Library
