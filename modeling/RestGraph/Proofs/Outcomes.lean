/-!
Outcomes of steps that may fail: how they pass through sequences and maps.
-/

set_option autoImplicit false

namespace RestGraph

section Outcomes

variable {ε α β γ : Type}

@[simp] theorem ok_bind (value : α) (next : α → Except ε β) : Except.ok value >>= next = next value :=
  rfl

@[simp] theorem error_bind (fault : ε) (next : α → Except ε β) :
    Except.error fault >>= next = .error fault :=
  rfl

@[simp] theorem map_ok (f : α → β) (value : α) :
    (Except.ok value : Except ε α).map f = .ok (f value) :=
  rfl

@[simp] theorem map_error (f : α → β) (fault : ε) :
    (Except.error fault : Except ε α).map f = .error fault :=
  rfl

theorem map_bind (first : Except ε α) (next : α → Except ε β) (f : β → γ) :
    (first >>= next).map f = first >>= fun value => (next value).map f := by
  cases first <;> rfl

theorem bind_map (first : Except ε α) (f : α → β) (next : β → Except ε γ) :
    first.map f >>= next = first >>= fun value => next (f value) := by
  cases first <;> rfl

theorem toOption_bind (first : Except ε α) (next : α → Except ε β) :
    (first >>= next).toOption = first.toOption.bind fun value => (next value).toOption := by
  cases first <;> rfl

theorem exists_of_bind_eq_ok {first : Except ε α} {next : α → Except ε β} {result : β}
    (run : first >>= next = .ok result) :
    ∃ value, first = .ok value ∧ next value = .ok result := by
  cases first with
  | error fault => cases run
  | ok value => exact ⟨value, rfl, run⟩

end Outcomes

end RestGraph
