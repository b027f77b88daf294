import Conform.Failure

/-!
# Failures seen from around

`under p` moves a failure, with all its causes, below the path `p`. It keeps kinds and messages, and
moves along one path after another as along both at once.
-/

namespace Conform.Failure

variable (p q : Path) (x : Failure)

@[simp]
theorem kind_under : (x.under p).kind = x.kind := by
  obtain ⟨k, q, m, _ | c⟩ := x <;> simp [under]

@[simp]
theorem path_under : (x.under p).path = p ++ x.path := by
  obtain ⟨k, q, m, _ | c⟩ := x <;> simp [under]

@[simp]
theorem message_under : (x.under p).message = x.message := by
  obtain ⟨k, q, m, _ | c⟩ := x <;> simp [under]

@[simp]
theorem cause_under : (x.under p).cause = x.cause.map (·.under p) := by
  obtain ⟨k, q, m, _ | c⟩ := x <;> simp [under]

theorem causes_under (p : Path) (x : Failure) : (x.under p).causes = x.causes.map (·.under p) := by
  obtain ⟨k, q, m, _ | c⟩ := x
  · simp [under, causes]
  · simp [under, causes, causes_under p c]

@[simp]
theorem under_nil (x : Failure) : x.under [] = x := by
  obtain ⟨k, q, m, _ | c⟩ := x
  · simp [under]
  · simp [under, under_nil c]

theorem under_under (p q : Path) (x : Failure) : (x.under q).under p = x.under (p ++ q) := by
  obtain ⟨k, r, m, _ | c⟩ := x
  · simp [under]
  · simp [under, under_under p q c]

theorem causes_eq : x.causes = x.cause.elim [] fun c => c :: c.causes := by
  obtain ⟨k, q, m, _ | c⟩ := x <;> simp [causes]

/-- The end of the chain of causes is in the chain. -/
theorem rootCause_mem (x : Failure) : x.rootCause ∈ x :: x.causes := by
  obtain ⟨k, q, m, _ | c⟩ := x
  · simp [rootCause]
  · rw [rootCause, causes]
    exact List.mem_cons_of_mem _ (rootCause_mem c)

end Conform.Failure
