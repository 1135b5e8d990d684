import Mathlib.Data.List.Basic

/-!
# First faults

A check of several things in order stops at the first one that fails. This module says which fault
such a check ends with, for checks whose results are all kept as well as for those that only pass.

## Main Definitions

* `fault?` — the fault of a result, if it is one

## Main Statements

* `fault?_bind` — a check after another one
* `fault?_forM`, `fault?_mapM` — a check of every member of a list
* `mapM_eq_ok_map` — a check without faults keeps what each member gives
-/

namespace DesignTokens

universe u v w

variable {ε : Type u} {α : Type v} {β : Type v}

/-- The fault of a result, if it is one. -/
def fault? : Except ε α → Option ε
  | .error e => some e
  | .ok _ => none

@[simp] theorem fault?_ok (a : α) : fault? (.ok a : Except ε α) = none := rfl

@[simp] theorem fault?_error (e : ε) : fault? (.error e : Except ε α) = some e := rfl

theorem fault?_eq_some_iff {r : Except ε α} {e : ε} : fault? r = some e ↔ r = .error e := by
  cases r <;> simp

theorem fault?_eq_none_iff {r : Except ε α} : fault? r = none ↔ ∃ a, r = .ok a := by
  cases r <;> simp

@[simp] theorem fault?_map (f : α → β) (r : Except ε α) : fault? (f <$> r) = fault? r := by
  cases r <;> rfl

/-- A result that is made of another one has no fault if the other one has none. -/
theorem map_eq_ok_iff {r : Except ε α} {f : α → β} {b : β} :
    Except.map f r = .ok b ↔ ∃ a, r = .ok a ∧ f a = b := by
  cases r <;> simp [Except.map]

/-- A check that follows another one has its fault only if the first one passes. -/
theorem fault?_bind {r : Except ε α} {next : α → Except ε β} {o : Option ε}
    (hnext : ∀ a, fault? (next a) = o) : fault? (r >>= next) = (fault? r).or o := by
  cases r with
  | error e => rfl
  | ok a => exact hnext a

/-- The check of a list has the fault of the first member that fails. -/
theorem fault?_mapM (f : α → Except ε β) (l : List α) :
    fault? (l.mapM f) = l.findSome? fun a => fault? (f a) := by
  induction l with
  | nil => rfl
  | cons a rest ih =>
      rw [List.mapM_cons, List.findSome?_cons]
      have hrest : ∀ b, fault? (do let bs ← rest.mapM f; pure (b :: bs)) =
          rest.findSome? fun a => fault? (f a) := by
        intro b
        rw [← ih]
        cases rest.mapM f <;> rfl
      rw [fault?_bind hrest]
      cases fault? (f a) <;> rfl

/-- The same when nothing is kept of the members that pass. -/
theorem fault?_forM (f : α → Except ε PUnit) (l : List α) :
    fault? (l.forM f) = l.findSome? fun a => fault? (f a) := by
  induction l with
  | nil => rfl
  | cons a rest ih =>
      show fault? (f a >>= fun _ => rest.forM f) = _
      rw [List.findSome?_cons, fault?_bind fun _ => ih]
      cases fault? (f a) <;> rfl

/-- If no member fails, the check gives what each member gives. -/
theorem mapM_eq_ok_map {f : α → Except ε β} {g : α → β} {l : List α}
    (h : ∀ a ∈ l, f a = .ok (g a)) : l.mapM f = .ok (l.map g) := by
  induction l with
  | nil => rfl
  | cons a rest ih =>
      have hrest : rest.mapM f = .ok (rest.map g) := ih fun b hb => h b (List.mem_cons_of_mem a hb)
      rw [List.mapM_cons, h a List.mem_cons_self, hrest]
      rfl

end DesignTokens
