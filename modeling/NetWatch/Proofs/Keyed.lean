/-
NetWatch.Proofs.Keyed — lists whose members are told apart by a key.

No two members of such a list have the same key, so that a key finds at most one
of them (`find?_key_eq_some_iff`). Appending a member whose key is free, taking
members out and changing them without their keys leaves the keys distinct, and
what is found by a key afterwards follows from what was found before.
-/
import Mathlib.Data.List.Nodup

namespace NetWatch

variable {α κ : Type} {l : List α} {a : α}

/-! ## Distinct keys -/

/-- A member whose key is free can be appended. -/
theorem nodup_map_concat {key : α → κ} (h : (l.map key).Nodup) (hfree : ∀ b ∈ l, key b ≠ key a) :
    ((l ++ [a]).map key).Nodup := by
  rw [List.map_append, List.nodup_append]
  refine ⟨h, by simp, fun k hk k' hk' heq => ?_⟩
  obtain ⟨b, hb, rfl⟩ := List.mem_map.mp hk
  rw [List.map_singleton, List.mem_singleton] at hk'
  exact hfree b hb (heq.trans hk')

theorem nodup_map_filter {key : α → κ} (h : (l.map key).Nodup) (p : α → Bool) :
    ((l.filter p).map key).Nodup :=
  (List.filter_sublist.map key).nodup h

/-! ## What is found by a key -/

variable {key : α → String} {k : String}

theorem key_of_find? (h : l.find? (key · == k) = some a) : key a = k := by
  simpa using List.find?_some h

theorem find?_key_eq_none_iff : l.find? (key · == k) = none ↔ ∀ a ∈ l, key a ≠ k := by
  simp

/-- What is found by a key is the one member that has it. -/
theorem find?_key_eq_some_iff (h : (l.map key).Nodup) :
    l.find? (key · == k) = some a ↔ a ∈ l ∧ key a = k := by
  constructor
  · exact fun hfind => ⟨List.mem_of_find?_eq_some hfind, key_of_find? hfind⟩
  · rintro ⟨ha, rfl⟩
    cases hfind : l.find? (key · == key a) with
    | none => exact absurd rfl (find?_key_eq_none_iff.mp hfind a ha)
    | some b =>
      rw [List.inj_on_of_nodup_map h (List.mem_of_find?_eq_some hfind) ha (key_of_find? hfind)]

/-- What is found after a change that leaves the keys alone is what was found before, changed. -/
theorem find?_map_of_key {f : α → α} (hf : ∀ a, key (f a) = key a) (l : List α) (k : String) :
    (l.map f).find? (key · == k) = (l.find? (key · == k)).map f := by
  rw [List.find?_map]
  congr 2
  funext a
  rw [Function.comp_apply, hf]

/-- Nothing is found by a key whose members were taken out. -/
theorem find?_filter_key (l : List α) (k k' : String) :
    (l.filter (key · != k')).find? (key · == k) =
      if k = k' then none else l.find? (key · == k) := by
  rw [List.find?_filter]
  split
  · rename_i h
    subst h
    exact List.find?_eq_none.mpr fun a _ => by simp
  · rename_i h
    congr 1
    funext a
    by_cases ha : key a = k
    · simp [ha, h]
    · simp [ha]

end NetWatch
