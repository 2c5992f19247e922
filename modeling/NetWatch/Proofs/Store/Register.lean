/-
NetWatch.Proofs.Store.Register — records by their names.

A register has at most one record for each name. What is done to it concerns
one name at a time (`Edit`). A list in which no two records have one name is a
register as well (`Register.ofList`), and what is done to the list is what is
done to the register (`Register.ofList_onList`). If the records are kept as
rows, what is done to the rows is what is done to the records
(`Edit.Renders.onList`).

Sorting what passes of such a list gives what is expected of a listing: every
record that passes, once and in order (`Register.listing_oldestFirst`).
-/
import NetWatch.Proofs.Keyed
import NetWatch.Proofs.Store.AlertTable
import Mathlib.Logic.Function.Basic

namespace NetWatch

/-! ## Edits -/

/-- Records by their names. -/
abbrev Register (α : Type) := String → Option α

/-- What is done to the record of one name. -/
inductive Edit (α : Type) where
  /-- A record is entered under its name, if the name is free. -/
  | enter (a : α)
  /-- The record of a name is changed, if there is one. -/
  | amend (id : String) (f : α → α)
  /-- The record of a name is taken out, if there is one. -/
  | remove (id : String)

/-- The records with one more after all others, if its name is free. -/
def Store.entered {α : Type} (id : α → String) (a : α) (as : List α) : List α :=
  if as.any (id · == id a) then as else as ++ [a]

namespace Edit

variable {α ρ : Type}

/-- What an edit makes of a register. -/
def apply (id : α → String) (m : Register α) : Edit α → Register α
  | .enter a => Function.update m (id a) (some a)
  | .amend k f => Function.update m k ((m k).map f)
  | .remove k => Function.update m k none

/-- What an edit makes of a list of records. -/
def onList (id : α → String) (as : List α) : Edit α → List α
  | .enter a => Store.entered id a as
  | .amend k f => Store.change (id · == k) f as
  | .remove k => as.filter (id · != k)

/-- Whether an edit changes no name. -/
def KeepsNames (id : α → String) : Edit α → Prop
  | .amend k f => ∀ a, id a = k → id (f a) = k
  | .enter _ | .remove _ => True

/-- Whether an edit can be done: a record is entered only under a name that is free. -/
def Possible (id : α → String) (m : Register α) : Edit α → Prop
  | .enter a => m (id a) = none
  | .amend _ _ | .remove _ => True

/-- Whether an edit is to change or take out the record of a name that has none. -/
def Misses (m : Register α) : Edit α → Prop
  | .enter _ => False
  | .amend k _ | .remove k => m k = none

/-- Whether an edit leaves records of a kind. -/
def Keeps (p : α → Prop) : Edit α → Prop
  | .enter a => p a
  | .amend _ f => ∀ a, p a → p (f a)
  | .remove _ => True

/-- What is done to rows when something is done to the records that they are made of. -/
inductive Renders (toRow : α → ρ) : Edit α → Edit ρ → Prop
  | enter {a : α} {r : ρ} (h : toRow a = r) : Renders toRow (.enter a) (.enter r)
  | amend {k : String} {f : α → α} {g : ρ → ρ} (h : ∀ a, g (toRow a) = toRow (f a)) :
    Renders toRow (.amend k f) (.amend k g)
  | remove (k : String) : Renders toRow (.remove k) (.remove k)

end Edit

/-! ### Lists after an edit -/

namespace Store

variable {α : Type} {id : α → String} {as : List α} {a : α}

theorem entered_of_free (h : ∀ b ∈ as, id b ≠ id a) : entered id a as = as ++ [a] := by
  have hfree : as.any (id · == id a) = false := by simpa using h
  rw [entered, hfree]
  rfl

theorem nodup_map_entered (h : (as.map id).Nodup) : ((entered id a as).map id).Nodup := by
  unfold entered
  split
  · exact h
  · rename_i hfree
    exact nodup_map_concat h (by simpa using hfree)

theorem of_mem_entered {p : α → Prop} (h : ∀ b ∈ as, p b) (ha : p a) :
    ∀ b ∈ entered id a as, p b := by
  unfold entered
  split
  · exact h
  · exact of_mem_append h ha

end Store

namespace Edit

variable {α ρ : Type} {id : α → String} {as : List α} {d : Edit α}

/-- Names stay distinct if none is changed. -/
theorem nodup_onList (hd : d.KeepsNames id) (h : (as.map id).Nodup) :
    ((d.onList id as).map id).Nodup := by
  cases d with
  | enter a => exact Store.nodup_map_entered h
  | amend k f =>
    refine Store.nodup_map_change (fun a ha => ?_) h
    have ha : id a = k := beq_iff_eq.mp ha
    rw [hd a ha, ha]
  | remove k => exact nodup_map_filter h _

theorem of_mem_onList {p : α → Prop} (hd : d.Keeps p) (h : ∀ a ∈ as, p a) :
    ∀ a ∈ d.onList id as, p a := by
  cases d with
  | enter a => exact Store.of_mem_entered h hd
  | amend k f => exact Store.of_mem_change h hd
  | remove k => exact fun a ha => h a (List.mem_filter.mp ha).1

/-- A name stays unless its record is taken out. -/
theorem mem_map_onList {k : String} (hd : d.KeepsNames id) (hk : k ∈ as.map id)
    (hstays : ∀ k', d = .remove k' → k' ≠ k) : k ∈ (d.onList id as).map id := by
  cases d with
  | enter a =>
    show k ∈ (Store.entered id a as).map id
    unfold Store.entered
    split
    · exact hk
    · rw [List.map_append]
      exact List.mem_append_left _ hk
  | amend k' f =>
    refine Store.mem_map_change (fun a ha => ?_) hk
    have ha : id a = k' := beq_iff_eq.mp ha
    rw [hd a ha, ha]
  | remove k' =>
    obtain ⟨a, ha, rfl⟩ := List.mem_map.mp hk
    have hne : (id a != k') = true := by simpa using (hstays k' rfl).symm
    exact List.mem_map.mpr ⟨a, List.mem_filter.mpr ⟨ha, hne⟩, rfl⟩

namespace Renders

variable {toRow : α → ρ} {key : ρ → String} {d' : Edit ρ}

/-- What changes no name in the rows changes none in the records. -/
theorem keepsNames (h : Renders toRow d d') (hkey : ∀ a, key (toRow a) = id a)
    (hd' : d'.KeepsNames key) : d.KeepsNames id := by
  cases h with
  | enter _ => exact trivial
  | amend hg =>
    intro a ha
    rw [← hkey, ← hg]
    exact hd' (toRow a) ((hkey a).trans ha)
  | remove k => exact trivial

/-- **What is done to the rows** is what is done to the records. -/
theorem onList (h : Renders toRow d d') (hkey : ∀ a, key (toRow a) = id a) (as : List α) :
    d'.onList key (as.map toRow) = (d.onList id as).map toRow := by
  cases h with
  | @enter a _ hrow =>
    subst hrow
    have hany : (as.map toRow).any (key · == key (toRow a)) = as.any (id · == id a) := by
      rw [List.any_map]
      simp only [Function.comp_def, hkey]
    show Store.entered key (toRow a) (as.map toRow) = (Store.entered id a as).map toRow
    unfold Store.entered
    rw [hany]
    split
    · rfl
    · rw [List.map_append, List.map_singleton]
  | amend hg =>
    show (as.map toRow).map _ = (as.map _).map toRow
    rw [List.map_map, List.map_map]
    refine List.map_congr_left fun a _ => ?_
    simp only [Function.comp_apply, hkey, hg]
    split <;> rfl
  | remove k =>
    show (as.map toRow).filter (key · != k) = (as.filter (id · != k)).map toRow
    rw [List.filter_map]
    simp only [Function.comp_def, hkey]

end Renders

end Edit

/-! ## Registers -/

namespace Register

variable {α ρ : Type} {id : α → String} {as : List α} {d : Edit α}

/-- The records of a list by their names. -/
def ofList (id : α → String) (as : List α) : Register α :=
  fun k => as.find? (id · == k)

theorem ofList_eq_none_iff {k : String} : ofList id as k = none ↔ ∀ a ∈ as, id a ≠ k :=
  find?_key_eq_none_iff

/-- **What is done to a list of records** is done to the register. -/
theorem ofList_onList (hd : d.KeepsNames id) (hpossible : d.Possible id (ofList id as)) :
    ofList id (d.onList id as) = d.apply id (ofList id as) := by
  funext k
  cases d with
  | enter a =>
    have hfree : ∀ b ∈ as, id b ≠ id a := ofList_eq_none_iff.mp hpossible
    show (Store.entered id a as).find? (id · == k) =
      Function.update (ofList id as) (id a) (some a) k
    rw [Store.entered_of_free hfree, List.find?_append, List.find?_singleton,
      Function.update_apply]
    by_cases hk : k = id a
    · subst hk
      rw [find?_key_eq_none_iff.mpr hfree]
      simp
    · have hne : (id a == k) = false := by simpa using Ne.symm hk
      rw [hne, if_neg hk]
      exact Option.or_none
  | amend k' f =>
    have hkeep : ∀ a, id (if id a == k' then f a else a) = id a := by
      intro a
      split
      · rename_i ha
        rw [hd a (beq_iff_eq.mp ha), beq_iff_eq.mp ha]
      · rfl
    show (as.map _).find? (id · == k) = Function.update (ofList id as) k' _ k
    rw [find?_map_of_key hkeep, Function.update_apply]
    unfold ofList
    cases hfound : as.find? (id · == k) with
    | none =>
      by_cases hk : k = k'
      · subst hk
        simp [hfound]
      · simp [hk]
    | some a =>
      have ha : id a = k := key_of_find? hfound
      by_cases hk : k = k'
      · subst hk
        simp [hfound, ha]
      · simp [hk, ha]
  | remove k' =>
    show (as.filter (id · != k')).find? (id · == k) = Function.update (ofList id as) k' none k
    rw [find?_filter_key, Function.update_apply]
    rfl

/-- What a name finds among the rows is the row of what it finds among the records. -/
theorem ofList_map {toRow : α → ρ} {key : ρ → String} (hkey : ∀ a, key (toRow a) = id a)
    (as : List α) (k : String) :
    ofList key (as.map toRow) k = (ofList id as k).map toRow := by
  unfold ofList
  rw [List.find?_map]
  simp only [Function.comp_def, hkey]

theorem ofList_map_eq_none_iff {toRow : α → ρ} {key : ρ → String}
    (hkey : ∀ a, key (toRow a) = id a) {k : String} :
    ofList key (as.map toRow) k = none ↔ ofList id as k = none := by
  rw [ofList_map hkey, Option.map_eq_none_iff]

end Register

namespace Edit.Renders

variable {α ρ : Type} {toRow : α → ρ} {key : ρ → String} {id : α → String} {as : List α}
  {d : Edit α} {d' : Edit ρ}

theorem possible_iff (h : Renders toRow d d') (hkey : ∀ a, key (toRow a) = id a) :
    d'.Possible key (.ofList key (as.map toRow)) ↔ d.Possible id (.ofList id as) := by
  cases h with
  | @enter a _ hrow =>
    subst hrow
    show Register.ofList key (as.map toRow) (key (toRow a)) = none ↔ _
    rw [hkey]
    exact Register.ofList_map_eq_none_iff hkey
  | amend _ => exact Iff.rfl
  | remove k => exact Iff.rfl

theorem misses_iff (h : Renders toRow d d') (hkey : ∀ a, key (toRow a) = id a) :
    d'.Misses (.ofList key (as.map toRow)) ↔ d.Misses (.ofList id as) := by
  cases h with
  | enter _ => exact Iff.rfl
  | amend _ => exact Register.ofList_map_eq_none_iff hkey
  | remove k => exact Register.ofList_map_eq_none_iff hkey

end Edit.Renders

/-- An edit of a name that no record has leaves a list as it is. -/
theorem Edit.onList_of_misses {α : Type} {id : α → String} {as : List α} {d : Edit α}
    (h : d.Misses (.ofList id as)) : d.onList id as = as := by
  cases d with
  | enter a => exact h.elim
  | amend k f =>
    have hother : ∀ a ∈ as, (id a == k) = false := by
      simpa using Register.ofList_eq_none_iff.mp h
    exact Store.change_eq_self hother f
  | remove k =>
    have hother : ∀ a ∈ as, (id a != k) = true := by
      simpa using Register.ofList_eq_none_iff.mp h
    exact List.filter_eq_self.mpr hother

/-! ## Listings -/

/-- A listing gives every record of a register that passes, once and in the order of a time. -/
structure Register.Listing {α : Type} (id : α → String) (time : α → Timestamp) (m : Register α)
    (passes : α → Bool) (as : List α) : Prop where
  distinct : (as.map id).Nodup
  mem_iff : ∀ a, a ∈ as ↔ m (id a) = some a ∧ passes a = true
  sorted : as.Pairwise fun a b => time a ≤ time b

/-- Sorting what passes of a list gives a listing. -/
theorem Register.listing_oldestFirst {α : Type} {id : α → String} {time : α → Timestamp}
    {as : List α} (h : (as.map id).Nodup)
    (htime : ∀ a ∈ as, ∀ b ∈ as, (time a).toMillis ≤ (time b).toMillis → time a ≤ time b)
    (passes : α → Bool) : Listing id time (ofList id as) passes
      (Store.oldestFirst (fun a => (time a).toMillis) (as.filter passes)) := by
  have hperm := List.mergeSort_perm (as.filter passes)
    fun a b => decide ((time a).toMillis ≤ (time b).toMillis)
  refine ⟨?_, fun a => ?_, ?_⟩
  · exact (hperm.map id).nodup_iff.mpr (nodup_map_filter h passes)
  · rw [Store.mem_oldestFirst, List.mem_filter]
    refine and_congr_left fun _ => ?_
    show _ ↔ as.find? (id · == id a) = some a
    rw [find?_key_eq_some_iff h]
    simp
  · have hmem : ∀ a ∈ Store.oldestFirst (fun a => (time a).toMillis) (as.filter passes), a ∈ as :=
      fun a ha => (List.mem_filter.mp (Store.mem_oldestFirst.mp ha)).1
    exact (Store.pairwise_oldestFirst _ _).imp_of_mem fun {a b} ha hb hab =>
      htime a (hmem a ha) b (hmem b hb) hab

/-- Sorting rows sorts what they are made of. -/
theorem Store.oldestFirst_map {α ρ : Type} {toRow : α → ρ} {time : ρ → Int} {time' : α → Int}
    (ht : ∀ a, time (toRow a) = time' a) (as : List α) :
    oldestFirst time (as.map toRow) = (oldestFirst time' as).map toRow := by
  refine (List.map_mergeSort fun a _ b _ => ?_).symm
  rw [ht, ht]

end NetWatch
