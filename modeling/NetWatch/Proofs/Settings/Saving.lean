/-
NetWatch.Proofs.Settings.Saving — settings are loaded as they were saved (`from_config`,
`write_config`).

Where nothing but folders stands in the way of a file (`FolderTree.IsWritable`),
saving makes those that are missing and writes the document, and afterwards the
same steps lead to it (`Settings.exists_save`). What is loaded from there are the
settings that were saved, or the fault for which they are refused
(`Settings.load_save`). Settings that cannot be written leave everything as it
was: they are found out before anything is done.
-/
import NetWatch.Proofs.Settings.RoundTrip
import NetWatch.Settings.Load

namespace NetWatch

/-! ## Folders -/

/-- The place that steps lead to from another. -/
def Path.destination (here : Place) (steps : List String) : Place :=
  steps.foldl next here

namespace FolderTree

theorem item?_root (t : FolderTree) : t.item? [] = some .folder :=
  rfl

/-- Putting an item at a place changes that place only. -/
theorem item?_put (t : FolderTree) {p : Place} (hp : p ≠ []) (i : Item) (q : Place) :
    (t.put p i).item? q = if q = p then some i else t.item? q := by
  by_cases hq : q = []
  · subst hq
    rw [if_neg (Ne.symm hp)]
    rfl
  unfold item? put
  rw [if_neg hq, if_neg hq]
  split
  · rename_i hthere
    have hsame : ((fun x : Place × Item => x.1 == q) ∘ fun x => if x.1 == p then (p, i) else x) =
        fun x => x.1 == q := by
      funext x
      by_cases hx : x.1 = p <;> simp [hx]
    rw [List.find?_map, hsame]
    cases hfind : t.items.find? fun x => x.1 == q with
    | none =>
      have hne : q ≠ p := by
        rintro rfl
        obtain ⟨x, hx, hxq⟩ := List.any_eq_true.1 hthere
        exact List.find?_eq_none.1 hfind x hx hxq
      simp [hne]
    | some x =>
      have hx : x.1 = q := by simpa using List.find?_some hfind
      by_cases hqp : q = p <;> simp [hx, hqp]
  · rename_i hfree
    have hnone : ∀ x ∈ t.items, x.1 ≠ p := by
      intro x hx heq
      exact hfree (List.any_eq_true.2 ⟨x, hx, by simp [heq]⟩)
    rw [List.find?_append]
    by_cases hqp : q = p
    · subst hqp
      have hfind : t.items.find? (fun x => x.1 == q) = none := by simpa using hnone
      simp [hfind]
    · simp [hqp, Ne.symm hqp]

/-- **Folders are made along steps if nothing else stands in the way**, and nothing
but these folders changes. -/
theorem exists_makeFolders {t : FolderTree} {here : Place} {steps : List String}
    (h : ∀ p ∈ Path.through here steps, t.item? p = none ∨ t.item? p = some .folder) :
    ∃ t', t.makeFolders here steps = (t', true) ∧
      ∀ p, t'.item? p = if p ∈ Path.through here steps then some .folder else t.item? p := by
  induction steps generalizing t here with
  | nil => exact ⟨t, rfl, fun p => by simp [Path.through]⟩
  | cons name rest ih =>
    have hnext := h (Path.next here name) List.mem_cons_self
    have hrest : ∀ p ∈ Path.through (Path.next here name) rest,
        t.item? p = none ∨ t.item? p = some .folder :=
      fun p hp => h p (List.mem_cons_of_mem _ hp)
    unfold makeFolders
    dsimp only
    rcases hnext with hnone | hfolder
    · have hne : Path.next here name ≠ [] := by
        intro hroot
        rw [hroot, item?_root] at hnone
        cases hnone
      have hput := item?_put t hne .folder
      have hrest' : ∀ p ∈ Path.through (Path.next here name) rest,
          (t.put (Path.next here name) .folder).item? p = none ∨
            (t.put (Path.next here name) .folder).item? p = some .folder := by
        intro p hp
        rw [hput]
        split
        · exact .inr rfl
        · exact hrest p hp
      obtain ⟨t', ht', hitems⟩ := ih hrest'
      refine ⟨t', by rw [hnone]; exact ht', fun p => ?_⟩
      rw [hitems, hput]
      by_cases hp : p = Path.next here name <;> simp [Path.through, hp]
    · obtain ⟨t', ht', hitems⟩ := ih hrest
      refine ⟨t', by rw [hfolder]; exact ht', fun p => ?_⟩
      rw [hitems]
      by_cases hp : p = Path.next here name
      · subst hp
        simp [Path.through, hfolder]
      · simp [Path.through, hp]

/-- Steps lead to their destination if all that they lead through are folders. -/
theorem follow_eq_destination {t : FolderTree} {here : Place} {steps : List String}
    (hhere : t.item? here = some .folder)
    (h : ∀ p ∈ Path.through here steps.dropLast, t.item? p = some .folder) :
    t.follow here steps = some (Path.destination here steps) := by
  induction steps generalizing here with
  | nil => rfl
  | cons name rest ih =>
    unfold follow
    rw [hhere]
    dsimp only
    cases rest with
    | nil => rfl
    | cons name' rest =>
      rw [List.dropLast_cons_cons] at h
      exact ih (h _ List.mem_cons_self) fun p hp => h p (List.mem_cons_of_mem _ hp)

/-- Whether a file can be written where steps lead: nothing but folders stands on
the way, as far as there is anything, and no folder at its end. -/
structure IsWritable (t : FolderTree) (steps : List String) : Prop where
  way : ∀ p ∈ Path.through [] steps.dropLast, t.item? p = none ∨ t.item? p = some .folder
  file : t.item? (Path.destination [] steps) ≠ some .folder
  off_way : Path.destination [] steps ∉ Path.through [] steps.dropLast

/-- **A writable file is written, and is then found where it was written.** -/
theorem IsWritable.exists_write {t : FolderTree} {steps : List String} (h : t.IsWritable steps)
    (text : String) :
    ∃ t₁ t₂, t.makeFolders [] steps.dropLast = (t₁, true) ∧ t₁.write steps text = some t₂ ∧
      t₂.at? steps = some (Path.destination [] steps, .text text) := by
  have hne : Path.destination [] steps ≠ [] := by
    intro hroot
    exact h.file (by rw [hroot, item?_root])
  obtain ⟨t₁, ht₁, hitems⟩ := exists_makeFolders h.way
  have hfollow : t₁.follow [] steps = some (Path.destination [] steps) :=
    follow_eq_destination (item?_root t₁) fun p hp => by rw [hitems, if_pos hp]
  have hfile : t₁.item? (Path.destination [] steps) ≠ some .folder := by
    rw [hitems, if_neg h.off_way]
    exact h.file
  refine ⟨t₁, t₁.put (Path.destination [] steps) (.text text), ht₁, ?_, ?_⟩
  · unfold write
    rw [hfollow]
    dsimp only
    rw [if_neg hfile]
  · have hput := item?_put t₁ hne (.text text)
    have hafter : (t₁.put (Path.destination [] steps) (.text text)).follow [] steps =
        some (Path.destination [] steps) := by
      refine follow_eq_destination (item?_root _) fun p hp => ?_
      have hother : p ≠ Path.destination [] steps := by
        rintro rfl
        exact h.off_way hp
      rw [hput, if_neg hother, hitems, if_pos hp]
    unfold at?
    rw [hafter]
    dsimp only
    rw [hput, if_pos rfl]
    rfl

end FolderTree

/-! ## Saving and loading -/

namespace Settings

/-- **Settings that can be written are saved where a file can be written, and are
loaded from there**: as they were if they are within bounds, and else not at all,
for the fault that they have. Settings that cannot be written change nothing. -/
theorem load_save (s : Settings) (t : FolderTree) (steps : List String) :
    ((∀ n ∈ s.longNumbers, n.toNat ≤ 9223372036854775807) → t.IsWritable steps →
      Path.toml steps = steps → ∃ t', s.save t steps = (t', .ok ()) ∧
        ∀ configHome home,
          (s.validate = .ok () → load t' (some steps) configHome home = (t', .ok s)) ∧
          ∀ fault, s.validate = .error fault →
            load t' (some steps) configHome home = (t', .error (.refused fault))) ∧
      ((∃ n ∈ s.longNumbers, 9223372036854775807 < n.toNat) →
        s.save t steps = (t, .error .inexpressible)) := by
  constructor
  · intro hnumbers hwritable htoml
    have htext : s.toToml? = some (String.ofList s.tomlText) := by
      rw [toToml?, if_pos (isWritable_iff.2 hnumbers)]
    obtain ⟨t₁, t₂, ht₁, ht₂, hat⟩ := hwritable.exists_write (String.ofList s.tomlText)
    have hload : ∀ configHome home, load t₂ (some steps) configHome home = (t₂, s.checked) := by
      intro configHome home
      simp only [load, place?, htoml, loadFrom, hat, ofItem, ofToml?_tomlText hnumbers]
    refine ⟨t₂, ?_, fun configHome home => ⟨fun hvalid => ?_, fun fault hfault => ?_⟩⟩
    · simp only [save, htext, ht₁, ht₂]
    · rw [hload, checked, hvalid]
    · rw [hload, checked, hfault]
  · rintro ⟨n, hn, hlarge⟩
    have hnone : s.toToml? = none := by
      rw [toToml?, if_neg]
      intro hwritable
      have hle := isWritable_iff.1 hwritable n hn
      omega
    simp only [save, hnone]

/-- A path with a quote, a backslash and a line end, saved into a folder that is
not there yet; and a number that is too large. -/
theorem load_save_of_special_path :
    ∃ (s s' : Settings) (t : FolderTree),
      s.database.path = "a\"b\\c\nd" ∧ t.items = [] ∧
        (∃ t', s.save t ["etc", "c.toml"] = (t', .ok ()) ∧
          load t' (some ["etc", "c.toml"]) none none = (t', .ok s)) ∧
        s'.save t ["etc", "c.toml"] = (t, .error .inexpressible) := by
  let s : Settings := { usual with database := ⟨"a\"b\\c\nd", 8⟩ }
  let s' : Settings := { usual with notifications := ⟨9223372036854775808⟩ }
  have hnumbers : ∀ n ∈ s.longNumbers, n.toNat ≤ 9223372036854775807 := isWritable_iff.1 rfl
  have hwritable : FolderTree.IsWritable ⟨[]⟩ ["etc", "c.toml"] :=
    ⟨by decide, by decide, by decide⟩
  obtain ⟨t', hsave, hload⟩ :=
    (load_save s ⟨[]⟩ ["etc", "c.toml"]).1 hnumbers hwritable (by decide)
  exact ⟨s, s', ⟨[]⟩, rfl, rfl, ⟨t', hsave, (hload none none).1 rfl⟩,
    (load_save s' ⟨[]⟩ ["etc", "c.toml"]).2 ⟨9223372036854775808, by decide, by decide⟩⟩

end Settings

end NetWatch
