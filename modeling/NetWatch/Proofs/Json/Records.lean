/-
NetWatch.Proofs.Json.Records — where the fields of a record are found.

The fields of a record are members of the object that it is read from
(`Shape.mem_of_named`), or items of an array; nothing else is a record
(`Shape.root_of_read`). A field that may be left out and is set is a member that
holds its value (`mem_of_getOptional`). The other way round, an object is read as
a record if its members fit fields of their names (`Shape.read_object`), and
texts and numbers without a sign fit what they were written for.
-/
import NetWatch.Json.Reader

namespace NetWatch.Json

/-- What is read in two steps is read in each of them. -/
theorem exists_of_bind_eq_ok {α β ε : Type} {x : Except ε α} {f : α → Except ε β} {b : β}
    (h : (x >>= f) = .ok b) : ∃ a, x = .ok a ∧ f a = .ok b := by
  cases x with
  | error e => cases h
  | ok a => exact ⟨a, rfl, h⟩

theorem exists_of_map_eq_ok {α β ε : Type} {x : Except ε α} {f : α → β} {b : β}
    (h : x.map f = .ok b) : ∃ a, x = .ok a ∧ f a = b := by
  cases x with
  | error e => cases h
  | ok a => exact ⟨a, rfl, Except.ok.inj h⟩

/-- A text that is read with a reader is read from its root. -/
theorem root_of_readText? {α : Type} {r : Reader α} {text : String} {a : α}
    (h : readText? r text = .ok a) : r (Document.ofText text).root = .ok a := by
  unfold readText? at h
  dsimp only at h
  split at h
  · cases h
  · rename_i a' ha
    split at h
    · cases h
      exact ha
    · cases h

/-! ## Single values -/

theorem readInteger_nat {n : Nat} {high : Int} (h : (n : Int) ≤ high) (expected : String) :
    readInteger 0 high expected (Tree.ofValue (.nat n)) = .ok n := by
  have hrange : (0 : Int) ≤ n ∧ (n : Int) ≤ high := by omega
  simp [readInteger, Tree.ofValue, Value.nat, hrange]

theorem readWord64_nat (n : UInt64) : readWord64 (Tree.ofValue (.nat n.toNat)) = .ok n := by
  have hlt := n.toNat_lt
  simp [readWord64, readInteger_nat (show (n.toNat : Int) ≤ 18446744073709551615 by omega),
    Except.map]

theorem readSize_nat (n : UInt64) : readSize (Tree.ofValue (.nat n.toNat)) = .ok n := by
  have hlt := n.toNat_lt
  simp [readSize, readInteger_nat (show (n.toNat : Int) ≤ 18446744073709551615 by omega),
    Except.map]

theorem readWord32_nat (n : UInt32) : readWord32 (Tree.ofValue (.nat n.toNat)) = .ok n := by
  have hlt := n.toNat_lt
  simp [readWord32, readInteger_nat (show (n.toNat : Int) ≤ 4294967295 by omega), Except.map]

theorem readWord16_nat (n : UInt16) : readWord16 (Tree.ofValue (.nat n.toNat)) = .ok n := by
  have hlt := n.toNat_lt
  simp [readWord16, readInteger_nat (show (n.toNat : Int) ≤ 65535 by omega), Except.map]

theorem readText_string (s : String) : readText (Tree.ofValue (.string s)) = .ok s :=
  rfl

/-! ## Fields -/

/-- What is found in an object are members of it. -/
theorem Shape.mem_of_named {s : Shape} {finish : Finish} {members : List (Atom × Tree)}
    {got found : Members} (h : s.named finish got members = .ok found) :
    ∀ f ∈ found, f ∈ got ∨ (Atom.string f.1, f.2) ∈ members := by
  induction members generalizing got with
  | nil =>
    intro f hf
    cases finish with
    | closed =>
      cases h
      exact .inl hf
    | cut next => cases h
  | cons member rest ih =>
    obtain ⟨key, t⟩ := member
    intro f hf
    cases key with
    | string k =>
      unfold named at h
      split at h
      · split at h
        · exact (ih h f hf).imp id (List.mem_cons_of_mem _)
        · cases h
      · split at h
        · cases h
        · split at h
          · rcases ih h f hf with hgot | hrest
            · rcases List.mem_append.1 hgot with hgot | hlast
              · exact .inl hgot
              · rw [List.mem_singleton.1 hlast]
                exact .inr List.mem_cons_self
            · exact .inr (List.mem_cons_of_mem _ hrest)
          · cases h
    | null => cases h
    | bool b => cases h
    | number n => cases h
    | hugeNumber => cases h
    | loneSurrogate => cases h

/-- **Members that fit fields of their names are all found.** -/
theorem Shape.named_of_fits {s : Shape} {got members : Members}
    (hdistinct : ((got ++ members).map (·.1)).Nodup)
    (hfits : ∀ m ∈ members, ∃ f, s.fields.find? (·.name == m.1) = some f ∧ f.check m.2 = .ok ()) :
    s.named .closed got (members.map fun m => (.string m.1, m.2)) = .ok (got ++ members) := by
  induction members generalizing got with
  | nil => simp [named, closedOr]
  | cons m rest ih =>
    obtain ⟨f, hf, hcheck⟩ := hfits m List.mem_cons_self
    have hnew : got.any (·.1 == m.1) = false := by
      rw [List.any_eq_false]
      intro x hx
      rw [List.map_append, List.nodup_append] at hdistinct
      have hne := hdistinct.2.2 x.1 (List.mem_map_of_mem hx) m.1 (by simp)
      simpa using hne
    have hrest : s.named .closed (got ++ [m]) (rest.map fun m => (.string m.1, m.2)) =
        .ok (got ++ [m] ++ rest) :=
      ih (by simpa using hdistinct) fun x hx => hfits x (List.mem_cons_of_mem m hx)
    rw [List.append_assoc] at hrest
    simp only [List.map_cons, named, hf, hnew, hcheck, hrest]
    rfl

theorem memberTrees_eq_map (members : List (String × Value)) :
    memberTrees members = members.map fun m => (.string m.1, Tree.ofValue m.2) := by
  induction members with
  | nil => rfl
  | cons m rest ih => rw [memberTrees, ih, List.map_cons]

theorem Field.check_of {α : Type} {name : String} {r : Reader α} {presence : Presence} {t : Tree}
    {a : α} (h : r t = .ok a) : (Field.of name r presence).check t = .ok () := by
  simp [Field.of, h, Except.map]

/-- **An object whose members fit fields of their names is read as these fields**, if no
other field has to be there. -/
theorem Shape.read_object {s : Shape} {members : List (String × Value)}
    (hdistinct : (members.map (·.1)).Nodup)
    (hfits : ∀ m ∈ members, ∃ f, s.fields.find? (·.name == m.1) = some f ∧
      f.check (Tree.ofValue m.2) = .ok ())
    (hnone : s.missing? (members.map fun m => (m.1, Tree.ofValue m.2)) = none)
    (surplus : Surplus) :
    s.read surplus (Tree.ofValue (.object members)) =
      .ok (members.map fun m => (m.1, Tree.ofValue m.2)) := by
  let trees : Members := members.map fun m => (m.1, Tree.ofValue m.2)
  have hkeys : (trees.map fun m => m.1).Nodup := by
    rw [List.map_map]
    exact hdistinct
  have hnamed : s.named .closed [] (trees.map fun m => (.string m.1, m.2)) = .ok trees := by
    refine named_of_fits hkeys fun m hm => ?_
    obtain ⟨m, hmem, rfl⟩ := List.mem_map.1 hm
    exact hfits m hmem
  rw [List.map_map] at hnamed
  have hmembers : memberTrees members =
      members.map ((fun m => (.string m.1, m.2)) ∘ fun m => (m.1, Tree.ofValue m.2)) :=
    memberTrees_eq_map members
  rw [Tree.ofValue, hmembers]
  have hfull : s.missing? trees = none := hnone
  simp only [read, hnamed, hfull]
  rfl

/-- Fields are found in objects and arrays only. -/
theorem Shape.root_of_read {s : Shape} {surplus : Surplus} {t : Tree} {found : Members}
    (h : s.read surplus t = .ok found) :
    (∃ members finish, t = .object members finish ∧ s.named finish [] members = .ok found) ∨
      ∃ items finish, t = .array items finish := by
  cases t with
  | atom a => cases h
  | array items finish => exact .inr ⟨items, finish, rfl⟩
  | object members finish =>
    simp only [read] at h
    cases hnamed : s.named finish [] members with
    | error e =>
      rw [hnamed] at h
      cases h
    | ok got =>
      rw [hnamed] at h
      dsimp only at h
      split at h
      · cases h
      · cases h
        exact .inl ⟨members, finish, rfl, hnamed⟩
  | broken => cases h

theorem mem_of_tree? {found : Members} {name : String} {t : Tree}
    (h : Members.tree? found name = some t) : (name, t) ∈ found := by
  unfold Members.tree? at h
  obtain ⟨f, hf, rfl⟩ := Option.map_eq_some_iff.1 h
  have hname : f.1 = name := by simpa using List.find?_some hf
  exact hname ▸ List.mem_of_find?_eq_some hf

/-- A field that is set is a member that holds a text. -/
theorem mem_of_getOptional {found : Members} {name s : String}
    (h : found.getOptional readText name = .ok (some s)) :
    (name, Tree.atom (.string s)) ∈ found := by
  unfold Members.getOptional at h
  split at h
  · rename_i t ht
    have htree : t = .atom (.string s) := by
      unfold readOptional at h
      split at h
      · cases h
      · cases t with
        | atom a =>
          cases a <;> cases h
          rfl
        | array items finish => cases h
        | object members finish => cases h
        | broken => cases h
    exact htree ▸ mem_of_tree? ht
  · cases h

end NetWatch.Json
