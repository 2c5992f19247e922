/-
NetWatch.Proofs.Json.Canonical — values as they are read from text.

An object that is read has its members in the order of their keys, no key twice,
and containers nest no deeper than reading allows. A value in this form is
canonical (`Value.Canonical`). Every value that is read is
(`canonical_of_ofText?`), whatever the order of the members in the text and
however often a key stands in it, and a canonical value of whole numbers is read
back from its own text (`ofText?_text`).
-/
import NetWatch.Proofs.Json.RoundTrip

namespace NetWatch.Json

/-- Whether members stand in the order of their keys, no key twice. -/
def Ascend (members : List (String × Value)) : Prop :=
  members.Pairwise fun a b => a.1 < b.1

mutual

/-- Whether the members of all objects ascend and containers nest no deeper than to a depth. -/
def Value.Canonical : Value → Nat → Prop
  | .array items, depth => depth ≠ 0 ∧ ItemsCanonical items (depth - 1)
  | .object members, depth =>
    depth ≠ 0 ∧ Ascend members ∧ MembersCanonical members (depth - 1)
  | _, _ => True

def ItemsCanonical : List Value → Nat → Prop
  | [], _ => True
  | v :: rest, depth => v.Canonical depth ∧ ItemsCanonical rest depth

def MembersCanonical : List (String × Value) → Nat → Prop
  | [], _ => True
  | (_, v) :: rest, depth => v.Canonical depth ∧ MembersCanonical rest depth

end

theorem membersCanonical_iff {members : List (String × Value)} {depth : Nat} :
    MembersCanonical members depth ↔ ∀ m ∈ members, m.2.Canonical depth := by
  induction members with
  | nil => simp [MembersCanonical]
  | cons m rest ih => simp [MembersCanonical, ih]

/-! ## Members in order -/

/-- A member that comes before all others is put in front. -/
theorem putMember_of_first {k : String} {v : Value} {members : List (String × Value)}
    (h : ∀ m ∈ members, k < m.1) : putMember k v members = (k, v) :: members := by
  cases members with
  | nil => rfl
  | cons m rest =>
    have hlt : k < m.1 := h m List.mem_cons_self
    have hne : k ≠ m.1 := fun heq => String.lt_irrefl k (heq ▸ hlt)
    rw [putMember, if_neg hne, if_pos hlt]

theorem mem_putMember {k : String} {v : Value} {members : List (String × Value)}
    {m : String × Value} (h : m ∈ putMember k v members) : m = (k, v) ∨ m ∈ members := by
  induction members with
  | nil => exact .inl (List.mem_singleton.1 h)
  | cons m' rest ih =>
    unfold putMember at h
    split at h
    · exact (List.mem_cons.1 h).imp id (List.mem_cons_of_mem _)
    split at h
    · exact List.mem_cons.1 h
    · rcases List.mem_cons.1 h with hfirst | hrest
      · exact .inr (hfirst ▸ List.mem_cons_self)
      · exact (ih hrest).imp id (List.mem_cons_of_mem _)

/-- A member with a new key is put where it leaves the others in order. -/
theorem ascend_putMember {k : String} {members : List (String × Value)} (h : Ascend members)
    (hnew : ∀ m ∈ members, m.1 ≠ k) (v : Value) : Ascend (putMember k v members) := by
  induction members with
  | nil => exact List.pairwise_singleton _ _
  | cons m rest ih =>
    obtain ⟨hfirst, hrest⟩ := List.pairwise_cons.1 h
    have hne : k ≠ m.1 := (hnew m List.mem_cons_self).symm
    unfold putMember
    rw [if_neg hne]
    split
    · rename_i hlt
      refine List.pairwise_cons.2 ⟨fun m' hm' => ?_, h⟩
      rcases List.mem_cons.1 hm' with rfl | hm'
      · exact hlt
      · exact String.lt_trans hlt (hfirst m' hm')
    · rename_i hge
      have hlt : m.1 < k := Std.lt_of_le_of_ne (String.not_lt.1 hge) hne.symm
      refine List.pairwise_cons.2
        ⟨fun m' hm' => ?_, ih hrest fun m' hm' => hnew m' (List.mem_cons_of_mem m hm')⟩
      rcases mem_putMember hm' with rfl | hm'
      · exact hlt
      · exact hfirst m' hm'

/-! ## What is read is canonical -/

mutual

theorem canonical_of_toValue? : (t : Tree) → {depth : Nat} → {v : Value} →
    t.toValue? depth = some v → v.Canonical depth
  | .atom .null, _, _, h => by cases h; trivial
  | .atom (.bool _), _, _, h => by cases h; trivial
  | .atom (.number _), _, _, h => by cases h; trivial
  | .atom (.string _), _, _, h => by cases h; trivial
  | .atom .hugeNumber, _, _, h => by cases h
  | .atom .loneSurrogate, _, _, h => by cases h
  | .array items .closed, depth, v, h => by
    unfold Tree.toValue? at h
    split at h
    · cases h
    · rename_i hdepth
      obtain ⟨values, hvalues, rfl⟩ := Option.map_eq_some_iff.1 h
      exact ⟨hdepth, itemsCanonical_of_toValues? items hvalues⟩
  | .object members .closed, depth, v, h => by
    unfold Tree.toValue? at h
    split at h
    · cases h
    · rename_i hdepth
      obtain ⟨values, hvalues, rfl⟩ := Option.map_eq_some_iff.1 h
      obtain ⟨hascend, hcanonical⟩ := canonical_of_toMembers? members hvalues
      exact ⟨hdepth, hascend, membersCanonical_iff.2 hcanonical⟩
  | .array _ (.cut _), _, _, h => by cases h
  | .object _ (.cut _), _, _, h => by cases h
  | .broken, _, _, h => by cases h

theorem itemsCanonical_of_toValues? : (ts : List Tree) → {depth : Nat} → {vs : List Value} →
    toValues? ts depth = some vs → ItemsCanonical vs depth
  | [], _, _, h => by cases h; trivial
  | t :: rest, depth, vs, h => by
    unfold toValues? at h
    split at h
    · rename_i v vs' hv hvs
      cases h
      exact ⟨canonical_of_toValue? t hv, itemsCanonical_of_toValues? rest hvs⟩
    · cases h

theorem canonical_of_toMembers? : (ms : List (Atom × Tree)) → {depth : Nat} →
    {members : List (String × Value)} → toMembers? ms depth = some members →
    Ascend members ∧ ∀ m ∈ members, m.2.Canonical depth
  | [], _, _, h => by
    cases h
    exact ⟨List.Pairwise.nil, List.forall_mem_nil _⟩
  | (k, t) :: rest, depth, members, h => by
    unfold toMembers? at h
    split at h
    · rename_i k v members' hv hmembers
      obtain ⟨hascend, hcanonical⟩ := canonical_of_toMembers? rest hmembers
      cases h
      split
      · exact ⟨hascend, hcanonical⟩
      · rename_i hnew
        have hother : ∀ m ∈ members', m.1 ≠ k := fun m hm heq =>
          hnew (List.any_eq_true.2 ⟨m, hm, beq_iff_eq.2 heq⟩)
        refine ⟨ascend_putMember hascend hother v, fun m hm => ?_⟩
        rcases mem_putMember hm with rfl | hm
        · exact canonical_of_toValue? t hv
        · exact hcanonical m hm
    · cases h

end

/-- **What is read is canonical.** -/
theorem canonical_of_ofText? {text : String} {v : Value} (h : Value.ofText? text = some v) :
    v.Canonical maximalDepth := by
  unfold Value.ofText? at h
  dsimp only at h
  split at h
  · exact canonical_of_toValue? _ h
  · cases h

/-! ## What is canonical is read back -/

mutual

theorem toValue?_ofValue : (v : Value) → {depth : Nat} → v.Canonical depth →
    (Tree.ofValue v).toValue? depth = some v
  | .null, _, _ => rfl
  | .bool _, _, _ => rfl
  | .number _, _, _ => rfl
  | .string _, _, _ => rfl
  | .array items, depth, h => by
    rw [Tree.ofValue, Tree.toValue?, if_neg h.1, toValues?_treesOf items h.2]
    rfl
  | .object members, depth, h => by
    rw [Tree.ofValue, Tree.toValue?, if_neg h.1, toMembers?_memberTrees members h.2.1 h.2.2]
    rfl

theorem toValues?_treesOf : (items : List Value) → {depth : Nat} → ItemsCanonical items depth →
    toValues? (treesOf items) depth = some items
  | [], _, _ => rfl
  | v :: rest, depth, h => by
    rw [treesOf, toValues?, toValue?_ofValue v h.1, toValues?_treesOf rest h.2]

theorem toMembers?_memberTrees : (members : List (String × Value)) → {depth : Nat} →
    Ascend members → MembersCanonical members depth →
    toMembers? (memberTrees members) depth = some members
  | [], _, _, _ => rfl
  | (k, v) :: rest, depth, hascend, h => by
    obtain ⟨hfirst, hrest⟩ := List.pairwise_cons.1 hascend
    have hnew : rest.any (·.1 == k) = false := by
      rw [List.any_eq_false]
      intro m hm heq
      exact String.lt_irrefl k (beq_iff_eq.1 heq ▸ hfirst m hm)
    have hvalue := toValue?_ofValue v h.1
    have hmembers := toMembers?_memberTrees rest hrest h.2
    simp only [memberTrees, toMembers?, hvalue, hmembers, hnew, putMember_of_first hfirst,
      Bool.false_eq_true, if_false]

end

/-- **A canonical value of whole numbers is read back from its text.** -/
theorem ofText?_text {v : Value} (hexact : v.isExact = true) (h : v.Canonical maximalDepth) :
    Value.ofText? v.text = some v := by
  unfold Value.ofText?
  rw [Document.ofText_text hexact]
  exact toValue?_ofValue v h

end NetWatch.Json
