/-
NetWatch.Proofs.Notification.MaskedText — a masked configuration says what the configuration
said (`masked_config`).

Masking reads a configuration, edits some of its members and writes it again. So
that nothing else changes, reading has to undo writing on all that was read,
members of members included (`Json.ofText?_text`). Masking keeps the form that
values have when they are read, for it keeps the name of every member and puts a
text where a text was (`Channel.ofText?_maskedConfig`). It follows that the
masked text holds the members of the configuration, with stars for the secrets
at the top and for nothing else, and that masking it again changes nothing
(`Channel.masking_hides_only_secrets`).

This is about configurations with whole numbers. A double is written with the
digits that tell it from all others, and not always read as the same double.
-/
import NetWatch.Channel
import NetWatch.Proofs.Json.Canonical
import Mathlib.Data.List.Forall2

namespace NetWatch.Channel

open Json

/-! ## One member -/

/-- Whether a member holds a secret that is set. -/
def IsSecret (m : String × Value) : Prop :=
  (m.1 = "secret" ∨ m.1 = "password") ∧ ∃ s, s ≠ "" ∧ m.2 = .string s

/-- What becomes of a member: a secret is four stars, anything else is what it was. -/
structure Masked (m m' : String × Value) : Prop where
  name : m'.1 = m.1
  hidden : IsSecret m → m'.2 = .string "****"
  shown : ¬IsSecret m → m'.2 = m.2

theorem maskMember_of_secret {m : String × Value} (h : IsSecret m) :
    maskMember m.1 m.2 = .string "****" := by
  obtain ⟨hname, s, hset, hvalue⟩ := h
  have hlisted : secretNames.contains m.1 = true := by
    rcases hname with hname | hname <;> rw [hname] <;> decide
  have hmask : (secretNames.contains m.1 && s != "") = true := by
    rw [hlisted, Bool.true_and, bne_iff_ne]
    exact hset
  rw [hvalue, maskMember, if_pos hmask]

theorem maskMember_of_not_secret {m : String × Value} (h : ¬IsSecret m) :
    maskMember m.1 m.2 = m.2 := by
  obtain ⟨name, v⟩ := m
  cases v with
  | string s =>
    refine if_neg fun hmask => h ?_
    obtain ⟨hlisted, hset⟩ := Bool.and_eq_true_iff.1 hmask
    have hname : name = "secret" ∨ name = "password" := by simpa [secretNames] using hlisted
    exact ⟨hname, s, bne_iff_ne.1 hset, rfl⟩
  | null => rfl
  | bool b => rfl
  | number n => rfl
  | array items => rfl
  | object members => rfl

theorem masked_maskMember (m : String × Value) : Masked m (m.1, maskMember m.1 m.2) :=
  ⟨rfl, maskMember_of_secret, maskMember_of_not_secret⟩

theorem maskMember_eq_or (name : String) (v : Value) :
    maskMember name v = v ∨ maskMember name v = .string "****" := by
  by_cases hsecret : IsSecret (name, v)
  · exact .inr (maskMember_of_secret hsecret)
  · exact .inl (maskMember_of_not_secret hsecret)

/-- Stars are masked by stars. -/
theorem maskMember_maskMember (name : String) (v : Value) :
    maskMember name (maskMember name v) = maskMember name v := by
  by_cases hsecret : IsSecret (name, v)
  · have hstars : maskMember name v = .string "****" := maskMember_of_secret hsecret
    obtain ⟨hname, -⟩ := hsecret
    rw [hstars]
    have hagain : IsSecret (name, .string "****") := ⟨hname, "****", by decide, rfl⟩
    exact maskMember_of_secret hagain
  · have hshown : maskMember name v = v := maskMember_of_not_secret hsecret
    rw [hshown, hshown]

/-! ## All members -/

/-- The members of a configuration as they may be shown. -/
def maskMembers (members : List (String × Value)) : List (String × Value) :=
  members.map fun m => (m.1, maskMember m.1 m.2)

theorem maskConfig_of_object {config : String} {members : List (String × Value)}
    (h : Value.ofText? config = some (.object members)) :
    maskConfig config = (Value.object (maskMembers members)).text := by
  simp only [maskConfig, h, maskMembers]

theorem maskConfig_of_no_object {config : String}
    (h : ∀ members, Value.ofText? config ≠ some (.object members)) :
    maskConfig config = config := by
  unfold maskConfig
  split
  · rename_i members hobject
    exact absurd hobject (h members)
  · rfl

theorem forall₂_masked (members : List (String × Value)) :
    List.Forall₂ Masked members (maskMembers members) := by
  induction members with
  | nil => exact .nil
  | cons m rest ih => exact .cons (masked_maskMember m) ih

theorem maskMembers_maskMembers (members : List (String × Value)) :
    maskMembers (maskMembers members) = maskMembers members := by
  unfold maskMembers
  rw [List.map_map]
  refine List.map_congr_left fun m _ => ?_
  exact congrArg (m.1, ·) (maskMember_maskMember m.1 m.2)

theorem isExact_maskMembers {members : List (String × Value)}
    (h : (Value.object members).isExact = true) :
    (Value.object (maskMembers members)).isExact = true := by
  have hmembers : ∀ m ∈ members, m.2.isExact = true := membersAreExact_iff.1 h
  refine membersAreExact_iff.2 fun m' hm' => ?_
  obtain ⟨m, hm, rfl⟩ := List.mem_map.1 hm'
  show (maskMember m.1 m.2).isExact = true
  rcases maskMember_eq_or m.1 m.2 with hshown | hstars
  · rw [hshown]
    exact hmembers m hm
  · rw [hstars]
    rfl

theorem canonical_maskMembers {members : List (String × Value)} {depth : Nat}
    (h : (Value.object members).Canonical depth) :
    (Value.object (maskMembers members)).Canonical depth := by
  obtain ⟨hdepth, hascend, hmembers⟩ := h
  refine ⟨hdepth, List.pairwise_map.2 hascend, membersCanonical_iff.2 fun m' hm' => ?_⟩
  obtain ⟨m, hm, rfl⟩ := List.mem_map.1 hm'
  show (maskMember m.1 m.2).Canonical (depth - 1)
  rcases maskMember_eq_or m.1 m.2 with hshown | hstars
  · rw [hshown]
    exact membersCanonical_iff.1 hmembers m hm
  · rw [hstars]
    trivial

/-! ## The text -/

/-- **The masked text holds the masked members.** -/
theorem ofText?_maskedConfig {c : Channel} {members : List (String × Value)}
    (hobject : Value.ofText? c.config = some (.object members))
    (hexact : (Value.object members).isExact = true) :
    Value.ofText? c.maskedConfig = some (.object (maskMembers members)) := by
  -- Members in another order, or twice, would be read as other members than were written.
  have hcanonical := canonical_maskMembers (canonical_of_ofText? hobject)
  unfold maskedConfig
  rw [maskConfig_of_object hobject]
  exact ofText?_text (isExact_maskMembers hexact) hcanonical

/-- **Masking changes nothing but secrets**: the masked text of an object with whole numbers holds
the same members but for stars, and is its own masked text; other texts are shown as they are. -/
theorem masking_hides_only_secrets (c : Channel) :
    (∀ members, Value.ofText? c.config = some (.object members) →
      (Value.object members).isExact = true →
      (∃ masked, Value.ofText? c.maskedConfig = some (.object masked) ∧
        List.Forall₂ Masked members masked) ∧
      maskedConfig { c with config := c.maskedConfig } = c.maskedConfig) ∧
    ((∀ members, Value.ofText? c.config ≠ some (.object members)) →
      c.maskedConfig = c.config) := by
  constructor
  · intro members hobject hexact
    have hmasked := ofText?_maskedConfig hobject hexact
    refine ⟨⟨_, hmasked, forall₂_masked members⟩, ?_⟩
    show maskConfig c.maskedConfig = maskConfig c.config
    rw [maskConfig_of_object hmasked, maskConfig_of_object hobject, maskMembers_maskMembers]
  · exact maskConfig_of_no_object

/-- A secret that is set twice, an empty password, a secret that is no text and one further down:
the second secret at the top is all that is masked. A list is shown as it is. -/
theorem masking_hides_only_secrets_of_webhook :
    ∃ (c c' : Channel) (members masked : List (String × Value)),
      Value.ofText? c.config = some (.object members) ∧
      (Value.object members).isExact = true ∧
      members = [("auth", .object [("secret", .string "kept")]), ("password", .string ""),
        ("retries", .int (-3)), ("secret", .string "s3\"cret"), ("url", .string "http://h1/x")] ∧
      Value.ofText? c.maskedConfig = some (.object masked) ∧ List.Forall₂ Masked members masked ∧
      maskedConfig { c with config := c.maskedConfig } = c.maskedConfig ∧
      (∀ members, Value.ofText? c'.config ≠ some (.object members)) ∧
      c'.maskedConfig = c'.config := by
  let auth : Value := .object [("secret", .string "kept")]
  let written : Value := .object [("url", .string "http://h1/x"), ("secret", .string "old"),
    ("auth", auth), ("secret", .string "s3\"cret"), ("password", .string ""),
    ("retries", .int (-3))]
  let c : Channel := ⟨"n1", "n", "webhook", written.text, true, .epoch, .epoch⟩
  let c' : Channel := { c with config := (Value.array [.int 7]).text }
  let members : List (String × Value) := [("auth", auth), ("password", .string ""),
    ("retries", .int (-3)), ("secret", .string "s3\"cret"), ("url", .string "http://h1/x")]
  have hobject : Value.ofText? c.config = some (.object members) := by
    unfold Value.ofText?
    rw [Document.ofText_text rfl]
    rfl
  have hlist : Value.ofText? c'.config = some (.array [.int 7]) := by
    unfold Value.ofText?
    rw [Document.ofText_text rfl]
    rfl
  have hother : ∀ members, Value.ofText? c'.config ≠ some (.object members) := by
    intro members h
    rw [hlist] at h
    cases h
  obtain ⟨⟨masked, hmasked, hmembers⟩, hagain⟩ :=
    (masking_hides_only_secrets c).1 members hobject rfl
  exact ⟨c, c', members, masked, hobject, rfl, rfl, hmasked, hmembers, hagain, hother,
    (masking_hides_only_secrets c').2 hother⟩

end NetWatch.Channel
