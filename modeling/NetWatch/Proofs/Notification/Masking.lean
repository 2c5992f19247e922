/-
NetWatch.Proofs.Notification.Masking — a masked configuration gives no secret away
(`masked_config`).

The configuration of a channel is read twice, by different rules: the notifier
finds its fields by going through the text, and masking replaces members of the
value that the text holds. For a configuration that is an object the two agree
on where the secret is: what a notifier finds under `secret` in the masked text
was written by masking (`Channel.secret_of_maskedConfig`), so no notifier that
is built from it signs with the secret that was set
(`Channel.masking_hides_secret`).

A notifier also takes an array that gives the fields in their order. Nothing in
it is masked, for none of its items has a name
(`Channel.not_masking_hides_secret`).
-/
import NetWatch.Notification.Notifier
import NetWatch.Proofs.Json.Records
import NetWatch.Proofs.Notification.MaskedText

namespace NetWatch

open Json

/-! ## Notifiers -/

namespace Notifier

theorem readText?_of_configOf {α : Type} {c : Channel} {r : Reader α} {url : α → String} {a : α}
    (h : configOf c r url = .ok a) : readText? r c.config = .ok a := by
  unfold configOf at h
  split at h
  · cases h
  · rename_i a' ha
    split at h
    · cases h
    · cases h
      exact ha

/-- **Every notifier takes its secret from the field of that name.** -/
theorem exists_fields {c : Channel} {n : Notifier} (h : ofChannel c = .ok (some n)) :
    ∃ (shape : Shape) (found : Members),
      shape.read .malformed (Document.ofText c.config).root = .ok found ∧
        found.getOptional readText "secret" = .ok n.secret := by
  unfold ofChannel at h
  split at h
  · obtain ⟨config, hconfig, hn⟩ := exists_of_map_eq_ok h
    cases hn
    have hread := root_of_readText? (readText?_of_configOf hconfig)
    obtain ⟨found, hfound, hread⟩ := exists_of_bind_eq_ok hread
    obtain ⟨url, -, hread⟩ := exists_of_bind_eq_ok hread
    obtain ⟨secret, hsecret, hread⟩ := exists_of_bind_eq_ok hread
    obtain ⟨headers, -, hread⟩ := exists_of_bind_eq_ok hread
    cases hread
    exact ⟨_, found, hfound, hsecret⟩
  split at h
  · obtain ⟨config, hconfig, hn⟩ := exists_of_map_eq_ok h
    cases hn
    have hread := root_of_readText? (readText?_of_configOf hconfig)
    obtain ⟨found, hfound, hread⟩ := exists_of_bind_eq_ok hread
    obtain ⟨url, -, hread⟩ := exists_of_bind_eq_ok hread
    obtain ⟨secret, hsecret, hread⟩ := exists_of_bind_eq_ok hread
    cases hread
    exact ⟨_, found, hfound, hsecret⟩
  · cases h

/-- A webhook has a notifier if its configuration is read and names a URL. -/
theorem ofChannel_of_readText? {c : Channel} {config : WebhookConfig}
    (htype : c.channelType = "webhook") (hread : readText? WebhookConfig.read c.config = .ok config)
    (hurl : Text.isBlankText config.url = false) : ofChannel c = .ok (some (.webhook config)) := by
  simp [ofChannel, configOf, htype, hread, hurl, Except.map]

end Notifier

/-! ## Masking -/

namespace Channel

/-- A text whose root is an array holds no object. -/
theorem ofText?_of_array {text : String} {items : List Tree} {finish : Finish}
    (h : (Document.ofText text).root = .array items finish) (members : List (String × Value)) :
    Value.ofText? text ≠ some (.object members) := by
  intro hvalue
  simp only [Value.ofText?, h] at hvalue
  split at hvalue
  · cases finish with
    | closed =>
      simp only [Tree.toValue?, maximalDepth] at hvalue
      obtain ⟨values, -, hobject⟩ := Option.map_eq_some_iff.1 hvalue
      cases hobject
    | cut next => cases hvalue
  · cases hvalue

/-- What is left of a secret. -/
theorem eq_of_maskMember_secret {v : Value} {s : String}
    (h : maskMember "secret" v = .string s) : s = "" ∨ s = "****" := by
  by_cases hsecret : IsSecret ("secret", v)
  · have hstars : maskMember "secret" v = .string "****" := maskMember_of_secret hsecret
    exact .inr (Value.string.inj (h.symm.trans hstars))
  · have hshown : maskMember "secret" v = v := maskMember_of_not_secret hsecret
    by_contra hset
    exact hsecret ⟨.inl rfl, s, fun hempty => hset (.inl hempty), hshown.symm.trans h⟩

/-- **What is found under the name of the secret in a masked object was put there by masking.** -/
theorem secret_of_maskedConfig {c : Channel} {members : List (String × Value)}
    (hobject : Value.ofText? c.config = some (.object members)) {n : Notifier} {s : String}
    (hn : Notifier.ofChannel { c with config := c.maskedConfig } = .ok (some n))
    (hs : n.secret = some s) : s = "" ∨ s = "****" := by
  obtain ⟨shape, found, hfound, hsecret⟩ := Notifier.exists_fields hn
  have hroot : (Document.ofText c.maskedConfig).root =
      .object (rereadMembers (maskMembers members)) .closed := by
    rw [maskedConfig, maskConfig_of_object hobject, Document.ofText_chars]
    rfl
  rw [hs] at hsecret
  have hmem := mem_of_getOptional hsecret
  obtain ⟨ms, finish, heq, hnamed⟩ | ⟨items, finish, heq⟩ := Shape.root_of_read hfound
  · have hmember : (Atom.string "secret", Tree.atom (.string s)) ∈ ms :=
      (Shape.mem_of_named hnamed _ hmem).resolve_left (by simp)
    obtain rfl : _ = ms := (Tree.object.inj (hroot.symm.trans heq)).1
    obtain ⟨v, hv, hreread⟩ := mem_rereadMembers hmember
    obtain ⟨m, -, hmask⟩ := List.mem_map.1 hv
    obtain ⟨hname, rfl⟩ := Prod.mk.inj hmask
    rw [hname] at hreread
    exact eq_of_maskMember_secret (eq_string_of_reread hreread)
  · rw [hroot] at heq
    cases heq

theorem maskedConfig_of_array {c : Channel} {items : List Tree} {finish : Finish}
    (h : (Document.ofText c.config).root = .array items finish) : c.maskedConfig = c.config :=
  maskConfig_of_no_object (ofText?_of_array h)

/-- **Masking hides a secret that an object sets**: no notifier that is built
from the masked text signs with it. A secret in an array is not masked. -/
theorem masking_hides_secret {c : Channel} {n : Notifier} {s : String}
    (hn : Notifier.ofChannel c = .ok (some n)) (hs : n.secret = some s) (hset : s ≠ "")
    (hopen : s ≠ "****") :
    (∀ members, Value.ofText? c.config = some (.object members) →
      ∀ n', Notifier.ofChannel { c with config := c.maskedConfig } = .ok (some n') →
        n'.secret ≠ some s) ∧
      ∀ items finish, (Document.ofText c.config).root = .array items finish →
        c.maskedConfig = c.config ∧
          ∃ n', Notifier.ofChannel { c with config := c.maskedConfig } = .ok (some n') ∧
            n'.secret = some s := by
  constructor
  · intro members hobject n' hn' hs'
    rcases secret_of_maskedConfig hobject hn' hs' with hempty | hstars
    · exact hset hempty
    · exact hopen hstars
  · intro items finish harray
    have hsame := maskedConfig_of_array harray
    exact ⟨hsame, n, by rw [hsame]; exact hn, hs⟩

/-- A webhook that signs with `s3cret`: the masked text makes one that signs with four stars. -/
theorem masking_hides_secret_of_webhook :
    ∃ (c : Channel) (n n' : Notifier) (members : List (String × Value)),
      Notifier.ofChannel c = .ok (some n) ∧ n.secret = some "s3cret" ∧
        Value.ofText? c.config = some (.object members) ∧
        Notifier.ofChannel { c with config := c.maskedConfig } = .ok (some n') ∧
        n'.secret = some "****" ∧ n'.secret ≠ some "s3cret" := by
  let config : WebhookConfig := ⟨"http://h1/x", some "s3cret", []⟩
  let masked : WebhookConfig := ⟨"http://h1/x", some "****", []⟩
  let c : Channel :=
    ⟨"n1", "n", "webhook", (WebhookConfig.toJson config).text, true, .epoch, .epoch⟩
  have hblank : Text.isBlankText "http://h1/x" = false := by decide
  have hread : readText? WebhookConfig.read c.config = .ok config := by
    unfold readText?
    rw [Document.ofText_text rfl]
    rfl
  have hobject : Value.ofText? c.config =
      some (.object [("secret", .string "s3cret"), ("url", .string "http://h1/x")]) := by
    unfold Value.ofText?
    rw [Document.ofText_text rfl]
    rfl
  have hmasked : readText? WebhookConfig.read c.maskedConfig = .ok masked := by
    unfold readText? maskedConfig maskConfig
    rw [hobject]
    dsimp only
    rw [Document.ofText_text rfl]
    rfl
  have hn := Notifier.ofChannel_of_readText? rfl hread hblank
  have hn' : Notifier.ofChannel { c with config := c.maskedConfig } =
      .ok (some (.webhook masked)) :=
    Notifier.ofChannel_of_readText? rfl hmasked hblank
  exact ⟨c, _, _, _, hn, rfl, hobject, hn', rfl,
    (masking_hides_secret hn rfl (by decide) (by decide)).1 _ hobject _ hn'⟩

/-- **Masking does not hide every secret**: one that an array sets stays as it is. -/
theorem not_masking_hides_secret :
    ¬∀ (c : Channel) (n : Notifier) (s : String), Notifier.ofChannel c = .ok (some n) →
      n.secret = some s → s ≠ "" → s ≠ "****" →
      ∀ n', Notifier.ofChannel { c with config := c.maskedConfig } = .ok (some n') →
        n'.secret ≠ some s := by
  intro h
  let config : WebhookConfig := ⟨"http://h1/x", some "s3cret", []⟩
  let c : Channel := ⟨"n1", "n", "webhook",
    (Value.array [.string "http://h1/x", .string "s3cret"]).text, true, .epoch, .epoch⟩
  have hblank : Text.isBlankText "http://h1/x" = false := by decide
  have hread : readText? WebhookConfig.read c.config = .ok config := by
    unfold readText?
    rw [Document.ofText_text rfl]
    rfl
  have hn := Notifier.ofChannel_of_readText? rfl hread hblank
  have hroot : ∃ items finish, (Document.ofText c.config).root = .array items finish := by
    rw [Document.ofText_text rfl]
    exact ⟨_, _, rfl⟩
  obtain ⟨items, finish, harray⟩ := hroot
  refine h c _ "s3cret" hn rfl (by decide) (by decide) (.webhook config) ?_ rfl
  rw [maskedConfig_of_array harray]
  exact hn

end Channel

end NetWatch
