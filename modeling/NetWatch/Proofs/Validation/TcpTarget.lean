/-
NetWatch.Proofs.Validation.TcpTarget — which texts pass as targets of `tcp`
(`validate_tcp_target`).

A target is cut at its last colon (`Target.splitAtLastColon_eq_some_iff`): what
stands behind is the port, what stands before it the host. The port has to be a
number from 1 to 65535 (`Target.portNumber?_eq_some_iff`). The host should be
free of colons and brackets, or one group in brackets, as an address with
colons has to be (`Target.IsTcp`).

All such targets pass. But brackets are only taken off the ends of a host, as
many as there are on either side, and no look is taken at what is left, as long
as something is: so targets pass too whose host is none (`Target.IsLoose`,
`Target.validate_tcp`), an address with colons and without brackets among them
(`Target.not_validate_tcp`).
-/
import NetWatch.Proofs.Json.Numbers
import NetWatch.Validation
import Mathlib.Data.List.TakeWhile

namespace NetWatch

open Json (AreDigits)

/-! ## Numbers in digits -/

namespace Text

/-- The number that digits stand for, the highest first, behind a number that stands before them. -/
def numberBehind (start : Nat) (ds : List Char) : Nat :=
  ds.foldl (fun n c => 10 * n + (c.toNat - '0'.toNat)) start

theorem digit?_eq_some_iff {c : Char} {d : Nat} :
    digit? c = some d ↔ c.isDigit = true ∧ c.toNat - '0'.toNat = d := by
  have hdigit : ('0' ≤ c ∧ c ≤ '9') ↔ c.isDigit = true := by
    simp only [Char.isDigit, Bool.and_eq_true, decide_eq_true_eq]
    exact Iff.rfl
  unfold digit?
  rw [← hdigit]
  split
  · rename_i h
    rw [Option.some.injEq]
    exact (and_iff_right h).symm
  · rename_i h
    exact ⟨nofun, fun hc => absurd hc.1 h⟩

/-- Digits are read as the number that they stand for, and nothing else is. -/
theorem ofDigits_eq_some_iff {start n : Nat} {cs : List Char} :
    ofDigits start cs = some n ↔
      (∀ c ∈ cs, c.isDigit = true) ∧ numberBehind start cs = n := by
  induction cs generalizing start with
  | nil => simp [ofDigits, numberBehind]
  | cons c rest ih =>
    rw [ofDigits, Option.bind_eq_bind, Option.bind_eq_some_iff, List.forall_mem_cons]
    constructor
    · rintro ⟨d, hd, hrest⟩
      obtain ⟨hc, rfl⟩ := digit?_eq_some_iff.1 hd
      obtain ⟨hall, hn⟩ := ih.1 hrest
      exact ⟨⟨hc, hall⟩, hn⟩
    · rintro ⟨⟨hc, hall⟩, hn⟩
      exact ⟨_, digit?_eq_some_iff.2 ⟨hc, rfl⟩, ih.2 ⟨hall, hn⟩⟩

theorem decimal?_eq_some_iff {n : Nat} {cs : List Char} :
    decimal? cs = some n ↔ AreDigits cs ∧ numberBehind 0 cs = n := by
  cases cs with
  | nil => exact ⟨nofun, fun h => absurd rfl h.1.1⟩
  | cons c rest =>
    have hne : c :: rest ≠ [] := List.cons_ne_nil c rest
    rw [decimal?, ofDigits_eq_some_iff]
    · exact ⟨fun h => ⟨⟨hne, h.1⟩, h.2⟩, fun h => ⟨h.1.2, h.2⟩⟩
    · exact hne

end Text

namespace Target

open Text (numberBehind decimal?_eq_some_iff)

/-! ## Ports -/

/-- A port: a number from 1 to 65535 in digits, perhaps with a plus sign before them. -/
def IsPort (port : List Char) : Prop :=
  ∃ ds, (port = ds ∨ port = '+' :: ds) ∧ AreDigits ds ∧ 1 ≤ numberBehind 0 ds ∧
    numberBehind 0 ds ≤ 65535

/-- What is read of a port is its digits. -/
theorem portNumber?_eq_some_iff {port : List Char} {n : Nat} : portNumber? port = some n ↔
    ∃ ds, (port = ds ∨ port = '+' :: ds) ∧ AreDigits ds ∧ numberBehind 0 ds = n ∧ n ≤ 65535 := by
  have hread (ds : List Char) :
      ((Text.decimal? ds).bind fun n => if n ≤ 65535 then some n else none) = some n ↔
        AreDigits ds ∧ numberBehind 0 ds = n ∧ n ≤ 65535 := by
    rw [Option.bind_eq_some_iff]
    constructor
    · rintro ⟨k, hk, hle⟩
      obtain ⟨hds, rfl⟩ := decimal?_eq_some_iff.1 hk
      split at hle
      · cases hle
        exact ⟨hds, rfl, ‹_›⟩
      · cases hle
    · rintro ⟨hds, rfl, hle⟩
      exact ⟨_, decimal?_eq_some_iff.2 ⟨hds, rfl⟩, if_pos hle⟩
  unfold portNumber?
  split
  · rename_i rest
    rw [hread]
    constructor
    · exact fun h => ⟨rest, .inr rfl, h⟩
    · rintro ⟨ds, rfl | heq, h⟩
      · exact absurd (h.1.2 '+' List.mem_cons_self) (by decide)
      · cases heq
        exact h
  · rename_i hplain
    rw [hread]
    constructor
    · exact fun h => ⟨port, .inl rfl, h⟩
    · rintro ⟨ds, rfl | heq, h⟩
      · exact h
      · exact absurd heq (hplain ds)

/-! ## Hosts -/

/-- Whether a character of a host is a colon or a bracket. -/
def IsMark (c : Char) : Prop :=
  c = ':' ∨ c = '[' ∨ c = ']'

/-- A host: something without colon and bracket, or one group in brackets with something in it and
no bracket. -/
inductive IsHost : List Char → Prop
  | plain {host : List Char} (hne : host ≠ []) (h : ∀ c ∈ host, ¬IsMark c) : IsHost host
  | bracketed {inner : List Char} (hne : inner ≠ []) (h : ∀ c ∈ inner, c ≠ '[' ∧ c ≠ ']') :
    IsHost ('[' :: inner ++ [']'])

/-- A host of which nothing is left without the brackets that open and close it. -/
def IsBare (host : List Char) : Prop :=
  ∃ opening closing, host = List.replicate opening '[' ++ List.replicate closing ']'

theorem IsBare.mem {host : List Char} (h : IsBare host) : ∀ c ∈ host, c = '[' ∨ c = ']' := by
  obtain ⟨opening, closing, rfl⟩ := h
  intro c hc
  exact (List.mem_append.1 hc).imp List.eq_of_mem_replicate List.eq_of_mem_replicate

/-- There is something in a host. -/
theorem IsHost.not_isBare {host : List Char} (h : IsHost host) : ¬IsBare host := by
  intro hbare
  cases h with
  | plain hne h =>
    obtain ⟨c, hc⟩ := List.exists_mem_of_ne_nil _ hne
    exact h c hc (.inr (hbare.mem c hc))
  | bracketed hne h =>
    obtain ⟨c, hc⟩ := List.exists_mem_of_ne_nil _ hne
    exact (hbare.mem c (by simp [hc])).elim (h c hc).1 (h c hc).2

theorem dropWhile_beq_eq_nil_iff {a : Char} {cs : List Char} :
    cs.dropWhile (· == a) = [] ↔ cs = List.replicate cs.length a := by
  rw [List.dropWhile_eq_nil_iff, List.eq_replicate_iff]
  simp

/-- Nothing is left of a host exactly if it is bare. -/
theorem unbracketed_eq_nil_iff {host : List Char} : unbracketed host = [] ↔ IsBare host := by
  unfold unbracketed
  rw [List.reverse_eq_nil_iff, dropWhile_beq_eq_nil_iff, List.length_reverse,
    List.reverse_eq_iff, List.reverse_replicate]
  constructor
  · intro h
    refine ⟨(host.takeWhile (· == '[')).length, (host.dropWhile (· == '[')).length, ?_⟩
    have hopening : host.takeWhile (· == '[') =
        List.replicate (host.takeWhile (· == '[')).length '[' :=
      List.eq_replicate_iff.2 ⟨rfl, fun c hc => by simpa using List.mem_takeWhile_imp hc⟩
    rw [← hopening, ← h, List.takeWhile_append_dropWhile]
  · rintro ⟨opening, closing, rfl⟩
    have hclosing : (List.replicate closing ']').dropWhile (· == '[') =
        List.replicate closing ']' := by
      cases closing <;> rfl
    rw [List.dropWhile_append_of_pos (by simp), hclosing, List.length_replicate]

/-! ## Cutting -/

/-- **A text is cut at its last colon.** -/
theorem splitAtLastColon_eq_some_iff {cs host port : List Char} :
    splitAtLastColon cs = some (host, port) ↔ cs = host ++ ':' :: port ∧ ':' ∉ port := by
  have hcut {host port : List Char} (hport : ':' ∉ port) :
      splitAtLastColon (host ++ ':' :: port) = some (host, port) := by
    have hbehind : ((host ++ ':' :: port).reverse.takeWhile (· ≠ ':')).reverse = port := by
      rw [List.reverse_append, List.reverse_cons, List.append_assoc,
        List.takeWhile_append_of_pos fun c hc => ?_]
      · simp
      · exact decide_eq_true fun heq => hport (heq ▸ List.mem_reverse.1 hc)
    unfold splitAtLastColon
    dsimp only
    have hbefore : (host ++ ':' :: port).length - port.length - 1 = host.length := by
      rw [List.length_append, List.length_cons]
      omega
    rw [hbehind, hbefore, List.take_left, if_pos (by simp; omega)]
  constructor
  · intro h
    by_cases hcolon : ':' ∈ cs
    · obtain ⟨after, before, hreverse, hafter⟩ :=
        List.eq_append_cons_of_mem (List.mem_reverse.2 hcolon)
      have hport : ':' ∉ after.reverse := fun hc => hafter (List.mem_reverse.1 hc)
      obtain rfl : cs = before.reverse ++ ':' :: after.reverse := by
        rw [List.reverse_eq_iff] at hreverse
        simpa using hreverse
      rw [hcut hport] at h
      cases h
      exact ⟨rfl, hport⟩
    · have hall : cs.reverse.takeWhile (· ≠ ':') = cs.reverse :=
        List.takeWhile_eq_self_iff.2 fun c hc =>
          decide_eq_true fun heq => hcolon (heq ▸ List.mem_reverse.1 hc)
      unfold splitAtLastColon at h
      dsimp only at h
      rw [hall, if_neg (by simp)] at h
      cases h
  · rintro ⟨rfl, hport⟩
    exact hcut hport

/-! ## Targets -/

theorem tcpFault?_eq_none_iff {target : String} : tcpFault? target = none ↔
    ∃ host port, target.toList = host ++ ':' :: port ∧ ':' ∉ port ∧ ¬IsBare host ∧
      IsPort port := by
  unfold tcpFault?
  constructor
  · intro h
    split at h
    · cases h
    · rename_i host port hcut
      obtain ⟨htarget, hport⟩ := splitAtLastColon_eq_some_iff.1 hcut
      split at h
      · cases h
      · rename_i hhost
        split at h
        · cases h
        · cases h
        · rename_i n hzero hn
          obtain ⟨ds, heq, hds, rfl, hle⟩ := portNumber?_eq_some_iff.1 hn
          exact ⟨host, port, htarget, hport, fun hbare => hhost (unbracketed_eq_nil_iff.2 hbare),
            ds, heq, hds, Nat.pos_of_ne_zero fun hz => hzero hz, hle⟩
  · rintro ⟨host, port, htarget, hport, hbare, ds, heq, hds, hpos, hle⟩
    have hn := portNumber?_eq_some_iff.2 ⟨ds, heq, hds, rfl, hle⟩
    simp only [splitAtLastColon_eq_some_iff.2 ⟨htarget, hport⟩, hn,
      if_neg fun hnil => hbare (unbracketed_eq_nil_iff.1 hnil)]
    split
    · rename_i hnone
      cases hnone
    · rename_i hzero
      have hzero := Option.some.inj hzero
      omega
    · rfl

theorem validate_tcp_eq_ok_iff {target : String} : validate "tcp" target = .ok () ↔
    ∃ host port, target.toList = host ++ ':' :: port ∧ ':' ∉ port ∧ ¬IsBare host ∧
      IsPort port := by
  have hkind : ProbeKind.named? "tcp" = some .tcp := by decide
  rw [← tcpFault?_eq_none_iff]
  unfold validate
  simp only [hkind, fault?]
  constructor
  · intro h
    split at h
    · cases h
    · split at h
      · assumption
      · cases h
  · intro h
    obtain ⟨host, port, htarget, -⟩ := tcpFault?_eq_none_iff.1 h
    have hcolon : Text.isBlankText target = false := by
      rw [Text.isBlankText, htarget, List.all_append, List.all_cons]
      simp [show Text.isBlank ':' = false by decide]
    simp [hcolon, h]

/-- A proper target of `tcp`: a host and, behind the last colon, a port. -/
def IsTcp (target : List Char) : Prop :=
  ∃ host port, target = host ++ ':' :: port ∧ ':' ∉ port ∧ IsHost host ∧ IsPort port

/-- A target with a port behind its last colon and something before it, as far as it is not only
brackets, but no host: there is a colon outside of brackets, or a bracket out of place. -/
def IsLoose (target : List Char) : Prop :=
  ∃ host port, target = host ++ ':' :: port ∧ ':' ∉ port ∧ ¬IsHost host ∧ ¬IsBare host ∧
    IsPort port

/-- A text has one last colon. -/
theorem eq_of_cut {host port host' port' : List Char}
    (h : host ++ ':' :: port = host' ++ ':' :: port') (hport : ':' ∉ port) (hport' : ':' ∉ port') :
    host = host' ∧ port = port' := by
  have hcut := splitAtLastColon_eq_some_iff.2 ⟨h, hport'⟩
  rw [splitAtLastColon_eq_some_iff.2 ⟨rfl, hport⟩] at hcut
  cases hcut
  exact ⟨rfl, rfl⟩

/-- **The targets of `tcp` that pass** have a port behind their last colon and more than brackets
before it: these are the proper ones, and those with a host that is none. -/
theorem validate_tcp (target : String) :
    (validate "tcp" target = .ok () ↔
      ∃ host port, target.toList = host ++ ':' :: port ∧ ':' ∉ port ∧ ¬IsBare host ∧
        IsPort port) ∧
    (validate "tcp" target = .ok () ↔ IsTcp target.toList ∨ IsLoose target.toList) ∧
    ¬(IsTcp target.toList ∧ IsLoose target.toList) := by
  refine ⟨validate_tcp_eq_ok_iff, ?_, ?_⟩
  · rw [validate_tcp_eq_ok_iff]
    constructor
    · rintro ⟨host, port, htarget, hcolon, hbare, hport⟩
      by_cases hhost : IsHost host
      · exact .inl ⟨host, port, htarget, hcolon, hhost, hport⟩
      · exact .inr ⟨host, port, htarget, hcolon, hhost, hbare, hport⟩
    · rintro (⟨host, port, htarget, hcolon, hhost, hport⟩ |
        ⟨host, port, htarget, hcolon, -, hbare, hport⟩)
      · exact ⟨host, port, htarget, hcolon, hhost.not_isBare, hport⟩
      · exact ⟨host, port, htarget, hcolon, hbare, hport⟩
  · rintro ⟨⟨host, port, htarget, hcolon, hhost, -⟩, host', port', htarget', hcolon', hnot, -⟩
    obtain ⟨rfl, -⟩ := eq_of_cut (htarget.symm.trans htarget') hcolon hcolon'
    exact hnot hhost

/-- An address with colons passes without brackets, though it is no host. -/
theorem not_validate_tcp : ¬∀ target : String,
    validate "tcp" target = .ok () ↔ IsTcp target.toList := by
  intro h
  have hpasses : validate "tcp" "fe80::1:443" = .ok () := by decide +kernel
  obtain ⟨host, port, htarget, hcolon, hhost, -⟩ := (h _).1 hpasses
  have hcut : "fe80::1".toList ++ ':' :: "443".toList = host ++ ':' :: port := htarget
  obtain ⟨rfl, -⟩ := eq_of_cut hcut (by decide) hcolon
  generalize hfe80 : "fe80::1".toList = host at hhost
  cases hhost with
  | plain _ hmarks => exact hmarks ':' (by rw [← hfe80]; decide) (.inl rfl)
  | bracketed _ _ =>
    have hhead : some 'f' = some '[' := congrArg List.head? hfe80
    cases hhead

end Target

end NetWatch
