/-
NetWatch.Proofs.Json.RoundTrip — the text of a value holds that value.

Every value can be written, and its text is read with nothing left over
(`Document.ofText_chars`). Only its numbers may come out as others: a double may
be off in the last place or be too large when it is read, and the special
doubles are written as `null` (`Number.reread`). Where all numbers are whole and
fit in a word (`Value.isExact`), the value is read back as the tree that it is
(`Document.ofText_text`). Any string may stand in it.

A value is written to be followed by something, so the statement that carries
the proof is about the text of a value with more text behind it: taking the
words of the value in does to the containers that are still open what handing
them the finished value does (`run_value`). The further items of an array and
the further members of an object go along with it.
-/
import NetWatch.Json.Reader
import NetWatch.Proofs.Json.Doubles
import NetWatch.Proofs.Json.Strings

namespace NetWatch.Json

open Builder (begin? deliver)

/-! ## What is read -/

/-- What a number is read as, once it is written. -/
def Number.reread (n : Number) : Atom :=
  match scanNumeral n.chars with
  | some (m, _) => numberAtom m
  | none => .null

mutual

/-- What a value is read as, once it is written. -/
def Value.reread : Value → Tree
  | .null => .atom .null
  | .bool b => .atom (.bool b)
  | .number n => .atom n.reread
  | .string s => .atom (.string s)
  | .array items => .array (rereadItems items) .closed
  | .object members => .object (rereadMembers members) .closed

def rereadItems : List Value → List Tree
  | [] => []
  | v :: rest => v.reread :: rereadItems rest

def rereadMembers : List (String × Value) → List (Atom × Tree)
  | [] => []
  | (k, v) :: rest => (.string k, v.reread) :: rereadMembers rest

end

/-! ## Words -/

theorem tokens_nil : tokens [] = [] := by
  rw [tokens]
  rfl

theorem tokens_cons {c : Char} {rest after : List Char} {t : Token} (hspace : isSpace c = false)
    (h : scanToken (c :: rest) = (t, after)) (ht : t ≠ .broken)
    (hlen : after.length ≤ rest.length) : tokens (c :: rest) = t :: tokens after := by
  have hlt : after.length < (c :: rest).length := Nat.lt_succ_of_le hlen
  rw [tokens, List.dropWhile_cons_of_neg (by simp [hspace])]
  simp only [h, hlt, if_true]

theorem tokens_colon (rest : List Char) : tokens (':' :: rest) = .colon :: tokens rest :=
  tokens_cons rfl rfl (by simp) (by simp)

theorem tokens_comma (rest : List Char) : tokens (',' :: rest) = .comma :: tokens rest :=
  tokens_cons rfl rfl (by simp) (by simp)

theorem tokens_openArray (rest : List Char) : tokens ('[' :: rest) = .openArray :: tokens rest :=
  tokens_cons rfl rfl (by simp) (by simp)

theorem tokens_closeArray (rest : List Char) :
    tokens (']' :: rest) = .closeArray :: tokens rest :=
  tokens_cons rfl rfl (by simp) (by simp)

theorem tokens_openObject (rest : List Char) :
    tokens ('{' :: rest) = .openObject :: tokens rest :=
  tokens_cons rfl rfl (by simp) (by simp)

theorem tokens_closeObject (rest : List Char) :
    tokens ('}' :: rest) = .closeObject :: tokens rest :=
  tokens_cons rfl rfl (by simp) (by simp)

theorem tokens_null (rest : List Char) :
    tokens (Value.null.chars ++ rest) = .atom .null :: tokens rest :=
  tokens_cons rfl rfl (by simp) (by simp; omega)

theorem tokens_bool (b : Bool) (rest : List Char) :
    tokens ((Value.bool b).chars ++ rest) = .atom (.bool b) :: tokens rest := by
  cases b <;> exact tokens_cons rfl rfl (by simp) (by simp; omega)

theorem tokens_string (s : String) (rest : List Char) :
    tokens (stringChars s ++ rest) = .atom (.string s) :: tokens rest := by
  have hscan := scanToken_stringChars s rest
  have hcons : stringChars s ++ rest = '"' :: (s.toList.flatMap escapedChar ++ '"' :: rest) := by
    simp [stringChars]
  rw [hcons] at hscan ⊢
  exact tokens_cons rfl hscan (by simp) (by simp; omega)

/-- **A number is one word.** -/
theorem scanToken_number (n : Number) {rest : List Char} (h : Follows rest) :
    scanToken (n.chars ++ rest) = (.atom n.reread, rest) := by
  have hnumeral : (∃ m : Numeral, m.IsProper ∧ m.chars = n.chars) ∨ n.chars = "null".toList := by
    cases n with
    | int i => exact .inl ⟨.ofInt i, Numeral.isProper_ofInt i, Numeral.chars_ofInt i⟩
    | float x =>
      unfold Number.chars
      dsimp only
      split
      · exact .inl (Decimal.exists_numeral x)
      · exact .inr rfl
  unfold Number.reread
  obtain ⟨m, hm, hchars⟩ | hnull := hnumeral
  · have hscan := Numeral.scanNumeral_chars hm follows_nil
    rw [List.append_nil] at hscan
    rw [← hchars, Numeral.scanToken_chars hm h, hscan]
  · rw [hnull]
    rfl

theorem exists_cons_number (n : Number) :
    ∃ c cs, n.chars = c :: cs ∧ (c.isDigit = true ∨ c = '-' ∨ c = 'n') := by
  have hproper : ∀ m : Numeral, m.IsProper →
      ∃ c cs, m.chars = c :: cs ∧ (c.isDigit = true ∨ c = '-' ∨ c = 'n') := by
    intro m hm
    obtain ⟨c, cs, hcons, hc⟩ := hm.exists_cons
    exact ⟨c, cs, hcons, hc.imp id .inl⟩
  cases n with
  | int i => exact Numeral.chars_ofInt i ▸ hproper _ (Numeral.isProper_ofInt i)
  | float x =>
    unfold Number.chars
    dsimp only
    split
    · obtain ⟨m, hm, hchars⟩ := Decimal.exists_numeral x
      exact hchars ▸ hproper m hm
    · exact ⟨'n', ['u', 'l', 'l'], rfl, .inr (.inr rfl)⟩

theorem tokens_number (n : Number) {rest : List Char} (h : Follows rest) :
    tokens (n.chars ++ rest) = .atom n.reread :: tokens rest := by
  have hscan := scanToken_number n h
  obtain ⟨c, cs, hcons, hc⟩ := exists_cons_number n
  have hspace : isSpace c = false := by
    cases hspace : isSpace c with
    | false => rfl
    | true =>
      simp only [isSpace, Bool.or_eq_true, beq_iff_eq] at hspace
      rcases hspace with ((rfl | rfl) | rfl) | rfl <;> exact absurd hc (by decide)
  rw [hcons] at hscan ⊢
  exact tokens_cons hspace hscan (by simp) (by simp)

/-- The first word of a value begins one. -/
theorem exists_tokens (v : Value) {rest : List Char} (h : Follows rest) :
    ∃ t after, tokens (v.chars ++ rest) = t :: after ∧ t ≠ .closeArray ∧
      ∀ stack, (begin? t stack).isSome = true := by
  cases v with
  | null => exact ⟨_, _, tokens_null rest, by simp, fun _ => rfl⟩
  | bool b => exact ⟨_, _, tokens_bool b rest, by simp, fun _ => rfl⟩
  | number n => exact ⟨_, _, tokens_number n h, by simp, fun _ => rfl⟩
  | string s => exact ⟨_, _, tokens_string s rest, by simp, fun _ => rfl⟩
  | array items =>
    cases items <;>
      exact ⟨_, _, tokens_cons rfl rfl (by simp) (by simp), by simp, fun _ => rfl⟩
  | object members =>
    rcases members with _ | ⟨⟨k, v⟩, members⟩ <;>
      exact ⟨_, _, tokens_cons rfl rfl (by simp) (by simp), by simp, fun _ => rfl⟩

/-! ## Containers -/

/-- What follows an item of a written array. -/
theorem follows_itemChars (items : List Value) (rest : List Char) :
    Follows (itemChars items ++ rest) := by
  cases items with
  | nil => exact follows_cons (by simp) _
  | cons v items => exact follows_cons (by simp) _

theorem follows_memberChars (members : List (String × Value)) (rest : List Char) :
    Follows (memberChars members ++ rest) := by
  rcases members with _ | ⟨⟨k, v⟩, members⟩
  · exact follows_cons (by simp) _
  · exact follows_cons (by simp) _

/-- The first item of an array is taken in as any other. -/
theorem run_firstItem (v : Value) {rest : List Char} (h : Follows rest) (stack : List Frame) :
    (Builder.firstItem stack).run (tokens (v.chars ++ rest)) =
      (Builder.value (.array [] :: stack)).run (tokens (v.chars ++ rest)) := by
  obtain ⟨t, after, htokens, hclose, hbegin⟩ := exists_tokens v h
  obtain ⟨b, hb⟩ := Option.isSome_iff_exists.1 (hbegin (.array [] :: stack))
  have hfirst : (Builder.firstItem stack).step t = b := by
    simp [Builder.step, Builder.step?, hb]
  have hvalue : (Builder.value (.array [] :: stack)).step t = b := by
    simp [Builder.step, Builder.step?, hb]
  simp [htokens, Builder.run, hfirst, hvalue]

mutual

/-- **Taking a value in hands it to the container that waits for it.** -/
theorem run_value : (v : Value) → {rest : List Char} → Follows rest →
    (stack : List Frame) →
    (Builder.value stack).run (tokens (v.chars ++ rest)) =
      (deliver (v.reread) stack).run (tokens rest)
  | .null, rest, _, stack => by
    rw [tokens_null]
    rfl
  | .bool b, rest, _, stack => by
    rw [tokens_bool]
    rfl
  | .number n, rest, h, stack => by
    rw [Value.chars, tokens_number n h]
    rfl
  | .string s, rest, _, stack => by
    rw [Value.chars, tokens_string]
    rfl
  | .array [], rest, _, stack => by
    show (Builder.value stack).run (tokens ('[' :: ']' :: rest)) = _
    rw [tokens_openArray, tokens_closeArray]
    rfl
  | .array (v :: items), rest, h, stack => by
    have hchars : (Value.array (v :: items)).chars ++ rest =
        '[' :: (v.chars ++ (itemChars items ++ rest)) := by
      simp [Value.chars]
    rw [hchars, tokens_openArray]
    show (Builder.firstItem stack).run (tokens (v.chars ++ (itemChars items ++ rest))) = _
    rw [run_firstItem v (follows_itemChars items rest),
      run_value v (follows_itemChars items rest)]
    exact run_items items h [v.reread] stack
  | .object [], rest, _, stack => by
    show (Builder.value stack).run (tokens ('{' :: '}' :: rest)) = _
    rw [tokens_openObject, tokens_closeObject]
    rfl
  | .object ((k, v) :: members), rest, h, stack => by
    have hchars : (Value.object ((k, v) :: members)).chars ++ rest =
        '{' :: (stringChars k ++ ':' :: (v.chars ++ (memberChars members ++ rest))) := by
      simp [Value.chars]
    rw [hchars, tokens_openObject, tokens_string, tokens_colon]
    show (Builder.value (.member [] (.string k) :: stack)).run
      (tokens (v.chars ++ (memberChars members ++ rest))) = _
    rw [run_value v (follows_memberChars members rest)]
    exact run_members members h [(.string k, v.reread)] stack

/-- Taking the further items of an array in closes it. -/
theorem run_items : (items : List Value) → {rest : List Char} →
    Follows rest → (done : List Tree) → (stack : List Frame) →
    (Builder.afterItem done stack).run (tokens (itemChars items ++ rest)) =
      (deliver (.array (done.reverse ++ rereadItems items) .closed) stack).run (tokens rest)
  | [], rest, _, done, stack => by
    show (Builder.afterItem done stack).run (tokens (']' :: rest)) = _
    rw [tokens_closeArray, rereadItems, List.append_nil]
    rfl
  | v :: items, rest, h, done, stack => by
    have hchars : itemChars (v :: items) ++ rest =
        ',' :: (v.chars ++ (itemChars items ++ rest)) := by
      simp [itemChars]
    rw [hchars, tokens_comma]
    show (Builder.value (.array done :: stack)).run
      (tokens (v.chars ++ (itemChars items ++ rest))) = _
    rw [run_value v (follows_itemChars items rest)]
    show (Builder.afterItem (v.reread :: done) stack).run
      (tokens (itemChars items ++ rest)) = _
    rw [run_items items h, List.reverse_cons, List.append_assoc]
    rfl

/-- Taking the further members of an object in closes it. -/
theorem run_members : (members : List (String × Value)) → {rest : List Char} →
    Follows rest → (done : List (Atom × Tree)) → (stack : List Frame) →
    (Builder.afterMember done stack).run (tokens (memberChars members ++ rest)) =
      (deliver (.object (done.reverse ++ rereadMembers members) .closed) stack).run (tokens rest)
  | [], rest, _, done, stack => by
    show (Builder.afterMember done stack).run (tokens ('}' :: rest)) = _
    rw [tokens_closeObject, rereadMembers, List.append_nil]
    rfl
  | (k, v) :: members, rest, h, done, stack => by
    have hchars : memberChars ((k, v) :: members) ++ rest =
        ',' :: (stringChars k ++ ':' :: (v.chars ++ (memberChars members ++ rest))) := by
      simp [memberChars]
    rw [hchars, tokens_comma]
    show (Builder.key done stack).run
      (tokens (stringChars k ++ ':' :: (v.chars ++ (memberChars members ++ rest)))) = _
    rw [tokens_string, tokens_colon]
    show (Builder.value (.member done (.string k) :: stack)).run
      (tokens (v.chars ++ (memberChars members ++ rest))) = _
    rw [run_value v (follows_memberChars members rest)]
    show (Builder.afterMember ((.string k, v.reread) :: done) stack).run
      (tokens (memberChars members ++ rest)) = _
    rw [run_members members h, List.reverse_cons, List.append_assoc]
    rfl

end

/-! ## Documents -/

/-- **The text of a value holds what its numbers are read as, and nothing else.** -/
theorem Document.ofText_chars (v : Value) : Document.ofText v.text = ⟨v.reread, true⟩ := by
  have hrun := run_value v follows_nil []
  rw [List.append_nil, tokens_nil] at hrun
  unfold Document.ofText Value.text
  rw [String.toList_ofList, hrun]
  rfl

/-! ## Parts of what is read -/

/-- The members of a written object. -/
theorem mem_rereadMembers {members : List (String × Value)} {k : String} {t : Tree}
    (h : (Atom.string k, t) ∈ rereadMembers members) : ∃ v, (k, v) ∈ members ∧ v.reread = t := by
  induction members with
  | nil => cases h
  | cons member rest ih =>
    obtain ⟨k', v⟩ := member
    rcases List.mem_cons.1 h with heq | hrest
    · cases heq
      exact ⟨v, List.mem_cons_self, rfl⟩
    · obtain ⟨v, hv, ht⟩ := ih hrest
      exact ⟨v, List.mem_cons_of_mem _ hv, ht⟩

/-- A text is read where a text was written, and nowhere else. -/
theorem eq_string_of_reread {v : Value} {s : String} (h : v.reread = .atom (.string s)) :
    v = .string s := by
  cases v with
  | string s' =>
    cases h
    rfl
  | number n =>
    have hatom : n.reread = .string s := Tree.atom.inj h
    unfold Number.reread numberAtom at hatom
    split at hatom
    · split at hatom <;> cases hatom
    · cases hatom
  | null => cases h
  | bool b => cases h
  | array items => cases h
  | object members => cases h

/-! ## Whole numbers -/

mutual

/-- Whether all numbers of a value are whole and fit in a word. -/
def Value.isExact : Value → Bool
  | .null => true
  | .bool _ => true
  | .number (.int i) => Number.fitsWord i
  | .number (.float _) => false
  | .string _ => true
  | .array items => areExact items
  | .object members => membersAreExact members

/-- Whether all numbers of the items are whole and fit in a word. -/
def areExact : List Value → Bool
  | [] => true
  | v :: rest => v.isExact && areExact rest

/-- Whether all numbers of the members are whole and fit in a word. -/
def membersAreExact : List (String × Value) → Bool
  | [] => true
  | (_, v) :: rest => v.isExact && membersAreExact rest

end

theorem membersAreExact_iff {members : List (String × Value)} :
    membersAreExact members = true ↔ ∀ m ∈ members, m.2.isExact = true := by
  induction members with
  | nil => simp [membersAreExact]
  | cons m rest ih => simp [membersAreExact, ih]

theorem Number.reread_int {i : Int} (h : fitsWord i = true) :
    (Number.int i).reread = .number (.int i) := by
  have hscan := Numeral.scanNumeral_chars (Numeral.isProper_ofInt i) follows_nil
  rw [List.append_nil, Numeral.chars_ofInt] at hscan
  simp only [reread, hscan, numberAtom, Numeral.value_ofInt h]

mutual

/-- A value of whole numbers is read as the tree that it is. -/
theorem reread_of_isExact : (v : Value) → v.isExact = true → v.reread = Tree.ofValue v
  | .null, _ => rfl
  | .bool _, _ => rfl
  | .number (.int _), h => congrArg Tree.atom (Number.reread_int h)
  | .number (.float _), h => by cases h
  | .string _, _ => rfl
  | .array items, h => congrArg (Tree.array · .closed) (rereadItems_of_areExact items h)
  | .object members, h => congrArg (Tree.object · .closed) (rereadMembers_of_areExact members h)

theorem rereadItems_of_areExact : (items : List Value) → areExact items = true →
    rereadItems items = treesOf items
  | [], _ => rfl
  | v :: rest, h => by
    obtain ⟨hv, hrest⟩ := Bool.and_eq_true_iff.1 h
    rw [rereadItems, treesOf, reread_of_isExact v hv, rereadItems_of_areExact rest hrest]

theorem rereadMembers_of_areExact : (members : List (String × Value)) →
    membersAreExact members = true → rereadMembers members = memberTrees members
  | [], _ => rfl
  | (k, v) :: rest, h => by
    obtain ⟨hv, hrest⟩ := Bool.and_eq_true_iff.1 h
    rw [rereadMembers, memberTrees, reread_of_isExact v hv, rereadMembers_of_areExact rest hrest]

end

/-- **The text of a value of whole numbers holds that value and nothing else.** -/
theorem Document.ofText_text {v : Value} (hv : v.isExact = true) :
    Document.ofText v.text = ⟨Tree.ofValue v, true⟩ := by
  rw [ofText_chars, reread_of_isExact v hv]

/-! ## Lists of texts -/

theorem areExact_strings (texts : List String) : areExact (texts.map .string) = true := by
  induction texts with
  | nil => rfl
  | cons s rest ih => exact ih

theorem readItems_strings (texts : List String) :
    readItems readText .closed (treesOf (texts.map .string)) = .ok texts := by
  induction texts with
  | nil => rfl
  | cons s rest ih =>
    rw [List.map_cons, treesOf, readItems, ih]
    rfl

/-- **A list of texts is read as it was written.** -/
theorem readText?_strings (texts : List String) :
    readText? (readList readText) (Value.array (texts.map .string)).text = .ok texts := by
  have hexact : (Value.array (texts.map .string)).isExact = true := areExact_strings texts
  unfold readText?
  rw [Document.ofText_text hexact]
  simp only [Tree.ofValue, readList, readItems_strings, if_true]

end NetWatch.Json
