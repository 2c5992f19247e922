/-
NetWatch.Proofs.Notification.HeaderOrder — what hangs on the order of the headers (`post_json`).

The headers of a webhook are a `HashMap`, and `post_json` sets them in whatever
order it finds them. Of two orders, both or neither meet a header that is none,
and if neither does, both end with headers of the same names
(`Http.names_setAll_perm`). The values are the same unless two names of the
configuration differ in case only; of such names the one that is set last counts.
So two requests of a notifier are alike but for the order of their headers and for
such values (`Notifier.request_alike`).
-/
import NetWatch.Proofs.Notification.Headers

namespace NetWatch

/-! ## Headers that are set -/

namespace Http

/-- The names that are set are those of all headers, whatever comes first. -/
theorem mem_names_setAll {hs : Headers} (hhs : (hs.map (·.1)).Nodup)
    (headers : List (String × String)) (name : String) :
    name ∈ (setAll hs headers).map (·.1) ↔
      name ∈ hs.map (·.1) ∨ ∃ h ∈ headers, lowerName h.1 = name := by
  induction headers generalizing hs with
  | nil => simp [setAll]
  | cons header rest ih =>
    have hset : name ∈ (setHeader (lowerName header.1) header.2 hs).map (·.1) ↔
        lowerName header.1 = name ∨ name ∈ hs.map (·.1) := by
      simp only [List.mem_map, mem_setHeader_iff hhs]
      constructor
      · rintro ⟨h, rfl | ⟨-, hmem⟩, rfl⟩
        · exact .inl rfl
        · exact .inr ⟨h, hmem, rfl⟩
      · rintro (rfl | ⟨h, hmem, rfl⟩)
        · exact ⟨_, .inl rfl, rfl⟩
        · by_cases hname : h.1 = lowerName header.1
          · exact ⟨_, .inl rfl, hname.symm⟩
          · exact ⟨h, .inr ⟨hname, hmem⟩, rfl⟩
    show name ∈ (setAll (setHeader (lowerName header.1) header.2 hs) rest).map (·.1) ↔ _
    rw [ih (nodup_setHeader hhs _ _), hset, List.exists_mem_cons_iff, or_assoc, or_left_comm]

theorem names_setAll_perm {hs : Headers} (hhs : (hs.map (·.1)).Nodup)
    {headers headers' : List (String × String)} (hperm : headers'.Perm headers) :
    ((setAll hs headers').map (·.1)).Perm ((setAll hs headers).map (·.1)) := by
  refine (List.perm_ext_iff_of_nodup (nodup_setAll hhs headers') (nodup_setAll hhs headers)).2
    fun name => ?_
  simp only [mem_names_setAll hhs, hperm.mem_iff]

/-- Two requests that differ in their headers at most: the names are the same, and if the headers
are certain, so are the values. -/
structure Request.Alike (certain : Prop) (r r' : Request) : Prop where
  method : r'.method = r.method
  url : r'.url = r.url
  body : r'.body = r.body
  names : (r'.headers.map (·.1)).Perm (r.headers.map (·.1))
  headers : certain → r'.headers.Perm r.headers

end Http

/-! ## Requests of a notifier -/

namespace Notifier

open Http (IsHeader lowerName setAll)

/-- The names of the headers of a configuration differ in more than case. -/
def HeadersApart (n : Notifier) : Prop :=
  (n.customHeaders.map fun h => lowerName h.1).Nodup

instance : DecidablePred HeadersApart :=
  fun _ => inferInstanceAs (Decidable (List.Nodup _))

variable {n : Notifier} {alert : Alert} {transition : Transition} {now : Timestamp}

theorem request_of_proper (h : ∀ header ∈ n.customHeaders, IsHeader header) (order : HeaderOrder) :
    (n.request order alert transition now).toOption = (Http.address? n.url).map fun address =>
      ⟨.post, address, setAll (n.defaultHeaders (n.body alert transition now))
        (order.arrange n.customHeaders), n.body alert transition now⟩ := by
  have harranged : ∀ header ∈ order.arrange n.customHeaders, IsHeader header :=
    fun header hmem => h header ((order.perm _).mem_iff.1 hmem)
  have hset : withHeaders n.kind (n.defaultHeaders (n.body alert transition now))
      (order.arrange n.customHeaders) = .ok _ := withHeaders_of_proper harranged
  unfold request
  dsimp only
  rw [hset]
  cases Http.address? n.url <;> rfl

theorem request_of_improper (h : ∃ header ∈ n.customHeaders, ¬IsHeader header)
    (order : HeaderOrder) : (n.request order alert transition now).toOption = none := by
  obtain ⟨header, hmem, himproper⟩ := h
  have harranged : ∃ header ∈ order.arrange n.customHeaders, ¬IsHeader header :=
    ⟨header, (order.perm _).mem_iff.2 hmem, himproper⟩
  obtain ⟨_, -, -, hfound⟩ := withHeaders_of_improper n.kind
    (n.defaultHeaders (n.body alert transition now)) harranged
  unfold request
  dsimp only
  rw [hfound]
  rfl

/-- **What a notifier sends in two orders**: the same but for the order of the headers, and for the
values of those whose names differ in case only. -/
theorem request_alike {certain : Prop} (hcertain : certain → n.HeadersApart)
    (order order' : HeaderOrder) :
    Option.Rel (Http.Request.Alike certain)
      (n.request order alert transition now).toOption
      (n.request order' alert transition now).toOption := by
  have hdefault := n.nodup_defaultHeaders (n.body alert transition now)
  have hperm : (order'.arrange n.customHeaders).Perm (order.arrange n.customHeaders) :=
    (order'.perm _).trans (order.perm _).symm
  by_cases hproper : ∀ header ∈ n.customHeaders, IsHeader header
  · rw [request_of_proper hproper, request_of_proper hproper]
    cases Http.address? n.url with
    | none => exact .none
    | some address =>
      refine .some ⟨rfl, rfl, rfl, Http.names_setAll_perm hdefault hperm, fun h => ?_⟩
      have harranged : ((order.arrange n.customHeaders).map fun h => lowerName h.1).Nodup :=
        ((order.perm _).map _).nodup_iff.2 (hcertain h)
      exact Http.setAll_perm hdefault harranged hperm
  · have himproper : ∃ header ∈ n.customHeaders, ¬IsHeader header := by
      simpa only [not_forall, exists_prop] using hproper
    rw [request_of_improper himproper, request_of_improper himproper]
    exact .none

end Notifier

/-- Of two names that differ in case only, the last one that is set counts. -/
example : Http.setAll [] [("X-A", "1"), ("x-a", "2")] = [("x-a", "2")] ∧
    Http.setAll [] [("x-a", "2"), ("X-A", "1")] = [("x-a", "1")] := by decide +kernel

end NetWatch
