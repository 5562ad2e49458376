/-
# Endpoints of hosts that were read

The host of an endpoint is canonical, whatever its scheme. And the endpoint
that a canonical host is written into again, between `sb://` and a slash, has
that host: none of its characters ends the host before its end, and under a
scheme that is not of the web a host is kept verbatim.

Key definition: `Endpoint.IsQuiet`.
Key theorems: `Endpoint.canonical_of_parse`, `Endpoint.authorityHost_bare`,
`Endpoint.parse_canonical`, `Endpoint.parse_of_not_mem`.
-/
import MessageBus.Endpoint
import MessageBus.Proofs.Host
import MessageBus.Proofs.Outcome

namespace MessageBus
namespace Endpoint

open Outcome

/-! ### Hosts that endpoints have -/

theorem absent_eq_ok {c d : Prop} [Decidable c] [Decidable d] {e : AddressFault}
    {y : Except AddressFault (Option Host)} {host : Host} :
    (if c then if d then .error e else pure none else y) = .ok (some host) ↔
      ¬ c ∧ y = .ok (some host) := by
  refine ite_eq_ok_iff fun h => ?_
  obtain ⟨-, h⟩ := refuse_eq_ok.1 h
  cases h

theorem canonical_of_authorityHost {web : Bool} {text : List Char} {host : Host}
    (h : authorityHost web text = .ok (some host)) : Host.Canonical host.render := by
  have hthrow (e : AddressFault) (f : PUnit → Except AddressFault (Option Host)) :
      (throw e >>= f) = .error e := rfl
  unfold authorityHost at h
  cases web with
  | true =>
    simp only [hthrow, refuse_eq_ok, absent_eq_ok, if_true, bind_eq_ok] at h
    obtain ⟨-, -, parsed, hparsed, -, -, -, h⟩ := h
    cases h
    exact Host.canonical_parseWeb hparsed
  | false =>
    simp only [hthrow, refuse_eq_ok, absent_eq_ok, Bool.false_eq_true, if_false, bind_eq_ok] at h
    obtain ⟨-, -, parsed, hparsed, -, -, -, h⟩ := h
    cases h
    exact Host.canonical_parseVerbatim hparsed

theorem canonical_of_fileHost {text : List Char} {host : Host}
    (h : fileHost text = .ok (some host)) : Host.Canonical host.render := by
  unfold fileHost at h
  split at h
  · simp only [none_eq_ok, bind_eq_ok] at h
    obtain ⟨-, -, parsed, hparsed, -, -, h⟩ := h
    cases h
    exact Host.canonical_parseWeb hparsed
  · cases h

/-- **The host of an endpoint is canonical, whatever the scheme.** -/
theorem canonical_of_parse {text : List Char} {host : Host} (h : parse text = .ok (some host)) :
    Host.Canonical host.render := by
  unfold parse at h
  split at h
  · cases h
  · split at h
    · exact canonical_of_authorityHost h
    · exact canonical_of_fileHost h
    · split at h
      · exact canonical_of_authorityHost h
      · cases h

/-! ### The endpoint of a host -/

/-- A character that ends neither the host that it stands in nor the endpoint around it. -/
def IsQuiet (c : Char) : Prop := isEdge c = false ∧ endsAuthority false c = false ∧ c ≠ '@'

instance (c : Char) : Decidable (IsQuiet c) :=
  inferInstanceAs (Decidable (isEdge c = false ∧ endsAuthority false c = false ∧ c ≠ '@'))

theorem isDropped_eq_false {c : Char} (h : isEdge c = false) : isDropped c = false := by
  have hne {d : Char} (hd : isEdge d = true) : c ≠ d := fun hcd => by
    rw [hcd, hd] at h
    cases h
  simp [isDropped, hne (d := '\t') (by decide), hne (d := '\n') (by decide),
    hne (d := '\r') (by decide)]

theorem isQuiet_of_plain {c : Char} (hforbidden : Host.isForbidden c = false)
    (hencoded : Host.isEncoded c = false) : IsQuiet c := by
  have hne {d : Char} (hd : Host.isForbidden d = true) : c ≠ d := fun hcd => by
    rw [hcd, hd] at hforbidden
    cases hforbidden
  refine ⟨?_, ?_, hne (by decide)⟩
  · have hblank : c.toNat ≠ ' '.toNat := fun h => hne (by decide) (Char.toNat_inj.1 h)
    change c.toNat ≠ 0x20 at hblank
    simp only [Host.isEncoded, Bool.or_eq_false_iff, decide_eq_false_iff_not] at hencoded
    simp only [isEdge, decide_eq_false_iff_not]
    omega
  · simp [endsAuthority, isSlash, hne (d := '/') (by decide), hne (d := '?') (by decide),
      hne (d := '#') (by decide)]

theorem spanHost_of_not_mem : ∀ {text : List Char}, (∀ c ∈ text, c ≠ ':' ∧ c ≠ '[') →
    spanHost false text = (text, [])
  | [], _ => rfl
  | c :: text, h => by
    obtain ⟨hcolon, hbracket⟩ := h c List.mem_cons_self
    have ih := spanHost_of_not_mem fun d hd => h d (List.mem_cons_of_mem _ hd)
    simp [spanHost, hcolon, hbracket, ih]

/-- Between brackets no colon ends a host. -/
theorem spanHost_inside : ∀ {text : List Char}, (∀ c ∈ text, c ≠ '[' ∧ c ≠ ']') →
    spanHost true (text ++ [']']) = (text ++ [']'], [])
  | [], _ => rfl
  | c :: text, h => by
    obtain ⟨hopening, hclosing⟩ := h c List.mem_cons_self
    have ih := spanHost_inside fun d hd => h d (List.mem_cons_of_mem _ hd)
    simp [spanHost, hopening, hclosing, ih]

/-- A canonical host ends at its end. -/
theorem spanHost_canonical {text : List Char} (h : Host.Canonical text) :
    spanHost false text = (text, []) := by
  cases h with
  | plain h =>
    refine spanHost_of_not_mem fun c hc => ⟨?_, ?_⟩
    · rintro rfl
      exact absurd (h _ hc).1 (by decide)
    · rintro rfl
      exact absurd (h _ hc).1 (by decide)
  | @bracketed address hlength hbounded =>
    have hdigit : ∀ d < 16, d.digitChar ≠ '[' ∧ d.digitChar ≠ ']' := by decide
    have hinside : spanHost true (Ipv6.render address ++ [']']) =
        (Ipv6.render address ++ [']'], []) := by
      refine spanHost_inside fun c hc => ?_
      rcases Ipv6.mem_render hc with rfl | ⟨d, hd, rfl⟩
      · decide
      · exact hdigit d hd
    rw [List.cons_append, spanHost, if_neg (by decide), if_pos rfl, hinside]

theorem isQuiet_of_canonical {text : List Char} (h : Host.Canonical text) : ∀ c ∈ text, IsQuiet c := by
  have hdigit : ∀ d < 16, IsQuiet d.digitChar := by decide
  intro c hc
  cases h with
  | plain h => exact isQuiet_of_plain (h c hc).1 (h c hc).2
  | bracketed hlength hbounded =>
    simp only [List.cons_append, List.mem_cons, List.mem_append, List.not_mem_nil, or_false] at hc
    rcases hc with rfl | hc | rfl
    · decide
    · rcases Ipv6.mem_render hc with rfl | ⟨d, hd, rfl⟩
      · decide
      · exact hdigit d hd
    · decide

/-- An authority that holds a host and nothing else has that host. Under a scheme of the web it
must not be empty. -/
theorem authorityHost_bare {web : Bool} {text rest : List Char}
    (htake : rest.takeWhile (fun c => !endsAuthority web c) = text) (hat : '@' ∉ text)
    (hspan : spanHost false text = (text, [])) (hne : web = true → text ≠ []) :
    authorityHost web rest = (if web then Host.parseWeb text else Host.parseVerbatim text).map
      fun host => if text = [] then none else some host := by
  have hcut : Text.cutLast '@' text = none := by
    have hmem : '@' ∉ text.reverse := fun hmem => hat (List.mem_reverse.1 hmem)
    rw [Text.cutLast, Text.cutOnce_eq_none hmem]
    rfl
  have hport : portAllowed [] = true := rfl
  have hfound (host : Host) : (if text = [] then pure none else pure (some host) :
      Except AddressFault (Option Host)) = .ok (if text = [] then none else some host) :=
    (apply_ite Except.ok _ _ _).symm
  have hempty : ¬ (web = true ∧ text = []) := fun h => hne h.1 h.2
  unfold authorityHost
  simp only [htake, hcut, hspan, hport, hempty, hfound, Bool.false_eq_true, reduceCtorEq, false_and,
    and_false, not_true_eq_false, ne_eq, if_false, Option.map_none, Option.getD_none]
  cases web with
  | true =>
    rw [if_pos rfl, if_pos rfl]
    cases Host.parseWeb text <;> rfl
  | false =>
    rw [if_neg Bool.false_ne_true, if_neg Bool.false_ne_true]
    cases Host.parseVerbatim text <;> rfl

/-- Nothing at the ends of an endpoint without spaces, tabs and line breaks is dropped. -/
theorem significant_eq_self {text : List Char} (h : ∀ c ∈ text, isEdge c = false) :
    significant text = text := by
  have hdrop {s : List Char} (hs : ∀ c ∈ s, isEdge c = false) : s.dropWhile isEdge = s := by
    cases s with
    | nil => rfl
    | cons c s => simp [hs c List.mem_cons_self]
  unfold significant
  rw [hdrop h, hdrop fun c hc => h c (List.mem_reverse.1 hc), List.reverse_reverse]
  exact List.filter_eq_self.2 fun c hc => by simp [isDropped_eq_false (h c hc)]

/-- **The endpoint of a host that is kept verbatim has that host, when there is one.** -/
theorem parse_canonical {text ending : List Char} (h : Host.Canonical text)
    (hending : ending = [] ∨ ending = ['/']) :
    parse ("sb://".toList ++ (text ++ ending)) =
      (Host.parseVerbatim text).map fun host => if text = [] then none else some host := by
  have hquiet := isQuiet_of_canonical h
  have hedges : ∀ c ∈ "sb://".toList ++ (text ++ ending), isEdge c = false := by
    have hscheme : "sb://".toList.any isEdge = false := by decide
    intro c hc
    rcases List.mem_append.1 hc with hc | hc
    · simpa using List.any_eq_false.1 hscheme c hc
    · rcases List.mem_append.1 hc with hc | hc
      · exact (hquiet c hc).1
      · rcases hending with rfl | rfl
        · cases hc
        · rw [List.mem_singleton.1 hc]
          decide
  have hscheme : scheme? ("sb://".toList ++ (text ++ ending)) =
      some ("sb".toList, '/' :: '/' :: (text ++ ending)) := rfl
  have hkind : schemeKind "sb".toList = .other := by decide
  have htake : (text ++ ending).takeWhile (fun c => !endsAuthority false c) = text := by
    rw [List.takeWhile_append_of_pos fun c hc => by simp [(hquiet c hc).2.1]]
    rcases hending with rfl | rfl
    · simp
    · have hslash : endsAuthority false '/' = true := by decide
      simp [hslash]
  have hat : '@' ∉ text := fun hmem => (hquiet '@' hmem).2.2 rfl
  unfold parse
  rw [significant_eq_self hedges, hscheme]
  dsimp only
  rw [hkind]
  exact authorityHost_bare htake hat (spanHost_canonical h) (fun h => absurd h Bool.false_ne_true)

theorem mem_of_mem_significant {text : List Char} {c : Char} (h : c ∈ significant text) :
    c ∈ text := by
  have hkept := List.mem_reverse.1 (List.mem_filter.1 h).1
  have hend := (List.dropWhile_suffix isEdge).subset hkept
  exact (List.dropWhile_suffix isEdge).subset (List.mem_reverse.1 hend)

/-- Without a colon there is no scheme. -/
theorem parse_of_not_mem {text : List Char} (h : ':' ∉ text) : parse text = .error .relative := by
  have hcolon : ':' ∉ significant text := fun hmem => h (mem_of_mem_significant hmem)
  have hscheme : scheme? (significant text) = none := by
    unfold scheme?
    split
    · rfl
    · split
      · split
        · next rest hrest =>
          have hmem : ':' ∈ (significant text).dropWhile isSchemeChar := by
            rw [hrest]
            exact List.mem_cons_self
          exact absurd ((List.dropWhile_suffix isSchemeChar).subset hmem) hcolon
        · rfl
      · rfl
  rw [parse, hscheme]

end Endpoint
end MessageBus
