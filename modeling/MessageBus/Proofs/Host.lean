/-
# Hosts that stay as they are

A host that was read, under whatever scheme, is written in one of two ways:
with plain characters, which no scheme forbids or encodes, or as an IPv6
address in brackets. Kept verbatim, either is the host that it was.

Key definitions: `Host.Plain`, `Host.Canonical`.
Key theorems: `Host.canonical_parseWeb`, `Host.canonical_parseVerbatim`,
`Host.Canonical.parseVerbatim`, `Host.Canonical.plain_of_mem`.
-/
import MessageBus.Host
import MessageBus.Proofs.Host.Domain
import MessageBus.Proofs.Host.Ipv6
import MessageBus.Text

namespace MessageBus
namespace Host

/-! ### Plain characters -/

/-- Characters that a host under any scheme may hold as they are. -/
def Plain (text : List Char) : Prop := ∀ c ∈ text, isForbidden c = false ∧ isEncoded c = false

/-- What a domain name may hold in ASCII is plain. -/
theorem plain_of_ascii {text : List Char} (hascii : Text.Ascii text)
    (h : ∀ c ∈ text, Domain.isForbidden c = false) : Plain text := by
  have hforbidden : ∀ c ∈ "\x00\t\n\r #/:<>?@[\\]^|".toList, Domain.isForbidden c = true :=
    List.all_eq_true.1 (by decide)
  intro c hc
  have hdomain := h c hc
  have hlow := hascii c hc
  refine ⟨?_, ?_⟩
  · by_cases hmem : c ∈ "\x00\t\n\r #/:<>?@[\\]^|".toList
    · rw [hforbidden c hmem] at hdomain
      cases hdomain
    · exact Bool.eq_false_iff.2 fun hcontains => hmem (List.contains_iff_mem.1 hcontains)
  · simp only [Domain.isForbidden, Bool.or_eq_false_iff, decide_eq_false_iff_not, beq_eq_false_iff_ne,
      ne_eq] at hdomain
    simp only [isEncoded, Bool.or_eq_false_iff, decide_eq_false_iff_not]
    omega

/-- No plain character is blank. -/
theorem isBlank_of_plain {text : List Char} (h : Plain text) :
    ∀ c ∈ text, Text.isBlank c = false := by
  intro c hc
  obtain ⟨hforbidden, hencoded⟩ := h c hc
  have hspace : c.toNat ≠ 0x20 := fun hnat => by
    have hc : c = ' ' := Char.toNat_inj.1 hnat
    rw [hc] at hforbidden
    revert hforbidden
    decide
  simp only [isEncoded, Bool.or_eq_false_iff, decide_eq_false_iff_not] at hencoded
  simp only [Text.isBlank, Bool.or_eq_false_iff, Bool.and_eq_false_iff, decide_eq_false_iff_not,
    beq_eq_false_iff_ne, ne_eq]
  omega

theorem plain_toDigits (n : Nat) : Plain (Nat.toDigits 10 n) := by
  have hdigit : ∀ d < 10, isForbidden d.digitChar = false ∧ isEncoded d.digitChar = false := by decide
  intro c hc
  obtain ⟨d, hd, rfl⟩ := Text.exists_of_mem_toDigits (by decide) n hc
  exact hdigit d hd

theorem plain_ipv4 (address : Nat) : Plain (Ipv4.render address) := by
  intro c hc
  rcases Text.mem_of_mem_join hc with hdot | ⟨piece, hpiece, hc⟩
  · rw [List.mem_singleton.1 hdot]
    decide
  · obtain ⟨place, -, rfl⟩ := List.mem_map.1 hpiece
    exact plain_toDigits _ c hc

theorem plain_percentByte (byte : UInt8) : Plain (Text.percentByte byte) := by
  have hdigit : ∀ n < 16, isForbidden (Text.upperHexDigit n) = false ∧
      isEncoded (Text.upperHexDigit n) = false := by decide
  have hbyte : byte.toNat < 256 := byte.toNat_lt
  intro c hc
  simp only [Text.percentByte, List.mem_cons, List.not_mem_nil, or_false] at hc
  rcases hc with rfl | rfl | rfl
  · decide
  · exact hdigit _ (by omega)
  · exact hdigit _ (by omega)

/-- Encoding leaves plain characters only, when none is forbidden. -/
theorem plain_percentEncode {text : List Char} (h : text.any isForbidden = false) :
    Plain (Text.percentEncode isEncoded text) := by
  intro c hc
  obtain ⟨source, hsource, hc⟩ := List.mem_flatMap.1 hc
  split at hc
  · obtain ⟨byte, -, hc⟩ := List.mem_flatMap.1 hc
    exact plain_percentByte byte c hc
  · next hencoded =>
    obtain rfl := List.mem_singleton.1 hc
    exact ⟨by simpa using List.any_eq_false.1 h c hsource, by simpa using hencoded⟩

theorem percentEncode_plain : ∀ {text : List Char}, Plain text →
    Text.percentEncode isEncoded text = text
  | [], _ => rfl
  | c :: text, h => by
    have hc : isEncoded c = false := (h c List.mem_cons_self).2
    have ih := percentEncode_plain fun d hd => h d (List.mem_cons_of_mem _ hd)
    unfold Text.percentEncode at ih ⊢
    rw [List.flatMap_cons, ih, hc]
    rfl

/-- A plain host is kept as it is. -/
theorem parseVerbatim_plain {text : List Char} (h : Plain text) :
    Host.parseVerbatim text = .ok (.name text) := by
  have hbracket : text.head? ≠ some '[' := fun hhead =>
    absurd (h '[' (List.mem_of_mem_head? hhead)).1 (by decide)
  have hforbidden : ¬ text.any isForbidden = true := fun hany => by
    obtain ⟨c, hc, hbad⟩ := List.any_eq_true.1 hany
    rw [(h c hc).1] at hbad
    cases hbad
  unfold Host.parseVerbatim
  rw [if_neg hbracket, if_neg hforbidden, percentEncode_plain h]

/-! ### Hosts that were read -/

/-- The texts of the hosts that are read under any scheme. -/
inductive Canonical : List Char → Prop
  | plain {text : List Char} (h : Plain text) : Canonical text
  | bracketed {address : List Nat} (hlength : address.length = 8) (hbounded : Ipv6.Bounded address) :
    Canonical ('[' :: Ipv6.render address ++ [']'])

theorem canonical_parseBracketed {text : List Char} {host : Host}
    (h : parseBracketed text = .ok host) : Canonical host.render := by
  unfold parseBracketed at h
  split at h
  · cases haddress : Ipv6.parse text.tail.dropLast with
    | error e =>
      rw [haddress] at h
      cases h
    | ok address =>
      rw [haddress] at h
      cases h
      have hbounded := Ipv6.parse_bounded haddress
      exact .bracketed hbounded.1 hbounded.2
  · cases h

theorem canonical_parseVerbatim {text : List Char} {host : Host}
    (h : Host.parseVerbatim text = .ok host) : Canonical host.render := by
  unfold Host.parseVerbatim at h
  split at h
  · exact canonical_parseBracketed h
  · split at h
    · cases h
    · next hforbidden =>
      cases h
      exact .plain (plain_percentEncode (by simpa using hforbidden))

theorem canonical_parseWeb {text : List Char} {host : Host}
    (h : Host.parseWeb text = .ok host) : Canonical host.render := by
  unfold Host.parseWeb at h
  split at h
  · exact canonical_parseBracketed h
  · split at h
    · cases h
    · next decoded _ =>
      cases hname : Domain.toAscii decoded with
      | error e =>
        rw [hname] at h
        cases h
      | ok name =>
        have hplain : Plain name :=
          plain_of_ascii (Domain.ascii_of_toAscii hname) (Domain.not_isForbidden_of_toAscii hname)
        rw [hname] at h
        change (if name = [] then _ else _) = _ at h
        split at h
        · cases h
        · split at h
          · cases haddress : Ipv4.parse name with
            | error e =>
              rw [haddress] at h
              cases h
            | ok address =>
              rw [haddress] at h
              cases h
              exact .plain (plain_ipv4 address)
          · cases h
            exact .plain hplain

/-- **A host that was read is the same host when it is kept verbatim.** -/
theorem Canonical.parseVerbatim {text : List Char} (h : Canonical text) :
    ∃ host, Host.parseVerbatim text = .ok host ∧ host.render = text := by
  cases h with
  | plain h => exact ⟨.name text, parseVerbatim_plain h, rfl⟩
  | @bracketed address hlength hbounded =>
    refine ⟨.ipv6 address, ?_, rfl⟩
    have hlast : ('[' :: Ipv6.render address ++ [']']).getLast? = some ']' := List.getLast?_concat
    have hinner : ('[' :: Ipv6.render address ++ [']']).tail.dropLast = Ipv6.render address :=
      List.dropLast_concat
    unfold Host.parseVerbatim parseBracketed
    rw [if_pos (by rfl), if_pos hlast, hinner, Ipv6.parse_render hlength hbounded]
    rfl

/-- Only a plain host holds a semicolon. -/
theorem Canonical.plain_of_mem {text : List Char} (h : Canonical text) (hmem : ';' ∈ text) :
    Plain text := by
  cases h with
  | plain h => exact h
  | bracketed hlength hbounded =>
    have hdigit : ∀ d < 16, ';' ≠ d.digitChar := by decide
    simp only [List.cons_append, List.mem_cons, List.mem_append, List.not_mem_nil, or_false] at hmem
    rcases hmem with h | hmem | h
    · exact absurd h (by decide)
    · rcases Ipv6.mem_render hmem with h | ⟨d, hd, h⟩
      · exact absurd h (by decide)
      · exact absurd h (hdigit d hd)
    · exact absurd h (by decide)

end Host
end MessageBus
