/-
# A reader settles every value

A reader that is given a value of the grammar does one of two things, and which
one does not depend on what follows the value: it takes the value and stops
right after it, or it refuses it. Readers also pass over blanks in front. Both
together are `Settles`, and every codec of a settings document has it; lists and
objects are in `Proofs/Json/Members`.

Key definitions: `Follows`, `Takes`, `Refuses`, `Settles`.
Key theorems: `Spells.read`, `IsBody.spelt_or_refused`, `IsMagnitude.read`,
`settles_readBy`, and `settles_` for each codec.
-/
import Mathlib.Data.List.DropRight
import MessageBus.Proofs.Json.Codec
import MessageBus.Proofs.Json.Grammar

namespace MessageBus
namespace Json

variable {α β : Type}

/-- What may follow a value: nothing, a blank, a comma or a closing bracket. -/
def Follows (rest : List Char) : Prop :=
  ∀ c ∈ rest.head?, isSpace c = true ∨ c = ',' ∨ c = ']' ∨ c = '\x7d'

/-- A reader takes a value from a text and stops right after it. -/
def Takes (read : Reader α) (text : List Char) (value : α) : Prop :=
  ∀ rest, Follows rest → read (text ++ rest) = .ok (value, rest)

/-- A reader finds a problem in a text. -/
def Refuses (read : Reader α) (text : List Char) : Prop :=
  ∀ rest, Follows rest → ∃ problem, read (text ++ rest) = .error problem

/-- A reader passes over blanks, and takes or refuses every value. -/
structure Settles (read : Reader α) : Prop where
  skips : ∀ s, read (skipSpace s) = read s
  value : ∀ {text}, IsValue text → (∃ value, Takes read text value) ∨ Refuses read text

/-! ### Blanks -/

theorem skipSpace_skipSpace (s : List Char) : skipSpace (skipSpace s) = skipSpace s :=
  List.dropWhile_idempotent isSpace s

theorem IsBlank.skipSpace {w : List Char} (h : IsBlank w) (s : List Char) :
    skipSpace (w ++ s) = Json.skipSpace s :=
  List.dropWhile_append_of_pos h

theorem Follows.nil : Follows [] := fun _ h => nomatch h

theorem Follows.blank {w rest : List Char} (hw : IsBlank w) (h : Follows rest) :
    Follows (w ++ rest) := by
  intro c hc
  cases w with
  | nil => exact h c hc
  | cons d w =>
    cases hc
    exact .inl (hw c List.mem_cons_self)

theorem Follows.endsNumber {rest : List Char} (h : Follows rest) : EndsNumber rest := by
  intro c hc
  rcases h c hc with hspace | rfl | rfl | rfl
  · simp only [isSpace, Bool.or_eq_true, beq_iff_eq] at hspace
    rcases hspace with ((rfl | rfl) | rfl) | rfl <;> decide
  all_goals decide

theorem Takes.unique {read : Reader α} {text : List Char} {value value' : α}
    (h : Takes read text value) (h' : Takes read text value') : value = value' := by
  have heq := (h [] .nil).symm.trans (h' [] .nil)
  cases heq
  rfl

theorem Takes.not_refuses {read : Reader α} {text : List Char} {value : α}
    (h : Takes read text value) : ¬ Refuses read text := by
  intro hrefuses
  obtain ⟨problem, hproblem⟩ := hrefuses [] .nil
  cases (h [] .nil).symm.trans hproblem

section Padded

variable {read : Reader α} {p : Padded} {rest : List Char}

theorem Settles.blank (h : Settles read) {w : List Char} (hw : IsBlank w) (s : List Char) :
    read (w ++ s) = read s := by
  rw [← h.skips, hw.skipSpace, h.skips]

/-- A value is read from between its blanks; those behind it stay. -/
theorem Settles.padded (h : Settles read) (hp : p.HasBlanks) (s : List Char) :
    read (p.text ++ s) = read (p.core ++ (p.after ++ s)) := by
  rw [Padded.text, List.append_assoc, h.blank hp.before, List.append_assoc]

end Padded

/-! ### Strings -/

section Strings

variable {x y z w : Char} {unit : Nat}

theorem readTextBody_unit (h : hexUnit? x y z w = some unit) (hlead : isLead unit = false)
    (htrail : isTrail unit = false) (rest : List Char) :
    readTextBody ('\\' :: 'u' :: x :: y :: z :: w :: rest) =
      prepend (Char.ofNat unit) (readTextBody rest) := by
  rw [readTextBody.eq_def]
  simp [h, hlead, htrail]

theorem readTextBody_trail (h : hexUnit? x y z w = some unit) (htrail : isTrail unit = true)
    (rest : List Char) :
    readTextBody ('\\' :: 'u' :: x :: y :: z :: w :: rest) = .error .loneSurrogate := by
  rw [readTextBody.eq_def]
  simp [h, htrail]

theorem not_isTrail_of_isLead (h : isLead unit = true) : isTrail unit = false := by
  simp only [isLead, isTrail, Bool.and_eq_true, Bool.and_eq_false_iff, decide_eq_true_eq,
    decide_eq_false_iff_not] at h ⊢
  omega

/-- After the first unit of a pair, something other than an escape. -/
theorem readTextBody_lead_plain (h : hexUnit? x y z w = some unit) (hlead : isLead unit = true)
    {c : Char} (hc : c ≠ '\\') (rest : List Char) :
    readTextBody ('\\' :: 'u' :: x :: y :: z :: w :: c :: rest) = .error .halfSurrogate := by
  rw [readTextBody.eq_def]
  simp [h, hlead, not_isTrail_of_isLead hlead, hc]

/-- After the first unit of a pair, the escape of one character. -/
theorem readTextBody_lead_short (h : hexUnit? x y z w = some unit) (hlead : isLead unit = true)
    {e : Char} (he : e ≠ 'u') (rest : List Char) :
    readTextBody ('\\' :: 'u' :: x :: y :: z :: w :: '\\' :: e :: rest) =
      .error .halfSurrogate := by
  rw [readTextBody.eq_def]
  simp [h, hlead, not_isTrail_of_isLead hlead, he]

/-- After the first unit of a pair, another unit. -/
theorem readTextBody_lead_unit (h : hexUnit? x y z w = some unit) (hlead : isLead unit = true)
    {x' y' z' w' : Char} {second : Nat} (h' : hexUnit? x' y' z' w' = some second)
    (rest : List Char) :
    readTextBody
        ('\\' :: 'u' :: x :: y :: z :: w :: '\\' :: 'u' :: x' :: y' :: z' :: w' :: rest) =
      if isTrail second then prepend (pairedChar unit second) (readTextBody rest)
      else .error .loneSurrogate := by
  rw [readTextBody.eq_def]
  simp [h, hlead, not_isTrail_of_isLead hlead, h']

theorem ne_u_of_shortEscape {e c : Char} (h : shortEscape? e = some c) : e ≠ 'u' := by
  rintro rfl
  cases h

/-- **A string is read as what its characters spell.** -/
theorem Spells.read {body text : List Char} (h : Spells body text) (rest : List Char) :
    readTextBody (body ++ '"' :: rest) = .ok (text, rest) := by
  induction h with
  | nil => exact readTextBody_quote rest
  | plain hquote hback hlow _ ih =>
    rw [List.cons_append, readTextBody_plain hquote hback hlow, ih]
    rfl
  | short h _ ih =>
    rw [List.cons_append, List.cons_append, readTextBody_short h, ih]
    rfl
  | unit h hlead htrail _ ih =>
    simp only [List.cons_append]
    rw [readTextBody_unit h hlead htrail, ih]
    rfl
  | pair h hlead h' htrail _ ih =>
    simp only [List.cons_append]
    rw [readTextBody_lead_unit h hlead h', if_pos htrail, ih]
    rfl

/-- The characters of a string spell a text, or are refused wherever they stand. -/
def SpeltOrRefused (body : List Char) : Prop :=
  (∃ text, Spells body text) ∨
    ∀ rest, ∃ problem, readTextBody (body ++ '"' :: rest) = .error problem

/-- One more character in front changes nothing about it. -/
theorem SpeltOrRefused.prepend {body longer : List Char} {c : Char} (h : SpeltOrRefused body)
    (hspells : ∀ {text}, Spells body text → Spells longer (c :: text))
    (hread : ∀ rest, readTextBody (longer ++ '"' :: rest) =
      Json.prepend c (readTextBody (body ++ '"' :: rest))) : SpeltOrRefused longer := by
  rcases h with ⟨text, ht⟩ | hrefused
  · exact .inl ⟨c :: text, hspells ht⟩
  · refine .inr fun rest => ?_
    obtain ⟨problem, hproblem⟩ := hrefused rest
    exact ⟨problem, by rw [hread, hproblem]; rfl⟩

/-- **The characters of a string spell a text, or are refused wherever they stand.** -/
theorem IsBody.spelt_or_refused {body : List Char} (h : IsBody body) : SpeltOrRefused body := by
  match h with
  | .nil => exact .inl ⟨[], .nil⟩
  | .plain hquote hback hlow hbody =>
    exact hbody.spelt_or_refused.prepend (.plain hquote hback hlow)
      fun rest => readTextBody_plain hquote hback hlow _
  | .short h hbody =>
    exact hbody.spelt_or_refused.prepend (.short h) fun rest => readTextBody_short h _
  | @IsBody.unit _ _ _ _ first _ h hbody =>
    by_cases htrail : isTrail first = true
    · exact .inr fun rest => ⟨_, readTextBody_trail h htrail _⟩
    by_cases hlead : isLead first = true
    swap
    · rw [Bool.not_eq_true] at hlead htrail
      exact hbody.spelt_or_refused.prepend (.unit h hlead htrail)
        fun rest => readTextBody_unit h hlead htrail _
    -- what follows the first unit decides whether it is half of a pair
    match hbody with
    | .nil => exact .inr fun rest => ⟨_, readTextBody_lead_plain h hlead (by decide) _⟩
    | .plain _ hback _ _ => exact .inr fun rest => ⟨_, readTextBody_lead_plain h hlead hback _⟩
    | .short he _ =>
      exact .inr fun rest => ⟨_, readTextBody_lead_short h hlead (ne_u_of_shortEscape he) _⟩
    | @IsBody.unit _ _ _ _ second _ h' hbody =>
      by_cases hsecond : isTrail second = true
      · exact hbody.spelt_or_refused.prepend (.pair h hlead h' hsecond)
          fun rest => (readTextBody_lead_unit h hlead h' _).trans (if_pos hsecond)
      · exact .inr fun rest => ⟨_, (readTextBody_lead_unit h hlead h' _).trans (if_neg hsecond)⟩

end Strings

/-- A string that spells something is read. -/
theorem readString_of_spells {body : List Char} {text : String} (h : Spells body text.toList)
    (rest : List Char) : readString (body ++ '"' :: rest) = .ok (text, rest) := by
  rw [readString, h.read]
  simp [Except.map]

theorem IsBody.readString {body : List Char} (h : IsBody body) :
    (∃ text : String, Spells body text.toList) ∨
      ∀ rest, ∃ problem, Json.readString (body ++ '"' :: rest) = .error problem := by
  rcases h.spelt_or_refused with ⟨text, ht⟩ | hr
  · exact .inl ⟨String.ofList text, by rwa [String.toList_ofList]⟩
  · refine .inr fun rest => ?_
    obtain ⟨problem, hproblem⟩ := hr rest
    exact ⟨problem, by rw [Json.readString, hproblem]; rfl⟩

theorem Spells.unique {body : List Char} {text text' : String} (h : Spells body text.toList)
    (h' : Spells body text'.toList) : text = text' := by
  have heq := (readString_of_spells h []).symm.trans (readString_of_spells h' [])
  cases heq
  rfl

/-! ### Numbers -/

section Numbers

variable {s : List Char}

theorem IsDigits.read (h : IsDigits s) {rest : List Char}
    (hr : ∀ c ∈ rest.head?, c.isDigit = false) :
    readDigits (s ++ rest) = .ok (s.map digitValue, rest) := by
  have htake : takeDigits (s ++ rest) = (s.map digitValue, rest) := by
    rw [takeDigits, List.takeWhile_append_of_pos h.2, List.dropWhile_append_of_pos h.2]
    cases rest with
    | nil => simp
    | cons c t => simp [hr c rfl]
  obtain ⟨c, t, rfl⟩ := List.exists_cons_of_ne_nil h.1
  have hc : c.isDigit = true := h.2 c List.mem_cons_self
  rw [List.cons_append, readDigits, if_pos hc, ← List.cons_append, htake]

/-- Digits at the end of a text. -/
theorem IsDigits.readAll (h : IsDigits s) : readDigits s = .ok (s.map digitValue, []) := by
  have hread := @IsDigits.read s h [] fun _ hc => nomatch hc
  rwa [List.append_nil] at hread

theorem IsWhole.read (h : IsWhole s) {rest : List Char}
    (hr : ∀ c ∈ rest.head?, c.isDigit = false) :
    ∃ digits, readWhole (s ++ rest) = .ok (digits, rest) := by
  rcases h with rfl | ⟨hdigits, hzero⟩
  · refine ⟨[0], ?_⟩
    cases rest with
    | nil => rfl
    | cons c t => simp [readWhole, hr c rfl]
  · have hread := hdigits.read hr
    obtain ⟨c, t, rfl⟩ := List.exists_cons_of_ne_nil hdigits.1
    have hc : c ≠ '0' := by simpa using hzero
    rw [List.cons_append, readDigits] at hread
    exact ⟨_, (if_neg hc).trans hread⟩

theorem IsFraction.read (h : IsFraction s) {rest : List Char}
    (hr : ∀ c ∈ rest.head?, c.isDigit = false ∧ c ≠ '.') :
    ∃ digits, readFraction (s ++ rest) = .ok (digits, rest) := by
  rcases h with rfl | ⟨digits, hdigits, rfl⟩
  · refine ⟨[], ?_⟩
    cases rest with
    | nil => rfl
    | cons c t => simp [readFraction, (hr c rfl).2]
  · exact ⟨_, hdigits.read fun c hc => (hr c hc).1⟩

theorem IsExponent.read (h : IsExponent s) :
    ∃ exponent, readExponent s = .ok (exponent, []) := by
  rcases h with rfl | ⟨e, sign, digits, he, hsign, hdigits, rfl⟩
  · exact ⟨none, rfl⟩
  have hread := hdigits.readAll
  rcases hsign with rfl | rfl | rfl
  · obtain ⟨c, t, rfl⟩ := List.exists_cons_of_ne_nil hdigits.1
    have hc : c.isDigit = true := hdigits.2 c List.mem_cons_self
    have hplus : c ≠ '+' := by
      rintro rfl
      cases hc
    have hminus : c ≠ '-' := by
      rintro rfl
      cases hc
    refine ⟨some (false, (c :: t).map digitValue), ?_⟩
    rw [List.nil_append, readExponent_unsigned he hplus hminus, hread]
    rfl
  · exact ⟨some (false, digits.map digitValue), by simp [readExponent, he, hread, Except.map]⟩
  · exact ⟨some (true, digits.map digitValue), by simp [readExponent, he, hread, Except.map]⟩

/-- An exponent does not go on with the digits in front of it. -/
theorem IsExponent.head (h : IsExponent s) : ∀ c ∈ s.head?, c.isDigit = false ∧ c ≠ '.' := by
  rcases h with rfl | ⟨e, sign, digits, rfl | rfl, -, -, rfl⟩
  · exact fun c hc => nomatch hc
  all_goals
    rintro c ⟨⟩
    decide

theorem IsFraction.head (h : IsFraction s) {rest : List Char}
    (hr : ∀ c ∈ rest.head?, c.isDigit = false) : ∀ c ∈ (s ++ rest).head?, c.isDigit = false := by
  rcases h with rfl | ⟨digits, -, rfl⟩
  · exact hr
  · rintro c ⟨⟩
    decide

theorem IsMagnitude.read (h : IsMagnitude s) (negative : Bool) :
    ∃ n, readParts negative s = .ok (n, []) := by
  obtain ⟨whole, fraction, exponent, hwhole, hfraction, hexponent, rfl⟩ := h
  obtain ⟨digits, hdigits⟩ := hwhole.read (hfraction.head fun c hc => (hexponent.head c hc).1)
  obtain ⟨places, hplaces⟩ := hfraction.read hexponent.head
  obtain ⟨power, hpower⟩ := hexponent.read
  exact ⟨⟨negative, digits, places, power⟩,
    readParts_eq_ok.2 ⟨digits, _, places, _, power, hdigits, hplaces, hpower, rfl⟩⟩

/-- **A number is read as a numeral.** -/
theorem IsNumber.readNumeral (h : IsNumber s) : ∃ n, Json.readNumeral s = .ok (n, []) := by
  obtain ⟨t, ht, rfl | rfl⟩ := h
  · obtain ⟨n, hn⟩ := ht.read false
    obtain ⟨c, t, rfl, hc⟩ := ht.opening
    have hminus : c ≠ '-' := by
      rintro rfl
      cases hc
    exact ⟨n, (readNumeral_unsigned hminus t).trans hn⟩
  · obtain ⟨n, hn⟩ := ht.read true
    exact ⟨n, hn⟩

end Numbers

/-- What a number is read as does not depend on what follows it; it can be out of range. -/
theorem IsNumber.readValue {s : List Char} (h : IsNumber s) :
    ∃ value? : Option Value, ∀ rest, Follows rest → Json.readValue (s ++ rest) =
      match value? with
      | some value => .ok (value, rest)
      | none => .error .numberOutOfRange := by
  obtain ⟨n, hn⟩ := h.readNumeral
  refine ⟨n.value?, fun rest hr => ?_⟩
  have happend := readNumeral_append hr.endsNumber hn
  simp only [Json.readValue, happend, bind, Except.bind]
  cases n.value? <;> rfl

/-! ### Readers by the first character -/

/-- A reader that goes by the first character settles every value if each of its cases does. -/
theorem settles_readBy {expected : String}
    {choose : Char → List Char → Option (Except Problem (α × List Char))}
    (h : ∀ c s, Opening c s →
      (∃ value, ∀ rest, Follows rest → choose c (s ++ rest) = some (.ok (value, rest))) ∨
      (∀ rest, Follows rest → ∃ problem, choose c (s ++ rest) = some (.error problem)) ∨
      ∀ rest, choose c rest = none) : Settles (readBy expected choose) where
  skips s := by rw [readBy, readBy, skipSpace_skipSpace]
  value htext := by
    obtain ⟨c, s, rfl, hopening⟩ := htext.opening
    have hread {rest : List Char} {result : Except Problem (α × List Char)}
        (hchoose : choose c (s ++ rest) = some result) :
        readBy expected choose (c :: s ++ rest) = result := by
      simp only [readBy, List.cons_append, skipSpace_cons hopening.notSpace, hchoose]
    rcases h c s hopening with ⟨value, hvalue⟩ | hproblem | hnone
    · exact .inl ⟨value, fun rest hr => hread (hvalue rest hr)⟩
    · refine .inr fun rest hr => ?_
      obtain ⟨problem, hproblem⟩ := hproblem rest hr
      exact ⟨problem, hread hproblem⟩
    · refine .inr fun rest _ => ⟨wrongType expected (c :: (s ++ rest)), ?_⟩
      simp only [readBy, List.cons_append, skipSpace_cons hopening.notSpace, hnone]

theorem Takes.map {read : Reader α} {text : List Char} {value : α} (h : Takes read text value)
    (f : α → β) :
    Takes (fun text => (read text).map fun (value, rest) => (f value, rest)) text (f value) := by
  intro rest hr
  dsimp only
  rw [h rest hr]
  rfl

theorem Refuses.map {read : Reader α} {text : List Char} (h : Refuses read text) (f : α → β) :
    Refuses (fun text => (read text).map fun (value, rest) => (f value, rest)) text := by
  intro rest hr
  obtain ⟨problem, hproblem⟩ := h rest hr
  dsimp only
  rw [hproblem]
  exact ⟨problem, rfl⟩

theorem Settles.map {read : Reader α} (h : Settles read) (f : α → β) :
    Settles fun text => (read text).map fun (value, rest) => (f value, rest) where
  skips s := by rw [h.skips]
  value htext := (h.value htext).imp (fun ⟨value, hvalue⟩ => ⟨f value, hvalue.map f⟩)
    fun hrefuses => hrefuses.map f

theorem settles_boolean : Settles boolean.read := by
  refine settles_readBy fun c s h => ?_
  cases h with
  | truth => exact .inl ⟨true, fun _ _ => rfl⟩
  | falsity => exact .inl ⟨false, fun _ _ => rfl⟩
  | number hc _ =>
    have ht : c ≠ 't' := ne_of_number hc (by decide)
    have hf : c ≠ 'f' := ne_of_number hc (by decide)
    exact .inr (.inr fun rest => by rw [if_neg ht, if_neg hf])
  | null | string | list | object => exact .inr (.inr fun _ => rfl)

theorem settles_textAs (expected : String) : Settles (textAs expected).read := by
  refine settles_readBy fun c s h => ?_
  cases h with
  | string hbody =>
    have hread (body rest : List Char) : readString (body ++ ['"'] ++ rest) =
        readString (body ++ '"' :: rest) := by
      rw [List.append_assoc, List.singleton_append]
    rcases hbody.readString with ⟨text, ht⟩ | hrefused
    · exact .inl ⟨text, fun rest _ => by rw [if_pos rfl, hread, readString_of_spells ht]⟩
    · refine .inr (.inl fun rest _ => ?_)
      obtain ⟨problem, hproblem⟩ := hrefused rest
      exact ⟨problem, by rw [if_pos rfl, hread, hproblem]⟩
  | number hc _ =>
    have hquote : c ≠ '"' := ne_of_number hc (by decide)
    exact .inr (.inr fun rest => if_neg hquote)
  | null | truth | falsity | list | object => exact .inr (.inr fun _ => rfl)

/-- A string is taken as what it writes. -/
theorem takes_textAs (expected : String) {text : List Char} {s : String} (h : IsString text s) :
    Takes (textAs expected).read text s := by
  obtain ⟨body, rfl, hspells⟩ := h
  intro rest _
  have hquote : isSpace '"' = false := by decide
  rw [stringText, List.cons_append, List.append_assoc, List.singleton_append]
  simp only [textAs, readBy, skipSpace_cons hquote, if_true, readString_of_spells hspells]

theorem settles_readNumber (expected : String) (accept : Value → Except Problem α) :
    Settles (readNumber expected accept) := by
  refine settles_readBy fun c s h => ?_
  cases h with
  | number hc h =>
    obtain ⟨value?, hread⟩ := h.readValue
    simp only [List.cons_append] at hread
    simp only [if_pos hc]
    cases value? with
    | none => exact .inr (.inl fun rest hr => ⟨.numberOutOfRange, by rw [hread rest hr]; rfl⟩)
    | some value =>
      cases haccept : accept value with
      | ok a =>
        refine .inl ⟨a, fun rest hr => ?_⟩
        rw [hread rest hr]
        simp only [bind, Except.bind, haccept]
        rfl
      | error problem =>
        refine .inr (.inl fun rest hr => ⟨problem, ?_⟩)
        rw [hread rest hr]
        simp only [bind, Except.bind, haccept]
  | null | truth | falsity | string | list | object => exact .inr (.inr fun _ => rfl)

theorem settles_word64 : Settles word64.read := by
  simp only [word64]
  exact settles_readNumber _ _

theorem settles_signed32 : Settles signed32.read := by
  simp only [signed32]
  exact settles_readNumber _ _

theorem settles_float : Settles float.read := by
  simp only [float]
  exact settles_readNumber _ _

theorem settles_readUnit : Settles readUnit := by
  refine settles_readBy fun c s h => ?_
  cases h with
  | null => exact .inl ⟨(), fun _ _ => rfl⟩
  | number hc _ =>
    have hn : c ≠ 'n' := ne_of_number hc (by decide)
    exact .inr (.inr fun rest => if_neg hn)
  | truth | falsity | string | list | object => exact .inr (.inr fun _ => rfl)

/-- A value that may be absent is `null` or a value. -/
theorem settles_optional {codec : Codec α} (h : Settles codec.read) :
    Settles (optional codec).read where
  skips s := by
    simp only [optional, skipSpace_skipSpace]
  value htext := by
    obtain ⟨c, s, rfl, hopening⟩ := htext.opening
    by_cases hn : c = 'n'
    · subst hn
      cases hopening with
      | null => exact .inl ⟨none, fun _ _ => rfl⟩
      | number hc _ => exact absurd hc (by decide)
    · have hread (rest : List Char) : (optional codec).read (c :: s ++ rest) =
          (codec.read (c :: s ++ rest)).map fun (value, rest) => (some value, rest) := by
        simp only [optional, List.cons_append, skipSpace_cons hopening.notSpace]
        split
        · next heq => exact absurd (List.cons.inj heq).1 hn
        · rfl
      have hsome := (h.map some).value htext
      simp only [Takes, Refuses, hread]
      exact hsome

end Json
end MessageBus
