/-
# The queries of clean options

A text is clean when it holds none of the characters that end a part of an
address, and a key when besides it holds no equals sign. The queries of
settings with clean options are clean, whatever the tuning values are, and a
clean query can be read off its text. The keys of a pair tell which of the
three queries it is from.

Key definitions: `Query.CleanText`, `Query.Clean`, `Query.ofText`.
Key theorems: `Query.ofText_text`, `Settings.hostPairs_clean`,
`Settings.failoverPairs_clean`, `Settings.providerPairs_clean`.
-/
import MessageBus.Proofs.Dictionary
import MessageBus.Proofs.Number
import MessageBus.Proofs.Text
import MessageBus.Settings.Query

namespace MessageBus
namespace Query

/-! ### Clean texts -/

/-- A character that ends a host, a group or a pair in an address. -/
def isReserved (c : Char) : Bool := c == ',' || c == '(' || c == ')' || c == '?' || c == '&'

def CleanText (s : String) : Prop := ∀ c ∈ s.toList, isReserved c = false

/-- A pair whose key and value are clean, the key without equals signs. -/
structure CleanPair (pair : String × String) : Prop where
  key : CleanText pair.1
  unequal : '=' ∉ pair.1.toList
  value : CleanText pair.2

def Clean (q : Query) : Prop := ∀ pair ∈ q, CleanPair pair

instance (s : String) : Decidable (CleanText s) :=
  decidable_of_iff (s.toList.all fun c => !isReserved c) (by simp [CleanText])

instance (pair : String × String) : Decidable (CleanPair pair) :=
  decidable_of_iff (CleanText pair.1 ∧ '=' ∉ pair.1.toList ∧ CleanText pair.2)
    ⟨fun ⟨key, unequal, value⟩ => ⟨key, unequal, value⟩, fun ⟨key, unequal, value⟩ =>
      ⟨key, unequal, value⟩⟩

instance (q : Query) : Decidable (Clean q) :=
  inferInstanceAs (Decidable (∀ pair ∈ q, CleanPair pair))

theorem CleanText.not_mem {s : String} {c : Char} (h : CleanText s) (hc : isReserved c = true) :
    c ∉ s.toList := fun hmem => by
  rw [h c hmem] at hc
  cases hc

theorem isReserved_of_isTextChar {c : Char} (h : Number.isTextChar c = true) :
    isReserved c = false := by
  by_contra hne
  simp only [isReserved, Bool.or_eq_false_iff, beq_eq_false_iff_ne, ne_eq, not_and_or,
    not_not] at hne
  rcases hne with (((rfl | rfl) | rfl) | rfl) | rfl <;> exact absurd h (by decide)

/-- What a number writes is clean. -/
theorem cleanText_of_isTextChar {s : String} (h : ∀ c ∈ s.toList, Number.isTextChar c = true) :
    CleanText s := fun c hc => isReserved_of_isTextChar (h c hc)

theorem clean_append {q r : Query} (hq : Clean q) (hr : Clean r) : Clean (q ++ r) :=
  fun pair hp => (List.mem_append.1 hp).elim (hq pair) (hr pair)

/-- The pair of a value that may be absent is clean when its key and the text
of every value are. -/
theorem ofOption_clean {α : Type} {key : String} {text : α → String}
    (hkey : CleanText key ∧ '=' ∉ key.toList) (htext : ∀ a, CleanText (text a)) :
    ∀ a : Option α, Clean (ofOption key text a)
  | none => by simp [ofOption, Clean]
  | some a => fun pair hp => by
    rw [ofOption, List.mem_singleton] at hp
    subst hp
    exact ⟨hkey.1, hkey.2, htext a⟩

/-! ### Queries of one kind -/

/-- The pairs of a query all have a key of one kind. -/
def AllKeys (p : String → Bool) (q : Query) : Prop := ∀ pair ∈ q, p pair.1 = true

theorem allKeys_append {p : String → Bool} {q r : Query} (hq : AllKeys p q) (hr : AllKeys p r) :
    AllKeys p (q ++ r) := fun pair hp => (List.mem_append.1 hp).elim (hq pair) (hr pair)

theorem allKeys_ofOption {α : Type} {p : String → Bool} {key : String} {text : α → String}
    (h : p key = true) : ∀ a : Option α, AllKeys p (ofOption key text a)
  | none => by simp [ofOption, AllKeys]
  | some _ => by simp [ofOption, AllKeys, h]

/-! ### Reading a query -/

/-- The pair that a text writes. The key goes up to the first equals sign. -/
def pairOfText (s : List Char) : String × String :=
  match Text.cutOnce '=' s with
  | none => (String.ofList s, "")
  | some (key, value) => (String.ofList key, String.ofList value)

/-- The pairs that a text writes. -/
def ofText (s : List Char) : Query := (Text.cut '&' s).map pairOfText

theorem pairOfText_pairText {pair : String × String} (h : CleanPair pair) :
    pairOfText (pairText pair).toList = pair := by
  have hcut : Text.cutOnce '=' (pairText pair).toList = some (pair.1.toList, pair.2.toList) := by
    simpa [pairText] using Text.cutOnce_append h.unequal
  rw [pairOfText, hcut]
  simp only [String.ofList_toList]

/-- The only reserved character in the text of a clean query is `&`. -/
theorem not_mem_text {q : Query} {c : Char} (h : Clean q) (hc : isReserved c = true)
    (hne : c ≠ '&') : c ∉ q.text.toList := fun hmem => by
  rw [text, Text.toList_intercalate] at hmem
  obtain hsep | ⟨piece, hpiece, hmem⟩ := Text.mem_of_mem_join hmem
  · exact hne (by simpa using hsep)
  · simp only [List.map_map, List.mem_map] at hpiece
    obtain ⟨pair, hpair, rfl⟩ := hpiece
    simp only [Function.comp, pairText, String.toList_append, List.mem_append] at hmem
    rcases hmem with (hmem | hmem) | hmem
    · exact (h pair hpair).key.not_mem hc hmem
    · have hequals : c = '=' := by simpa using hmem
      rw [hequals] at hc
      cases hc
    · exact (h pair hpair).value.not_mem hc hmem

/-- **A clean query can be read off its text**, unless it has no pairs. -/
theorem ofText_text {q : Query} (hq : q ≠ []) (h : Clean q) : ofText q.text.toList = q := by
  have hpieces : ∀ piece ∈ (q.map pairText).map String.toList, '&' ∉ piece := by
    intro piece hpiece
    simp only [List.map_map, List.mem_map] at hpiece
    obtain ⟨pair, hpair, rfl⟩ := hpiece
    simp only [Function.comp, pairText, String.toList_append, List.mem_append, not_or]
    exact ⟨⟨(h pair hpair).key.not_mem rfl, by simp⟩, (h pair hpair).value.not_mem rfl⟩
  have hcut : Text.cut '&' q.text.toList = (q.map pairText).map String.toList := by
    rw [text, Text.toList_intercalate]
    exact Text.cut_join (by simpa using hq) hpieces
  rw [ofText, hcut, List.map_map, List.map_map]
  exact (List.map_congr_left fun pair hpair => pairOfText_pairText (h pair hpair)).trans
    (List.map_id q)

end Query

namespace Settings

open Query

/-! ### The values of the tuning -/

theorem isTextChar_of_mem_repr {n : Nat} {c : Char} (h : c ∈ n.repr.toList) :
    Number.isTextChar c = true := by
  rw [Nat.toList_repr] at h
  exact Number.isTextChar_of_isDigit (Number.isDigit_of_mem_digitsOf h)

theorem wordText_clean (n : UInt64) : CleanText (wordText n) :=
  cleanText_of_isTextChar fun _ hc => isTextChar_of_mem_repr hc

theorem countText_clean (n : Int32) : CleanText (countText n) := by
  refine cleanText_of_isTextChar fun c hc => ?_
  rw [countText, Int.toString_eq_repr, Int.repr_eq_if] at hc
  split at hc
  · exact isTextChar_of_mem_repr hc
  · rw [String.toList_append, List.mem_append] at hc
    rcases hc with hc | hc
    · have hminus : c = '-' := by simpa using hc
      rw [hminus]
      decide
    · exact isTextChar_of_mem_repr hc

theorem boolText_clean : ∀ b : Bool, CleanText (boolText b)
  | true => by decide
  | false => by decide

theorem mergeActionText_clean : ∀ action : MergeAction, CleanText action.text
  | .replace => by decide
  | .add => by decide
  | .ignore => by decide

theorem floatText_clean (x : Float) : CleanText (Number.text x) := by
  unfold Number.text
  split
  · decide
  · split <;> decide
  · refine cleanText_of_isTextChar fun c hc => ?_
    rw [String.toList_ofList] at hc
    cases hs : Number.finiteText? Number.optionLayout x with
    | none => simp [hs] at hc
    | some s => exact Number.isTextChar_of_mem_finiteText hs (by simpa [hs] using hc)

/-! ### Clean options -/

variable {s : Settings}

/-- The defaults are clean, so the options over them are when the caller's are. -/
theorem mergedOptions_clean (h : Clean s.options.entries) : Clean s.mergedOptions.entries := by
  rintro ⟨key, value⟩ hpair
  rw [Dictionary.mem_entries_iff, mergedOptions, Dictionary.extend, Dictionary.get?_extendList,
    Option.or_eq_some_iff] at hpair
  rcases hpair with hpair | ⟨-, hpair⟩
  · exact h _ (List.mem_reverse.1 (Dictionary.mem_of_lookup hpair))
  · have hmem := Dictionary.mem_of_mem_ofList (Dictionary.mem_entries_iff.2 hpair)
    rw [List.mem_singleton] at hmem
    rw [hmem]
    decide

theorem optionsWhere_clean (h : Clean s.options.entries) (p : String → Bool) :
    Clean (s.optionsWhere p) :=
  fun pair hp => mergedOptions_clean h pair (List.mem_of_mem_filter hp)

theorem hostPairs_clean (h : Clean s.options.entries) : Clean s.hostPairs := by
  refine clean_append (clean_append ?_ ?_) (optionsWhere_clean h _)
  · split
    · exact ofOption_clean (by decide) wordText_clean (some s.idleTimeout)
    · simp [Clean]
  · split <;> decide

theorem tuningPairs_clean (s : Settings) : Clean s.tuningPairs := by
  unfold tuningPairs
  repeat' apply clean_append
  · exact ofOption_clean (by decide) wordText_clean _
  · exact ofOption_clean (by decide) wordText_clean _
  · exact ofOption_clean (by decide) wordText_clean _
  · exact ofOption_clean (by decide) boolText_clean _
  · exact ofOption_clean (by decide) floatText_clean _
  · exact ofOption_clean (by decide) countText_clean _
  · exact ofOption_clean (by decide) countText_clean _
  · exact ofOption_clean (by decide) countText_clean _
  · exact ofOption_clean (by decide) boolText_clean _
  · exact ofOption_clean (by decide) mergeActionText_clean _

theorem failoverPairs_clean (h : Clean s.options.entries) : Clean s.failoverPairs :=
  clean_append (tuningPairs_clean s) (optionsWhere_clean h _)

theorem providerPairs_clean (h : Clean s.options.entries) : Clean s.providerPairs :=
  optionsWhere_clean h _

/-! ### Which query a key is from -/

theorem isProviderOption_iff {key : String} :
    isProviderOption key = true ↔ isHostOption key = false ∧ isFailoverOption key = false := by
  simp [isProviderOption]

theorem allKeys_optionsWhere (s : Settings) (p : String → Bool) : AllKeys p (s.optionsWhere p) :=
  fun _ hp => (List.mem_filter.1 hp).2

theorem hostPairs_keys (s : Settings) : AllKeys isHostOption s.hostPairs := by
  refine allKeys_append (allKeys_append ?_ ?_) (allKeys_optionsWhere s _)
  · split
    · exact allKeys_ofOption (by decide +kernel) (some s.idleTimeout)
    · simp [AllKeys]
  · split
    · intro pair hp
      rw [List.mem_singleton.1 hp]
      decide +kernel
    · simp [AllKeys]

theorem tuningPairs_keys (s : Settings) : AllKeys isFailoverOption s.tuningPairs := by
  unfold tuningPairs
  repeat' apply allKeys_append
  all_goals exact allKeys_ofOption (by decide +kernel) _

theorem failoverPairs_keys (s : Settings) : AllKeys isFailoverOption s.failoverPairs :=
  allKeys_append (tuningPairs_keys s) (allKeys_optionsWhere s _)

theorem providerPairs_keys (s : Settings) : AllKeys isProviderOption s.providerPairs :=
  allKeys_optionsWhere s _

end Settings
end MessageBus
