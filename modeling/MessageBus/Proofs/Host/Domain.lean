/-
# Domain names in ASCII

Whatever a domain name is written with, it comes out in ASCII: a label beyond
ASCII is written with the basic characters that it has, a hyphen and digits.
And no character comes out that a name of a host may not hold.

Key definition: `Text.Ascii`.
Key theorems: `Punycode.ascii_encode`, `Domain.ascii_of_toAscii`,
`Domain.not_isForbidden_of_toAscii`, `Domain.toAscii_of_ascii`.
-/
import MessageBus.Host.Domain
import MessageBus.Proofs.Text

namespace MessageBus

def Text.Ascii (s : List Char) : Prop := ∀ c ∈ s, c.toNat < 0x80

instance (s : List Char) : Decidable (Text.Ascii s) :=
  List.decidableBAll (fun c : Char => c.toNat < 0x80) s

theorem Text.Ascii.append {s t : List Char} (hs : Ascii s) (ht : Ascii t) : Ascii (s ++ t) :=
  fun c hc => (List.mem_append.1 hc).elim (hs c) (ht c)

open Text

namespace Punycode

theorem toNat_digit_lt : ∀ n < 36, (digit n).toNat < 0x80 := by decide

theorem ascii_digits (bias place n : Nat) : Ascii (digits bias place n) := by
  have hpos := threshold_pos place bias
  have hle := threshold_le place bias
  intro c hc
  unfold digits at hc
  dsimp only at hc
  split at hc
  · rw [List.mem_singleton.1 hc]
    exact toNat_digit_lt n (by omega)
  · have hrest : (n - threshold place bias) % (36 - threshold place bias) <
        36 - threshold place bias := Nat.mod_lt _ (by omega)
    rcases List.mem_cons.1 hc with rfl | hc
    · exact toNat_digit_lt _ (by omega)
    · have hsmaller : (n - threshold place bias) / (36 - threshold place bias) ≤
          n - threshold place bias := Nat.div_le_self _ _
      exact ascii_digits bias (place + 36) _ c hc
termination_by n
decreasing_by omega

/-- Passing a code point writes digits at most. -/
theorem ascii_pass {e : Encoder} (h : Ascii e.written) (basic next code : Nat) :
    Ascii (e.pass basic next code).written := by
  unfold Encoder.pass
  split
  · exact h
  · split
    · exact h.append (ascii_digits _ _ _)
    · exact h

theorem ascii_foldl_pass (basic next : Nat) : ∀ (codes : List Nat) {e : Encoder}, Ascii e.written →
    Ascii (codes.foldl (Encoder.pass basic next) e).written
  | [], _, h => h
  | code :: codes, _, h => ascii_foldl_pass basic next codes (ascii_pass h basic next code)

theorem ascii_run (codes : List Nat) (basic : Nat) : ∀ (others : List Nat) (low : Nat) {e : Encoder},
    Ascii e.written → Ascii (Encoder.run codes basic others low e).written
  | [], _, _, h => h
  | next :: later, _, _, h => ascii_run codes basic later (next + 1) (ascii_foldl_pass basic next codes h)

/-- **The written form of a text is in ASCII.** -/
theorem ascii_encode (text : List Char) : Ascii (encode text) := by
  have hbasic : Ascii (text.filter fun c => c.toNat < 0x80) := fun c hc => by
    simpa using (List.mem_filter.1 hc).2
  refine ascii_run _ _ _ _ ?_
  dsimp only
  split
  · exact fun c hc => absurd hc List.not_mem_nil
  · exact hbasic.append (by decide)

end Punycode

namespace Domain

theorem ascii_writeLabel (label : List Char) : Ascii (writeLabel label) := by
  unfold writeLabel
  split
  · exact Ascii.append (by decide) (Punycode.ascii_encode label)
  · next h =>
    intro c hc
    simpa [isBeyondAscii] using fun hbeyond => h (List.any_eq_true.2 ⟨c, hc, hbeyond⟩)

section ToAscii

variable {name written : List Char} (h : toAscii name = .ok written)

include h

/-- **A domain name comes out in ASCII.** -/
theorem ascii_of_toAscii : Ascii written := by
  unfold toAscii at h
  dsimp only at h
  split at h
  · cases h
  · next labels _ =>
    split at h
    · cases h
      intro c hc
      rcases mem_of_mem_join hc with hdot | ⟨piece, hpiece, hc⟩
      · rw [List.mem_singleton.1 hdot]
        decide
      · obtain ⟨label, -, rfl⟩ := List.mem_map.1 hpiece
        exact ascii_writeLabel label c hc
    · cases h

/-- No character comes out that a name of a host may not hold. -/
theorem not_isForbidden_of_toAscii : ∀ c ∈ written, isForbidden c = false := by
  unfold toAscii at h
  dsimp only at h
  split at h
  · cases h
  · split at h
    · next hchecks =>
      cases h
      simp only [Bool.and_eq_true] at hchecks
      simpa using hchecks.1.2
    · cases h

end ToAscii

/-! ### Names that are in ASCII -/

theorem ascii_map_toLower {name : List Char} (h : Ascii name) : Ascii (name.map Char.toLower) := by
  have hlower : ∀ n < 0x80, (Char.ofNat n).toLower.toNat < 0x80 := by decide
  intro c hc
  obtain ⟨source, hsource, rfl⟩ := List.mem_map.1 hc
  rw [← Char.ofNat_toNat source]
  exact hlower _ (h source hsource)

/-- Mapping a name in ASCII puts its letters in lower case. -/
theorem mapped?_of_ascii {name : List Char} (h : Ascii name) :
    mapped? name = some (name.map Char.toLower) := by
  have hmap : ∀ name : List Char, Ascii name →
      name.mapM mapChar? = some (name.map fun c => [c.toLower]) := by
    intro name hname
    induction name with
    | nil => rfl
    | cons c rest ih =>
      have hc : mapChar? c = some [c.toLower] := if_pos (hname c List.mem_cons_self)
      rw [List.mapM_cons, hc, ih fun d hd => hname d (List.mem_cons_of_mem _ hd)]
      rfl
  have hflatten : (name.map fun c => [c.toLower]).flatten = name.map Char.toLower := by
    rw [← List.flatMap_def, ← List.map_eq_flatMap]
  rw [mapped?, hmap name h, Option.map_some, hflatten]

/-- Whether every code point of the ranges is beyond ASCII. -/
def BeyondAscii (ranges : CodeRanges) : Prop := (ranges.all fun range => Nat.ble 0x80 range.1) = true

theorem BeyondAscii.contains {ranges : CodeRanges} (h : BeyondAscii ranges) {code : Nat}
    (hcode : code < 0x80) : ranges.contains code = false := by
  refine List.any_eq_false.2 fun range hrange => ?_
  have hfirst : 0x80 ≤ range.1 := Nat.le_of_ble_eq_true (List.all_eq_true.1 h range hrange)
  simp only [Bool.and_eq_true, decide_eq_true_eq, not_and]
  omega

theorem beyondAscii_rightToLeftCodes : BeyondAscii rightToLeftCodes := by
  unfold BeyondAscii rightToLeftCodes CodeRanges.ofText Text.words
  -- the characters of the table, as a list that the kernel computes with
  rw [String.toList_ofList]
  decide +kernel

theorem beyondAscii_arabicNumberCodes : BeyondAscii arabicNumberCodes := by
  unfold BeyondAscii arabicNumberCodes CodeRanges.ofText Text.words
  rw [String.toList_ofList]
  decide +kernel

/-- No letter or digit within ASCII is written from right to left. -/
theorem hasRightToLeft_of_ascii {label : List Char} (h : Ascii label) :
    hasRightToLeft label = false := by
  refine List.any_eq_false.2 fun c hc => ?_
  have hletter := beyondAscii_rightToLeftCodes.contains (h c hc)
  have hdigit := beyondAscii_arabicNumberCodes.contains (h c hc)
  unfold direction
  simp only [hletter, hdigit, Bool.false_eq_true, if_false]
  split
  · decide
  · split
    · decide
    · split <;> decide

theorem any_isBeyondAscii_of_ascii {label : List Char} (h : Ascii label) :
    label.any isBeyondAscii = false := by
  refine List.any_eq_false.2 fun c hc => ?_
  have hc := h c hc
  simp only [isBeyondAscii, decide_eq_true_eq]
  omega

/-- Labels that are not marked stand for themselves. -/
theorem mapM_label? : ∀ {labels : List (List Char)},
    (∀ label ∈ labels, asciiMark.isPrefixOf label = false) → labels.mapM label? = some labels
  | [], _ => rfl
  | label :: labels, h => by
    have hlabel : label? label = some label := by
      rw [label?, h label List.mem_cons_self]
      rfl
    rw [List.mapM_cons, hlabel, mapM_label? fun other hmem => h other (List.mem_cons_of_mem _ hmem)]
    rfl

/-- **A name in ASCII comes out in lower case**, if no label of it is marked as written so. -/
theorem toAscii_of_ascii {name : List Char} (h : Ascii name)
    (hmark : ∀ label ∈ Text.cut '.' (name.map Char.toLower), asciiMark.isPrefixOf label = false)
    (hallowed : (name.map Char.toLower).any isForbidden = false) :
    toAscii name = .ok (name.map Char.toLower) := by
  have hlower : Ascii (name.map Char.toLower) := ascii_map_toLower h
  have hmapped := mapped?_of_ascii h
  generalize name.map Char.toLower = lower at hmark hallowed hlower hmapped ⊢
  have hlabels : ∀ label ∈ Text.cut '.' lower, Ascii label :=
    fun label hlabel c hc => hlower c (Text.mem_of_mem_cut hlabel hc)
  have hcomposed : Text.composed lower = lower := by
    refine if_pos (List.all_eq_true.2 fun c hc => ?_)
    have hc := hlower c hc
    simp only [decide_eq_true_eq]
    omega
  have hformed : ((Text.cut '.' lower).all fun label =>
      !label.any isBeyondAscii || wellFormed label) = true :=
    List.all_eq_true.2 fun label hlabel => by
      rw [any_isBeyondAscii_of_ascii (hlabels label hlabel)]
      rfl
  have hdirected : (Text.cut '.' lower).any hasRightToLeft = false :=
    List.any_eq_false.2 fun label hlabel => by
      simp [hasRightToLeft_of_ascii (hlabels label hlabel)]
  have hwritten : (Text.cut '.' lower).map writeLabel = Text.cut '.' lower :=
    (List.map_congr_left fun label hlabel => by
      rw [writeLabel, any_isBeyondAscii_of_ascii (hlabels label hlabel)]
      rfl).trans (List.map_id _)
  have hpieces : ((Text.cut '.' lower).any fun label => label.any isForbidden) = false :=
    List.any_eq_false.2 fun label hlabel hany => by
      obtain ⟨c, hc, hbad⟩ := List.any_eq_true.1 hany
      exact List.any_eq_false.1 hallowed c (Text.mem_of_mem_cut hlabel hc) hbad
  unfold toAscii
  rw [hmapped]
  simp only [Option.bind_some, hcomposed, mapM_label? hmark, hformed, hdirected, hwritten,
    Text.join_cut, hallowed, hpieces, Bool.not_false, Bool.true_or, Bool.and_self, if_true]

end Domain
end MessageBus
