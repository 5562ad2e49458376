/-
# Lower-case forms stay as they are

Lower-casing changes the capital letters of ASCII, the dotted capital I, the
capital sigma and the letters of the table. What it puts in their place is
none of these, so a second time it finds nothing to change.

That is a fact about the table, checked for every two of its runs by their ends
alone (`imagesAvoid`): the images of the one lie before the code points of the
other, after them, or in the gaps between every two of them.

Key definitions: `CodeRun.Holds`, `Text.Lowercase.changing`, `Text.Lowercase.Settled`.
Key theorems: `Text.Lowercase.changing_avoid`, `Text.lowercase_lowercase`.
-/
import MessageBus.Text.Lowercase

namespace MessageBus

/-! ### Runs -/

namespace CodeRun

/-- A run holds every code point that it gives an image. -/
def Holds (run : CodeRun) (code : Nat) : Prop :=
  run.first ≤ code ∧ code ≤ run.last ∧ (code - run.first) % run.step = 0

/-- Whether no image of a run is held by another. -/
def imagesAvoid (run other : CodeRun) : Bool :=
  (run.image + (run.last - run.first)).blt other.first || other.last.blt run.image ||
    ((run.first == run.last || run.step == 2) && other.step == 2 &&
      run.image % 2 != other.first % 2)

theorem not_holds_image {run other : CodeRun} (h : run.imagesAvoid other = true) {code : Nat}
    (hcode : run.Holds code) : ¬ other.Holds (run.image + (code - run.first)) := by
  obtain ⟨hfirst, hlast, hstep⟩ := hcode
  rintro ⟨hfirst', hlast', hstep'⟩
  simp only [imagesAvoid, Bool.or_eq_true, Bool.and_eq_true, Nat.blt_eq, beq_iff_eq,
    bne_iff_ne] at h
  rcases h with (hbefore | hafter) | ⟨⟨hrun, hother⟩, hparity⟩
  · omega
  · omega
  · -- the images and the code points of the other run are of different parity
    rw [hother] at hstep'
    rcases hrun with hsingle | htwo
    · omega
    · rw [htwo] at hstep
      omega

end CodeRun

namespace CodeRuns

theorem image?_eq_some {runs : CodeRuns} {code image : Nat} (h : runs.image? code = some image) :
    ∃ run ∈ runs, run.Holds code ∧ image = run.image + (code - run.first) := by
  obtain ⟨run, hfind, rfl⟩ := Option.map_eq_some_iff.1 h
  have hholds := List.find?_some hfind
  simp only [Bool.and_eq_true, decide_eq_true_eq, beq_iff_eq] at hholds
  exact ⟨run, List.mem_of_find?_eq_some hfind, ⟨hholds.1.1, hholds.1.2, hholds.2⟩, rfl⟩

theorem image?_eq_none_iff {runs : CodeRuns} {code : Nat} :
    runs.image? code = none ↔ ∀ run ∈ runs, ¬ run.Holds code := by
  unfold image?
  rw [Option.map_eq_none_iff, List.find?_eq_none]
  simp only [Bool.and_eq_true, decide_eq_true_eq, beq_iff_eq, and_assoc, CodeRun.Holds]

end CodeRuns

namespace Text
namespace Lowercase

/-! ### What lower-casing changes -/

/-- The capital letters of ASCII. -/
def capitals : CodeRun := ⟨0x41, 0x5A, 1, 0x61⟩

/-- The dotted capital I, with the dot that is put after an i. -/
def dottedCapital : CodeRun := ⟨0x130, 0x130, 1, 0x307⟩

/-- The capital sigma, at the end of a word. -/
def finalSigma : CodeRun := ⟨0x3A3, 0x3A3, 1, 0x3C2⟩

/-- The capital sigma elsewhere. -/
def innerSigma : CodeRun := ⟨0x3A3, 0x3A3, 1, 0x3C3⟩

/-- Runs of all code points that lower-casing changes. -/
def changing : CodeRuns := capitals :: dottedCapital :: finalSigma :: innerSigma :: runs

/-- Whether a run is beyond ASCII, or that of the capital letters. -/
def placed (run : CodeRun) : Bool :=
  Nat.ble 0x80 run.first || (run.first == capitals.first && run.last == capitals.last)

/-- **What lower-casing puts in the place of a character it does not change**, and within
ASCII it only changes the capital letters. -/
theorem changing_avoid :
    (changing.all fun run => placed run && changing.all run.imagesAvoid) = true := by
  unfold changing runs CodeRuns.ofText Text.words
  -- the characters of the table, as a list that the kernel computes with
  rw [String.toList_ofList]
  decide +kernel

/-- A character that lower-casing leaves alone. -/
def Settled (c : Char) : Prop := ∀ run ∈ changing, ¬ run.Holds c.toNat

/-- Within ASCII all but the capital letters are left alone. -/
theorem settled_of_ascii {c : Char} (h : c.toNat < 0x80)
    (hcapital : c.toNat < 0x41 ∨ 0x5A < c.toNat) : Settled c := by
  rintro run hmem ⟨hfirst, hlast, -⟩
  have hplaced := (Bool.and_eq_true_iff.1 (List.all_eq_true.1 changing_avoid run hmem)).1
  simp only [placed, capitals, Bool.or_eq_true, Bool.and_eq_true, Nat.ble_eq, beq_iff_eq]
    at hplaced
  omega

/-- An image under one of the runs is left alone. -/
theorem settled_image {run : CodeRun} (hmem : run ∈ changing) {code : Nat} (h : run.Holds code)
    {c : Char} (hc : c.toNat = run.image + (code - run.first)) : Settled c := by
  intro other hother
  have hall := (Bool.and_eq_true_iff.1 (List.all_eq_true.1 changing_avoid run hmem)).2
  rw [hc]
  exact CodeRun.not_holds_image (List.all_eq_true.1 hall other hother) h

/-! ### Characters -/

theorem toNat_ofNat (code : Nat) :
    (Char.ofNat code).toNat = code ∨ Char.ofNat code = '\x00' := by
  by_cases hvalid : code.isValidChar
  · left
    rw [Char.ofNat, dif_pos hvalid]
    rfl
  · right
    rw [Char.ofNat, dif_neg hvalid]
    rfl

/-- Lower-casing within ASCII gives no capital letter. -/
theorem toLower_ascii : ∀ code < 0x80, (Char.ofNat code).toLower.toNat < 0x80 ∧
    ((Char.ofNat code).toLower.toNat < 0x41 ∨ 0x5A < (Char.ofNat code).toLower.toNat) ∧
    (code < 0x41 ∨ 0x5A < code → (Char.ofNat code).toLower = Char.ofNat code) := by
  decide

theorem ofChar_of_settled {c : Char} (h : Settled c) (before after : List Char) :
    ofChar before c after = [c] := by
  have hdotted : c ≠ '\u0130' := by
    rintro rfl
    exact h dottedCapital (by simp [changing]) ⟨by decide, by decide, by decide⟩
  have hsigma : c ≠ '\u03A3' := by
    rintro rfl
    exact h finalSigma (by simp [changing]) ⟨by decide, by decide, by decide⟩
  unfold ofChar
  by_cases hascii : c.toNat < 0x80
  · have hcapital : ¬ capitals.Holds c.toNat := h capitals (by simp [changing])
    have houtside : c.toNat < 0x41 ∨ 0x5A < c.toNat := by
      rcases Nat.lt_or_ge c.toNat 0x41 with hbefore | hfirst
      · exact .inl hbefore
      · exact .inr (Nat.lt_of_not_ge fun hlast => hcapital ⟨hfirst, hlast, Nat.mod_one _⟩)
    have hlower := (toLower_ascii c.toNat hascii).2.2 houtside
    rw [Char.ofNat_toNat] at hlower
    rw [if_pos hascii, hlower]
  · have himage : runs.image? c.toNat = none :=
      CodeRuns.image?_eq_none_iff.2 fun run hmem => h run (by simp [changing, hmem])
    rw [if_neg hascii, if_neg hdotted, if_neg hsigma, himage]

/-- A character of no run is left alone beyond ASCII, the two exceptions apart. -/
theorem settled_of_unchanged {c : Char} (hascii : 0x80 ≤ c.toNat) (hdotted : c ≠ '\u0130')
    (hsigma : c ≠ '\u03A3') (hnone : runs.image? c.toNat = none) : Settled c := by
  have hsingle : ∀ d : Char, d.toNat ≤ c.toNat ∧ c.toNat ≤ d.toNat → c = d := fun d hd =>
    Char.toNat_inj.1 (Nat.le_antisymm hd.2 hd.1)
  intro run hmem hholds
  simp only [changing, List.mem_cons] at hmem
  rcases hmem with rfl | rfl | rfl | rfl | hmem
  · have hlast : c.toNat ≤ 0x5A := hholds.2.1
    omega
  · exact hdotted (hsingle _ ⟨hholds.1, hholds.2.1⟩)
  · exact hsigma (hsingle _ ⟨hholds.1, hholds.2.1⟩)
  · exact hsigma (hsingle _ ⟨hholds.1, hholds.2.1⟩)
  · exact CodeRuns.image?_eq_none_iff.1 hnone run hmem hholds

/-- **What a character becomes is left alone.** -/
theorem settled_of_mem_ofChar {before after : List Char} {c d : Char}
    (h : d ∈ ofChar before c after) : Settled d := by
  unfold ofChar at h
  split at h
  · next hascii =>
    obtain ⟨hlt, hcapital, -⟩ := toLower_ascii c.toNat hascii
    rw [Char.ofNat_toNat] at hlt hcapital
    rw [List.mem_singleton.1 h]
    exact settled_of_ascii hlt hcapital
  · split at h
    · rcases List.mem_cons.1 h with rfl | h
      · exact settled_of_ascii (by decide) (by decide)
      · rw [List.mem_singleton.1 h]
        have hholds : dottedCapital.Holds 0x130 := ⟨by decide, by decide, by decide⟩
        exact settled_image (by simp [changing]) hholds rfl
    · split at h
      · rw [List.mem_singleton.1 h]
        split
        · have hholds : finalSigma.Holds 0x3A3 := ⟨by decide, by decide, by decide⟩
          exact settled_image (by simp [changing]) hholds rfl
        · have hholds : innerSigma.Holds 0x3A3 := ⟨by decide, by decide, by decide⟩
          exact settled_image (by simp [changing]) hholds rfl
      · next hdotted hsigma =>
        split at h
        · next image himage =>
          obtain ⟨run, hmem, hholds, rfl⟩ := CodeRuns.image?_eq_some himage
          rw [List.mem_singleton.1 h]
          rcases toNat_ofNat (run.image + (c.toNat - run.first)) with hvalid | hnull
          · exact settled_image (by simp [changing, hmem]) hholds hvalid
          · rw [hnull]
            exact settled_of_ascii (by decide) (by decide)
        · next hnone =>
          rw [List.mem_singleton.1 h]
          exact settled_of_unchanged (by omega) hdotted hsigma hnone

/-! ### Texts -/

theorem after_of_settled : ∀ {s : List Char}, (∀ c ∈ s, Settled c) → ∀ before : List Char,
    after before s = s
  | [], _, _ => rfl
  | c :: rest, h, before => by
    have hhead : ofChar before c rest = [c] :=
      ofChar_of_settled (h c List.mem_cons_self) before rest
    have htail : after (c :: before) rest = rest :=
      after_of_settled (fun d hd => h d (List.mem_cons_of_mem _ hd)) (c :: before)
    rw [after, hhead, htail, List.singleton_append]

theorem settled_of_mem_after {d : Char} : ∀ {s before : List Char}, d ∈ after before s → Settled d
  | c :: rest, before, h => by
    unfold after at h
    rcases List.mem_append.1 h with h | h
    · exact settled_of_mem_ofChar h
    · exact settled_of_mem_after h

end Lowercase

/-- **A lower-case form is its own lower-case form.** -/
theorem lowercase_lowercase (s : String) : lowercase (lowercase s) = lowercase s := by
  have hsettled : ∀ c ∈ Lowercase.after [] s.toList, Lowercase.Settled c :=
    fun _ => Lowercase.settled_of_mem_after
  rw [lowercase, lowercase, String.toList_ofList, Lowercase.after_of_settled hsettled]

end Text
end MessageBus
