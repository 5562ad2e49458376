/-
# IPv6 addresses read back

An address that was read has eight pieces of sixteen bits. Rendering writes
such pieces one after the other, with two colons for a run of zeros, and
reading goes through the text piece by piece: what it has gathered at a piece
are the pieces before it. At the end the zeros are filled in again.

Key definitions: `Ipv6.Bounded`, `Ipv6.Pieces.WellFormed`.
Key theorems: `Ipv6.parse_bounded`, `Ipv6.readPieces?_pieces`, `Ipv6.longestZeros_spec`,
`Ipv6.parse_render`.
-/
import MessageBus.Host.Ipv6
import MessageBus.Proofs.Text
import MessageBus.Proofs.Text.Hexadecimal

namespace MessageBus
namespace Ipv6

/-! ### What was read -/

/-- Pieces of sixteen bits. -/
def Bounded (pieces : List Nat) : Prop := ∀ piece ∈ pieces, piece < 0x10000

/-- Pieces of sixteen bits, for which there is place. -/
structure Pieces.WellFormed (p : Pieces) : Prop where
  before : Bounded p.before
  after : ∀ after ∈ p.after, Bounded after
  taken : p.taken ≤ 8

theorem Pieces.taken_add (p : Pieces) (piece : Nat) : (p.add piece).taken = p.taken + 1 := by
  unfold Pieces.add Pieces.taken
  cases p.after with
  | none => simp
  | some after =>
    simp only [List.length_append, List.length_singleton]
    omega

theorem Pieces.taken_foldl_add : ∀ (pieces : List Nat) (p : Pieces),
    (pieces.foldl Pieces.add p).taken = p.taken + pieces.length
  | [], _ => rfl
  | piece :: pieces, p => by
    rw [List.foldl_cons, taken_foldl_add pieces, p.taken_add, List.length_cons]
    omega

theorem bounded_append {pieces : List Nat} {piece : Nat} (h : Bounded pieces)
    (hpiece : piece < 0x10000) : Bounded (pieces ++ [piece]) := by
  intro other hother
  rcases List.mem_append.1 hother with hother | hother
  · exact h other hother
  · rwa [List.mem_singleton.1 hother]

/-- One more piece where there is place. -/
theorem Pieces.WellFormed.add {p : Pieces} (h : p.WellFormed) {piece : Nat}
    (hpiece : piece < 0x10000) (htaken : p.taken < 8) : (p.add piece).WellFormed := by
  have hplace : (p.add piece).taken ≤ 8 := by rw [p.taken_add]; omega
  obtain ⟨before, after⟩ := p
  cases after with
  | none => exact ⟨bounded_append h.before hpiece, h.after, hplace⟩
  | some after =>
    refine ⟨h.before, fun pieces hpieces => ?_, hplace⟩
    rw [← Option.mem_some.1 hpieces]
    exact bounded_append (h.after after rfl) hpiece

theorem Pieces.WellFormed.colons {p : Pieces} (h : p.WellFormed) (hnone : p.after = none)
    (htaken : p.taken < 8) : Pieces.WellFormed { p with after := some [] } where
  before := h.before
  after pieces hpieces := by
    rw [← Option.mem_some.1 hpieces]
    exact fun _ hmem => absurd hmem List.not_mem_nil
  taken := by
    simp only [Pieces.taken, hnone, List.length_nil] at htaken ⊢
    omega

theorem spanPiece_lt (s : List Char) : Text.hexNumber (spanPiece s).1 < 0x10000 := by
  have hlength : (spanPiece s).1.length ≤ 4 :=
    calc (spanPiece s).1.length
      _ ≤ (s.take 4).length := (List.takeWhile_prefix _).length_le
      _ ≤ 4 := List.length_take_le 4 s
  calc Text.hexNumber (spanPiece s).1
    _ < 16 ^ (spanPiece s).1.length := Text.hexNumber_lt _
    _ ≤ 16 ^ 4 := Nat.pow_le_pow_right (by decide) hlength

theorem readByte?_le {s rest : List Char} {byte : Nat} (h : readByte? s = some (byte, rest)) :
    byte ≤ 255 := by
  unfold readByte? at h
  dsimp only at h
  split at h
  · cases h
  · next hcheck =>
    cases h
    omega

/-- Four bytes are two pieces. -/
theorem readBytes?_eq {s : List Char} {pieces : List Nat} (h : readBytes? s = some pieces) :
    ∃ m < 0x10000, ∃ n < 0x10000, pieces = [m, n] := by
  unfold readBytes? at h
  obtain ⟨⟨a, _⟩, ha, h⟩ := Option.bind_eq_some_iff.1 h
  dsimp only at h
  split at h
  · obtain ⟨⟨b, _⟩, hb, h⟩ := Option.bind_eq_some_iff.1 h
    dsimp only at h
    split at h
    · obtain ⟨⟨c, _⟩, hc, h⟩ := Option.bind_eq_some_iff.1 h
      dsimp only at h
      split at h
      · obtain ⟨⟨d, _⟩, hd, h⟩ := Option.bind_eq_some_iff.1 h
        dsimp only at h
        have ha := readByte?_le ha
        have hb := readByte?_le hb
        have hc := readByte?_le hc
        have hd := readByte?_le hd
        split at h
        · exact ⟨a * 256 + b, by omega, c * 256 + d, by omega, (Option.some.inj h).symm⟩
        · cases h
      · cases h
    · cases h
  · cases h

/-- **Reading keeps to sixteen bits a piece, and to the place that there is.** -/
theorem readPieces?_wellFormed : ∀ {fuel : Nat} {p q : Pieces} {s : List Char}, p.WellFormed →
    readPieces? fuel p s = some q → q.WellFormed
  | 0, _, _, _, _, h => by cases h
  | fuel + 1, p, q, [], hp, h => by
    cases h
    exact hp
  | fuel + 1, p, q, c :: s, hp, h => by
    unfold readPieces? at h
    split at h
    · cases h
    · next hplace =>
      have htaken : p.taken < 8 := by omega
      split at h
      · split at h
        · cases h
        · next hnone =>
          exact readPieces?_wellFormed (hp.colons (by simpa using hnone) htaken) h
      · have hadd {digits rest : List Char} (hspan : spanPiece (c :: s) = (digits, rest)) :
            (p.add (Text.hexNumber digits)).WellFormed := by
          have hlt := spanPiece_lt (c :: s)
          rw [hspan] at hlt
          exact hp.add hlt htaken
        split at h
        · next digits hspan =>
          cases h
          exact hadd hspan
        · next digits rest hspan =>
          split at h
          · cases h
          · exact readPieces?_wellFormed (hadd hspan) h
        · cases h
        · split at h
          · cases h
          · next hroom =>
            obtain ⟨pieces, hbytes, hq⟩ := Option.map_eq_some_iff.1 h
            obtain ⟨m, hm, n, hn, rfl⟩ := readBytes?_eq hbytes
            have htaken' : (p.add m).taken < 8 := by rw [p.taken_add]; omega
            rw [← hq]
            exact (hp.add hm htaken).add hn htaken'
        · cases h

theorem Pieces.WellFormed.fill? {p : Pieces} (h : p.WellFormed) {address : List Nat}
    (hfill : p.fill? = some address) : address.length = 8 ∧ Bounded address := by
  obtain ⟨before, after⟩ := p
  cases after with
  | none =>
    unfold Pieces.fill? at hfill
    dsimp only at hfill
    split at hfill
    · next hlength =>
      cases hfill
      exact ⟨hlength, h.before⟩
    · cases hfill
  | some after =>
    obtain rfl := Option.some.inj hfill
    have htaken : before.length + (after.length + 1) ≤ 8 := h.taken
    refine ⟨?_, fun piece hpiece => ?_⟩
    · simp only [List.length_append, List.length_replicate]
      omega
    · rcases List.mem_append.1 hpiece with hpiece | hpiece
      · rcases List.mem_append.1 hpiece with hpiece | hpiece
        · exact h.before piece hpiece
        · rw [List.eq_of_mem_replicate hpiece]
          decide
      · exact h.after after rfl piece hpiece

/-- **An address that was read has eight pieces of sixteen bits.** -/
theorem parse_bounded {s : List Char} {address : List Nat} (h : parse s = .ok address) :
    address.length = 8 ∧ Bounded address := by
  have hblank {after : Option (List Nat)} (hafter : ∀ pieces ∈ after, pieces = []) :
      Pieces.WellFormed ⟨[], after⟩ := by
    refine ⟨fun _ hmem => absurd hmem List.not_mem_nil, fun pieces hpieces => ?_, ?_⟩
    · rw [hafter pieces hpieces]
      exact fun _ hmem => absurd hmem List.not_mem_nil
    · cases after with
      | none => exact Nat.zero_le 8
      | some pieces =>
        rw [hafter pieces rfl]
        decide
  unfold parse at h
  dsimp only at h
  split at h
  · next found hfound =>
    cases h
    obtain ⟨p, hread, hfill⟩ := Option.bind_eq_some_iff.1 hfound
    refine Pieces.WellFormed.fill? (p := p) ?_ hfill
    split at hread
    · exact readPieces?_wellFormed (hblank (by simp)) hread
    · cases hread
    · cases hread
    · exact readPieces?_wellFormed (hblank (by simp)) hread
  · cases h

/-! ### Reading what was rendered -/

/-- The digits of a piece, up to something that is no digit. -/
theorem spanPiece_toDigits {n : Nat} (hn : n < 0x10000) {rest : List Char}
    (hrest : ∀ c ∈ rest.head?, Text.hexDigit? c = none) :
    spanPiece (Nat.toDigits 16 n ++ rest) = (Nat.toDigits 16 n, rest) := by
  have hlength : (Nat.toDigits 16 n).length ≤ 4 :=
    (Nat.length_toDigits_le_iff (by decide) (by decide)).2 hn
  have hstop (k : Nat) : (rest.take k).takeWhile (fun c => (Text.hexDigit? c).isSome) = [] := by
    cases rest with
    | nil => simp
    | cons c rest =>
      cases k with
      | zero => simp
      | succ k => simp [hrest c rfl]
  have hdigits : ((Nat.toDigits 16 n ++ rest).take 4).takeWhile
      (fun c => (Text.hexDigit? c).isSome) = Nat.toDigits 16 n := by
    rw [List.take_append, List.take_of_length_le hlength,
      List.takeWhile_append_of_pos fun _ => Text.isSome_of_mem_toDigits, hstop, List.append_nil]
  unfold spanPiece
  rw [hdigits]
  simp

/-- A piece begins with a digit, not with a colon. -/
theorem exists_cons_toDigits (n : Nat) : ∃ c digits, Nat.toDigits 16 n = c :: digits ∧ c ≠ ':' := by
  obtain ⟨c, digits, hcons⟩ := List.exists_cons_of_ne_nil (Nat.toDigits_ne_nil (n := n) (b := 16))
  refine ⟨c, digits, hcons, fun hcolon => ?_⟩
  have hdigit : (Text.hexDigit? c).isSome = true :=
    Text.isSome_of_mem_toDigits (hcons ▸ List.mem_cons_self)
  rw [hcolon] at hdigit
  revert hdigit
  decide

section Reading

variable {fuel : Nat} {p : Pieces}

/-- Two colons after the pieces so far. -/
theorem readPieces?_colons (hnone : p.after = none) (hplace : p.taken < 8) (rest : List Char) :
    readPieces? (fuel + 1) p (':' :: rest) = readPieces? fuel { p with after := some [] } rest := by
  have hfull : ¬ 8 ≤ p.taken := by omega
  rw [readPieces?, if_neg hfull, hnone]
  rfl

theorem readPieces?_piece {n : Nat} (hn : n < 0x10000) (hplace : p.taken < 8) {rest : List Char}
    (hrest : rest ≠ []) : readPieces? (fuel + 1) p (Nat.toDigits 16 n ++ ':' :: rest) =
      readPieces? fuel (p.add n) rest := by
  have hspan : spanPiece (Nat.toDigits 16 n ++ ':' :: rest) = (Nat.toDigits 16 n, ':' :: rest) :=
    spanPiece_toDigits hn fun c hc => by
      obtain rfl := Option.some.inj hc
      decide
  have hfull : ¬ 8 ≤ p.taken := by omega
  obtain ⟨c, digits, hcons, hcolon⟩ := exists_cons_toDigits n
  rw [hcons, List.cons_append] at hspan ⊢
  rw [readPieces?, if_neg hfull, hspan]
  · show (if rest = [] then none else readPieces? fuel (p.add (Text.hexNumber (c :: digits))) rest) = _
    rw [if_neg hrest, ← hcons, Text.hexNumber_toDigits]
  · exact fun h => nomatch h
  · exact fun _ h => hcolon (List.cons.inj h).1

theorem readPieces?_last {n : Nat} (hn : n < 0x10000) (hplace : p.taken < 8) :
    readPieces? (fuel + 1) p (Nat.toDigits 16 n) = some (p.add n) := by
  have hspan : spanPiece (Nat.toDigits 16 n) = (Nat.toDigits 16 n, []) := by
    have hends : spanPiece (Nat.toDigits 16 n ++ []) = (Nat.toDigits 16 n, []) :=
      spanPiece_toDigits hn fun _ hc => nomatch hc
    rwa [List.append_nil] at hends
  have hfull : ¬ 8 ≤ p.taken := by omega
  obtain ⟨c, digits, hcons, hcolon⟩ := exists_cons_toDigits n
  rw [hcons] at hspan ⊢
  rw [readPieces?, if_neg hfull, hspan]
  · dsimp only
    rw [← hcons, Text.hexNumber_toDigits]
  · exact fun h => nomatch h
  · exact fun _ h => hcolon (List.cons.inj h).1

/-- Pieces, each before a colon. -/
theorem readPieces?_pieces {rest : List Char} (hrest : rest ≠ []) :
    ∀ {pieces : List Nat} {p : Pieces}, Bounded pieces → p.taken + pieces.length ≤ 8 →
      readPieces? (pieces.length + fuel) p
          (pieces.flatMap (fun n => Nat.toDigits 16 n ++ [':']) ++ rest) =
        readPieces? fuel (pieces.foldl Pieces.add p) rest
  | [], p, _, _ => by simp
  | n :: pieces, p, hpieces, hplace => by
    have hn : n < 0x10000 := hpieces n List.mem_cons_self
    have hlater : Bounded pieces := fun m hm => hpieces m (List.mem_cons_of_mem _ hm)
    rw [List.length_cons] at hplace
    have hplace' : (p.add n).taken + pieces.length ≤ 8 := by rw [p.taken_add]; omega
    have hne : pieces.flatMap (fun n => Nat.toDigits 16 n ++ [':']) ++ rest ≠ [] := by simp [hrest]
    have hfuel : (n :: pieces).length + fuel = pieces.length + fuel + 1 := by
      rw [List.length_cons]
      omega
    have htext : (n :: pieces).flatMap (fun n => Nat.toDigits 16 n ++ [':']) ++ rest =
        Nat.toDigits 16 n ++
          ':' :: (pieces.flatMap (fun n => Nat.toDigits 16 n ++ [':']) ++ rest) := by
      simp
    rw [hfuel, htext, readPieces?_piece hn (by omega) hne, List.foldl_cons]
    exact readPieces?_pieces hrest hlater hplace'

theorem renderPieces_concat (pieces : List Nat) (n : Nat) : renderPieces (pieces ++ [n]) =
    pieces.flatMap (fun n => Nat.toDigits 16 n ++ [':']) ++ Nat.toDigits 16 n := by
  unfold renderPieces
  rw [List.map_append, List.map_singleton, Text.join_append_cons]
  simp [List.flatMap_map]

/-- Rendered pieces before two colons are pieces each before a colon, and one colon more. -/
theorem renderPieces_colons {pieces : List Nat} (h : pieces ≠ []) (rest : List Char) :
    renderPieces pieces ++ [':', ':'] ++ rest =
      pieces.flatMap (fun n => Nat.toDigits 16 n ++ [':']) ++ ':' :: rest := by
  obtain ⟨before, n, rfl⟩ : ∃ before n, pieces = before ++ [n] := by
    simpa [h] using pieces.eq_nil_or_concat
  rw [renderPieces_concat]
  simp

/-- **Rendered pieces are read up to the end of the text.** -/
theorem readPieces?_renderPieces {pieces : List Nat} (hpieces : Bounded pieces)
    (hplace : p.taken + pieces.length ≤ 8) :
    readPieces? (pieces.length + (fuel + 1)) p (renderPieces pieces) =
      some (pieces.foldl Pieces.add p) := by
  obtain rfl | ⟨before, n, rfl⟩ : pieces = [] ∨ ∃ before n, pieces = before ++ [n] := by
    simpa using pieces.eq_nil_or_concat
  · rfl
  · have hbefore : Bounded before := fun m hm => hpieces m (List.mem_append_left _ hm)
    have hn : n < 0x10000 := hpieces n (List.mem_append_right _ List.mem_cons_self)
    rw [List.length_append, List.length_singleton] at hplace
    have hlast : (before.foldl Pieces.add p).taken < 8 := by
      rw [Pieces.taken_foldl_add]
      omega
    have hfuel : (before ++ [n]).length + (fuel + 1) = before.length + (fuel + 1 + 1) := by
      rw [List.length_append, List.length_singleton]
      omega
    rw [hfuel, renderPieces_concat, readPieces?_pieces (Nat.toDigits_ne_nil) hbefore (by omega),
      readPieces?_last hn hlast, List.foldl_append, List.foldl_cons, List.foldl_nil]

end Reading

/-! ### Zeros -/

/-- The run of zeros that rendering leaves out, with what stands on either side. -/
theorem longestZeros_spec : ∀ pieces : List Nat, ∃ before after,
    pieces = before ++ List.replicate (longestZeros pieces).2 0 ++ after ∧
      (longestZeros pieces).1 = before.length
  | [] => ⟨[], [], rfl, rfl⟩
  | piece :: rest => by
    obtain ⟨before, after, hsplit, hposition⟩ := longestZeros_spec rest
    unfold longestZeros
    dsimp only
    split
    · refine ⟨[], (piece :: rest).dropWhile (· = 0), ?_, rfl⟩
      have hzeros : (piece :: rest).takeWhile (· = 0) =
          List.replicate (leadingZeros (piece :: rest)) 0 :=
        List.eq_replicate_of_mem fun other hother => by
          simpa using List.mem_takeWhile_imp hother
      rw [List.nil_append, ← hzeros, List.takeWhile_append_dropWhile]
    · refine ⟨piece :: before, after, ?_, ?_⟩
      · rw [List.cons_append, List.cons_append, ← hsplit]
      · rw [hposition, List.length_cons]

theorem foldl_add_none : ∀ (pieces before : List Nat),
    pieces.foldl Pieces.add ⟨before, none⟩ = ⟨before ++ pieces, none⟩
  | [], before => by simp
  | piece :: pieces, before => by
    rw [List.foldl_cons, Pieces.add, foldl_add_none pieces]
    simp

theorem foldl_add_some : ∀ (pieces before after : List Nat),
    pieces.foldl Pieces.add ⟨before, some after⟩ = ⟨before, some (after ++ pieces)⟩
  | [], before, after => by simp
  | piece :: pieces, before, after => by
    rw [List.foldl_cons, Pieces.add, foldl_add_some pieces]
    simp

/-! ### Addresses -/

theorem length_le_length_flatMap : ∀ pieces : List Nat,
    pieces.length ≤ (pieces.flatMap fun n => Nat.toDigits 16 n ++ [':']).length
  | [] => Nat.le_refl 0
  | n :: pieces => by
    have ih := length_le_length_flatMap pieces
    simp only [List.flatMap_cons, List.length_append, List.length_cons, List.length_nil]
    omega

theorem length_le_length_renderPieces (pieces : List Nat) :
    pieces.length ≤ (renderPieces pieces).length := by
  obtain rfl | ⟨before, n, rfl⟩ : pieces = [] ∨ ∃ before n, pieces = before ++ [n] := by
    simpa using pieces.eq_nil_or_concat
  · exact Nat.le_refl 0
  · have hbefore := length_le_length_flatMap before
    have hlast : 0 < (Nat.toDigits 16 n).length := Nat.length_toDigits_pos
    rw [renderPieces_concat, List.length_append, List.length_append, List.length_singleton]
    omega

section Parse

variable {p : Pieces} {address : List Nat} (hfill : p.fill? = some address)

include hfill

/-- An address that begins with a piece before a colon. -/
theorem parse_of_piece {s rest : List Char} {n : Nat} (hs : s = Nat.toDigits 16 n ++ ':' :: rest)
    (hread : readPieces? (s.length + 1) ⟨[], none⟩ s = some p) : parse s = .ok address := by
  obtain ⟨c, digits, hcons, hcolon⟩ := exists_cons_toDigits n
  rw [hcons, List.cons_append] at hs
  subst hs
  unfold parse
  split
  · next h => exact absurd (List.cons.inj h).1 hcolon
  · next h => exact absurd (List.cons.inj h).1 hcolon
  · next h => exact absurd (List.cons.inj h).2 (by simp)
  · have hbind : (some p >>= Pieces.fill?) = some address := hfill
    dsimp only
    rw [hread, hbind]

/-- An address that begins with two colons. -/
theorem parse_of_colons {rest : List Char}
    (hread : readPieces? ((':' :: ':' :: rest).length + 1) ⟨[], some []⟩ rest = some p) :
    parse (':' :: ':' :: rest) = .ok address := by
  have hbind : (some p >>= Pieces.fill?) = some address := hfill
  unfold parse
  split
  · next h =>
    cases h
    dsimp only
    rw [hread, hbind]
  · next hcolons h => exact absurd (List.cons.inj h).2.symm (hcolons rest)
  · next h => cases h
  · next hcolons _ _ => exact absurd rfl (hcolons rest)

end Parse

/-- Eight pieces, all of them written. -/
theorem parse_renderPieces {address : List Nat} (hlength : address.length = 8)
    (hbounded : Bounded address) : parse (renderPieces address) = .ok address := by
  have hfill : Pieces.fill? ⟨address, none⟩ = some address := if_pos hlength
  have hplace : (⟨[], none⟩ : Pieces).taken + address.length ≤ 8 := by
    rw [hlength]
    decide
  obtain ⟨rest, n, htext⟩ : ∃ rest n,
      renderPieces address = Nat.toDigits 16 n ++ ':' :: rest := by
    match address, hlength with
    | n :: m :: later, _ => exact ⟨renderPieces (m :: later), n, by simp [renderPieces, Text.join]⟩
  obtain ⟨spare, hspare⟩ := Nat.exists_eq_add_of_le (length_le_length_renderPieces address)
  refine parse_of_piece hfill htext ?_
  rw [hspare, Nat.add_assoc, readPieces?_renderPieces hbounded hplace, foldl_add_none,
    List.nil_append]

/-- Eight pieces, a run of zeros among them left out. -/
theorem parse_elided {before after : List Nat} {count : Nat} (hcount : 2 ≤ count)
    (hlength : before.length + count + after.length = 8) (hbefore : Bounded before)
    (hafter : Bounded after) :
    parse (renderPieces before ++ [':', ':'] ++ renderPieces after) =
      .ok (before ++ List.replicate count 0 ++ after) := by
  have hfill : Pieces.fill? ⟨before, some after⟩ =
      some (before ++ List.replicate count 0 ++ after) := by
    have hzeros : 8 - before.length - after.length = count := by omega
    show some (before ++ List.replicate (8 - before.length - after.length) 0 ++ after) = _
    rw [hzeros]
  have hplace : (⟨before, some []⟩ : Pieces).taken + after.length ≤ 8 := by
    show before.length + (0 + 1) + after.length ≤ 8
    omega
  -- two colons at the start are read apart from the others
  obtain rfl | ⟨front, n, rfl⟩ : before = [] ∨ ∃ front n, before = front ++ [n] := by
    simpa using before.eq_nil_or_concat
  · have htext : renderPieces [] ++ [':', ':'] ++ renderPieces after =
        ':' :: ':' :: renderPieces after := rfl
    rw [htext]
    refine parse_of_colons hfill ?_
    obtain ⟨spare, hspare⟩ := Nat.exists_eq_add_of_le (length_le_length_renderPieces after)
    have hfuel : (':' :: ':' :: renderPieces after).length + 1 =
        after.length + (spare + 2 + 1) := by
      rw [List.length_cons, List.length_cons, hspare]
      omega
    rw [hfuel, readPieces?_renderPieces hafter hplace, foldl_add_some, List.nil_append]
  · have hfront : front ++ [n] ≠ [] := by simp
    generalize front ++ [n] = before at *
    rw [renderPieces_colons hfront]
    obtain ⟨first, later, hfirst⟩ := List.exists_cons_of_ne_nil hfront
    have htext : before.flatMap (fun n => Nat.toDigits 16 n ++ [':']) ++ ':' :: renderPieces after =
        Nat.toDigits 16 first ++ ':' :: (later.flatMap (fun n => Nat.toDigits 16 n ++ [':']) ++
          ':' :: renderPieces after) := by simp [hfirst]
    refine parse_of_piece hfill htext ?_
    obtain ⟨spare, hspare⟩ := Nat.exists_eq_add_of_le (length_le_length_flatMap before)
    obtain ⟨spare', hspare'⟩ := Nat.exists_eq_add_of_le (length_le_length_renderPieces after)
    have hfuel : (before.flatMap (fun n => Nat.toDigits 16 n ++ [':']) ++
        ':' :: renderPieces after).length + 1 =
          before.length + (after.length + (spare + spare' + 1) + 1) := by
      rw [List.length_append, List.length_cons, hspare, hspare']
      omega
    have hroom : (⟨[], none⟩ : Pieces).taken + before.length ≤ 8 := by
      show 0 + 0 + before.length ≤ 8
      omega
    have hroom' : (⟨before, none⟩ : Pieces).taken < 8 := by
      show before.length + 0 < 8
      omega
    rw [hfuel, readPieces?_pieces (List.cons_ne_nil _ _) hbefore hroom, foldl_add_none,
      List.nil_append, readPieces?_colons rfl hroom', readPieces?_renderPieces hafter hplace,
      foldl_add_some, List.nil_append]

/-- **An address is read from its text.** -/
theorem parse_render {address : List Nat} (hlength : address.length = 8)
    (hbounded : Bounded address) : parse (render address) = .ok address := by
  obtain ⟨before, after, hsplit, hposition⟩ := longestZeros_spec address
  unfold render
  dsimp only
  rw [hposition]
  generalize (longestZeros address).2 = count at hsplit ⊢
  subst hsplit
  split
  · exact parse_renderPieces hlength hbounded
  · next hcount =>
    have htake : (before ++ List.replicate count 0 ++ after).take before.length = before := by simp
    have hdrop : (before ++ List.replicate count 0 ++ after).drop (before.length + count) = after := by
      simp
    rw [List.length_append, List.length_append, List.length_replicate] at hlength
    rw [htake, hdrop]
    exact parse_elided (by omega) hlength
      (fun piece hmem => hbounded piece (List.mem_append_left _ (List.mem_append_left _ hmem)))
      fun piece hmem => hbounded piece (List.mem_append_right _ hmem)

/-- A rendered address is made of digits and colons. -/
theorem mem_render {address : List Nat} {c : Char} (h : c ∈ render address) :
    c = ':' ∨ ∃ d < 16, c = d.digitChar := by
  have hpieces {pieces : List Nat} (hc : c ∈ renderPieces pieces) :
      c = ':' ∨ ∃ d < 16, c = d.digitChar := by
    rcases Text.mem_of_mem_join hc with hcolon | ⟨digits, hdigits, hc⟩
    · exact .inl (List.mem_singleton.1 hcolon)
    · obtain ⟨piece, -, rfl⟩ := List.mem_map.1 hdigits
      exact .inr (Text.exists_of_mem_toDigits (by decide) piece hc)
  unfold render at h
  dsimp only at h
  split at h
  · exact hpieces h
  · rcases List.mem_append.1 h with h | h
    · rcases List.mem_append.1 h with h | h
      · exact hpieces h
      · exact .inl (by simpa using h)
    · exact hpieces h

end Ipv6
end MessageBus
