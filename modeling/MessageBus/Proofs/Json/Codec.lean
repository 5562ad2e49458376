/-
# What the codecs write they read back

Every codec of a settings document takes its value from the text that it
writes, and leaves whatever follows: the comma or the bracket after a value,
or nothing. Lists and objects inherit this from their parts; of an object it
is enough that each member, in its order, takes one state to the next
(`Absorbs`).

Key definitions: `Codec.RoundTrips`, `Opens`, `Absorbs`.
Key theorems: `readTextBody_escaped`, `list_roundTrips`, `readMembers_of_absorbs`,
`dictionary_roundTrips`.
-/
import MessageBus.Proofs.Dictionary
import MessageBus.Proofs.Json.Number
import MessageBus.Proofs.Text

namespace MessageBus
namespace Json

variable {α σ : Type}

/-- What may follow a value: nothing, or a comma or a closing bracket. -/
def EndsValue (rest : List Char) : Prop := ∀ c ∈ rest.head?, c = ',' ∨ c = ']' ∨ c = '\x7d'

/-- A text that is neither blank at its front, nor the end of a list, nor `null`. -/
def Opens (text : List Char) : Prop :=
  ∃ c rest, text = c :: rest ∧ isSpace c = false ∧ c ≠ ']' ∧ c ≠ 'n'

/-- A codec takes a value from the text that it writes for it. -/
def Codec.RoundTrips (codec : Codec α) (value : α) : Prop :=
  ∀ rest, EndsValue rest → codec.read (codec.write value ++ rest) = .ok (value, rest)

theorem EndsValue.endsNumber {rest : List Char} (h : EndsValue rest) : EndsNumber rest := by
  intro c hc
  rcases h c hc with rfl | rfl | rfl <;> decide

theorem skipSpace_cons {c : Char} (h : isSpace c = false) (rest : List Char) :
    skipSpace (c :: rest) = c :: rest := by
  simp [skipSpace, h]

theorem Opens.append {text : List Char} (h : Opens text) (rest : List Char) :
    Opens (text ++ rest) := by
  obtain ⟨c, t, rfl, hs, hb, hn⟩ := h
  exact ⟨c, t ++ rest, rfl, hs, hb, hn⟩

/-! ### Strings -/

theorem hexUnit?_control : ∀ n < 32,
    hexUnit? '0' '0' (hexDigit (n / 16)) (hexDigit (n % 16)) = some n := by
  decide

theorem readTextBody_quote (rest : List Char) : readTextBody ('"' :: rest) = .ok ([], rest) := by
  rw [readTextBody.eq_def]
  rfl

theorem readTextBody_short {e c : Char} (h : shortEscape? e = some c) (rest : List Char) :
    readTextBody ('\\' :: e :: rest) = prepend c (readTextBody rest) := by
  have hu : e ≠ 'u' := by
    rintro rfl
    cases h
  rw [readTextBody.eq_def]
  simp [hu, h]

theorem readTextBody_control {c : Char} (h : c.toNat < 0x20) (rest : List Char) :
    readTextBody
        ('\\' :: 'u' :: '0' :: '0' :: hexDigit (c.toNat / 16) :: hexDigit (c.toNat % 16) :: rest) =
      prepend c (readTextBody rest) := by
  have hunit := hexUnit?_control c.toNat h
  have htrail : isTrail c.toNat = false := by
    simp only [isTrail, Bool.and_eq_false_iff, decide_eq_false_iff_not]
    omega
  have hlead : isLead c.toNat = false := by
    simp only [isLead, Bool.and_eq_false_iff, decide_eq_false_iff_not]
    omega
  rw [readTextBody.eq_def]
  simp [hunit, htrail, hlead, Char.ofNat_toNat]

theorem readTextBody_plain {c : Char} (hquote : c ≠ '"') (hback : c ≠ '\\')
    (hlow : ¬ c.toNat < 0x20) (rest : List Char) :
    readTextBody (c :: rest) = prepend c (readTextBody rest) := by
  rw [readTextBody.eq_def]
  simp [hquote, hback, hlow]

/-- A character is read from the way in which it stands in a string. -/
theorem readTextBody_escapeChar (c : Char) (rest : List Char) :
    readTextBody (escapeChar c ++ rest) = prepend c (readTextBody rest) := by
  unfold escapeChar
  split
  case h_8 hquote hback _ _ _ _ _ =>
    split
    · next hlow => exact readTextBody_control hlow rest
    · next hlow => exact readTextBody_plain hquote hback hlow rest
  all_goals exact readTextBody_short rfl rest

/-- **A string is read from its escaped characters and the closing quote.** -/
theorem readTextBody_escaped (rest : List Char) : ∀ s : List Char,
    readTextBody (s.flatMap escapeChar ++ '"' :: rest) = .ok (s, rest)
  | [] => readTextBody_quote rest
  | c :: s => by
    rw [List.flatMap_cons, List.append_assoc, readTextBody_escapeChar, readTextBody_escaped rest s]
    rfl

theorem writeString_append (s : String) (rest : List Char) :
    writeString s ++ rest = '"' :: (s.toList.flatMap escapeChar ++ '"' :: rest) := by
  simp [writeString]

theorem readString_writeString (s : String) (rest : List Char) :
    readString (s.toList.flatMap escapeChar ++ '"' :: rest) = .ok (s, rest) := by
  rw [readString, readTextBody_escaped]
  simp [Except.map]

theorem textAs_roundTrips (expected : String) (s : String) : (textAs expected).RoundTrips s := by
  intro rest _
  simp only [textAs, writeString_append, readBy, skipSpace_cons (show isSpace '"' = false by decide),
    if_true, readString_writeString]

theorem opens_writeString (s : String) : Opens (writeString s) :=
  ⟨'"', _, rfl, by decide, by decide, by decide⟩

/-! ### Numbers and truth values -/

theorem skipSpace_append {s more : List Char} {c : Char} (h : skipSpace s = c :: more)
    (rest : List Char) : skipSpace (s ++ rest) = c :: (more ++ rest) := by
  unfold skipSpace at h ⊢
  rw [List.dropWhile_append, h]
  rfl

/-- Reading a number ends where the number ends. -/
theorem readNumber_append {expected : String} {accept : Value → Except Problem α}
    {s rest : List Char} {value : α} (h : readNumber expected accept s = .ok (value, []))
    (hr : EndsValue rest) : readNumber expected accept (s ++ rest) = .ok (value, rest) := by
  unfold readNumber readBy at h ⊢
  cases hs : skipSpace s with
  | nil =>
    rw [hs] at h
    cases h
  | cons c more =>
    rw [skipSpace_append hs]
    rw [hs] at h
    dsimp only at h ⊢
    by_cases hc : c = '-' ∨ c.isDigit = true
    · rw [if_pos hc] at h ⊢
      cases hv : readValue (c :: more) with
      | error e =>
        rw [hv] at h
        cases h
      | ok r =>
        obtain ⟨v, after⟩ := r
        rw [hv] at h
        simp only [bind, Except.bind] at h
        cases ha : accept v with
        | error e =>
          rw [ha] at h
          cases h
        | ok a =>
          rw [ha] at h
          cases h
          rw [← List.cons_append, readValue_append hr.endsNumber hv]
          simp only [bind, Except.bind, ha]
          rfl
    · rw [if_neg hc] at h
      cases h

/-- A character that a number can begin with. -/
theorem opens_of_isTextChar {c : Char} (h : Number.isTextChar c = true) (rest : List Char) :
    Opens (c :: rest) := by
  refine ⟨c, rest, rfl, ?_, ?_, ?_⟩
  · by_contra hspace
    simp only [isSpace, Bool.not_eq_false, Bool.or_eq_true, beq_iff_eq] at hspace
    rcases hspace with ((rfl | rfl) | rfl) | rfl <;> exact absurd h (by decide)
  · rintro rfl
    exact absurd h (by decide)
  · rintro rfl
    exact absurd h (by decide)

theorem head_writeInt (n : Int) :
    ∃ c rest, writeInt n = c :: rest ∧ (c = '-' ∨ c.isDigit = true) := by
  unfold writeInt
  split
  · exact ⟨'-', _, rfl, .inl rfl⟩
  · cases hd : Number.digitsOf n.natAbs with
    | nil => exact absurd hd Nat.toDigits_ne_nil
    | cons c t =>
      exact ⟨c, t, rfl, .inr (Number.isDigit_of_mem_digitsOf (by rw [hd]; exact List.mem_cons_self))⟩

theorem opens_writeInt (n : Int) : Opens (writeInt n) := by
  obtain ⟨c, rest, hw, hc⟩ := head_writeInt n
  rw [hw]
  rcases hc with rfl | hc
  · exact opens_of_isTextChar (by decide) rest
  · exact opens_of_isTextChar (Number.isTextChar_of_isDigit hc) rest

/-- A whole number of 64 bits is handed to the type that is expected. -/
theorem readNumber_writeInt {expected : String} {accept : Value → Except Problem α} {n : Int}
    (hleast : -0x8000000000000000 ≤ n) (hmost : n < UInt64.size) :
    readNumber expected accept (writeInt n) = (accept (.integer n)).map (·, []) := by
  obtain ⟨c, rest, hw, hc⟩ := head_writeInt n
  obtain ⟨_, _, hopens, hspace, -⟩ := opens_writeInt n
  have hv := readValue_writeInt hleast hmost
  rw [hw] at hv hopens ⊢
  cases hopens
  simp only [readNumber, readBy, skipSpace_cons hspace, if_pos hc, hv, bind, Except.bind]
  cases accept (.integer n) with
  | error e => rfl
  | ok value => rfl

/-- A codec of numbers only has to read what it writes on its own. -/
theorem number_roundTrips {expected : String} {accept : Value → Except Problem α}
    {write : α → List Char} {value : α}
    (h : readNumber expected accept (write value) = .ok (value, [])) :
    Codec.RoundTrips ⟨readNumber expected accept, write⟩ value :=
  fun _ hr => readNumber_append h hr

theorem word64_roundTrips (n : UInt64) : word64.RoundTrips n := by
  refine number_roundTrips ?_
  have hn : n.toNat < UInt64.size := n.toNat_lt_size
  have hrange : (0 : Int) ≤ n.toNat ∧ (n.toNat : Int) ≤ UInt64.size - 1 := by omega
  rw [readNumber_writeInt (by omega) (by omega)]
  simp only [acceptInt, if_pos hrange, Except.map, Int.toNat_natCast, UInt64.ofNat_toNat]

theorem signed32_roundTrips (n : Int32) : signed32.RoundTrips n := by
  refine number_roundTrips ?_
  have hrange : Int32.minValue.toInt ≤ n.toInt ∧ n.toInt ≤ Int32.maxValue.toInt :=
    ⟨n.minValue_le_toInt, n.toInt_le⟩
  have hleast : -0x8000000000000000 ≤ n.toInt := Int.le_trans (by decide) hrange.1
  have hmost : n.toInt < UInt64.size := Int.lt_of_le_of_lt hrange.2 (by decide)
  rw [readNumber_writeInt hleast hmost]
  simp only [acceptInt, if_pos hrange, Except.map, Int32.ofInt_toInt]

theorem float_roundTrips {x : Float} (h : ReadsBack x) : float.RoundTrips x :=
  number_roundTrips h

theorem writeFloat_of_not_isFinite {x : Float} (h : Number.isFinite x = false) :
    writeFloat x = ['n', 'u', 'l', 'l'] := by
  rw [writeFloat, Number.finiteText?_eq_none h]
  rfl

/-- A float that is read back is a number, not `null`. -/
theorem ReadsBack.isFinite {x : Float} (h : ReadsBack x) : Number.isFinite x = true := by
  by_contra hx
  rw [ReadsBack, writeFloat_of_not_isFinite (Bool.eq_false_iff.2 hx)] at h
  cases h

theorem ReadsBack.opens {x : Float} (h : ReadsBack x) : Opens (writeFloat x) := by
  cases hs : Number.finiteText? floatLayout x with
  | none =>
    rw [ReadsBack, writeFloat, hs] at h
    cases h
  | some s =>
    have hw : writeFloat x = s := by rw [writeFloat, hs]; rfl
    rw [ReadsBack, hw] at h
    rw [hw]
    cases s with
    | nil => cases h
    | cons c rest =>
      exact opens_of_isTextChar (Number.isTextChar_of_mem_finiteText hs List.mem_cons_self) rest

theorem boolean_roundTrips (b : Bool) : boolean.RoundTrips b := by
  intro rest _
  cases b <;> rfl

theorem opens_boolean (b : Bool) : Opens (boolean.write b) := by
  cases b
  · exact ⟨'f', _, rfl, by decide, by decide, by decide⟩
  · exact ⟨'t', _, rfl, by decide, by decide, by decide⟩

/-! ### Options and lists -/

theorem optional_none_roundTrips (codec : Codec α) : (optional codec).RoundTrips none :=
  fun _ _ => rfl

theorem optional_some_roundTrips {codec : Codec α} {value : α} (h : codec.RoundTrips value)
    (ho : Opens (codec.write value)) : (optional codec).RoundTrips (some value) := by
  intro rest hr
  have hread := h rest hr
  obtain ⟨c, t, hw, hspace, -, hn⟩ := ho
  simp only [optional, hw, List.cons_append] at hread ⊢
  rw [skipSpace_cons hspace]
  split
  · next heq => exact absurd (List.cons.inj heq).1 hn
  · rw [hread]
    rfl

theorem optional_roundTrips {codec : Codec α} (h : ∀ value, codec.RoundTrips value)
    (ho : ∀ value, Opens (codec.write value)) : ∀ value, (optional codec).RoundTrips value
  | none => optional_none_roundTrips codec
  | some value => optional_some_roundTrips (h value) (ho value)

theorem nextElement_first {text : List Char} (h : Opens text) :
    nextElement true text = .ok (.inl text) := by
  obtain ⟨c, t, rfl, hspace, hb, -⟩ := h
  simp [nextElement, skipSpace_cons hspace, hb]

theorem nextElement_later {text : List Char} (h : Opens text) :
    nextElement false (',' :: text) = .ok (.inl text) := by
  obtain ⟨c, t, rfl, hspace, hb, -⟩ := h
  have hcomma : isSpace ',' = false := by decide
  simp [nextElement, skipSpace_cons hcomma, skipSpace_cons hspace, hb]

theorem nextElement_end (first : Bool) (rest : List Char) :
    nextElement first (']' :: rest) = .ok (.inr rest) := by
  have hb : isSpace ']' = false := by decide
  simp [nextElement, skipSpace_cons hb]

section Lists

variable (codec : Codec α) (rest : List Char)

/-- The elements of a list after its first, up to the closing bracket. -/
def laterElements (items : List α) : List Char :=
  items.flatMap (fun item => ',' :: codec.write item) ++ ']' :: rest

theorem laterElements_cons (item : α) (items : List α) :
    laterElements codec rest (item :: items) =
      ',' :: (codec.write item ++ laterElements codec rest items) := by
  simp [laterElements]

theorem endsValue_laterElements (items : List α) : EndsValue (laterElements codec rest items) := by
  intro c hc
  cases items with
  | nil => simp_all [laterElements, eq_comm]
  | cons item items => simp_all [laterElements, eq_comm]

theorem length_lt_laterElements : ∀ items : List α,
    items.length < (laterElements codec rest items).length
  | [] => by simp [laterElements]
  | item :: items => by
    have ih := length_lt_laterElements items
    rw [laterElements_cons, List.length_cons, List.length_cons, List.length_append]
    omega

theorem readElements_laterElements : ∀ (items : List α) (fuel : Nat),
    (∀ item ∈ items, codec.RoundTrips item ∧ Opens (codec.write item)) → items.length < fuel →
      readElements codec.read fuel false (laterElements codec rest items) = .ok (items, rest)
  | _, 0, _, h => by omega
  | [], fuel + 1, _, _ => by
    simp only [readElements, laterElements, List.flatMap_nil, List.nil_append, nextElement_end]
    rfl
  | item :: items, fuel + 1, hi, hf => by
    obtain ⟨hitem, hopens⟩ := hi item List.mem_cons_self
    have ih := readElements_laterElements items fuel
      (fun i h => hi i (List.mem_cons_of_mem _ h)) (by simpa using hf)
    have hnext := nextElement_later (hopens.append (laterElements codec rest items))
    have hread := hitem _ (endsValue_laterElements codec rest items)
    simp only [readElements, laterElements_cons, hnext, bind, Except.bind, hread, ih]
    rfl

/-- **A list is read back when its elements are.** -/
theorem list_roundTrips {codec : Codec α} {items : List α}
    (h : ∀ item ∈ items, codec.RoundTrips item ∧ Opens (codec.write item)) :
    (list codec).RoundTrips items := by
  intro rest _
  have hb : isSpace '[' = false := by decide
  have htext : (list codec).write items ++ rest =
      '[' :: (Text.join [','] (items.map codec.write) ++ ']' :: rest) := by
    simp [list, writeList]
  rw [htext]
  simp only [list, readBy, skipSpace_cons hb, if_true, readList]
  cases items with
  | nil =>
    simp only [List.map_nil, Text.join, List.nil_append, readElements, nextElement_end]
    rfl
  | cons item items =>
    obtain ⟨hitem, hopens⟩ := h item List.mem_cons_self
    have hjoin : Text.join [','] ((item :: items).map codec.write) ++ ']' :: rest =
        codec.write item ++ laterElements codec rest items := by
      rw [List.map_cons, Text.join_cons, laterElements]
      simp [List.flatMap_map]
    have hnext := nextElement_first (hopens.append (laterElements codec rest items))
    have hread := hitem _ (endsValue_laterElements codec rest items)
    have hlong : items.length < (codec.write item ++ laterElements codec rest items).length := by
      have := length_lt_laterElements codec rest items
      rw [List.length_append]
      omega
    have hlater := readElements_laterElements codec rest items _
      (fun i hi => h i (List.mem_cons_of_mem _ hi)) hlong
    simp only [hjoin, readElements, hnext, bind, Except.bind, hread, hlater]
    rfl

end Lists

/-! ### Objects -/

/-- Members that are read one after the other, each from the state that the one
before it left into the next. -/
inductive Absorbs (accept : String → σ → Except Problem (Reader σ)) :
    σ → List (String × List Char) → σ → Prop
  | nil (s : σ) : Absorbs accept s [] s
  | cons {s s' s'' : σ} {name : String} {value : List Char} {read : Reader σ}
      {members : List (String × List Char)} (hname : accept name s = .ok read)
      (hread : ∀ rest, EndsValue rest → read (value ++ rest) = .ok (s', rest))
      (hlater : Absorbs accept s' members s'') : Absorbs accept s ((name, value) :: members) s''

theorem writeMember_append (name : String) (value rest : List Char) :
    writeMember name value ++ rest =
      '"' :: (name.toList.flatMap escapeChar ++ '"' :: ':' :: (value ++ rest)) := by
  rw [writeMember, List.append_assoc, writeString_append]
  rfl

theorem nextMember_first (name : String) (value rest : List Char) :
    nextMember true (writeMember name value ++ rest) =
      .ok (.inl (name, ':' :: (value ++ rest))) := by
  have hquote : isSpace '"' = false := by decide
  simp [nextMember, writeMember_append, skipSpace_cons hquote, readString_writeString, Except.map]

theorem nextMember_later (name : String) (value rest : List Char) :
    nextMember false (',' :: (writeMember name value ++ rest)) =
      .ok (.inl (name, ':' :: (value ++ rest))) := by
  have hcomma : isSpace ',' = false := by decide
  have hquote : isSpace '"' = false := by decide
  simp [nextMember, writeMember_append, skipSpace_cons hcomma, skipSpace_cons hquote,
    readString_writeString, Except.map]

theorem nextMember_end (first : Bool) (rest : List Char) :
    nextMember first ('\x7d' :: rest) = .ok (.inr rest) := by
  have hb : isSpace '\x7d' = false := by decide
  simp [nextMember, skipSpace_cons hb]

theorem readColon_colon (rest : List Char) : readColon (':' :: rest) = .ok rest := by
  have hcolon : isSpace ':' = false := by decide
  simp [readColon, skipSpace_cons hcolon]

section Members

variable {accept : String → σ → Except Problem (Reader σ)} (rest : List Char)

/-- The members of an object after its first, up to the closing brace. -/
def laterMembers (members : List (String × List Char)) : List Char :=
  members.flatMap (fun member => ',' :: writeMember member.1 member.2) ++ '\x7d' :: rest

theorem laterMembers_cons (member : String × List Char) (members : List (String × List Char)) :
    laterMembers rest (member :: members) =
      ',' :: (writeMember member.1 member.2 ++ laterMembers rest members) := by
  simp [laterMembers]

theorem endsValue_laterMembers (members : List (String × List Char)) :
    EndsValue (laterMembers rest members) := by
  intro c hc
  cases members with
  | nil => simp_all [laterMembers, eq_comm]
  | cons member members => simp_all [laterMembers, eq_comm]

theorem length_lt_laterMembers : ∀ members : List (String × List Char),
    members.length < (laterMembers rest members).length
  | [] => by simp [laterMembers]
  | member :: members => by
    have ih := length_lt_laterMembers members
    rw [laterMembers_cons, List.length_cons, List.length_cons, List.length_append]
    omega

theorem readMembersFrom_laterMembers {s s' : σ} {members : List (String × List Char)}
    (h : Absorbs accept s members s') : ∀ fuel, members.length < fuel →
      readMembersFrom accept fuel false s (laterMembers rest members) = .ok (s', rest) := by
  induction h with
  | nil s =>
    rintro (_ | fuel) hf
    · simp at hf
    · simp only [readMembersFrom, laterMembers, List.flatMap_nil, List.nil_append, nextMember_end]
      rfl
  | @cons s s' s'' name value read members hname hread hlater ih =>
    rintro (_ | fuel) hf
    · simp at hf
    · have hvalue := hread _ (endsValue_laterMembers rest members)
      have hrest := ih fuel (by simpa using hf)
      simp only [readMembersFrom, laterMembers_cons, nextMember_later, bind, Except.bind, hname,
        readColon_colon, hvalue, hrest]

/-- **An object is read when each of its members is, in its order.** -/
theorem readMembers_of_absorbs {s s' : σ} {members : List (String × List Char)}
    (h : Absorbs accept s members s') :
    readMembers accept s (Text.join [','] (members.map fun (name, value) => writeMember name value) ++
      '\x7d' :: rest) = .ok (s', rest) := by
  unfold readMembers
  cases h with
  | nil =>
    simp only [List.map_nil, Text.join, List.nil_append, readMembersFrom, nextMember_end]
    rfl
  | @cons _ s₁ _ name value read members hname hread hlater =>
    have hjoin : Text.join [','] (((name, value) :: members).map
        fun (name, value) => writeMember name value) ++ '\x7d' :: rest =
          writeMember name value ++ laterMembers rest members := by
      rw [List.map_cons, Text.join_cons, laterMembers]
      simp [List.flatMap_map]
    have hlong : members.length < (writeMember name value ++ laterMembers rest members).length := by
      have := length_lt_laterMembers rest members
      rw [List.length_append]
      omega
    have hvalue := hread _ (endsValue_laterMembers rest members)
    have hmore := readMembersFrom_laterMembers rest hlater _ hlong
    simp only [hjoin, readMembersFrom, nextMember_first, bind, Except.bind, hname, readColon_colon,
      hvalue, hmore]

end Members

/-- The entries of a dictionary are inserted one after the other. -/
theorem absorbs_entries {codec : Codec α} : ∀ (entries : List (String × α)) (d : Dictionary α),
    (∀ e ∈ entries, codec.RoundTrips e.2) →
      Absorbs (fun name d => .ok fun s =>
          (codec.read s).map fun (value, rest) => (d.insert name value, rest))
        d (entries.map fun (name, value) => (name, codec.write value)) (d.extendList entries)
  | [], d, _ => .nil d
  | (name, value) :: entries, d, h => by
    refine .cons rfl (fun rest hr => ?_)
      (absorbs_entries entries (d.insert name value) fun e he => h e (List.mem_cons_of_mem _ he))
    rw [h (name, value) List.mem_cons_self rest hr]
    rfl

/-- **A dictionary is read back when its values are.** -/
theorem dictionary_roundTrips {codec : Codec α} {d : Dictionary α}
    (h : ∀ e ∈ d.entries, codec.RoundTrips e.2) : (dictionary codec).RoundTrips d := by
  intro rest _
  have hb : isSpace '\x7b' = false := by decide
  have hread := readMembers_of_absorbs rest (absorbs_entries d.entries .empty h)
  have htext : (dictionary codec).write d ++ rest = '\x7b' :: (Text.join [',']
      ((d.entries.map fun (name, value) => (name, codec.write value)).map
        fun (name, value) => writeMember name value) ++ '\x7d' :: rest) := by
    simp [dictionary, writeObject]
  rw [htext]
  simp only [dictionary, readBy, skipSpace_cons hb, if_true, hread]
  rw [show Dictionary.empty.extendList d.entries = d from Dictionary.ofList_entries d]

/-! ### Alternatives -/

/-- An alternative is read back from the name that is written for it. -/
theorem choice_roundTrips [BEq α] {alternatives : List (String × α)} {name : String} {value : α}
    (hw : (choice alternatives).write value = writeString name)
    (hc : chosen alternatives name = .ok value) : (choice alternatives).RoundTrips value := by
  intro rest _
  have hquote : isSpace '"' = false := by decide
  rw [hw, writeString_append]
  simp only [choice, skipSpace_cons hquote, if_true, readString_writeString, bind, Except.bind, hc]
  rfl

end Json
end MessageBus
