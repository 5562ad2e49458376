/-
# Lists and objects are read part by part

The elements of a list are read one after the other, up to the first that is
refused. The members of an object take a state through its steps: a member that
is accepted under its name and whose value is taken makes one step (`Steps`),
and an object is read exactly when there is a run of steps through all of its
members (`Runs`), wherever blanks stand between them.

Key definitions: `Steps`, `Runs`.
Key theorems: `settles_list`, `readMembers_of_runs`, `readMembers_of_not_runs`,
`settles_dictionary`, `settles_choice`.
-/
import MessageBus.Proofs.Json.Settled
import MessageBus.Proofs.Text

namespace MessageBus
namespace Json

variable {α σ : Type}

/-! ### Parts with commas between them -/

/-- What stands in front of a part: a comma, unless it is the first. -/
def separator : Bool → List Char
  | true => []
  | false => [',']

/-- Parts with what stands in front of each, and the closing bracket. -/
def parts (close : Char) (rest : List Char) : Bool → List (List Char) → List Char
  | _, [] => close :: rest
  | first, part :: later => separator first ++ (part ++ parts close rest false later)

section Parts

variable {close : Char} (rest : List Char)

theorem join_parts (pieces : List (List Char)) :
    Text.join [','] pieces ++ close :: rest = parts close rest true pieces := by
  have hlater (later : List (List Char)) :
      later.flatMap ([','] ++ ·) ++ close :: rest = parts close rest false later := by
    induction later with
    | nil => rfl
    | cons part later ih =>
      rw [List.flatMap_cons, List.append_assoc, ih, List.append_assoc]
      rfl
  cases pieces with
  | nil => rfl
  | cons part later =>
    rw [Text.join_cons, List.append_assoc, hlater]
    rfl

theorem length_lt_parts (close : Char) (rest : List Char) :
    ∀ (first : Bool) (pieces : List (List Char)), (∀ p ∈ pieces, p ≠ []) →
      pieces.length < (parts close rest first pieces).length
  | _, [], _ => Nat.succ_pos _
  | first, part :: later, h => by
    have ih := length_lt_parts close rest false later fun p hp => h p (List.mem_cons_of_mem _ hp)
    have hpart : 0 < part.length := List.length_pos_of_ne_nil (h part List.mem_cons_self)
    rw [parts, List.length_append, List.length_append, List.length_cons]
    omega

theorem follows_parts (h : close = ']' ∨ close = '\x7d') (pieces : List (List Char)) :
    Follows (parts close rest false pieces) := by
  cases pieces with
  | nil =>
    rintro c ⟨⟩
    exact .inr (.inr h)
  | cons part later =>
    rintro c ⟨⟩
    exact .inr (.inl rfl)

end Parts

theorem IsValue.skipSpace {text : List Char} (h : IsValue text) (rest : List Char) :
    skipSpace (text ++ rest) = text ++ rest := by
  obtain ⟨c, s, rfl, hopening⟩ := h.opening
  exact skipSpace_cons hopening.notSpace (s ++ rest)

theorem Padded.skipSpace {p : Padded} (hp : p.HasBlanks) (hvalue : IsValue p.core)
    (rest : List Char) : skipSpace (p.text ++ rest) = p.core ++ (p.after ++ rest) := by
  rw [Padded.text, List.append_assoc, hp.before.skipSpace, List.append_assoc, hvalue.skipSpace]

theorem skipSpace_comma {w : List Char} (hw : IsBlank w) (s : List Char) :
    skipSpace (w ++ (separator false ++ s)) = ',' :: s := by
  rw [hw.skipSpace]
  exact skipSpace_cons (by decide) s

/-! ### Lists -/

section Lists

variable {element : Reader α} {p : Padded} {w : List Char}

theorem nextElement_item (hp : p.IsItem) (hw : IsBlank w) (first : Bool) (more : List Char) :
    nextElement first (w ++ (separator first ++ (p.text ++ more))) =
      .ok (.inl (p.core ++ (p.after ++ more))) := by
  have hskip := Padded.skipSpace hp.blanks hp.value more
  obtain ⟨c, s, hcore, hopening⟩ := hp.value.opening
  rw [hcore, List.cons_append] at hskip ⊢
  have hc : c ≠ ']' := hopening.ne_bracket
  cases first with
  | true =>
    have hfront : skipSpace (w ++ (separator true ++ (p.text ++ more))) =
        c :: (s ++ (p.after ++ more)) := by
      rw [hw.skipSpace, separator, List.nil_append, hskip]
    simp only [nextElement, hfront, if_neg hc, if_true]
  | false =>
    have hcomma : (',' : Char) ≠ ']' := by decide
    simp only [nextElement, skipSpace_comma hw, if_neg hcomma, Bool.false_eq_true, if_false,
      if_true, hskip, if_neg hc]

/-- An element is read, and then the elements after it. -/
theorem readElements_item (hp : p.IsItem) (hw : IsBlank w) (fuel : Nat) (first : Bool)
    (items : List Padded) (rest : List Char) :
    readElements element (fuel + 1) first
        (w ++ parts ']' rest first ((p :: items).map Padded.text)) =
      (element (p.core ++ (p.after ++ parts ']' rest false (items.map Padded.text))) >>=
        fun (value, rest) => readElements element fuel false rest >>=
          fun (values, rest) => return (value :: values, rest)) := by
  rw [List.map_cons, parts, readElements, nextElement_item hp hw]
  rfl

theorem readElements_end (hw : IsBlank w) (fuel : Nat) (first : Bool) (rest : List Char) :
    readElements element (fuel + 1) first (w ++ ']' :: rest) = .ok ([], rest) := by
  have hnext : nextElement first (w ++ ']' :: rest) = .ok (.inr rest) := by
    rw [nextElement, hw.skipSpace, ← nextElement, nextElement_end]
  rw [readElements, hnext]
  rfl

theorem follows_item (hp : p.IsItem) (items : List Padded) (rest : List Char) :
    Follows (p.after ++ parts ']' rest false (items.map Padded.text)) :=
  (follows_parts rest (.inl rfl) _).blank hp.blanks.after

/-- Each of the items is taken as its value. -/
abbrev TakesAll (element : Reader α) : List Padded → List α → Prop :=
  List.Forall₂ fun p value => Takes element p.core value

/-- Elements that are all taken are read up to the end of the list. -/
theorem readElements_of_takesAll {items : List Padded} {values : List α}
    (h : TakesAll element items values) (rest : List Char) :
    ∀ {w : List Char} {fuel : Nat} (first : Bool), (∀ p ∈ items, p.IsItem) → IsBlank w →
      items.length < fuel →
        readElements element fuel first (w ++ parts ']' rest first (items.map Padded.text)) =
          .ok (values, rest) := by
  induction h with
  | nil =>
    rintro w (_ | fuel) first - hw hfuel
    · exact absurd hfuel (Nat.lt_irrefl 0)
    · exact readElements_end hw fuel first rest
  | @cons p value items values hvalue _ ih =>
    rintro w (_ | fuel) first hitems hw hfuel
    · exact absurd hfuel (Nat.not_lt_zero _)
    · have hp := hitems p List.mem_cons_self
      have hlater := ih false (fun q hq => hitems q (List.mem_cons_of_mem _ hq)) hp.blanks.after
        (Nat.lt_of_succ_lt_succ hfuel)
      rw [readElements_item hp hw, hvalue _ (follows_item hp items rest)]
      simp only [bind, Except.bind, hlater]
      rfl

/-- Elements that are not all taken make a problem. -/
theorem readElements_of_not_takesAll (h : Settles element) (rest : List Char) :
    ∀ {items : List Padded} {w : List Char} (fuel : Nat) (first : Bool),
      (∀ p ∈ items, p.IsItem) → IsBlank w → (¬ ∃ values, TakesAll element items values) →
        ∃ problem, readElements element fuel first
          (w ++ parts ']' rest first (items.map Padded.text)) = .error problem
  | _, _, 0, _, _, _, _ => ⟨_, rfl⟩
  | [], _, fuel + 1, _, _, _, hnot => absurd ⟨[], .nil⟩ hnot
  | p :: items, w, fuel + 1, first, hitems, hw, hnot => by
    have hp := hitems p List.mem_cons_self
    have hfollows := follows_item hp items rest
    rw [readElements_item hp hw]
    rcases h.value hp.value with ⟨value, hvalue⟩ | hrefuses
    · have hlater : ¬ ∃ values, TakesAll element items values :=
        fun ⟨values, hvalues⟩ => hnot ⟨value :: values, .cons hvalue hvalues⟩
      obtain ⟨problem, hproblem⟩ := readElements_of_not_takesAll h rest fuel false
        (fun q hq => hitems q (List.mem_cons_of_mem _ hq)) hp.blanks.after hlater
      refine ⟨problem, ?_⟩
      rw [hvalue _ hfollows]
      simp only [bind, Except.bind, hproblem]
    · obtain ⟨problem, hproblem⟩ := hrefuses _ hfollows
      exact ⟨problem, by rw [hproblem]; rfl⟩

theorem Padded.IsItem.text_ne_nil (hp : p.IsItem) : p.text ≠ [] := by
  obtain ⟨c, s, hcore, -⟩ := hp.value.opening
  simp [Padded.text, hcore]

/-- **A list is settled when its elements are.** -/
theorem settles_list {codec : Codec α} (h : Settles codec.read) :
    Settles (list codec).read := by
  refine settles_readBy fun c s hopening => ?_
  cases hopening with
  | @list blank items hblank hitems =>
    have htext (rest : List Char) : blank ++ (Text.join [','] (items.map Padded.text) ++ [']']) ++
        rest = blank ++ parts ']' rest true (items.map Padded.text) := by
      rw [← join_parts, List.append_assoc, List.append_assoc, List.singleton_append]
    by_cases hall : ∃ values, TakesAll codec.read items values
    · obtain ⟨values, hvalues⟩ := hall
      refine .inl ⟨values, fun rest _ => ?_⟩
      have hlong := length_lt_parts ']' rest true (items.map Padded.text) (by
        simpa using fun p hp => (hitems p hp).text_ne_nil)
      rw [if_pos rfl, htext, readList, readElements_of_takesAll hvalues rest true hitems hblank]
      rw [List.length_append]
      rw [List.length_map] at hlong
      omega
    · refine .inr (.inl fun rest _ => ?_)
      obtain ⟨problem, hproblem⟩ :=
        readElements_of_not_takesAll h rest _ true hitems hblank hall
      exact ⟨problem, by rw [if_pos rfl, htext, readList, hproblem]⟩
  | number hc _ => exact .inr (.inr fun rest => if_neg (ne_of_number hc (by decide)))
  | null | truth | falsity | string | object => exact .inr (.inr fun _ => rfl)

end Lists

/-! ### Objects -/

/-- A member takes a state to the next: it is accepted under its name, and its value is taken. -/
def Steps (accept : String → σ → Except Problem (Reader σ)) (m : Member) (s s' : σ) : Prop :=
  ∃ name read, m.Names name ∧ accept name s = .ok read ∧ Takes read m.value.core s'

/-- Members take a state through their steps, one after the other. -/
inductive Runs (accept : String → σ → Except Problem (Reader σ)) : σ → List Member → σ → Prop
  | nil (s : σ) : Runs accept s [] s
  | cons {s s' s'' : σ} {m : Member} {members : List Member} (hstep : Steps accept m s s')
    (hlater : Runs accept s' members s'') : Runs accept s (m :: members) s''

theorem Member.Names.unique {m : Member} {name name' : String} (h : m.Names name)
    (h' : m.Names name') : name = name' := by
  obtain ⟨body, hbody, hspells⟩ := h
  obtain ⟨body', hbody', hspells'⟩ := h'
  have hsame : body = body' := by
    rw [hbody, stringText, stringText] at hbody'
    exact List.append_cancel_right (List.cons.inj hbody').2
  subst hsame
  exact hspells.unique hspells'

section Objects

variable {accept : String → σ → Except Problem (Reader σ)} {m : Member} {w : List Char}

/-- What stands after the name of a member. -/
def Member.behind (m : Member) (more : List Char) : List Char :=
  m.name.after ++ ':' :: (m.value.text ++ more)

theorem Member.skipSpace {body : List Char} (hm : m.IsWritten)
    (hname : m.name.core = stringText body) (more : List Char) :
    skipSpace (m.text ++ more) = '"' :: (body ++ '"' :: m.behind more) := by
  have hquote : isSpace '"' = false := by decide
  simp only [Member.text, Padded.text, hname, stringText, List.append_assoc, List.cons_append,
    List.nil_append, hm.nameBlanks.before.skipSpace, skipSpace_cons hquote, Member.behind]

theorem nextMember_member {body : List Char} (hm : m.IsWritten)
    (hname : m.name.core = stringText body) (hw : IsBlank w) (first : Bool) (more : List Char) :
    nextMember first (w ++ (separator first ++ (m.text ++ more))) =
      (readString (body ++ '"' :: m.behind more)).map Sum.inl := by
  have hskip := Member.skipSpace hm hname more
  have hquote : ('"' : Char) ≠ '\x7d' := by decide
  cases first with
  | true =>
    have hfront : skipSpace (w ++ (separator true ++ (m.text ++ more))) =
        '"' :: (body ++ '"' :: m.behind more) := by
      rw [hw.skipSpace, separator, List.nil_append, hskip]
    simp only [nextMember, hfront, if_neg hquote, if_true]
  | false =>
    have hcomma : (',' : Char) ≠ '\x7d' := by decide
    simp only [nextMember, skipSpace_comma hw, if_neg hcomma, Bool.false_eq_true, if_false,
      if_true, hskip]

theorem readColon_behind (hm : m.IsWritten) (more : List Char) :
    readColon (m.behind more) = .ok (m.value.text ++ more) := by
  have hcolon : isSpace ':' = false := by decide
  simp [readColon, Member.behind, hm.nameBlanks.after.skipSpace, skipSpace_cons hcolon]

theorem readMembersFrom_end (hw : IsBlank w) (fuel : Nat) (first : Bool) (s : σ)
    (rest : List Char) : readMembersFrom accept (fuel + 1) first s (w ++ '\x7d' :: rest) =
      .ok (s, rest) := by
  have hnext : nextMember first (w ++ '\x7d' :: rest) = .ok (.inr rest) := by
    rw [nextMember, hw.skipSpace, ← nextMember, nextMember_end]
  rw [readMembersFrom, hnext]
  rfl

/-- A member is read by its value's reader, if it is accepted, and then the members after it. -/
theorem readMembersFrom_member {name : String} (hm : m.IsWritten) (hname : m.Names name)
    (haccept : ∀ name s read, accept name s = .ok read → Settles read) (hw : IsBlank w)
    (fuel : Nat) (first : Bool) (members : List Member) (s : σ) (rest : List Char) :
    readMembersFrom accept (fuel + 1) first s
        (w ++ parts '\x7d' rest first ((m :: members).map Member.text)) =
      (accept name s >>= fun read =>
        read (m.value.core ++ (m.value.after ++ parts '\x7d' rest false (members.map Member.text)))
          >>= fun (s', rest) => readMembersFrom accept fuel false s' rest) := by
  obtain ⟨body, hcore, hspells⟩ := hname
  rw [List.map_cons, parts, readMembersFrom, nextMember_member hm hcore hw,
    readString_of_spells hspells]
  cases hread : accept name s with
  | error problem => simp only [Except.map, bind, Except.bind, hread]
  | ok read =>
    have hvalue := (haccept name s read hread).padded hm.valueBlanks
      (parts '\x7d' rest false (members.map Member.text))
    simp only [Except.map, bind, Except.bind, hread, readColon_behind hm, hvalue]

/-- A member whose name spells nothing makes a problem. -/
theorem readMembersFrom_nameless (hm : m.IsWritten) (hname : ¬ ∃ name, m.Names name)
    (hw : IsBlank w) (fuel : Nat) (first : Bool) (members : List Member) (s : σ)
    (rest : List Char) : ∃ problem, readMembersFrom accept (fuel + 1) first s
      (w ++ parts '\x7d' rest first ((m :: members).map Member.text)) = .error problem := by
  obtain ⟨body, hbody, hcore⟩ := hm.name
  rcases hbody.readString with ⟨text, hspells⟩ | hrefused
  · exact absurd ⟨text, body, hcore, hspells⟩ hname
  · obtain ⟨problem, hproblem⟩ := hrefused
      (m.behind (parts '\x7d' rest false (members.map Member.text)))
    refine ⟨problem, ?_⟩
    rw [List.map_cons, parts, readMembersFrom, nextMember_member hm hcore hw, hproblem]
    rfl

theorem follows_member (hm : m.IsWritten) (members : List Member) (rest : List Char) :
    Follows (m.value.after ++ parts '\x7d' rest false (members.map Member.text)) :=
  (follows_parts rest (.inr rfl) _).blank hm.valueBlanks.after

/-- Members that run are read up to the end of the object. -/
theorem readMembersFrom_of_runs {s s' : σ} {members : List Member}
    (haccept : ∀ name s read, accept name s = .ok read → Settles read)
    (h : Runs accept s members s') (rest : List Char) :
    ∀ {w : List Char} {fuel : Nat} (first : Bool), (∀ m ∈ members, m.IsWritten) → IsBlank w →
      members.length < fuel → readMembersFrom accept fuel first s
        (w ++ parts '\x7d' rest first (members.map Member.text)) = .ok (s', rest) := by
  induction h with
  | nil s =>
    rintro w (_ | fuel) first - hw hfuel
    · exact absurd hfuel (Nat.lt_irrefl 0)
    · exact readMembersFrom_end hw fuel first s rest
  | @cons s s' s'' m members hstep _ ih =>
    rintro w (_ | fuel) first hmembers hw hfuel
    · exact absurd hfuel (Nat.not_lt_zero _)
    · obtain ⟨name, read, hname, hread, htakes⟩ := hstep
      have hm := hmembers m List.mem_cons_self
      have hlater := ih false (fun q hq => hmembers q (List.mem_cons_of_mem _ hq))
        hm.valueBlanks.after (Nat.lt_of_succ_lt_succ hfuel)
      rw [readMembersFrom_member hm hname haccept hw, hread]
      simp only [bind, Except.bind, htakes _ (follows_member hm members rest), hlater]

/-- Members that do not run make a problem. -/
theorem readMembersFrom_of_not_runs
    (haccept : ∀ name s read, accept name s = .ok read → Settles read) (rest : List Char) :
    ∀ {members : List Member} {s : σ} {w : List Char} (fuel : Nat) (first : Bool),
      (∀ m ∈ members, m.IsWritten) → IsBlank w → (¬ ∃ s', Runs accept s members s') →
        ∃ problem, readMembersFrom accept fuel first s
          (w ++ parts '\x7d' rest first (members.map Member.text)) = .error problem
  | _, _, _, 0, _, _, _, _ => ⟨_, rfl⟩
  | [], s, _, fuel + 1, _, _, _, hnot => absurd ⟨s, .nil s⟩ hnot
  | m :: members, s, w, fuel + 1, first, hmembers, hw, hnot => by
    have hm := hmembers m List.mem_cons_self
    have hfollows := follows_member hm members rest
    by_cases hname : ∃ name, m.Names name
    · obtain ⟨name, hname⟩ := hname
      rw [readMembersFrom_member hm hname haccept hw]
      cases hread : accept name s with
      | error problem => exact ⟨problem, rfl⟩
      | ok read =>
        rcases (haccept name s read hread).value hm.value with ⟨s', htakes⟩ | hrefuses
        · have hlater : ¬ ∃ s'', Runs accept s' members s'' := fun ⟨s'', hruns⟩ =>
            hnot ⟨s'', .cons ⟨name, read, hname, hread, htakes⟩ hruns⟩
          obtain ⟨problem, hproblem⟩ := readMembersFrom_of_not_runs haccept rest fuel false
            (fun q hq => hmembers q (List.mem_cons_of_mem _ hq)) hm.valueBlanks.after hlater
          refine ⟨problem, ?_⟩
          simp only [bind, Except.bind, htakes _ hfollows, hproblem]
        · obtain ⟨problem, hproblem⟩ := hrefuses _ hfollows
          refine ⟨problem, ?_⟩
          simp only [bind, Except.bind, hproblem]
    · exact readMembersFrom_nameless hm hname hw fuel first members s rest

variable {blank : List Char} {members : List Member}

theorem object_parts (rest : List Char) :
    blank ++ (Text.join [','] (members.map Member.text) ++ ['\x7d']) ++ rest =
      blank ++ parts '\x7d' rest true (members.map Member.text) := by
  rw [← join_parts, List.append_assoc, List.append_assoc, List.singleton_append]

/-- **An object is read by a run of steps through its members.** -/
theorem readMembers_of_runs {s s' : σ}
    (haccept : ∀ name s read, accept name s = .ok read → Settles read) (hblank : IsBlank blank)
    (hmembers : ∀ m ∈ members, m.IsWritten) (h : Runs accept s members s') (rest : List Char) :
    readMembers accept s
        (blank ++ (Text.join [','] (members.map Member.text) ++ ['\x7d']) ++ rest) =
      .ok (s', rest) := by
  have hlong := length_lt_parts '\x7d' rest true (members.map Member.text) (by
    simp [Member.text])
  rw [object_parts, readMembers, readMembersFrom_of_runs haccept h rest true hmembers hblank]
  rw [List.length_append]
  rw [List.length_map] at hlong
  omega

/-- **An object without such a run is refused.** -/
theorem readMembers_of_not_runs {s : σ}
    (haccept : ∀ name s read, accept name s = .ok read → Settles read) (hblank : IsBlank blank)
    (hmembers : ∀ m ∈ members, m.IsWritten) (h : ¬ ∃ s', Runs accept s members s')
    (rest : List Char) : ∃ problem, readMembers accept s
      (blank ++ (Text.join [','] (members.map Member.text) ++ ['\x7d']) ++ rest) =
        .error problem := by
  rw [object_parts, readMembers]
  exact readMembersFrom_of_not_runs haccept rest _ true hmembers hblank h

end Objects

/-! ### Dictionaries -/

section Dictionaries

variable {codec : Codec α}

/-- How an entry of a dictionary is read. -/
def acceptEntry (codec : Codec α) (name : String) (d : Dictionary α) :
    Except Problem (Reader (Dictionary α)) :=
  .ok fun s => (codec.read s).map fun (value, rest) => (d.insert name value, rest)

theorem acceptEntry_settles (h : Settles codec.read) (name : String) (d : Dictionary α)
    (read : Reader (Dictionary α)) (hread : acceptEntry codec name d = .ok read) :
    Settles read := by
  cases hread
  exact h.map (d.insert name)

theorem dictionary_read_object {blank : List Char} {members : List Member} (rest : List Char) :
    (dictionary codec).read (objectText blank members ++ rest) =
      readMembers (acceptEntry codec) .empty
        (blank ++ (Text.join [','] (members.map Member.text) ++ ['\x7d']) ++ rest) := by
  have hbrace : isSpace '\x7b' = false := by decide
  simp only [dictionary, readBy, objectText, List.cons_append, skipSpace_cons hbrace, if_true]
  rfl

/-- **A dictionary is settled when its values are.** -/
theorem settles_dictionary (h : Settles codec.read) : Settles (dictionary codec).read := by
  refine settles_readBy fun c s hopening => ?_
  cases hopening with
  | @object blank members hblank hmembers =>
    by_cases hruns : ∃ d, Runs (acceptEntry codec) .empty members d
    · obtain ⟨d, hd⟩ := hruns
      have hread := readMembers_of_runs (acceptEntry_settles h) hblank hmembers hd
      exact .inl ⟨d, fun rest _ => congrArg some (hread rest)⟩
    · refine .inr (.inl fun rest _ => ?_)
      obtain ⟨problem, hproblem⟩ :=
        readMembers_of_not_runs (acceptEntry_settles h) hblank hmembers hruns rest
      exact ⟨problem, congrArg some hproblem⟩
  | number hc _ => exact .inr (.inr fun rest => if_neg (ne_of_number hc (by decide)))
  | null | truth | falsity | string | list => exact .inr (.inr fun _ => rfl)

/-- A member under a name whose value is taken. -/
def Member.Holds (codec : Codec α) (m : Member) (pair : String × α) : Prop :=
  m.Names pair.1 ∧ Takes codec.read m.value.core pair.2

theorem runs_entries {members : List Member} {pairs : List (String × α)}
    (h : List.Forall₂ (Member.Holds codec) members pairs) (d : Dictionary α) :
    Runs (acceptEntry codec) d members (d.extendList pairs) := by
  induction h generalizing d with
  | nil => exact .nil d
  | @cons m pair members pairs hpair _ ih =>
    exact .cons ⟨pair.1, _, hpair.1, rfl, hpair.2.map (d.insert pair.1)⟩
      (ih (d.insert pair.1 pair.2))

/-- **The members of a dictionary are its entries, one after the other.** -/
theorem takes_dictionary (h : Settles codec.read) {blank : List Char} {members : List Member}
    {pairs : List (String × α)} (hblank : IsBlank blank) (hmembers : ∀ m ∈ members, m.IsWritten)
    (hpairs : List.Forall₂ (Member.Holds codec) members pairs) :
    Takes (dictionary codec).read (objectText blank members) (.ofList pairs) := fun rest _ =>
  (dictionary_read_object rest).trans (readMembers_of_runs (acceptEntry_settles h) hblank hmembers
    (runs_entries hpairs .empty) rest)

end Dictionaries

/-! ### Alternatives -/

section Choice

variable {alternatives : List (String × α)}

/-- The alternative of an object: its first member has the name and the value `null`, and there
is no other. -/
def readAlternative (alternatives : List (String × α)) : Reader α := fun s => do
  let (name, rest) ← (textAs "variant identifier").read s
  let value ← chosen alternatives name
  let rest ← readColon rest
  let ((), rest) ← readUnit rest
  match skipSpace rest with
  | [] => .error .endOfObject
  | d :: rest => if d = '\x7d' then return (value, rest) else .error .valueExpected

theorem choice_read_object [BEq α] (s : List Char) :
    (choice alternatives).read ('\x7b' :: s) = readAlternative alternatives s := by
  have hbrace : isSpace '\x7b' = false := by decide
  have hquote : ('\x7b' : Char) ≠ '"' := by decide
  simp only [choice, skipSpace_cons hbrace, if_neg hquote, if_true]
  rfl

/-- An object that is no alternative for want of a member. -/
theorem readAlternative_empty {w : List Char} (hw : IsBlank w) (rest : List Char) :
    ∃ problem, readAlternative alternatives (w ++ '\x7d' :: rest) = .error problem := by
  have hbrace : isSpace '\x7d' = false := by decide
  have hquote : ('\x7d' : Char) ≠ '"' := by decide
  refine ⟨wrongType "variant identifier" ('\x7d' :: rest), ?_⟩
  simp only [readAlternative, textAs, readBy, hw.skipSpace, skipSpace_cons hbrace, if_neg hquote]
  rfl

/-- The name of the first member is read, and what follows it. -/
theorem readAlternative_member (alternatives : List (String × α)) {m : Member}
    {body w : List Char} (hm : m.IsWritten)
    (hname : m.name.core = stringText body) (hw : IsBlank w) (more : List Char) :
    readAlternative alternatives (w ++ (m.text ++ more)) =
      (readString (body ++ '"' :: m.behind more) >>= fun (name, rest) =>
        chosen alternatives name >>= fun value => readColon rest >>= fun rest =>
          readUnit rest >>= fun (_, rest) =>
            match skipSpace rest with
            | [] => .error .endOfObject
            | d :: rest => if d = '\x7d' then return (value, rest) else .error .valueExpected) := by
  have hread : (textAs "variant identifier").read (w ++ (m.text ++ more)) =
      readString (body ++ '"' :: m.behind more) := by
    simp only [textAs, readBy, hw.skipSpace, Member.skipSpace hm hname, if_true]
  rw [readAlternative, hread]

/-- The object of an alternative is taken or refused. -/
theorem readAlternative_settled {blank : List Char} {members : List Member}
    (hblank : IsBlank blank) (hmembers : ∀ m ∈ members, m.IsWritten) :
    (∃ value, ∀ rest, readAlternative alternatives
      (blank ++ parts '\x7d' rest true (members.map Member.text)) = .ok (value, rest)) ∨
    ∀ rest, ∃ problem, readAlternative alternatives
      (blank ++ parts '\x7d' rest true (members.map Member.text)) = .error problem := by
  cases members with
  | nil => exact .inr (readAlternative_empty hblank)
  | cons m members =>
    have hm := hmembers m List.mem_cons_self
    obtain ⟨body, hbody, hname⟩ := hm.name
    have hstep (rest : List Char) := readAlternative_member alternatives hm hname
      hblank (parts '\x7d' rest false (members.map Member.text))
    have hfront (rest : List Char) : parts '\x7d' rest true ((m :: members).map Member.text) =
        m.text ++ parts '\x7d' rest false (members.map Member.text) := rfl
    simp only [hfront, hstep]
    rcases hbody.readString with ⟨name, hspells⟩ | hrefused
    swap
    · refine .inr fun rest => ?_
      obtain ⟨problem, hproblem⟩ := hrefused (m.behind (parts '\x7d' rest false _))
      exact ⟨problem, by rw [hproblem]; rfl⟩
    simp only [readString_of_spells hspells, bind, Except.bind]
    cases hchosen : chosen alternatives name with
    | error problem => exact .inr fun _ => ⟨problem, rfl⟩
    | ok value =>
      simp only [readColon_behind hm, settles_readUnit.padded hm.valueBlanks]
      rcases settles_readUnit.value hm.value with ⟨_, htakes⟩ | hrefuses
      swap
      · refine .inr fun rest => ?_
        obtain ⟨problem, hproblem⟩ := hrefuses _ (follows_member hm members rest)
        exact ⟨problem, by rw [hproblem]⟩
      have hunit (rest : List Char) := htakes _ (follows_member hm members rest)
      simp only [hunit, hm.valueBlanks.after.skipSpace]
      have hspace : isSpace '\x7d' = false ∧ isSpace ',' = false := by decide
      cases members with
      | nil =>
        refine .inl ⟨value, fun rest => ?_⟩
        simp only [List.map_nil, parts, skipSpace_cons hspace.1, if_true]
        rfl
      | cons next members =>
        have hcomma : (',' : Char) ≠ '\x7d' := by decide
        refine .inr fun rest => ⟨.valueExpected, ?_⟩
        simp only [List.map_cons, parts, separator, List.cons_append, skipSpace_cons hspace.2,
          if_neg hcomma]

/-- **One of several alternatives is settled.** -/
theorem settles_choice [BEq α] : Settles (choice alternatives).read where
  skips s := by simp only [choice, skipSpace_skipSpace]
  value htext := by
    obtain ⟨c, s, rfl, hopening⟩ := htext.opening
    have hskip (rest : List Char) : skipSpace (c :: s ++ rest) = c :: (s ++ rest) :=
      skipSpace_cons hopening.notSpace (s ++ rest)
    have hother (hquote : c ≠ '"') (hbrace : c ≠ '\x7b') :
        Refuses (choice alternatives).read (c :: s) := fun rest _ =>
      ⟨.valueExpected, by simp only [choice, hskip, if_neg hquote, if_neg hbrace]⟩
    cases hopening with
    | @string body hbody =>
      have hread (rest : List Char) : (choice alternatives).read ('"' :: (body ++ ['"']) ++ rest) =
          (readString (body ++ '"' :: rest) >>= fun (name, rest) =>
            chosen alternatives name >>= fun value => return (value, rest)) := by
        simp only [choice, hskip, if_true, List.append_assoc, List.singleton_append]
      simp only [Takes, Refuses, hread]
      rcases hbody.readString with ⟨name, hspells⟩ | hrefused
      · simp only [readString_of_spells hspells, bind, Except.bind]
        cases chosen alternatives name with
        | error problem => exact .inr fun _ _ => ⟨problem, rfl⟩
        | ok value => exact .inl ⟨value, fun _ _ => rfl⟩
      · refine .inr fun rest _ => ?_
        obtain ⟨problem, hproblem⟩ := hrefused rest
        exact ⟨problem, by rw [hproblem]; rfl⟩
    | @object blank members hblank hmembers =>
      have hread (rest : List Char) : (choice alternatives).read ('\x7b' ::
          (blank ++ (Text.join [','] (members.map Member.text) ++ ['\x7d'])) ++ rest) =
          readAlternative alternatives
            (blank ++ parts '\x7d' rest true (members.map Member.text)) := by
        rw [List.cons_append, choice_read_object, object_parts]
      simp only [Takes, Refuses, hread]
      rcases readAlternative_settled hblank hmembers with ⟨value, hvalue⟩ | hrefused
      · exact .inl ⟨value, fun rest _ => hvalue rest⟩
      · exact .inr fun rest _ => hrefused rest
    | number hc _ =>
      exact .inr (hother (ne_of_number hc (by decide)) (ne_of_number hc (by decide)))
    | null | truth | falsity | list => exact .inr (hother (by decide) (by decide))

end Choice

end Json
end MessageBus
