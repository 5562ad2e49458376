/-
# Settings documents member by member

An object is read as settings one member at a time. A member whose name is that
of a field, and whose value the field takes, changes the parts of that name to
values that do not depend on what they were, and no other part (`SetsOnly`); any
other member makes the document a problem, and so does a second member of one
name. So the order of members is of no account, and each part is what the
member of its name makes it on its own, or as it is at first if there is none.

Key definitions: `SetsOnly`, `Puts`, `ReadsMembers`.
Key theorems: `lawful_fields`, `ofJson_text_iff`, `reads_members`.
-/
import MessageBus.Proofs.Json.Members
import MessageBus.Proofs.Settings.Document
import MessageBus.Proofs.Settings.Part

namespace MessageBus
namespace Settings

open Json (ObjectDocument IsBlank IsString IsValue Settles Takes Refuses Steps Runs)

/-! ### Fields -/

/-- A change to the parts that are written under one name, whatever they were. -/
structure SetsOnly (name : String) (change : Settings → Settings) : Prop where
  own : ∀ s p, p.name? = some name → (change s).value p = (change {}).value p
  others : ∀ s p, p.name? ≠ some name → (change s).value p = s.value p

/-- The values of a field are taken or refused whatever the settings are, and one that is taken
changes only what is written under the name of the field. -/
structure Field.Lawful (field : Field) : Prop where
  settles : ∀ s, Settles (field.read s)
  changes : ∀ {text}, IsValue text →
    (∃ change, SetsOnly field.name change ∧ ∀ s, Takes (field.read s) text (change s)) ∨
      ∀ s, Refuses (field.read s) text

theorem Field.Lawful.of_codec {α : Type} {name : String} {codec : Json.Codec α} {get : Settings → α}
    {set : Settings → α → Settings} (h : Settles codec.read)
    (hset : ∀ value, SetsOnly name fun s => set s value) :
    (Field.of name codec get set).Lawful where
  settles s := h.map (set s)
  changes htext := by
    rcases h.value htext with ⟨value, htakes⟩ | hrefuses
    · exact .inl ⟨fun s => set s value, hset value, fun s => htakes.map (set s)⟩
    · exact .inr fun s => hrefuses.map (set s)

theorem lawful_fields : ∀ field ∈ fields, field.Lawful := by
  have htext : Settles Json.text.read := Json.settles_textAs "a string"
  have hword := Json.settles_optional Json.settles_word64
  have hcount := Json.settles_optional Json.settles_signed32
  have htruth := Json.settles_optional Json.settles_boolean
  simp only [fields, List.forall_mem_cons]
  refine ⟨.of_codec Json.settles_word64 ?_, .of_codec Json.settles_boolean ?_,
    .of_codec Json.settles_word64 ?_, .of_codec Json.settles_word64 ?_,
    .of_codec Json.settles_word64 ?_, .of_codec (Json.settles_dictionary htext) ?_,
    .of_codec Json.settles_boolean ?_,
    .of_codec (Json.settles_optional (Json.settles_list htext)) ?_, .of_codec hword ?_,
    .of_codec hword ?_, .of_codec hword ?_, .of_codec htruth ?_,
    .of_codec (Json.settles_optional Json.settles_float) ?_, .of_codec hcount ?_,
    .of_codec hcount ?_, .of_codec hcount ?_, .of_codec htruth ?_,
    .of_codec (Json.settles_optional Json.settles_choice) ?_, fun _ h => nomatch h⟩
  -- a part is written under the name of the field, or the field leaves it alone
  all_goals
    intro value
    constructor
    all_goals
      intro s p hp
      cases p
      all_goals first | rfl | simp [Part.name?] at hp

/-! ### One member -/

/-- The progress when the member of a name has left the settings `s`. -/
def Progress.after (p : Progress) (name : String) (s : Settings) : Progress := ⟨s, name :: p.seen⟩

/-- A member may stand under the name of a field that has not been seen, and nowhere else. -/
theorem readMember_eq_ok_iff {name : String} {p : Progress} {read : Json.Reader Progress} :
    readMember name p = .ok read ↔ name ∉ p.seen ∧ ∃ field ∈ fields, field.name = name ∧
      read = fun text =>
        (field.read p.settings text).map fun (s, rest) => (p.after name s, rest) := by
  constructor
  · intro h
    unfold readMember at h
    cases hfind : fields.find? fun field => field.name == name with
    | none =>
      rw [hfind] at h
      cases h
    | some field =>
      rw [hfind] at h
      dsimp only at h
      by_cases hseen : name ∈ p.seen
      · rw [if_pos hseen] at h
        cases h
      · rw [if_neg hseen] at h
        cases h
        have hname : field.name = name := by simpa using List.find?_some hfind
        exact ⟨hseen, field, List.mem_of_find?_eq_some hfind, hname, rfl⟩
  · rintro ⟨hseen, field, hfield, rfl, rfl⟩
    have hfind := find?_field nodup_fieldNames hfield
    simp only [readMember, hfind, if_neg hseen, Progress.after]

theorem readMember_settles (name : String) (p : Progress) (read : Json.Reader Progress)
    (h : readMember name p = .ok read) : Settles read := by
  obtain ⟨-, field, hfield, rfl, rfl⟩ := readMember_eq_ok_iff.1 h
  exact ((lawful_fields field hfield).settles p.settings).map (p.after field.name)

/-- A member, given by its name and value without blanks, changes what is written under a name. -/
def Puts (bare : List Char × List Char) (name : String) (change : Settings → Settings) : Prop :=
  IsString bare.1 name ∧ SetsOnly name change ∧
    ∃ field ∈ fields, field.name = name ∧ ∀ s, Takes (field.read s) bare.2 (change s)

/-- **A step is a change under a name that has not been seen.** -/
theorem steps_iff {m : Json.Member} (hm : m.IsWritten) {p p' : Progress} :
    Steps readMember m p p' ↔ ∃ name change, Puts m.bare name change ∧ name ∉ p.seen ∧
      p' = p.after name (change p.settings) := by
  constructor
  · rintro ⟨name, read, hname, hread, htakes⟩
    obtain ⟨hseen, field, hfield, rfl, rfl⟩ := readMember_eq_ok_iff.1 hread
    rcases (lawful_fields field hfield).changes hm.value with ⟨change, hsets, hchange⟩ | hrefuses
    · have hafter := (hchange p.settings).map (p.after field.name)
      exact ⟨field.name, change, ⟨hname, hsets, field, hfield, rfl, hchange⟩, hseen,
        htakes.unique hafter⟩
    · have hrefused := (hrefuses p.settings).map (p.after field.name)
      exact absurd hrefused htakes.not_refuses
  · rintro ⟨name, change, ⟨hname, hsets, field, hfield, rfl, hchange⟩, hseen, rfl⟩
    have hread := readMember_eq_ok_iff.2 ⟨hseen, field, hfield, rfl, rfl⟩
    exact ⟨field.name, _, hname, hread, (hchange p.settings).map (p.after field.name)⟩

/-! ### All members -/

/-- The settings after changes, one after the other. -/
def putAll (puts : List (String × (Settings → Settings))) (s : Settings) : Settings :=
  puts.foldl (fun s put => put.2 s) s

/-- Members without blanks make the changes under their names. -/
abbrev PutsAll : List (List Char × List Char) → List (String × (Settings → Settings)) → Prop :=
  List.Forall₂ fun bare put => Puts bare put.1 put.2

/-- Names that are distinct, and none of which has been seen. -/
def Fresh (seen names : List String) : Prop := names.Nodup ∧ ∀ name ∈ names, name ∉ seen

theorem fresh_cons_iff {seen names : List String} {name : String} :
    Fresh seen (name :: names) ↔ name ∉ seen ∧ Fresh (name :: seen) names := by
  rw [Fresh, Fresh, List.nodup_cons, List.forall_mem_cons]
  constructor
  · rintro ⟨⟨hnew, hnodup⟩, hseen, hfresh⟩
    refine ⟨hseen, hnodup, fun other hother hmem => ?_⟩
    rcases List.mem_cons.1 hmem with rfl | hmem
    · exact hnew hother
    · exact hfresh other hother hmem
  · rintro ⟨hseen, hnodup, hfresh⟩
    have hnew : name ∉ names := fun hmem => hfresh name hmem List.mem_cons_self
    exact ⟨⟨hnew, hnodup⟩, hseen, fun other hother hmem =>
      hfresh other hother (List.mem_cons_of_mem _ hmem)⟩

theorem fresh_nil_iff {names : List String} : Fresh [] names ↔ names.Nodup := by
  simp [Fresh]

/-- **A run makes changes under distinct names that have not been seen.** -/
theorem runs_iff : ∀ {members : List Json.Member} {p : Progress} {s : Settings},
    (∀ m ∈ members, m.IsWritten) →
      ((∃ seen, Runs readMember p members ⟨s, seen⟩) ↔
        ∃ puts, PutsAll (members.map Json.Member.bare) puts ∧ Fresh p.seen (puts.map Prod.fst) ∧
          s = putAll puts p.settings)
  | [], p, s, _ => by
    constructor
    · rintro ⟨seen, hruns⟩
      cases hruns
      exact ⟨[], .nil, ⟨List.nodup_nil, fun _ h => nomatch h⟩, rfl⟩
    · rintro ⟨puts, hputs, -, rfl⟩
      cases hputs
      exact ⟨p.seen, .nil p⟩
  | m :: members, p, s, hmembers => by
    have hm := hmembers m List.mem_cons_self
    have ih (p : Progress) (s : Settings) :=
      runs_iff (p := p) (s := s) fun q hq => hmembers q (List.mem_cons_of_mem m hq)
    constructor
    · rintro ⟨seen, hruns⟩
      cases hruns with
      | cons hstep hlater =>
        obtain ⟨name, change, hput, hseen, rfl⟩ := (steps_iff hm).1 hstep
        obtain ⟨puts, hputs, hfresh, rfl⟩ := (ih _ s).1 ⟨seen, hlater⟩
        exact ⟨(name, change) :: puts, .cons hput hputs, fresh_cons_iff.2 ⟨hseen, hfresh⟩, rfl⟩
    · rintro ⟨puts, hputs, hfresh, rfl⟩
      cases hputs with
      | @cons _ put _ puts hput hputs =>
        obtain ⟨hseen, hfresh⟩ := fresh_cons_iff.1 hfresh
        have hstep := (steps_iff hm).2 ⟨put.1, put.2, hput, hseen, rfl⟩
        obtain ⟨seen, hruns⟩ :=
          (ih (p.after put.1 (put.2 p.settings)) _).2 ⟨puts, hputs, hfresh, rfl⟩
        exact ⟨seen, .cons hstep hruns⟩

/-! ### What changes under distinct names make -/

section PutAll

variable {puts : List (String × (Settings → Settings))} {part : Part}

/-- A part that is written under no name of a change stays. -/
theorem value_putAll_of_absent (hsets : ∀ put ∈ puts, SetsOnly put.1 put.2) (s : Settings)
    (h : ∀ put ∈ puts, part.name? ≠ some put.1) : (putAll puts s).value part = s.value part := by
  induction puts generalizing s with
  | nil => rfl
  | cons put puts ih =>
    have hlater := ih (fun q hq => hsets q (List.mem_cons_of_mem _ hq)) (put.2 s)
      fun q hq => h q (List.mem_cons_of_mem _ hq)
    exact hlater.trans ((hsets put List.mem_cons_self).others s part (h put List.mem_cons_self))

/-- A part that is written under the name of a change is what that change makes it. -/
theorem value_putAll_of_mem (hsets : ∀ put ∈ puts, SetsOnly put.1 put.2)
    (hnodup : (puts.map Prod.fst).Nodup) (s : Settings) {put : String × (Settings → Settings)}
    (hput : put ∈ puts) (h : part.name? = some put.1) :
    (putAll puts s).value part = (put.2 {}).value part := by
  induction puts generalizing s with
  | nil => cases hput
  | cons first puts ih =>
    obtain ⟨hnew, hnodup⟩ := List.nodup_cons.1 hnodup
    have hlater : ∀ q ∈ puts, SetsOnly q.1 q.2 := fun q hq => hsets q (List.mem_cons_of_mem _ hq)
    rcases List.mem_cons.1 hput with rfl | hput
    · have habsent : ∀ q ∈ puts, part.name? ≠ some q.1 := by
        intro q hq hsame
        have heq : put.1 = q.1 := Option.some.inj (h.symm.trans hsame)
        exact hnew (heq ▸ List.mem_map_of_mem hq)
      exact (value_putAll_of_absent hlater (put.2 s) habsent).trans
        ((hsets put List.mem_cons_self).own s part h)
    · exact ih hlater hnodup (first.2 s) hput

/-- The order of changes under distinct names is of no account. -/
theorem putAll_perm {puts' : List (String × (Settings → Settings))} (hperm : puts'.Perm puts)
    (hsets : ∀ put ∈ puts, SetsOnly put.1 put.2) (hnodup : (puts.map Prod.fst).Nodup)
    (s : Settings) : putAll puts' s = putAll puts s := by
  have hsets' : ∀ put ∈ puts', SetsOnly put.1 put.2 := fun q hq => hsets q (hperm.mem_iff.1 hq)
  have hnodup' : (puts'.map Prod.fst).Nodup := (hperm.map Prod.fst).nodup_iff.2 hnodup
  refine eq_of_value fun part => ?_
  by_cases h : ∃ put ∈ puts, part.name? = some put.1
  · obtain ⟨put, hput, hname⟩ := h
    rw [value_putAll_of_mem hsets hnodup s hput hname,
      value_putAll_of_mem hsets' hnodup' s (hperm.mem_iff.2 hput) hname]
  · have habsent : ∀ put ∈ puts, part.name? ≠ some put.1 := fun q hq hsame => h ⟨q, hq, hsame⟩
    rw [value_putAll_of_absent hsets s habsent,
      value_putAll_of_absent hsets' s fun q hq => habsent q (hperm.mem_iff.1 hq)]

end PutAll

section Forall₂

variable {α β : Type} {R : α → β → Prop} {xs : List α} {ys : List β}

theorem exists_right (h : List.Forall₂ R xs ys) {x : α} (hx : x ∈ xs) : ∃ y ∈ ys, R x y := by
  induction h with
  | nil => cases hx
  | cons hfirst _ ih =>
    rcases List.mem_cons.1 hx with rfl | hx
    · exact ⟨_, List.mem_cons_self, hfirst⟩
    · obtain ⟨y, hy, hxy⟩ := ih hx
      exact ⟨y, List.mem_cons_of_mem _ hy, hxy⟩

theorem exists_left (h : List.Forall₂ R xs ys) {y : β} (hy : y ∈ ys) : ∃ x ∈ xs, R x y :=
  exists_right (R := flip R) (List.Forall₂.flip h) hy

end Forall₂

theorem setsOnly_of_putsAll {bares : List (List Char × List Char)}
    {puts : List (String × (Settings → Settings))} (h : PutsAll bares puts) :
    ∀ put ∈ puts, SetsOnly put.1 put.2 := by
  intro put hput
  obtain ⟨_, -, hputs⟩ := exists_left h hput
  exact hputs.2.1

/-! ### Documents -/

section Documents

variable {d : ObjectDocument} {s : Settings}

/-- What goes wrong with a text is a problem with the settings. -/
theorem ofJson_eq_error (text : String) (h : ¬ ∃ s, ofJson text = .ok s) :
    ∃ problem, ofJson text = .error (.configuration (.badSettings problem)) := by
  unfold ofJson at h ⊢
  cases hread : Json.readAll readDocument text with
  | ok s =>
    rw [hread] at h
    exact absurd ⟨s, rfl⟩ h
  | error problem => exact ⟨problem, rfl⟩

theorem readDocument_object (d : ObjectDocument) :
    readDocument d.text.toList = (Json.readMembers readMember ⟨{}, []⟩ (d.blank ++
      (Text.join [','] (d.members.map Json.Member.text) ++ ['\x7d']) ++ d.after)).map
        fun (p, rest) => (p.settings, rest) := by
  have hbrace : Json.isSpace '\x7b' = false := by decide
  rw [ObjectDocument.text, String.toList_ofList, readDocument, Json.readBy,
    d.isBlank_before.skipSpace, Json.objectText, List.cons_append, Json.skipSpace_cons hbrace]
  rfl

theorem ofJson_of_runs {p : Progress} (h : Runs readMember ⟨{}, []⟩ d.members p) :
    ofJson d.text = .ok p.settings := by
  have hread := Json.readMembers_of_runs readMember_settles d.isBlank_blank d.isWritten h d.after
  have hend : Json.skipSpace d.after = [] := List.dropWhile_eq_nil_iff.2 d.isBlank_after
  have hall : Json.readAll readDocument d.text = .ok p.settings := by
    rw [Json.readAll, readDocument_object, hread]
    simp only [Except.map, bind, Except.bind, hend]
    rfl
  rw [ofJson, hall]

theorem ofJson_of_not_runs (h : ¬ ∃ p, Runs readMember ⟨{}, []⟩ d.members p) :
    ofJson d.text ≠ .ok s := by
  obtain ⟨problem, hproblem⟩ := Json.readMembers_of_not_runs readMember_settles d.isBlank_blank
    d.isWritten h d.after
  have hall : Json.readAll readDocument d.text = .error problem := by
    rw [Json.readAll, readDocument_object, hproblem]
    rfl
  rw [ofJson, hall]
  rintro ⟨⟩

/-- **A document is read as settings exactly when its members make changes under distinct
names, and the settings are what these make of the defaults.** -/
theorem ofJson_text_iff : ofJson d.text = .ok s ↔
    ∃ puts, PutsAll (d.members.map Json.Member.bare) puts ∧ (puts.map Prod.fst).Nodup ∧
      s = putAll puts {} := by
  have hruns : ofJson d.text = .ok s ↔ ∃ seen, Runs readMember ⟨{}, []⟩ d.members ⟨s, seen⟩ := by
    constructor
    · intro hread
      by_cases h : ∃ p, Runs readMember ⟨{}, []⟩ d.members p
      · obtain ⟨p, hp⟩ := h
        obtain rfl : p.settings = s := Except.ok.inj ((ofJson_of_runs hp).symm.trans hread)
        exact ⟨p.seen, hp⟩
      · exact absurd hread (ofJson_of_not_runs h)
    · rintro ⟨seen, hp⟩
      exact ofJson_of_runs hp
  rw [hruns, runs_iff d.isWritten]
  simp only [fresh_nil_iff]

/-- **A document with one member is read as what that member makes of the defaults.** -/
theorem ofJson_alone_iff {m : Json.Member} (hm : m.IsWritten) :
    ofJson m.alone = .ok s ↔ ∃ name change, Puts m.bare name change ∧ s = change {} := by
  rw [← ObjectDocument.text_only m hm, ofJson_text_iff]
  constructor
  · rintro ⟨puts, hputs, -, rfl⟩
    cases hputs with
    | @cons _ put _ puts hput hputs =>
      cases hputs
      exact ⟨put.1, put.2, hput, rfl⟩
  · rintro ⟨name, change, hput, rfl⟩
    exact ⟨[(name, change)], .cons hput .nil, by simp, rfl⟩

/-- **Members make changes of their own under distinct names exactly when each makes one, and no
two have the same name.** -/
theorem exists_putsAll_iff {members : List Json.Member} :
    (∃ puts, PutsAll (members.map Json.Member.bare) puts ∧ (puts.map Prod.fst).Nodup) ↔
      (∀ m ∈ members, ∃ name change, Puts m.bare name change) ∧
        members.Pairwise fun m m' => ∀ name, m.Names name → ¬ m'.Names name := by
  induction members with
  | nil => exact ⟨fun _ => ⟨(fun _ h => nomatch h), .nil⟩, fun _ => ⟨[], .nil, List.nodup_nil⟩⟩
  | cons m members ih =>
    rw [List.forall_mem_cons, List.pairwise_cons]
    constructor
    · rintro ⟨puts, hputs, hnodup⟩
      cases hputs with
      | @cons _ put _ puts hput hputs =>
        obtain ⟨hnew, hnodup⟩ := List.nodup_cons.1 hnodup
        obtain ⟨hall, hdistinct⟩ := ih.1 ⟨puts, hputs, hnodup⟩
        refine ⟨⟨⟨put.1, put.2, hput⟩, hall⟩, fun m' hm' name hname hname' => ?_, hdistinct⟩
        obtain ⟨other, hother, hsame⟩ := exists_right hputs (List.mem_map_of_mem hm')
        have hfirst : name = put.1 := Json.Member.Names.unique (m := m) hname hput.1
        have hlater : name = other.1 := Json.Member.Names.unique (m := m') hname' hsame.1
        exact hnew (hfirst ▸ hlater ▸ List.mem_map_of_mem hother)
    · rintro ⟨⟨⟨name, change, hput⟩, hall⟩, hdistinct, hlater⟩
      obtain ⟨puts, hputs, hnodup⟩ := ih.2 ⟨hall, hlater⟩
      refine ⟨(name, change) :: puts, .cons hput hputs, List.nodup_cons.2 ⟨fun hmem => ?_, hnodup⟩⟩
      obtain ⟨other, hother, rfl⟩ := List.mem_map.1 hmem
      obtain ⟨bare, hbare, hput'⟩ := exists_left hputs hother
      obtain ⟨m', hm', rfl⟩ := List.mem_map.1 hbare
      exact hdistinct m' hm' other.1 hput.1 hput'.1

/-- A member is a name and a string. -/
def HoldsText (e : Json.Member) (pair : String × String) : Prop :=
  e.Names pair.1 ∧ IsString e.value.core pair.2

/-- What a document of members is read as. -/
structure ReadsMembers (d : ObjectDocument) : Prop where
  /-- The names of members are eighteen, and the proxy has none. -/
  names : fieldNames.length = 18 ∧ fieldNames.Nodup ∧ "proxyHandlerFactory" ∉ fieldNames ∧
    ∀ name, name ∈ fieldNames ↔ ∃ part : Part, part.name? = some name
  /-- The order of members, and the blanks between them, are of no account. -/
  permuted : ∀ d' : ObjectDocument,
    (d'.members.map Json.Member.bare).Perm (d.members.map Json.Member.bare) →
      ∀ s, ofJson d'.text = .ok s ↔ ofJson d.text = .ok s
  /-- A document is read exactly when each of its members is on its own, and no two have the
  same name. -/
  accepted : (∃ s, ofJson d.text = .ok s) ↔ (∀ m ∈ d.members, ∃ t, ofJson m.alone = .ok t) ∧
    d.members.Pairwise fun m m' => ∀ name, m.Names name → ¬ m'.Names name
  /-- What no member names is as it is at first. -/
  absent : ∀ s, ofJson d.text = .ok s → ∀ part : Part,
    (∀ m ∈ d.members, ∀ name, part.name? = some name → ¬ m.Names name) →
      s.value part = part.initial
  /-- What a member names is as that member makes it on its own. -/
  named : ∀ s, ofJson d.text = .ok s → ∀ m ∈ d.members, ∀ name, m.Names name →
    name ∈ fieldNames ∧ ∃ t, ofJson m.alone = .ok t ∧
      ∀ part : Part, part.name? = some name → s.value part = t.value part
  /-- A member of another name is a problem, whatever the others are. -/
  foreign : ∀ m ∈ d.members, (∀ name ∈ fieldNames, ¬ m.Names name) →
    ∃ problem, ofJson d.text = .error (.configuration (.badSettings problem))
  /-- Two members of one name are a problem, whatever the others are. -/
  twice : ∀ m m' name, [m, m'].Sublist d.members → m.Names name → m'.Names name →
    ∃ problem, ofJson d.text = .error (.configuration (.badSettings problem))
  /-- An option may be given repeatedly; the last one of a key counts. -/
  options : ∀ m ∈ d.members, m.Names "configurationOptions" → ∀ blank entries pairs,
    IsBlank blank → (∀ e ∈ entries, e.IsWritten) →
    m.value.core = Json.objectText blank entries →
    List.Forall₂ HoldsText entries pairs →
      (∃ t, ofJson m.alone = .ok t) ∧ ∀ s, ofJson d.text = .ok s → ∀ key,
        s.value (.option key) = Dictionary.lookup key pairs.reverse

theorem permuted_of_perm {d' : ObjectDocument}
    (hperm : (d'.members.map Json.Member.bare).Perm (d.members.map Json.Member.bare))
    (h : ofJson d.text = .ok s) : ofJson d'.text = .ok s := by
  obtain ⟨puts, hputs, hnodup, rfl⟩ := ofJson_text_iff.1 h
  obtain ⟨puts', hputs', hsame⟩ := List.perm_comp_forall₂ hperm hputs
  have hnodup' : (puts'.map Prod.fst).Nodup := (hsame.map Prod.fst).nodup_iff.2 hnodup
  exact ofJson_text_iff.2 ⟨puts', hputs', hnodup',
    (putAll_perm hsame (setsOnly_of_putsAll hputs) hnodup {}).symm⟩

theorem accepted_iff : (∃ s, ofJson d.text = .ok s) ↔
    (∀ m ∈ d.members, ∃ t, ofJson m.alone = .ok t) ∧
      d.members.Pairwise fun m m' => ∀ name, m.Names name → ¬ m'.Names name := by
  have halone : (∀ m ∈ d.members, ∃ t, ofJson m.alone = .ok t) ↔
      ∀ m ∈ d.members, ∃ name change, Puts m.bare name change := by
    refine forall₂_congr fun m hm => ⟨fun ⟨t, ht⟩ => ?_, fun ⟨name, change, hput⟩ => ?_⟩
    · obtain ⟨name, change, hput, -⟩ := (ofJson_alone_iff (d.isWritten m hm)).1 ht
      exact ⟨name, change, hput⟩
    · exact ⟨change {}, (ofJson_alone_iff (d.isWritten m hm)).2 ⟨name, change, hput, rfl⟩⟩
  rw [halone, ← exists_putsAll_iff]
  constructor
  · rintro ⟨s, hs⟩
    obtain ⟨puts, hputs, hnodup, -⟩ := ofJson_text_iff.1 hs
    exact ⟨puts, hputs, hnodup⟩
  · rintro ⟨puts, hputs, hnodup⟩
    exact ⟨putAll puts {}, ofJson_text_iff.2 ⟨puts, hputs, hnodup, rfl⟩⟩

theorem Puts.mem_fieldNames {bare : List Char × List Char} {name : String}
    {change : Settings → Settings} (h : Puts bare name change) : name ∈ fieldNames := by
  obtain ⟨-, -, field, hfield, rfl, -⟩ := h
  exact List.mem_map_of_mem hfield

theorem value_of_absent (h : ofJson d.text = .ok s) {part : Part}
    (habsent : ∀ m ∈ d.members, ∀ name, part.name? = some name → ¬ m.Names name) :
    s.value part = part.initial := by
  obtain ⟨puts, hputs, -, rfl⟩ := ofJson_text_iff.1 h
  refine (value_putAll_of_absent (setsOnly_of_putsAll hputs) {} fun put hput hname => ?_).trans
    (value_new part)
  obtain ⟨bare, hbare, hmakes⟩ := exists_left hputs hput
  obtain ⟨m, hm, rfl⟩ := List.mem_map.1 hbare
  exact habsent m hm put.1 hname hmakes.1

theorem value_of_named (h : ofJson d.text = .ok s) {m : Json.Member} (hm : m ∈ d.members)
    {name : String} (hname : m.Names name) : name ∈ fieldNames ∧ ∃ t, ofJson m.alone = .ok t ∧
      ∀ part : Part, part.name? = some name → s.value part = t.value part := by
  obtain ⟨puts, hputs, hnodup, rfl⟩ := ofJson_text_iff.1 h
  obtain ⟨put, hput, hmakes⟩ := exists_right hputs (List.mem_map_of_mem hm)
  obtain rfl : name = put.1 := hname.unique hmakes.1
  refine ⟨hmakes.mem_fieldNames, put.2 {},
    (ofJson_alone_iff (d.isWritten m hm)).2 ⟨put.1, put.2, hmakes, rfl⟩, fun part hpart => ?_⟩
  exact value_putAll_of_mem (setsOnly_of_putsAll hputs) hnodup {} hput hpart

def optionsField : Field :=
  .of "configurationOptions" (Json.dictionary Json.text) (·.options)
    fun s v => { s with options := v }

theorem optionsField_mem : optionsField ∈ fields := List.mem_of_getElem? (i := 5) rfl

/-- The settings of a member that holds options. -/
theorem ofJson_alone_options {m : Json.Member} (hm : m.IsWritten)
    (hname : m.Names "configurationOptions") {blank : List Char} {entries : List Json.Member}
    {pairs : List (String × String)} (hblank : IsBlank blank)
    (hentries : ∀ e ∈ entries, e.IsWritten) (hvalue : m.value.core = Json.objectText blank entries)
    (hpairs : List.Forall₂ HoldsText entries pairs) :
    ofJson m.alone = .ok { options := Dictionary.ofList pairs } := by
  have hholds : List.Forall₂ (Json.Member.Holds Json.text) entries pairs :=
    hpairs.imp fun _ _ h => ⟨h.1, Json.takes_textAs "a string" h.2⟩
  have htakes : Takes (Json.dictionary Json.text).read m.value.core (.ofList pairs) := by
    rw [hvalue]
    exact Json.takes_dictionary (Json.settles_textAs "a string") hblank hentries hholds
  have hread : Takes (optionsField.read {}) m.value.core { options := .ofList pairs } :=
    htakes.map fun v => ({ options := v } : Settings)
  rcases (lawful_fields optionsField optionsField_mem).changes hm.value with
    ⟨change, hsets, hchange⟩ | hrefuses
  · exact (ofJson_alone_iff hm).2 ⟨"configurationOptions", change,
      ⟨hname, hsets, optionsField, optionsField_mem, rfl, hchange⟩, hread.unique (hchange {})⟩
  · exact absurd (hrefuses {}) hread.not_refuses

/-- **Documents of members are strict about names, partial, and free in their order.** -/
theorem reads_members (d : ObjectDocument) : ReadsMembers d where
  names := ⟨rfl, nodup_fieldNames, by decide, fun _ => mem_fieldNames_iff⟩
  permuted d' hperm s := ⟨permuted_of_perm hperm.symm, permuted_of_perm hperm⟩
  accepted := accepted_iff
  absent s hs part habsent := value_of_absent hs habsent
  named s hs m hm name hname := value_of_named hs hm hname
  foreign m hm hforeign := by
    refine ofJson_eq_error d.text fun ⟨s, hs⟩ => ?_
    obtain ⟨puts, hputs, -, -⟩ := ofJson_text_iff.1 hs
    obtain ⟨put, -, hmakes⟩ := exists_right hputs (List.mem_map_of_mem hm)
    exact hforeign put.1 hmakes.mem_fieldNames hmakes.1
  twice m m' name hsub hname hname' := by
    refine ofJson_eq_error d.text fun hread => ?_
    have hdistinct := List.pairwise_iff_forall_sublist.1 (accepted_iff.1 hread).2 hsub
    exact hdistinct name hname hname'
  options m hm hname blank entries pairs hblank hentries hvalue hpairs := by
    have halone := ofJson_alone_options (d.isWritten m hm) hname hblank hentries hvalue hpairs
    refine ⟨⟨_, halone⟩, fun s hs key => ?_⟩
    obtain ⟨-, t, ht, hsame⟩ := value_of_named hs hm hname
    obtain rfl := Except.ok.inj (halone.symm.trans ht)
    exact (hsame (.option key) rfl).trans (Dictionary.get?_ofList key pairs)

end Documents

/-- The characters of a name with an escape in it. -/
def escapedName : List Char := ['\\', 'u', '0', '0', '7', '4'] ++ "raceFrames".toList

theorem isString_escapedName : IsString (Json.stringText escapedName) "traceFrames" := by
  have hplain : Json.Spells "raceFrames".toList "raceFrames".toList :=
    Json.spells_plain (by decide)
  exact ⟨escapedName, rfl, @Json.Spells.unit '0' '0' '7' '4' 0x74 _ _ (by decide) (by decide)
    (by decide) hplain⟩

/-- The entries of an option that is given twice. -/
def repeatedOption : List Json.Member :=
  [Json.Member.plain (Json.stringText "a".toList) (Json.stringText "1".toList),
    Json.Member.plain (Json.stringText "a".toList) (Json.stringText "2".toList)]

theorem holds_repeatedOption :
    List.Forall₂ HoldsText repeatedOption [("a", "1"), ("a", "2")] := by
  have hname : IsString (Json.stringText "a".toList) "a" := Json.isString_plain "a" (by decide)
  exact .cons ⟨hname, Json.isString_plain "1" (by decide)⟩
    (.cons ⟨hname, Json.isString_plain "2" (by decide)⟩ .nil)

theorem isWritten_repeatedOption : ∀ e ∈ repeatedOption, e.IsWritten := by
  have hname : IsString (Json.stringText "a".toList) "a" := Json.isString_plain "a" (by decide)
  intro e he
  rcases List.mem_pair.1 he with rfl | rfl
  · exact Json.Member.isWritten_plain hname.exists_isBody
      (Json.isString_plain "1" (by decide)).isValue
  · exact Json.Member.isWritten_plain hname.exists_isBody
      (Json.isString_plain "2" (by decide)).isValue

/-- A document with an escaped name and an option that is given twice. -/
def mixedDocument : ObjectDocument where
  before := [' ']
  blank := ['\n']
  members := [Json.Member.plain (Json.stringText escapedName) ['t', 'r', 'u', 'e'],
    Json.Member.plain (Json.stringText "configurationOptions".toList)
      (Json.objectText [] repeatedOption)]
  after := ['\t']
  isBlank_before := by decide
  isBlank_blank := by decide
  isBlank_after := by decide
  isWritten m hm := by
    have hname := Json.isString_plain "configurationOptions" (by decide)
    rcases List.mem_pair.1 hm with rfl | rfl
    · exact Json.Member.isWritten_plain isString_escapedName.exists_isBody .truth
    · exact Json.Member.isWritten_plain hname.exists_isBody
        (Json.isValue_objectText .nil isWritten_repeatedOption)

/-- The last of the two values counts, whatever the order of the members is. -/
theorem reads_members_mixed :
    mixedDocument.text = " \x7b\n\"\\u0074raceFrames\":true,\"configurationOptions\":" ++
      "\x7b\"a\":\"1\",\"a\":\"2\"\x7d\x7d\t" ∧
    ∃ s, ofJson mixedDocument.text = .ok s ∧ s.options.get? "a" = some "2" ∧ s.traceFrames = true ∧
      ofJson ("\x7b\"configurationOptions\":\x7b\"a\":\"1\",\"a\":\"2\"\x7d," ++
        "\"traceFrames\":true\x7d") = .ok s := by
  have hread : ofJson mixedDocument.text =
      .ok { traceFrames := true, options := .ofList [("a", "2")] } := by
    decide +kernel
  have hlast := (reads_members mixedDocument).options _
    (List.mem_cons_of_mem _ List.mem_cons_self)
    (Json.isString_plain "configurationOptions" (by decide)) [] repeatedOption _ .nil
    isWritten_repeatedOption rfl holds_repeatedOption
  exact ⟨by decide +kernel, _, hread, (hlast.2 _ hread "a").trans rfl, rfl, by decide +kernel⟩

end Settings
end MessageBus
