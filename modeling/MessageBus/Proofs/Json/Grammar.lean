/-
# The grammar of JSON texts

Which texts are JSON values, said without a reader: words, numbers, strings,
lists and objects, with blanks wherever they may stand. `IsValue` has one
constructor for each kind of value. A name is read off the characters of a
string by `Spells`; characters that write half of a surrogate pair are a string
of the grammar, and spell nothing.

Key definitions: `IsValue`, `Padded`, `Member`, `Spells`, `IsString`, `ObjectDocument`.
Key theorem: `IsValue.opening`, by which the first character tells the kind of a value.
-/
import MessageBus.Json.Reader
import MessageBus.Text

namespace MessageBus
namespace Json

/-- Blanks between the parts of a text. -/
def IsBlank (s : List Char) : Prop := ∀ c ∈ s, isSpace c = true

instance (s : List Char) : Decidable (IsBlank s) :=
  decidable_of_iff (s.all isSpace = true) List.all_eq_true

/-! ### Numbers -/

def IsDigits (s : List Char) : Prop := s ≠ [] ∧ ∀ c ∈ s, c.isDigit = true

/-- A zero, or digits of which the first is none. -/
def IsWhole (s : List Char) : Prop := s = ['0'] ∨ (IsDigits s ∧ s.head? ≠ some '0')

/-- A point and digits, or nothing. -/
def IsFraction (s : List Char) : Prop := s = [] ∨ ∃ digits, IsDigits digits ∧ s = '.' :: digits

/-- An `e` with a sign or without one and digits, or nothing. -/
def IsExponent (s : List Char) : Prop :=
  s = [] ∨ ∃ e sign digits, (e = 'e' ∨ e = 'E') ∧ (sign = [] ∨ sign = ['+'] ∨ sign = ['-']) ∧
    IsDigits digits ∧ s = e :: (sign ++ digits)

/-- A number, after its sign. -/
def IsMagnitude (s : List Char) : Prop :=
  ∃ whole fraction exponent, IsWhole whole ∧ IsFraction fraction ∧ IsExponent exponent ∧
    s = whole ++ (fraction ++ exponent)

def IsNumber (s : List Char) : Prop := ∃ t, IsMagnitude t ∧ (s = t ∨ s = '-' :: t)

/-! ### Strings -/

/-- The characters of a string between its quotes: any but quotes, backslashes and controls, and
escapes for any. -/
inductive IsBody : List Char → Prop
  | nil : IsBody []
  | plain {c : Char} {body : List Char} (hquote : c ≠ '"') (hback : c ≠ '\\')
    (hlow : ¬ c.toNat < 0x20) (hbody : IsBody body) : IsBody (c :: body)
  | short {e c : Char} {body : List Char} (h : shortEscape? e = some c) (hbody : IsBody body) :
    IsBody ('\\' :: e :: body)
  | unit {x y z w : Char} {unit : Nat} {body : List Char} (h : hexUnit? x y z w = some unit)
    (hbody : IsBody body) : IsBody ('\\' :: 'u' :: x :: y :: z :: w :: body)

/-- The text that the characters of a string write. -/
inductive Spells : List Char → List Char → Prop
  | nil : Spells [] []
  | plain {c : Char} {body text : List Char} (hquote : c ≠ '"') (hback : c ≠ '\\')
    (hlow : ¬ c.toNat < 0x20) (hbody : Spells body text) : Spells (c :: body) (c :: text)
  | short {e c : Char} {body text : List Char} (h : shortEscape? e = some c)
    (hbody : Spells body text) : Spells ('\\' :: e :: body) (c :: text)
  | unit {x y z w : Char} {unit : Nat} {body text : List Char} (h : hexUnit? x y z w = some unit)
    (hlead : isLead unit = false) (htrail : isTrail unit = false) (hbody : Spells body text) :
    Spells ('\\' :: 'u' :: x :: y :: z :: w :: body) (Char.ofNat unit :: text)
  | pair {x y z w x' y' z' w' : Char} {lead trail : Nat} {body text : List Char}
    (h : hexUnit? x y z w = some lead) (hlead : isLead lead = true)
    (h' : hexUnit? x' y' z' w' = some trail) (htrail : isTrail trail = true)
    (hbody : Spells body text) :
    Spells ('\\' :: 'u' :: x :: y :: z :: w :: '\\' :: 'u' :: x' :: y' :: z' :: w' :: body)
      (pairedChar lead trail :: text)

theorem Spells.isBody {body text : List Char} (h : Spells body text) : IsBody body := by
  induction h with
  | nil => exact .nil
  | plain hquote hback hlow _ ih => exact .plain hquote hback hlow ih
  | short h _ ih => exact .short h ih
  | unit h _ _ _ ih => exact .unit h ih
  | pair h _ h' _ _ ih => exact .unit h (.unit h' ih)

/-- Whether a character needs no escape. -/
def isPlain (c : Char) : Bool := c != '"' && c != '\\' && 0x20 ≤ c.toNat

/-- Characters that need no escape write themselves. -/
theorem spells_plain : ∀ {s : List Char}, s.all isPlain = true → Spells s s
  | [], _ => .nil
  | c :: s, h => by
    simp only [List.all_cons, isPlain, Bool.and_eq_true, bne_iff_ne, decide_eq_true_eq] at h
    exact .plain h.1.1.1 h.1.1.2 (Nat.not_lt.2 h.1.2) (spells_plain h.2)

def stringText (body : List Char) : List Char := '"' :: (body ++ ['"'])

/-- A text is a string that writes `s`. -/
def IsString (text : List Char) (s : String) : Prop :=
  ∃ body, text = stringText body ∧ Spells body s.toList

theorem isString_plain (s : String) (h : s.toList.all isPlain = true) :
    IsString (stringText s.toList) s :=
  ⟨s.toList, rfl, spells_plain h⟩

/-! ### Values -/

/-- A part of a text with the blanks around it. -/
structure Padded where
  before : List Char := []
  core : List Char
  after : List Char := []

namespace Padded

def text (p : Padded) : List Char := p.before ++ (p.core ++ p.after)

structure HasBlanks (p : Padded) : Prop where
  before : IsBlank p.before
  after : IsBlank p.after

end Padded

/-- A member of an object: a string and a value. -/
structure Member where
  name : Padded
  value : Padded

namespace Member

def text (m : Member) : List Char := m.name.text ++ ':' :: m.value.text

/-- A member without the blanks. -/
def bare (m : Member) : List Char × List Char := (m.name.core, m.value.core)

/-- The name that a member has. -/
def Names (m : Member) (name : String) : Prop := IsString m.name.core name

def plain (name value : List Char) : Member := ⟨{ core := name }, { core := value }⟩

/-- A member without its blanks, as a member. -/
def trimmed (m : Member) : Member := plain m.name.core m.value.core

end Member

/-- A list; blanks alone may stand in an empty one. -/
def listText (blank : List Char) (items : List Padded) : List Char :=
  '[' :: (blank ++ (Text.join [','] (items.map Padded.text) ++ [']']))

/-- An object; blanks alone may stand in an empty one. -/
def objectText (blank : List Char) (members : List Member) : List Char :=
  '\x7b' :: (blank ++ (Text.join [','] (members.map Member.text) ++ ['\x7d']))

inductive IsValue : List Char → Prop
  | null : IsValue ['n', 'u', 'l', 'l']
  | truth : IsValue ['t', 'r', 'u', 'e']
  | falsity : IsValue ['f', 'a', 'l', 's', 'e']
  | number {s : List Char} (h : IsNumber s) : IsValue s
  | string {body : List Char} (h : IsBody body) : IsValue (stringText body)
  | list {blank : List Char} {items : List Padded} (hblank : IsBlank blank)
    (hpadded : ∀ p ∈ items, p.HasBlanks) (hitems : ∀ p ∈ items, IsValue p.core) :
    IsValue (listText blank items)
  | object {blank : List Char} {members : List Member} (hblank : IsBlank blank)
    (hpadded : ∀ m ∈ members, m.name.HasBlanks ∧ m.value.HasBlanks)
    (hnames : ∀ m ∈ members, ∃ body, IsBody body ∧ m.name.core = stringText body)
    (hvalues : ∀ m ∈ members, IsValue m.value.core) : IsValue (objectText blank members)

structure Padded.IsItem (p : Padded) : Prop where
  blanks : p.HasBlanks
  value : IsValue p.core

structure Member.IsWritten (m : Member) : Prop where
  nameBlanks : m.name.HasBlanks
  valueBlanks : m.value.HasBlanks
  name : ∃ body, IsBody body ∧ m.name.core = stringText body
  value : IsValue m.value.core

structure ObjectDocument where
  before : List Char
  blank : List Char
  members : List Member
  after : List Char
  isBlank_before : IsBlank before
  isBlank_blank : IsBlank blank
  isBlank_after : IsBlank after
  isWritten : ∀ m ∈ members, m.IsWritten

namespace ObjectDocument

def text (d : ObjectDocument) : String :=
  String.ofList (d.before ++ (objectText d.blank d.members ++ d.after))

end ObjectDocument

theorem IsBlank.nil : IsBlank [] := fun _ h => nomatch h

theorem Member.isWritten_plain {name value : List Char}
    (hname : ∃ body, IsBody body ∧ name = stringText body) (hvalue : IsValue value) :
    (Member.plain name value).IsWritten :=
  ⟨⟨.nil, .nil⟩, ⟨.nil, .nil⟩, hname, hvalue⟩

theorem Member.IsWritten.trimmed {m : Member} (h : m.IsWritten) : m.trimmed.IsWritten :=
  isWritten_plain h.name h.value

/-- The text of an object with one member and no blanks. -/
def Member.alone (m : Member) : String := String.ofList (objectText [] [m.trimmed])

/-- The object with one member and no blanks. -/
def ObjectDocument.only (m : Member) (h : m.IsWritten) : ObjectDocument where
  before := []
  blank := []
  members := [m.trimmed]
  after := []
  isBlank_before := .nil
  isBlank_blank := .nil
  isBlank_after := .nil
  isWritten _ hm := List.mem_singleton.1 hm ▸ h.trimmed

theorem ObjectDocument.text_only (m : Member) (h : m.IsWritten) :
    (ObjectDocument.only m h).text = m.alone := by
  rw [text, only, List.append_nil]
  rfl

theorem IsString.exists_isBody {text : List Char} {s : String} (h : IsString text s) :
    ∃ body, IsBody body ∧ text = stringText body := by
  obtain ⟨body, htext, hspells⟩ := h
  exact ⟨body, hspells.isBody, htext⟩

theorem IsString.isValue {text : List Char} {s : String} (h : IsString text s) : IsValue text := by
  obtain ⟨body, hbody, rfl⟩ := h.exists_isBody
  exact .string hbody

theorem isValue_objectText {blank : List Char} {members : List Member} (hblank : IsBlank blank)
    (h : ∀ m ∈ members, m.IsWritten) : IsValue (objectText blank members) :=
  .object hblank (fun m hm => ⟨(h m hm).nameBlanks, (h m hm).valueBlanks⟩)
    (fun m hm => (h m hm).name) fun m hm => (h m hm).value

/-! ### How a value begins -/

theorem IsWhole.opening {s : List Char} (h : IsWhole s) :
    ∃ c t, s = c :: t ∧ c.isDigit = true := by
  rcases h with rfl | ⟨⟨hne, hdigits⟩, -⟩
  · exact ⟨'0', [], rfl, by decide⟩
  · obtain ⟨c, t, rfl⟩ := List.exists_cons_of_ne_nil hne
    exact ⟨c, t, rfl, hdigits c List.mem_cons_self⟩

theorem IsMagnitude.opening {s : List Char} (h : IsMagnitude s) :
    ∃ c t, s = c :: t ∧ c.isDigit = true := by
  obtain ⟨whole, fraction, exponent, hwhole, -, -, rfl⟩ := h
  obtain ⟨c, t, rfl, hc⟩ := hwhole.opening
  exact ⟨c, _, rfl, hc⟩

theorem IsNumber.opening {s : List Char} (h : IsNumber s) :
    ∃ c t, s = c :: t ∧ (c = '-' ∨ c.isDigit = true) := by
  obtain ⟨t, ht, rfl | rfl⟩ := h
  · obtain ⟨c, t, rfl, hc⟩ := ht.opening
    exact ⟨c, t, rfl, .inr hc⟩
  · exact ⟨'-', t, rfl, .inl rfl⟩

/-- Every kind of value has first characters of its own. -/
inductive Opening : Char → List Char → Prop
  | null : Opening 'n' ['u', 'l', 'l']
  | truth : Opening 't' ['r', 'u', 'e']
  | falsity : Opening 'f' ['a', 'l', 's', 'e']
  | number {c : Char} {s : List Char} (hc : c = '-' ∨ c.isDigit = true)
    (h : IsNumber (c :: s)) : Opening c s
  | string {body : List Char} (h : IsBody body) : Opening '"' (body ++ ['"'])
  | list {blank : List Char} {items : List Padded} (hblank : IsBlank blank)
    (hitems : ∀ p ∈ items, p.IsItem) :
    Opening '[' (blank ++ (Text.join [','] (items.map Padded.text) ++ [']']))
  | object {blank : List Char} {members : List Member} (hblank : IsBlank blank)
    (hmembers : ∀ m ∈ members, m.IsWritten) :
    Opening '\x7b' (blank ++ (Text.join [','] (members.map Member.text) ++ ['\x7d']))

/-- The first character of a number is that of no other value. -/
theorem ne_of_number {c d : Char} (hc : c = '-' ∨ c.isDigit = true)
    (hd : ¬ (d = '-' ∨ d.isDigit = true)) : c ≠ d := by
  rintro rfl
  exact hd hc

theorem Opening.notSpace {c : Char} {s : List Char} (h : Opening c s) : isSpace c = false := by
  cases h with
  | number hc _ =>
    refine Bool.eq_false_iff.2 fun hspace => ?_
    simp only [isSpace, Bool.or_eq_true, beq_iff_eq] at hspace
    rcases hspace with ((rfl | rfl) | rfl) | rfl <;> exact absurd hc (by decide)
  | null | truth | falsity | string | list | object => decide

theorem Opening.ne_bracket {c : Char} {s : List Char} (h : Opening c s) : c ≠ ']' := by
  cases h with
  | number hc _ => exact ne_of_number hc (by decide)
  | null | truth | falsity | string | list | object => decide

theorem IsValue.opening {s : List Char} (h : IsValue s) : ∃ c t, s = c :: t ∧ Opening c t := by
  cases h with
  | null => exact ⟨_, _, rfl, .null⟩
  | truth => exact ⟨_, _, rfl, .truth⟩
  | falsity => exact ⟨_, _, rfl, .falsity⟩
  | number h =>
    obtain ⟨c, t, rfl, hc⟩ := h.opening
    exact ⟨c, t, rfl, .number hc h⟩
  | string h => exact ⟨_, _, rfl, .string h⟩
  | list hblank hpadded hitems =>
    exact ⟨_, _, rfl, .list hblank fun p hp => ⟨hpadded p hp, hitems p hp⟩⟩
  | object hblank hpadded hnames hvalues =>
    exact ⟨_, _, rfl, .object hblank fun m hm =>
      ⟨(hpadded m hm).1, (hpadded m hm).2, hnames m hm, hvalues m hm⟩⟩

end Json
end MessageBus
