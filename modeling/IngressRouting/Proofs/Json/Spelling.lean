/-
The texts of a JSON value: `Value.Spells v cs` says that `cs` writes `v`, with any blanks
between its signs. It is where writing and reading meet. Both written forms are such texts
(`Value.spells_writeCompact`, `Value.spells_writePretty`), and what reads a value reads every
text of it, so no reader is looked at twice.
-/
import IngressRouting.Json.Cursor
import IngressRouting.Json.Value

namespace IngressRouting.Json

/-- Nothing but blanks. -/
def Blank (cs : List Char) : Prop := ∀ c ∈ cs, isJsonBlank c = true

theorem blank_nil : Blank [] := fun _ h => nomatch h

theorem blank_space : Blank [' '] := by simp [Blank, isJsonBlank]

theorem blank_newLine (level : Nat) : Blank (Value.newLine level) := by
  intro c hc
  rcases List.mem_cons.1 hc with rfl | hc
  · rfl
  · rw [(List.mem_replicate.1 hc).2]
    rfl

/-- A sign, if there is one, with blanks around it. -/
inductive Gap : Option Char → List Char → Prop
  | blank {b : List Char} (h : Blank b) : Gap none b
  | sign {b b' : List Char} (c : Char) (h : Blank b) (h' : Blank b') : Gap (some c) (b ++ c :: b')

/-- The sign before an item. -/
def comma? (first : Bool) : Option Char := if first then none else some ','

namespace Value

mutual

/-- The text writes the value, with any blanks between its signs. -/
def Spells : Value → List Char → Prop
  | null, cs => cs = ['n', 'u', 'l', 'l']
  | bool b, cs => cs = writeBool b
  | number n, cs => cs = writeNumber n
  | string s, cs => cs = writeString s
  | list vs, cs => ∃ inner, SpellsItems true vs inner ∧ cs = '[' :: inner ++ [']']
  | object ms, cs => ∃ inner, SpellsMembers true ms inner ∧ cs = '\x7b' :: inner ++ ['\x7d']

/-- The text from behind an item, or from the bracket where the items are the first, up to the
closing bracket. -/
def SpellsItems (first : Bool) : List Value → List Char → Prop
  | [], cs => Blank cs
  | v :: vs, cs => ∃ lead text rest, Gap (comma? first) lead ∧ Spells v text ∧
      SpellsItems false vs rest ∧ cs = lead ++ text ++ rest

/-- The text spells the members, in order and with any white space between them. -/
def SpellsMembers (first : Bool) : List (String × Value) → List Char → Prop
  | [], cs => Blank cs
  | (k, v) :: ms, cs => ∃ lead gap text rest, Gap (comma? first) lead ∧ Gap (some ':') gap ∧
      Spells v text ∧ SpellsMembers false ms rest ∧
      cs = lead ++ writeString k ++ gap ++ text ++ rest

end

variable {v : Value} {vs : List Value} {k : String} {ms : List (String × Value)}
  {b lead gap text rest cs : List Char} {first : Bool}

theorem SpellsItems.nil (h : Blank cs) : SpellsItems first [] cs := h

theorem SpellsMembers.nil (h : Blank cs) : SpellsMembers first [] cs := h

theorem SpellsItems.head (hb : Blank b) (hv : v.Spells text) (h : SpellsItems false vs rest) :
    SpellsItems true (v :: vs) (b ++ text ++ rest) :=
  ⟨b, text, rest, .blank hb, hv, h, rfl⟩

/-- Items become later ones behind a comma. -/
theorem SpellsItems.later (h : SpellsItems true (v :: vs) cs) :
    SpellsItems false (v :: vs) (',' :: cs) := by
  obtain ⟨lead, text, rest, hlead, hv, hvs, rfl⟩ := h
  cases hlead with
  | blank hb => exact ⟨_, text, rest, .sign ',' blank_nil hb, hv, hvs, rfl⟩

theorem SpellsMembers.head (hb : Blank b) (hgap : Gap (some ':') gap) (hv : v.Spells text)
    (h : SpellsMembers false ms rest) :
    SpellsMembers true ((k, v) :: ms) (b ++ writeString k ++ gap ++ text ++ rest) :=
  ⟨b, gap, text, rest, .blank hb, hgap, hv, h, rfl⟩

theorem SpellsMembers.later {m : String × Value} (h : SpellsMembers true (m :: ms) cs) :
    SpellsMembers false (m :: ms) (',' :: cs) := by
  obtain ⟨lead, gap, text, rest, hlead, hgap, hv, hms, rfl⟩ := h
  cases hlead with
  | blank hb => exact ⟨_, gap, text, rest, .sign ',' blank_nil hb, hgap, hv, hms, rfl⟩

/-! ## On one line -/

mutual

theorem spells_writeCompact : (v : Value) → v.Spells v.writeCompact
  | null => rfl
  | bool _ => rfl
  | number _ => rfl
  | string _ => rfl
  | list vs => ⟨_, spellsItems_writeItems vs, rfl⟩
  | object ms => ⟨_, spellsMembers_writeMembers ms, rfl⟩

theorem spellsItems_writeItems : (vs : List Value) → SpellsItems true vs (writeItems vs)
  | [] => blank_nil
  | [v] => by
    have h := SpellsItems.head blank_nil (spells_writeCompact v) (.nil blank_nil)
    rwa [List.append_nil] at h
  | v :: w :: vs =>
    .head blank_nil (spells_writeCompact v) (SpellsItems.later (spellsItems_writeItems (w :: vs)))

theorem spellsMembers_writeMembers :
    (ms : List (String × Value)) → SpellsMembers true ms (writeMembers ms)
  | [] => blank_nil
  | [(k, v)] => by
    have h := SpellsMembers.head (k := k) blank_nil (.sign ':' blank_nil blank_nil)
      (spells_writeCompact v) (.nil blank_nil)
    simpa [writeMembers] using h
  | (k, v) :: m :: ms => by
    have h := SpellsMembers.head (k := k) blank_nil (.sign ':' blank_nil blank_nil)
      (spells_writeCompact v) (SpellsMembers.later (spellsMembers_writeMembers (m :: ms)))
    simpa [writeMembers] using h

end

/-! ## Indented -/

mutual

theorem spells_writePretty (level : Nat) : (v : Value) → v.Spells (v.writePretty level)
  | null => rfl
  | bool _ => rfl
  | number _ => rfl
  | string _ => rfl
  | list [] => ⟨[], blank_nil, rfl⟩
  | list (v :: vs) =>
    ⟨_, spellsItems_writePrettyItems (level + 1) (blank_newLine level) (v :: vs), by
      simp [writePretty]⟩
  | object [] => ⟨[], blank_nil, rfl⟩
  | object (m :: ms) =>
    ⟨_, spellsMembers_writePrettyMembers (level + 1) (blank_newLine level) (m :: ms), by
      simp [writePretty]⟩

theorem spellsItems_writePrettyItems (level : Nat) {b : List Char} (hb : Blank b) :
    (vs : List Value) → SpellsItems true vs (writePrettyItems level vs ++ b)
  | [] => hb
  | [v] => .head (blank_newLine level) (spells_writePretty level v) (.nil hb)
  | v :: w :: vs => by
    have h := SpellsItems.head (blank_newLine level) (spells_writePretty level v)
      (SpellsItems.later (spellsItems_writePrettyItems level hb (w :: vs)))
    simpa [writePrettyItems] using h

theorem spellsMembers_writePrettyMembers (level : Nat) {b : List Char} (hb : Blank b) :
    (ms : List (String × Value)) → SpellsMembers true ms (writePrettyMembers level ms ++ b)
  | [] => hb
  | [(k, v)] => by
    have h := SpellsMembers.head (k := k) (blank_newLine level) (.sign ':' blank_nil blank_space)
      (spells_writePretty level v) (.nil hb)
    simpa [writePrettyMembers] using h
  | (k, v) :: m :: ms => by
    have h := SpellsMembers.head (k := k) (blank_newLine level) (.sign ':' blank_nil blank_space)
      (spells_writePretty level v)
      (SpellsMembers.later (spellsMembers_writePrettyMembers level hb (m :: ms)))
    simpa [writePrettyMembers] using h

end

end Value

end IngressRouting.Json
