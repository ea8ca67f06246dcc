/-
What a decoder reads: `Yields d room cs a rest` says that the decoder succeeds on the characters
`cs`, with this much room for brackets, and leaves `rest`, wherever in its text it stands.
`Takes depth d v a` says that it does so on every text of the value `v`, behind any blanks and
before whatever may stand behind a value.
-/
import IngressRouting.Json.Record
import IngressRouting.Proofs.Json.Spelling

namespace IngressRouting.Json

/-- What may stand behind a value: the end, a blank, a comma or a closing bracket. -/
def Ends (cs : List Char) : Prop :=
  ∀ c ∈ cs.head?, isJsonBlank c = true ∨ c = ',' ∨ c = ']' ∨ c = '\x7d'

theorem ends_nil : Ends [] := fun _ h => nomatch h

theorem ends_cons {c : Char} (cs : List Char)
    (h : isJsonBlank c = true ∨ c = ',' ∨ c = ']' ∨ c = '\x7d') : Ends (c :: cs) :=
  fun _ hc => Option.some.inj hc ▸ h

theorem ends_bracket (cs : List Char) : Ends (']' :: cs) := ends_cons cs (by decide)

theorem ends_brace (cs : List Char) : Ends ('\x7d' :: cs) := ends_cons cs (by decide)

theorem Blank.ends {b cs : List Char} (hb : Blank b) (h : Ends cs) : Ends (b ++ cs) := by
  cases b with
  | nil => exact h
  | cons c b => exact ends_cons _ (.inl (hb c List.mem_cons_self))

theorem dropWhile_blank {b cs : List Char} (hb : Blank b)
    (h : ∀ c ∈ cs.head?, isJsonBlank c = false) : (b ++ cs).dropWhile isJsonBlank = cs := by
  rw [List.dropWhile_append_of_pos hb]
  cases cs with
  | nil => rfl
  | cons c cs => rw [List.dropWhile_cons, h c rfl, if_neg Bool.false_ne_true]

namespace Decoder

variable {α β : Type} {d : Decoder α} {f : α → Decoder β} {a : α} {a' : β} {room : Nat} {c : Char}
  {b cs mid rest : List Char}

/-- The reader takes the value off the text and leaves the rest, wherever the text stands. -/
def Yields (d : Decoder α) (room : Nat) (cs : List Char) (a : α) (rest : List Char) : Prop :=
  ∀ place, ∃ place', d ⟨cs, place, room⟩ = .ok a ⟨rest, place', room⟩

theorem yields_pure (a : α) : Yields (pure a) room cs a cs := fun place => ⟨place, rfl⟩

theorem bind_run {s s' : Cursor} (h : d s = .ok a s') (f : α → Decoder β) : (d >>= f) s = f a s' := by
  change EStateM.bind d f s = _
  rw [EStateM.bind, h]

theorem Yields.bind (h : Yields d room cs a mid) (h' : Yields (f a) room mid a' rest) :
    Yields (d >>= f) room cs a' rest := by
  intro place
  obtain ⟨place', hd⟩ := h place
  obtain ⟨place'', hf⟩ := h' place'
  exact ⟨place'', (bind_run hd f).trans hf⟩

theorem Yields.ofGet {f : Cursor → Decoder α}
    (h : ∀ place, Yields (f ⟨cs, place, room⟩) room cs a rest) :
    Yields (get >>= f) room cs a rest := fun place => h place place

theorem Yields.map (h : Yields d room cs a rest) (g : α → β) : Yields (g <$> d) room cs (g a) rest :=
  h.bind (yields_pure (g a))

theorem Yields.placed (h : Yields d room cs a rest) : Yields d.placed room cs a rest := by
  intro place
  obtain ⟨place', hd⟩ := h place
  exact ⟨place', by rw [Decoder.placed, hd]⟩

theorem Yields.closedBy {close : Decoder Unit} (h : Yields d room cs a mid)
    (hclose : Yields close room mid () rest) : Yields (d.closedBy close) room cs a rest := by
  intro place
  obtain ⟨place', hd⟩ := h place
  obtain ⟨place'', hc⟩ := hclose place'
  exact ⟨place'', by simp only [Decoder.closedBy, hd, hc]⟩

/-! ## Signs -/

theorem yields_peek : Yields peek room cs cs.head? cs := fun place => ⟨place, rfl⟩

theorem yields_skip : Yields (skip 1) room (c :: cs) () cs := fun _ => ⟨_, rfl⟩

theorem yields_peekPastBlank (hb : Blank b) (h : ∀ c ∈ cs.head?, isJsonBlank c = false) :
    Yields peekPastBlank room (b ++ cs) cs.head? cs := by
  intro place
  simp only [peekPastBlank, Cursor.skipBlank, dropWhile_blank hb h]
  exact ⟨_, rfl⟩

/-- Behind blanks, what is done depends on the first character that is none. -/
theorem Yields.pastBlank {f : Option Char → Decoder α} (hb : Blank b) (hc : isJsonBlank c = false)
    (h : Yields (f (some c)) room (c :: cs) a rest) :
    Yields (peekPastBlank >>= f) room (b ++ c :: cs) a rest :=
  (yields_peekPastBlank hb (by simpa using hc)).bind h

theorem yields_restOfWord (word : List Char) : Yields (restOfWord word) room (word ++ cs) () cs := by
  induction word with
  | nil => exact yields_pure ()
  | cons w word ih =>
    refine yields_peek.bind ?_
    simp only [List.cons_append, List.head?_cons, if_pos]
    exact yields_skip.bind ih

/-- An opening bracket, and behind it the body with less room. -/
theorem Yields.inside (h : Yields d (room + 1) cs a rest) :
    Yields d.inside (room + 2) (c :: cs) a rest := by
  intro place
  obtain ⟨place', hd⟩ := h (place.after c)
  refine ⟨place', ?_⟩
  have hopen : d.inside ⟨c :: cs, place, room + 2⟩ =
      (d >>= fun a => do
        modify fun c => { c with room := c.room + 1 }
        return a) ⟨cs, place.after c, room + 1⟩ := rfl
  exact hopen.trans (bind_run hd _)

/-! ## Values -/

/-- The reader takes a written value for this one, with so many lists and objects open in it. -/
def Takes (depth : Nat) (d : Decoder α) (v : Value) (a : α) : Prop :=
  ∀ ⦃before text rest : List Char⦄ ⦃room : Nat⦄, Blank before → v.Spells text → Ends rest →
    depth < room → Yields d room (before ++ text ++ rest) a rest

variable {depth depth' : Nat} {v : Value}

theorem Takes.mono (h : Takes depth d v a) (hle : depth ≤ depth') : Takes depth' d v a :=
  fun _ _ _ _ hb hv hr hroom => h hb hv hr (Nat.lt_of_le_of_lt hle hroom)

theorem Takes.map (h : Takes depth d v a) (g : α → β) : Takes depth (g <$> d) v (g a) :=
  fun _ _ _ _ hb hv hr hroom => (h hb hv hr hroom).map g

/-! ## Whole texts -/

/-- The value, with nothing but blanks behind it. -/
def whole (d : Decoder α) : Decoder α := do
  let a ← d
  match ← peekPastBlank with
  | none => return a
  | some _ => failAhead .trailingCharacters

/-- What a reader comes to, leaving aside how far it got. -/
def outcome : EStateM.Result Error Cursor α → Except Error α
  | .ok a _ => .ok a
  | .error e _ => .error e

theorem decode_eq (d : Decoder α) (text : String) :
    decode d text = outcome (whole d (.start text)) := rfl

/-- What a decoder takes, it decodes from every text, as deep as brackets may be nested. -/
theorem Takes.decode (h : Takes depth d v a) (hdepth : depth < 128) {text : List Char}
    (htext : v.Spells text) : decode d (String.ofList text) = .ok a := by
  have hread := h blank_nil htext ends_nil hdepth
  rw [List.nil_append, List.append_nil] at hread
  have hend : Yields peekPastBlank 128 [] none [] := yields_peekPastBlank blank_nil (by simp)
  have hwhole : Yields (whole d) 128 text a [] := hread.bind (hend.bind (yields_pure a))
  obtain ⟨place, hplace⟩ := hwhole .start
  rw [decode_eq, Cursor.start, String.toList_ofList, hplace]
  rfl

end Decoder

end IngressRouting.Json
