/-
Literals end where they say they do. What stands between the quotes of a literal stands for
a text (`Quoted.Denotes`): a backslash for the character behind it, and all else but quotes
for itself. A reader who goes by this finds the text of a literal and what follows it, and
finds nothing in less than the literal (`Quoted.literal_delimits`).

So literals may stand side by side in a condition: those in the tests of cookies and headers
are the names and values asked for, in order, whatever is in them (`Condition.quotes_traits`).
-/
import IngressRouting.Proofs.Condition.Rendering

namespace IngressRouting

namespace Quoted

variable {inside s cs r : List Char}

/-! ## Reading -/

/-- What the inside of a literal stands for. -/
inductive Denotes : List Char → List Char → Prop
  | nil : Denotes [] []
  | plain {c : Char} {inside s : List Char} (hquote : c ≠ '"') (hslash : c ≠ '\\')
      (hrest : Denotes inside s) : Denotes (c :: inside) (c :: s)
  /-- A backslash makes any character stand for itself. -/
  | escaped {inside s : List Char} (c : Char) (hrest : Denotes inside s) :
      Denotes ('\\' :: c :: inside) (c :: s)

theorem read_of_denotes (h : Denotes inside s) (r : List Char) :
    read (inside ++ '"' :: r) = some (s, r) := by
  induction h with
  | nil => rfl
  | @plain c inside s hquote hslash _ ih =>
    rw [List.cons_append, read, ih]
    · rfl
    · exact hquote
    · exact fun h _ => hslash h
    · exact fun _ _ h => absurd h hslash
  | escaped c _ ih =>
    rw [List.cons_append, List.cons_append, read, ih]
    rfl

theorem denotes_of_read (h : read cs = some (s, r)) :
    ∃ inside, Denotes inside s ∧ cs = inside ++ '"' :: r := by
  fun_induction read cs generalizing s with
  | case1 => cases h
  | case2 =>
    cases h
    exact ⟨[], .nil, rfl⟩
  | case3 => cases h
  | case4 c cs ih =>
    obtain ⟨⟨s, r⟩, hread, heq⟩ := Option.map_eq_some_iff.1 h
    cases heq
    obtain ⟨inside, hinside, rfl⟩ := ih hread
    exact ⟨'\\' :: c :: inside, .escaped c hinside, rfl⟩
  | case5 c cs hquote hend hnext ih =>
    obtain ⟨⟨s, r⟩, hread, heq⟩ := Option.map_eq_some_iff.1 h
    cases heq
    obtain ⟨inside, hinside, rfl⟩ := ih hread
    have hslash : c ≠ '\\' := by
      intro hc
      cases hcs : inside ++ '"' :: r with
      | nil => exact hend hc hcs
      | cons d ds => exact hnext d ds hc hcs
    exact ⟨c :: inside, .plain hquote hslash hinside, rfl⟩

/-- **The reader goes by what literals stand for**, up to the first quote without a backslash
of its own. -/
theorem read_eq_some_iff :
    read cs = some (s, r) ↔ ∃ inside, Denotes inside s ∧ cs = inside ++ '"' :: r :=
  ⟨denotes_of_read, fun ⟨_, hinside, hcs⟩ => hcs ▸ read_of_denotes hinside r⟩

theorem read_append (h : read cs = some (s, r)) (more : List Char) :
    read (cs ++ more) = some (s, r ++ more) := by
  obtain ⟨inside, hinside, rfl⟩ := read_eq_some_iff.1 h
  exact read_eq_some_iff.2 ⟨inside, hinside, by simp⟩

/-! ## Literals -/

/-- The text that the literal at the start of a text stands for, and what follows the
literal. -/
def decode? (text : String) : Option (String × String) :=
  match text.toList with
  | '"' :: cs => (read cs).map fun (s, r) => (String.ofList s, String.ofList r)
  | _ => none

theorem decode?_eq_some_iff {text s r : String} : decode? text = some (s, r) ↔
    ∃ cs, text.toList = '"' :: cs ∧ read cs = some (s.toList, r.toList) := by
  unfold decode?
  split
  · next cs hcs =>
    rw [hcs, Option.map_eq_some_iff]
    constructor
    · rintro ⟨⟨s', r'⟩, hread, heq⟩
      cases heq
      exact ⟨cs, rfl, by simpa using hread⟩
    · rintro ⟨cs', heq, hread⟩
      cases heq
      exact ⟨_, hread, by simp⟩
  · next hquote =>
    refine iff_of_false nofun ?_
    rintro ⟨cs, hcs, -⟩
    exact hquote cs hcs

theorem decode?_literal (s r : String) : decode? (literal s ++ r) = some (s, r) := by
  refine decode?_eq_some_iff.2 ⟨encode s.toList ++ '"' :: r.toList, ?_, read_encode _ _⟩
  simp [literal]

theorem decode?_append {text s r : String} (h : decode? text = some (s, r)) (more : String) :
    decode? (text ++ more) = some (s, r ++ more) := by
  obtain ⟨cs, hcs, hread⟩ := decode?_eq_some_iff.1 h
  refine decode?_eq_some_iff.2 ⟨cs ++ more.toList, ?_, ?_⟩
  · rw [String.toList_append, hcs, List.cons_append]
  · rw [String.toList_append]
    exact read_append hread more.toList

/-- **Literals delimit themselves.** Whatever text a literal is for and whatever follows it,
it is read as that text, and what follows is left. So no two literals begin one text, and no
part of a literal short of the whole is read as one. -/
theorem literal_delimits (s r : String) : decode? (literal s ++ r) = some (s, r) ∧
    (∀ t r', literal s ++ r = literal t ++ r' → s = t ∧ r = r') ∧
    ∀ front back, literal s = front ++ back → back ≠ "" → decode? front = none := by
  refine ⟨decode?_literal s r, fun t r' h => ?_, fun front back h hback => ?_⟩
  · have hread := decode?_literal s r
    rw [h, decode?_literal] at hread
    cases hread
    exact ⟨rfl, rfl⟩
  · have hwhole := decode?_literal s ""
    rw [String.append_empty, h] at hwhole
    cases hfront : decode? front with
    | none => rfl
    | some p =>
      rw [decode?_append hfront] at hwhole
      simp at hwhole
      exact absurd hwhole.2.2 hback

/-- A quote behind a backslash ends nothing. -/
example : decode? "\"a\\\"" = none := by decide +kernel

/-! ## Literals in a text -/

/-- The literals in a text stand for these texts, one after the other. -/
inductive Quotes : List Char → List String → Prop
  | none {cs : List Char} (hcut : cutList '"' cs = none) : Quotes cs []
  | literal {cs gap rest r : List Char} {s : String} {ss : List String}
      (hcut : cutList '"' cs = some (gap, rest)) (hread : read rest = some (s.toList, r))
      (hrest : Quotes r ss) : Quotes cs (s :: ss)

theorem Quotes.unique {ss ts : List String} (h : Quotes cs ss) (h' : Quotes cs ts) : ss = ts := by
  induction h generalizing ts with
  | none hcut =>
    cases h' with
    | none => rfl
    | literal hcut' => simp [hcut] at hcut'
  | literal hcut hread _ ih =>
    cases h' with
    | none hcut' => simp [hcut] at hcut'
    | literal hcut' hread' hrest' =>
      rw [hcut] at hcut'
      cases hcut'
      rw [hread] at hread'
      obtain ⟨hs, rfl⟩ := Prod.mk.inj (Option.some.inj hread')
      rw [String.toList_inj.1 hs, ih hrest']

/-- What has no quotes in it has no literals. -/
theorem Quotes.behind {gap : List Char} {ss : List String} (h : Quotes cs ss) (hgap : '"' ∉ gap) :
    Quotes (gap ++ cs) ss := by
  cases h with
  | none hcut =>
    refine .none ?_
    cases hsome : cutList '"' (gap ++ cs) with
    | none => rfl
    | some p =>
      obtain ⟨hsplit, -⟩ := cutList_eq_some_iff.1 hsome
      have hmem : '"' ∈ gap ++ cs := hsplit ▸ List.mem_append_right _ List.mem_cons_self
      obtain ⟨a, b, hab⟩ := exists_cutList ((List.mem_append.1 hmem).resolve_left hgap)
      rw [hcut] at hab
      cases hab
  | literal hcut hread hrest =>
    obtain ⟨rfl, hbefore⟩ := cutList_eq_some_iff.1 hcut
    refine .literal (cutList_eq_some_iff.2 ⟨(List.append_assoc ..).symm, ?_⟩) hread hrest
    exact fun hmem => (List.mem_append.1 hmem).elim hgap hbefore

theorem Quotes.behind_literal {ss : List String} (s : String) (h : Quotes cs ss) :
    Quotes ((Quoted.literal s).toList ++ cs) (s :: ss) := by
  have hcut : cutList '"' ((Quoted.literal s).toList ++ cs) = some ([], encode s.toList ++ '"' :: cs) :=
    cutList_eq_some_iff.2 ⟨by simp [Quoted.literal], List.not_mem_nil⟩
  exact .literal hcut (read_encode _ _) h

end Quoted

namespace Condition

open Quoted

theorem quotes_trait (t : Trait) {cs : List Char} {ss : List String} (h : Quotes cs ss) :
    Quotes (t.render.toList ++ cs) (t.name :: t.value :: ss) := by
  have hplace : '"' ∉ t.place.function.toList ++ "(".toList := by cases t.place <;> decide
  have hcomma : '"' ∉ ", ".toList := by decide
  have hend : '"' ∉ ", false)".toList := by decide
  have hvalue : Quotes ((literal t.value).toList ++ (", false)".toList ++ cs)) (t.value :: ss) :=
    (h.behind hend).behind_literal t.value
  have hname := ((hvalue.behind hcomma).behind_literal t.name).behind hplace
  simpa [Trait.render, List.append_assoc] using hname

/-- **The literals in the tests of traits are their names and values**, whatever these are. -/
theorem quotes_traits (ts : List Trait) {ss : List String} :
    Quotes ((traits ts).render.getD "").toList ss ↔ ss = ts.flatMap fun t => [t.name, t.value] := by
  have hquotes : Quotes ((traits ts).render.getD "").toList (ts.flatMap fun t => [t.name, t.value]) := by
    rw [render]
    induction ts with
    | nil => exact .none rfl
    | cons t ts ih =>
      rw [List.map_cons, join_cons, List.flatMap_cons]
      cases hjoin : join (ts.map Trait.render) with
      | none =>
        rw [hjoin] at ih
        simpa [conjoin] using quotes_trait t ih
      | some text =>
        rw [hjoin] at ih
        have hconnective : '"' ∉ connective.toList := by decide
        have hlater := quotes_trait t (ih.behind hconnective)
        simpa [conjoin] using hlater
  exact ⟨fun h => h.unique hquotes, fun h => h ▸ hquotes⟩

end Condition

end IngressRouting
