/-
Host and path patterns, by the texts they are read from: which texts are accepted
(`HostPattern.exists_parse_iff`, `PathPattern.exists_parse_iff`), that a pattern is written
back as its text was given, and what the flags of a text that ranking looks at say of its
pattern (`patterns_exact`).
-/
import IngressRouting.Match.Pattern
import Mathlib.Data.List.Basic

namespace IngressRouting

/-! ## Hosts -/

namespace HostPattern

variable {host : String} {p : HostPattern}

/-- A text without a marker, the marker alone, or the marker, a dot and at least one more
character, with no marker among these. -/
def Grammatical (host : String) : Prop :=
  '*' ∉ host.toList ∨ host = anyText ∨
    ∃ cs, cs ≠ [] ∧ '*' ∉ cs ∧ host.toList = '*' :: '.' :: cs

theorem parse_suffixed {cs : List Char} (hne : cs ≠ []) (hcs : host.toList = '*' :: '.' :: cs) :
    parse host = if '*' ∈ cs then .error (.wildcardHost host)
      else .ok (.wildcard (String.ofList ('.' :: cs))) := by
  have hsome : ¬ (host = "" ∨ host = anyText) := by rintro (rfl | rfl) <;> cases hcs
  obtain ⟨c, r, rfl⟩ := List.exists_cons_of_ne_nil hne
  rw [parse, if_neg hsome, hcs]
  rfl

theorem parse_unmarked (hne : host ≠ "") (h : '*' ∉ host.toList) : parse host = .ok (.exact host) := by
  have hsome : ¬ (host = "" ∨ host = anyText) := by
    rintro (he | rfl)
    · exact hne he
    · exact h List.mem_cons_self
  rw [parse, if_neg hsome]
  split
  · next c r hcs =>
    rw [hcs] at h
    exact absurd List.mem_cons_self h
  · rw [if_neg h]

/-- **What a host is accepted as**: every host where none or the marker alone is given,
those with a suffix where the marker and a dot stand before it, and otherwise a name
without a marker. -/
theorem parse_cases (h : parse host = .ok p) :
    (host = "" ∨ host = anyText) ∧ p = .any ∨
    (∃ cs, cs ≠ [] ∧ host.toList = '*' :: '.' :: cs ∧ p = .wildcard (String.ofList ('.' :: cs))) ∨
    host ≠ "" ∧ '*' ∉ host.toList ∧ p = .exact host := by
  rw [parse] at h
  split at h
  · next hany => exact .inl ⟨hany, (Except.ok.inj h).symm⟩
  · next hany =>
    split at h
    · next c r hcs =>
      split at h
      · cases h
      · exact .inr (.inl ⟨c :: r, List.cons_ne_nil c r, hcs, (Except.ok.inj h).symm⟩)
    · split at h
      · cases h
      · next hm => exact .inr (.inr ⟨(not_or.1 hany).1, hm, (Except.ok.inj h).symm⟩)

/-- **Hosts are accepted by their grammar.** -/
theorem exists_parse_iff : (∃ p, parse host = .ok p) ↔ Grammatical host := by
  constructor
  · rintro ⟨p, h⟩
    rcases parse_cases h with ⟨rfl | rfl, -⟩ | ⟨cs, hne, hcs, rfl⟩ | ⟨-, hm, -⟩
    · exact .inl List.not_mem_nil
    · exact .inr (.inl rfl)
    · refine .inr (.inr ⟨cs, hne, fun hm => ?_, hcs⟩)
      rw [parse_suffixed hne hcs, if_pos hm] at h
      cases h
    · exact .inl hm
  · rintro (hm | rfl | ⟨cs, hne, hm, hcs⟩)
    · by_cases hempty : host = ""
      · exact ⟨.any, hempty ▸ rfl⟩
      · exact ⟨_, parse_unmarked hempty hm⟩
    · exact ⟨.any, rfl⟩
    · exact ⟨_, by rw [parse_suffixed hne hcs, if_neg hm]⟩

/-- A host that is refused is named by the fault. -/
theorem parse_eq_error_iff {f : Fault} :
    parse host = .error f ↔ f = .wildcardHost host ∧ ∀ p, parse host ≠ .ok p := by
  have hfault : ∀ f, parse host = .error f → f = .wildcardHost host := by
    intro f hf
    unfold parse at hf
    split at hf
    · cases hf
    · split at hf
      · split at hf
        · cases hf
          rfl
        · cases hf
      · split at hf
        · cases hf
          rfl
        · cases hf
  constructor
  · intro hf
    exact ⟨hfault f hf, fun p hp => by rw [hf] at hp; cases hp⟩
  · intro ⟨hf, hno⟩
    cases hp : parse host with
    | error e => rw [hf, hfault e hp]
    | ok p => exact absurd hp (hno p)

/-- The text that a pattern is written as. -/
def spelling : HostPattern → String
  | any => anyText
  | wildcard suffix => "*" ++ suffix
  | exact name => name

theorem spelling_of_parse (h : parse host = .ok p) : p.spelling = if host = "" then anyText else host := by
  rcases parse_cases h with ⟨rfl | rfl, rfl⟩ | ⟨cs, _, hcs, rfl⟩ | ⟨hne, _, rfl⟩
  · rfl
  · rfl
  · have hne : host ≠ "" := fun he => by simp [he] at hcs
    rw [if_neg hne, ← String.toList_inj, spelling, hcs]
    simp
  · rw [if_neg hne, spelling]

/-- A pattern is read from one text, where the text is not left out. -/
theorem eq_of_parse {host' : String} (hne : host ≠ "") (hne' : host' ≠ "") (h : parse host = .ok p)
    (h' : parse host' = .ok p) : host = host' := by
  have htext := (spelling_of_parse h).symm.trans (spelling_of_parse h')
  rwa [if_neg hne, if_neg hne'] at htext

/-- The pattern has more than one host. -/
def StandsForMany : HostPattern → Prop
  | any | wildcard _ => True
  | exact _ => False

theorem isWildcardText_iff : isWildcardText host = true ↔ host = anyText ∨ ['*', '.'] <+: host.toList := by
  rw [isWildcardText, Bool.or_eq_true, beq_iff_eq, List.isPrefixOf_iff_prefix]
  rfl

theorem isWildcardText_iff_of_parse (h : parse host = .ok p) (hne : host ≠ "") :
    isWildcardText host = true ↔ p.StandsForMany := by
  rw [isWildcardText_iff]
  rcases parse_cases h with ⟨hany, rfl⟩ | ⟨cs, _, hcs, rfl⟩ | ⟨_, hm, rfl⟩
  · exact iff_of_true (.inl (hany.resolve_left hne)) trivial
  · exact iff_of_true (.inr (hcs ▸ List.prefix_append ['*', '.'] cs)) trivial
  · refine iff_of_false ?_ id
    rintro (rfl | hstart)
    · exact hm List.mem_cons_self
    · exact hm (hstart.subset List.mem_cons_self)

end HostPattern

/-! ## Paths -/

namespace PathPattern

variable {path : String} {q : PathPattern}

theorem splitMarker_append (cs : List Char) : splitMarker (cs ++ ['*']) = (cs, true) := by
  simp [splitMarker]

theorem splitMarker_of_notMem {cs : List Char} (h : '*' ∉ cs) : splitMarker cs = (cs, false) := by
  rw [splitMarker, if_neg fun hlast => h (List.mem_of_getLast? hlast)]

/-- The marker alone, or at least one character and no marker among these, with a marker
behind them or without. -/
def Grammatical (path : String) : Prop :=
  path = "*" ∨ ∃ cs, cs ≠ [] ∧ '*' ∉ cs ∧ (path.toList = cs ∨ path.toList = cs ++ ['*'])

theorem parse_marked {cs : List Char} (hne : cs ≠ []) (hcs : path.toList = cs ++ ['*']) :
    parse path = if '*' ∈ cs then .error (.illegalPath path) else .ok (.below (String.ofList cs)) := by
  have hempty : path ≠ "" := fun he => by simp [he] at hcs
  have hany : path ≠ "*" := by
    rintro rfl
    exact hne (List.append_cancel_right (show cs ++ ['*'] = [] ++ ['*'] from hcs.symm))
  rw [parse, if_neg hempty, if_neg hany, hcs, splitMarker_append]
  simp only [hne, or_false, if_true]

theorem parse_unmarked (hne : path ≠ "") (h : '*' ∉ path.toList) : parse path = .ok (.exact path) := by
  have hany : path ≠ "*" := by
    rintro rfl
    exact h List.mem_cons_self
  have hbody : path.toList ≠ [] := fun hnil => hne (String.toList_eq_nil_iff.1 hnil)
  simp [parse, hne, hany, splitMarker_of_notMem h, h, hbody]

/-- **What a path is accepted as**: every path where the marker alone is given, those
below a path where the marker stands behind it, and otherwise the path itself. -/
theorem parse_cases (h : parse path = .ok q) :
    path = "*" ∧ q = .any ∨
    (∃ cs, cs ≠ [] ∧ path.toList = cs ++ ['*'] ∧ q = .below (String.ofList cs)) ∨
    path ≠ "" ∧ '*' ∉ path.toList ∧ q = .exact path := by
  rw [parse] at h
  split at h
  · cases h
  · next hempty =>
    split at h
    · next hany => exact .inl ⟨hany, (Except.ok.inj h).symm⟩
    · rcases List.eq_nil_or_concat' path.toList with hnil | ⟨cs, c, hcs⟩
      · exact absurd (String.toList_eq_nil_iff.1 hnil) hempty
      · by_cases hc : c = '*'
        · subst hc
          simp only [hcs, splitMarker_append] at h
          split at h
          · cases h
          · next hbody => exact .inr (.inl ⟨cs, (not_or.1 hbody).2, hcs, (Except.ok.inj h).symm⟩)
        · have hlast : splitMarker path.toList = (path.toList, false) := by
            simp [splitMarker, hcs, hc]
          simp only [hlast] at h
          split at h
          · cases h
          · next hbody => exact .inr (.inr ⟨hempty, (not_or.1 hbody).1, (Except.ok.inj h).symm⟩)

/-- **Paths are accepted by their grammar.** -/
theorem exists_parse_iff : (∃ q, parse path = .ok q) ↔ Grammatical path := by
  constructor
  · rintro ⟨q, h⟩
    rcases parse_cases h with ⟨rfl, -⟩ | ⟨cs, hne, hcs, rfl⟩ | ⟨hne, hm, -⟩
    · exact .inl rfl
    · refine .inr ⟨cs, hne, fun hm => ?_, .inr hcs⟩
      rw [parse_marked hne hcs, if_pos hm] at h
      cases h
    · exact .inr ⟨path.toList, fun hnil => hne (String.toList_eq_nil_iff.1 hnil), hm, .inl rfl⟩
  · rintro (rfl | ⟨cs, hne, hm, rfl | hcs⟩)
    · exact ⟨.any, rfl⟩
    · exact ⟨_, parse_unmarked (fun he => hne (String.toList_eq_nil_iff.2 he)) hm⟩
    · exact ⟨_, by rw [parse_marked hne hcs, if_neg hm]⟩

theorem parse_eq_error {f : Fault} (h : parse path = .error f) :
    f = if path = "" then .emptyPath else .illegalPath path := by
  rw [parse] at h
  split at h
  · next hempty =>
    cases h
    rw [if_pos hempty]
  · next hempty =>
    rw [if_neg hempty]
    split at h
    · cases h
    · dsimp only at h
      split at h
      · cases h
        rfl
      · split at h <;> cases h

/-- The text that a pattern is written as. -/
def spelling : PathPattern → String
  | any => "*"
  | below path => path ++ "*"
  | exact path => path

theorem spelling_of_parse (h : parse path = .ok q) : q.spelling = path := by
  rcases parse_cases h with ⟨rfl, rfl⟩ | ⟨cs, _, hcs, rfl⟩ | ⟨_, _, rfl⟩
  · rfl
  · rw [← String.toList_inj, spelling, hcs]
    simp
  · rfl

/-- A pattern is read from one text. -/
theorem eq_of_parse {path' : String} (h : parse path = .ok q) (h' : parse path' = .ok q) : path = path' :=
  (spelling_of_parse h).symm.trans (spelling_of_parse h')

/-- The pattern has more than one path. -/
def StandsForMany : PathPattern → Prop
  | any | below _ => True
  | exact _ => False

theorem isMarkedText_iff : isMarkedText path = true ↔ ∃ cs, path.toList = cs ++ ['*'] := by
  rw [isMarkedText, beq_iff_eq, List.getLast?_eq_some_iff]

theorem isMarkedText_iff_of_parse (h : parse path = .ok q) :
    isMarkedText path = true ↔ q.StandsForMany := by
  rw [isMarkedText_iff]
  rcases parse_cases h with ⟨rfl, rfl⟩ | ⟨cs, _, hcs, rfl⟩ | ⟨_, hm, rfl⟩
  · exact iff_of_true ⟨[], rfl⟩ trivial
  · exact iff_of_true ⟨cs, hcs⟩ trivial
  · refine iff_of_false ?_ id
    rintro ⟨cs, hcs⟩
    exact hm (hcs ▸ List.mem_append_right cs List.mem_cons_self)

end PathPattern

/-! ## Both -/

/-- **Patterns are read by their grammars, and nothing is lost.** Hosts and paths are accepted
where their grammars have them, and refused by a fault that names them where not. What is
read is written back as it was given, but for a host that was left out, which is written as
the marker; so no other two texts come to one pattern. And the flags that ranking looks at
tell those that are read as standing for many, but for a host that was left out. -/
theorem patterns_exact :
    (∀ host, (∃ p, HostPattern.parse host = .ok p) ↔ HostPattern.Grammatical host) ∧
    (∀ path, (∃ q, PathPattern.parse path = .ok q) ↔ PathPattern.Grammatical path) ∧
    (∀ host f, HostPattern.parse host = .error f → f = .wildcardHost host) ∧
    (∀ path f, PathPattern.parse path = .error f →
      f = if path = "" then .emptyPath else .illegalPath path) ∧
    (∀ host p, HostPattern.parse host = .ok p →
      p.spelling = (if host = "" then HostPattern.anyText else host) ∧
        (host ≠ "" → (HostPattern.isWildcardText host = true ↔ p.StandsForMany))) ∧
    (∀ path q, PathPattern.parse path = .ok q →
      q.spelling = path ∧ (PathPattern.isMarkedText path = true ↔ q.StandsForMany)) ∧
    (∀ host host' p, HostPattern.parse host = .ok p → HostPattern.parse host' = .ok p →
      host = host' ∨ host ∈ ["", HostPattern.anyText] ∧ host' ∈ ["", HostPattern.anyText]) ∧
    ∀ path path' q, PathPattern.parse path = .ok q → PathPattern.parse path' = .ok q →
      path = path' := by
  refine ⟨fun _ => HostPattern.exists_parse_iff, fun _ => PathPattern.exists_parse_iff,
    fun _ _ h => (HostPattern.parse_eq_error_iff.1 h).1, fun _ _ h => PathPattern.parse_eq_error h,
    fun _ _ h => ⟨HostPattern.spelling_of_parse h, HostPattern.isWildcardText_iff_of_parse h⟩,
    fun _ _ h => ⟨PathPattern.spelling_of_parse h, PathPattern.isMarkedText_iff_of_parse h⟩, ?_, ?_⟩
  · intro host host' p h h'
    have htext := (HostPattern.spelling_of_parse h).symm.trans (HostPattern.spelling_of_parse h')
    by_cases hne : host = "" <;> by_cases hne' : host' = "" <;> simp_all
  · exact fun _ _ _ h h' => PathPattern.eq_of_parse h h'

/-- The flag of a text that no pattern is read from says nothing: ranking takes this one for a
host with a suffix. -/
example : HostPattern.isWildcardText "*.a*" = true ∧
    HostPattern.parse "*.a*" = .error (.wildcardHost "*.a*") := by decide +kernel

end IngressRouting
