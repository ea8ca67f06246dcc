/-
What meters show after samples. A series is told apart from every other by its name and labels
(`Series.key_inj`), so a sample moves its own series only (`Meters.get?_record`): a counter by
one, and a gauge to the value that was measured last.

The bindings that come to the roster of a kind are counted by their outcomes, or as conflicts
(`Meters.arrived_recordAll`).
-/
import IngressRouting.Meters
import IngressRouting.Roster
import IngressRouting.Text.Cut
import Mathlib.Algebra.GroupWithZero.Nat

namespace IngressRouting

/-! ## Series -/

/-- A series, by what it measures. -/
inductive Series
  | puts (kind : TableKind) (outcome : String)
  | conflicts (kind : TableKind)
  | compiles (kind : TableKind) (ok : Bool)
  | rules (kind : TableKind) (tier : String)
  | sources
  deriving DecidableEq

namespace Series

/-- The name of a series. -/
def name : Series → String
  | puts _ _ => "rule_compiler_puts_total"
  | conflicts _ => "rule_compiler_conflicts_total"
  | compiles _ _ => "rule_compiler_compiles_total"
  | rules _ _ => "rule_compiler_rules"
  | sources => "rule_compiler_sources"

/-- What a series is kept under. -/
def key : Series → String
  | puts kind outcome => Meters.putSeries kind outcome
  | conflicts kind => Meters.conflictSeries kind
  | compiles kind ok => Meters.compileSeries kind ok
  | rules kind tier => Meters.ruleSeries kind tier
  | sources => Meters.sourceSeries

/-- What stands between the braces of a key. -/
def labels : Series → String
  | puts kind outcome => "kind=" ++ kind.name ++ "," ++ ("outcome=" ++ outcome)
  | conflicts kind => "kind=" ++ kind.name
  | compiles kind ok => "kind=" ++ kind.name ++ "," ++ ("result=" ++ if ok then "ok" else "error")
  | rules kind tier => "kind=" ++ kind.name ++ "," ++ ("set=" ++ tier)
  | sources => ""

theorem key_eq (s : Series) : s.key = s.name ++ "\x7b" ++ s.labels ++ "\x7d" := by
  cases s <;> rfl

theorem kind_name_inj {kind kind' : TableKind} {rest rest' : List Char}
    (h : kind.name.toList ++ rest = kind'.name.toList ++ rest') : kind = kind' ∧ rest = rest' := by
  cases kind <;> cases kind' <;> simp [TableKind.name] at h ⊢
  · exact h
  · exact h

/-- The kind can be read off the labels. -/
theorem kind_label_inj {kind kind' : TableKind} {rest rest' : String}
    (h : "kind=" ++ kind.name ++ "," ++ rest = "kind=" ++ kind'.name ++ "," ++ rest') :
    kind = kind' ∧ rest = rest' := by
  have hchars := congrArg String.toList h
  simp only [String.toList_append, List.append_assoc, List.append_cancel_left_eq] at hchars
  obtain ⟨hkind, hrest⟩ := kind_name_inj hchars
  exact ⟨hkind, by simpa [String.toList_inj] using hrest⟩

/-- **Different series have different keys**, whatever their labels. -/
theorem key_inj {s t : Series} (h : s.key = t.key) : s = t := by
  have hbrace (s : Series) : '\x7b' ∉ s.name.toList := by cases s <;> simp [name]
  have hcut (s : Series) : cutList '\x7b' s.key.toList =
      some (s.name.toList, s.labels.toList ++ ['\x7d']) := by
    rw [cutList_eq_some_iff, key_eq]
    exact ⟨by simp, hbrace s⟩
  have hparts := (hcut s).symm.trans ((congrArg _ (congrArg String.toList h)).trans (hcut t))
  simp only [Option.some.injEq, Prod.mk.injEq, List.append_cancel_right_eq,
    String.toList_inj] at hparts
  obtain ⟨hname, hlabels⟩ := hparts
  cases s with
  | puts kind outcome =>
    cases t with
    | puts kind' outcome' =>
      obtain ⟨rfl, hrest⟩ := kind_label_inj hlabels
      simpa using hrest
    | _ => simp [name] at hname
  | conflicts kind =>
    cases t with
    | conflicts kind' =>
      have hkind : kind.name.toList ++ [] = kind'.name.toList ++ [] := by
        simpa [labels] using congrArg String.toList hlabels
      rw [(kind_name_inj hkind).1]
    | _ => simp [name] at hname
  | compiles kind ok =>
    cases t with
    | compiles kind' ok' =>
      obtain ⟨rfl, hrest⟩ := kind_label_inj hlabels
      cases ok <;> cases ok' <;> simp at hrest ⊢
    | _ => simp [name] at hname
  | rules kind tier =>
    cases t with
    | rules kind' tier' =>
      obtain ⟨rfl, hrest⟩ := kind_label_inj hlabels
      simpa using hrest
    | _ => simp [name] at hname
  | sources =>
    cases t with
    | sources => rfl
    | _ => simp [name] at hname

end Series

/-! ## Samples -/

/-- What a sample makes of the value of a series. -/
def Sample.update (s : Series) (value : Option Nat) : Sample → Option Nat
  | .put kind outcome => if s = .puts kind outcome then some (value.getD 0 + 1) else value
  | .conflict kind => if s = .conflicts kind then some (value.getD 0 + 1) else value
  | .compile kind ok => if s = .compiles kind ok then some (value.getD 0 + 1) else value
  | .rules kind basic advanced =>
    if s = .rules kind "advanced" then some advanced
    else if s = .rules kind "basic" then some basic
    else value
  | .sources n => if s = .sources then some n else value

/-- The kind that a series is about. -/
def Series.kind? : Series → Option TableKind
  | puts kind _ => some kind
  | conflicts kind => some kind
  | compiles kind _ => some kind
  | rules kind _ => some kind
  | sources => none

/-- The kind that a sample is about. -/
def Sample.kind? : Sample → Option TableKind
  | put kind _ => some kind
  | conflict kind => some kind
  | compile kind _ => some kind
  | rules kind _ _ => some kind
  | sources _ => none

theorem Sample.update_of_kind_ne {x : Sample} {s : Series} (h : s.kind? ≠ x.kind?)
    (value : Option Nat) : x.update s value = value := by
  have hne {t : Series} (ht : t.kind? = x.kind?) : s ≠ t := fun he => h (he ▸ ht)
  cases x with
  | put kind outcome => exact if_neg (hne rfl)
  | conflict kind => exact if_neg (hne rfl)
  | compile kind ok => exact if_neg (hne rfl)
  | rules kind basic advanced => exact (if_neg (hne rfl)).trans (if_neg (hne rfl))
  | sources n => exact if_neg (hne rfl)

namespace Meters

variable {m : Meters} {xs : List Sample} {s : Series}

theorem get?_count (m : Meters) (s t : Series) :
    (m.count t.key).get? s.key =
      if s = t then some ((m.get? s.key).getD 0 + 1) else m.get? s.key := by
  rw [count, Dict.get?_insert]
  by_cases h : s = t
  · rw [h, if_pos rfl, if_pos rfl]
  · rw [if_neg fun hkey => h (Series.key_inj hkey), if_neg h]

theorem get?_set (m : Meters) (s t : Series) (n : Nat) :
    (m.insert t.key n).get? s.key = if s = t then some n else m.get? s.key := by
  rw [Dict.get?_insert]
  by_cases h : s = t
  · rw [h, if_pos rfl, if_pos rfl]
  · rw [if_neg fun hkey => h (Series.key_inj hkey), if_neg h]

theorem get?_record (m : Meters) (x : Sample) (s : Series) :
    (m.record x).get? s.key = x.update s (m.get? s.key) := by
  cases x with
  | put kind outcome => exact m.get?_count s (.puts kind outcome)
  | conflict kind => exact m.get?_count s (.conflicts kind)
  | compile kind ok => exact m.get?_count s (.compiles kind ok)
  | rules kind basic advanced =>
    let first : Meters := m.insert (Series.rules kind "basic").key basic
    have hset := first.get?_set s (.rules kind "advanced") advanced
    exact hset.trans (by rw [m.get?_set]; rfl)
  | sources n => exact m.get?_set s .sources n

theorem recordAll_append (m : Meters) (xs ys : List Sample) :
    m.recordAll (xs ++ ys) = (m.recordAll xs).recordAll ys :=
  List.foldl_append

theorem get?_recordAll (m : Meters) (xs : List Sample) (s : Series) :
    (m.recordAll xs).get? s.key = xs.foldl (fun value x => x.update s value) (m.get? s.key) := by
  induction xs generalizing m with
  | nil => rfl
  | cons x xs ih =>
    rw [List.foldl_cons, ← m.get?_record]
    exact ih (m.record x)

theorem get?_recordAll_of_others (h : ∀ x ∈ xs, ∀ value, x.update s value = value) (m : Meters) :
    (m.recordAll xs).get? s.key = m.get? s.key := by
  rw [get?_recordAll]
  induction xs with
  | nil => rfl
  | cons x xs ih =>
    obtain ⟨hx, hxs⟩ := List.forall_mem_cons.1 h
    rw [List.foldl_cons, hx]
    exact ih hxs

end Meters

/-! ## Arrivals -/

/-- The names of what a successful put can do. -/
def Admission.names : List String := ["inserted", "replaced", "unchanged"]

theorem Admission.name_mem (a : Admission) : a.name ∈ Admission.names := by
  cases a <;> simp [Admission.name, Admission.names]

namespace Sample

/-- A binding has come to the roster of a kind, and was admitted or refused for a conflict. -/
inductive Arrives (kind : TableKind) : Sample → Prop
  | put (a : Admission) : Arrives kind (.put kind a.name)
  | conflict : Arrives kind (.conflict kind)

/-- The kind whose roster a binding has come to. -/
def arrival? : Sample → Option TableKind
  | .put kind _ => some kind
  | .conflict kind => some kind
  | _ => none

theorem Arrives.arrival? {kind : TableKind} {x : Sample} (h : x.Arrives kind) :
    x.arrival? = some kind := by
  cases h <;> rfl

theorem Arrives.update {kind : TableKind} {x : Sample} (h : x.Arrives kind) {s : Series}
    (hputs : ∀ kind outcome, s ≠ .puts kind outcome) (hconflicts : ∀ kind, s ≠ .conflicts kind)
    (value : Option Nat) : x.update s value = value := by
  cases h with
  | put a => exact if_neg (hputs kind a.name)
  | conflict => exact if_neg (hconflicts kind)

theorem update_of_arrival?_eq_none {x : Sample} (h : x.arrival? = none) (kind : TableKind)
    (outcome : String) (value : Option Nat) : x.update (.puts kind outcome) value = value ∧
      x.update (.conflicts kind) value = value := by
  cases x with
  | put => cases h
  | conflict => cases h
  | compile => simp [update]
  | rules => simp [update]
  | sources => simp [update]

end Sample

namespace Meters

/-- How many bindings have come to the roster of a kind: those that were put, with whatever
outcome, and those that were refused for a conflict. -/
def arrived (m : Meters) (kind : TableKind) : Nat :=
  (Admission.names.map fun outcome => (m.get? (putSeries kind outcome)).getD 0).sum +
    (m.get? (conflictSeries kind)).getD 0

variable {x : Sample} {xs : List Sample} {kind kind' : TableKind}

theorem arrived_record (h : x.Arrives kind) (m : Meters) (kind' : TableKind) :
    (m.record x).arrived kind' = m.arrived kind' + if kind = kind' then 1 else 0 := by
  have hput (outcome : String) := m.get?_record x (.puts kind' outcome)
  have hconflict := m.get?_record x (.conflicts kind')
  simp only [Series.key] at hput hconflict
  simp only [arrived, hput, hconflict]
  by_cases hkind : kind = kind'
  · subst hkind
    cases h with
    | put a =>
      cases a <;> simp [Sample.update, Admission.names, Admission.name] <;> omega
    | conflict => simp [Sample.update, Admission.names]; omega
  · cases h with
    | put a => simp [Sample.update, hkind, Ne.symm hkind]
    | conflict => simp [Sample.update, hkind, Ne.symm hkind]

/-- **Every binding that comes is counted once.** -/
theorem arrived_recordAll (h : ∀ x ∈ xs, ∃ kind, x.Arrives kind) (m : Meters) (kind : TableKind) :
    (m.recordAll xs).arrived kind = m.arrived kind + xs.countP (·.arrival? = some kind) := by
  induction xs generalizing m with
  | nil => rfl
  | cons x xs ih =>
    obtain ⟨⟨kind', hx⟩, hxs⟩ := List.forall_mem_cons.1 h
    have hrest := ih hxs (m.record x)
    rw [arrived_record hx] at hrest
    show ((m.record x).recordAll xs).arrived kind = _
    rw [hrest, List.countP_cons, hx.arrival?]
    simp only [Option.some.injEq, decide_eq_true_eq]
    omega

section Others

variable (h : ∀ x ∈ xs, x.arrival? = none) (m : Meters) (kind : TableKind)

include h

theorem get?_putSeries_of_others (outcome : String) :
    (m.recordAll xs).get? (putSeries kind outcome) = m.get? (putSeries kind outcome) := by
  refine get?_recordAll_of_others (s := .puts kind outcome) (fun x hx value => ?_) m
  exact (Sample.update_of_arrival?_eq_none (h x hx) kind outcome value).1

theorem arrived_recordAll_of_others : (m.recordAll xs).arrived kind = m.arrived kind := by
  have hconflict : (m.recordAll xs).get? (conflictSeries kind) = m.get? (conflictSeries kind) := by
    refine get?_recordAll_of_others (s := .conflicts kind) (fun x hx value => ?_) m
    exact (Sample.update_of_arrival?_eq_none (h x hx) kind "" value).2
  simp only [arrived, get?_putSeries_of_others h, hconflict]

end Others

end Meters

end IngressRouting
