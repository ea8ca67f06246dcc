/-
What an object asks for, by what is written in it: a host and then its paths, one host after the
other (`IngressObject.items`). Extraction succeeds exactly when each of these is good, and fails
with what is wrong with the first that is not (`IngressObject.pathRules_faithful`).

A path is good where it can be read as itself, and with a marker behind it where it is to stand for
those below it. So each rule is later read as what its entry says, and never as every path.
-/
import IngressRouting.IngressObject
import IngressRouting.Proofs.Compilation
import IngressRouting.Proofs.Patterns

namespace IngressRouting

/-! ## Hosts and paths -/

section Checks

variable {host host' path : String}

theorem checkHost_eq_ok_iff : checkHost host = .ok host' ↔ (∃ p, HostPattern.parse host = .ok p) ∧
    host' = if host = "" then HostPattern.anyText else host := by
  unfold checkHost
  by_cases hempty : host = ""
  · subst hempty
    have hany : HostPattern.parse "" = .ok .any := rfl
    simp [hany, eq_comm]
  · simp only [if_neg hempty, map_eq_ok]
    constructor
    · intro ⟨p, hp, he⟩
      exact ⟨⟨p, hp⟩, he.symm⟩
    · intro ⟨⟨p, hp⟩, he⟩
      exact ⟨p, hp, he.symm⟩

theorem errorOf?_checkHost : errorOf? (checkHost host) = errorOf? (HostPattern.parse host) := by
  unfold checkHost
  by_cases hempty : host = ""
  · subst hempty
    rfl
  · rw [if_neg hempty]
    exact errorOf?_map

theorem checkPath_eq_ok_iff : checkPath path = .ok () ↔ path ≠ "" ∧ '*' ∉ path.toList := by
  unfold checkPath
  by_cases hempty : path = ""
  · simp [hempty]
  · by_cases hmarked : '*' ∈ path.toList <;> simp [hempty, hmarked]

namespace PathPattern

theorem toList_markText (path : String) : (markText path).toList = path.toList ++ ['*'] := by
  simp [markText]

theorem isMarkedText_markText (path : String) : isMarkedText (markText path) = true := by
  simp [isMarkedText, toList_markText]

/-- **What is checked is what is read**: a path passes exactly where it is read as itself. -/
theorem parse_eq_exact_iff : parse path = .ok (.exact path) ↔ checkPath path = .ok () := by
  rw [checkPath_eq_ok_iff]
  constructor
  · intro h
    rcases parse_cases h with ⟨_, hp⟩ | ⟨_, _, _, hp⟩ | ⟨hne, hm, _⟩
    · exact nomatch hp
    · exact nomatch hp
    · exact ⟨hne, hm⟩
  · intro ⟨hne, hm⟩
    exact parse_unmarked hne hm

/-- With a marker behind it, it passes exactly where it is read as those below it. -/
theorem parse_markText_iff :
    parse (markText path) = .ok (.below path) ↔ checkPath path = .ok () := by
  rw [checkPath_eq_ok_iff]
  by_cases hne : path = ""
  · subst hne
    have hany : parse (markText "") = .ok .any := rfl
    simp [hany]
  · have hbody : path.toList ≠ [] := fun hnil => hne (String.toList_eq_nil_iff.1 hnil)
    rw [parse_marked hbody (toList_markText path), String.ofList_toList]
    by_cases hm : '*' ∈ path.toList
    · simp [hm]
    · simp [hne, hm]

end PathPattern

end Checks

/-! ## What is written in an object -/

/-- A host, or a path of the host before it. -/
inductive Item
  | host (text : String)
  | path (text : String)
  deriving DecidableEq, Repr

namespace Item

variable {i : Item} {f : Fault}

/-- A host has to be readable; a path has neither to be empty nor to hold a marker. -/
def Accepted : Item → Prop
  | .host text => ∃ p, HostPattern.parse text = .ok p
  | .path text => text ≠ "" ∧ '*' ∉ text.toList

/-- What is wrong with an item that is not accepted. -/
inductive Refused : Item → Fault → Prop
  | host {text : String} (h : ∀ p, HostPattern.parse text ≠ .ok p) :
    Refused (.host text) (.wildcardHost text)
  | empty : Refused (.path "") .emptyPath
  | marked {text : String} (h : '*' ∈ text.toList) : Refused (.path text) (.illegalPath text)

/-- The check of an item. -/
def fault? : Item → Option Fault
  | .host text => errorOf? (checkHost text)
  | .path text => errorOf? (checkPath text)

theorem fault?_eq_none_iff : i.fault? = none ↔ i.Accepted := by
  cases i with
  | host text => rw [fault?, Accepted, errorOf?_checkHost, errorOf?_eq_none]
  | path text =>
    rw [fault?, Accepted, errorOf?_eq_none, ← checkPath_eq_ok_iff]
    exact ⟨fun ⟨(), h⟩ => h, fun h => ⟨(), h⟩⟩

theorem fault?_eq_some_iff : i.fault? = some f ↔ i.Refused f := by
  cases i with
  | host text =>
    rw [fault?, errorOf?_checkHost, errorOf?_eq_some, HostPattern.parse_eq_error_iff]
    constructor
    · rintro ⟨rfl, h⟩
      exact .host h
    · intro h
      cases h with
      | host h => exact ⟨rfl, h⟩
  | path text =>
    rw [fault?, checkPath]
    by_cases hempty : text = ""
    · subst hempty
      constructor
      · intro h
        cases h
        exact .empty
      · intro h
        cases h with
        | empty => rfl
        | marked h => cases h
    · by_cases hm : '*' ∈ text.toList
      · simp only [if_neg hempty, if_pos hm, errorOf?, Option.some.injEq]
        constructor
        · intro h
          subst h
          exact .marked hm
        · intro h
          cases h with
          | empty => exact absurd rfl hempty
          | marked _ => rfl
      · simp only [if_neg hempty, if_neg hm, errorOf?]
        constructor
        · intro h
          cases h
        · intro h
          cases h with
          | empty => exact absurd rfl hempty
          | marked h => exact absurd h hm

end Item

/-- A host without paths is passed over. -/
def HostEntry.items (h : HostEntry) : List Item :=
  if h.paths = [] then [] else .host h.host :: h.paths.map fun p => .path p.path

namespace IngressObject

variable {o : IngressObject} {rs : List PathRule} {r : PathRule}

/-- All that is looked at, in the order in which it is written. -/
def items (o : IngressObject) : List Item := o.hosts.flatMap HostEntry.items

/-- The paths with their hosts, in the order in which they are written. -/
def entries (o : IngressObject) : List (HostEntry × PathEntry) :=
  o.hosts.flatMap fun h => h.paths.map fun p => (h, p)

/-! ## Faults -/

theorem errorOf?_hostRules (o : IngressObject) (h : HostEntry) :
    errorOf? (o.hostRules h) = h.items.findSome? Item.fault? := by
  unfold hostRules HostEntry.items
  by_cases hpaths : h.paths = []
  · simp [hpaths, errorOf?]
  · have hrest : ∀ host, errorOf? (h.paths.mapM (o.pathRule host)) =
        (h.paths.map fun p => Item.path p.path).findSome? Item.fault? := by
      intro host
      rw [errorOf?_mapM, List.findSome?_map]
      congr 1
      funext p
      exact errorOf?_bind_pure
    have hhost : (Item.host h.host).fault? = errorOf? (checkHost h.host) := rfl
    rw [if_neg (by simpa using hpaths), if_neg hpaths, errorOf?_bind hrest, List.findSome?_cons,
      hhost]
    cases errorOf? (checkHost h.host) <;> rfl

theorem findSome?_flatMap {α β γ : Type} (f : β → Option γ) (g : α → List β) (l : List α) :
    (l.flatMap g).findSome? f = l.findSome? fun a => (g a).findSome? f := by
  induction l with
  | nil => rfl
  | cons a l ih =>
    rw [List.flatMap_cons, List.findSome?_append, ih, List.findSome?_cons]
    cases (g a).findSome? f <;> rfl

/-- **The first item that is refused decides.** -/
theorem errorOf?_pathRules (o : IngressObject) :
    errorOf? o.pathRules = o.items.findSome? Item.fault? := by
  unfold pathRules items
  rw [errorOf?_bind_pure, errorOf?_mapM, findSome?_flatMap]
  congr 1
  funext h
  exact o.errorOf?_hostRules h

/-! ## Rules -/

/-- The rule of an entry, as it is extracted. -/
def Drafts (o : IngressObject) (e : HostEntry × PathEntry) (r : PathRule) : Prop :=
  ∃ host, checkHost e.1.host = .ok host ∧ checkPath e.2.path = .ok () ∧
    r = ⟨host, e.2.text, e.2.backend.service, e.2.backend.cluster o.namespaceName⟩

theorem forall₂_hostRules {h : HostEntry} (hrs : o.hostRules h = .ok rs) :
    List.Forall₂ o.Drafts (h.paths.map fun p => (h, p)) rs := by
  unfold hostRules at hrs
  split at hrs
  · next hpaths =>
    cases hrs
    rw [List.isEmpty_iff.1 hpaths]
    exact .nil
  · obtain ⟨host, hhost, hrules⟩ := bind_eq_ok.1 hrs
    rw [List.forall₂_map_left_iff]
    refine (forall₂_of_mapM hrules).imp ?_
    intro p r hr
    obtain ⟨_, hpath, hr⟩ := bind_eq_ok.1 hr
    cases hr
    exact ⟨host, hhost, hpath, rfl⟩

/-- **There is one rule for each entry**, in the order of the entries. -/
theorem forall₂_pathRules (hrs : o.pathRules = .ok rs) : List.Forall₂ o.Drafts o.entries rs := by
  obtain ⟨lists, hlists, hrs⟩ := bind_eq_ok.1 hrs
  cases hrs
  unfold entries
  rw [List.flatMap_def]
  refine List.rel_flatten (List.forall₂_map_left_iff.2 ?_)
  exact (forall₂_of_mapM hlists).imp fun h l hl => forall₂_hostRules hl

/-- A rule says what its entry says, and is later read so. -/
structure Extracts (o : IngressObject) (e : HostEntry × PathEntry) (r : PathRule) : Prop where
  host : r.host = if e.1.host = "" then HostPattern.anyText else e.1.host
  path : PathPattern.parse r.path =
    .ok (if e.2.pathType = some .exact then .exact e.2.path else .below e.2.path)
  marked : PathPattern.isMarkedText r.path = true ↔ e.2.pathType ≠ some .exact
  service : r.service = e.2.backend.service
  target : r.target = e.2.backend.cluster o.namespaceName
  /-- Its condition can be written. -/
  builds : ∃ text, Condition.build r.host r.path ∅ = .ok text

theorem parse_text {p : PathEntry} (h : checkPath p.path = .ok ()) : PathPattern.parse p.text =
    .ok (if p.pathType = some .exact then .exact p.path else .below p.path) := by
  unfold PathEntry.text
  by_cases hexact : p.pathType = some .exact
  · rw [if_pos hexact, if_pos hexact]
    exact PathPattern.parse_eq_exact_iff.2 h
  · rw [if_neg hexact, if_neg hexact]
    exact PathPattern.parse_markText_iff.2 h

theorem isMarkedText_text {p : PathEntry} (h : checkPath p.path = .ok ()) :
    PathPattern.isMarkedText p.text = true ↔ p.pathType ≠ some .exact := by
  unfold PathEntry.text
  by_cases hexact : p.pathType = some .exact
  · have hplain : ¬ PathPattern.isMarkedText p.path = true := by
      unfold PathPattern.isMarkedText
      intro hlast
      exact (checkPath_eq_ok_iff.1 h).2 (List.mem_of_getLast? (by simpa using hlast))
    rw [if_pos hexact]
    exact iff_of_false hplain (not_not_intro hexact)
  · rw [if_neg hexact]
    exact iff_of_true (PathPattern.isMarkedText_markText p.path) hexact

theorem Drafts.extracts {e : HostEntry × PathEntry} (h : o.Drafts e r) : o.Extracts e r := by
  obtain ⟨host, hhost, hpath, rfl⟩ := h
  obtain ⟨⟨p, hp⟩, rfl⟩ := checkHost_eq_ok_iff.1 hhost
  have hread :
      ∃ q, HostPattern.parse (if e.1.host = "" then HostPattern.anyText else e.1.host) = .ok q := by
    by_cases hempty : e.1.host = ""
    · rw [if_pos hempty]
      exact ⟨.any, rfl⟩
    · rw [if_neg hempty]
      exact ⟨p, hp⟩
  obtain ⟨q, hq⟩ := hread
  have htraits : Annotations.traits ∅ = .ok [] := rfl
  have hparsed := Condition.parse_eq_ok_iff.2 ⟨q, _, [], hq, parse_text hpath, htraits, rfl⟩
  exact ⟨rfl, parse_text hpath, isMarkedText_text hpath, rfl, rfl, _, map_eq_ok.2 ⟨_, hparsed, rfl⟩⟩

/-! ## Faithful extraction -/

/-- Extraction is as the document says. -/
structure Faithful (o : IngressObject) : Prop where
  ok_iff : (∃ rs, o.pathRules = .ok rs) ↔ ∀ h ∈ o.hosts, h.paths ≠ [] →
    (∃ p, HostPattern.parse h.host = .ok p) ∧ ∀ p ∈ h.paths, p.path ≠ "" ∧ '*' ∉ p.path.toList
  error_iff : ∀ f, o.pathRules = .error f ↔ ∃ before i after, o.items = before ++ i :: after ∧
    (∀ x ∈ before, x.Accepted) ∧ i.Refused f
  rules : ∀ rs, o.pathRules = .ok rs → List.Forall₂ o.Extracts o.entries rs

theorem accepted_items_iff {h : HostEntry} :
    (∀ i ∈ h.items, i.Accepted) ↔ (h.paths ≠ [] → (∃ p, HostPattern.parse h.host = .ok p) ∧
      ∀ p ∈ h.paths, p.path ≠ "" ∧ '*' ∉ p.path.toList) := by
  unfold HostEntry.items
  by_cases hpaths : h.paths = []
  · simp [hpaths]
  · simp [hpaths, Item.Accepted]

/-- **Extraction is faithful.** It succeeds exactly when every host with paths can be read and no
path is empty or holds a marker, and otherwise fails with what is wrong with the first item that is
written so. The rules are those of the entries, one for each and in their order: at the host as
written, or every host where none is; to be read as the path as written, or as those below it; and
with a condition that can be written. -/
theorem pathRules_faithful (o : IngressObject) : o.Faithful where
  ok_iff := by
    rw [← errorOf?_eq_none, errorOf?_pathRules, List.findSome?_eq_none_iff]
    simp only [Item.fault?_eq_none_iff]
    unfold items
    simp only [List.forall_mem_flatMap, accepted_items_iff]
  error_iff f := by
    rw [← errorOf?_eq_some, errorOf?_pathRules, List.findSome?_eq_some_iff]
    simp only [Item.fault?_eq_none_iff, Item.fault?_eq_some_iff]
    constructor
    · intro ⟨before, i, after, hsplit, hrefused, hbefore⟩
      exact ⟨before, i, after, hsplit, hbefore, hrefused⟩
    · intro ⟨before, i, after, hsplit, hbefore, hrefused⟩
      exact ⟨before, i, after, hsplit, hrefused, hbefore⟩
  rules rs h := (forall₂_pathRules h).imp fun _ _ hdrafts => hdrafts.extracts

/-- The first host is passed over, the second is empty, and the marker of its second path is found
before the third host is looked at. Without that path and host there is one rule. -/
theorem pathRules_faithful_marker :
    let path (text : String) (type : Option PathType) : PathEntry := ⟨text, type, ⟨"svc", none⟩⟩
    let hosts :=
      [⟨"*a", []⟩, ⟨"", [path "/foo" none, path "/b*r" (some .exact)]⟩, ⟨"*b", [path "/" none]⟩]
    let o : IngressObject := ⟨"ns", "a", ∅, 1, hosts⟩
    let good : IngressObject := ⟨"ns", "a", ∅, 1, [⟨"*a", []⟩, ⟨"", [path "/foo" none]⟩]⟩
    o.pathRules = .error (.illegalPath "/b*r") ∧
      List.Forall₂ good.Extracts good.entries [⟨"*", "/foo*", "svc", "ns_svc"⟩] := by
  intro path hosts o good
  have hsplit : o.items = [.host "", .path "/foo"] ++ .path "/b*r" :: [.host "*b", .path "/"] := rfl
  have hbefore : ∀ x ∈ [Item.host "", .path "/foo"], x.Accepted := by
    intro x hx
    rcases List.mem_cons.1 hx with rfl | hx
    · exact ⟨.any, rfl⟩
    · obtain rfl := List.mem_singleton.1 hx
      exact ⟨by decide, by decide⟩
  have hgood : good.pathRules = .ok [⟨"*", "/foo*", "svc", "ns_svc"⟩] := by decide +kernel
  have hmarked : Item.Refused (.path "/b*r") (.illegalPath "/b*r") := .marked (by decide)
  refine ⟨((pathRules_faithful o).error_iff _).2 ⟨_, _, _, hsplit, hbefore, hmarked⟩, ?_⟩
  exact (pathRules_faithful good).rules _ hgood

end IngressObject

end IngressRouting
