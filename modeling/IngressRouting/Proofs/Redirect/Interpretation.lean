/-
How annotations that ask for a redirect are read (`Annotations.redirect_interpreted`):
several actions are refused whatever their parameters, an override without an action is
stray, and one action is taken with its parameter as it stands.

Whether there is a redirect at all is told from the keys alone, before any parameter is
looked at. `Annotations.Reading` lists what the two readers come to, side by side.

What a parameter has to be is put in terms of the readers of URLs (`RedirectCommand.Accepts`),
and nothing is used of them: all of this holds with any two functions in their place.
-/
import IngressRouting.Proofs.Redirect.Override

namespace IngressRouting

/-! ## Parameters -/

namespace RedirectCommand

/-- What a parameter of an action has to be, beyond not being empty. -/
def Accepts : RedirectCommand → String → Prop
  | urlSet, param =>
    (∃ u, Url.parse param = .ok u) ∨
      ∃ u, Url.parse (Redirect.placeholderText ++ param) = .ok u ∧
        u.host = some (.domain "fake.org")
  | urlFromQuery, _ => True
  | urlPrefixAdd, param =>
    ∃ u, u.fragment = none ∧
      (Url.parse param = .ok u ∨
        (∀ w, Url.parse param ≠ .ok w) ∧ Url.parseAt Redirect.placeholder param = .ok u)
  | schemeSet, param => param = "http" ∨ param = "https"

variable {c : RedirectCommand} {param : String}

theorem objection?_urlSet_eq_none_iff :
    urlSet.objection? param = none ↔ param ≠ "" ∧ urlSet.Accepts param := by
  rw [objection?, Accepts]
  by_cases hempty : param = ""
  · simp [hempty]
  · rw [if_neg hempty]
    cases hparse : Url.parse param with
    | ok u => simp [hempty, Except.isOk, Except.toBool]
    | error e =>
      cases hjoined : Url.parse (Redirect.placeholderText ++ param) with
      | ok u =>
        by_cases hhost : u.host = some (.domain "fake.org") <;>
          simp [hempty, hhost, Except.isOk, Except.toBool, Redirect.placeholder]
      | error e' => simp [Except.isOk, Except.toBool]

theorem objection?_urlPrefixAdd_eq_none_iff :
    urlPrefixAdd.objection? param = none ↔ param ≠ "" ∧ urlPrefixAdd.Accepts param := by
  rw [objection?, Accepts]
  by_cases hempty : param = ""
  · simp [hempty]
  · rw [if_neg hempty]
    cases hparse : Url.parse param with
    | ok u => simp [hempty, Except.tryCatch]
    | error e =>
      cases hjoined : Url.parseAt Redirect.placeholder param with
      | ok u => simp [hempty, Except.tryCatch]
      | error e' => simp [Except.tryCatch]

theorem objection?_eq_none_iff : c.objection? param = none ↔ param ≠ "" ∧ c.Accepts param := by
  cases c with
  | urlSet => exact objection?_urlSet_eq_none_iff
  | urlPrefixAdd => exact objection?_urlPrefixAdd_eq_none_iff
  | urlFromQuery => by_cases h : param = "" <;> simp [objection?, Accepts, h]
  | schemeSet => by_cases h : param = "" <;> simp [objection?, Accepts, h, or_iff_not_imp_left]

theorem key_injective : Function.Injective key := by
  intro c d h
  cases c <;> cases d <;> first | rfl | exact absurd h (by decide)

end RedirectCommand

namespace Annotations

variable {a : Annotations} {c : RedirectCommand} {m n : UInt16}

/-! ## The keys of actions -/

/-- The keys of actions that are there, in the order in which a refusal lists them. -/
def actionKeys (a : Annotations) : List String :=
  [urlSetKey, urlFromQueryKey, urlPrefixAddKey, schemeSetKey].filter a.contains

theorem map_key_redirectCommands (a : Annotations) :
    a.redirectCommands.map RedirectCommand.key = a.actionKeys := by
  have hkeys : RedirectCommand.every.map RedirectCommand.key =
      [urlSetKey, urlFromQueryKey, urlPrefixAddKey, schemeSetKey] := rfl
  rw [actionKeys, ← hkeys, List.filter_map, redirectCommands]
  rfl

theorem redirectCommands_eq_singleton_iff : a.redirectCommands = [c] ↔ a.actionKeys = [c.key] := by
  rw [← map_key_redirectCommands, ← List.map_singleton,
    RedirectCommand.key_injective.list_map.eq_iff]

/-! ## The status -/

/-- The override of the status. An empty one is none. -/
def override? (a : Annotations) : Option String :=
  (a.get? responseStatusKey).filter (· ≠ "")

/-- Readers that pass over an empty override look at `override?`. -/
theorem match_override? {α : Type} (a : Annotations) (absent : α) (present : String → α) :
    (match a.get? responseStatusKey with
      | none => absent
      | some raw => if raw = "" then absent else present raw) =
    match a.override? with
      | none => absent
      | some raw => present raw := by
  rw [override?]
  cases a.get? responseStatusKey with
  | none => rfl
  | some raw =>
    by_cases h : raw = ""
    · rw [h]
      rfl
    · rw [Option.filter_some, if_pos (by simpa using h)]
      exact if_neg h

/-- The status to answer with: 302 without an override, and with one the number it stands
for, which has to lie between 300 and 399. -/
def Answers (a : Annotations) (n : UInt16) : Prop :=
  (a.override? = none ∧ n = 302 ∨ ∃ raw, a.override? = some raw ∧ Redirect.Numeral raw n.toNat) ∧
    300 ≤ n ∧ n ≤ 399

theorem redirectStatus_eq (a : Annotations) : a.redirectStatus =
    match a.override? with
    | none => .ok 302
    | some raw =>
      match Redirect.status? raw with
      | some n => .ok n
      | none => .error (.redirectStatus responseStatusKey raw) := by
  rw [redirectStatus]
  exact match_override? a (Except.ok 302) _

theorem redirectStatus_eq_ok_iff : a.redirectStatus = .ok n ↔ a.Answers n := by
  rw [redirectStatus_eq, Answers]
  cases a.override? with
  | none =>
    constructor
    · rintro ⟨⟩
      exact ⟨.inl ⟨rfl, rfl⟩, by decide⟩
    · rintro ⟨⟨-, rfl⟩ | ⟨raw, h, -⟩, -⟩
      · rfl
      · cases h
  | some raw =>
    have hiff : Redirect.status? raw = some n ↔ Redirect.Numeral raw n.toNat ∧ 300 ≤ n ∧ n ≤ 399 :=
      Redirect.status?_eq_some_iff
    cases hstatus : Redirect.status? raw <;> rw [hstatus] at hiff <;> simp_all

/-- Only an override is refused, and it is named with its value as it stands. -/
theorem redirectStatus_eq_error {e : Fault} (h : a.redirectStatus = .error e) :
    ∃ raw, a.override? = some raw ∧ e = .redirectStatus responseStatusKey raw := by
  rw [redirectStatus_eq] at h
  split at h
  · cases h
  · next raw hoverride =>
    split at h
    · cases h
    · exact ⟨raw, hoverride, (Except.error.inj h).symm⟩

theorem Answers.unique (h : a.Answers m) (h' : a.Answers n) : m = n := by
  rw [← redirectStatus_eq_ok_iff] at h h'
  exact Except.ok.inj (h.symm.trans h')

/-! ## Readings -/

/-- What both readers come to: the one that tells whether there is a redirect, and the one
that takes it. -/
inductive Reading (a : Annotations) :
    Except Rejection (Option RedirectCommand) → Except Rejection (Option Redirect) → Prop
  /-- No action and no override. -/
  | unasked (hkeys : a.actionKeys = []) (hoverride : a.override? = none) :
    Reading a (.ok none) (.ok none)
  /-- An override without an action. -/
  | stray {raw : String} (hkeys : a.actionKeys = []) (hoverride : a.override? = some raw) :
    Reading a (.error (.fault (.strayOverride responseStatusKey raw)))
      (.error (.fault (.strayOverride responseStatusKey raw)))
  | crowded (hkeys : 2 ≤ a.actionKeys.length) :
    Reading a (.error (.manyActions a.actionKeys)) (.error (.manyActions a.actionKeys))
  /-- The parameter of the action will not do. -/
  | objected {c : RedirectCommand} {param reason : String} (hkeys : a.actionKeys = [c.key])
      (hparam : a.get? c.key = some param) (hobjection : c.objection? param = some reason) :
    Reading a (.ok (some c)) (.error (.fault (.badValue c.key reason)))
  /-- The override is no status of a redirect. -/
  | misnumbered {c : RedirectCommand} {raw : String} (hkeys : a.actionKeys = [c.key])
      (hoverride : a.override? = some raw) (hstatus : ∀ n, ¬ a.Answers n) :
    Reading a (.ok (some c)) (.error (.fault (.redirectStatus responseStatusKey raw)))
  | taken {c : RedirectCommand} {param : String} {n : UInt16} (hkeys : a.actionKeys = [c.key])
      (hparam : a.get? c.key = some param) (hne : param ≠ "") (haccepts : c.Accepts param)
      (hstatus : a.Answers n) :
    Reading a (.ok (some c)) (.ok (some ⟨⟨c, [param]⟩, n⟩))

theorem redirectCommand_of_nil (h : a.redirectCommands = []) : a.redirectCommand =
    match a.override? with
    | none => .ok none
    | some raw => .error (.fault (.strayOverride responseStatusKey raw)) := by
  rw [redirectCommand, h]
  exact match_override? a (Except.ok none) _

/-- A refusal that needs no parameter is that of the reader of keys. -/
theorem redirect_of_error {e : Rejection} (h : a.redirectCommand = .error e) :
    a.redirect = .error e := by
  rw [redirect, h]
  rfl

theorem redirect_of_one {param : String} (h : a.redirectCommand = .ok (some c))
    (hparam : a.get? c.key = some param) : a.redirect =
      match c.objection? param with
      | some reason => .error (.fault (.badValue c.key reason))
      | none => (a.redirectStatus.mapError .fault).map fun n => some ⟨⟨c, [param]⟩, n⟩ := by
  rw [redirect, h]
  simp only [Bind.bind, Except.bind, hparam, Option.getD_some]
  cases c.objection? param with
  | some reason => rfl
  | none => cases a.redirectStatus <;> rfl

theorem exists_param (h : a.redirectCommands = [c]) : ∃ param, a.get? c.key = some param := by
  have hmem : c ∈ a.redirectCommands := h ▸ List.mem_singleton_self c
  rw [redirectCommands, List.mem_filter] at hmem
  exact Option.isSome_iff_exists.1 hmem.2

theorem reading_of_one (h : a.redirectCommands = [c]) :
    a.Reading (.ok (some c)) a.redirect := by
  have hcommand : a.redirectCommand = .ok (some c) := by rw [redirectCommand, h]
  have hkeys := redirectCommands_eq_singleton_iff.1 h
  obtain ⟨param, hparam⟩ := exists_param h
  rw [redirect_of_one hcommand hparam]
  cases hobjection : c.objection? param with
  | some reason => exact .objected hkeys hparam hobjection
  | none =>
    obtain ⟨hne, haccepts⟩ := RedirectCommand.objection?_eq_none_iff.1 hobjection
    cases hstatus : a.redirectStatus with
    | ok n => exact .taken hkeys hparam hne haccepts (redirectStatus_eq_ok_iff.1 hstatus)
    | error e =>
      obtain ⟨raw, hoverride, rfl⟩ := redirectStatus_eq_error hstatus
      refine .misnumbered hkeys hoverride fun n hn => ?_
      rw [redirectStatus_eq_ok_iff.2 hn] at hstatus
      cases hstatus

/-- Every dictionary has a reading, by the number of its actions. -/
theorem reading (a : Annotations) : a.Reading a.redirectCommand a.redirect := by
  have hmap := map_key_redirectCommands a
  cases hcommands : a.redirectCommands with
  | nil =>
    have hkeys : a.actionKeys = [] := by rw [← hmap, hcommands, List.map_nil]
    have hcommand := redirectCommand_of_nil hcommands
    cases hoverride : a.override? with
    | none =>
      rw [hoverride] at hcommand
      rw [redirect, hcommand]
      exact .unasked hkeys hoverride
    | some raw =>
      rw [hoverride] at hcommand
      rw [redirect_of_error hcommand, hcommand]
      exact .stray hkeys hoverride
  | cons c cs =>
    cases cs with
    | nil =>
      have hcommand : a.redirectCommand = .ok (some c) := by rw [redirectCommand, hcommands]
      rw [hcommand]
      exact reading_of_one hcommands
    | cons d cs =>
      have hcommand : a.redirectCommand = .error (.manyActions a.actionKeys) := by
        rw [redirectCommand, hcommands, ← hmap, hcommands]
      rw [redirect_of_error hcommand, hcommand]
      refine .crowded ?_
      rw [← hmap, hcommands, List.length_map, List.length_cons, List.length_cons]
      omega

/-! ## What is documented -/

namespace Reading

variable {command : Except Rejection (Option RedirectCommand)}
  {outcome : Except Rejection (Option Redirect)}

theorem manyActions_iff (h : a.Reading command outcome) {keys : List String} :
    outcome = .error (.manyActions keys) ↔ 2 ≤ a.actionKeys.length ∧ keys = a.actionKeys := by
  constructor
  · rintro rfl
    cases h with
    | crowded hkeys => exact ⟨hkeys, rfl⟩
  · rintro ⟨hlength, rfl⟩
    cases h with
    | crowded => rfl
    | unasked hkeys | stray hkeys => simp [hkeys] at hlength
    | objected hkeys | misnumbered hkeys | taken hkeys => simp [hkeys] at hlength

theorem strayOverride_iff (h : a.Reading command outcome) {key raw : String} :
    outcome = .error (.fault (.strayOverride key raw)) ↔
      a.actionKeys = [] ∧ key = responseStatusKey ∧ a.override? = some raw := by
  constructor
  · rintro rfl
    cases h with
    | stray hkeys hoverride => exact ⟨hkeys, rfl, hoverride⟩
  · rintro ⟨hnil, rfl, hraw⟩
    cases h with
    | unasked _ hoverride => simp [hoverride] at hraw
    | stray _ hoverride => rw [Option.some.inj (hoverride.symm.trans hraw)]
    | crowded hkeys => simp [hnil] at hkeys
    | objected hkeys | misnumbered hkeys | taken hkeys => simp [hnil] at hkeys

theorem eq_none_iff (h : a.Reading command outcome) :
    outcome = .ok none ↔ a.actionKeys = [] ∧ a.override? = none := by
  constructor
  · rintro rfl
    cases h with
    | unasked hkeys hoverride => exact ⟨hkeys, hoverride⟩
  · rintro ⟨hnil, hnone⟩
    cases h with
    | unasked => rfl
    | stray _ hoverride => simp [hoverride] at hnone
    | crowded hkeys => simp [hnil] at hkeys
    | objected hkeys | misnumbered hkeys | taken hkeys => simp [hnil] at hkeys

theorem eq_some_iff (h : a.Reading command outcome) {r : Redirect} : outcome = .ok (some r) ↔
    ∃ c param, a.actionKeys = [c.key] ∧ a.get? c.key = some param ∧ param ≠ "" ∧
      c.Accepts param ∧ a.Answers r.status ∧ r.action = ⟨c, [param]⟩ := by
  constructor
  · rintro rfl
    cases h with
    | taken hkeys hparam hne haccepts hstatus =>
      exact ⟨_, _, hkeys, hparam, hne, haccepts, hstatus, rfl⟩
  · rintro ⟨c, param, hone, hparam, hne, haccepts, hstatus, haction⟩
    cases h with
    | unasked hkeys | stray hkeys => simp [hone] at hkeys
    | crowded hkeys => simp [hone] at hkeys
    | objected hkeys hparam' hobjection =>
      obtain rfl := RedirectCommand.key_injective (List.cons.inj (hone.symm.trans hkeys)).1
      obtain rfl := Option.some.inj (hparam.symm.trans hparam')
      rw [RedirectCommand.objection?_eq_none_iff.2 ⟨hne, haccepts⟩] at hobjection
      cases hobjection
    | misnumbered _ _ hnone => exact absurd hstatus (hnone r.status)
    | taken hkeys hparam' _ _ hstatus' =>
      obtain rfl := RedirectCommand.key_injective (List.cons.inj (hone.symm.trans hkeys)).1
      obtain rfl := Option.some.inj (hparam.symm.trans hparam')
      rw [hstatus'.unique hstatus, ← haction]

/-- The reader of keys finds a redirect just where there is one action. -/
theorem isSome_command_iff (h : a.Reading command outcome) :
    (·.isSome) <$> command = .ok true ↔ a.actionKeys.length = 1 := by
  cases h with
  | unasked hkeys | stray hkeys => simp [hkeys]
  | crowded hkeys => exact iff_of_false (fun h => by cases h) (by omega)
  | objected hkeys | misnumbered hkeys | taken hkeys =>
    rw [hkeys]
    exact iff_of_true rfl rfl

theorem isSome_command_eq (h : a.Reading command outcome) :
    (·.isSome) <$> command =
      if a.actionKeys.length = 1 then .ok true else (·.isSome) <$> outcome := by
  cases h with
  | unasked hkeys | stray hkeys =>
    rw [hkeys]
    rfl
  | crowded hkeys =>
    rw [if_neg (by omega)]
    rfl
  | objected hkeys | misnumbered hkeys | taken hkeys =>
    rw [hkeys]
    rfl

end Reading

/-- **Annotations that ask for a redirect are read as documented.** Two actions and more are
refused with their keys, whatever their parameters; an override without an action is refused
unless it is empty; without both there is no redirect; and there is one just where a single
action has a parameter that it accepts and the override, if any, is a status. It then has
that action, the parameter as it stands and a status between 300 and 399. The reader of keys
finds a redirect just where there is a single action, and ends as the other one elsewhere. -/
theorem redirect_interpreted (a : Annotations) :
    (∀ keys, a.redirect = .error (.manyActions keys) ↔
      2 ≤ a.actionKeys.length ∧ keys = a.actionKeys) ∧
    (∀ key raw, a.redirect = .error (.fault (.strayOverride key raw)) ↔
      a.actionKeys = [] ∧ key = responseStatusKey ∧ a.override? = some raw) ∧
    (a.redirect = .ok none ↔ a.actionKeys = [] ∧ a.override? = none) ∧
    (∀ r : Redirect, a.redirect = .ok (some r) ↔
      ∃ c param, a.actionKeys = [c.key] ∧ a.get? c.key = some param ∧ param ≠ "" ∧
        c.Accepts param ∧ a.Answers r.status ∧ r.action = ⟨c, [param]⟩) ∧
    ((·.isSome) <$> a.redirectCommand = .ok true ↔ a.actionKeys.length = 1) ∧
    (·.isSome) <$> a.redirectCommand =
      if a.actionKeys.length = 1 then .ok true else (·.isSome) <$> a.redirect := by
  have hreading := a.reading
  exact ⟨fun _ => hreading.manyActions_iff, fun _ _ => hreading.strayOverride_iff,
    hreading.eq_none_iff, fun _ => hreading.eq_some_iff, hreading.isSome_command_iff,
    hreading.isSome_command_eq⟩

end Annotations

end IngressRouting
