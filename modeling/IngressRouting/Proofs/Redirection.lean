/-
What annotations that ask for a redirect come to: one command, and a status
between 300 and 399 (`Annotations.redirect_eq_some`). A redirect is refused for what
the annotations say, never for a conflict.

What bindings with such annotations come to in the redirect rulebook are their
`echoes`. Rivals have the same annotations, so they ask for the same redirect or
for none: a binding settles among others as its echo does among theirs
(`echoes_settle`).
-/
import IngressRouting.Proofs.Results
import IngressRouting.Proofs.Roster.Listing
import IngressRouting.Redirect

namespace IngressRouting

namespace Redirect

theorem status?_bounds {raw : String} {n : UInt16} (h : status? raw = some n) : 300 ≤ n ∧ n ≤ 399 := by
  obtain ⟨-, hbounds⟩ := Option.filter_eq_some_iff.1 h
  exact of_decide_eq_true hbounds

end Redirect

namespace Annotations

variable {a : Annotations}

/-- Whether the key of an action is there, whatever its value. -/
def asksRedirect (a : Annotations) : Bool := RedirectCommand.every.any fun c => a.contains c.key

theorem asksRedirect_iff : a.asksRedirect = true ↔ a.redirectCommands ≠ [] := by
  rw [asksRedirect, redirectCommands, ne_eq, List.filter_eq_nil_iff]
  simp

/-- With two actions there is no command, and with none there is none. -/
theorem redirectCommand_eq_ok {c : Option RedirectCommand} (h : a.redirectCommand = .ok c) :
    a.redirectCommands = c.toList := by
  rw [redirectCommand] at h
  split at h
  · next hnone =>
    have hc : c = none := by
      split at h
      · exact (Except.ok.inj h).symm
      · split at h
        · exact (Except.ok.inj h).symm
        · cases h
    rw [hnone, hc]
    rfl
  · next c' hone =>
    cases h
    exact hone
  · cases h

theorem isSome_redirectCommand {c : Option RedirectCommand} (h : a.redirectCommand = .ok c) :
    c.isSome = a.asksRedirect := by
  rw [Bool.eq_iff_iff, asksRedirect_iff, redirectCommand_eq_ok h]
  cases c <;> simp

theorem redirectStatus_bounds {n : UInt16} (h : a.redirectStatus = .ok n) : 300 ≤ n ∧ n ≤ 399 := by
  rw [redirectStatus] at h
  have hdefault : (300 : UInt16) ≤ Redirect.defaultStatus ∧ Redirect.defaultStatus ≤ 399 := by decide
  split at h
  · cases h
    exact hdefault
  · split at h
    · cases h
      exact hdefault
    · split at h
      · next hstatus =>
        cases h
        exact Redirect.status?_bounds hstatus
      · cases h

/-- **A redirect is one command with a status between 300 and 399.** -/
theorem redirect_eq_some {r : Redirect} (h : a.redirect = .ok (some r)) :
    a.redirectCommands = [r.action.command] ∧ 300 ≤ r.status ∧ r.status ≤ 399 := by
  obtain ⟨c, hc, h⟩ := bind_eq_ok.1 h
  cases c with
  | none => cases h
  | some c =>
    dsimp only at h
    split at h
    · cases h
    · obtain ⟨status, hs, h⟩ := bind_eq_ok.1 h
      cases h
      exact ⟨redirectCommand_eq_ok hc, redirectStatus_bounds (mapError_eq_ok.1 hs)⟩

theorem asksRedirect_of_redirect {r : Redirect} (h : a.redirect = .ok (some r)) :
    a.asksRedirect = true := by
  rw [asksRedirect_iff, (redirect_eq_some h).1]
  exact List.cons_ne_nil _ _

theorem redirectCommand_ne_conflict (c : Conflict) : a.redirectCommand ≠ .error (.conflict c) := by
  intro h
  rw [redirectCommand] at h
  split at h
  · split at h
    · cases h
    · split at h <;> cases h
  · cases h
  · cases h

theorem redirect_ne_conflict (c : Conflict) : a.redirect ≠ .error (.conflict c) := by
  intro h
  rw [redirect] at h
  cases hc : a.redirectCommand with
  | error e =>
    rw [hc] at h
    cases h
    exact redirectCommand_ne_conflict c hc
  | ok command =>
    rw [hc] at h
    cases command with
    | none => cases h
    | some command =>
      simp only [Bind.bind, Except.bind] at h
      split at h
      · cases h
      · cases hs : a.redirectStatus with
        | error e => rw [hs] at h; cases h
        | ok status => rw [hs] at h; cases h

end Annotations

/-! ## Echoes -/

/-- What the redirect rulebook makes of a binding of the other, where its
annotations say so. -/
def Binding.echo? (b : Binding) : Option Binding :=
  match b.annotations.redirect with
  | .ok (some r) => some { b with effect := .redirect r.action r.status }
  | _ => none

/-- The second asks for the same as the first, with the redirect that the
annotations of the first come to. -/
structure Binding.Echoes (b c : Binding) : Prop where
  source : c.source = b.source
  host : c.host = b.host
  path : c.path = b.path
  annotations : c.annotations = b.annotations
  since : c.since = b.since
  effect : ∃ r, b.annotations.redirect = .ok (some r) ∧ c.effect = .redirect r.action r.status

/-- What bindings come to in the redirect rulebook. -/
def echoes (bs : List Binding) : List Binding := bs.filterMap Binding.echo?

/-- Each binding that asks for a redirect has one. -/
def Heeded (bs : List Binding) : Prop :=
  ∀ b ∈ bs, b.annotations.asksRedirect = true → ∃ c, b.Echoes c

section echoes

variable {b c x y : Binding} {bs cs : List Binding}

theorem Binding.echo?_eq_some : b.echo? = some c ↔ b.Echoes c := by
  rw [Binding.echo?]
  split
  · next r hr =>
    constructor
    · rintro ⟨⟩
      exact ⟨rfl, rfl, rfl, rfl, rfl, r, hr, rfl⟩
    · rintro ⟨hsource, hhost, hpath, hannotations, hsince, r', hr', heffect⟩
      rw [hr] at hr'
      cases hr'
      cases c
      simp_all
  · next hnone =>
    refine iff_of_false (fun h => by cases h) fun h => ?_
    obtain ⟨r, hr, _⟩ := h.effect
    exact hnone r hr

theorem Binding.Echoes.asksRedirect (h : b.Echoes c) : b.annotations.asksRedirect = true := by
  obtain ⟨r, hr, _⟩ := h.effect
  exact Annotations.asksRedirect_of_redirect hr

theorem Binding.Echoes.rivals_iff (h : b.Echoes c) (h' : x.Echoes y) : c.Rivals y ↔ b.Rivals x := by
  rw [Binding.Rivals, Binding.Rivals, h.host, h.path, h.annotations, h'.host, h'.path, h'.annotations]

theorem mem_echoes : c ∈ echoes bs ↔ ∃ b ∈ bs, b.Echoes c := by
  simp only [echoes, List.mem_filterMap, Binding.echo?_eq_some]

theorem Binding.Echoes.cons (h : b.Echoes c) (bs : List Binding) :
    echoes (b :: bs) = c :: echoes bs :=
  List.filterMap_cons_some (Binding.echo?_eq_some.2 h)

theorem echoes_cons_of_not (h : ¬ ∃ c, b.Echoes c) (bs : List Binding) :
    echoes (b :: bs) = echoes bs := by
  refine List.filterMap_cons_none ?_
  refine Option.eq_none_iff_forall_ne_some.2 fun c hc => h ⟨c, Binding.echo?_eq_some.1 hc⟩

theorem Binding.Rivals.exists_echo (h : b.Rivals x) : (∃ c, b.Echoes c) → ∃ y, x.Echoes y := by
  rintro ⟨c, hc⟩
  obtain ⟨r, hr, _⟩ := hc.effect
  exact ⟨{ x with effect := .redirect r.action r.status }, rfl, rfl, rfl, rfl, rfl, r, h.2.2 ▸ hr, rfl⟩

/-- **A binding with an echo settles as its echo does.** -/
theorem echoes_settle (h : b.Echoes c) (bs : List Binding) :
    echoes (settle b bs) = settle c (echoes bs) := by
  induction bs with
  | nil => exact h.cons []
  | cons x bs ih =>
    rw [settle]
    by_cases hx : ∃ y, x.Echoes y
    · obtain ⟨y, hx⟩ := hx
      rw [hx.cons, settle, h.since, hx.since]
      simp only [h.rivals_iff hx]
      split
      · split
        · exact h.cons bs
        · exact hx.cons bs
      · rw [hx.cons, ih]
    · -- A rival of `b` would have an echo, so `b` passes over `x`, and `c` never meets it.
      have hr : ¬ b.Rivals x := fun hr => hx (hr.exists_echo ⟨c, h⟩)
      rw [if_neg hr, echoes_cons_of_not hx, echoes_cons_of_not hx, ih]

/-- A binding without an echo meets rivals without one. -/
theorem echoes_settle_of_not (h : ¬ ∃ c, b.Echoes c) (bs : List Binding) :
    echoes (settle b bs) = echoes bs := by
  induction bs with
  | nil => exact echoes_cons_of_not h []
  | cons x bs ih =>
    rw [settle]
    split
    · next hr =>
      have hx : ¬ ∃ y, x.Echoes y := fun hy => h (hr.symm.exists_echo hy)
      rw [echoes_cons_of_not hx]
      split
      · exact echoes_cons_of_not h bs
      · exact echoes_cons_of_not hx bs
    · by_cases hx : ∃ y, x.Echoes y
      · obtain ⟨y, hx⟩ := hx
        rw [hx.cons, hx.cons, ih]
      · rw [echoes_cons_of_not hx, echoes_cons_of_not hx, ih]

theorem echoes_settleAll (cs bs : List Binding) :
    echoes (settleAll cs bs) = settleAll (echoes cs) (echoes bs) := by
  induction cs generalizing bs with
  | nil => rfl
  | cons c cs ih =>
    refine (ih (settle c bs)).trans ?_
    by_cases hc : ∃ d, c.Echoes d
    · obtain ⟨d, hc⟩ := hc
      rw [echoes_settle hc, hc.cons]
      rfl
    · rw [echoes_settle_of_not hc, echoes_cons_of_not hc]

/-- A test that a binding and its echo pass together. -/
theorem echoes_filter {p : Binding → Bool} (hp : ∀ b c : Binding, b.Echoes c → p c = p b)
    (bs : List Binding) : echoes (bs.filter p) = (echoes bs).filter p := by
  rw [echoes, echoes, List.filterMap_filter, List.filter_filterMap]
  refine List.filterMap_congr fun b _ => ?_
  cases hb : b.echo? with
  | none => simp
  | some c => simp [hp b c (Binding.echo?_eq_some.1 hb), Option.filter]

theorem echoes_withoutSource (source : String) (bs : List Binding) :
    echoes (withoutSource source bs) = withoutSource source (echoes bs) :=
  echoes_filter (fun _ _ h => by rw [h.source]) bs

theorem echoes_isAt (host path : String) (bs : List Binding) :
    echoes (bs.filter (·.isAt host path)) = (echoes bs).filter (·.isAt host path) :=
  echoes_filter (fun _ _ h => by rw [Binding.isAt, Binding.isAt, h.host, h.path]) bs

theorem Admits.echo (ha : Admits bs b) (h : b.Echoes c) : Admits (echoes bs) c := by
  intro y hy hr
  obtain ⟨x, hx, he⟩ := mem_echoes.1 hy
  rw [h.since, he.since]
  exact ha x hx ((h.rivals_iff he).1 hr)

/-- The echoes are those of the bindings that ask for a redirect, one for one. -/
theorem forall₂_echoes (h : Heeded bs) :
    List.Forall₂ Binding.Echoes (bs.filter (·.annotations.asksRedirect)) (echoes bs) := by
  induction bs with
  | nil => exact .nil
  | cons b bs ih =>
    have hrest := ih fun x hx => h x (List.mem_cons_of_mem _ hx)
    rw [List.filter_cons]
    by_cases hb : ∃ c, b.Echoes c
    · obtain ⟨c, hb⟩ := hb
      rw [if_pos hb.asksRedirect, hb.cons]
      exact .cons hb hrest
    · rw [if_neg fun ha => hb (h b List.mem_cons_self ha), echoes_cons_of_not hb]
      exact hrest

end echoes

end IngressRouting
