/-
What the gateway does to its two rulebooks, step by step. Every step is a chain
of edits of either roster (`Books.Evolves`), so opening the journals, going
through any steps and rolling back leaves both books as they were
(`Books.Evolves.rollback`). What gets into a roster has passed its check and
compiles (`Books.Sound`).
-/
import IngressRouting.Gateway
import IngressRouting.Proofs.Compilation
import IngressRouting.Proofs.Roster.Changes
import Mathlib.Data.Option.Basic

namespace IngressRouting

/-- Every binding in the roster compiles, and the roster is sound. -/
structure Rulebook.Sound (k : Rulebook) : Prop where
  roster : k.roster.Sound
  compiles : ∀ slot b, k.roster.get? slot = some b → b.Compiles

/-- Edits lead from one book to the other. -/
structure Rulebook.Evolves (k k' : Rulebook) : Prop where
  kind : k'.kind = k.kind
  edits : ∃ us, Roster.Edits k.roster us k'.roster

namespace Rulebook

variable {k k' k'' : Rulebook}

theorem Evolves.refl (k : Rulebook) : k.Evolves k := ⟨rfl, [], .refl⟩

theorem Evolves.trans (h : k.Evolves k') (h' : k'.Evolves k'') : k.Evolves k'' := by
  obtain ⟨us, hes⟩ := h.edits
  obtain ⟨vs, hes'⟩ := h'.edits
  exact ⟨h'.kind.trans h.kind, vs ++ us, hes.trans hes'⟩

/-- Opened, changed and rolled back, a book is what it was. -/
theorem Evolves.rollback (h : k.begin.Evolves k') (hs : k.roster.Sound)
    (hj : k.roster.journal = none) : k'.rollback = k := by
  obtain ⟨us, hes⟩ := h.edits
  have hroster : k'.roster.rollback.2 = k.roster := by
    rw [hes.rollback hs.begin rfl]
    exact Roster.commit_eq_self hj
  have hkind : k'.kind = k.kind := h.kind
  rw [Rulebook.rollback, hroster, hkind]

theorem Sound.empty (kind : TableKind) : (Rulebook.empty kind).Sound where
  roster := Roster.sound_empty
  compiles slot b h := by simp [Rulebook.empty, Roster.empty, Roster.get?] at h

theorem Sound.begin (h : k.Sound) : k.begin.Sound := ⟨h.roster.begin, h.compiles⟩

theorem Sound.commit (h : k.Sound) : k.commit.Sound := ⟨h.roster.commit, h.compiles⟩

theorem put_state (k : Rulebook) (b : Binding) : (k.put b).state = k ∨
    ∃ c, check k.kind b = .ok c ∧ (k.put b).state = ⟨k.kind, (k.roster.put c).2⟩ := by
  rw [Rulebook.put]
  split
  · exact .inl rfl
  · next c hc =>
    refine .inr ⟨c, hc, ?_⟩
    split <;> next hput => simp [hput]

theorem put_evolves (h : k.Sound) (b : Binding) : k.Evolves (k.put b).state := by
  rcases k.put_state b with he | ⟨c, _, he⟩ <;> rw [he]
  · exact .refl k
  · obtain ⟨us, hes, _⟩ := h.roster.put_edits c
    exact ⟨rfl, us, hes⟩

theorem Sound.put (h : k.Sound) (b : Binding) : (k.put b).state.Sound := by
  rcases k.put_state b with he | ⟨c, hc, he⟩ <;> rw [he]
  · exact h
  · obtain ⟨us, hes, _⟩ := h.roster.put_edits c
    refine ⟨hes.sound h.roster, fun slot d hd => ?_⟩
    rcases h.roster.get?_put hd with rfl | hd
    · obtain ⟨rfl, _, hcompiles, _⟩ := check_eq_ok_iff.1 hc
      exact hcompiles
    · exact h.compiles slot d hd

/-- What holds of a book as it is and after any put, holds after a binding is put at a host and
path. -/
theorem bind_keeps {I : Rulebook → Prop} (h : I k) (put : ∀ b, I (k.put b).state)
    (source host path : String) (a : Annotations) (target : String) (since : UInt64) :
    I (k.bind source host path a target since).state := by
  rw [Rulebook.bind]
  split
  · exact h
  · exact put _

theorem bind_evolves (h : k.Sound) (source host path : String) (a : Annotations) (target : String)
    (since : UInt64) : k.Evolves (k.bind source host path a target since).state :=
  bind_keeps (.refl k) (put_evolves h) source host path a target since

theorem Sound.bind (h : k.Sound) (source host path : String) (a : Annotations) (target : String)
    (since : UInt64) : (k.bind source host path a target since).state.Sound :=
  bind_keeps h h.put source host path a target since

theorem removeSource_evolves (h : k.Sound) (source : String) : k.Evolves (k.removeSource source) := by
  obtain ⟨us, hes, _⟩ := h.roster.removeSource_edits source
  exact ⟨rfl, us, hes⟩

theorem Sound.removeSource (h : k.Sound) (source : String) : (k.removeSource source).Sound := by
  obtain ⟨us, hes, _⟩ := h.roster.removeSource_edits source
  exact ⟨hes.sound h.roster, fun slot b hb => h.compiles slot b (h.roster.get?_removeSource hb)⟩

theorem compile_eq_ok_iff {rules : Rules} : k.compile.1 = .ok rules ↔ k.roster.rules = .ok rules := by
  rw [Rulebook.compile]
  cases hr : k.roster.rules <;> simp

/-- **A sound book compiles.** -/
theorem Sound.compile (h : k.Sound) : ∃ rules, k.compile.1 = .ok rules := by
  obtain ⟨rules, hr⟩ := Roster.rules_ok h.compiles
  exact ⟨rules, compile_eq_ok_iff.2 hr⟩

end Rulebook

namespace Gateway.Books

variable {b b' b'' : Books}

/-- Both rulebooks are sound. -/
structure Sound (b : Books) : Prop where
  route : b.route.Sound
  redirect : ∀ k, b.redirect = some k → k.Sound

/-- Edits lead from the books to the others, one by one. -/
structure Evolves (b b' : Books) : Prop where
  route : b.route.Evolves b'.route
  redirect : Option.Rel Rulebook.Evolves b.redirect b'.redirect

theorem Evolves.refl (b : Books) : b.Evolves b := by
  refine ⟨.refl _, ?_⟩
  cases b.redirect with
  | none => exact .none
  | some k => exact .some (.refl k)

theorem Evolves.trans (h : b.Evolves b') (h' : b'.Evolves b'') : b.Evolves b'' := by
  obtain ⟨_, d⟩ := b
  obtain ⟨_, d'⟩ := b'
  obtain ⟨_, d''⟩ := b''
  refine ⟨h.route.trans h'.route, ?_⟩
  have h₁ : Option.Rel Rulebook.Evolves d d' := h.redirect
  have h₂ : Option.Rel Rulebook.Evolves d' d'' := h'.redirect
  cases h₁ with
  | none => exact h₂
  | some h₁ =>
    cases h₂ with
    | some h₂ => exact .some (h₁.trans h₂)

theorem Sound.map {f : Rulebook → Rulebook} (h : b.Sound) (hf : ∀ k, k.Sound → (f k).Sound) :
    (b.map f).Sound := by
  refine ⟨hf _ h.route, fun k hk => ?_⟩
  obtain ⟨k', hk', rfl⟩ := Option.map_eq_some_iff.1 hk
  exact hf k' (h.redirect k' hk')

theorem map_evolves {f : Rulebook → Rulebook} (h : b.Sound)
    (hf : ∀ k : Rulebook, k.Sound → k.Evolves (f k)) : b.Evolves (b.map f) := by
  obtain ⟨route, d⟩ := b
  refine ⟨hf _ h.route, ?_⟩
  cases d with
  | none => exact .none
  | some k => exact .some (hf k (h.redirect k rfl))

/-- No journal is open. -/
structure Closed (b : Books) : Prop where
  route : b.route.roster.journal = none
  redirect : ∀ k, b.redirect = some k → k.roster.journal = none

/-- **Opened, changed and rolled back, books are what they were.** -/
theorem Evolves.rollback (h : (b.map Rulebook.begin).Evolves b') (hs : b.Sound) (hc : b.Closed) :
    b'.map Rulebook.rollback = b := by
  obtain ⟨route, d⟩ := b
  obtain ⟨route', d'⟩ := b'
  have hroute : route'.rollback = route := h.route.rollback hs.route.roster hc.route
  have hredirect : d'.map Rulebook.rollback = d := by
    have hr : Option.Rel Rulebook.Evolves (d.map Rulebook.begin) d' := h.redirect
    cases d with
    | none => cases hr; rfl
    | some k =>
      cases hr with
      | some hk => exact congrArg some (hk.rollback (hs.redirect k rfl).roster (hc.redirect k rfl))
  rw [Books.map, hroute, hredirect]

theorem putRule_keeps (h : b.Sound) (p : Plan) (r : PathRule) :
    b.Evolves (b.putRule p r).state ∧ (b.putRule p r).state.Sound := by
  have hroute := Rulebook.bind_evolves h.route p.source r.host r.path p.annotations r.target p.since
  have hsound := h.route.bind p.source r.host r.path p.annotations r.target p.since
  have hfirst : ∀ k, k = b.route.bind p.source r.host r.path p.annotations r.target p.since →
      b.Evolves { b with route := k.state } ∧ ({ b with route := k.state } : Books).Sound := by
    rintro k rfl
    exact ⟨⟨hroute, (Evolves.refl b).redirect⟩, hsound, h.redirect⟩
  rw [putRule]
  dsimp only
  split
  · exact hfirst _ rfl
  · split
    · exact hfirst _ rfl
    · next book hbook =>
      have hb : b.redirect = some book := by
        split at hbook
        · exact hbook
        · cases hbook
      have hk := h.redirect book hb
      refine ⟨⟨hroute, ?_⟩, hsound, fun k hk' => ?_⟩
      · rw [hb]
        exact .some (Rulebook.bind_evolves hk ..)
      · cases hk'
        exact hk.bind ..

theorem putRules_keeps (h : b.Sound) (p : Plan) (rs : List PathRule) :
    b.Evolves (b.putRules p rs).state ∧ (b.putRules p rs).state.Sound := by
  induction rs generalizing b with
  | nil => exact ⟨.refl b, h⟩
  | cons r rs ih =>
    obtain ⟨he, hs⟩ := putRule_keeps h p r
    rw [putRules]
    dsimp only
    split
    · exact ⟨he, hs⟩
    · obtain ⟨he', hs'⟩ := ih hs
      exact ⟨he.trans he', hs'⟩

/-- The tables are those that the books compile to. -/
structure Rendered (b : Books) (balance : ClusterSplits)
    (tables : RouteTable × Option RedirectTable) : Prop where
  route : ∃ rules, b.route.compile.1 = .ok rules ∧ tables.1 = RouteTable.ofRules rules balance
  redirect : Option.Rel (fun k t => ∃ rules, k.compile.1 = .ok rules ∧ t = RedirectTable.ofRules rules)
    b.redirect tables.2

/-- **Sound books can be rendered.** -/
theorem Sound.render (h : b.Sound) (balance : ClusterSplits) :
    ∃ tables, (b.render balance).1 = .ok tables ∧ b.Rendered balance tables := by
  obtain ⟨rules, hr⟩ := h.route.compile
  obtain ⟨samples, hc⟩ : ∃ samples, b.route.compile = (.ok rules, samples) := ⟨_, Prod.ext hr rfl⟩
  cases hb : b.redirect with
  | none =>
    refine ⟨(RouteTable.ofRules rules balance, none), ?_, ⟨rules, hr, rfl⟩, ?_⟩
    · simp [Books.render, hc, hb]
    · rw [hb]; exact .none
  | some k =>
    obtain ⟨more, hm⟩ := (h.redirect k hb).compile
    obtain ⟨samples', hc'⟩ : ∃ samples, k.compile = (.ok more, samples) := ⟨_, Prod.ext hm rfl⟩
    refine ⟨(RouteTable.ofRules rules balance, some (RedirectTable.ofRules more)), ?_,
      ⟨rules, hr, rfl⟩, ?_⟩
    · simp [Books.render, hc, hb, hc']
    · rw [hb]; exact .some ⟨more, hm, rfl⟩

end Gateway.Books

end IngressRouting
