/-
The compilation of a snapshot, where nothing is in force before. An object is
accepted exactly when nothing is wrong with it by itself and no accepted object
that is older blocks it; what was refused does not count. Whatever the accepted
objects claim is held by the first of them (`Settings.compileOnce_settles`).

The objects are gone through in order. What stays from one to the next is that the
bindings in force are those that the accepted ones come to from nothing (`Taken`),
which are the first of their claims.
-/
import IngressRouting.Proofs.Gateway.Convergence
import IngressRouting.Proofs.Gateway.Demands
import IngressRouting.Proofs.Seniority
import IngressRouting.Watch

namespace IngressRouting

namespace Gateway

variable {enabled : Bool} {g : Gateway} {kind : TableKind} {o : IngressObject}
  {done os objects : List IngressObject} {c x : Binding}

/-! ## Objects in line -/

/-- Objects of different keys, in the order in which they are applied. -/
def InLine (os : List IngressObject) : Prop :=
  os.Pairwise fun a b => appliedBefore a b = true ∧ a.key ≠ b.key

theorem append_cons_eq : done ++ o :: os = done ++ [o] ++ os := by
  rw [List.append_assoc]
  rfl

theorem InLine.upTo (h : InLine (done ++ o :: os)) : InLine (done ++ [o]) := by
  rw [append_cons_eq] at h
  exact (List.pairwise_append.1 h).1

theorem InLine.skip (h : InLine (done ++ o :: os)) : InLine (done ++ os) :=
  h.sublist ((List.sublist_cons_self o os).append_left done)

theorem InLine.next (h : InLine (done ++ o :: os)) :
    ∀ u ∈ os, appliedBefore o u = true ∧ o.key ≠ u.key :=
  (List.pairwise_cons.1 (List.pairwise_append.1 h).2.1).1

theorem inLine_inOrder (h : (objects.map IngressObject.key).Nodup) : InLine (inOrder objects) :=
  (inOrder_pairwise objects).and (inOrder_distinct h)

/-- What objects claim in the rulebook of a kind, in order. -/
def demands (enabled : Bool) (os : List IngressObject) (kind : TableKind) : List Binding :=
  os.flatMap fun o => (turn enabled o kind).claims

/-- What objects come to from nothing. -/
def standing (enabled : Bool) (os : List IngressObject) : Standing :=
  fun kind => settleAll (demands enabled os kind) []

theorem precedes_iff {a b : IngressObject} (hx : x ∈ (turn enabled a kind).claims)
    (hc : c ∈ (turn enabled b kind).claims) : x.Precedes c ↔ appliedBefore a b = true := by
  obtain ⟨hsource, hsince⟩ := mem_turn hx
  obtain ⟨hsource', hsince'⟩ := mem_turn hc
  rw [Binding.Precedes, hsource, hsince, hsource', hsince', appliedBefore_iff]

theorem appliedBefore_self (o : IngressObject) : appliedBefore o o = true := by
  simpa using appliedBefore_total o o

/-- **What objects in line come to are the first of their claims.** -/
theorem InLine.firsts (h : InLine os) (enabled : Bool) (kind : TableKind) :
    Firsts (demands enabled os kind) (standing enabled os kind) := by
  refine firsts_settleAll (List.pairwise_flatMap.2 ⟨fun o _ => ?_, h.imp fun hab c hc d hd => ?_⟩)
  · exact List.pairwise_of_forall_mem_list fun c hc d hd =>
      (precedes_iff hc hd).2 (appliedBefore_self o)
  · exact (precedes_iff hc hd).2 hab.1

theorem exists_of_mem_standing (h : InLine os) (hx : x ∈ standing enabled os kind) :
    ∃ o ∈ os, x ∈ (turn enabled o kind).claims :=
  List.mem_flatMap.1 ((h.firsts enabled kind).claims x hx)

/-! ## One object after others -/

/-- The objects have been taken up, in a gateway that was empty before. -/
structure Taken (enabled : Bool) (done : List IngressObject) (g : Gateway) : Prop where
  settled : g.Settled
  valid : ∀ o ∈ done, Valid enabled o
  lists : g.books.Lists (standing enabled done)
  splits : ∀ s, g.splits.contains s = true → s ∈ done.map IngressObject.key
  backends : ∀ s, g.backends.contains s = true → s ∈ done.map IngressObject.key
  enabled : g.redirectEnabled = enabled

theorem taken_empty (enabled : Bool) : Taken enabled [] (Gateway.empty enabled) where
  settled := settled_empty enabled
  valid o ho := by cases ho
  lists := (registered_empty enabled).lists
  splits s hs := by cases hs
  backends s hs := by cases hs
  enabled := (registered_empty enabled).enabled

/-- **Who comes next is kept out by those who block it**, and by nobody else. -/
theorem admitted_iff (hline : InLine (done ++ [o])) (hdone : ∀ a ∈ done, Valid enabled a)
    (ho : Valid enabled o) :
    (∀ kind, AdmitsAll (standing enabled done kind) (turn enabled o kind).claims) ↔
      ∀ a ∈ done, ¬ Blocks a o := by
  have hfirsts := InLine.firsts (List.pairwise_append.1 hline).1 enabled
  simp only [admitsAll_turn]
  constructor
  · rintro hall a ha ⟨hlt, hrules, host, path, hasks, hasks'⟩
    have hroute : ∀ a, Enters enabled a .route = true := fun _ => rfl
    obtain ⟨d, hd, hhost, hpath, hannotations⟩ := (hdone a ha).exists_claim (hroute _) hasks
    obtain ⟨c, hc, hhost', hpath', hannotations'⟩ := ho.exists_claim (hroute _) hasks'
    have hrivals : c.Rivals d :=
      ⟨hhost'.trans hhost.symm, hpath'.trans hpath.symm,
        hannotations'.trans (hrules.symm.trans hannotations.symm)⟩
    -- the holder of the claim need not be `a` itself, but it came no later than `a`
    obtain ⟨x, hx, hr, hprecedes⟩ := (hfirsts .route).first d (List.mem_flatMap.2 ⟨a, ha, hd⟩)
    have hle := UInt64.le_trans (hall .route c hc x hx (hrivals.trans hr)) hprecedes.since_le
    rw [(mem_turn hc).2, (mem_turn hd).2] at hle
    exact UInt64.not_lt.2 hle hlt
  · intro hnone kind c hc x hx hr
    obtain ⟨a, ha, hxa⟩ := List.mem_flatMap.1 ((hfirsts kind).claims x hx)
    obtain ⟨hasks, hrules, _⟩ := asksFor_of_mem_turn hc
    obtain ⟨hasks', hrules', _⟩ := asksFor_of_mem_turn hxa
    rw [(mem_turn hc).2, (mem_turn hxa).2]
    refine UInt64.not_lt.1 fun hlt => hnone a ha ⟨hlt, ?_, c.host, c.path, ?_, hasks⟩
    · rw [← hrules', ← hrules, hr.2.2]
    · rw [hr.1, hr.2.1]
      exact hasks'

theorem withoutSource_standing (hline : InLine (done ++ [o])) :
    withoutSource o.key (standing enabled done kind) = standing enabled done kind := by
  obtain ⟨hdone, _, hlast⟩ := List.pairwise_append.1 hline
  refine withoutSource_eq_self fun x hx => ?_
  obtain ⟨a, ha, hxa⟩ := exists_of_mem_standing hdone hx
  rw [(mem_turn hxa).1]
  exact (hlast a ha o List.mem_cons_self).2

theorem standing_append : standing enabled (done ++ [o]) kind =
    settleAll (turn enabled o kind).claims (standing enabled done kind) := by
  rw [standing, demands, List.flatMap_append, settleAll_settleAll, List.flatMap_singleton]
  rfl

/-- **One object after others**: when it is accepted, and what it comes to. -/
theorem Taken.upsert (h : Taken enabled done g) (hline : InLine (done ++ [o])) :
    ((g.upsert o).answer.isOk = true ↔ Valid enabled o ∧ ∀ a ∈ done, ¬ Blocks a o) ∧
      ((g.upsert o).answer.isOk = true → Taken enabled (done ++ [o]) (g.upsert o).state) := by
  obtain ⟨hok, hnew⟩ := upsert_isOk h.lists o
  simp only [h.enabled, withoutSource_standing hline] at hok
  have haccepted := hok.trans (and_congr_right fun ho => admitted_iff hline h.valid ho)
  refine ⟨haccepted, fun ha => ?_⟩
  have hrenewed := hnew ha
  have hmem : ∀ s, s ∈ (done ++ [o]).map IngressObject.key ↔ s = o.key ∨ s ∈ done.map IngressObject.key :=
    fun s => by rw [List.map_append, List.mem_append, List.map_singleton, List.mem_singleton, or_comm]
  refine ⟨h.settled.upsert o, fun a hm => ?_, ?_, fun s hs => ?_, fun s hs => ?_,
    hrenewed.enabled.trans h.enabled⟩
  · rcases List.mem_append.1 hm with hm | hm
    · exact h.valid a hm
    · rw [List.mem_singleton.1 hm]
      exact (haccepted.1 ha).1
  · have hlists := hrenewed.lists
    simp only [h.enabled, renew] at hlists
    have hstanding : standing enabled (done ++ [o]) = fun kind =>
        settleAll (turn enabled o kind).claims (withoutSource (turn enabled o kind).source
          (standing enabled done kind)) := funext fun kind => by
      rw [standing_append]
      exact congrArg _ (withoutSource_standing hline).symm
    rw [hstanding]
    exact hlists
  · rw [hrenewed.splits, Dict.contains, Dict.get?_put] at hs
    rw [hmem]
    split at hs
    · next he => exact .inl he
    · exact .inr (h.splits s hs)
  · rw [hrenewed.backends, Backends.register, Dict.contains, Dict.get?_insert] at hs
    rw [hmem]
    split at hs
    · next he => exact .inl he
    · exact .inr (h.backends s hs)

/-! ## All objects in line -/

/-- One of the outcomes says that the object was accepted. -/
def Accepts (xs : List Outcome) (o : IngressObject) : Prop :=
  ∃ x ∈ xs, x.source = o.key ∧ x.isOk = true

theorem not_blocks_of_appliedBefore {a : IngressObject} (h : appliedBefore o a = true) : ¬ Blocks a o := by
  rintro ⟨hlt, _⟩
  rcases appliedBefore_iff.1 h with hlt' | ⟨he, _⟩
  · exact UInt64.lt_asymm hlt hlt'
  · rw [he] at hlt
    exact UInt64.lt_irrefl _ hlt

theorem source_apply (g : Gateway) (os : List IngressObject) :
    (g.apply (os.map .upsert)).answer.map Outcome.source = os.map IngressObject.key := by
  induction os generalizing g with
  | nil => rfl
  | cons o os ih => exact congrArg (o.key :: ·) (ih (g.upsert o).state)

/-- Of objects of different keys, each is judged by the outcome under its own. -/
theorem accepts_cons {xs : List Outcome} (hne : ∀ u ∈ os, o.key ≠ u.key)
    (hxs : xs.map Outcome.source = os.map IngressObject.key) (result : Except Rejection Unit) :
    (Accepts (⟨o.key, result⟩ :: xs) o ↔ result.isOk = true) ∧
      ∀ u ∈ os, Accepts (⟨o.key, result⟩ :: xs) u ↔ Accepts xs u := by
  simp only [Accepts, List.exists_mem_cons_iff, true_and]
  refine ⟨or_iff_left ?_, fun u hu => or_iff_right fun hu' => hne u hu hu'.1⟩
  rintro ⟨x, hx, hkey, _⟩
  have hm : o.key ∈ os.map IngressObject.key := by
    rw [← hxs, ← hkey]
    exact List.mem_map_of_mem hx
  obtain ⟨u, hu, he⟩ := List.mem_map.1 hm
  exact hne u hu he.symm

/-- Who of the objects still in line is accepted after others, and what they come to. -/
structure Run (enabled : Bool) (done os accepted : List IngressObject) (xs : List Outcome)
    (g : Gateway) : Prop where
  sublist : accepted.Sublist os
  taken : Taken enabled (done ++ accepted) g
  mem_iff : ∀ o ∈ os, o ∈ accepted ↔ Accepts xs o
  accepts_iff : ∀ o ∈ os, Accepts xs o ↔ Valid enabled o ∧ ∀ a ∈ done ++ accepted, ¬ Blocks a o

section Run

variable {accepted : List IngressObject} {xs : List Outcome} {g' : Gateway}

/-- An object that is accepted is one of those before the rest. -/
theorem Run.cons_accepted (h : Run enabled (done ++ [o]) os accepted xs g')
    (hlater : ∀ u ∈ os, appliedBefore o u = true ∧ o.key ≠ u.key)
    (hxs : xs.map Outcome.source = os.map IngressObject.key) {result : Except Rejection Unit}
    (hok : result.isOk = true) (ho : Valid enabled o ∧ ∀ a ∈ done, ¬ Blocks a o) :
    Run enabled done (o :: os) (o :: accepted) (⟨o.key, result⟩ :: xs) g' := by
  obtain ⟨hhead, htail⟩ := accepts_cons (fun u hu => (hlater u hu).2) hxs result
  refine ⟨h.sublist.cons_cons o, append_cons_eq ▸ h.taken, fun u hu => ?_, fun u hu => ?_⟩
  · rcases List.mem_cons.1 hu with rfl | hu
    · exact iff_of_true List.mem_cons_self (hhead.2 hok)
    · have hne : u ≠ o := fun he => (hlater u hu).2 (he ▸ rfl)
      rw [List.mem_cons, or_iff_right hne, h.mem_iff u hu, htail u hu]
  · rcases List.mem_cons.1 hu with rfl | hu
    · refine iff_of_true (hhead.2 hok) ⟨ho.1, fun a hm => ?_⟩
      rcases List.mem_append.1 hm with hm | hm
      · exact ho.2 a hm
      · rcases List.mem_cons.1 hm with rfl | hm
        · exact not_blocks_of_appliedBefore (appliedBefore_self _)
        · exact not_blocks_of_appliedBefore (hlater a (h.sublist.subset hm)).1
    · rw [htail u hu, h.accepts_iff u hu, ← append_cons_eq]

/-- An object that is refused is none of those before the rest. -/
theorem Run.cons_refused (h : Run enabled done os accepted xs g')
    (hlater : ∀ u ∈ os, appliedBefore o u = true ∧ o.key ≠ u.key)
    (hxs : xs.map Outcome.source = os.map IngressObject.key) {result : Except Rejection Unit}
    (hok : ¬ result.isOk = true) (ho : ¬ (Valid enabled o ∧ ∀ a ∈ done, ¬ Blocks a o)) :
    Run enabled done (o :: os) accepted (⟨o.key, result⟩ :: xs) g' := by
  obtain ⟨hhead, htail⟩ := accepts_cons (fun u hu => (hlater u hu).2) hxs result
  refine ⟨h.sublist.cons o, h.taken, fun u hu => ?_, fun u hu => ?_⟩
  · rcases List.mem_cons.1 hu with rfl | hu
    · exact iff_of_false (fun hm => (hlater u (h.sublist.subset hm)).2 rfl) fun hm => hok (hhead.1 hm)
    · rw [h.mem_iff u hu, htail u hu]
  · rcases List.mem_cons.1 hu with rfl | hu
    · refine iff_of_false (fun hm => hok (hhead.1 hm)) fun ⟨hvalid, hnone⟩ => ho ⟨hvalid, ?_⟩
      exact fun a hm => hnone a (List.mem_append_left _ hm)
    · rw [htail u hu, h.accepts_iff u hu]

/-- **All objects, one after the other.** Those that are accepted are taken up, and the
rest leave no trace. -/
theorem Taken.run (h : Taken enabled done g) (hline : InLine (done ++ os)) :
    ∃ accepted, Run enabled done os accepted (g.apply (os.map .upsert)).answer
      (g.apply (os.map .upsert)).state := by
  induction os generalizing done g with
  | nil => exact ⟨[], .slnil, by rwa [List.append_nil], by simp, by simp⟩
  | cons o os ih =>
    have hlater := hline.next
    obtain ⟨hiff, htaken⟩ := h.upsert hline.upTo
    by_cases ha : (g.upsert o).answer.isOk = true
    · obtain ⟨accepted, hrun⟩ := ih (htaken ha) (append_cons_eq ▸ hline)
      exact ⟨o :: accepted, hrun.cons_accepted hlater (source_apply _ _) ha (hiff.1 ha)⟩
    · -- a refusal rolls back, so the rest meets the gateway that `o` met
      have hsame : (g.upsert o).state = g := h.settled.upsert_eq_self ha
      obtain ⟨accepted, hrun⟩ := ih h hline.skip
      rw [← hsame] at hrun
      exact ⟨accepted, hrun.cons_refused hlater (source_apply _ _) ha fun ho => ha (hiff.2 ho)⟩

end Run

/-! ## First come, first served -/

/-- An accepted object of the snapshot that asks for the host and path, with these
annotations. -/
structure Claimant (objects : List IngressObject) (xs : List Outcome) (host path : String)
    (a : Annotations) (o : IngressObject) : Prop where
  mem : o ∈ objects
  accepted : Accepts xs o
  asks : o.AsksFor host path
  annotations : o.rules = a

/-- One binding is at the host and path with these annotations, and it is the source's. -/
def HeldBy (bs : List Binding) (host path : String) (a : Annotations) (source : String) : Prop :=
  ∃ b ∈ bs, b.source = source ∧
    ∀ x ∈ bs, x.host = host ∧ x.path = path ∧ x.annotations = a ↔ x = b

/-- What a snapshot comes to: its outcomes and the gateway that is left. -/
structure FirstServed (enabled : Bool) (objects : List IngressObject) (xs : List Outcome)
    (g : Gateway) : Prop where
  outcomes : xs.map Outcome.source = (inOrder objects).map IngressObject.key
  /-- Accepted is what is accepted on its own, unless an accepted object blocks it. -/
  accepts_iff : ∀ o ∈ objects, Accepts xs o ↔
    ((Gateway.empty enabled).upsert o).answer.isOk = true ∧ ∀ a ∈ objects, Accepts xs a → ¬ Blocks a o
  /-- What accepted objects claim is held by the first of them. -/
  held : ∀ kind host path a, Enters enabled a kind = true → ∀ o, Claimant objects xs host path a o →
    ∃ first, Claimant objects xs host path a first ∧
      (∀ u, Claimant objects xs host path a u → appliedBefore first u = true) ∧
      HeldBy (g.inForce kind) host path a first.key
  /-- Nobody who was accepted has lost a claim to somebody later. -/
  unlost : ∀ kind, ∀ x ∈ g.inForce kind, ∀ o, Claimant objects xs x.host x.path x.annotations o →
    ∃ u ∈ objects, x.source = u.key ∧ Accepts xs u ∧ appliedBefore u o = true
  /-- What was refused owns nothing. -/
  refused : ∀ o ∈ objects, ¬ Accepts xs o → (∀ kind, ∀ b ∈ g.inForce kind, b.source ≠ o.key) ∧
    g.splits.contains o.key = false ∧ g.backends.contains o.key = false

section FirstServed

variable {accepted : List IngressObject} {xs : List Outcome} {host path : String} {a : Annotations}

theorem Run.mem_accepted_iff (h : Run enabled [] (inOrder objects) accepted xs g) :
    o ∈ accepted ↔ o ∈ objects ∧ Accepts xs o := by
  constructor
  · intro ho
    have hm := h.sublist.subset ho
    exact ⟨mem_inOrder.1 hm, (h.mem_iff o hm).1 ho⟩
  · rintro ⟨ho, ha⟩
    exact (h.mem_iff o (mem_inOrder.2 ho)).2 ha

theorem Run.inLine (h : Run enabled [] (inOrder objects) accepted xs g)
    (hd : (objects.map IngressObject.key).Nodup) : InLine accepted :=
  (inLine_inOrder hd).sublist h.sublist

theorem Run.mem_inForce_iff (h : Run enabled [] (inOrder objects) accepted xs g) (kind : TableKind)
    (b : Binding) :
    b ∈ g.inForce kind ↔ b ∈ standing enabled accepted kind := by
  have hlists := h.taken.lists
  rw [List.nil_append] at hlists
  exact hlists.inForce.mem_congr hlists kind b

theorem Run.claimant (h : Run enabled [] (inOrder objects) accepted xs g)
    (hd : (objects.map IngressObject.key).Nodup) (hx : x ∈ standing enabled accepted kind) :
    ∃ o, Claimant objects xs x.host x.path x.annotations o ∧ x ∈ (turn enabled o kind).claims := by
  obtain ⟨o, ho, hxo⟩ := exists_of_mem_standing (h.inLine hd) hx
  obtain ⟨hm, haccepted⟩ := h.mem_accepted_iff.1 ho
  obtain ⟨hasks, hrules, _⟩ := asksFor_of_mem_turn hxo
  exact ⟨o, ⟨hm, haccepted, hasks, hrules.symm⟩, hxo⟩

/-- **A claim is held by the first who has it.** -/
theorem Run.holder (h : Run enabled [] (inOrder objects) accepted xs g)
    (hd : (objects.map IngressObject.key).Nodup) (ho : Claimant objects xs host path a o)
    (ha : Enters enabled a kind = true) :
    ∃ x ∈ standing enabled accepted kind, (x.host = host ∧ x.path = path ∧ x.annotations = a) ∧
      ∀ u, x ∈ (turn enabled u kind).claims → appliedBefore u o = true := by
  have hvalid := h.taken.valid o (h.mem_accepted_iff.2 ⟨ho.mem, ho.accepted⟩)
  obtain ⟨c, hc, hhost, hpath, hannotations⟩ := hvalid.exists_claim (ho.annotations ▸ ha) ho.asks
  have hdemand : c ∈ demands enabled accepted kind :=
    List.mem_flatMap.2 ⟨o, h.mem_accepted_iff.2 ⟨ho.mem, ho.accepted⟩, hc⟩
  obtain ⟨x, hx, hr, hprecedes⟩ := ((h.inLine hd).firsts enabled kind).first c hdemand
  refine ⟨x, hx, ⟨hr.1 ▸ hhost, hr.2.1 ▸ hpath, ?_⟩, fun u hu => (precedes_iff hu hc).1 hprecedes⟩
  rw [← hr.2.2, hannotations, ho.annotations]

/-- The holder is an accepted object, and the first of those that claim the same. -/
theorem Run.held (h : Run enabled [] (inOrder objects) accepted xs g)
    (hd : (objects.map IngressObject.key).Nodup) (ha : Enters enabled a kind = true)
    (ho : Claimant objects xs host path a o) :
    ∃ first, Claimant objects xs host path a first ∧
      (∀ u, Claimant objects xs host path a u → appliedBefore first u = true) ∧
      HeldBy (g.inForce kind) host path a first.key := by
  have hforce := h.mem_inForce_iff kind
  obtain ⟨x, hx, hplace, _⟩ := h.holder hd ho ha
  obtain ⟨first, hfirst, hxf⟩ := h.claimant hd hx
  rw [hplace.1, hplace.2.1, hplace.2.2] at hfirst
  have hone : ∀ y ∈ standing enabled accepted kind,
      y.host = host ∧ y.path = path ∧ y.annotations = a → y = x := fun y hy hp =>
    ((h.inLine hd).firsts enabled kind).eq_of_rivals hy hx ⟨hp.1.trans hplace.1.symm,
      hp.2.1.trans hplace.2.1.symm, hp.2.2.trans hplace.2.2.symm⟩
  refine ⟨first, hfirst, fun u hu => ?_, x, (hforce x).2 hx, (mem_turn hxf).1, fun y hy => ?_⟩
  · -- whoever else claims it finds the same holder
    obtain ⟨y, hy, hp, hbefore⟩ := h.holder hd hu ha
    obtain rfl := hone y hy hp
    exact hbefore first hxf
  · exact ⟨hone y ((hforce y).1 hy), fun he => he ▸ hplace⟩

theorem Run.unlost (h : Run enabled [] (inOrder objects) accepted xs g)
    (hd : (objects.map IngressObject.key).Nodup) (hx : x ∈ g.inForce kind)
    (ho : Claimant objects xs x.host x.path x.annotations o) :
    ∃ u ∈ objects, x.source = u.key ∧ Accepts xs u ∧ appliedBefore u o = true := by
  have hx := (h.mem_inForce_iff kind x).1 hx
  obtain ⟨u, hu, hxu⟩ := h.claimant hd hx
  have ha := hu.annotations ▸ (asksFor_of_mem_turn hxu).2.2
  obtain ⟨y, hy, hp, hbefore⟩ := h.holder hd ho ha
  obtain rfl := ((h.inLine hd).firsts enabled kind).eq_of_rivals hy hx hp
  exact ⟨u, hu.mem, (mem_turn hxu).1, hu.accepted, hbefore u hxu⟩

theorem Run.key_not_mem (h : Run enabled [] (inOrder objects) accepted xs g)
    (hd : (objects.map IngressObject.key).Nodup) (ho : o ∈ objects) (hno : ¬ Accepts xs o) :
    o.key ∉ accepted.map IngressObject.key := by
  intro hm
  obtain ⟨u, hu, he⟩ := List.mem_map.1 hm
  obtain ⟨hu, hau⟩ := h.mem_accepted_iff.1 hu
  exact hno (List.inj_on_of_nodup_map hd hu ho he ▸ hau)

theorem Run.refused (h : Run enabled [] (inOrder objects) accepted xs g)
    (hd : (objects.map IngressObject.key).Nodup) (ho : o ∈ objects) (hno : ¬ Accepts xs o) :
    (∀ kind, ∀ b ∈ g.inForce kind, b.source ≠ o.key) ∧
      g.splits.contains o.key = false ∧ g.backends.contains o.key = false := by
  have hkey := h.key_not_mem hd ho hno
  refine ⟨fun kind b hb he => ?_, ?_, ?_⟩
  · obtain ⟨u, hu, hbu⟩ := h.claimant hd ((h.mem_inForce_iff kind b).1 hb)
    refine hkey (List.mem_map.2 ⟨u, h.mem_accepted_iff.2 ⟨hu.mem, hu.accepted⟩, ?_⟩)
    rw [← he, (mem_turn hbu).1]
  · exact Bool.eq_false_iff.2 fun hs => hkey (h.taken.splits o.key hs)
  · exact Bool.eq_false_iff.2 fun hs => hkey (h.taken.backends o.key hs)

theorem Run.firstServed (h : Run enabled [] (inOrder objects) accepted xs g)
    (hd : (objects.map IngressObject.key).Nodup)
    (hxs : xs.map Outcome.source = (inOrder objects).map IngressObject.key) :
    FirstServed enabled objects xs g where
  outcomes := hxs
  accepts_iff o ho := by
    rw [h.accepts_iff o (mem_inOrder.2 ho), upsert_empty_isOk, List.nil_append]
    simp only [h.mem_accepted_iff, and_imp]
  held _ _ _ _ ha _ ho := h.held hd ha ho
  unlost _ _ hx _ ho := h.unlost hd hx ho
  refused _ ho hno := h.refused hd ho hno

theorem reconcile_empty (enabled : Bool) (objects : List IngressObject) :
    let applied := (Gateway.empty enabled).apply ((inOrder objects).map .upsert)
    ((Gateway.empty enabled).reconcile objects).answer = applied.answer ∧
      ((Gateway.empty enabled).reconcile objects).state = applied.state :=
  (registered_empty enabled).reconcile_eq_apply fun _ hs => by cases hs

end FirstServed

end Gateway

open Gateway

/-- **First come, first served.** Compiling a snapshot of objects of different keys
accepts what is accepted on its own, unless an older object that is accepted asks for one
of its hosts and paths with the same annotations. What accepted objects claim is held by
the first of them, and what was refused owns nothing. -/
theorem Settings.compileOnce_firstServed (s : Settings) {objects : List IngressObject}
    (h : (objects.map IngressObject.key).Nodup) :
    FirstServed s.modules.redirectEnabled objects (s.compileOnce objects).answer
      (s.compileOnce objects).state := by
  obtain ⟨accepted, hrun⟩ := (taken_empty s.modules.redirectEnabled).run (inLine_inOrder h)
  obtain ⟨hanswer, hstate⟩ := reconcile_empty s.modules.redirectEnabled objects
  rw [compileOnce, hanswer, hstate]
  exact hrun.firstServed h (source_apply _ _)

/-- Two objects of one age, of which the first by key holds the place, and one that is
younger and refused. -/
theorem Settings.compileOnce_firstServed_tie :
    let objects := [plainObject "c" 5, plainObject "b" 1, plainObject "a" 1]
    let run := Settings.compileOnce {} objects
    run.answer = [⟨"ns/a", .ok ()⟩, ⟨"ns/b", .ok ()⟩,
        ⟨"ns/c", .error (.conflict ⟨"ns/c", "ns/a", "example.com", "/foo"⟩)⟩] ∧
      (objects.map IngressObject.key).Nodup ∧ FirstServed true objects run.answer run.state := by
  have hline : inOrder [plainObject "c" 5, plainObject "b" 1, plainObject "a" 1] =
      [plainObject "a" 1, plainObject "b" 1, plainObject "c" 5] :=
    inOrder_eq (by decide +kernel) (by decide +kernel) (by decide +kernel)
  have hanswer : (Settings.compileOnce {} [plainObject "c" 5, plainObject "b" 1, plainObject "a" 1]).answer =
      [⟨"ns/a", .ok ()⟩, ⟨"ns/b", .ok ()⟩,
        ⟨"ns/c", .error (.conflict ⟨"ns/c", "ns/a", "example.com", "/foo"⟩)⟩] := by
    rw [Settings.compileOnce, reconcile, reconciliation, ← inOrder, hline]
    decide +kernel
  exact ⟨hanswer, by decide, Settings.compileOnce_firstServed {} (by decide)⟩

end IngressRouting
