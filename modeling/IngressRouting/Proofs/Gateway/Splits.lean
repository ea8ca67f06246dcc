/-
How the traffic of clusters is split. An object's splits are by service, and each counts
for the clusters that the object's rules send that service's traffic to
(`IngressObject.Splits`). In the route table a cluster has the split of the greatest source
that splits it, and of the greatest service among those of that source
(`Ran.balance_merged`).

Both mergers are folds in the order of keys, so both follow from what the last part says
(`Dict.get?_foldl_merge`).
-/
import IngressRouting.Proofs.Gateway.History
import IngressRouting.Proofs.Merging
import Mathlib.Algebra.GroupWithZero.Nat

namespace IngressRouting

/-! ## Totals -/

/-- The sum of the weights, without bound. -/
def Split.sum (s : Split) : Nat := (s.values.map UInt32.toNat).sum

namespace Split

variable {s : Split}

theorem toNat_foldl_add (ws : List UInt32) (n : UInt64) :
    ((ws.map UInt32.toUInt64).foldl (· + ·) n).toNat = (n.toNat + (ws.map UInt32.toNat).sum) % 2 ^ 64 := by
  induction ws generalizing n with
  | nil => simp [Nat.mod_eq_of_lt n.toNat_lt]
  | cons w ws ih =>
    rw [List.map_cons, List.foldl_cons, ih, UInt64.toNat_add, UInt32.toNat_toUInt64, List.map_cons,
      List.sum_cons, Nat.mod_add_mod, Nat.add_assoc]

theorem toNat_total (s : Split) : s.total.toNat = s.sum % 2 ^ 64 := by
  rw [total, toNat_foldl_add]
  simp [sum]

theorem sum_le (ws : List UInt32) : (ws.map UInt32.toNat).sum ≤ ws.length * (2 ^ 32 - 1) := by
  induction ws with
  | nil => simp
  | cons w ws ih =>
    have hw := w.toNat_lt
    rw [List.map_cons, List.sum_cons, List.length_cons, Nat.succ_mul]
    omega

/-- **The total is exact** for fewer than `2 ^ 32` weights. -/
theorem total_exact (h : s.size < 2 ^ 32) : s.total.toNat = s.sum := by
  rw [toNat_total]
  refine Nat.mod_eq_of_lt ?_
  have hsum := sum_le s.values
  have hsize : s.values.length < 2 ^ 32 := by simpa [Dict.values, Dict.size] using h
  have hbound : s.values.length * (2 ^ 32 - 1) ≤ 2 ^ 32 * (2 ^ 32 - 1) :=
    Nat.mul_le_mul_right _ (Nat.le_of_lt hsize)
  rw [sum]
  omega

/-- Where nothing is wrong with a split, it has weights and not all of them are zero. -/
theorem objection?_eq_none {service : String} (h : objection? service s = none) :
    s.isEmpty = false ∧ 0 < s.sum := by
  rw [objection?] at h
  split at h
  · cases h
  · next hempty =>
    split at h
    · cases h
    · next htotal =>
      refine ⟨Bool.eq_false_iff.2 hempty, Nat.pos_of_ne_zero fun hsum => htotal ?_⟩
      rw [← UInt64.toNat_inj, toNat_total, hsum]
      rfl

end Split

theorem Annotations.objection?_of_weights {a : Annotations} {splits : Dict Split} {service : String}
    {split : Split} (h : a.weights = .ok (some splits)) (hs : splits.get? service = some split) :
    Split.objection? service split = none := by
  rw [weights] at h
  split at h
  · cases h
  · split at h
    · cases h
    · split at h
      · cases h
      · next hnone =>
        cases h
        exact List.findSome?_eq_none_iff.1 hnone (service, split) (Dict.get?_eq_some_iff.1 hs)

/-! ## The splits of an object -/

/-- The object splits a service whose traffic its rules send to the cluster. -/
def IngressObject.Splits (o : IngressObject) (service cluster : String) (split : Split) : Prop :=
  (∃ splits, o.rules.weights = .ok (some splits) ∧ splits.get? service = some split) ∧
    ∃ rs, o.pathRules = .ok rs ∧ ∃ r ∈ rs, r.service = service ∧ r.target = cluster

variable {o : IngressObject} {rs : List PathRule} {service cluster : String} {split : Split}

theorem IngressObject.Splits.usable (h : o.Splits service cluster split) :
    split.isEmpty = false ∧ 0 < split.sum := by
  obtain ⟨⟨splits, hweights, hsplit⟩, _⟩ := h
  exact Split.objection?_eq_none (Annotations.objection?_of_weights hweights hsplit)

/-- The clusters that rules send the traffic of a service to. -/
def targetsOf (rules : List PathRule) (service : String) : List String :=
  (rules.filter (·.service = service)).map (·.target)

theorem mem_targetsOf : cluster ∈ targetsOf rs service ↔ ∃ r ∈ rs, r.service = service ∧ r.target = cluster := by
  simp [targetsOf, and_assoc]

/-- What is given to clusters is given in the order of the services. -/
theorem clusterSplits_eq_ok {splits : Dict Split} {d : ClusterSplits} (h : clusterSplits rs splits = .ok d) :
    d = splits.entries.foldl
      (fun d e => (targetsOf rs e.1).foldl (fun (d : ClusterSplits) t => d.insert t e.2) d) ∅ := by
  rw [clusterSplits] at h
  generalize (∅ : ClusterSplits) = start at h ⊢
  generalize splits.entries = es at h ⊢
  induction es generalizing start with
  | nil =>
    cases h
    rfl
  | cons e es ih =>
    rw [List.foldlM_cons] at h
    obtain ⟨next, hstep, hrest⟩ := bind_eq_ok.1 h
    rw [List.foldl_cons, ih _ hrest]
    congr 1
    dsimp only at hstep
    split at hstep
    · cases hstep
    · cases hstep
      rfl

section clusterSplits

variable {splits : Dict Split} {d : ClusterSplits}

theorem get?_clusterSplits (h : clusterSplits rs splits = .ok d) (cluster : String) :
    d.get? cluster = splits.entries.reverse.findSome? fun e =>
      if cluster ∈ targetsOf rs e.1 then some e.2 else none := by
  have hstep : ∀ (d : ClusterSplits) (e : String × Split),
      ((targetsOf rs e.1).foldl (fun (d : ClusterSplits) t => d.insert t e.2) d).get? cluster =
        (if cluster ∈ targetsOf rs e.1 then some e.2 else none).or (d.get? cluster) := fun d e => by
    rw [Dict.get?_foldl_insert_same]
    split <;> rfl
  rw [clusterSplits_eq_ok h, Dict.get?_foldl_merge hstep, Dict.get?_emptyCollection, Option.or_none]

/-- **Of the services that a cluster has its traffic from, the greatest counts.** -/
theorem get?_clusterSplits_eq_some (h : clusterSplits rs splits = .ok d) :
    d.get? cluster = some split ↔ ∃ service, splits.get? service = some split ∧ cluster ∈ targetsOf rs service ∧
      ∀ service' split', service < service' → splits.get? service' = some split' →
        cluster ∉ targetsOf rs service' := by
  rw [get?_clusterSplits h, Entries.findSome?_reverse_eq_some_iff splits.ascending]
  simp only [Dict.get?_eq_some_iff]
  constructor
  · rintro ⟨⟨service, split'⟩, he, hx, hlast⟩
    obtain ⟨htarget, rfl⟩ : cluster ∈ targetsOf rs service ∧ split' = split := by simpa using hx
    refine ⟨service, he, htarget, fun service' split' hlt he' => ?_⟩
    simpa using hlast (service', split') he' hlt
  · rintro ⟨service, he, htarget, hlast⟩
    refine ⟨(service, split), he, by simp [htarget], fun e he' hlt => if_neg ?_⟩
    exact hlast e.1 e.2 hlt he'

theorem get?_clusterSplits_eq_none (h : clusterSplits rs splits = .ok d) :
    d.get? cluster = none ↔ ∀ service split, splits.get? service = some split →
      cluster ∉ targetsOf rs service := by
  rw [get?_clusterSplits h, List.findSome?_eq_none_iff]
  simp [Dict.get?_eq_some_iff]

end clusterSplits

namespace Gateway

variable {enabled : Bool} {g : Gateway} {history : List LoggedEvent}

theorem splits_iff {p : Plan} (hp : plan enabled o = .ok p) : o.Splits service cluster split ↔
    (∃ splits, o.rules.weights = .ok (some splits) ∧ splits.get? service = some split) ∧
      cluster ∈ targetsOf p.rules service := by
  rw [IngressObject.Splits, (planned hp).rules, mem_targetsOf]
  simp

/-- **What an object says of a cluster** is what it says of the greatest service there. -/
theorem Valid.get?_splitsOf (h : Valid enabled o) :
    (splitsOf enabled o).bind (·.get? cluster) = some split ↔ ∃ service, o.Splits service cluster split ∧
      ∀ service' split', service < service' → ¬ o.Splits service' cluster split' := by
  obtain ⟨p, hp, _⟩ := h
  obtain ⟨asked, hweights, hgiven⟩ := (planned hp).splits
  simp only [splitsOf, hp, splits_iff hp, hweights]
  generalize p.splits = given at hgiven
  cases hgiven with
  | none => simp
  | some hd =>
    simp only [Option.bind_some, get?_clusterSplits_eq_some hd]
    simp [and_assoc]

theorem Valid.get?_splitsOf_eq_none (h : Valid enabled o) :
    (splitsOf enabled o).bind (·.get? cluster) = none ↔ ∀ service split, ¬ o.Splits service cluster split := by
  obtain ⟨p, hp, _⟩ := h
  obtain ⟨asked, hweights, hgiven⟩ := (planned hp).splits
  simp only [splitsOf, hp, splits_iff hp, hweights]
  generalize p.splits = given at hgiven
  cases hgiven with
  | none => simp
  | some hd =>
    simp only [Option.bind_some, get?_clusterSplits_eq_none hd]
    simp

/-! ## The splits of all sources -/

theorem get?_balance (splits : Dict ClusterSplits) (cluster : String) :
    (balance splits).get? cluster = splits.entries.reverse.findSome? fun e => e.2.get? cluster := by
  rw [balance, Dict.get?_foldl_merge fun d e => Dict.get?_override d e cluster, Dict.get?_emptyCollection,
    Option.or_none, Dict.values, ← List.map_reverse, List.findSome?_map]
  rfl

/-- **Of the sources that split a cluster, the greatest counts.** -/
theorem get?_balance_eq_some {splits : Dict ClusterSplits} :
    (balance splits).get? cluster = some split ↔ ∃ s, (splits.get? s).bind (·.get? cluster) = some split ∧
      ∀ s', s < s' → (splits.get? s').bind (·.get? cluster) = none := by
  rw [get?_balance, Entries.findSome?_reverse_eq_some_iff splits.ascending]
  simp only [Option.bind_eq_some_iff, Option.bind_eq_none_iff, Dict.get?_eq_some_iff]
  constructor
  · rintro ⟨⟨s, d⟩, he, hx, hlast⟩
    exact ⟨s, ⟨d, he, hx⟩, fun s' hlt d' he' => hlast (s', d') he' hlt⟩
  · rintro ⟨s, ⟨d, he, hx⟩, hlast⟩
    exact ⟨(s, d), he, hx, fun e he' hlt => hlast e.1 hlt e.2 he'⟩

theorem contains_balance {splits : Dict ClusterSplits} :
    (balance splits).contains cluster = true ↔ ∃ s split, (splits.get? s).bind (·.get? cluster) = some split := by
  rw [Dict.contains, get?_balance, List.findSome?_isSome_iff]
  simp only [List.mem_reverse, Prod.exists, ← Dict.get?_eq_some_iff, Option.isSome_iff_exists,
    Option.bind_eq_some_iff]
  constructor
  · rintro ⟨s, d, hd, split, hx⟩
    exact ⟨s, split, d, hd, hx⟩
  · rintro ⟨s, split, d, hd, hx⟩
    exact ⟨s, d, hd, split, hx⟩

section Remembers

variable {L : Standing} {s : String} (hr : Remembers enabled history g L)

include hr

theorem Remembers.contains_backends : g.backends.contains s = true ↔ ∃ o, lastObject history s = some o := by
  rw [Dict.contains, hr.backends, Option.isSome_map, Option.isSome_iff_exists]

theorem Remembers.given_eq (s cluster : String) : (g.splits.get? s).bind (·.get? cluster) =
    (lastObject history s).bind fun o => (splitsOf enabled o).bind (·.get? cluster) := by
  rw [hr.splits, Option.bind_assoc]

/-- What a source says of a cluster is what its last object says. -/
theorem Remembers.given_eq_some : (g.splits.get? s).bind (·.get? cluster) = some split ↔
    ∃ o service, lastObject history s = some o ∧ o.Splits service cluster split ∧
      ∀ service' split', service < service' → ¬ o.Splits service' cluster split' := by
  rw [hr.given_eq, Option.bind_eq_some_iff]
  refine exists_congr fun o => ?_
  rw [exists_and_left]
  exact and_congr_right fun ho => (hr.valid s o ho).get?_splitsOf

theorem Remembers.given_eq_none : (g.splits.get? s).bind (·.get? cluster) = none ↔
    ∀ o, lastObject history s = some o → ∀ service split, ¬ o.Splits service cluster split := by
  rw [hr.given_eq, Option.bind_eq_none_iff]
  exact forall₂_congr fun o ho => (hr.valid s o ho).get?_splitsOf_eq_none

theorem Remembers.balance_contains : (balance g.splits).contains cluster = true ↔
    ∃ s o service split, g.backends.contains s = true ∧ lastObject history s = some o ∧
      o.Splits service cluster split := by
  rw [contains_balance]
  constructor
  · rintro ⟨s, split, hx⟩
    obtain ⟨o, service, ho, hsplits, _⟩ := hr.given_eq_some.1 hx
    exact ⟨s, o, service, split, hr.contains_backends.2 ⟨o, ho⟩, ho, hsplits⟩
  · rintro ⟨s, o, service, split, _, ho, hsplits⟩
    refine ⟨s, Option.ne_none_iff_exists'.1 fun hnone => ?_⟩
    exact hr.given_eq_none.1 hnone o ho service split hsplits

theorem Remembers.balance_get? : (balance g.splits).get? cluster = some split ↔
    ∃ s o service, g.backends.contains s = true ∧ lastObject history s = some o ∧
      o.Splits service cluster split ∧
      (∀ service' split', service < service' → ¬ o.Splits service' cluster split') ∧
      ∀ s' o' service' split', s < s' → lastObject history s' = some o' →
        ¬ o'.Splits service' cluster split' := by
  rw [get?_balance_eq_some]
  simp only [hr.given_eq_some, hr.given_eq_none]
  constructor
  · rintro ⟨s, ⟨o, service, ho, hsplits, hservice⟩, hsource⟩
    refine ⟨s, o, service, hr.contains_backends.2 ⟨o, ho⟩, ho, hsplits, hservice, ?_⟩
    exact fun s' o' service' split' hlt ho' => hsource s' hlt o' ho' service' split'
  · rintro ⟨s, o, service, _, ho, hsplits, hservice, hsource⟩
    refine ⟨s, ⟨o, service, ho, hsplits, hservice⟩, ?_⟩
    exact fun s' hlt o' ho' service' split' => hsource s' o' service' split' hlt ho'

end Remembers

/-- How the traffic of clusters is split, after a history. -/
structure Merged (history : List LoggedEvent) (g : Gateway) : Prop where
  /-- A cluster is split where a source's last object splits a service that it sends there. -/
  contains : ∀ cluster, g.routeEdition.table.balance.contains cluster = true ↔
    ∃ s o service split, g.backends.contains s = true ∧ lastObject history s = some o ∧
      o.Splits service cluster split
  /-- The split is that of the greatest source, and of its greatest service. -/
  get? : ∀ cluster split, g.routeEdition.table.balance.get? cluster = some split ↔
    ∃ s o service, g.backends.contains s = true ∧ lastObject history s = some o ∧
      o.Splits service cluster split ∧
      (∀ service' split', service < service' → ¬ o.Splits service' cluster split') ∧
      ∀ s' o' service' split', s < s' → lastObject history s' = some o' →
        ¬ o'.Splits service' cluster split'
  /-- It has weights, not all of them zero, and their checked total is exact. -/
  usable : ∀ cluster split, g.routeEdition.table.balance.get? cluster = some split →
    split.isEmpty = false ∧ 0 < split.sum ∧ (split.size < 2 ^ 32 → split.total.toNat = split.sum)
  /-- A refused object leaves the splits of its source. -/
  refused : ∀ o e, (g.upsert o).answer = .error e → (g.upsert o).state.splits = g.splits ∧
    (g.upsert o).state.routeEdition.table.balance = g.routeEdition.table.balance
  /-- An accepted one without splits removes them. -/
  cleared : ∀ o, (g.upsert o).answer = .ok () → o.rules.get? Annotations.weightKey = none →
    (g.upsert o).state.splits = g.splits.erase o.key ∧
      (g.upsert o).state.routeEdition.table.balance = balance (g.splits.erase o.key)

theorem Reachable.balance_eq (h : Reachable enabled g) :
    g.routeEdition.table.balance = balance g.splits := by
  obtain ⟨rules, _, htable⟩ := h.settled_inStep.2.route
  rw [htable]
  rfl

theorem upsert_unsplit (h : Reachable enabled g) (hok : (g.upsert o).answer = .ok ())
    (hnone : o.rules.get? Annotations.weightKey = none) :
    (g.upsert o).state.splits = g.splits.erase o.key := by
  obtain ⟨haccepted, hrenewed⟩ := upsert_isOk h.registered.lists o
  have hisOk : (g.upsert o).answer.isOk = true := by simp [hok, Except.isOk, Except.toBool]
  obtain ⟨⟨p, hp, _⟩, _⟩ := haccepted.1 hisOk
  obtain ⟨asked, hweights, hgiven⟩ := (planned hp).splits
  have hunasked : o.rules.weights = .ok none := by rw [Annotations.weights, hnone]
  obtain rfl : none = asked := Except.ok.inj (hunasked.symm.trans hweights)
  have hsplits : splitsOf g.redirectEnabled o = p.splits := by rw [splitsOf, hp]
  rw [(hrenewed hisOk).splits, hsplits]
  generalize p.splits = given at hgiven
  cases hgiven
  rfl

/-- **How the traffic of clusters is split.** After any run, a cluster has a split in the
published route table exactly where the last object of a registered source splits a service
whose traffic its rules send there. The split is that of the greatest such source, and of its
greatest such service, and it has weights that are not all zero. A refused object leaves what
its source had said before, and an accepted one without splits removes it. -/
theorem Ran.balance_merged (h : Ran enabled history g) : Merged history g := by
  have hr := h.remembers
  have hbalance := h.reachable.balance_eq
  refine ⟨fun cluster => ?_, fun cluster split => ?_, fun cluster split hx => ?_, fun o e he => ?_,
    fun o hok hnone => ?_⟩
  · rw [hbalance]
    exact hr.balance_contains
  · rw [hbalance]
    exact hr.balance_get?
  · rw [hbalance] at hx
    obtain ⟨_, _, _, _, _, hsplits, _⟩ := hr.balance_get?.1 hx
    obtain ⟨hempty, hsum⟩ := hsplits.usable
    exact ⟨hempty, hsum, Split.total_exact⟩
  · rw [h.reachable.settled.upsert_refused he]
    exact ⟨rfl, rfl⟩
  · have hsplits := upsert_unsplit h.reachable hok hnone
    exact ⟨hsplits, by rw [(h.reachable.upsert o).balance_eq, hsplits]⟩

/-- An object that asks for a path of `example.com` and sends the traffic to one sub-service. -/
def splitObject (namespaceName name path sub : String) (created : UInt64) : IngressObject :=
  ⟨namespaceName, name,
    Dict.ofList [(Annotations.weightKey, "\x7b\"svc\":\x7b\"" ++ sub ++ "\":1\x7d\x7d")], created,
    [⟨"example.com", [⟨path, some .exact, ⟨"svc", none⟩⟩]⟩]⟩

/-- Two sources that split one cluster. -/
def splitPair : Gateway :=
  (((Gateway.empty false).upsert (splitObject "ns" "a" "/a" "v1" 1)).state.upsert
    (splitObject "ns" "b" "/b" "v2" 2)).state

theorem balance_merged_pair :
    let history : List LoggedEvent := [⟨.upsert (splitObject "ns" "a" "/a" "v1" 1), .ok ()⟩,
      ⟨.upsert (splitObject "ns" "b" "/b" "v2" 2), .ok ()⟩]
    Ran false history splitPair ∧ Merged history splitPair ∧
      splitPair.routeEdition.table.balance.entries.map (fun e => (e.1, e.2.entries)) =
        [("ns_svc", [("v2", 1)])] := by
  intro history
  have hran : Ran false history splitPair := by
    have hfirst := Ran.accepted (@Ran.empty false) (splitObject "ns" "a" "/a" "v1" 1) (by decide +kernel)
    exact hfirst.accepted (splitObject "ns" "b" "/b" "v2" 2) (by decide +kernel)
  have hentries : splitPair.routeEdition.table.balance.entries.map (fun e => (e.1, e.2.entries)) =
      [("ns_svc", [("v2", 1)])] := by
    decide +kernel
  exact ⟨hran, Ran.balance_merged hran, hentries⟩

end Gateway

end IngressRouting
