/-
Which rule of an object counts at a host and path. The rules of an object are of one age
and have the same annotations, so of several for one place the first comes into force or
none does (`Valid.mem_settled_iff`). What is in force in the route rulebook is what the last
object of its source claims by such a rule (`Remembers.mem_inForce`).
-/
import IngressRouting.Proofs.Gateway.History

namespace IngressRouting

variable {o : IngressObject} {r : PathRule} {host path : String}

/-- The first rule of the object for the host and path. -/
def IngressObject.ruleAt? (o : IngressObject) (host path : String) : Option PathRule :=
  match o.pathRules with
  | .ok rs => rs.find? fun r => r.host = host ∧ r.path = path
  | .error _ => none

theorem IngressObject.ruleAt?_eq {rs : List PathRule} (h : o.pathRules = .ok rs) (host path : String) :
    o.ruleAt? host path = rs.find? fun r => r.host = host ∧ r.path = path := by
  rw [ruleAt?, h]

theorem IngressObject.asksFor_of_ruleAt? (h : o.ruleAt? host path = some r) :
    o.AsksFor host path ∧ r.host = host ∧ r.path = path := by
  rw [ruleAt?] at h
  split at h
  · next rs hrs =>
    obtain ⟨hhost, hpath⟩ : r.host = host ∧ r.path = path := by simpa using List.find?_some h
    exact ⟨⟨rs, hrs, r, List.mem_of_find?_eq_some h, hhost, hpath⟩, hhost, hpath⟩
  · cases h

namespace Gateway

variable {enabled : Bool} {g : Gateway} {history : List LoggedEvent} {L : Standing} {b : Binding}

theorem Valid.claims_eq (h : Valid enabled o) :
    ∃ rs, o.pathRules = .ok rs ∧ (turn enabled o .route).claims = rs.map o.claim := by
  obtain ⟨p, hp, hvalid⟩ := h
  have hplanned := planned hp
  have hclaims : (turn enabled o .route).claims = p.claims p.rules .route := by rw [turn, hp]
  refine ⟨p.rules, hplanned.rules, ?_⟩
  rw [hclaims, Plan.claims, if_pos (show p.asks .route = true from rfl), ← List.filterMap_eq_map]
  refine List.filterMap_congr fun r hr => ?_
  obtain ⟨c, hc⟩ := hvalid .route rfl r hr
  rw [hc, hplanned.binding_route hr hc]
  rfl

/-- **At each place the first rule of an object settles.** -/
theorem Valid.mem_settled_iff (h : Valid enabled o) : b ∈ settleAll (turn enabled o .route).claims [] ↔
    ∃ r, o.ruleAt? r.host r.path = some r ∧ b = o.claim r := by
  obtain ⟨rs, hrs, hclaims⟩ := h.claims_eq
  have hrivals : ∀ r, rs.find? (fun r' => (o.claim r').Rivals (o.claim r)) = o.ruleAt? r.host r.path := by
    intro r
    rw [IngressObject.ruleAt?_eq hrs]
    simp only [Binding.Rivals, IngressObject.claim, and_true]
  rw [mem_settleAll_iff_find? turn_even, hclaims, List.find?_map, Option.map_eq_some_iff]
  constructor
  · rintro ⟨r, hr, rfl⟩
    exact ⟨r, (hrivals r).symm.trans hr, rfl⟩
  · rintro ⟨r, hr, rfl⟩
    exact ⟨r, (hrivals r).trans hr, rfl⟩

/-- **What is in force** is what the last object of its source claims by the first rule there. -/
theorem Remembers.mem_inForce (hr : Remembers enabled history g L) (hb : b ∈ L .route) :
    ∃ o r, lastObject history b.source = some o ∧ o.ruleAt? r.host r.path = some r ∧ b = o.claim r := by
  obtain ⟨o, ho, hsettled⟩ := hr.standing .route b hb
  obtain ⟨r, hrule, rfl⟩ := (hr.valid _ o ho).mem_settled_iff.1 hsettled
  exact ⟨o, r, ho, hrule, rfl⟩

end Gateway

end IngressRouting
