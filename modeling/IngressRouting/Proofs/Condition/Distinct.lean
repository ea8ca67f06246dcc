/-
Conditions that test different things have different texts (`build_eq_iff`), whether or not
they are read back as they are meant.

The suffix of a wildcard host can have quotes in it that nothing escapes, so a text cannot
be taken apart from its start. From its end it can: in a quoted text every quote has a
backslash before it, so the last quote without one is where the last literal begins
(`Quoted.cancel`). That gives the last call, and so every call but the one of the host
(`writeCalls_cancel`).
-/
import IngressRouting.Proofs.Condition.Rendering
import IngressRouting.Proofs.Patterns
import IngressRouting.Proofs.Traits
import Mathlib.Data.List.Induction

namespace IngressRouting

/-! ## Quoted texts -/

namespace Quoted

variable {s t x y : List Char}

theorem encode_injective (h : encode s = encode t) : s = t := by
  have hread := read_encode s []
  rw [h, read_encode t []] at hread
  simpa using hread.symm

/-- Every quote in a quoted text has a backslash before it. -/
theorem getLast?_of_encode {z r : List Char} (h : encode s = z ++ '"' :: r) :
    z.getLast? = some '\\' := by
  induction s generalizing z with
  | nil => simp [encode] at h
  | cons c s ih =>
    rw [encode] at h
    split at h
    · cases z with
      | nil => exact absurd (List.cons.inj h).1 (by decide)
      | cons a z =>
        obtain ⟨rfl, h⟩ := List.cons.inj h
        cases z with
        | nil => rfl
        | cons b z =>
          rw [List.getLast?_cons, List.getLast?_cons, ih (List.cons.inj (List.cons.inj h).2).2]
          rfl
    · next hc =>
      cases z with
      | nil => exact absurd (.inl (List.cons.inj h).1) hc
      | cons a z =>
        rw [List.getLast?_cons, ih (List.cons.inj h).2]
        rfl

/-- **The last quote without a backslash before it opens the last quoted text.** -/
theorem cancel (hx : x.getLast? ≠ some '\\') (hy : y.getLast? ≠ some '\\')
    (h : x ++ '"' :: encode s = y ++ '"' :: encode t) : x = y ∧ s = t := by
  have hlonger : ∀ {x y s t : List Char} (z : List Char), y.getLast? ≠ some '\\' → y = x ++ z →
      '"' :: encode s = z ++ '"' :: encode t → x = y ∧ s = t := by
    intro x y s t z hy hz hs
    cases z with
    | nil => exact ⟨by rw [hz, List.append_nil], encode_injective (List.cons.inj hs).2⟩
    | cons c z =>
      have hlast := getLast?_of_encode (List.cons.inj hs).2
      have hy' : y.getLast? = some '\\' := by
        rw [hz, List.getLast?_append, List.getLast?_cons, hlast]
        rfl
      exact absurd hy' hy
  rcases List.append_eq_append_iff.1 h with ⟨z, hz, hs⟩ | ⟨z, hz, ht⟩
  · exact hlonger z hy hz hs
  · obtain ⟨hxy, hst⟩ := hlonger z hx hz ht
    exact ⟨hxy.symm, hst.symm⟩

end Quoted

/-! ## Escaped dots -/

namespace HostPattern

theorem head?_escapeDots (cs : List Char) : (escapeDots cs).head? ≠ some '.' := by
  cases cs with
  | nil => exact nofun
  | cons c cs =>
    rw [escapeDots]
    split
    · rw [List.head?_cons]
      decide
    · next hc => rwa [List.head?_cons, Ne, Option.some.injEq]

theorem escapeDots_injective {cs ds : List Char} (h : escapeDots cs = escapeDots ds) : cs = ds := by
  induction cs generalizing ds with
  | nil =>
    cases ds with
    | nil => rfl
    | cons d ds =>
      rw [escapeDots, escapeDots] at h
      split at h <;> cases h
  | cons c cs ih =>
    cases ds with
    | nil =>
      rw [escapeDots, escapeDots] at h
      split at h <;> cases h
    | cons d ds =>
      rw [escapeDots, escapeDots] at h
      split at h <;> split at h
      · next hc hd => rw [hc, hd, ih (List.cons.inj (List.cons.inj h).2).2]
      · exact absurd (congrArg List.head? (List.cons.inj h).2.symm) (head?_escapeDots ds)
      · exact absurd (congrArg List.head? (List.cons.inj h).2) (head?_escapeDots cs)
      · rw [(List.cons.inj h).1, ih (List.cons.inj h).2]

end HostPattern

namespace Condition

/-! ## Calls of quoted texts -/

/-- A test of a path, a cookie or a header: texts to be quoted, and that the case counts. -/
structure QuotedCall where
  function : String
  texts : List String

namespace QuotedCall

/-- The call with its texts between quotes. -/
def call (c : QuotedCall) : Call := ⟨c.function, c.texts.map .quoted ++ [.word "false"]⟩

/-- Quoted texts, each with what separates it from the next argument. -/
def quotations (ss : List String) : List Char :=
  ss.flatMap fun s => '"' :: (Quoted.encode s.toList ++ "\", ".toList)

theorem quotations_cons (s : String) (ss : List String) :
    quotations (s :: ss) = '"' :: (Quoted.encode s.toList ++ "\", ".toList) ++ quotations ss := by
  rw [quotations, List.flatMap_cons, quotations]

theorem quotations_concat (ss : List String) (s : String) :
    quotations (ss ++ [s]) = quotations ss ++ '"' :: (Quoted.encode s.toList ++ "\", ".toList) := by
  rw [quotations, List.flatMap_append, List.flatMap_singleton, quotations]

/-- A text, an opening bracket and quoted texts. -/
def opened (x : List Char) (ss : List String) : List Char := x ++ '(' :: quotations ss

theorem opened_concat (x : List Char) (ss : List String) (s : String) :
    opened x (ss ++ [s]) = opened x ss ++ '"' :: Quoted.encode s.toList ++ "\", ".toList := by
  simp only [opened, quotations_concat, List.append_assoc, List.cons_append]

theorem getLast?_opened_nil (x : List Char) : (opened x []).getLast? = some '(' := by
  simp [opened, quotations]

theorem getLast?_opened_concat (x : List Char) (ss : List String) (s : String) :
    (opened x (ss ++ [s])).getLast? = some ' ' := by
  rw [opened_concat, List.getLast?_append]
  rfl

theorem opened_cancel {x y : List Char} {ss ts : List String} (h : opened x ss = opened y ts) :
    x = y ∧ ss = ts := by
  have hlast : ∀ x ss, (opened x ss).getLast? ≠ some '\\' := by
    intro x ss
    rcases List.eq_nil_or_concat' ss with rfl | ⟨ss, s, rfl⟩
    · rw [getLast?_opened_nil]
      decide
    · rw [getLast?_opened_concat]
      decide
  have hends := congrArg List.getLast? h
  induction ss using List.reverseRecOn generalizing ts with
  | nil =>
    rcases List.eq_nil_or_concat' ts with rfl | ⟨ts, t, rfl⟩
    · exact ⟨List.append_cancel_right h, rfl⟩
    · rw [getLast?_opened_nil, getLast?_opened_concat] at hends
      exact absurd hends (by decide)
  | append_singleton ss s ih =>
    rcases List.eq_nil_or_concat' ts with rfl | ⟨ts, t, rfl⟩
    · rw [getLast?_opened_nil, getLast?_opened_concat] at hends
      exact absurd hends (by decide)
    · rw [opened_concat, opened_concat] at h
      obtain ⟨hopened, hs⟩ := Quoted.cancel (hlast x ss) (hlast y ts) (List.append_cancel_right h)
      obtain ⟨rfl, rfl⟩ := ih hopened (congrArg List.getLast? hopened)
      exact ⟨rfl, by rw [String.toList_inj.1 hs]⟩

theorem writeArguments_quoted (ss : List String) :
    writeArguments (ss.map .quoted ++ [.word "false"]) = quotations ss ++ "false".toList := by
  induction ss with
  | nil => rfl
  | cons s ss ih =>
    obtain ⟨b, bs, hcons⟩ := List.exists_cons_of_ne_nil
      (l := ss.map Argument.quoted ++ [.word "false"]) (by simp)
    rw [hcons, writeArguments, List.map_cons] at ih
    rw [List.map_cons, List.cons_append, hcons, writeArguments, List.map_cons, List.map_cons,
      List.intercalate_cons_cons, ih, quotations_cons, Argument.write_quoted, Quoted.literal,
      String.toList_ofList]
    simp

theorem append_write (x : List Char) (c : QuotedCall) :
    x ++ c.call.write = opened (x ++ c.function.toList) c.texts ++ "false)".toList := by
  rw [call, Call.write, writeArguments_quoted, opened]
  simp

end QuotedCall

/-- What tests a path, a cookie or a header. -/
def testFunctions : List String :=
  ["req_path_in", "req_path_element_prefix_in", "req_cookie_value_in", "req_header_value_in"]

/-- None of the functions' names ends with another. -/
theorem testFunctions_cancel {x y : List Char} {f g : String} (hf : f ∈ testFunctions)
    (hg : g ∈ testFunctions) (h : x ++ f.toList = y ++ g.toList) : x = y ∧ f = g := by
  have hnone : ∀ f ∈ testFunctions, ∀ g ∈ testFunctions, f.toList <:+ g.toList → f = g := by decide
  have hfg : f = g := by
    have hsuffix : g.toList <:+ x ++ f.toList := h ▸ List.suffix_append y g.toList
    rcases List.suffix_or_suffix_of_suffix (List.suffix_append x f.toList) hsuffix with hend | hend
    · exact hnone f hf g hg hend
    · exact (hnone g hg f hf hend).symm
  subst hfg
  exact ⟨List.append_cancel_right h, rfl⟩

/-! ## Calls one after the other -/

/-- The text of calls, and the connective behind it where there are any. -/
def lead (cs : List Call) : List Char := if cs = [] then [] else writeCalls cs ++ connective.toList

theorem writeCalls_cons_of_ne_nil {b : Call} {bs : List Call} (h : bs ≠ []) :
    writeCalls (b :: bs) = b.write ++ (connective.toList ++ writeCalls bs) := by
  obtain ⟨c, cs, rfl⟩ := List.exists_cons_of_ne_nil h
  rw [writeCalls, List.map_cons, List.map_cons, List.intercalate_cons_cons, List.append_assoc]
  rfl

theorem writeCalls_concat (cs : List Call) (c : Call) : writeCalls (cs ++ [c]) = lead cs ++ c.write := by
  induction cs with
  | nil => rw [lead, if_pos rfl, List.nil_append, List.nil_append, writeCalls, List.map_singleton,
      List.intercalate_singleton]
  | cons b bs ih =>
    have hne : bs ++ [c] ≠ [] := List.concat_ne_nil c bs
    rw [List.cons_append, writeCalls_cons_of_ne_nil hne, ih, lead, lead, if_neg (List.cons_ne_nil b bs)]
    split
    · next hnil =>
      subst hnil
      simp [writeCalls]
    · next hbs => rw [writeCalls_cons_of_ne_nil hbs]; simp

theorem lead_cancel {bs cs : List Call} (h : lead bs = lead cs) : writeCalls bs = writeCalls cs := by
  rw [lead, lead] at h
  split at h
  · next hbs =>
    split at h
    · next hcs => rw [hbs, hcs]
    · exact absurd h.symm (List.append_ne_nil_of_right_ne_nil _ (by decide))
  · split at h
    · exact absurd h (List.append_ne_nil_of_right_ne_nil _ (by decide))
    · exact List.append_cancel_right h

theorem writeCalls_cancel {bs cs : List Call} {c d : QuotedCall} (hc : c.function ∈ testFunctions)
    (hd : d.function ∈ testFunctions) (h : writeCalls (bs ++ [c.call]) = writeCalls (cs ++ [d.call])) :
    writeCalls bs = writeCalls cs ∧ c = d := by
  rw [writeCalls_concat, writeCalls_concat, QuotedCall.append_write, QuotedCall.append_write] at h
  obtain ⟨hfront, htexts⟩ := QuotedCall.opened_cancel (List.append_cancel_right h)
  obtain ⟨hlead, hfunction⟩ := testFunctions_cancel hc hd hfront
  exact ⟨lead_cancel hlead, congrArg₂ QuotedCall.mk hfunction htexts⟩

end Condition

open Condition

/-! ## The call of a host -/

namespace HostPattern

variable {p p' : HostPattern}

/-- What the call for a wildcard host begins with. -/
def wildcardOpening : String := "req_host_regmatch(\"(?i)^[^.]+"

/-- What the call for an exact host begins with. -/
def exactOpening : String := "req_host_in(\""

/-- What both calls for a host end with. -/
def closing : String := "\")"

/-- The text that tests a host; nothing where every host passes. -/
def text : HostPattern → List Char
  | any => []
  | wildcard suffix => wildcardOpening.toList ++ (escapeDots suffix.toList ++ closing.toList)
  | exact name => exactOpening.toList ++ (Quoted.encode name.toList ++ closing.toList)

theorem writeCalls_call? (p : HostPattern) : writeCalls p.call?.toList = p.text := by
  rw [← toList_getD_textOf, ← p.render_eq_textOf]
  cases p with
  | any => rfl
  | wildcard suffix =>
    rw [render, text, Option.getD_some, String.toList_append, String.toList_append, List.append_assoc,
      String.toList_ofList (l := escapeDots suffix.toList), wildcardOpening, closing]
  | exact name =>
    have hopening : exactOpening.toList = "req_host_in(".toList ++ ['"'] := by decide
    have hclosing : closing.toList = '"' :: ")".toList := by decide
    have hliteral : (Quoted.literal name).toList = '"' :: Quoted.encode name.toList ++ ['"'] :=
      String.toList_ofList
    rw [render, text, Option.getD_some, String.toList_append, String.toList_append, hliteral, hopening,
      hclosing]
    simp only [List.append_assoc, List.cons_append, List.nil_append]

theorem wildcardOpening_append_ne (x y : List Char) :
    wildcardOpening.toList ++ x ≠ exactOpening.toList ++ y := by
  intro h
  have htake : ∀ {u : List Char} (z : List Char), 10 ≤ u.length → (u ++ z).take 10 = u.take 10 :=
    fun _ => List.take_append_of_le_length
  have hboth : wildcardOpening.toList.take 10 = exactOpening.toList.take 10 := by
    rw [← htake x (by decide), h, htake y (by decide)]
  exact absurd hboth (by decide)

theorem text_injective (h : p.text = p'.text) : p = p' := by
  have hw : wildcardOpening.toList ≠ [] := by decide
  have he : exactOpening.toList ≠ [] := by decide
  cases p with
  | any =>
    cases p' with
    | any => rfl
    | wildcard suffix => exact absurd h.symm (List.append_ne_nil_of_left_ne_nil hw _)
    | exact name => exact absurd h.symm (List.append_ne_nil_of_left_ne_nil he _)
  | wildcard suffix =>
    cases p' with
    | any => exact absurd h (List.append_ne_nil_of_left_ne_nil hw _)
    | wildcard suffix' =>
      have hsuffix := List.append_cancel_right (List.append_cancel_left h)
      rw [String.toList_inj.1 (escapeDots_injective hsuffix)]
    | exact name => exact absurd h (wildcardOpening_append_ne _ _)
  | exact name =>
    cases p' with
    | any => exact absurd h (List.append_ne_nil_of_left_ne_nil he _)
    | wildcard suffix => exact absurd h.symm (wildcardOpening_append_ne _ _)
    | exact name' =>
      have hname := List.append_cancel_right (List.append_cancel_left h)
      rw [String.toList_inj.1 (Quoted.encode_injective hname)]

/-- No test of a host ends as those of a path, a cookie or a header. -/
theorem text_ne (p : HostPattern) (x : List Char) : p.text ≠ x ++ "false)".toList := by
  intro h
  have hends : "false)".toList <:+ p.text := h ▸ List.suffix_append x _
  have hclosing : ∀ z y : List Char, p.text = z ++ (y ++ closing.toList) → False := by
    intro z y hz
    have hsuffix : closing.toList <:+ p.text := ⟨z ++ y, by rw [hz, List.append_assoc]⟩
    exact absurd (List.suffix_of_suffix_length_le hsuffix hends (by decide)) (by decide)
  cases p with
  | any => exact absurd hends (by decide)
  | wildcard suffix => exact hclosing wildcardOpening.toList _ rfl
  | exact name => exact hclosing exactOpening.toList _ rfl

end HostPattern

namespace Condition

/-- **A text has one host and one list of other tests.** -/
theorem writeCalls_injective {p p' : HostPattern} {bs cs : List QuotedCall}
    (hbs : ∀ b ∈ bs, b.function ∈ testFunctions) (hcs : ∀ c ∈ cs, c.function ∈ testFunctions)
    (h : writeCalls (p.call?.toList ++ bs.map QuotedCall.call) =
      writeCalls (p'.call?.toList ++ cs.map QuotedCall.call)) : p = p' ∧ bs = cs := by
  have hhost : ∀ (p p' : HostPattern) (cs : List QuotedCall) (c : QuotedCall),
      writeCalls p.call?.toList ≠ writeCalls (p'.call?.toList ++ (cs ++ [c]).map QuotedCall.call) := by
    intro p p' cs c
    rw [List.map_append, ← List.append_assoc, p.writeCalls_call?, List.map_singleton, writeCalls_concat,
      QuotedCall.append_write]
    exact p.text_ne _
  induction bs using List.reverseRecOn generalizing cs with
  | nil =>
    rcases List.eq_nil_or_concat' cs with rfl | ⟨cs, c, rfl⟩
    · rw [List.map_nil, List.append_nil, List.append_nil, p.writeCalls_call?, p'.writeCalls_call?] at h
      exact ⟨HostPattern.text_injective h, rfl⟩
    · rw [List.map_nil, List.append_nil] at h
      exact absurd h (hhost p p' cs c)
  | append_singleton bs b ih =>
    rcases List.eq_nil_or_concat' cs with rfl | ⟨cs, c, rfl⟩
    · rw [List.map_nil, List.append_nil] at h
      exact absurd h.symm (hhost p' p bs b)
    · rw [List.map_append, List.map_append, ← List.append_assoc, ← List.append_assoc] at h
      obtain ⟨hrest, rfl⟩ := writeCalls_cancel (hbs b (List.mem_append_right bs List.mem_cons_self))
        (hcs c (List.mem_append_right cs List.mem_cons_self)) h
      obtain ⟨rfl, rfl⟩ := ih (fun b hb => hbs b (List.mem_append_left _ hb))
        (fun c hc => hcs c (List.mem_append_left _ hc)) hrest
      exact ⟨rfl, rfl⟩

end Condition

/-! ## The calls of a path and of traits -/

/-- The calls that a path comes to. -/
def PathPattern.tests : PathPattern → List QuotedCall
  | .any => []
  | .below p => [⟨"req_path_element_prefix_in", [p]⟩]
  | .exact p => [⟨"req_path_in", [p]⟩]

theorem PathPattern.map_call_tests (q : PathPattern) : q.tests.map QuotedCall.call = q.call?.toList := by
  cases q <;> rfl

/-- The call that a trait comes to. -/
def Trait.test (t : Trait) : QuotedCall := ⟨t.place.function, [t.name, t.value]⟩

theorem Trait.test_injective : Function.Injective test := by
  intro ⟨place, name, value⟩ ⟨place', name', value'⟩ h
  cases place <;> cases place' <;> simp_all [test, TraitPlace.function]

theorem PathPattern.filter_tests (q : PathPattern) (ts : List Trait) :
    (q.tests ++ ts.map Trait.test).filter (fun c => c.texts.length = 1) = q.tests := by
  have htraits : (ts.map Trait.test).filter (fun c => c.texts.length = 1) = [] := by
    rw [List.filter_eq_nil_iff]
    intro c hc
    obtain ⟨t, _, rfl⟩ := List.mem_map.1 hc
    simp [Trait.test]
  rw [List.filter_append, htraits, List.append_nil]
  cases q <;> rfl

theorem PathPattern.tests_injective {q q' : PathPattern} {ts ts' : List Trait}
    (h : q.tests ++ ts.map Trait.test = q'.tests ++ ts'.map Trait.test) : q = q' ∧ ts = ts' := by
  have hpath : q.tests = q'.tests := by rw [← q.filter_tests ts, h, q'.filter_tests]
  rw [hpath] at h
  refine ⟨?_, List.map_injective_iff.2 Trait.test_injective (List.append_cancel_left h)⟩
  cases q <;> cases q' <;> simp_all [tests]

namespace Condition

theorem function_mem {q : PathPattern} {ts : List Trait} {c : QuotedCall}
    (h : c ∈ q.tests ++ ts.map Trait.test) : c.function ∈ testFunctions := by
  rcases List.mem_append.1 h with hq | ht
  · cases q with
    | any => cases hq
    | below | exact =>
      rw [List.mem_singleton.1 hq]
      simp only
      decide
  · obtain ⟨t, _, rfl⟩ := List.mem_map.1 ht
    rw [Trait.test]
    cases t.place <;> simp only <;> decide

variable {host path text host' path' text' : String} {a a' : Annotations}

/-- **Two conditions have the same text exactly when they ask for the same host, the same
path and the same traits.** -/
theorem build_eq_iff (h : build host path a = .ok text) (h' : build host' path' a' = .ok text') :
    text = text' ↔ HostPattern.parse host = HostPattern.parse host' ∧
      PathPattern.parse path = PathPattern.parse path' ∧ a.traits = a'.traits := by
  obtain ⟨p, q, ts, hp, hq, hts, htext⟩ := build_eq_ok h
  obtain ⟨p', q', ts', hp', hq', hts', htext'⟩ := build_eq_ok h'
  have hcalls : ∀ (q : PathPattern) (ts : List Trait), q.call?.toList ++ ts.map Trait.call =
      (q.tests ++ ts.map Trait.test).map QuotedCall.call := by
    intro q ts
    rw [List.map_append, q.map_call_tests, List.map_map]
    rfl
  rw [hcalls] at htext htext'
  rw [hp, hp', hq, hq', hts, hts', Except.ok.injEq, Except.ok.injEq, Except.ok.injEq, ← String.toList_inj,
    htext, htext']
  constructor
  · intro heq
    obtain ⟨hhost, htests⟩ := writeCalls_injective (fun _ => function_mem) (fun _ => function_mem) heq
    exact ⟨hhost, PathPattern.tests_injective htests⟩
  · rintro ⟨rfl, rfl, rfl⟩
    rfl

end Condition

end IngressRouting
