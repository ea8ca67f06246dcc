/-
The text of a condition is the writing of calls, one for each test that not every
request passes (`render_eq_textOf`). However conditions are nested, their calls
come one after the other in one flat text.
-/
import IngressRouting.Proofs.Condition.Calls
import IngressRouting.Proofs.Compilation

namespace IngressRouting

namespace Condition

/-! ## Texts joined by the connective -/

/-- Both texts, where there are two. -/
def conjoin : Option String → Option String → Option String
  | none, u => u
  | some t, none => some t
  | some t, some u => some (t ++ connective ++ u)

theorem join_cons (t : String) (ts : List String) : join (t :: ts) = conjoin (some t) (join ts) := by
  cases ts with
  | nil => rfl
  | cons u us => rw [join, String.intercalate_cons_cons, join, conjoin]

theorem conjoin_assoc (t u v : Option String) : conjoin (conjoin t u) v = conjoin t (conjoin u v) := by
  cases t <;> cases u <;> cases v <;> simp [conjoin, String.append_assoc]

theorem join_append (ts us : List String) : join (ts ++ us) = conjoin (join ts) (join us) := by
  induction ts with
  | nil => rfl
  | cons t ts ih => rw [List.cons_append, join_cons, ih, join_cons, conjoin_assoc]

theorem join_eq_none_iff {ts : List String} : join ts = none ↔ ts = [] := by
  cases ts <;> simp [join]

/-- A part without a text leaves no connective behind. -/
theorem join_renderEach_cons (c : Condition) (cs : List Condition) :
    join (renderEach (c :: cs)) = conjoin c.render (join (renderEach cs)) := by
  rw [renderEach]
  cases c.render with
  | none => rfl
  | some t => exact join_cons t _

/-- The text of calls; none of them have none. -/
def textOf (calls : List Call) : Option String :=
  if calls = [] then none else some (String.ofList (writeCalls calls))

theorem textOf_singleton (c : Call) : textOf [c] = some (String.ofList c.write) := by
  rw [textOf, if_neg (List.cons_ne_nil c []), writeCalls, List.map_singleton, List.intercalate_singleton]

theorem textOf_cons (c : Call) (calls : List Call) :
    textOf (c :: calls) = conjoin (some (String.ofList c.write)) (textOf calls) := by
  cases calls with
  | nil => exact textOf_singleton c
  | cons d ds =>
    rw [textOf, if_neg (List.cons_ne_nil _ _), textOf, if_neg (List.cons_ne_nil _ _), conjoin, writeCalls,
      List.map_cons, List.map_cons, List.intercalate_cons_cons, String.ofList_append, String.ofList_append]
    rfl

theorem textOf_append (as bs : List Call) : textOf (as ++ bs) = conjoin (textOf as) (textOf bs) := by
  induction as with
  | nil => rfl
  | cons a as ih => rw [List.cons_append, textOf_cons, ih, textOf_cons, conjoin_assoc]

theorem toList_getD_textOf (calls : List Call) : ((textOf calls).getD "").toList = writeCalls calls := by
  rw [textOf]
  split
  · next hnil =>
    rw [hnil]
    rfl
  · rw [Option.getD_some, String.toList_ofList]

/-! ## The calls of a condition -/

/-- A literal of a text, with quotes and backslashes escaped. -/
def Argument.quoted (s : String) : Argument :=
  .literal (Letter.ofText (fun c => c = '"' || c = '\\') s.toList)

theorem Letter.write_ofText_cons (p : Char → Bool) (c : Char) (cs : List Char) :
    (ofText p (c :: cs)).flatMap write =
      (if p c then ['\\', c] else [c]) ++ (ofText p cs).flatMap write := rfl

theorem Letter.write_quoted (cs : List Char) :
    (ofText (fun c => c = '"' || c = '\\') cs).flatMap write = Quoted.encode cs := by
  induction cs with
  | nil => rfl
  | cons c cs ih =>
    rw [Quoted.encode, write_ofText_cons, ih]
    by_cases hc : c = '"' ∨ c = '\\'
    · simp [hc]
    · simp [hc]

theorem Letter.write_dots (cs : List Char) :
    (ofText (· == '.') cs).flatMap write = HostPattern.escapeDots cs := by
  induction cs with
  | nil => rfl
  | cons c cs ih =>
    rw [HostPattern.escapeDots, write_ofText_cons, ih]
    by_cases hc : c = '.'
    · simp [hc]
    · simp [hc]

theorem Letter.write_plain (cs : List Char) : (ofText (fun _ => false) cs).flatMap write = cs := by
  induction cs with
  | nil => rfl
  | cons c cs ih => rw [write_ofText_cons, ih, if_neg Bool.false_ne_true, List.singleton_append]

@[simp] theorem Argument.write_quoted (s : String) : (quoted s).write = (Quoted.literal s).toList := by
  rw [quoted, write, Letter.write_quoted, Quoted.literal, String.toList_ofList, List.cons_append]

theorem Argument.write_word (w : String) : (word w).write = w.toList := rfl

/-- Ignoring the case: from the start, one label. -/
def oneLabel : List Char := "(?i)^[^.]+".toList

/-- The call that matches a host of one label and a suffix. -/
def regmatch (suffix : List Letter) : Call :=
  ⟨"req_host_regmatch", [.literal (Letter.ofText (fun _ => false) oneLabel ++ suffix)]⟩

theorem write_regmatch (suffix : List Letter) : (regmatch suffix).write =
    "req_host_regmatch(\"(?i)^[^.]+".toList ++ (suffix.flatMap Letter.write ++ "\")".toList) := by
  have hopening : "req_host_regmatch(\"(?i)^[^.]+".toList =
      "req_host_regmatch".toList ++ '(' :: '"' :: oneLabel := by decide
  rw [regmatch, Call.write, writeArguments, List.map_singleton, List.intercalate_singleton,
    Argument.write, List.flatMap_append, Letter.write_plain, hopening]
  simp only [List.append_assoc, List.cons_append]
  rfl

end Condition

open Condition

/-- The call that a host comes to, if any. -/
def HostPattern.call? : HostPattern → Option Condition.Call
  | .any => none
  | .wildcard suffix => some (regmatch (Letter.ofText (· == '.') suffix.toList))
  | .exact name => some ⟨"req_host_in", [.quoted name]⟩

/-- The call that a path comes to, if any. -/
def PathPattern.call? : PathPattern → Option Condition.Call
  | .any => none
  | .below p => some ⟨"req_path_element_prefix_in", [.quoted p, .word "false"]⟩
  | .exact p => some ⟨"req_path_in", [.quoted p, .word "false"]⟩

/-- The call that a trait comes to, as it is read. -/
def Trait.call (t : Trait) : Condition.Call :=
  ⟨t.place.function, [.quoted t.name, .quoted t.value, .word "false"]⟩

theorem HostPattern.render_eq_textOf (p : HostPattern) : p.render = textOf p.call?.toList := by
  cases p with
  | any => rfl
  | wildcard suffix =>
    rw [render, call?, Option.toList_some, textOf_singleton, write_regmatch, Letter.write_dots,
      String.ofList_append, String.ofList_append, String.ofList_toList, String.ofList_toList,
      String.append_assoc]
  | exact name =>
    rw [render, call?, Option.toList_some, textOf_singleton, Condition.Call.write]
    refine congrArg some (String.toList_inj.1 ?_)
    simp [writeArguments]

theorem PathPattern.render_eq_textOf (p : PathPattern) : p.render = textOf p.call?.toList := by
  cases p with
  | any => rfl
  | below p =>
    rw [render, call?, Option.toList_some, textOf_singleton, Condition.Call.write]
    refine congrArg some (String.toList_inj.1 ?_)
    simp [writeArguments, Argument.write_word]
  | exact p =>
    rw [render, call?, Option.toList_some, textOf_singleton, Condition.Call.write]
    refine congrArg some (String.toList_inj.1 ?_)
    simp [writeArguments, Argument.write_word]

theorem Trait.render_eq (t : Trait) : t.render = String.ofList t.call.write := by
  refine String.toList_inj.1 ?_
  simp [Condition.Call.write, writeArguments, call, render, Argument.write_word]

namespace Condition

theorem join_traits (ts : List Trait) : join (ts.map Trait.render) = textOf (ts.map Trait.call) := by
  induction ts with
  | nil => rfl
  | cons t ts ih => rw [List.map_cons, List.map_cons, join_cons, textOf_cons, ih, t.render_eq]

mutual

/-- The calls of a condition, from left to right. -/
def calls : Condition → List Call
  | .host p => p.call?.toList
  | .path p => p.call?.toList
  | .traits ts => ts.map Trait.call
  | .all cs => callsEach cs

/-- The calls of several conditions, in order. -/
def callsEach : List Condition → List Call
  | [] => []
  | c :: cs => c.calls ++ callsEach cs

end

mutual

/-- **The text of a condition is that of its calls.** -/
theorem render_eq_textOf : ∀ c : Condition, c.render = textOf c.calls
  | host p => by rw [render, calls, p.render_eq_textOf]
  | path p => by rw [render, calls, p.render_eq_textOf]
  | traits ts => by rw [render, calls, join_traits]
  | all cs => by rw [render, calls, join_renderEach cs]

theorem join_renderEach : ∀ cs : List Condition, join (renderEach cs) = textOf (callsEach cs)
  | [] => rfl
  | c :: cs => by
    rw [callsEach, textOf_append, ← render_eq_textOf c, ← join_renderEach cs, join_renderEach_cons]

end

/-- The text of a host, a path and annotations is the writing of their calls. -/
theorem build_eq_ok {host path text : String} {a : Annotations} (h : build host path a = .ok text) :
    ∃ p q ts, HostPattern.parse host = .ok p ∧ PathPattern.parse path = .ok q ∧ a.traits = .ok ts ∧
      text.toList = writeCalls (p.call?.toList ++ (q.call?.toList ++ ts.map Trait.call)) := by
  obtain ⟨c, hc, rfl⟩ := map_eq_ok.1 h
  obtain ⟨p, q, ts, hp, hq, hts, rfl⟩ := parse_eq_ok_iff.1 hc
  refine ⟨p, q, ts, hp, hq, hts, ?_⟩
  rw [render_eq_textOf, toList_getD_textOf]
  simp only [calls, callsEach, List.append_nil]

end Condition

end IngressRouting
