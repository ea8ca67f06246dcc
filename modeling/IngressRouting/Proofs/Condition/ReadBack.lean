/-
What a reader of the notation makes of a condition's text. A host, a path and
annotations ask for certain tests (`tests`), and the text is to be read as calls
that make these and nothing else.

Everything is escaped that has to be, but for the suffix of a wildcard host, where
the dots are escaped and nothing else is. So the text is read as it is meant exactly
when the dots are all that needs it (`build_readsBack_iff`); a quote in a suffix ends
its literal, and what comes behind is read as calls of its own.
-/
import IngressRouting.Proofs.Condition.Rendering
import IngressRouting.Proofs.Patterns
import IngressRouting.Proofs.Traits

namespace IngressRouting.Condition

/-! ## The tests asked for -/

/-- What has to be escaped in a regular expression in a literal to stand for itself. -/
def isOperator (c : Char) : Bool :=
  c ∈ ['"', '\\', '.', '+', '*', '?', '(', ')', '|', '[', ']', '\x7b', '\x7d', '^', '$']

/-- What an argument is to say. -/
inductive Meaning
  | text (s : String)
  /-- One label and then these characters, in a regular expression. -/
  | suffix (cs : List Char)
  | word (w : String)

/-- The argument says it: a text letter by letter, a suffix with all its operators escaped. -/
def Argument.Means : Argument → Meaning → Prop
  | literal ls, .text s => ls.map Letter.char = s.toList
  | literal ls, .suffix cs => ∃ rest, ls = Letter.ofText (fun _ => false) oneLabel ++ rest ∧
      rest.map Letter.char = cs ∧ ∀ l ∈ rest, isOperator l.char = true → l.escaped = true
  | word w, .word v => w = v
  | _, _ => False

/-- A function and what its arguments are to say. -/
structure Test where
  function : String
  arguments : List Meaning

/-- The call makes the test. -/
def Call.Means (c : Call) (t : Test) : Prop :=
  c.function = t.function ∧ List.Forall₂ Argument.Means c.arguments t.arguments

/-- The test that a host text asks for, if any. -/
def hostTest (host : String) : Option Test :=
  if host = "" ∨ host = HostPattern.anyText then none
  else match host.toList with
    | '*' :: cs => some ⟨"req_host_regmatch", [.suffix cs]⟩
    | _ => some ⟨"req_host_in", [.text host]⟩

/-- The test that a path text asks for, if any. -/
def pathTest (path : String) : Option Test :=
  if path = "*" then none
  else match PathPattern.splitMarker path.toList with
    | (cs, true) => some ⟨"req_path_element_prefix_in", [.text (String.ofList cs), .word "false"]⟩
    | (_, false) => some ⟨"req_path_in", [.text path, .word "false"]⟩

/-- The test that the annotation of a place asks for, if any. -/
def traitTest (place : TraitPlace) (a : Annotations) : Option Test :=
  (a.get? place.key).bind fun raw => (cut ':' raw).map fun (name, value) =>
    ⟨place.function, [.text (trimBlank name), .text (trimBlank value), .word "false"]⟩

/-- The tests of a host, a path and annotations: at most one of each kind. -/
def tests (host path : String) (a : Annotations) : List Test :=
  (hostTest host).toList ++ ((pathTest path).toList ++
    ((traitTest .cookie a).toList ++ (traitTest .header a).toList))

/-! ## Escaped texts -/

/-- The argument is read as it is written, and says what it is to say. -/
def Argument.Expresses (a : Argument) (m : Meaning) : Prop := a.Regular ∧ a.Means m

/-- The call makes the test, and is read back as it is. -/
def Call.Expresses (c : Call) (t : Test) : Prop := c.Regular ∧ c.Means t

theorem Argument.quoted_expresses (s : String) : (quoted s).Expresses (.text s) := by
  refine ⟨fun l hl hc => ?_, Letter.map_char_ofText _ _⟩
  obtain ⟨c, _, rfl⟩ := List.mem_map.1 hl
  simpa using hc

theorem Argument.word_expresses {w : String} (h : IsWord w) : (word w).Expresses (.word w) := ⟨h, rfl⟩

theorem Call.expresses {f : String} {as : List Argument} {ms : List Meaning} (hf : IsWord f)
    (h : List.Forall₂ Argument.Expresses as ms) : Expresses ⟨f, as⟩ ⟨f, ms⟩ := by
  refine ⟨⟨hf, fun a ha => ?_⟩, rfl, h.imp fun _ _ hs => hs.2⟩
  obtain ⟨m, _, hregular, _⟩ := exists_of_forall₂ h ha
  exact hregular

variable {host path text : String} {a : Annotations}

theorem pathTest_expressed {q : PathPattern} (h : PathPattern.parse path = .ok q) :
    List.Forall₂ Call.Expresses q.call?.toList (pathTest path).toList := by
  have hargs : ∀ s, List.Forall₂ Argument.Expresses [.quoted s, .word "false"] [.text s, .word "false"] :=
    fun s => .cons (Argument.quoted_expresses s) (.cons (Argument.word_expresses (by decide)) .nil)
  rcases PathPattern.parse_cases h with ⟨rfl, rfl⟩ | ⟨cs, hne, hcs, rfl⟩ | ⟨_, hm, rfl⟩
  · exact .nil
  · have hpath : path ≠ "*" := by
      rintro rfl
      exact hne (List.append_cancel_right (show cs ++ ['*'] = [] ++ ['*'] from hcs.symm))
    rw [pathTest, if_neg hpath, hcs, PathPattern.splitMarker_append]
    exact .cons (Call.expresses (by decide) (hargs _)) .nil
  · have hpath : path ≠ "*" := by
      rintro rfl
      exact hm List.mem_cons_self
    rw [pathTest, if_neg hpath, PathPattern.splitMarker_of_notMem hm]
    exact .cons (Call.expresses (by decide) (hargs _)) .nil

theorem traitTest_expressed {place : TraitPlace} {ts : List Trait} (h : a.trait? place = .ok ts) :
    List.Forall₂ Call.Expresses (ts.map Trait.call) (traitTest place a).toList := by
  have hplace : IsWord place.function := by cases place <;> decide
  rcases Annotations.trait?_eq_ok_iff.1 h with ⟨hnone, rfl⟩ | ⟨raw, t, hsome, hparse, rfl⟩
  · rw [traitTest, hnone]
    exact .nil
  · obtain ⟨name, value, hcut, _, rfl⟩ := Trait.parse_eq_ok_iff.1 hparse
    rw [traitTest, hsome, Option.bind_some, hcut]
    exact .cons (Call.expresses hplace (.cons (Argument.quoted_expresses _)
      (.cons (Argument.quoted_expresses _) (.cons (Argument.word_expresses (by decide)) .nil)))) .nil

theorem traitTests_expressed {ts : List Trait} (h : a.traits = .ok ts) :
    List.Forall₂ Call.Expresses (ts.map Trait.call)
      ((traitTest .cookie a).toList ++ (traitTest .header a).toList) := by
  obtain ⟨cookie, header, hc, hh, rfl⟩ := Annotations.traits_eq_ok_iff.1 h
  rw [List.map_append]
  exact List.rel_append (traitTest_expressed hc) (traitTest_expressed hh)

theorem hostTest_suffix {cs : List Char} (hcs : host.toList = '*' :: cs) (hne : cs ≠ []) :
    hostTest host = some ⟨"req_host_regmatch", [.suffix cs]⟩ := by
  have hsome : ¬ (host = "" ∨ host = HostPattern.anyText) := by
    rintro (rfl | rfl)
    · cases hcs
    · exact hne (List.cons.inj hcs).2.symm
  rw [hostTest, if_neg hsome, hcs]
  rfl

theorem hostTest_exact (hne : host ≠ "") (hm : '*' ∉ host.toList) :
    hostTest host = some ⟨"req_host_in", [.text host]⟩ := by
  have hsome : ¬ (host = "" ∨ host = HostPattern.anyText) := by
    rintro (rfl | rfl)
    · exact hne rfl
    · exact hm List.mem_cons_self
  rw [hostTest, if_neg hsome]
  split
  · next cs hcs =>
    rw [hcs] at hm
    exact absurd List.mem_cons_self hm
  · rfl

/-- Where the dots of a suffix are its only operators, escaping the dots is enough. -/
theorem suffix_expressed {cs : List Char} (hcs : ∀ c ∈ cs, isOperator c = true → c = '.') :
    (regmatch (Letter.ofText (· == '.') cs)).Expresses ⟨"req_host_regmatch", [.suffix cs]⟩ := by
  have hescaped : ∀ l ∈ Letter.ofText (· == '.') cs, isOperator l.char = true → l.escaped = true := by
    intro l hl ho
    obtain ⟨c, hc, rfl⟩ := List.mem_map.1 hl
    rw [hcs c hc ho]
    rfl
  have hregular : ∀ l ∈ Letter.ofText (fun _ => false) oneLabel ++ Letter.ofText (· == '.') cs,
      l.Regular := by
    intro l hl hc
    rcases List.mem_append.1 hl with hl | hl
    · obtain ⟨c, hm, rfl⟩ := List.mem_map.1 hl
      have hlabel : '"' ∉ oneLabel ∧ '\\' ∉ oneLabel := by decide
      rcases hc with rfl | rfl
      · exact absurd hm hlabel.1
      · exact absurd hm hlabel.2
    · exact hescaped l hl (by rcases hc with hc | hc <;> rw [hc] <;> decide)
  exact Call.expresses (by decide) (.cons ⟨hregular, _, rfl, Letter.map_char_ofText _ _, hescaped⟩ .nil)

theorem hostTest_expressed {p : HostPattern} (h : HostPattern.parse host = .ok p)
    (hdots : ∀ cs, host.toList = '*' :: cs → ∀ c ∈ cs, isOperator c = true → c = '.') :
    List.Forall₂ Call.Expresses p.call?.toList (hostTest host).toList := by
  rcases HostPattern.parse_cases h with ⟨hany, rfl⟩ | ⟨cs, _, hcs, rfl⟩ | ⟨hne, hm, rfl⟩
  · rw [hostTest, if_pos hany]
    exact .nil
  · rw [hostTest_suffix hcs (List.cons_ne_nil _ _), HostPattern.call?, String.toList_ofList]
    exact .cons (suffix_expressed (hdots _ hcs)) .nil
  · rw [hostTest_exact hne hm]
    exact .cons (Call.expresses (by decide) (.cons (Argument.quoted_expresses host) .nil)) .nil

/-! ## Operators left as they are -/

theorem Letter.count_quote_write (ls : List Letter) :
    (ls.flatMap write).count '"' = (ls.map char).count '"' := by
  induction ls with
  | nil => rfl
  | cons l ls ih =>
    have hl : l.write.count '"' = [l.char].count '"' := by
      rw [write]
      split
      · exact List.count_cons_of_ne (by decide)
      · rfl
    rw [List.flatMap_cons, List.count_append, hl, ih, ← List.count_append]
    rfl

theorem Letter.length_write (ls : List Letter) :
    (ls.flatMap write).length = ls.length + ls.countP (·.escaped) := by
  induction ls with
  | nil => rfl
  | cons l ls ih =>
    rw [List.flatMap_cons, List.length_append, ih, write, List.countP_cons, List.length_cons]
    cases l.escaped <;> simp <;> omega

theorem eq_of_append_quote {cs ds z x y : List Char} (hz : ds = cs ++ z) (hx : '"' :: x = z ++ '"' :: y)
    (hcount : cs.count '"' = ds.count '"') : cs = ds := by
  cases z with
  | nil => rw [hz, List.append_nil]
  | cons c z =>
    rw [← (List.cons.inj hx).1] at hz
    rw [hz, List.count_append, List.count_cons_self] at hcount
    omega

/-- Letters of the same characters in literals that end at the same quote are
written the same: if one were written as a part of the other, the other would have
one more quote in it. -/
theorem Letter.write_eq_of_append {ls ls' : List Letter} {x y : List Char}
    (hchars : ls.map char = ls'.map char)
    (h : ls.flatMap write ++ '"' :: x = ls'.flatMap write ++ '"' :: y) :
    ls.flatMap write = ls'.flatMap write := by
  have hcount : (ls.flatMap write).count '"' = (ls'.flatMap write).count '"' := by
    rw [count_quote_write, count_quote_write, hchars]
  rcases List.append_eq_append_iff.1 h with ⟨z, hz, hx⟩ | ⟨z, hz, hy⟩
  · exact eq_of_append_quote hz hx hcount
  · exact (eq_of_append_quote hz hy hcount.symm).symm

/-- If the letters of a suffix have their operators escaped, and are written with
nothing but the dots escaped, then there are no operators but dots. -/
theorem dots_of_write_eq {ls : List Letter} {cs : List Char} (hchars : ls.map Letter.char = cs)
    (hescaped : ∀ l ∈ ls, isOperator l.char = true → l.escaped = true)
    (h : ls.flatMap Letter.write = (Letter.ofText (· == '.') cs).flatMap Letter.write) :
    ∀ c ∈ cs, isOperator c = true → c = '.' := by
  -- as many letters are escaped as there are dots, so no operator but a dot is one of them
  have hlen : ls.countP (·.escaped) = cs.countP (· == '.') := by
    have hlens := congrArg List.length h
    rw [Letter.length_write, Letter.length_write, Letter.ofText, List.countP_map, List.length_map,
      ← hchars, List.length_map] at hlens
    rw [← hchars]
    exact Nat.add_left_cancel hlens
  have hle : cs.countP isOperator ≤ ls.countP (·.escaped) := by
    rw [← hchars, List.countP_map]
    exact List.countP_mono_left hescaped
  have hsplit := List.countP_eq_countP_filter_add cs isOperator (· == '.')
  have hdots : (cs.filter (· == '.')).countP isOperator = cs.countP (· == '.') := by
    rw [List.countP_filter]
    refine List.countP_congr fun c _ => ?_
    rw [Bool.and_eq_true, beq_iff_eq]
    exact ⟨fun hc => hc.2, fun hc => ⟨by rw [hc]; decide, hc⟩⟩
  have hnone : (cs.filter (fun c => !(c == '.'))).countP isOperator = 0 := by omega
  intro c hc ho
  by_contra hdot
  exact List.countP_eq_zero.1 hnone c (List.mem_filter.2 ⟨hc, by simpa using hdot⟩) ho

theorem Call.Means.eq_regmatch {c : Call} {cs : List Char}
    (h : c.Means ⟨"req_host_regmatch", [.suffix cs]⟩) :
    ∃ ls, c = regmatch ls ∧ ls.map Letter.char = cs ∧
      ∀ l ∈ ls, isOperator l.char = true → l.escaped = true := by
  obtain ⟨f, as⟩ := c
  obtain ⟨rfl, hargs⟩ := h
  cases hargs with
  | @cons arg _ _ _ harg hnil =>
    cases hnil
    cases arg with
    | literal ls =>
      obtain ⟨rest, rfl, hchars, hescaped⟩ := harg
      exact ⟨rest, rfl, hchars, hescaped⟩
    | word w => exact harg.elim

/-- **What is read as it is meant has no operators but dots in its suffix.** -/
theorem dots_of_readsBack {calls : List Call} {cs : List Char} (h : build host path a = .ok text)
    (hread : readCondition text = some calls)
    (hmeans : List.Forall₂ Call.Means calls (tests host path a)) (hcs : host.toList = '*' :: cs) :
    ∀ c ∈ cs, isOperator c = true → c = '.' := by
  obtain ⟨p, q, ts, hp, _, _, htext⟩ := build_eq_ok h
  rcases HostPattern.parse_cases hp with ⟨hany, _⟩ | ⟨ds, _, hds, rfl⟩ | ⟨_, hm, _⟩
  · rcases hany with rfl | rfl
    · cases hcs
    · rw [(List.cons.inj hcs).2.symm]
      exact fun c hc => absurd hc List.not_mem_nil
  · obtain rfl : '.' :: ds = cs := (List.cons.inj (hds.symm.trans hcs)).2
    rw [tests, hostTest_suffix hcs (List.cons_ne_nil _ _)] at hmeans
    cases hmeans with
    | @cons c _ calls _ hfirst _ =>
      obtain ⟨ls, rfl, hchars, hescaped⟩ := hfirst.eq_regmatch
      obtain ⟨x, hx⟩ := writeCalls_cons (regmatch ls) calls
      obtain ⟨y, hy⟩ := writeCalls_cons (regmatch (Letter.ofText (· == '.') ('.' :: ds)))
        (q.call?.toList ++ ts.map Trait.call)
      -- both texts are the same, and up to the suffix they are written alike
      have hsame := (eq_writeCalls_of_read hread).symm.trans htext
      rw [HostPattern.call?, String.toList_ofList, Option.toList_some, List.singleton_append, hx, hy,
        write_regmatch, write_regmatch] at hsame
      simp only [List.append_assoc] at hsame
      have hletters := List.append_cancel_left hsame
      exact dots_of_write_eq hchars hescaped
        (Letter.write_eq_of_append (hchars.trans (Letter.map_char_ofText _ _).symm) hletters)
  · rw [hcs] at hm
    exact absurd List.mem_cons_self hm

/-- **When a condition is read back as it is meant.** Its text is read as the tests
of the host, the path and the annotations, in this order and with nothing besides,
exactly when the suffix of a wildcard host has no operators but dots. -/
theorem build_readsBack_iff (h : build host path a = .ok text) :
    (∃ calls, readCondition text = some calls ∧ List.Forall₂ Call.Means calls (tests host path a)) ↔
      ∀ cs, host.toList = '*' :: cs → ∀ c ∈ cs, isOperator c = true → c = '.' := by
  constructor
  · rintro ⟨calls, hread, hmeans⟩ cs hcs
    exact dots_of_readsBack h hread hmeans hcs
  · intro hdots
    obtain ⟨p, q, ts, hp, hq, hts, htext⟩ := build_eq_ok h
    have hall : List.Forall₂ Call.Expresses (p.call?.toList ++ (q.call?.toList ++ ts.map Trait.call))
        (tests host path a) :=
      List.rel_append (hostTest_expressed hp hdots)
        (List.rel_append (pathTest_expressed hq) (traitTests_expressed hts))
    refine ⟨_, readCondition_writeCalls (fun c hc => ?_) htext, hall.imp fun _ _ he => he.2⟩
    obtain ⟨t, _, hregular, _⟩ := exists_of_forall₂ hall hc
    exact hregular

/-- Quotes, backslashes and connectives in a path and in annotations. -/
theorem build_readsBack_quotes :
    let a : Annotations := Dict.ofList
      [(Annotations.cookieKey, "user: say \"hi\" && bye"), (Annotations.headerKey, " X-A :a\\b")]
    let text := "req_host_regmatch(\"(?i)^[^.]+\\.example\\.com\")" ++
      "&&req_path_element_prefix_in(\"/a\\\"b\", false)" ++
      "&&req_cookie_value_in(\"user\", \"say \\\"hi\\\" && bye\", false)" ++
      "&&req_header_value_in(\"X-A\", \"a\\\\b\", false)"
    build "*.example.com" "/a\"b*" a = .ok text ∧
      ∃ calls, readCondition text = some calls ∧
        List.Forall₂ Call.Means calls (tests "*.example.com" "/a\"b*" a) := by
  intro a text
  have h : build "*.example.com" "/a\"b*" a = .ok text := by decide +kernel
  refine ⟨h, (build_readsBack_iff h).2 fun cs hcs => ?_⟩
  obtain rfl : ".example.com".toList = cs := (List.cons.inj hcs).2
  have hdots : ".example.com".toList.all (fun c => !isOperator c || c == '.') = true := by decide
  exact fun c hc ho => by simpa [ho] using List.all_eq_true.1 hdots c hc

/-- A suffix with a quote in it ends its literal, and goes on with calls of its own. -/
theorem build_suffix_quote :
    let host := "*.x\")&&default_t()&&req_host_in(\"y"
    let text := "req_host_regmatch(\"(?i)^[^.]+\\.x\")&&default_t()&&req_host_in(\"y\")" ++
      "&&req_path_in(\"/p\", false)"
    build host "/p" ∅ = .ok text ∧
      (readCondition text).map (·.map Call.function) =
        some ["req_host_regmatch", "default_t", "req_host_in", "req_path_in"] ∧
      ¬ ∃ calls, readCondition text = some calls ∧
        List.Forall₂ Call.Means calls (tests host "/p" ∅) := by
  intro host text
  have h : build host "/p" ∅ = .ok text := by decide +kernel
  have hread : (readCondition ("req_host_regmatch(\"(?i)^[^.]+\\.x\")&&default_t()&&req_host_in(\"y\")" ++
      "&&req_path_in(\"/p\", false)")).map (·.map Call.function) =
        some ["req_host_regmatch", "default_t", "req_host_in", "req_path_in"] := by decide +kernel
  refine ⟨h, hread, ?_⟩
  rintro ⟨calls, hread, hmeans⟩
  have hcs : host.toList = '*' :: host.toList.tail := by decide +kernel
  exact absurd (dots_of_readsBack h hread hmeans hcs '"' (by decide +kernel) (by decide)) (by decide)

end IngressRouting.Condition
