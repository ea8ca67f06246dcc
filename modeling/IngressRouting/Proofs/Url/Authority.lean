/-
How a URL of the web is read: credentials up to the last `@` of its authority, the host up to a
colon outside brackets, and a port.

What is used of a reader of such URLs is `Url.ReadsWeb`, which is what the standard of URLs
says of the three parts; `Url.parse_readsWeb` shows it of the reader here. Whether there are
credentials and where the host ends is settled by what follows, so a text in front of the
authority may be set apart.
-/
import IngressRouting.Proofs.Digits
import IngressRouting.Proofs.Results
import Mathlib.Data.List.TakeWhile

namespace IngressRouting.Url

/-! ## Hosts, credentials and ports -/

/-- What follows the host: nothing, or a colon and the port. -/
def behindHost (cs : List Char) : List Char := cs.drop (takeHost false cs).length

theorem takeHost_append {front cs : List Char} (h : ∀ c ∈ front, c ∉ [':', '[', ']']) :
    takeHost false (front ++ cs) = front ++ takeHost false cs := by
  induction front with
  | nil => rfl
  | cons c front ih =>
    obtain ⟨hc, hfront⟩ := List.forall_mem_cons.1 h
    simp only [List.mem_cons, List.not_mem_nil, or_false, not_or] at hc
    rw [List.cons_append, takeHost, if_neg fun hcolon => hc.1 hcolon.1, if_neg hc.2.1,
      if_neg hc.2.2, ih hfront, List.cons_append]

theorem behindHost_append {front cs : List Char} (h : ∀ c ∈ front, c ∉ [':', '[', ']']) :
    behindHost (front ++ cs) = behindHost cs := by
  rw [behindHost, takeHost_append h, List.length_append, List.drop_length_add_append, behindHost]

theorem drop_takeHost (inBrackets : Bool) (cs : List Char) :
    cs.drop (takeHost inBrackets cs).length = [] ∨
      ∃ port, cs.drop (takeHost inBrackets cs).length = ':' :: port := by
  induction cs generalizing inBrackets with
  | nil => exact .inl rfl
  | cons c cs ih =>
    rw [takeHost]
    split
    · next hc => exact .inr ⟨cs, by rw [hc.1]; rfl⟩
    · exact ih _

theorem behindHost_cases (cs : List Char) :
    behindHost cs = [] ∨ ∃ port, behindHost cs = ':' :: port := drop_takeHost false cs

/-- Whether there are credentials is told from the last part of a text with an `@` in it. -/
theorem splitCredentials_append (front : List Char) {cs : List Char} (h : '@' ∈ cs) :
    ∃ a b, splitCredentials (front ++ cs) = some (front ++ a, b) := by
  obtain ⟨b, a, hcut⟩ := exists_cutList (List.mem_reverse.2 h)
  obtain ⟨hcs, hb⟩ := cutList_eq_some_iff.1 hcut
  refine ⟨a.reverse, b.reverse, ?_⟩
  have hcut' : cutList '@' (front ++ cs).reverse = some (b, a ++ front.reverse) := by
    rw [cutList_eq_some_iff, List.reverse_append, hcs, List.append_assoc, List.cons_append]
    exact ⟨rfl, hb⟩
  rw [splitCredentials, hcut', Option.map_some]
  simp only [List.reverse_append, List.reverse_reverse]

theorem splitCredentials_eq_none {cs : List Char} (h : '@' ∉ cs) : splitCredentials cs = none := by
  rw [splitCredentials, Option.map_eq_none_iff, Option.eq_none_iff_forall_ne_some]
  rintro ⟨a, b⟩ hcut
  obtain ⟨hcs, -⟩ := cutList_eq_some_iff.1 hcut
  exact h (List.mem_reverse.1 (hcs ▸ by simp))

theorem mem_of_splitCredentials {cs a b : List Char} {c : Char} (h : splitCredentials cs = some (a, b))
    (hc : c ∈ b) : c ∈ cs := by
  obtain ⟨⟨x, y⟩, hcut, hxy⟩ := Option.map_eq_some_iff.1 h
  obtain ⟨hcs, -⟩ := cutList_eq_some_iff.1 hcut
  obtain ⟨rfl, rfl⟩ := Prod.mk.inj hxy
  rw [← List.mem_reverse, hcs]
  exact List.mem_append_left _ (List.mem_reverse.1 hc)

theorem readCredentials_ne_empty {c : Char} (cs : List Char) (hc : c ≠ ':') :
    (readCredentials (c :: cs)).1 ≠ "" := by
  rw [readCredentials, cutList, if_neg hc]
  cases cutList ':' cs with
  | none => simp
  | some ab => simp

/-- A port is a number without anything behind it, short of a backslash. -/
theorem readPort_eq_ok {cs left : List Char} {any : Bool} {n : Nat} {port : Option Nat}
    (hcs : '\\' ∉ cs) (h : readPort n any cs = .ok (port, left)) :
    left = [] ∧ (∀ c ∈ cs, c.isDigit = true) ∧
      port = if any = true ∨ cs ≠ [] then some (Nat.ofDigitChars 10 cs n) else none := by
  induction cs generalizing n any with
  | nil =>
    cases h
    exact ⟨rfl, by simp, by simp⟩
  | cons c cs ih =>
    rw [readPort] at h
    have hne : c ≠ '\\' := fun hc => hcs (hc ▸ List.mem_cons_self)
    split at h
    · next hdigit =>
      dsimp only at h
      split at h
      · cases h
      · obtain ⟨hleft, hdigits, hport⟩ := ih (fun hc => hcs (List.mem_cons_of_mem _ hc)) h
        refine ⟨hleft, List.forall_mem_cons.2 ⟨isDigit_iff.2 hdigit, hdigits⟩, ?_⟩
        rw [hport, Nat.ofDigitChars_cons]
        simp
    · cases h

/-! ## Authorities of the web -/

/-- The authority that a text begins with. -/
def authorityOf (cs : List Char) : List Char := cs.takeWhile fun c => c ∉ ['/', '?', '#', '\\']

theorem not_mem_of_mem_authorityOf {cs : List Char} {c : Char} (h : c ∈ authorityOf cs) :
    c ∉ ['/', '?', '#', '\\'] := by
  rw [authorityOf] at h
  exact of_decide_eq_true (List.mem_takeWhile_imp (p := fun c => decide (c ∉ ['/', '?', '#', '\\'])) h)

theorem dropWhile_of_authorityOf_eq_nil {cs : List Char} (h : authorityOf cs = []) :
    cs.dropWhile (fun c => c ∉ ['/', '?', '#', '\\']) = cs := by
  have happend := List.takeWhile_append_dropWhile (p := fun c => c ∉ ['/', '?', '#', '\\']) (l := cs)
  rwa [← authorityOf, h, List.nil_append] at happend

/-- In a scheme of the web a backslash ends an authority as a slash does. -/
theorem not_ends_web {web : Bool} (h : web = true) :
    (fun c : Char => !(c == '/' || c == '?' || c == '#' || (web && c == '\\'))) =
      fun c => decide (c ∉ ['/', '?', '#', '\\']) := by
  funext c
  simp [h, Bool.beq_eq_decide_eq, Bool.and_assoc]

/-- The host of an authority with what follows it. -/
def hostPortOf (authority : List Char) : List Char :=
  ((splitCredentials authority).map (·.2)).getD authority

/-! ## Readers of the web -/

/-- The text begins with a scheme of the web, and behind that with an authority. -/
structure Begins (s scheme : String) (usual : Nat) (cs : List Char) : Prop where
  /-- The scheme, with the port that need not be written. -/
  web : (scheme, usual) ∈ webSchemes
  text : clean s = scheme.toList ++ ':' :: '/' :: '/' :: cs
  slash : ∀ c ∈ cs.head?, isSlash c = false

/-- What is used of a reader of URLs. -/
structure ReadsWeb (read : String → Except Error Url) : Prop where
  scheme : ∀ {s scheme usual cs u}, Begins s scheme usual cs → read s = .ok u → u.scheme = scheme
  /-- Without an `@` there are no credentials. -/
  nameless : ∀ {s scheme usual cs u}, Begins s scheme usual cs → read s = .ok u →
    '@' ∉ authorityOf cs → u.username = "" ∧ u.password = none
  /-- What stands in front of an `@` is a name, up to a colon. -/
  named : ∀ {s scheme usual cs u c front}, Begins s scheme usual cs → read s = .ok u →
    authorityOf cs = c :: front → c ≠ ':' → '@' ∈ front → u.username ≠ ""
  /-- There is no port where none is written behind the host, an empty one or the usual one. -/
  port : ∀ {s scheme usual cs u}, Begins s scheme usual cs → read s = .ok u →
    (u.port = none ↔ behindHost (hostPortOf (authorityOf cs)) = [] ∨
      ∃ digits, behindHost (hostPortOf (authorityOf cs)) = ':' :: digits ∧
        (digits = [] ∨ Redirect.decimal? digits = some usual))

theorem mem_authorityOf_of_behindHost {cs : List Char} {c : Char}
    (h : c ∈ behindHost (hostPortOf (authorityOf cs))) : c ∈ authorityOf cs := by
  have hhost : c ∈ hostPortOf (authorityOf cs) := List.mem_of_mem_drop h
  rw [hostPortOf] at hhost
  cases hsplit : splitCredentials (authorityOf cs) with
  | none =>
    rw [hsplit] at hhost
    exact hhost
  | some p =>
    rw [hsplit] at hhost
    exact mem_of_splitCredentials hsplit hhost

/-- A URL of the web has the credentials and the port of its authority, and no port where it
is the usual one. -/
theorem readAuthority_web {scheme : String} {cs : List Char} {u : Url}
    (hweb : classOf scheme = .web) (h : readAuthority scheme cs = .ok u) :
    u.scheme = scheme ∧
    (u.username, u.password) =
      readCredentials (((splitCredentials (authorityOf cs)).map (·.1)).getD []) ∧
    ∃ port left,
      readPort 0 false ((behindHost (hostPortOf (authorityOf cs))).drop 1) = .ok (port, left) ∧
      u.port = if port = (webSchemes.find? (·.1 = scheme)).map (·.2) then none else port := by
  unfold readAuthority at h
  extract_lets web ends authority rest credentials hostPort hostText afterHost usual settled at h
  have hauthority : authorityOf cs = authority :=
    congrArg (fun p => cs.takeWhile p) (not_ends_web (decide_eq_true hweb)).symm
  obtain ⟨-, h⟩ := ite_throw_eq_ok.1 h
  unfold settled at h
  generalize hnames : readCredentials _ = names at h
  obtain ⟨username, password⟩ := names
  obtain ⟨-, h⟩ := ite_throw_eq_ok.1 h
  rw [if_pos hweb] at h
  obtain ⟨host, -, h⟩ := bind_eq_ok.1 h
  obtain ⟨-, h⟩ := ite_throw_eq_ok.1 h
  obtain ⟨⟨port, left⟩, hport, h⟩ := bind_eq_ok.1 h
  obtain ⟨-, h⟩ := ite_throw_eq_ok.1 h
  cases h
  rw [hauthority]
  exact ⟨rfl, hnames.symm, port, left, hport, rfl⟩

theorem of_mem_webSchemes {scheme : String} {usual : Nat} (h : (scheme, usual) ∈ webSchemes) :
    classOf scheme = .web ∧ (webSchemes.find? (·.1 = scheme)).map (·.2) = some usual ∧
      ∀ cs, splitScheme? (scheme.toList ++ ':' :: cs) = some (scheme, cs) := by
  simp only [webSchemes, List.mem_cons, List.not_mem_nil, Prod.mk.injEq, or_false] at h
  rcases h with ⟨rfl, rfl⟩ | ⟨rfl, rfl⟩ | ⟨rfl, rfl⟩ | ⟨rfl, rfl⟩ | ⟨rfl, rfl⟩ <;>
    exact ⟨by decide, by decide, fun _ => rfl⟩

theorem Begins.parse {s scheme : String} {usual : Nat} {cs : List Char}
    (h : Begins s scheme usual cs) : parse s = readAuthority scheme cs := by
  obtain ⟨hclass, -, hsplit⟩ := of_mem_webSchemes h.web
  have hslashes : ('/' :: '/' :: cs).dropWhile isSlash = cs := by
    cases cs with
    | nil => rfl
    | cons c cs =>
      have hc : ¬ isSlash c = true := by simp [h.slash c rfl]
      exact List.dropWhile_cons_of_neg (p := isSlash) hc
  rw [Url.parse, h.text, hsplit]
  simp only [hclass, hslashes]

/-- The port of a URL of the web tells what is written behind its host. -/
theorem port_eq_none_iff {cs left : List Char} {port : Option Nat} {usual : Nat}
    (hslash : '\\' ∉ cs) (h : readPort 0 false (cs.drop 1) = .ok (port, left))
    (hcs : cs = [] ∨ ∃ digits, cs = ':' :: digits) :
    (if port = some usual then none else port) = none ↔
      cs = [] ∨ ∃ digits, cs = ':' :: digits ∧
        (digits = [] ∨ Redirect.decimal? digits = some usual) := by
  rcases hcs with rfl | ⟨digits, rfl⟩
  · cases h
    exact iff_of_true (by simp) (.inl rfl)
  · obtain ⟨-, hdigits, hvalue⟩ :=
      readPort_eq_ok (fun hmem => hslash (List.mem_cons_of_mem _ hmem)) h
    have hdecimal : Redirect.decimal? digits = some usual ↔
        digits ≠ [] ∧ Nat.ofDigitChars 10 digits 0 = usual := by
      rw [Redirect.decimal?_eq_some_iff]
      exact and_congr_right fun _ => and_iff_right hdigits
    rw [hvalue]
    by_cases hnil : digits = [] <;> simp [hnil, hdecimal]

/-- **The reader here is one of the web.** -/
theorem parse_readsWeb : ReadsWeb parse where
  scheme hbegins hu := by
    rw [hbegins.parse] at hu
    exact (readAuthority_web (of_mem_webSchemes hbegins.web).1 hu).1
  nameless hbegins hu hat := by
    rw [hbegins.parse] at hu
    obtain ⟨-, hnames, -⟩ := readAuthority_web (of_mem_webSchemes hbegins.web).1 hu
    rw [splitCredentials_eq_none hat] at hnames
    exact ⟨congrArg Prod.fst hnames, congrArg Prod.snd hnames⟩
  named {s scheme usual cs u c front} hbegins hu hauthority hcolon hat := by
    rw [hbegins.parse] at hu
    obtain ⟨-, hnames, -⟩ := readAuthority_web (of_mem_webSchemes hbegins.web).1 hu
    obtain ⟨a, b, hcredentials⟩ := splitCredentials_append [c] hat
    rw [hauthority, ← List.singleton_append, hcredentials] at hnames
    have hname : u.username = (readCredentials (c :: a)).1 := congrArg Prod.fst hnames
    rw [hname]
    exact readCredentials_ne_empty a hcolon
  port {s scheme usual cs u} hbegins hu := by
    rw [hbegins.parse] at hu
    obtain ⟨hclass, husual, -⟩ := of_mem_webSchemes hbegins.web
    obtain ⟨-, -, port, left, hread, hport⟩ := readAuthority_web hclass hu
    rw [husual] at hport
    rw [hport]
    refine port_eq_none_iff (fun hmem => ?_) hread (behindHost_cases _)
    exact not_mem_of_mem_authorityOf (mem_authorityOf_of_behindHost hmem) (by decide)

end IngressRouting.Url
