/-
A redirect target that is no URL by itself, tried behind the placeholder origin
(`Redirect.urlSet_origin_iff`). The two are joined as text and only the host of the outcome
is looked at, so what a target begins with may run on from the host: it may name a port, and
with an `@` the placeholder becomes a user name. A target that begins like a path runs on
from nothing.

Of the reader of URLs only what `Url.ReadsWeb` says is used for that.
-/
import IngressRouting.Proofs.Redirect.Interpretation
import IngressRouting.Proofs.Url.Authority

namespace IngressRouting.Redirect

/-! ## Joined texts -/

/-- A text as it stands behind another one in a URL: without blanks and controls at its end,
and without line ends and tabs. -/
def appended (text : String) : List Char :=
  (text.toList.reverse.dropWhile fun c => c.toNat ≤ 0x20).reverse.filter
    fun c => c != '\t' && c != '\n' && c != '\r'

theorem clean_placeholder (text : String) :
    Url.clean (placeholderText ++ text) = placeholderText.toList ++ appended text := by
  have hstart : placeholderText.toList.dropWhile (fun c => decide (c.toNat ≤ 0x20)) =
      placeholderText.toList := by decide
  have hend : placeholderText.toList.reverse.dropWhile (fun c => decide (c.toNat ≤ 0x20)) =
      placeholderText.toList.reverse := by decide
  have htrim : ((placeholderText.toList ++ text.toList).reverse.dropWhile
      fun c => decide (c.toNat ≤ 0x20)) =
        (text.toList.reverse.dropWhile fun c => decide (c.toNat ≤ 0x20)) ++
          placeholderText.toList.reverse := by
    rw [List.reverse_append, List.dropWhile_append, hend]
    split
    · next hempty => rw [List.isEmpty_iff.1 hempty, List.nil_append]
    · rfl
  rw [Url.clean, String.toList_append, List.dropWhile_append, hstart, if_neg (by decide), htrim,
    List.reverse_append, List.reverse_reverse, List.filter_append]
  rfl

theorem begins_placeholder (text : String) :
    Url.Begins (placeholderText ++ text) "https" 443 ("fake.org".toList ++ appended text) := by
  refine ⟨by decide, clean_placeholder text, fun c hc => ?_⟩
  obtain rfl : 'f' = c := Option.some.inj hc
  decide

/-! ## What runs on from the host -/

/-- The part of a text that becomes part of the authority. -/
def runOn (text : String) : List Char := Url.authorityOf (appended text)

theorem authorityOf_placeholder (text : String) :
    Url.authorityOf ("fake.org".toList ++ appended text) = "fake.org".toList ++ runOn text := by
  rw [Url.authorityOf, List.takeWhile_append_of_pos (by simp)]
  rfl

/-- The port behind a host is none that a URL of the origin would show. -/
def PortUnsaid (cs : List Char) : Prop :=
  cs = [] ∨ ∃ digits, cs = ':' :: digits ∧ (digits = [] ∨ decimal? digits = some 443)

section Reader

variable {read : String → Except Url.Error Url} {text : String} {u : Url}

/-- A run with an `@` in it turns the placeholder into a user name. -/
theorem username_ne_of_mem (hread : Url.ReadsWeb read) (h : read (placeholderText ++ text) = .ok u)
    (hat : '@' ∈ runOn text) : u.username ≠ "" :=
  hread.named (begins_placeholder text) h (authorityOf_placeholder text) (by decide)
    (List.mem_append_right _ hat)

/-- Without an `@` there are no credentials, and the port is the one in the run. -/
theorem port_of_not_mem (hread : Url.ReadsWeb read) (h : read (placeholderText ++ text) = .ok u)
    (hat : '@' ∉ runOn text) : u.username = "" ∧ u.password = none ∧
      (u.port = none ↔ PortUnsaid (Url.behindHost (runOn text))) := by
  have hnone : '@' ∉ Url.authorityOf ("fake.org".toList ++ appended text) := fun hmem => by
    rw [authorityOf_placeholder] at hmem
    exact hat ((List.mem_append.1 hmem).resolve_left (by decide))
  obtain ⟨hname, hpassword⟩ := hread.nameless (begins_placeholder text) h hnone
  have hport := hread.port (begins_placeholder text) h
  rw [Url.hostPortOf, Url.splitCredentials_eq_none hnone, Option.map_none, Option.getD_none,
    authorityOf_placeholder, Url.behindHost_append (by simp)] at hport
  exact ⟨hname, hpassword, hport⟩

end Reader

/-! ## Paths -/

/-- A text that runs on from nothing is only a path, a query and a fragment. -/
theorem parse_path {text : String} (h : runOn text = []) :
    Url.parse (placeholderText ++ text) = .ok (placeholder.toUrl.withTail (appended text)) := by
  have hweb : Url.classOf "https" = .web := by decide
  have hnone : Url.splitCredentials "fake.org".toList = none := by decide
  have htext : Url.takeHost false "fake.org".toList = "fake.org".toList := by decide
  have hhost : Url.Host.parse "fake.org".toList = .ok (.domain "fake.org") := by decide +kernel
  have hauthority : ("fake.org".toList ++ appended text).takeWhile
      (fun c => !(c == '/' || c == '?' || c == '#' || (true && c == '\\'))) = "fake.org".toList := by
    rw [Url.not_ends_web rfl, ← Url.authorityOf, authorityOf_placeholder, h, List.append_nil]
  have hrest : ("fake.org".toList ++ appended text).dropWhile
      (fun c => !(c == '/' || c == '?' || c == '#' || (true && c == '\\'))) = appended text := by
    rw [Url.not_ends_web rfl, List.dropWhile_append_of_pos (by simp),
      Url.dropWhile_of_authorityOf_eq_nil h]
  rw [(begins_placeholder text).parse]
  unfold Url.readAuthority
  simp only [hweb, decide_true, hauthority, hrest, hnone, htext, hhost, Option.map_none,
    Option.getD_none]
  rfl

/-- **A path is taken as a target.** -/
theorem urlSet_accepts_path {target : String} (hne : target ≠ "") (h : runOn target = []) :
    RedirectCommand.urlSet.objection? target = none :=
  RedirectCommand.objection?_eq_none_iff.2 ⟨hne, .inr ⟨_, parse_path h, rfl⟩⟩

/-! ## The origin of a target -/

/-- The URL is one of the placeholder origin, without a port and without credentials. -/
structure KeepsOrigin (u : Url) : Prop where
  scheme : u.scheme = "https"
  host : u.host = some (.domain "fake.org")
  port : u.port = none
  username : u.username = ""
  password : u.password = none

/-- **A target that is no URL by itself keeps the origin just where it runs on from the host with
neither credentials nor a port.** The scheme and the host are always those of the origin; the
port may be written where it is the usual one or empty. -/
theorem urlSet_origin_iff {target : String}
    (haccepted : RedirectCommand.urlSet.objection? target = none)
    (hrelative : ∀ u, Url.parse target ≠ .ok u) :
    ∃ u, Url.parse (placeholderText ++ target) = .ok u ∧
      u.scheme = "https" ∧ u.host = some (.domain "fake.org") ∧
      (KeepsOrigin u ↔ '@' ∉ runOn target ∧ PortUnsaid (Url.behindHost (runOn target))) := by
  obtain ⟨-, ⟨u, hu⟩ | ⟨u, hu, hhost⟩⟩ := RedirectCommand.objection?_eq_none_iff.1 haccepted
  · exact absurd hu (hrelative u)
  · have hread := Url.parse_readsWeb
    have hscheme : u.scheme = "https" := hread.scheme (begins_placeholder target) hu
    refine ⟨u, hu, hscheme, hhost, fun hkeeps => ?_, fun ⟨hat, hport⟩ => ?_⟩
    · have hat : '@' ∉ runOn target := fun hat => username_ne_of_mem hread hu hat hkeeps.username
      exact ⟨hat, (port_of_not_mem hread hu hat).2.2.1 hkeeps.port⟩
    · obtain ⟨hname, hpassword, hiff⟩ := port_of_not_mem hread hu hat
      exact ⟨hscheme, hhost, hiff.2 hport, hname, hpassword⟩

theorem urlSet_origin_path :
    RedirectCommand.urlSet.objection? "/a?b" = none ∧
    ∃ u, Url.parse (placeholderText ++ "/a?b") = .ok u ∧ KeepsOrigin u := by
  have haccepted : RedirectCommand.urlSet.objection? "/a?b" = none :=
    urlSet_accepts_path (by decide) (by decide)
  have herror : Url.parse "/a?b" = .error .relativeWithoutBase := by rfl
  obtain ⟨u, hu, -, -, horigin⟩ := urlSet_origin_iff haccepted fun u hu => by
    cases herror.symm.trans hu
  exact ⟨haccepted, u, hu, horigin.2 ⟨by decide, .inl (by decide)⟩⟩

/-- A target may name a port. -/
theorem urlSet_origin_port :
    ¬ ∀ target, RedirectCommand.urlSet.objection? target = none →
      (∀ u, Url.parse target ≠ .ok u) →
      ∃ u, Url.parse (placeholderText ++ target) = .ok u ∧ KeepsOrigin u := by
  intro h
  have haccepted : RedirectCommand.urlSet.objection? ":8080/x" = none := by decide +kernel
  have herror : Url.parse ":8080/x" = .error .relativeWithoutBase := by rfl
  obtain ⟨u, hu, hkeeps⟩ := h ":8080/x" haccepted fun u hu => by cases herror.symm.trans hu
  have hport : (Url.parse (placeholderText ++ ":8080/x")).toOption.bind (·.port) = some 8080 := by
    decide +kernel
  rw [hu] at hport
  cases hkeeps.port.symm.trans hport

end IngressRouting.Redirect
