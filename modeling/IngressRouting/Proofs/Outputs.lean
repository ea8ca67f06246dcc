/-
Tables in the files of a directory. Settings are accepted when the two output paths differ as
texts. That keeps the tables apart exactly when the paths lead to different places: then each
table is read from its own path after a write that succeeds (`Outlet.Reaches.readable_iff`).
Where they lead to the same place, the redirect table takes the place of the route table.

A directory is a disk on which a path leads to the file that it names, and a path that names none
to nothing else (`Directory.write_disk`), so what is known of sessions on disks is known of it.
-/
import IngressRouting.Proofs.Files.Naming
import IngressRouting.Proofs.Publication
import IngressRouting.Proofs.RoundTrip

namespace IngressRouting

open Pathname (Entry file? file?_eq_some file?_inj Coincide SameFile)

/-! ## The tables are told apart -/

section Tables

open Json Json.Decoder

/-- A table of either kind. -/
inductive AnyTable
  | route (t : RouteTable)
  | redirect (t : RedirectTable)

namespace AnyTable

/-- Reads a table of either kind: a redirect table is one that has rules. -/
def record : Record Decoder (RouteTable.Draft × Option (List RedirectRow)) AnyTable where
  title := "a table"
  fields :=
    [.ofDecoder "basic" (·.1.basic) (fun x s => ({ s.1 with basic := some x }, s.2))
      (.listOf (.record BasicRow.record)),
     .ofDecoder "advanced" (·.1.advanced) (fun x s => ({ s.1 with advanced := some x }, s.2))
      (.listOf (.record AdvancedRow.record)),
     .ofDecoder "balance" (·.1.balance) (fun x s => ({ s.1 with balance := some x }, s.2))
      splitsDecoder,
     .ofDecoder "rules" (·.2) (fun x s => (s.1, some x)) (.listOf (.record RedirectRow.record))]
  blank := (RouteTable.record.blank, none)
  build
    | (s, none) => (RouteTable.record.build s).map .route
    | (_, some rows) => .ok (.redirect ⟨rows⟩)

theorem takes_route (e : Edition RouteTable) :
    Takes 3 (Decoder.record record) (e.toJson RouteTable.members) (.route e.table) := by
  obtain ⟨version, basic, advanced, balance⟩ := e
  have hversion := (takes_passValue version).mono (Nat.zero_le 2)
  have hbasic := takes_listOf BasicRow.takes basic
  have hadvanced := takes_listOf AdvancedRow.takes advanced
  rw [Edition.toJson, RouteTable.members]
  split
  · next hempty =>
    obtain rfl : balance = ∅ := Dict.ext (List.isEmpty_iff.1 hempty)
    exact (Fills.stranger rfl hversion <| .field rfl rfl hbasic <|
      .field rfl rfl hadvanced <| .nil _).record rfl
  · exact (Fills.stranger rfl hversion <| .field rfl rfl hbasic <|
      .field rfl rfl hadvanced <| .field rfl rfl (splits_take balance) <| .nil _).record rfl

theorem takes_redirect (e : Edition RedirectTable) :
    Takes 6 (Decoder.record record) (e.toJson RedirectTable.members) (.redirect e.table) := by
  have hversion := (takes_passValue e.version).mono (Nat.zero_le 5)
  have hrows := takes_listOf RedirectRow.takes e.table.rows
  exact (Fills.stranger rfl hversion <| .field rfl rfl hrows <| .nil _).record rfl

end AnyTable

/-- No text is that of a route table and of a redirect table. -/
theorem route_dump_ne_redirect_dump (pretty : Bool) (e : Edition RouteTable)
    (e' : Edition RedirectTable) : RouteTable.dump pretty e ≠ RedirectTable.dump pretty e' := by
  intro h
  have hroute := decode_dump_of_takes (AnyTable.takes_route e) (by decide) pretty
  have hredirect := decode_dump_of_takes (AnyTable.takes_redirect e') (by decide) pretty
  unfold RouteTable.dump RedirectTable.dump at h
  rw [h, hredirect] at hroute
  cases hroute

end Tables

/-! ## Directories as disks -/

namespace Directory

variable {d d' : Directory} {e : Entry} {path text : String} {bytes : ByteArray}

/-- The place that a path leads to. What names no file is a place of its own. -/
def place (path : String) : Entry ⊕ String :=
  match file? path with
  | some e => .inl e
  | none => .inr path

/-- What is in the file at each place. A path that names no file leads to a place without one. -/
def contents (d : Directory) : Entry ⊕ String → Option ByteArray
  | .inl e => d.get? e
  | .inr _ => none

theorem place_of_file (h : file? path = some e) : place path = .inl e := by
  unfold place
  rw [h]

theorem contents_put (d : Directory) (e : Entry) (bytes : ByteArray) :
    (d.put e bytes).contents = Function.update d.contents (.inl e) (some bytes) := by
  funext p
  cases p with
  | inl e' =>
    show (d.put e bytes).get? e' = _
    rw [get?_put, Function.update_apply]
    simp only [Sum.inl.injEq]
    rfl
  | inr path => rw [Function.update_of_ne Sum.inr_ne_inl]; rfl

theorem file_of_contents (h : d.contents (place path) = some bytes) :
    ∃ e, file? path = some e ∧ d.get? e = some bytes := by
  unfold place at h
  split at h
  · next e he => exact ⟨e, he, h⟩
  · cases h

/-- Places that paths share are those to which they both lead. -/
theorem place_ne {p q : String} (hne : p ≠ q) (h : ¬ Coincide p q) : place p ≠ place q := by
  unfold place
  cases hp : file? p with
  | none =>
    cases hq : file? q with
    | none => simpa using hne
    | some e' => exact Sum.inr_ne_inl
  | some e =>
    cases hq : file? q with
    | none => exact Sum.inl_ne_inr
    | some e' =>
      intro he
      exact h ((file?_inj hp hq).1 (Sum.inl.inj he))

/-- What befalls a write: one that fails leaves all as it was. -/
def fate (d : Directory) (path text : String) : Option Mishap :=
  match d.write path text with
  | .ok _ => none
  | .error e => some ⟨e, d.contents (place path)⟩

/-- **A directory is a disk** whose writes have their fates from the directory. -/
theorem write_disk (d : Directory) (path text : String) (fates : List (Option Mishap)) :
    (⟨d.contents, d.fate path text :: fates⟩ : Disk (Entry ⊕ String)).write place path text =
      match d.write path text with
      | .ok d' => (.ok (), ⟨d'.contents, fates⟩)
      | .error e => (.error e, ⟨d.contents, fates⟩) := by
  unfold Disk.write fate
  cases hwrite : d.write path text with
  | ok d' =>
    obtain ⟨e, he, rfl⟩ := write_eq_ok.1 hwrite
    simp only [List.head?_cons, Option.join_some, List.tail_cons]
    rw [contents_put, place_of_file he]
  | error e =>
    simp only [List.head?_cons, Option.join_some, List.tail_cons]
    rw [Function.update_eq_self]

/-- Writes files up to the first failure. -/
def writeAll (d : Directory) (fs : List TableFile) (w : Written) :
    Except WriteError Written × Directory :=
  (access.writeAll fs w).run d

theorem writeAll_cons (d : Directory) (f : TableFile) (fs : List TableFile) (w : Written) :
    d.writeAll (f :: fs) w =
      match d.write f.path f.text with
      | .ok d' => d'.writeAll fs (w.mark f)
      | .error e => (.error ⟨f.path, e⟩, d) := by
  rw [writeAll, FileAccess.writeAll, StateT.run_bind]
  have hrun : (access.write f.path f.text).run d =
      match d.write f.path f.text with
      | .ok d' => (.ok (), d')
      | .error e => (.error e, d) := by
    unfold access
    simp only [StateT.run_bind, StateT.run_get, pure_bind]
    cases d.write f.path f.text <;> rfl
  rw [hrun]
  cases d.write f.path f.text <;> rfl

/-- What befalls the writes of files, up to the first that fails. -/
def fates (d : Directory) : List TableFile → List (Option Mishap)
  | [] => []
  | f :: fs =>
    d.fate f.path f.text ::
      match d.write f.path f.text with
      | .ok d' => d'.fates fs
      | .error _ => []

/-- **So it is a disk for writes one after the other.** -/
theorem writeAll_disk (d : Directory) (fs : List TableFile) (w : Written) :
    (⟨d.contents, d.fates fs⟩ : Disk (Entry ⊕ String)).writeAll place fs w =
      ((d.writeAll fs w).1, ⟨(d.writeAll fs w).2.contents, []⟩) := by
  induction fs generalizing d w with
  | nil => rfl
  | cons f fs ih =>
    rw [Disk.writeAll_cons, writeAll_cons, fates, write_disk]
    cases hwrite : d.write f.path f.text with
    | ok d' => exact ih d' (w.mark f)
    | error e => rfl

theorem writeAll_isOk {fs : List TableFile} (h : ∀ f ∈ fs, (file? f.path).isSome)
    (d : Directory) (w : Written) : (d.writeAll fs w).1 = .ok (fs.foldl Written.mark w) := by
  induction fs generalizing d w with
  | nil => rfl
  | cons f fs ih =>
    obtain ⟨hf, hfs⟩ := List.forall_mem_cons.1 h
    obtain ⟨d', hd'⟩ := exists_write (d := d) hf f.text
    rw [writeAll_cons, hd']
    exact ih hfs d' (w.mark f)

theorem read_writeAll_last (fs : List TableFile) (f : TableFile) {d : Directory} {w w' : Written}
    (hok : (d.writeAll (fs ++ [f]) w).1 = .ok w') :
    (d.writeAll (fs ++ [f]) w).2.read f.path = .ok f.text := by
  induction fs generalizing d w with
  | nil =>
    rw [List.nil_append, writeAll_cons] at hok ⊢
    cases hwrite : d.write f.path f.text with
    | ok d' => exact read_of_write hwrite
    | error e =>
      rw [hwrite] at hok
      cases hok
  | cons b fs ih =>
    rw [List.cons_append, writeAll_cons] at hok ⊢
    cases hwrite : d.write b.path b.text with
    | ok d' =>
      rw [hwrite] at hok
      exact ih hok
    | error e =>
      rw [hwrite] at hok
      cases hok

end Directory

/-! ## Outlets -/

/-- A gateway that writes its tables to the files of a directory. -/
structure Outlet where
  gateway : Gateway
  written : Written
  directory : Directory

namespace Outlet

open Directory (place)

variable {enabled : Bool} {out : OutputSettings} {o : Outlet} {n : TableKind → Nat}

/-- Writes the tables that are due. What is marked stays as it was where a write fails. -/
def write (o : Outlet) (out : OutputSettings) : Except WriteError Written × Outlet :=
  let run := (o.gateway.writeTables Directory.access out o.written).run o.directory
  (run.1, { o with written := run.1.toOption.getD o.written, directory := run.2 })

/-- Every outlet that operations and writes lead to, from any directory, with how often each table
has changed since it was written last. Others may write any files but those of the tables. -/
inductive Reaches (enabled : Bool) (out : OutputSettings) : (TableKind → Nat) → Outlet → Prop
  | start (directory : Directory) :
    Reaches enabled out (fun _ => 0) ⟨.empty enabled, {}, directory⟩
  | perform {n : TableKind → Nat} {o : Outlet} (h : Reaches enabled out n o) (op : Operation) :
    Reaches enabled out (fun kind => n kind + o.gateway.changes kind (op.events o.gateway))
      { o with gateway := (o.gateway.perform op).state }
  | write {n : TableKind → Nat} {o : Outlet} (h : Reaches enabled out n o) :
    Reaches enabled out (o.written.pending o.gateway (o.write out).1 n) (o.write out).2
  | others {n : TableKind → Nat} {o : Outlet} (h : Reaches enabled out n o) (directory : Directory)
      (same : ∀ path ∈ [out.routePath, out.redirectPath], ∀ e, file? path = some e →
        directory.get? e = o.directory.get? e) :
    Reaches enabled out n { o with directory := directory }

/-- The outlet as a session on a disk. -/
def session (o : Outlet) : Session (Entry ⊕ String) := ⟨o.gateway, o.written, o.directory.contents⟩

/-- What befalls the next write of the tables. -/
def fates (o : Outlet) (out : OutputSettings) : List (Option Mishap) :=
  o.directory.fates (o.written.due (o.gateway.tableFiles out))

theorem session_write (o : Outlet) (out : OutputSettings) :
    o.session.write place out (o.fates out) = ((o.write out).1, (o.write out).2.session) := by
  have hdisk := o.directory.writeAll_disk (o.written.due (o.gateway.tableFiles out)) o.written
  unfold Session.write Outlet.write
  have hrun : (o.session.gateway.writeTables (Disk.access place) out o.session.written).run
      ⟨o.session.files, o.fates out⟩ = _ := hdisk
  rw [hrun]
  rfl

theorem Reaches.session (h : o.Reaches enabled out n) : o.session.Reaches enabled place out n := by
  induction h with
  | start directory => exact .start directory.contents
  | perform _ op ih => exact ih.perform op
  | @write n o _ ih =>
    have hwrite := ih.write (o.fates out)
    rw [session_write] at hwrite
    exact hwrite
  | @others n o _ directory same ih =>
    have hplace (path : String) (hpath : path ∈ [out.routePath, out.redirectPath]) :
        directory.contents (place path) = o.directory.contents (place path) := by
      unfold Directory.place
      split
      · next e he => exact same path hpath e he
      · rfl
    exact ih.others directory.contents (hplace _ (by simp)) fun _ => hplace _ (by simp)

/-- Each table is read from its own path. -/
structure Readable (o : Outlet) (out : OutputSettings) : Prop where
  route : o.directory.read out.routePath =
    .ok (RouteTable.dump out.pretty o.gateway.routeEdition)
  redirect : o.directory.read out.redirectPath =
    .ok (RedirectTable.dump out.pretty o.gateway.redirectEdition)

/-- One file never holds both tables. -/
theorem Readable.not_coincide (h : o.Readable out) : ¬ Coincide out.routePath out.redirectPath :=
  fun hsame => by
    have hroute := Directory.isSome_of_read h.route
    have hsame := Directory.read_of_coincide hsame hroute h.redirect
    exact route_dump_ne_redirect_dump _ _ _ (Except.ok.inj (h.route.symm.trans hsame))

theorem read_of_contents {d : Directory} {path text : String}
    (h : d.contents (place path) = some text.toUTF8) : d.read path = .ok text := by
  obtain ⟨e, he, hbytes⟩ := Directory.file_of_contents h
  exact Directory.read_eq_ok.2 ⟨e, _, he, hbytes, decodeText_toUTF8 text⟩

theorem Reaches.readable (h : o.Reaches true out n) (hne : out.routePath ≠ out.redirectPath)
    (hapart : ¬ Coincide out.routePath out.redirectPath)
    (hversions : ∀ kind, n kind < Edition.versions) {w : Written}
    (hok : (o.write out).1 = .ok w) : (o.write out).2.Readable out := by
  have hplaces : place out.routePath ≠ place out.redirectPath := Directory.place_ne hne hapart
  have hnodup := Gateway.tableFiles_places (g := o.gateway) fun _ => hplaces
  have hcurrent := h.session.current fun _ => hplaces
  have henabled : o.gateway.redirectEnabled = true := h.session.reachable.registered.enabled
  have hrun : (o.session.write place out (o.fates out)).1 = .ok w := by
    rw [session_write]
    exact hok
  have hfiles {f : TableFile} (hf : f ∈ o.gateway.tableFiles out) :
      (o.write out).2.directory.read f.path = .ok f.text := by
    have hheld := hcurrent.files_of_ok hnodup hversions hrun hf
    rw [session_write] at hheld
    exact read_of_contents hheld
  exact ⟨hfiles List.mem_cons_self, hfiles (Gateway.redirect_mem_tableFiles henabled)⟩

/-! ### Writing -/

theorem write_isOk (hroute : (file? out.routePath).isSome)
    (hredirect : (file? out.redirectPath).isSome) (o : Outlet) :
    (o.write out).1 =
      .ok ((o.written.due (o.gateway.tableFiles out)).foldl Written.mark o.written) := by
  refine Directory.writeAll_isOk (fun f hf => ?_) o.directory o.written
  obtain ⟨hf, -⟩ := (Written.mem_due o.written).1 hf
  rcases Gateway.path_of_mem_tableFiles hf with hpath | ⟨-, hpath⟩
  · rw [hpath]
    exact hroute
  · rw [hpath]
    exact hredirect

/-- **How the route table is lost.** A redirect table that is due comes last, and is read from the
path of the route table too. -/
theorem route_overwritten (hcoincide : Coincide out.routePath out.redirectPath)
    (hroute : (file? out.routePath).isSome) (henabled : o.gateway.redirectEnabled = true)
    (hdue : o.written.redirect ≠ some o.gateway.redirectEdition.version) {w : Written}
    (hok : (o.write out).1 = .ok w) : (o.write out).2.directory.read out.routePath =
      .ok (RedirectTable.dump out.pretty o.gateway.redirectEdition) := by
  let route : TableFile := ⟨.route, out.routePath, o.gateway.routeEdition.version,
    RouteTable.dump out.pretty o.gateway.routeEdition⟩
  let redirect : TableFile := ⟨.redirect, out.redirectPath, o.gateway.redirectEdition.version,
    RedirectTable.dump out.pretty o.gateway.redirectEdition⟩
  have hlast : o.written.due (o.gateway.tableFiles out) = o.written.due [route] ++ [redirect] := by
    have hfiles : o.gateway.tableFiles out = [route] ++ [redirect] := by
      unfold Gateway.tableFiles
      rw [if_pos henabled]
      rfl
    have hredirect : o.written.due [redirect] = [redirect] :=
      List.filter_eq_self.2 fun f hf => by
        obtain rfl := List.mem_singleton.1 hf
        exact decide_eq_true hdue
    rw [hfiles, Written.due, List.filter_append]
    exact congrArg _ hredirect
  have hrun : (o.write out).1 = (o.directory.writeAll (o.written.due [route] ++ [redirect])
      o.written).1 := congrArg (fun fs => (o.directory.writeAll fs o.written).1) hlast
  have hread := Directory.read_writeAll_last _ redirect (hrun.symm.trans hok)
  rw [← hlast] at hread
  exact Directory.read_of_coincide hcoincide hroute hread

/-! ### Accepted settings -/

theorem hasKnownLevel_default : ({} : LogSettings).hasKnownLevel = true := by
  have hlower : String.map Char.toLower "info" = "info" := by
    rw [← String.toList_inj, String.toList_map]
    decide
  unfold LogSettings.hasKnownLevel
  rw [hlower]
  decide

theorem output_paths_ne {s : Settings} (haccepted : s.problems = [])
    (henabled : s.modules.redirectEnabled = true) : s.output.routePath ≠ s.output.redirectPath := by
  intro hsame
  unfold Settings.problems at haccepted
  simp only [List.append_eq_nil_iff] at haccepted
  obtain ⟨⟨-, hredirect⟩, -⟩ := haccepted
  unfold Settings.redirectProblems at hredirect
  rw [henabled, hsame] at hredirect
  split_ifs at hredirect <;> simp_all

/-- **When accepted settings keep the tables apart.** The output paths differ as texts. After
every run of operations and writes, a write that succeeds leaves each table readable from its own
path exactly when the paths lead to different places. Paths through the same components do not,
and for two paths in normal form the texts tell. That a table is readable at all takes that its
versions have not come round since it was written last. -/
theorem Reaches.readable_iff {s : Settings} (haccepted : s.problems = [])
    (henabled : s.modules.redirectEnabled = true)
    (h : o.Reaches s.modules.redirectEnabled s.output n) {w : Written}
    (hok : (o.write s.output).1 = .ok w) :
    s.output.routePath ≠ s.output.redirectPath ∧
      (Coincide s.output.routePath s.output.redirectPath →
        ¬ (o.write s.output).2.Readable s.output) ∧
      (SameFile s.output.routePath s.output.redirectPath →
        ¬ (o.write s.output).2.Readable s.output) ∧
      ((∀ kind, n kind < Edition.versions) →
        ((o.write s.output).2.Readable s.output ↔
          ¬ Coincide s.output.routePath s.output.redirectPath) ∧
        (Pathname.normalForm s.output.routePath = s.output.routePath →
          Pathname.normalForm s.output.redirectPath = s.output.redirectPath →
          (o.write s.output).2.Readable s.output)) := by
  have hne := output_paths_ne haccepted henabled
  rw [henabled] at h
  refine ⟨hne, fun hsame hreadable => hreadable.not_coincide hsame,
    fun hsame hreadable => hreadable.not_coincide hsame.coincide, fun hversions => ⟨⟨?_, ?_⟩, ?_⟩⟩
  · exact Readable.not_coincide
  · exact fun hapart => h.readable hne hapart hversions hok
  · intro hroute hredirect
    refine h.readable hne (fun hcoincide => ?_) hversions hok
    exact hne (hcoincide.eq_of_normal hroute hredirect)

/-- The default settings are accepted, and keep the tables apart. -/
theorem readable_iff_default :
    let s : Settings := {}
    let g := ((Gateway.empty true).perform (.upsert (Gateway.plainObject "a" 1))).state
    let o : Outlet := ⟨g, {}, .empty⟩
    s.problems = [] ∧ (∃ w, (o.write s.output).1 = .ok w) ∧
      (∃ n, o.Reaches true s.output n ∧ ∀ kind, n kind < Edition.versions) ∧
      (o.write s.output).2.Readable s.output := by
  intro s g o
  have haccepted : s.problems = [] := by
    unfold Settings.problems
    rw [hasKnownLevel_default]
    decide
  have hroute : (file? s.output.routePath).isSome := by decide
  have hredirect : (file? s.output.redirectPath).isSome := by decide
  have hok := write_isOk hroute hredirect o
  obtain ⟨n, hreaches, hversions⟩ :
      ∃ n, o.Reaches true s.output n ∧ ∀ kind, n kind < Edition.versions :=
    ⟨_, (Reaches.start .empty).perform (.upsert (Gateway.plainObject "a" 1)),
      fun kind => by cases kind <;> decide +kernel⟩
  have hreadable := (hreaches.readable_iff haccepted rfl hok).2.2.2 hversions
  exact ⟨haccepted, ⟨_, hok⟩, ⟨n, hreaches, hversions⟩, hreadable.2 (by decide) (by decide)⟩

/-- A second spelling of the path is accepted, and the route table is lost. -/
theorem readable_dotted :
    let s : Settings := { output := { routePath := "out.json", redirectPath := "./out.json" } }
    let o : Outlet := ⟨.empty true, {}, .empty⟩
    s.problems = [] ∧ s.modules.redirectEnabled = true ∧
      SameFile s.output.routePath s.output.redirectPath ∧ o.Reaches true s.output (fun _ => 0) ∧
      (∃ w, (o.write s.output).1 = .ok w) ∧ ¬ (o.write s.output).2.Readable s.output ∧
      (o.write s.output).2.directory.read "out.json" =
        .ok (RedirectTable.dump true o.gateway.redirectEdition) := by
  intro s o
  have haccepted : s.problems = [] := by
    unfold Settings.problems
    rw [hasKnownLevel_default]
    decide
  have hsame : SameFile s.output.routePath s.output.redirectPath := by decide
  have hroute : (file? s.output.routePath).isSome := by decide
  have hredirect : (file? s.output.redirectPath).isSome := by decide
  have hok := write_isOk hroute hredirect o
  have hlost := route_overwritten hsame.coincide hroute rfl (by decide) hok
  exact ⟨haccepted, rfl, hsame, .start .empty, ⟨_, hok⟩,
    fun hreadable => hreadable.not_coincide hsame.coincide, hlost⟩

end Outlet

end IngressRouting
