/-
The files follow the published tables, whatever befalls the writes: after a call that
succeeds, each file holds the table that is published then, with its version
(`Session.Reaches.files_follow`).

A write that fails may leave anything in its file, and the call that it belongs to may have
written the other file before. What is kept is that a mark tells how often its table has changed
since, as far as a word goes, and that a table which has not changed is in its file
(`Session.Current`). A table is not written where the mark is of the version that is published,
and versions come back (`Session.Current.unwritten_of_round`), so a table must not change as often
as there are versions (`Edition.versions`) before it is written again. An event changes a table
once at most (`Gateway.changes_le_length`).

The files are taken by their places. Paths that differ may lead to one place, and then the route
table is lost (`Session.files_follow_dotted`).
-/
import IngressRouting.Proofs.Files.Naming
import IngressRouting.Proofs.Gateway.Operations
import IngressRouting.Proofs.Gateway.Redelivery
import IngressRouting.Publication

namespace IngressRouting

/-! ## Changes of the tables -/

namespace Gateway

variable {enabled : Bool} {g g' g'' : Gateway} {m n : TableKind → Nat}

/-- The version of a published table. -/
def version (g : Gateway) : TableKind → UInt64
  | .route => g.routeEdition.version
  | .redirect => g.redirectEdition.version

/-- How often events change a published table. -/
def changes (g : Gateway) (kind : TableKind) : List Event → Nat
  | [] => 0
  | e :: es =>
    let g' := (g.applyEvent e).state
    (if g'.version kind = g.version kind then 0 else 1) + g'.changes kind es

theorem changes_le_length (g : Gateway) (kind : TableKind) (events : List Event) :
    g.changes kind events ≤ events.length := by
  induction events generalizing g with
  | nil => exact Nat.le_refl 0
  | cons e es ih =>
    have hrest := ih (g.applyEvent e).state
    rw [changes, List.length_cons]
    split <;> omega

/-- So many changes of each table lead from one gateway to another. -/
structure After (g : Gateway) (n : TableKind → Nat) (g' : Gateway) : Prop where
  route : g.routeEdition.After (n .route) g'.routeEdition
  redirect : g.redirectEdition.After (n .redirect) g'.redirectEdition

theorem After.refl (g : Gateway) : g.After (fun _ => 0) g := ⟨.refl _, .refl _⟩

theorem After.trans (h : g.After m g') (h' : g'.After n g'') :
    g.After (fun kind => m kind + n kind) g'' :=
  ⟨h.route.trans h'.route, h.redirect.trans h'.redirect⟩

/-- Each event publishes each table at most once. -/
theorem Settled.applyEvent_editions (h : g.Settled) (e : Event) :
    let g' := (g.applyEvent e).state
    g'.routeEdition = g.routeEdition.publish g'.routeEdition.table ∧
      g'.redirectEdition = g.redirectEdition.publish g'.redirectEdition.table := by
  cases e with
  | upsert o => exact h.upsert_editions o
  | delete namespaceName name =>
    obtain ⟨_, ⟨table, t⟩, _, hstate⟩ := delete_cases h.sound namespaceName name
    simp only [Gateway.applyEvent, hstate]
    refine ⟨(Edition.publish_table table).symm, ?_⟩
    cases t with
    | none => exact Edition.publish_self.symm
    | some t => exact (Edition.publish_table t).symm

theorem Settled.applyEvent_after (h : g.Settled) (e : Event) :
    let g' := (g.applyEvent e).state
    g.After (fun kind => if g'.version kind = g.version kind then 0 else 1) g' := by
  intro g'
  obtain ⟨hroute, hredirect⟩ := h.applyEvent_editions e
  have haroute := g.routeEdition.after_publish g'.routeEdition.table
  have haredirect := g.redirectEdition.after_publish g'.redirectEdition.table
  rw [← hroute] at haroute
  rw [← hredirect] at haredirect
  exact ⟨haroute, haredirect⟩

theorem Settled.apply_after (h : g.Settled) (events : List Event) :
    g.After (fun kind => g.changes kind events) (g.apply events).state := by
  induction events generalizing g with
  | nil => exact .refl g
  | cons e es ih =>
    have hnext : (g.applyEvent e).state.Settled := by
      cases e with
      | upsert o => exact h.upsert o
      | delete namespaceName name => exact h.delete namespaceName name
    exact (h.applyEvent_after e).trans (ih hnext)

/-- **Operations change the tables as often as their events do.** -/
theorem Settled.perform_after (h : g.Settled) (op : Operation) :
    g.After (fun kind => g.changes kind (op.events g)) (g.perform op).state := by
  rw [(g.perform_eq_apply op).1]
  exact h.apply_after (op.events g)

end Gateway

/-! ## Disks on which writes fail -/

/-- How a write fails: the error, and what is in the file then, if there still is one. -/
structure Mishap where
  error : FileError
  left : Option ByteArray

/-- What is in the file at each place, and what befalls the writes to come, in turn. Where
nothing is said, a write succeeds. -/
structure Disk (Place : Type) where
  files : Place → Option ByteArray
  fates : List (Option Mishap)

namespace Disk

variable {Place : Type} [DecidableEq Place] {locate : String → Place} {d : Disk Place}
  {f : TableFile} {fs : List TableFile} {w w' : Written}

/-- A write touches the file at the place of its path, and no other. -/
def write (locate : String → Place) (d : Disk Place) (path text : String) :
    Except FileError Unit × Disk Place :=
  match d.fates.head?.join with
  | some m => (.error m.error, ⟨Function.update d.files (locate path) m.left, d.fates.tail⟩)
  | none => (.ok (), ⟨Function.update d.files (locate path) (some text.toUTF8), d.fates.tail⟩)

/-- Access to a disk by paths, each of which names a place. -/
def access (locate : String → Place) : FileAccess (StateM (Disk Place)) where
  read path := do
    match (← get).files (locate path) with
    | none => return .error .notFound
    | some bytes => return decodeText bytes
  write path text := fun d => d.write locate path text

/-- Writes files up to the first failure. -/
def writeAll (locate : String → Place) (d : Disk Place) (fs : List TableFile) (w : Written) :
    Except WriteError Written × Disk Place :=
  ((access locate).writeAll fs w).run d

theorem writeAll_cons : d.writeAll locate (f :: fs) w =
    match d.write locate f.path f.text with
    | (.ok (), d') => d'.writeAll locate fs (w.mark f)
    | (.error e, d') => (.error ⟨f.path, e⟩, d') := by
  rw [writeAll, FileAccess.writeAll, StateT.run_bind]
  have hrun : ((access locate).write f.path f.text).run d = d.write locate f.path f.text := rfl
  rw [hrun]
  rcases d.write locate f.path f.text with ⟨_ | _, d'⟩ <;> rfl

theorem files_write {path text : String} {p : Place} (hp : locate path ≠ p) :
    (d.write locate path text).2.files p = d.files p := by
  rw [write]
  split <;> exact Function.update_of_ne hp.symm _ _

theorem files_write_self {path text : String} (h : (d.write locate path text).1 = .ok ()) :
    (d.write locate path text).2.files (locate path) = some text.toUTF8 := by
  rw [write] at h ⊢
  split at h
  · cases h
  · exact Function.update_self _ _ _

theorem files_writeAll {p : Place} (hp : ∀ f ∈ fs, locate f.path ≠ p) :
    (d.writeAll locate fs w).2.files p = d.files p := by
  induction fs generalizing d w with
  | nil => rfl
  | cons f fs ih =>
    obtain ⟨hf, hfs⟩ := List.forall_mem_cons.1 hp
    rw [writeAll_cons]
    have hwrite : (d.write locate f.path f.text).2.files p = d.files p := files_write hf
    split
    · next d' hd =>
      rw [hd] at hwrite
      exact (ih hfs).trans hwrite
    · next e d' hd =>
      rw [hd] at hwrite
      exact hwrite

/-- **Files that have all been written**, at places of their own, are marked and hold their
texts. -/
theorem writeAll_ok (h : (d.writeAll locate fs w).1 = .ok w')
    (hfs : (fs.map fun f => locate f.path).Nodup) :
    w' = fs.foldl Written.mark w ∧
      ∀ f ∈ fs, (d.writeAll locate fs w).2.files (locate f.path) = some f.text.toUTF8 := by
  induction fs generalizing d w with
  | nil => exact ⟨(Except.ok.inj h).symm, by simp⟩
  | cons f fs ih =>
    obtain ⟨hf, hrest⟩ := List.nodup_cons.1 hfs
    rw [writeAll_cons] at h ⊢
    split at h
    · next d' hd =>
      obtain ⟨hw, htexts⟩ := ih h hrest
      refine ⟨hw, List.forall_mem_cons.2 ⟨?_, htexts⟩⟩
      have hself : d'.files (locate f.path) = some f.text.toUTF8 := by
        have hwrite := files_write_self (congrArg Prod.fst hd)
        rwa [hd] at hwrite
      exact (files_writeAll fun b hb he => hf (List.mem_map.2 ⟨b, hb, he⟩)).trans hself
    · cases h

theorem writeAll_isOk (h : ∀ fate ∈ d.fates, fate = none) :
    (d.writeAll locate fs w).1 = .ok (fs.foldl Written.mark w) := by
  induction fs generalizing d w with
  | nil => rfl
  | cons f fs ih =>
    have hfate : d.fates.head?.join = none := by
      cases hd : d.fates with
      | nil => rfl
      | cons fate fates => simpa [hd] using h fate (by simp [hd])
    rw [writeAll_cons, write, hfate]
    exact ih fun fate hm => h fate (List.mem_of_mem_tail hm)

end Disk

/-! ## Marks -/

namespace Written

theorem version?_mark (w : Written) (f : TableFile) (kind : TableKind) :
    (w.mark f).version? kind = if f.kind = kind then some f.version else w.version? kind := by
  rw [mark]
  cases hf : f.kind <;> cases kind <;> rfl

theorem version?_marks {fs : List TableFile} {kind : TableKind} (h : ∀ f ∈ fs, f.kind ≠ kind)
    (w : Written) : (fs.foldl mark w).version? kind = w.version? kind := by
  induction fs generalizing w with
  | nil => rfl
  | cons f fs ih =>
    obtain ⟨hf, hfs⟩ := List.forall_mem_cons.1 h
    rw [List.foldl_cons, ih hfs, version?_mark, if_neg hf]

theorem version?_marks_of_mem {fs : List TableFile} (hfs : (fs.map TableFile.kind).Nodup)
    {f : TableFile} (hf : f ∈ fs) (w : Written) :
    (fs.foldl mark w).version? f.kind = some f.version := by
  induction fs generalizing w with
  | nil => cases hf
  | cons a fs ih =>
    obtain ⟨ha, hrest⟩ := List.nodup_cons.1 hfs
    rcases List.mem_cons.1 hf with rfl | hf
    · have hothers : ∀ b ∈ fs, b.kind ≠ f.kind := fun b hb he => ha (List.mem_map.2 ⟨b, hb, he⟩)
      rw [List.foldl_cons, version?_marks hothers, version?_mark, if_pos rfl]
    · exact ih hrest hf _

/-- How often each table has changed since it was written last, after a call with this result: a
call that succeeds has written the tables that were due. -/
def pending (w : Written) (g : Gateway) (result : Except WriteError Written)
    (n : TableKind → Nat) : TableKind → Nat := fun kind =>
  if result.isOk ∧ w.version? kind ≠ some (g.version kind) then 0 else n kind

theorem mem_due {fs : List TableFile} {f : TableFile} (w : Written) :
    f ∈ w.due fs ↔ f ∈ fs ∧ w.version? f.kind ≠ some f.version := by
  simp [due]

end Written

/-! ## Sessions -/

/-- A gateway at work: what is published, what is marked as written, and the files. -/
structure Session (Place : Type) where
  gateway : Gateway
  written : Written
  files : Place → Option ByteArray

/-! ### The files of the tables -/

section TableFiles

variable {Place : Type} {locate : String → Place} {out : OutputSettings} {g g' : Gateway}
  {s : Session Place} {m n : TableKind → Nat}

theorem Gateway.tableFiles_kinds (g : Gateway) (out : OutputSettings) :
    ((g.tableFiles out).map TableFile.kind).Nodup := by
  rw [tableFiles]
  split <;> simp

theorem Gateway.tableFiles_places
    (h : g.redirectEnabled = true → locate out.routePath ≠ locate out.redirectPath) :
    ((g.tableFiles out).map fun f => locate f.path).Nodup := by
  rw [tableFiles]
  split
  · next he => simpa using h he
  · simp

theorem Gateway.redirect_mem_tableFiles (h : g.redirectEnabled = true) :
    ⟨.redirect, out.redirectPath, g.redirectEdition.version, RedirectTable.dump out.pretty
      g.redirectEdition⟩ ∈ g.tableFiles out := by
  rw [tableFiles, if_pos h]
  exact List.mem_cons_of_mem _ List.mem_cons_self

theorem Gateway.path_of_mem_tableFiles {f : TableFile} (hf : f ∈ g.tableFiles out) :
    f.path = out.routePath ∨ g.redirectEnabled = true ∧ f.path = out.redirectPath := by
  rw [tableFiles] at hf
  rcases List.mem_cons.1 hf with rfl | hf
  · exact .inl rfl
  · split at hf
    · next he =>
      obtain rfl := List.mem_singleton.1 hf
      exact .inr ⟨he, rfl⟩
    · cases hf

theorem Gateway.version_of_mem_tableFiles {f : TableFile} (hf : f ∈ g.tableFiles out) :
    f.version = g.version f.kind := by
  rw [tableFiles] at hf
  rcases List.mem_cons.1 hf with rfl | hf
  · rfl
  · split at hf
    · obtain rfl := List.mem_singleton.1 hf
      rfl
    · cases hf

/-- A table that is published later has a version that counts the changes, and is the one before
where there were none. -/
theorem Gateway.After.tableFiles (h : g.After n g') (he : g'.redirectEnabled = g.redirectEnabled)
    {f' : TableFile} (hf : f' ∈ g'.tableFiles out) :
    ∃ f ∈ g.tableFiles out, f.kind = f'.kind ∧ f'.version = f.version + UInt64.ofNat (n f'.kind) ∧
      (n f'.kind = 0 → f' = f) := by
  rw [Gateway.tableFiles, he] at hf
  rw [Gateway.tableFiles]
  rcases List.mem_cons.1 hf with rfl | hf
  · refine ⟨_, List.mem_cons_self, rfl, h.route.version, fun hn => ?_⟩
    have hroute := h.route
    rw [hn] at hroute
    rw [hroute.eq_of_zero]
  · split at hf
    · next hredirect =>
      obtain rfl := List.mem_singleton.1 hf
      rw [if_pos hredirect]
      refine ⟨_, List.mem_cons_of_mem _ List.mem_cons_self, rfl, h.redirect.version, fun hn => ?_⟩
      have hlater := h.redirect
      rw [hn] at hlater
      rw [hlater.eq_of_zero]
    · cases hf

/-- Every published table is in its file, with its version. -/
structure Session.Holds (s : Session Place) (locate : String → Place) (out : OutputSettings) :
    Prop where
  route : s.files (locate out.routePath) =
    some (RouteTable.dump out.pretty s.gateway.routeEdition).toUTF8
  redirect : s.gateway.redirectEnabled = true → s.files (locate out.redirectPath) =
    some (RedirectTable.dump out.pretty s.gateway.redirectEdition).toUTF8

/-- A mark tells how often its table has changed since it was written last, and a table that has
not changed is in its file. -/
def Session.Current (s : Session Place) (locate : String → Place) (out : OutputSettings)
    (n : TableKind → Nat) : Prop :=
  ∀ f ∈ s.gateway.tableFiles out, ∀ v, s.written.version? f.kind = some v →
    f.version = v + UInt64.ofNat (n f.kind) ∧
      (n f.kind = 0 → s.files (locate f.path) = some f.text.toUTF8)

theorem Session.Current.perform (h : s.Current locate out m) {g' : Gateway}
    (ha : s.gateway.After n g') (he : g'.redirectEnabled = s.gateway.redirectEnabled) :
    ({ s with gateway := g' } : Session Place).Current locate out fun kind => m kind + n kind := by
  intro f' hf' v hv
  obtain ⟨f, hf, hkind, hversion, hsame⟩ := ha.tableFiles he hf'
  rw [← hkind] at hv hversion hsame ⊢
  obtain ⟨hcount, hfile⟩ := h f hf v hv
  refine ⟨?_, fun hnone => ?_⟩
  · rw [hversion, hcount, UInt64.add_assoc, UInt64.ofNat_add]
  · obtain ⟨hm, hn⟩ := Nat.add_eq_zero_iff.1 hnone
    rw [hsame hn]
    exact hfile hm

end TableFiles

/-! ### What calls leave -/

section Session

variable {Place : Type} [DecidableEq Place] {enabled : Bool} {locate : String → Place}
  {out : OutputSettings} {s : Session Place} {w : Written} {n : TableKind → Nat}

/-- Writes the tables that are due, with these fates. What is marked stays as it was where a
write fails. -/
def Session.write (s : Session Place) (locate : String → Place) (out : OutputSettings)
    (fates : List (Option Mishap)) : Except WriteError Written × Session Place :=
  let run := (s.gateway.writeTables (Disk.access locate) out s.written).run ⟨s.files, fates⟩
  (run.1, { s with written := run.1.toOption.getD s.written, files := run.2.files })

/-- Every session that operations and writes lead to, whatever befalls the writes, with how often
each table has changed since it was written last. Others may write any files but those of the
tables. -/
inductive Session.Reaches (enabled : Bool) (locate : String → Place) (out : OutputSettings) :
    (TableKind → Nat) → Session Place → Prop
  | start (files : Place → Option ByteArray) :
    Reaches enabled locate out (fun _ => 0) ⟨.empty enabled, {}, files⟩
  | perform {n : TableKind → Nat} {s : Session Place} (h : Reaches enabled locate out n s)
      (op : Operation) :
    Reaches enabled locate out (fun kind => n kind + s.gateway.changes kind (op.events s.gateway))
      { s with gateway := (s.gateway.perform op).state }
  | write {n : TableKind → Nat} {s : Session Place} (h : Reaches enabled locate out n s)
      (fates : List (Option Mishap)) :
    Reaches enabled locate out (s.written.pending s.gateway (s.write locate out fates).1 n)
      (s.write locate out fates).2
  | others {n : TableKind → Nat} {s : Session Place} (h : Reaches enabled locate out n s)
      (files : Place → Option ByteArray)
      (route : files (locate out.routePath) = s.files (locate out.routePath))
      (redirect : enabled = true →
        files (locate out.redirectPath) = s.files (locate out.redirectPath)) :
    Reaches enabled locate out n { s with files := files }

theorem Session.written_of_error {fates : List (Option Mishap)} {e : WriteError}
    (he : (s.write locate out fates).1 = .error e) :
    (s.write locate out fates).2.written = s.written := by
  rw [Session.write] at he ⊢
  exact congrArg (fun x => x.toOption.getD s.written) he

theorem Session.files_write (hplaces : ((s.gateway.tableFiles out).map fun f => locate f.path).Nodup)
    (fates : List (Option Mishap)) {f : TableFile} (hf : f ∈ s.gateway.tableFiles out)
    (hdue : s.written.version? f.kind = some f.version) :
    (s.write locate out fates).2.files (locate f.path) = s.files (locate f.path) := by
  refine Disk.files_writeAll fun b hb he => ?_
  obtain ⟨hb, hne⟩ := (Written.mem_due s.written).1 hb
  obtain rfl := List.inj_on_of_nodup_map hplaces hb hf he
  exact hne hdue

/-- A call that succeeds leaves every table marked, and those that were due in their files. -/
theorem Session.write_ok (hplaces : ((s.gateway.tableFiles out).map fun f => locate f.path).Nodup)
    {fates : List (Option Mishap)} (hok : (s.write locate out fates).1 = .ok w) {f : TableFile}
    (hf : f ∈ s.gateway.tableFiles out) :
    (s.write locate out fates).2.written.version? f.kind = some f.version ∧
      (s.written.version? f.kind ≠ some f.version →
        (s.write locate out fates).2.files (locate f.path) = some f.text.toUTF8) := by
  have hsub : (s.written.due (s.gateway.tableFiles out)).Sublist (s.gateway.tableFiles out) :=
    List.filter_sublist
  obtain ⟨hw, htexts⟩ := Disk.writeAll_ok (w := s.written) hok (hplaces.sublist (hsub.map _))
  have hkinds := s.gateway.tableFiles_kinds out
  have hwritten : (s.write locate out fates).2.written = w := by
    rw [Session.write] at hok ⊢
    exact congrArg (fun x => x.toOption.getD s.written) hok
  rw [hwritten, hw]
  by_cases hdue : s.written.version? f.kind = some f.version
  · refine ⟨?_, fun hne => absurd hdue hne⟩
    rw [Written.version?_marks fun b hb he => ?_, hdue]
    obtain ⟨hb, hne⟩ := (Written.mem_due s.written).1 hb
    obtain rfl := List.inj_on_of_nodup_map hkinds hb hf he
    exact hne hdue
  · have hmem := (Written.mem_due s.written).2 ⟨hf, hdue⟩
    exact ⟨Written.version?_marks_of_mem (hkinds.sublist (hsub.map _)) hmem s.written,
      fun _ => htexts f hmem⟩

theorem Session.Current.write (h : s.Current locate out n)
    (hplaces : ((s.gateway.tableFiles out).map fun f => locate f.path).Nodup)
    (fates : List (Option Mishap)) : (s.write locate out fates).2.Current locate out
      (s.written.pending s.gateway (s.write locate out fates).1 n) := by
  intro f hf v hv
  have hf : f ∈ s.gateway.tableFiles out := hf
  rw [Written.pending, ← Gateway.version_of_mem_tableFiles hf]
  by_cases hdue : s.written.version? f.kind = some f.version
  · -- the file is left alone, and the mark is the one before
    rw [if_neg fun hwritten => hwritten.2 hdue, Session.files_write hplaces fates hf hdue]
    refine h f hf v ?_
    cases hrun : (s.write locate out fates).1 with
    | ok w => rw [hdue, ← hv, (Session.write_ok hplaces hrun hf).1]
    | error e => rw [← hv, Session.written_of_error hrun]
  · cases hrun : (s.write locate out fates).1 with
    | ok w =>
      obtain ⟨hmark, hfile⟩ := Session.write_ok hplaces hrun hf
      obtain rfl : f.version = v := Option.some.inj (hmark.symm.trans hv)
      rw [if_pos ⟨rfl, hdue⟩]
      exact ⟨(UInt64.add_zero _).symm, fun _ => hfile hdue⟩
    | error e =>
      -- nothing is marked; the file may have been spoilt, and its table has changed
      rw [if_neg fun hwritten => nomatch hwritten.1]
      rw [Session.written_of_error hrun] at hv
      obtain ⟨hcount, -⟩ := h f hf v hv
      refine ⟨hcount, fun hnone => absurd ?_ hdue⟩
      rw [hv, hcount, hnone]
      exact congrArg some (UInt64.add_zero v).symm

/-- **A call that succeeds leaves every table in its file**, if none has changed as often as there
are versions since it was written last. -/
theorem Session.Current.files_of_ok (h : s.Current locate out n)
    (hplaces : ((s.gateway.tableFiles out).map fun f => locate f.path).Nodup)
    (hversions : ∀ kind, n kind < Edition.versions) {fates : List (Option Mishap)}
    (hok : (s.write locate out fates).1 = .ok w) {f : TableFile} (hf : f ∈ s.gateway.tableFiles out) :
    (s.write locate out fates).2.files (locate f.path) = some f.text.toUTF8 := by
  by_cases hdue : s.written.version? f.kind = some f.version
  · obtain ⟨hcount, hfile⟩ := h f hf _ hdue
    have hround : Edition.versions ∣ n f.kind := Edition.add_ofNat_eq_iff.1 hcount.symm
    rw [Session.files_write hplaces fates hf hdue]
    exact hfile (Nat.eq_zero_of_dvd_of_lt hround (hversions f.kind))
  · exact (Session.write_ok hplaces hok hf).2 hdue

/-- **Where the versions have come round**, a table that was written once is not written again:
its file stays as it was, whatever is published. -/
theorem Session.Current.unwritten_of_round (h : s.Current locate out n)
    (hplaces : ((s.gateway.tableFiles out).map fun f => locate f.path).Nodup) {f : TableFile}
    (hf : f ∈ s.gateway.tableFiles out) {v : UInt64} (hv : s.written.version? f.kind = some v)
    (hround : Edition.versions ∣ n f.kind) (fates : List (Option Mishap)) :
    (s.write locate out fates).2.files (locate f.path) = s.files (locate f.path) := by
  obtain ⟨hcount, -⟩ := h f hf v hv
  have hdue : s.written.version? f.kind = some f.version := by
    rw [hv, hcount, Edition.add_ofNat_eq_iff.2 hround]
  exact Session.files_write hplaces fates hf hdue

theorem Session.Reaches.reachable (h : s.Reaches enabled locate out n) :
    Gateway.Reachable enabled s.gateway := by
  induction h with
  | start files => exact .empty
  | perform _ op ih => exact ih.perform op
  | write _ fates ih => exact ih
  | others _ files _ _ ih => exact ih

/-- **What every session keeps.** -/
theorem Session.Reaches.current (h : s.Reaches enabled locate out n)
    (hplaces : enabled = true → locate out.routePath ≠ locate out.redirectPath) :
    s.Current locate out n := by
  induction h with
  | start files =>
    intro f _ v hv
    cases hf : f.kind <;> rw [hf] at hv <;> cases hv
  | perform h op ih =>
    have hr := h.reachable
    exact ih.perform (hr.settled.perform_after op)
      ((hr.perform op).registered.enabled.trans hr.registered.enabled.symm)
  | write h fates ih =>
    exact ih.write (Gateway.tableFiles_places (h.reachable.registered.enabled ▸ hplaces)) fates
  | @others n s h files hroute hredirect ih =>
    intro f hf v hv
    have hsame : files (locate f.path) = s.files (locate f.path) := by
      rcases Gateway.path_of_mem_tableFiles hf with hpath | ⟨he, hpath⟩
      · rw [hpath, hroute]
      · rw [hpath, hredirect (h.reachable.registered.enabled.symm.trans he)]
    obtain ⟨hcount, hfile⟩ := ih f hf v hv
    exact ⟨hcount, fun hnone => hsame.trans (hfile hnone)⟩

/-- **The files follow the tables**, where the two paths lead to different places. Whatever befell
the writes before, and befalls those of this call: when the call succeeds, every published table
is in its file, unless the versions of one have come round since it was written last. Where no
write fails, the call does succeed. -/
theorem Session.Reaches.files_follow (h : s.Reaches enabled locate out n)
    (hplaces : enabled = true → locate out.routePath ≠ locate out.redirectPath)
    (hversions : ∀ kind, n kind < Edition.versions) (fates : List (Option Mishap)) :
    (∀ w, (s.write locate out fates).1 = .ok w → (s.write locate out fates).2.Holds locate out) ∧
      ((∀ fate ∈ fates, fate = none) → ∃ w, (s.write locate out fates).1 = .ok w) := by
  refine ⟨fun w hok => ?_, fun hfates => ⟨_, Disk.writeAll_isOk hfates⟩⟩
  have hnodup := Gateway.tableFiles_places (h.reachable.registered.enabled ▸ hplaces)
  have hfiles {f : TableFile} (hf : f ∈ s.gateway.tableFiles out) :=
    (h.current hplaces).files_of_ok hnodup hversions hok hf
  refine ⟨hfiles List.mem_cons_self, fun hredirect => ?_⟩
  exact hfiles (Gateway.redirect_mem_tableFiles hredirect)

/-- The route table is written, the redirect table is spoilt, and an object comes after that: the
next call writes both. -/
theorem files_follow_spoilt :
    let output : OutputSettings := {}
    let spoilt : Mishap := ⟨.notDirectory, some (ByteArray.mk #[0])⟩
    let before : Session String := ⟨.empty true, {}, fun _ => none⟩
    let s := (before.write id output [none, some spoilt]).2
    let upsert := Operation.upsert (Gateway.plainObject "a" 1)
    let s' : Session String := { s with gateway := (s.gateway.perform upsert).state }
    (before.write id output [none, some spoilt]).1 = .error ⟨"redirect.data", .notDirectory⟩ ∧
      s.files "redirect.data" = some (ByteArray.mk #[0]) ∧
      (∃ n, s'.Reaches true id output n ∧ n .route = 1 ∧ ∀ kind, n kind < Edition.versions) ∧
      s'.gateway.routeEdition.version = 1 ∧ (∃ w, (s'.write id output []).1 = .ok w) ∧
      (s'.write id output []).2.Holds id output := by
  intro output spoilt before s upsert s'
  have hspoilt : s.Reaches true id output _ :=
    (Session.Reaches.start fun _ => none).write [none, some spoilt]
  obtain ⟨n, hlater, hroute, hversions⟩ :
      ∃ n, s'.Reaches true id output n ∧ n .route = 1 ∧ ∀ kind, n kind < Edition.versions :=
    ⟨_, hspoilt.perform upsert, by decide +kernel, fun kind => by cases kind <;> decide +kernel⟩
  have hfollow := hlater.files_follow (fun _ => by decide) hversions []
  obtain ⟨w, hw⟩ := hfollow.2 (by simp)
  exact ⟨rfl, rfl, ⟨n, hlater, hroute, hversions⟩, by decide +kernel, ⟨w, hw⟩, hfollow.1 w hw⟩

/-- Two paths that differ and lead to one file: the first write succeeds, and the redirect table is
in the file of the route table. -/
theorem Session.files_follow_dotted :
    let output : OutputSettings := { routePath := "out.json", redirectPath := "./out.json" }
    let s : Session (Option Pathname.Entry) := ⟨.empty true, {}, fun _ => none⟩
    let after := (s.write Pathname.file? output []).2
    output.routePath ≠ output.redirectPath ∧
      s.Reaches true Pathname.file? output (fun _ => 0) ∧
      (∃ w, (s.write Pathname.file? output []).1 = .ok w) ∧
      after.files (Pathname.file? output.routePath) =
        some (RedirectTable.dump output.pretty after.gateway.redirectEdition).toUTF8 ∧
      ¬ after.Holds Pathname.file? output := by
  intro output s after
  have hlost : after.files (Pathname.file? output.routePath) =
      some (RedirectTable.dump output.pretty after.gateway.redirectEdition).toUTF8 := by
    decide +kernel
  refine ⟨by decide, .start _, ⟨_, Disk.writeAll_isOk (by simp)⟩, hlost, fun hholds => ?_⟩
  have hsame := hlost.symm.trans hholds.route
  revert hsame
  decide +kernel

end Session

end IngressRouting
