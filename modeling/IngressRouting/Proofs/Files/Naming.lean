/-
Which file a path names. What is followed on the way to a file is steps up and then a name
(`Pathname.follow_entry`), so a path can be spelled in one way for each file: two paths by which
files can be written name one file exactly when they are spelled alike (`Pathname.file?_inj`).
A directory reads and writes by the file that a path names (`Directory.read_eq_ok`,
`Directory.write_eq_ok`).
-/
import IngressRouting.Files.Directory
import Mathlib.Logic.Function.Iterate
import Mathlib.Tactic.SplitIfs

namespace IngressRouting

namespace Pathname

variable {f : Folder} {ps : List String} {isFile isFile' : Entry → Bool} {e e' : Entry}
  {p q path : String} {place : Place}

/-! ## The files that paths name -/

/-- The parts of a path that lead anywhere: neither empty nor ".". -/
def components (path : String) : List String := (parts path).filter (· ≠ ".")

/-- From one folder through the same components. -/
def SameFile (p q : String) : Prop := startFolder p = startFolder q ∧ components p = components q

/-- Where a path starts, and its components. Nothing is above the root, so the steps up from
there are left out. -/
def spelling (path : String) : Folder × List String :=
  match startFolder path with
  | .root => (.root, (components path).dropWhile (· = ".."))
  | .above n => (.above n, components path)

/-- The paths lead to the same place. -/
def Coincide (p q : String) : Prop := spelling p = spelling q

instance : Decidable (SameFile p q) := inferInstanceAs (Decidable (_ ∧ _))

instance : Decidable (Coincide p q) := inferInstanceAs (Decidable (spelling p = spelling q))

/-- The path as it is spelled, without empty parts and "." in it. -/
def normalForm (path : String) : String :=
  (if startFolder path = .root then "/" else "") ++ "/".intercalate (spelling path).2

theorem SameFile.coincide (h : SameFile p q) : Coincide p q := by
  obtain ⟨hstart, hcomponents⟩ := h
  unfold Coincide spelling
  rw [hstart, hcomponents]

/-- Two paths in normal form lead to the same place only if they are the same text. -/
theorem Coincide.eq_of_normal (h : Coincide p q) (hp : normalForm p = p) (hq : normalForm q = q) :
    p = q := by
  have hfolder (path : String) : (spelling path).1 = startFolder path := by
    unfold spelling
    cases startFolder path <;> rfl
  have hstart : startFolder p = startFolder q := by
    rw [← hfolder p, ← hfolder q, h]
  rw [← hp, ← hq]
  unfold normalForm
  rw [hstart, h]

/-! ## Following a path -/

theorem follow_ok (h : follow isFile f ps = .ok place) : follow isFile' f ps = .ok place := by
  induction ps generalizing f with
  | nil => exact h
  | cons p ps ih =>
    unfold follow at h ⊢
    split_ifs at h ⊢ with hdot hup hlong hlast
    · exact ih h
    · exact ih h
    · exact h

theorem locate_ok (h : locate isFile path = .ok place) : locate isFile' path = .ok place := by
  unfold locate at h ⊢
  split_ifs at h ⊢
  exact follow_ok h

/-- **The way to a file** is some steps up, and its name. -/
theorem follow_entry (h : follow isFile f ps = .ok (.entry e)) :
    ∃ k, ps.filter (· ≠ ".") = List.replicate k ".." ++ [e.name] ∧ e.folder = Folder.parent^[k] f ∧
      e.name ≠ ".." := by
  induction ps generalizing f with
  | nil => cases h
  | cons p ps ih =>
    unfold follow at h
    split_ifs at h with hdot hup hlong hlast hfile
    · obtain ⟨k, hway, hfolder, hname⟩ := ih h
      refine ⟨k, ?_, hfolder, hname⟩
      rw [List.filter_cons_of_neg (by simp [hdot]), hway]
    · obtain ⟨k, hway, hfolder, hname⟩ := ih h
      refine ⟨k + 1, ?_, hfolder, hname⟩
      rw [List.filter_cons_of_pos (by simp [hdot]), hway, hup]
      rfl
    · obtain rfl := List.isEmpty_iff.1 hlast
      cases h
      exact ⟨0, by simp [hdot], rfl, hup⟩

/-- The spelling of the paths to an entry. -/
def way (e : Entry) : Folder × List String :=
  match e.folder with
  | .root => (.root, [e.name])
  | .above k => (.above 0, List.replicate k ".." ++ [e.name])

theorem way_inj (h : way e = way e') : e = e' := by
  obtain ⟨folder, name⟩ := e
  obtain ⟨folder', name'⟩ := e'
  cases folder with
  | root =>
    cases folder' with
    | root =>
      obtain rfl : name = name' := by simpa [way] using h
      rfl
    | above k' => simp [way] at h
  | above k =>
    cases folder' with
    | root => simp [way] at h
    | above k' =>
      simp only [way, Prod.mk.injEq, true_and] at h
      obtain ⟨hups, hname⟩ := List.append_inj' h rfl
      obtain rfl : k = k' := by simpa using congrArg List.length hups
      obtain rfl : name = name' := by simpa using hname
      rfl

theorem parent_iterate_root (k : Nat) : Folder.parent^[k] .root = .root :=
  Function.iterate_fixed rfl k

theorem parent_iterate_above (k n : Nat) : Folder.parent^[k] (.above n) = .above (n + k) := by
  induction k generalizing n with
  | zero => rfl
  | succ k ih =>
    rw [Function.iterate_succ_apply]
    have := ih (n + 1)
    rw [Folder.parent, this]
    congr 1
    omega

theorem spelling_of_locate (h : locate isFile path = .ok (.entry e)) : spelling path = way e := by
  unfold locate at h
  split_ifs at h
  obtain ⟨k, hway, hfolder, hname⟩ := follow_entry h
  have hcomponents : components path = List.replicate k ".." ++ [e.name] := hway
  unfold spelling way
  unfold startFolder at hfolder ⊢
  split_ifs at hfolder ⊢ with hroot
  · rw [parent_iterate_root] at hfolder
    rw [hcomponents, hfolder, List.dropWhile_append_of_pos (by simp)]
    simp [hname]
  · rw [parent_iterate_above, Nat.zero_add] at hfolder
    rw [hcomponents, hfolder]

/-! ## Paths by which files are written -/

/-- The file that is read and written by a path. -/
def file? (path : String) : Option Entry :=
  if endsInSlash path then none
  else match locate (fun _ => false) path with
    | .ok (.entry e) => some e
    | _ => none

theorem file?_eq_some :
    file? path = some e ↔ endsInSlash path = false ∧ locate isFile path = .ok (.entry e) := by
  unfold file?
  constructor
  · intro h
    split_ifs at h with hslash
    split at h
    · next e' hlocate =>
      cases h
      exact ⟨by simpa using hslash, locate_ok hlocate⟩
    · cases h
  · intro h
    rw [if_neg (by simp [h.1]), locate_ok h.2]

/-- **Two paths to files lead to the same file exactly when they are spelled alike.** -/
theorem file?_inj (hp : file? p = some e) (hq : file? q = some e') : e = e' ↔ Coincide p q := by
  have hlocate {path : String} {e : Entry} (h : file? path = some e) : spelling path = way e := by
    have hentry : locate (fun _ => false) path = .ok (.entry e) := (file?_eq_some.1 h).2
    exact spelling_of_locate hentry
  unfold Coincide
  rw [hlocate hp, hlocate hq]
  exact ⟨congrArg way, way_inj⟩

end Pathname

theorem decodeText_toUTF8 (s : String) : decodeText s.toUTF8 = .ok s := by
  unfold decodeText String.fromUTF8?
  rw [String.toUTF8_eq_toByteArray, dif_pos s.isValidUTF8]
  rfl

namespace Directory

open Pathname

variable {d d' : Directory} {path text : String}

/-! ## Reading and writing -/

theorem get?_put (d : Directory) (e e' : Entry) (bytes : ByteArray) :
    (d.put e bytes).get? e' = if e' = e then some bytes else d.get? e' := by
  unfold put get? remove
  rw [List.lookup_cons]
  by_cases h : e' = e
  · simp [h]
  · have hne : (e' == e) = false := by simpa using h
    rw [hne, if_neg h]
    show List.lookup e' (d.files.filter fun f => f.1 ≠ e) = List.lookup e' d.files
    induction d.files with
    | nil => rfl
    | cons f fs ih =>
      by_cases hf : f.1 = e
      · have hf' : (e' == f.1) = false := by simpa [hf] using h
        rw [List.filter_cons_of_neg (by simp [hf]), ih, List.lookup_cons, hf']
      · rw [List.filter_cons_of_pos (by simp [hf]), List.lookup_cons, List.lookup_cons, ih]

theorem write_eq_ok :
    d.write path text = .ok d' ↔ ∃ e, file? path = some e ∧ d' = d.put e text.toUTF8 := by
  unfold write
  constructor
  · intro h
    cases hlocate : d.locate path with
    | error err =>
      rw [hlocate] at h
      cases h
    | ok place =>
      rw [hlocate] at h
      cases place with
      | folder f => cases h
      | entry e =>
        by_cases hslash : endsInSlash path = true
        · simp [bind, Except.bind, hslash] at h
        · simp only [bind, Except.bind, if_neg hslash] at h
          cases h
          exact ⟨e, file?_eq_some.2 ⟨by simpa using hslash, hlocate⟩, rfl⟩
  · rintro ⟨e, he, rfl⟩
    obtain ⟨hslash, hlocate⟩ := file?_eq_some.1 he
    have hlocate : d.locate path = .ok (.entry e) := hlocate
    rw [hlocate]
    simp [bind, Except.bind, hslash, pure, Except.pure]

theorem read_eq_ok : d.read path = .ok text ↔
    ∃ e bytes, file? path = some e ∧ d.get? e = some bytes ∧ decodeText bytes = .ok text := by
  unfold read
  constructor
  · intro h
    cases hlocate : d.locate path with
    | error err =>
      rw [hlocate] at h
      cases h
    | ok place =>
      rw [hlocate] at h
      cases place with
      | folder f => cases h
      | entry e =>
        cases hbytes : d.get? e with
        | none =>
          simp only [bind, Except.bind, hbytes] at h
          cases h
        | some bytes =>
          by_cases hslash : endsInSlash path = true
          · simp [bind, Except.bind, hbytes, hslash] at h
          · simp only [bind, Except.bind, hbytes, if_neg hslash] at h
            exact ⟨e, bytes, file?_eq_some.2 ⟨by simpa using hslash, hlocate⟩, hbytes, h⟩
  · rintro ⟨e, bytes, he, hbytes, htext⟩
    obtain ⟨hslash, hlocate⟩ := file?_eq_some.1 he
    have hlocate : d.locate path = .ok (.entry e) := hlocate
    rw [hlocate]
    simp [bind, Except.bind, hbytes, hslash, htext]

theorem isSome_of_read (h : d.read path = .ok text) : (file? path).isSome := by
  obtain ⟨e, _, he, _⟩ := read_eq_ok.1 h
  rw [he]
  rfl

theorem read_of_coincide {p q : String} (h : Coincide p q) (hp : (file? p).isSome)
    (hq : d.read q = .ok text) : d.read p = .ok text := by
  obtain ⟨e, he⟩ := Option.isSome_iff_exists.1 hp
  obtain ⟨e', bytes, he', hbytes, htext⟩ := read_eq_ok.1 hq
  obtain rfl := (file?_inj he he').2 h
  exact read_eq_ok.2 ⟨e, bytes, he, hbytes, htext⟩

theorem read_of_write (h : d.write path text = .ok d') : d'.read path = .ok text := by
  obtain ⟨e, he, rfl⟩ := write_eq_ok.1 h
  refine read_eq_ok.2 ⟨e, text.toUTF8, he, ?_, decodeText_toUTF8 text⟩
  rw [get?_put, if_pos rfl]

theorem exists_write (h : (file? path).isSome) (text : String) :
    ∃ d', d.write path text = .ok d' := by
  obtain ⟨e, he⟩ := Option.isSome_iff_exists.1 h
  exact ⟨_, write_eq_ok.2 ⟨e, he, rfl⟩⟩

end Directory

end IngressRouting
