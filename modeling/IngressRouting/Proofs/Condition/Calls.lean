/-
The notation of conditions: calls joined by `&&`, each of a function to words
and string literals. A backslash in a literal escapes the character behind it,
and the literal ends at the first quote that is not escaped.

Reading a text undoes writing it: a text is read as nothing but the calls it is
the writing of (`eq_writeCalls_of_read`), and calls that escape their quotes and
backslashes are read back from theirs (`readCondition_writeCalls`).
-/
import Mathlib.Data.List.Basic

namespace IngressRouting.Condition

/-! ## Literals -/

/-- A character of a literal, and whether there is a backslash before it. -/
structure Letter where
  char : Char
  escaped : Bool
  deriving DecidableEq, Repr

namespace Letter

/-- The letter as it stands in a literal. -/
def write (l : Letter) : List Char :=
  if l.escaped then ['\\', l.char] else [l.char]

/-- The letter stands for itself wherever it is: a quote or backslash is escaped. -/
def Regular (l : Letter) : Prop := l.char = '"' ∨ l.char = '\\' → l.escaped = true

/-- The letters of a text, with a choice of those that are escaped. -/
def ofText (p : Char → Bool) (cs : List Char) : List Letter := cs.map fun c => ⟨c, p c⟩

@[simp] theorem map_char_ofText (p : Char → Bool) (cs : List Char) : (ofText p cs).map char = cs := by
  rw [ofText, List.map_map]
  exact List.map_id cs

end Letter

/-- The letters up to the closing quote, and what follows the quote. -/
def readLiteral : List Char → Option (List Letter × List Char)
  | [] => none
  | '"' :: r => some ([], r)
  | ['\\'] => none
  | '\\' :: c :: r => (readLiteral r).map fun (ls, t) => (⟨c, true⟩ :: ls, t)
  | c :: r => (readLiteral r).map fun (ls, t) => (⟨c, false⟩ :: ls, t)

theorem eq_of_readLiteral {cs r : List Char} {ls : List Letter} (h : readLiteral cs = some (ls, r)) :
    cs = ls.flatMap Letter.write ++ '"' :: r := by
  fun_induction readLiteral cs generalizing ls with
  | case1 => cases h
  | case2 => cases h; rfl
  | case3 => cases h
  | case4 c t ih =>
    obtain ⟨⟨ls', r'⟩, hread, heq⟩ := Option.map_eq_some_iff.1 h
    cases heq
    rw [ih hread]
    rfl
  | case5 c t _ _ _ ih =>
    obtain ⟨⟨ls', r'⟩, hread, heq⟩ := Option.map_eq_some_iff.1 h
    cases heq
    rw [ih hread]
    rfl

/-- Regular letters are read back, whatever follows their closing quote. -/
theorem readLiteral_write {ls : List Letter} (h : ∀ l ∈ ls, l.Regular) (r : List Char) :
    readLiteral (ls.flatMap Letter.write ++ '"' :: r) = some (ls, r) := by
  induction ls with
  | nil => rfl
  | cons l ls ih =>
    obtain ⟨c, escaped⟩ := l
    have htail := ih fun l hl => h l (List.mem_cons_of_mem _ hl)
    cases escaped with
    | true =>
      rw [List.flatMap_cons, Letter.write, if_pos rfl, List.append_assoc, List.cons_append,
        List.cons_append, List.nil_append, readLiteral, htail]
      rfl
    | false =>
      have hc : ¬ (c = '"' ∨ c = '\\') := fun hc => by cases h ⟨c, false⟩ List.mem_cons_self hc
      rw [List.flatMap_cons, Letter.write, if_neg Bool.false_ne_true, List.append_assoc,
        List.cons_append, List.nil_append, readLiteral, htail]
      · rfl
      · exact fun hquote => hc (.inl hquote)
      · exact fun hslash _ => hc (.inr hslash)
      · exact fun _ _ hslash => absurd hslash fun hslash => hc (.inr hslash)

/-! ## Words -/

/-- Letters, digits and underscores. -/
def isWordChar (c : Char) : Bool := c.isAlphanum || c == '_'

/-- The text is a word of the notation. -/
def IsWord (w : String) : Prop := w.toList ≠ [] ∧ w.toList.all isWordChar = true

instance (w : String) : Decidable (IsWord w) := inferInstanceAs (Decidable (_ ∧ _))

/-- No word goes on into the text. -/
def EndsWord (cs : List Char) : Prop := ∀ c ∈ cs.head?, isWordChar c = false

theorem endsWord_nil : EndsWord [] := fun c hc => by cases hc

theorem endsWord_cons {c : Char} (h : isWordChar c = false) (cs : List Char) : EndsWord (c :: cs) :=
  fun d hd => by cases hd; exact h

/-- Reads a word, as far as it goes. -/
def readWord (cs : List Char) : Option (String × List Char) :=
  if cs.takeWhile isWordChar = [] then none
  else some (String.ofList (cs.takeWhile isWordChar), cs.dropWhile isWordChar)

theorem eq_of_readWord {cs r : List Char} {w : String} (h : readWord cs = some (w, r)) :
    cs = w.toList ++ r := by
  rw [readWord] at h
  split at h
  · cases h
  · cases h
    rw [String.toList_ofList, List.takeWhile_append_dropWhile]

theorem readWord_append {w : String} {r : List Char} (hw : IsWord w) (hr : EndsWord r) :
    readWord (w.toList ++ r) = some (w, r) := by
  have hends : r.takeWhile isWordChar = [] ∧ r.dropWhile isWordChar = r := by
    cases r with
    | nil => exact ⟨rfl, rfl⟩
    | cons c r =>
      have hc : ¬ isWordChar c = true := by rw [hr c rfl]; exact Bool.false_ne_true
      exact ⟨List.takeWhile_cons_of_neg hc, List.dropWhile_cons_of_neg hc⟩
  have hall := List.all_eq_true.1 hw.2
  rw [readWord, List.takeWhile_append_of_pos hall, List.dropWhile_append_of_pos hall, hends.1, hends.2,
    List.append_nil, if_neg hw.1, String.ofList_toList]

/-! ## Arguments -/

/-- An argument of a call. -/
inductive Argument
  | literal (letters : List Letter)
  | word (text : String)
  deriving DecidableEq, Repr

namespace Argument

/-- The argument as it is written. -/
def write : Argument → List Char
  | literal ls => '"' :: (ls.flatMap Letter.write ++ ['"'])
  | word w => w.toList

/-- The argument is read back as it is. -/
def Regular : Argument → Prop
  | literal ls => ∀ l ∈ ls, l.Regular
  | word w => IsWord w

end Argument

/-- Reads an argument, and gives what follows it. -/
def readArgument (cs : List Char) : Option (Argument × List Char) :=
  match cs with
  | '"' :: r => (readLiteral r).map fun (ls, t) => (.literal ls, t)
  | cs => (readWord cs).map fun (w, t) => (.word w, t)

theorem eq_of_readArgument {cs r : List Char} {a : Argument} (h : readArgument cs = some (a, r)) :
    cs = a.write ++ r := by
  unfold readArgument at h
  split at h
  · obtain ⟨⟨ls, t⟩, hread, heq⟩ := Option.map_eq_some_iff.1 h
    cases heq
    rw [eq_of_readLiteral hread, Argument.write, List.cons_append, List.append_assoc]
    rfl
  · obtain ⟨⟨w, t⟩, hread, heq⟩ := Option.map_eq_some_iff.1 h
    cases heq
    exact eq_of_readWord hread

theorem readArgument_write {a : Argument} {r : List Char} (ha : a.Regular) (hr : EndsWord r) :
    readArgument (a.write ++ r) = some (a, r) := by
  cases a with
  | literal ls =>
    rw [Argument.write, List.cons_append, List.append_assoc, List.singleton_append, readArgument,
      readLiteral_write ha]
    rfl
  | word w =>
    have hhead : ∀ t, w.toList ++ r ≠ '"' :: t := by
      intro t heq
      obtain ⟨c, cs, hw⟩ := List.exists_cons_of_ne_nil ha.1
      rw [hw, List.cons_append, List.cons.injEq] at heq
      have hc := List.all_eq_true.1 ha.2 c (by rw [hw]; exact List.mem_cons_self)
      rw [heq.1] at hc
      exact absurd hc (by decide)
    rw [Argument.write, readArgument, readWord_append ha hr]
    · rfl
    · exact hhead

/-! ## Items with a separator between them -/

section Separated

variable {α : Type} {sep : List Char} {item : List Char → Option (α × List Char)}
  {write : α → List Char}

/-- One item, and another behind each separator. -/
def readSeparated (sep : List Char) (item : List Char → Option (α × List Char)) (cs : List Char) :
    Option (List α × List Char) :=
  match item cs with
  | none => none
  | some (a, r) =>
    match r.dropPrefix? sep with
    | none => some ([a], r)
    | some t =>
      -- an item may be empty, so it is checked that the text gets shorter
      if t.length < cs.length then (readSeparated sep item t).map fun (as, u) => (a :: as, u)
      else none
termination_by cs.length

theorem eq_of_readSeparated (hitem : ∀ {cs a r}, item cs = some (a, r) → cs = write a ++ r)
    {cs r : List Char} {as : List α} (h : readSeparated sep item cs = some (as, r)) :
    cs = sep.intercalate (as.map write) ++ r ∧ as ≠ [] := by
  fun_induction readSeparated sep item cs generalizing as with
  | case1 => cases h
  | case2 cs a t hread _ =>
    cases h
    exact ⟨by rw [hitem hread, List.map_singleton, List.intercalate_singleton], List.cons_ne_nil _ _⟩
  | case3 cs a t hread u hdrop _ ih =>
    obtain ⟨⟨as', r'⟩, htail, heq⟩ := Option.map_eq_some_iff.1 h
    cases heq
    obtain ⟨ht, hne⟩ := ih htail
    obtain ⟨b, bs, rfl⟩ := List.exists_cons_of_ne_nil hne
    obtain ⟨p, rfl, hp⟩ := List.dropPrefix?_eq_some_iff.1 hdrop
    refine ⟨?_, List.cons_ne_nil _ _⟩
    simp only [hitem hread, ht, eq_of_beq hp, List.map_cons, List.intercalate_cons_cons,
      List.append_assoc]
  | case4 => cases h

theorem readSeparated_write (hsep : sep ≠ []) (hends : ∀ t, EndsWord (sep ++ t)) {as : List α}
    {r : List Char}
    (hne : as ≠ []) (hitem : ∀ a ∈ as, ∀ t, EndsWord t → item (write a ++ t) = some (a, t))
    (hr : EndsWord r) (hstop : r.dropPrefix? sep = none) :
    readSeparated sep item (sep.intercalate (as.map write) ++ r) = some (as, r) := by
  induction as with
  | nil => exact absurd rfl hne
  | cons a as ih =>
    have ha := hitem a List.mem_cons_self
    cases as with
    | nil =>
      rw [List.map_singleton, List.intercalate_singleton, readSeparated, ha r hr]
      simp only [hstop]
    | cons b bs =>
      have htail := ih (List.cons_ne_nil _ _) fun c hc => hitem c (List.mem_cons_of_mem _ hc)
      have hshorter : 0 < sep.length := List.length_pos_iff.2 hsep
      rw [List.map_cons, List.map_cons, List.intercalate_cons_cons, ← List.map_cons, List.append_assoc,
        List.append_assoc, readSeparated, ha _ (hends _)]
      simp only [List.dropPrefix?_append_of_beq _ (beq_self_eq_true sep), htail, List.length_append]
      rw [if_pos (by omega)]
      rfl

/-- The items that a text begins with, if any. -/
def readList (sep : List Char) (item : List Char → Option (α × List Char)) (cs : List Char) :
    List α × List Char :=
  (readSeparated sep item cs).getD ([], cs)

theorem eq_of_readList (hitem : ∀ {cs a r}, item cs = some (a, r) → cs = write a ++ r)
    {cs r : List Char} {as : List α} (h : readList sep item cs = (as, r)) :
    cs = sep.intercalate (as.map write) ++ r := by
  rw [readList] at h
  cases hread : readSeparated sep item cs with
  | none =>
    rw [hread] at h
    cases h
    rfl
  | some p =>
    rw [hread] at h
    cases h
    exact (eq_of_readSeparated hitem hread).1

theorem readList_write (hsep : sep ≠ []) (hends : ∀ t, EndsWord (sep ++ t)) {as : List α} {r : List Char}
    (hitem : ∀ a ∈ as, ∀ t, EndsWord t → item (write a ++ t) = some (a, t))
    (hr : EndsWord r) (hstop : r.dropPrefix? sep = none) (hnone : item r = none) :
    readList sep item (sep.intercalate (as.map write) ++ r) = (as, r) := by
  rw [readList]
  cases as with
  | nil =>
    rw [List.map_nil, List.intercalate_nil, List.nil_append, readSeparated, hnone]
    rfl
  | cons a as =>
    rw [readSeparated_write hsep hends (List.cons_ne_nil a as) hitem hr hstop]
    rfl

end Separated

/-! ## Calls -/

/-- The arguments of a call, as they are written. -/
def writeArguments (as : List Argument) : List Char := [',', ' '].intercalate (as.map Argument.write)

/-- A call of the condition language. -/
structure Call where
  function : String
  arguments : List Argument
  deriving DecidableEq, Repr

namespace Call

/-- The call as it is written. -/
def write (c : Call) : List Char :=
  c.function.toList ++ '(' :: (writeArguments c.arguments ++ [')'])

/-- The call is read back as it is. -/
def Regular (c : Call) : Prop := IsWord c.function ∧ ∀ a ∈ c.arguments, a.Regular

end Call

/-- Reads a call, and gives what follows it. -/
def readCall (cs : List Char) : Option (Call × List Char) :=
  match readWord cs with
  | some (f, '(' :: r) =>
    match readList [',', ' '] readArgument r with
    | (as, ')' :: t) => some (⟨f, as⟩, t)
    | _ => none
  | _ => none

theorem eq_of_readCall {cs r : List Char} {c : Call} (h : readCall cs = some (c, r)) :
    cs = c.write ++ r := by
  rw [readCall] at h
  split at h
  · next f t hword =>
    split at h
    · next as u harguments =>
      cases h
      rw [eq_of_readWord hword, eq_of_readList eq_of_readArgument harguments, Call.write, writeArguments]
      simp only [List.append_assoc, List.cons_append, List.nil_append]
    · cases h
  · cases h

theorem readCall_write {c : Call} (hc : c.Regular) (r : List Char) :
    readCall (c.write ++ r) = some (c, r) := by
  have harguments : readList [',', ' '] readArgument (writeArguments c.arguments ++ ')' :: r) =
      (c.arguments, ')' :: r) :=
    readList_write (by decide) (fun _ => endsWord_cons rfl _)
      (fun a ha t ht => readArgument_write (hc.2 a ha) ht) (endsWord_cons rfl r) rfl rfl
  rw [Call.write, List.append_assoc, readCall, List.cons_append, List.append_assoc, List.cons_append,
    List.nil_append, readWord_append hc.1 (endsWord_cons rfl _)]
  simp only [harguments]

/-! ## Conditions -/

/-- Calls that all have to pass, as they are written. -/
def writeCalls (calls : List Call) : List Char := ['&', '&'].intercalate (calls.map Call.write)

theorem writeCalls_cons (c : Call) (cs : List Call) : ∃ r, writeCalls (c :: cs) = c.write ++ r := by
  cases cs with
  | nil => exact ⟨[], by rw [writeCalls, List.map_singleton, List.intercalate_singleton, List.append_nil]⟩
  | cons d ds =>
    exact ⟨_, by
      rw [writeCalls, List.map_cons, List.map_cons, List.intercalate_cons_cons, List.append_assoc]⟩

/-- The calls of a text, all of it. -/
def readCondition (text : String) : Option (List Call) :=
  match readList ['&', '&'] readCall text.toList with
  | (calls, []) => some calls
  | _ => none

/-- **A text is read as calls that it is the writing of.** -/
theorem eq_writeCalls_of_read {text : String} {calls : List Call} (h : readCondition text = some calls) :
    text.toList = writeCalls calls := by
  rw [readCondition] at h
  split at h
  · next as hread =>
    cases h
    rw [eq_of_readList eq_of_readCall hread, List.append_nil, writeCalls]
  · cases h

/-- **Regular calls are read back**, one for one. -/
theorem readCondition_writeCalls {text : String} {calls : List Call} (h : ∀ c ∈ calls, c.Regular)
    (ht : text.toList = writeCalls calls) : readCondition text = some calls := by
  have hread : readList ['&', '&'] readCall (writeCalls calls ++ []) = (calls, []) :=
    readList_write (by decide) (fun _ => endsWord_cons rfl _)
      (fun c hc t _ => readCall_write (h c hc) t) endsWord_nil rfl rfl
  rw [readCondition, ht, ← List.append_nil (writeCalls calls), hread]

end IngressRouting.Condition
