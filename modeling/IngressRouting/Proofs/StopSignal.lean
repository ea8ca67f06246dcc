/-
No stop request is lost on a listener that is there when it is made. A run is told by what
was done and what came of it, newest first (`Ran`), and that alone says what a listener finds
next: the last request since it was made and since it found something, however many there
were, and whether or not the handles are gone by then (`Ran.noStopLost`).

The channel keeps the last request only. A listener that has missed some is told so and looks
again, and then finds that one (`find_eq`), so which request is due for it comes to the same
as the history.
-/
import IngressRouting.StopSignal

namespace IngressRouting

namespace Broadcast

variable {α : Type} {c : Broadcast α} {due : Nat}

theorem last?_eq_none_iff : c.last? = none ↔ c.next = 0 := by
  rw [last?, next]
  cases c.slot <;> simp

theorem receive_none (isOpen : Bool) (h : c.next ≤ due) :
    c.receive isOpen due = (if isOpen then .empty else .closed, due) := by
  rw [receive]
  cases hs : c.slot with
  | none => rfl
  | some s =>
    obtain ⟨n, m⟩ := s
    simp only [next, hs] at h
    simp only
    rw [if_neg (by omega), if_neg (by omega)]

theorem receive_last (isOpen : Bool) (h : due + 1 = c.next) :
    ∃ m, c.last? = some m ∧ c.receive isOpen due = (.message m, c.next) := by
  rw [receive, last?]
  cases hs : c.slot with
  | none => simp [next, hs] at h
  | some s =>
    obtain ⟨n, m⟩ := s
    simp only [next, hs, Nat.add_right_cancel_iff] at h ⊢
    subst h
    simp

theorem receive_missed (isOpen : Bool) (h : due + 1 < c.next) : ∃ missed last, last + 1 = c.next ∧
    c.receive isOpen due = (.lagged missed, last) := by
  rw [receive]
  cases hs : c.slot with
  | none => simp [next, hs] at h
  | some s =>
    obtain ⟨n, m⟩ := s
    simp only [next, hs] at h ⊢
    exact ⟨n - due, n, rfl, if_pos (by omega)⟩

end Broadcast

namespace StopSignal

variable {s : StopSignal} {requests : Broadcast StopReason} {held : Bool} {due handle listener : Nat}
  {reason : StopReason}

/-! ## Looking -/

/-- What there is to find for a listener that has not received it: the last request. -/
theorem find_last (h : due + 1 = requests.next) :
    find requests held due = (requests.last?, requests.next) := by
  obtain ⟨m, hlast, hreceive⟩ := Broadcast.receive_last held h
  rw [find, hreceive, hlast]

/-- **Requests that were missed do not count.** However many are due, it is the last one that
is found, and none is due then. -/
theorem find_eq : find requests held due =
    if due < requests.next then (requests.last?, requests.next)
    else (if held then none else some .abandoned, due) := by
  split
  · next hlt =>
    by_cases hlast : due + 1 = requests.next
    · exact find_last hlast
    · obtain ⟨missed, last, hnext, hreceive⟩ :=
        Broadcast.receive_missed held (show due + 1 < requests.next by omega)
      rw [find, hreceive]
      exact find_last hnext
  · next hge =>
    rw [find, Broadcast.receive_none held (Nat.not_lt.1 hge)]
    cases held <;> rfl

/-- Which request is due for a listener that is there. -/
def due? (s : StopSignal) (listener : Nat) : Option Nat := s.listeners[listener]?.join

theorem poll_of_due (h : s.due? listener = some due) : s.poll listener =
    if due < s.requests.next then
      (s.requests.last?, { s with listeners := s.listeners.set listener (some s.requests.next) })
    else (if s.hasHandle then none else some .abandoned, s) := by
  have hpoll : s.poll listener =
      ((find s.requests s.hasHandle due).1,
        { s with listeners := s.listeners.set listener (some (find s.requests s.hasHandle due).2) }) := by
    rw [poll, show s.listeners[listener]?.join = some due from h]
  rw [hpoll, find_eq]
  split
  · rfl
  · have hsame : s.listeners.set listener (some due) = s.listeners := by
      refine List.ext_getElem? fun k => ?_
      rw [List.getElem?_set]
      split
      · next hk =>
        subst hk
        rw [due?, Option.join_eq_some_iff] at h
        rw [h, if_pos (List.getElem?_eq_some_iff.1 h).1]
      · rfl
    rw [hsame]

/-! ## Who is there -/

theorem hasHandle_iff : s.hasHandle = true ↔ ∃ handle, s.isHeld handle = true := by
  simp [hasHandle, isHeld, List.mem_iff_getElem?, Option.getD_eq_iff]

theorem isHeard_iff : s.isHeard listener = true ↔ ∃ due, s.due? listener = some due :=
  Option.isSome_iff_exists

theorem hasListener_iff : s.hasListener = true ↔ ∃ listener, s.isHeard listener = true := by
  simp only [hasListener, List.any_eq_true, Option.isSome_iff_exists, isHeard_iff, due?,
    Option.join_eq_some_iff, List.mem_iff_getElem?]
  constructor
  · rintro ⟨_, ⟨i, hi⟩, due, rfl⟩
    exact ⟨i, due, hi⟩
  · rintro ⟨i, due, hi⟩
    exact ⟨_, ⟨i, hi⟩, due, rfl⟩

theorem lt_of_isHeld (h : s.isHeld handle = true) : handle < s.handles.length := by
  rw [isHeld, Option.getD_eq_iff] at h
  rcases h with h | ⟨_, h⟩
  · exact (List.getElem?_eq_some_iff.1 h).1
  · cases h

theorem lt_of_due (h : s.due? listener = some due) : listener < s.listeners.length := by
  rw [due?, Option.join_eq_some_iff] at h
  exact (List.getElem?_eq_some_iff.1 h).1

theorem isHeld_clone : s.clone.2.isHeld handle = true ↔ handle = s.clone.1 ∨ s.isHeld handle = true := by
  rcases Nat.lt_trichotomy handle s.handles.length with hlt | heq | hgt
  · simp [isHeld, clone, List.getElem?_append_left hlt, Nat.ne_of_lt hlt]
  · simp [isHeld, clone, heq]
  · have hlen : (s.handles ++ [true]).length ≤ handle := by rw [List.length_append]; exact hgt
    simp [isHeld, clone, List.getElem?_eq_none hlen, List.getElem?_eq_none (Nat.le_of_lt hgt),
      Nat.ne_of_gt hgt]

theorem isHeld_drop {k : Nat} : (s.drop k).isHeld handle = true ↔ handle ≠ k ∧ s.isHeld handle = true := by
  rw [isHeld, drop, List.getElem?_set]
  split
  · next h =>
    subst h
    split <;> simp
  · next h => simp [isHeld, Ne.symm h]

theorem due?_listen : s.listen.2.due? listener =
    if listener = s.listen.1 then some s.requests.next else s.due? listener := by
  rcases Nat.lt_trichotomy listener s.listeners.length with hlt | heq | hgt
  · simp [due?, listen, List.getElem?_append_left hlt, Nat.ne_of_lt hlt]
  · simp [due?, listen, heq]
  · have hlen : (s.listeners ++ [some s.requests.next]).length ≤ listener := by
      rw [List.length_append]
      exact hgt
    simp [due?, listen, List.getElem?_eq_none hlen, List.getElem?_eq_none (Nat.le_of_lt hgt),
      Nat.ne_of_gt hgt]

theorem due?_set {k : Nat} {v : Option Nat} (hk : k < s.listeners.length) :
    due? { s with listeners := s.listeners.set k v } listener =
      if listener = k then v else s.due? listener := by
  rw [due?, List.getElem?_set]
  split
  · next h =>
    subst h
    simp
  · next h => rw [if_neg (Ne.symm h), due?]

/-! ## Runs -/

/-- What was done, and what came of it. -/
inductive Logged
  | listened (listener : Nat)
  | cloned (handle : Nat)
  | stopped (reason : StopReason) (heard : Bool)
  | dropped (handle : Nat)
  | left (listener : Nat)
  | looked (listener : Nat) (found : Option StopReason)
  deriving DecidableEq

/-- From here on, only what is requested later counts for the listener. -/
def Logged.renews (listener : Nat) : Logged → Bool
  | listened l => l = listener
  | looked l found => l = listener && found.isSome
  | _ => false

/-- The reason that a step asks to stop for, if it does. -/
def Logged.request? : Logged → Option StopReason
  | stopped reason _ => some reason
  | _ => none

/-- A handle is there from the start, or from when it was cloned, until it is dropped. -/
def Held (past : List Logged) (handle : Nat) : Prop :=
  (handle = 0 ∨ .cloned handle ∈ past) ∧ .dropped handle ∉ past

/-- The listener has come and not left. -/
def Listening (past : List Logged) (listener : Nat) : Prop :=
  .listened listener ∈ past ∧ .left listener ∉ past

instance (past : List Logged) (handle : Nat) : Decidable (Held past handle) :=
  inferInstanceAs (Decidable (_ ∧ _))

instance (past : List Logged) (listener : Nat) : Decidable (Listening past listener) :=
  inferInstanceAs (Decidable (_ ∧ _))

/-- The last request since the listener was made and since it found something. -/
def lastRequest (past : List Logged) (listener : Nat) : Option StopReason :=
  (past.takeWhile fun x => !x.renews listener).findSome? Logged.request?

/-- Every stop signal that its use leads to, with what was done before, newest first. Only
handles and listeners that are there can be used. -/
inductive Ran : List Logged → StopSignal → Prop
  | new : Ran [] new
  | listen {past : List Logged} {s : StopSignal} (h : Ran past s) (handle : Nat)
      (there : Held past handle) : Ran (.listened s.listen.1 :: past) s.listen.2
  | clone {past : List Logged} {s : StopSignal} (h : Ran past s) (handle : Nat)
      (there : Held past handle) : Ran (.cloned s.clone.1 :: past) s.clone.2
  | stop {past : List Logged} {s : StopSignal} (h : Ran past s) (handle : Nat)
      (there : Held past handle) (reason : StopReason) :
    Ran (.stopped reason (s.stop reason).1 :: past) (s.stop reason).2
  | drop {past : List Logged} {s : StopSignal} (h : Ran past s) (handle : Nat)
      (there : Held past handle) : Ran (.dropped handle :: past) (s.drop handle)
  | dropListener {past : List Logged} {s : StopSignal} (h : Ran past s) (listener : Nat)
      (there : Listening past listener) : Ran (.left listener :: past) (s.dropListener listener)
  | poll {past : List Logged} {s : StopSignal} (h : Ran past s) (listener : Nat)
      (there : Listening past listener) :
    Ran (.looked listener (s.poll listener).1 :: past) (s.poll listener).2

variable {past : List Logged} {x : Logged}

theorem lastRequest_cons : lastRequest (x :: past) listener =
    if x.renews listener then none else x.request?.or (lastRequest past listener) := by
  rw [lastRequest, List.takeWhile_cons]
  cases x.renews listener <;> cases hx : x.request? <;> simp [hx, lastRequest]

/-- The handles, the listeners and what is due are those of the past. -/
structure Tracks (past : List Logged) (s : StopSignal) : Prop where
  handles : ∀ handle, s.isHeld handle = true ↔ Held past handle
  dropped : ∀ handle, .dropped handle ∈ past → handle < s.handles.length
  listeners : ∀ listener, s.isHeard listener = true ↔ Listening past listener
  left : ∀ listener, .left listener ∈ past → listener < s.listeners.length
  due : ∀ listener due, s.due? listener = some due → due ≤ s.requests.next ∧
    lastRequest past listener = if due < s.requests.next then s.requests.last? else none

/-- Nobody comes or goes. -/
def Logged.IsQuiet : Logged → Prop
  | stopped _ _ | looked _ _ => True
  | _ => False

namespace Tracks

theorem new : Tracks [] new where
  handles handle := by cases handle <;> simp [isHeld, StopSignal.new, Held]
  dropped handle h := by cases h
  listeners listener := by simp [isHeard, StopSignal.new, Listening]
  left listener h := by cases h
  due listener due h := by simp [due?, StopSignal.new] at h

theorem hasHandle_iff (h : Tracks past s) : s.hasHandle = true ↔ ∃ handle, Held past handle := by
  simp only [StopSignal.hasHandle_iff, h.handles]

theorem hasListener_iff (h : Tracks past s) :
    s.hasListener = true ↔ ∃ listener, Listening past listener := by
  simp only [StopSignal.hasListener_iff, h.listeners]

theorem quiet {s' : StopSignal} (h : Tracks past s) (hx : x.IsQuiet) (handles : s'.handles = s.handles)
    (heard : ∀ k, s'.isHeard k = s.isHeard k) (length : s'.listeners.length = s.listeners.length)
    (due : ∀ k n, s'.due? k = some n → n ≤ s'.requests.next ∧
      lastRequest (x :: past) k = if n < s'.requests.next then s'.requests.last? else none) :
    Tracks (x :: past) s' where
  handles k := by
    rw [isHeld, handles, ← isHeld, h.handles]
    cases x <;> simp_all [Held, Logged.IsQuiet]
  dropped k hk := by
    rw [handles]
    cases x <;> simp_all [Logged.IsQuiet, h.dropped]
  listeners k := by
    rw [heard, h.listeners]
    cases x <;> simp_all [Listening, Logged.IsQuiet]
  left k hk := by
    rw [length]
    cases x <;> simp_all [Logged.IsQuiet, h.left]
  due := due

theorem listen (h : Tracks past s) : Tracks (.listened s.listen.1 :: past) s.listen.2 where
  handles k := by
    rw [show s.listen.2.isHeld k = s.isHeld k from rfl, h.handles]
    simp [Held]
  dropped k hk := h.dropped k (by simpa using hk)
  listeners k := by
    have hnew : .left s.listen.1 ∉ past := fun hleft => Nat.lt_irrefl _ (h.left _ hleft)
    rw [isHeard, ← due?, due?_listen]
    split
    · next hk => simp [Listening, hk, hnew]
    · next hk => rw [due?, ← isHeard, h.listeners]; simp [Listening, hk]
  left k hk := by
    have hlt := h.left k (by simpa using hk)
    exact Nat.lt_of_lt_of_le hlt (by simp [StopSignal.listen])
  due k n hn := by
    rw [due?_listen] at hn
    rw [lastRequest_cons]
    split at hn
    · next hk =>
      cases hn
      exact ⟨Nat.le_refl _, by simp [Logged.renews, hk, StopSignal.listen]⟩
    · next hk =>
      rw [if_neg (by simpa [Logged.renews] using Ne.symm hk)]
      exact h.due k n hn

theorem clone (h : Tracks past s) : Tracks (.cloned s.clone.1 :: past) s.clone.2 where
  handles k := by
    have hnew : .dropped s.clone.1 ∉ past := fun hdropped => Nat.lt_irrefl _ (h.dropped _ hdropped)
    rw [isHeld_clone, h.handles]
    by_cases hk : k = s.clone.1
    · simp [Held, hk, hnew]
    · simp [Held, hk]
  dropped k hk := by
    have hlt := h.dropped k (by simpa using hk)
    exact Nat.lt_of_lt_of_le hlt (by simp [StopSignal.clone])
  listeners k := by
    rw [show s.clone.2.isHeard k = s.isHeard k from rfl, h.listeners]
    simp [Listening]
  left k hk := h.left k (by simpa using hk)
  due k n hn := by
    rw [lastRequest_cons]
    exact h.due k n hn

theorem stop (h : Tracks past s) (reason : StopReason) :
    Tracks (.stopped reason (s.stop reason).1 :: past) (s.stop reason).2 := by
  have hstate : (s.stop reason).2 = if s.hasListener then
      { s with requests := s.requests.send reason } else s := by
    rw [StopSignal.stop]
    split <;> rfl
  have hlisteners : (s.stop reason).2.listeners = s.listeners := by rw [hstate]; split <;> rfl
  refine h.quiet trivial (by rw [hstate]; split <;> rfl) (fun k => by rw [isHeard, hlisteners, isHeard])
    (by rw [hlisteners]) fun k n hn => ?_
  rw [due?, hlisteners, ← due?] at hn
  have hle := (h.due k n hn).1
  rw [hstate, if_pos (StopSignal.hasListener_iff.2 ⟨k, isHeard_iff.2 ⟨n, hn⟩⟩), lastRequest_cons]
  exact ⟨Nat.le_succ_of_le hle, (if_pos (Nat.lt_succ_of_le hle)).symm⟩

theorem drop (h : Tracks past s) (there : Held past handle) :
    Tracks (.dropped handle :: past) (s.drop handle) where
  handles k := by
    rw [isHeld_drop, h.handles]
    simp [Held, and_left_comm]
  dropped k hk := by
    rw [show (s.drop handle).handles.length = s.handles.length from List.length_set]
    rcases List.mem_cons.1 hk with he | hk
    · cases he
      exact lt_of_isHeld ((h.handles _).2 there)
    · exact h.dropped k hk
  listeners k := by
    rw [show (s.drop handle).isHeard k = s.isHeard k from rfl, h.listeners]
    simp [Listening]
  left k hk := h.left k (by simpa using hk)
  due k n hn := by
    rw [lastRequest_cons]
    exact h.due k n hn

theorem dropListener (h : Tracks past s) (there : Listening past listener) :
    Tracks (.left listener :: past) (s.dropListener listener) := by
  obtain ⟨n, hn⟩ := isHeard_iff.1 ((h.listeners listener).2 there)
  have hdue : ∀ k, (s.dropListener listener).due? k = if k = listener then none else s.due? k :=
    fun k => due?_set (lt_of_due hn)
  refine ⟨fun k => ?_, fun k hk => ?_, fun k => ?_, fun k hk => ?_, fun k n hn => ?_⟩
  · rw [show (s.dropListener listener).isHeld k = s.isHeld k from rfl, h.handles]
    simp [Held]
  · exact h.dropped k (by simpa using hk)
  · rw [isHeard, ← due?, hdue]
    split
    · next hk => simp [Listening, hk]
    · next hk => rw [due?, ← isHeard, h.listeners]; simp [Listening, hk]
  · rw [show (s.dropListener listener).listeners.length = s.listeners.length from List.length_set]
    rcases List.mem_cons.1 hk with he | hk
    · cases he
      exact lt_of_due hn
    · exact h.left k hk
  · rw [hdue] at hn
    split at hn
    · cases hn
    · rw [lastRequest_cons]
      exact h.due k n hn

/-- What a listener finds that is there, by the past. -/
theorem poll_eq (h : Tracks past s) (hdue : s.due? listener = some due) : s.poll listener =
    if due < s.requests.next then (lastRequest past listener,
      { s with listeners := s.listeners.set listener (some s.requests.next) })
    else (if s.hasHandle then none else some .abandoned, s) := by
  rw [poll_of_due hdue, (h.due listener due hdue).2]
  split <;> rfl

theorem poll_none (h : Tracks past s) (there : Listening past listener)
    (hlast : lastRequest past listener = none) :
    s.poll listener = (if s.hasHandle then none else some .abandoned, s) := by
  obtain ⟨n, hn⟩ := isHeard_iff.1 ((h.listeners listener).2 there)
  have hreceived : ¬ n < s.requests.next := by
    intro hlt
    rw [(h.due listener n hn).2, if_pos hlt] at hlast
    exact Nat.not_lt_zero n (Broadcast.last?_eq_none_iff.1 hlast ▸ hlt)
  rw [h.poll_eq hn, if_neg hreceived]

theorem poll (h : Tracks past s) (there : Listening past listener) :
    Tracks (.looked listener (s.poll listener).1 :: past) (s.poll listener).2 := by
  obtain ⟨n, hn⟩ := isHeard_iff.1 ((h.listeners listener).2 there)
  rw [h.poll_eq hn]
  split
  · have hdue : ∀ k, due? { s with listeners := s.listeners.set listener (some s.requests.next) } k =
        if k = listener then some s.requests.next else s.due? k := fun k => due?_set (lt_of_due hn)
    refine h.quiet trivial rfl (fun k => ?_) List.length_set fun k m hm => ?_
    · rw [isHeard, ← due?, hdue]
      split
      · next hk => rw [hk, isHeard, ← due?, hn]; rfl
      · rfl
    · rw [hdue] at hm
      rw [lastRequest_cons]
      split at hm
      · next hk =>
        cases hm
        subst hk
        refine ⟨Nat.le_refl _, ?_⟩
        cases lastRequest past k <;> simp [Logged.renews, Logged.request?]
      · next hk =>
        rw [if_neg (by simp [Logged.renews, Ne.symm hk])]
        exact h.due k m hm
  · next hnone =>
    -- whether or not it finds that it is abandoned, there is no request before and after
    generalize (if s.hasHandle then none else some StopReason.abandoned) = found
    refine h.quiet trivial rfl (fun k => rfl) rfl fun k m hm => ?_
    obtain ⟨hle, hlast⟩ := h.due k m hm
    refine ⟨hle, ?_⟩
    rw [lastRequest_cons]
    split
    · next hrenews =>
      obtain ⟨rfl, _⟩ : listener = k ∧ found.isSome = true := by simpa [Logged.renews] using hrenews
      rw [show s.due? listener = some m from hm, Option.some.injEq] at hn
      rw [hn, if_neg hnone]
    · exact hlast

end Tracks

theorem Ran.tracks (h : Ran past s) : Tracks past s := by
  induction h with
  | new => exact .new
  | listen _ _ _ ih => exact ih.listen
  | clone _ _ _ ih => exact ih.clone
  | stop _ _ _ reason ih => exact ih.stop reason
  | drop _ _ there ih => exact ih.drop there
  | dropListener _ _ there ih => exact ih.dropListener there
  | poll _ _ there ih => exact ih.poll there

/-- A stop request is heard where somebody is listening. Whoever listens finds the last one,
and, where there is none, that it is abandoned or nothing yet. -/
structure NoStopLost (past : List Logged) (s : StopSignal) : Prop where
  heard : ∀ reason, (s.stop reason).1 = true ↔ ∃ listener, Listening past listener
  found : ∀ listener, Listening past listener → ∀ reason, lastRequest past listener = some reason →
    (s.poll listener).1 = some reason
  abandoned : ∀ listener, Listening past listener → lastRequest past listener = none →
    ((s.poll listener).1 = some .abandoned ↔ ¬ ∃ handle, Held past handle)
  /-- Nothing is consumed by looking in vain. -/
  pending : ∀ listener, Listening past listener → lastRequest past listener = none →
    (∃ handle, Held past handle) → s.poll listener = (none, s)

/-- **No stop request is lost.** Whatever is done with handles and listeners: a stop says
whether anybody listens, and a listener that looks finds the last request made since it was
made and since it found something, though it may have missed others and the handles may be
gone. Where there was none, it finds that it is abandoned exactly when no handle is left. -/
theorem Ran.noStopLost (h : Ran past s) : NoStopLost past s := by
  have ht := h.tracks
  refine ⟨fun reason => ?_, fun k hk reason hlast => ?_, fun k hk hlast => ?_, fun k hk hlast hheld => ?_⟩
  · rw [← ht.hasListener_iff, StopSignal.stop]
    split <;> simp_all
  · obtain ⟨n, hn⟩ := isHeard_iff.1 ((ht.listeners k).2 hk)
    rcases Nat.lt_or_ge n s.requests.next with hlt | hge
    · rw [ht.poll_eq hn, if_pos hlt, hlast]
    · rw [(ht.due k n hn).2, if_neg (Nat.not_lt.2 hge)] at hlast
      cases hlast
  · rw [ht.poll_none hk hlast, ← ht.hasHandle_iff]
    cases s.hasHandle <;> simp
  · rw [ht.poll_none hk hlast, ht.hasHandle_iff.2 hheld]
    rfl

/-- A listener that looks when two requests were made and both handles are gone finds the last
one, and then that it is abandoned. -/
theorem noStopLost_missed :
    let past : List Logged := [.dropped 0, .dropped 1, .stopped .interrupted true, .stopped .requested true,
      .listened 0, .cloned 1, .stopped .requested false]
    let s : StopSignal := ⟨[false, false], [some 0], ⟨some (1, .interrupted)⟩⟩
    Ran past s ∧ NoStopLost past s ∧ (s.poll 0).1 = some .interrupted ∧
      NoStopLost (.looked 0 (s.poll 0).1 :: past) (s.poll 0).2 ∧ ((s.poll 0).2.poll 0).1 = some .abandoned := by
  intro past s
  have hheard : Ran (past.drop 3) ⟨[true, true], [some 0], ⟨some (0, .requested)⟩⟩ :=
    .stop (.listen (.clone (.stop .new 0 (by decide) .requested) 0 (by decide)) 1 (by decide)) 1 (by decide)
      .requested
  have hran : Ran past s :=
    .drop (.drop (.stop hheard 0 (by decide) .interrupted) 1 (by decide)) 0 (by decide)
  have hnone : NoStopLost past s := Ran.noStopLost hran
  have hlater : NoStopLost (.looked 0 (s.poll 0).1 :: past) (s.poll 0).2 :=
    Ran.noStopLost (.poll hran 0 (by decide))
  have hfound : (s.poll 0).1 = some .interrupted := hnone.found 0 (by decide) _ (by decide)
  refine ⟨hran, hnone, hfound, hlater, ?_⟩
  rw [hfound] at hlater
  exact (hlater.abandoned 0 (by decide) (by decide)).2 (by simp [Held, past])

end StopSignal

end IngressRouting
