/-
White space in the sense of the Unicode property `White_Space`, and trimming
by it: white space is taken from both ends and nothing else is
(`trimBlankList_split`), and no more of it than there is up to the first and the last
character that is none (`trimBlankList_append`).
-/
namespace IngressRouting

/-- The twenty-five characters of the property `White_Space`. -/
def isBlank (c : Char) : Bool :=
  let n := c.toNat
  (0x09 ≤ n && n ≤ 0x0D) || n == 0x20 || n == 0x85 || n == 0xA0 || n == 0x1680 ||
    (0x2000 ≤ n && n ≤ 0x200A) || n == 0x2028 || n == 0x2029 || n == 0x202F || n == 0x205F ||
    n == 0x3000

/-- Takes white space off both ends. -/
def trimBlankList (cs : List Char) : List Char :=
  (((cs.dropWhile isBlank).reverse).dropWhile isBlank).reverse

/-- The text without white space at either end. -/
def trimBlank (s : String) : String :=
  String.ofList (trimBlankList s.toList)

theorem trimBlankList_split (cs : List Char) : ∃ front back,
    cs = front ++ (trimBlankList cs ++ back) ∧ (∀ c ∈ front, isBlank c = true) ∧
      ∀ c ∈ back, isBlank c = true := by
  have hfront := List.takeWhile_append_dropWhile (p := isBlank) (l := cs)
  have hback := List.takeWhile_append_dropWhile (p := isBlank) (l := (cs.dropWhile isBlank).reverse)
  refine ⟨cs.takeWhile isBlank, ((cs.dropWhile isBlank).reverse.takeWhile isBlank).reverse, ?_,
    fun c hc => ?_, fun c hc => ?_⟩
  · rw [trimBlankList, ← List.reverse_append, hback, List.reverse_reverse, hfront]
  · exact List.all_eq_true.1 List.all_takeWhile c hc
  · exact List.all_eq_true.1 List.all_takeWhile c (List.mem_reverse.1 hc)

theorem dropWhile_isBlank {cs : List Char} (h : ∀ c ∈ cs.head?, isBlank c = false) :
    cs.dropWhile isBlank = cs := by
  cases cs with
  | nil => rfl
  | cons c cs => exact List.dropWhile_cons_of_neg (by rw [h c rfl]; exact Bool.false_ne_true)

theorem trimBlankList_append {front cs back : List Char} (hfront : ∀ c ∈ front, isBlank c = true)
    (hback : ∀ c ∈ back, isBlank c = true) (hne : cs ≠ [])
    (hhead : ∀ c ∈ cs.head?, isBlank c = false) (hlast : ∀ c ∈ cs.getLast?, isBlank c = false) :
    trimBlankList (front ++ (cs ++ back)) = cs := by
  have hleft : (front ++ (cs ++ back)).dropWhile isBlank = cs ++ back := by
    rw [List.dropWhile_append_of_pos hfront]
    obtain ⟨c, cs, rfl⟩ := List.exists_cons_of_ne_nil hne
    exact dropWhile_isBlank hhead
  have hright : (back.reverse ++ cs.reverse).dropWhile isBlank = cs.reverse := by
    rw [List.dropWhile_append_of_pos fun c hc => hback c (List.mem_reverse.1 hc)]
    exact dropWhile_isBlank fun c hc => hlast c (by rwa [List.head?_reverse] at hc)
  rw [trimBlankList, hleft, List.reverse_append, hright, List.reverse_reverse]

end IngressRouting
