import HubAgent.Lib.RustStr
/-!
# Byte offsets and slices

`str::find` and `str::rfind` return byte offsets, and a slice `&s[start..stop]` panics unless `start <= stop` and both are
offsets of characters of the text or its end.  Each operation is said by what stands before and behind: an offset is the
size of what is in front of it (`slice_eq_ok_iff`).
-/
namespace RustStr

/-- `str::len`. -/
def utf8Len : List Char → Nat
  | [] => 0
  | c :: cs => c.utf8Size + utf8Len cs

@[simp] theorem utf8Len_nil : utf8Len [] = 0 := rfl

@[simp] theorem utf8Len_cons (c : Char) (l : List Char) : utf8Len (c :: l) = c.utf8Size + utf8Len l := rfl

@[simp] theorem utf8Len_append (a b : List Char) : utf8Len (a ++ b) = utf8Len a + utf8Len b := by
  induction a with
  | nil => simp
  | cons c a ih => rw [List.cons_append, utf8Len_cons, utf8Len_cons, ih, Nat.add_assoc]

theorem utf8Len_eq_zero {l : List Char} : utf8Len l = 0 ↔ l = [] := by
  cases l with
  | nil => simp
  | cons c l =>
    have hpos := Char.utf8Size_pos c
    simp only [utf8Len_cons, reduceCtorEq, iff_false]
    omega

/-- `str::split_at_checked`: nothing past the end or inside a character. -/
def splitAtByte : Nat → List Char → Option (List Char × List Char)
  | 0, l => some ([], l)
  | _ + 1, [] => none
  | n + 1, c :: cs =>
    if c.utf8Size ≤ n + 1 then (splitAtByte (n + 1 - c.utf8Size) cs).map (fun p => (c :: p.1, p.2)) else none

theorem splitAtByte_eq_some_iff : ∀ {l : List Char} {n : Nat} {a b : List Char},
    splitAtByte n l = some (a, b) ↔ l = a ++ b ∧ utf8Len a = n
  | l, 0, a, b => by
    rw [splitAtByte, utf8Len_eq_zero]
    constructor
    · intro h
      cases h
      exact ⟨rfl, rfl⟩
    · rintro ⟨rfl, rfl⟩
      rfl
  | [], n + 1, a, b => by
    rw [splitAtByte]
    constructor
    · intro h
      cases h
    · rintro ⟨h, hlen⟩
      rw [List.nil_eq_append_iff] at h
      rw [h.1] at hlen
      cases hlen
  | c :: cs, n + 1, a, b => by
    have hpos := Char.utf8Size_pos c
    rw [splitAtByte]
    constructor
    · intro h
      split_ifs at h with hfits
      obtain ⟨⟨a', b'⟩, h', heq⟩ := Option.map_eq_some_iff.1 h
      cases heq
      obtain ⟨rfl, hlen⟩ := splitAtByte_eq_some_iff.1 h'
      refine ⟨rfl, ?_⟩
      rw [utf8Len_cons, hlen]
      exact Nat.add_sub_cancel' hfits
    · rintro ⟨h, hlen⟩
      cases a with
      | nil => cases hlen
      | cons x a =>
        rw [List.cons_append, List.cons.injEq] at h
        obtain ⟨rfl, rfl⟩ := h
        rw [utf8Len_cons] at hlen
        have hrest : utf8Len a = n + 1 - c.utf8Size := by omega
        rw [if_pos (by omega), splitAtByte_eq_some_iff.2 ⟨rfl, hrest⟩]
        rfl

structure SlicePanic where
  start : Nat
  stop : Nat
  deriving DecidableEq, Repr

/-- `&s[start..stop]`. -/
def slice (l : List Char) (start stop : Nat) : Except SlicePanic (List Char) :=
  match (splitAtByte stop l).bind (fun p => splitAtByte start p.1) with
  | some (_, part) => .ok part
  | none => .error ⟨start, stop⟩

/-- **A slice that is taken** begins and ends at characters, in this order. -/
theorem slice_eq_ok_iff {l part : List Char} {start stop : Nat} : slice l start stop = .ok part ↔
    ∃ a b, l = a ++ part ++ b ∧ utf8Len a = start ∧ utf8Len (a ++ part) = stop := by
  unfold slice
  constructor
  · intro h
    split at h
    · rename_i a taken hparts
      cases h
      obtain ⟨⟨front, b⟩, hfront, hback⟩ := Option.bind_eq_some_iff.1 hparts
      obtain ⟨rfl, hstop⟩ := splitAtByte_eq_some_iff.1 hfront
      obtain ⟨hparts, hstart⟩ := splitAtByte_eq_some_iff.1 hback
      dsimp only at hparts
      subst hparts
      exact ⟨a, b, rfl, hstart, hstop⟩
    · cases h
  · rintro ⟨a, b, rfl, hstart, hstop⟩
    rw [splitAtByte_eq_some_iff.2 ⟨rfl, hstop⟩, Option.bind_some, splitAtByte_eq_some_iff.2 ⟨rfl, hstart⟩]

/-- `&s[..stop]`. -/
theorem slice_front (a b : List Char) : slice (a ++ b) 0 (utf8Len a) = .ok a :=
  slice_eq_ok_iff.2 ⟨[], b, rfl, rfl, rfl⟩

/-- `&s[start..]`. -/
theorem slice_behind (a b : List Char) : slice (a ++ b) (utf8Len a) (utf8Len (a ++ b)) = .ok b :=
  slice_eq_ok_iff.2 ⟨a, [], (List.append_nil _).symm, rfl, rfl⟩

theorem slice_backwards {l : List Char} {start stop : Nat} (h : stop < start) :
    slice l start stop = .error ⟨start, stop⟩ := by
  cases hslice : slice l start stop with
  | ok part =>
    obtain ⟨a, b, -, hstart, hstop⟩ := slice_eq_ok_iff.1 hslice
    rw [utf8Len_append] at hstop
    omega
  | error e =>
    unfold slice at hslice
    split at hslice
    · cases hslice
    · cases hslice
      rfl

/-! ## Searching -/

/-- `str::find` of a character. -/
def find (c : Char) : List Char → Option Nat
  | [] => none
  | x :: xs => if x = c then some 0 else (find c xs).map (fun n => x.utf8Size + n)

/-- `str::find` of a text. -/
def findStr (pat l : List Char) : Option Nat := (splitOnceStr pat l).map (fun p => utf8Len p.1)

/-- `str::rfind` of a character. -/
def rfind (c : Char) : List Char → Option Nat
  | [] => none
  | x :: xs =>
    match rfind c xs with
    | some n => some (x.utf8Size + n)
    | none => if x = c then some 0 else none

theorem find_eq_none_iff {c : Char} {l : List Char} : find c l = none ↔ c ∉ l := by
  induction l with
  | nil => simp [find]
  | cons x xs ih =>
    rw [find, List.mem_cons, not_or]
    by_cases hx : x = c
    · simp [hx]
    · rw [if_neg hx, Option.map_eq_none_iff, ih]
      exact ⟨fun h => ⟨Ne.symm hx, h⟩, fun h => h.2⟩

theorem find_append {c : Char} {a : List Char} (b : List Char) (h : c ∉ a) : find c (a ++ c :: b) = some (utf8Len a) := by
  induction a with
  | nil => rw [List.nil_append, find, if_pos rfl, utf8Len_nil]
  | cons x xs ih =>
    rw [List.mem_cons, not_or] at h
    rw [List.cons_append, find, if_neg (Ne.symm h.1), ih h.2, utf8Len_cons]
    rfl

theorem rfind_eq_none_iff {c : Char} {l : List Char} : rfind c l = none ↔ c ∉ l := by
  induction l with
  | nil => simp [rfind]
  | cons x xs ih =>
    rw [rfind, List.mem_cons, not_or]
    cases hrest : rfind c xs with
    | some n =>
      rw [hrest] at ih
      simp only [reduceCtorEq, false_iff, not_and]
      exact fun _ h => absurd (ih.2 h) (by simp)
    | none =>
      have hxs : c ∉ xs := ih.1 hrest
      by_cases hx : x = c
      · simp [hx]
      · simp [hx, hxs, Ne.symm hx]

theorem rfind_append {c : Char} (a : List Char) {b : List Char} (h : c ∉ b) :
    rfind c (a ++ c :: b) = some (utf8Len a) := by
  induction a with
  | nil => rw [List.nil_append, rfind, rfind_eq_none_iff.2 h, if_pos rfl, utf8Len_nil]
  | cons x xs ih => rw [List.cons_append, rfind, ih, utf8Len_cons]

theorem exists_last {c : Char} {l : List Char} (h : c ∈ l) : ∃ a b, l = a ++ c :: b ∧ c ∉ b := by
  induction l with
  | nil => cases h
  | cons x xs ih =>
    by_cases hxs : c ∈ xs
    · obtain ⟨a, b, rfl, hb⟩ := ih hxs
      exact ⟨x :: a, b, rfl, hb⟩
    · rcases List.mem_cons.1 h with rfl | h
      · exact ⟨[], xs, rfl, hxs⟩
      · exact absurd h hxs

end RustStr
