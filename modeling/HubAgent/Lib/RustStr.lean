import Mathlib.Data.List.DropRight
/-!
# `str` as the Rust standard library has it

The operations work on the characters of a string.  White space is Unicode's `White_Space` property, as `str::trim`
reads it; a number is an optional sign and at least one ASCII digit, and one outside its type's range does not parse.
-/
namespace RustStr

/-- `char::is_whitespace`. -/
def isWhitespace (c : Char) : Bool :=
  let n := c.toNat
  decide (9 ≤ n ∧ n ≤ 13) || n == 0x20 || n == 0x85 || n == 0xA0 || n == 0x1680 || decide (0x2000 ≤ n ∧ n ≤ 0x200A) ||
    n == 0x2028 || n == 0x2029 || n == 0x202F || n == 0x205F || n == 0x3000

def trimChars (l : List Char) : List Char := (l.dropWhile isWhitespace).rdropWhile isWhitespace

/-- `str::trim`. -/
def trim (s : String) : String := String.ofList (trimChars s.toList)

/-- `str::trim_end`. -/
def trimEnd (s : String) : String := String.ofList (s.toList.rdropWhile isWhitespace)

/-- `str::strip_suffix`. -/
def stripSuffix (suf l : List Char) : Option (List Char) :=
  if suf.isSuffixOf l then some (l.take (l.length - suf.length)) else none

/-- `str::trim_end_matches`, for at most `n` occurrences of the suffix. -/
def trimEndMatchesUpTo (suf : List Char) : Nat → List Char → List Char
  | 0, l => l
  | n + 1, l =>
    match stripSuffix suf l with
    | some l' => trimEndMatchesUpTo suf n l'
    | none => l

/-- `str::trim_end_matches` of a text that is not empty: a text has no more occurrences than characters. -/
def trimEndMatches (suf l : List Char) : List Char := trimEndMatchesUpTo suf l.length l

/-- `char::is_control`. -/
def isControl (c : Char) : Bool := decide (c.toNat ≤ 0x1F ∨ 0x7F ≤ c.toNat ∧ c.toNat ≤ 0x9F)

/-- `str::split_once` at a character. -/
def splitOnce (c : Char) : List Char → Option (List Char × List Char)
  | [] => none
  | x :: xs => if x = c then some ([], xs) else (splitOnce c xs).map (fun p => (x :: p.1, p.2))

/-- `str::split` at a character: one piece more than there are separators. -/
def split (c : Char) : List Char → List (List Char)
  | [] => [[]]
  | x :: xs =>
    if x = c then [] :: split c xs
    else match split c xs with
      | piece :: rest => (x :: piece) :: rest
      | [] => [[x]]

/-- `str::split_once` at a text: the first occurrence. -/
def splitOnceStr (pat : List Char) : List Char → Option (List Char × List Char)
  | [] => if pat = [] then some ([], []) else none
  | x :: xs =>
    if pat.isPrefixOf (x :: xs) then some ([], (x :: xs).drop pat.length)
    else (splitOnceStr pat xs).map (fun p => (x :: p.1, p.2))

/-- `str::rsplit_once`: the last occurrence is the first one read backwards. -/
def rsplitOnceStr (pat l : List Char) : Option (List Char × List Char) :=
  (splitOnceStr pat.reverse l.reverse).map (fun p => (p.2.reverse, p.1.reverse))

/-- `str::strip_prefix`. -/
def stripPrefix (pre l : List Char) : Option (List Char) :=
  if pre.isPrefixOf l then some (l.drop pre.length) else none

/-- A line that ended: without its `\n`, it loses one `\r`. -/
def dropReturn (l : List Char) : List Char := (stripSuffix ['\r'] l).getD l

/-- `str::lines`: what follows the last line break is a line only when it is not empty, and keeps a `\r`. -/
def lines (l : List Char) : List (List Char) :=
  let pieces := split '\n' l
  pieces.dropLast.map dropReturn ++ pieces.getLast?.toList.filter (· ≠ [])

/-- `char::is_ascii_hexdigit`. -/
def isAsciiHexdigit (c : Char) : Bool :=
  c.isDigit || decide ('a' ≤ c ∧ c ≤ 'f') || decide ('A' ≤ c ∧ c ≤ 'F')

/-- `str::eq_ignore_ascii_case`. -/
def eqIgnoreAsciiCase (s t : String) : Bool := s.toList.map Char.toLower == t.toList.map Char.toLower

def digitsValue (l : List Char) : Nat := l.foldl (fun n c => n * 10 + (c.toNat - '0'.toNat)) 0

/-- An unsigned number: at least one ASCII digit and nothing else. -/
def parseDigits (l : List Char) : Option Nat :=
  if l ≠ [] ∧ l.all Char.isDigit then some (digitsValue l) else none

/-- `str::parse` at a signed type with the range `lo` to `hi`. -/
def parseInt (lo hi : Int) (l : List Char) : Option Int := do
  let n ← match l with
    | '+' :: ds => (parseDigits ds).map Int.ofNat
    | '-' :: ds => (parseDigits ds).map (fun n => - Int.ofNat n)
    | ds => (parseDigits ds).map Int.ofNat
  if lo ≤ n ∧ n ≤ hi then some n else none

/-- The digits of an unsigned number, read from `n` on; the texts are those of `ParseIntError`. -/
def parseUnsignedFrom (hi : Nat) : Nat → List Char → Except String Nat
  | n, [] => .ok n
  | n, c :: cs =>
    if c.isDigit then
      let n' := 10 * n + (c.toNat - '0'.toNat)
      if n' ≤ hi then parseUnsignedFrom hi n' cs else .error "number too large to fit in target type"
    else .error "invalid digit found in string"

/-- `str::parse` at an unsigned type with the maximum `hi`: a `+` may lead, a `-` may not. -/
def parseUnsigned (hi : Nat) : List Char → Except String Nat
  | [] => .error "cannot parse integer from empty string"
  | '+' :: c :: cs => parseUnsignedFrom hi 0 (c :: cs)
  | l => parseUnsignedFrom hi 0 l

/-! ## A number and its text -/

theorem le_ofDigitChars (n : Nat) : ∀ (l : List Char), n ≤ Nat.ofDigitChars 10 l n := by
  intro l
  rw [Nat.ofDigitChars_eq_ofDigitChars_zero]
  have hpow : 0 < 10 ^ l.length := Nat.pow_pos (by decide)
  have hmul : n ≤ 10 ^ l.length * n := Nat.le_mul_of_pos_left n hpow
  omega

theorem parseUnsignedFrom_digits {hi : Nat} : ∀ (l : List Char) (n : Nat), (∀ c ∈ l, c.isDigit = true) →
    Nat.ofDigitChars 10 l n ≤ hi → parseUnsignedFrom hi n l = .ok (Nat.ofDigitChars 10 l n)
  | [], n, _, _ => by rw [parseUnsignedFrom, Nat.ofDigitChars_nil]
  | c :: cs, n, hdigits, hle => by
    rw [Nat.ofDigitChars_cons] at hle ⊢
    have hfits : 10 * n + (c.toNat - '0'.toNat) ≤ hi := (le_ofDigitChars _ cs).trans hle
    rw [parseUnsignedFrom, if_pos (hdigits c (by simp))]
    simp only [if_pos hfits]
    exact parseUnsignedFrom_digits cs _ (fun d hd => hdigits d (List.mem_cons_of_mem c hd)) hle

/-- **A number is read back from its decimal text.** -/
theorem parseUnsigned_repr {hi n : Nat} (h : n ≤ hi) : parseUnsigned hi n.repr.toList = .ok n := by
  have hdigits : ∀ c ∈ Nat.toDigits 10 n, c.isDigit = true := fun c hc =>
    Nat.isDigit_of_mem_toDigits (by decide) (by decide) hc
  have hvalue : Nat.ofDigitChars 10 (Nat.toDigits 10 n) 0 = n := Nat.ofDigitChars_toDigits (by decide) (by decide)
  have hread : parseUnsignedFrom hi 0 (Nat.toDigits 10 n) = .ok n := by
    rw [parseUnsignedFrom_digits _ 0 hdigits (by rw [hvalue]; exact h), hvalue]
  rw [Nat.toList_repr]
  unfold parseUnsigned
  split
  · rename_i hnil
    exact absurd hnil Nat.toDigits_ne_nil
  · rename_i c cs heq
    have hplus : ('+' : Char).isDigit = true := hdigits '+' (by rw [heq]; simp)
    cases hplus
  · exact hread

theorem trimChars_eq_self {l : List Char} (h : ∀ c ∈ l, isWhitespace c = false) : trimChars l = l := by
  unfold trimChars
  have hdrop : l.dropWhile isWhitespace = l := by
    rw [List.dropWhile_eq_self_iff]
    intro hpos
    rw [h _ (List.getElem_mem hpos)]
    decide
  rw [hdrop, List.rdropWhile_eq_self_iff]
  intro hl
  rw [h _ (List.getLast_mem hl)]
  decide

theorem isWhitespace_of_isDigit {c : Char} (h : c.isDigit = true) : isWhitespace c = false := by
  simp only [Char.isDigit, Bool.and_eq_true, decide_eq_true_eq, ge_iff_le, UInt32.le_iff_toNat_le] at h
  have hrange : 48 ≤ c.toNat ∧ c.toNat ≤ 57 := h
  rw [← Bool.not_eq_true]
  intro hspace
  unfold isWhitespace at hspace
  simp only [Bool.or_eq_true, decide_eq_true_eq, beq_iff_eq] at hspace
  omega

theorem isAlpha_range {c : Char} (h : c.isAlpha = true) :
    65 ≤ c.toNat ∧ c.toNat ≤ 90 ∨ 97 ≤ c.toNat ∧ c.toNat ≤ 122 := by
  rcases (Bool.or_eq_true _ _).mp h with hupper | hlower
  · have hrange : 'A'.val ≤ c.val ∧ c.val ≤ 'Z'.val := of_decide_eq_true hupper
    exact .inl ⟨UInt32.le_iff_toNat_le.mp hrange.1, UInt32.le_iff_toNat_le.mp hrange.2⟩
  · obtain ⟨hlow, hhigh⟩ := (Bool.and_eq_true _ _).mp hlower
    have hrange : 'a'.val ≤ c.val ∧ c.val ≤ 'z'.val := ⟨of_decide_eq_true hlow, of_decide_eq_true hhigh⟩
    exact .inr ⟨UInt32.le_iff_toNat_le.mp hrange.1, UInt32.le_iff_toNat_le.mp hrange.2⟩

theorem isAlpha_of_isWhitespace {c : Char} (h : isWhitespace c = true) : c.isAlpha = false := by
  rw [← Bool.not_eq_true]
  intro halpha
  have hrange := isAlpha_range halpha
  unfold isWhitespace at h
  simp only [Bool.or_eq_true, decide_eq_true_eq, beq_iff_eq] at h
  omega

theorem trim_repr (n : Nat) : trim n.repr = n.repr := by
  unfold trim
  rw [Nat.toList_repr, trimChars_eq_self, Nat.repr_eq_ofList_toDigits]
  intro c hc
  exact isWhitespace_of_isDigit (Nat.isDigit_of_mem_toDigits (by decide) (by decide) hc)

/-! ## Trimming before or after splitting -/

theorem trimChars_cons {w : Char} (hw : isWhitespace w = true) (l : List Char) : trimChars (w :: l) = trimChars l := by
  unfold trimChars
  rw [List.dropWhile_cons_of_pos hw]

theorem trimChars_concat {w : Char} (hw : isWhitespace w = true) (l : List Char) :
    trimChars (l ++ [w]) = trimChars l := by
  unfold trimChars
  rw [List.dropWhile_append]
  by_cases h : (l.dropWhile isWhitespace).isEmpty = true
  · rw [if_pos h, List.isEmpty_iff.1 h, List.dropWhile_cons_of_pos hw, List.dropWhile_nil]
  · rw [if_neg h, List.rdropWhile_concat_pos _ _ _ hw]

theorem split_cons {c x : Char} (hx : x ≠ c) (l : List Char) :
    ∃ piece rest, split c l = piece :: rest ∧ split c (x :: l) = (x :: piece) :: rest := by
  rw [split, if_neg hx]
  cases h : split c l with
  | nil =>
    exfalso
    cases l with
    | nil => cases h
    | cons y ys =>
      rw [split] at h
      split_ifs at h
      split at h <;> cases h
  | cons piece rest => exact ⟨piece, rest, rfl, rfl⟩

theorem split_concat {c x : Char} (hx : x ≠ c) : ∀ (l : List Char),
    ∃ pieces last, split c l = pieces ++ [last] ∧ split c (l ++ [x]) = pieces ++ [last ++ [x]]
  | [] => by
    refine ⟨[], [], rfl, ?_⟩
    rw [List.nil_append, split, if_neg hx]
    rfl
  | y :: ys => by
    obtain ⟨pieces, last, h, h'⟩ := split_concat hx ys
    by_cases hy : y = c
    · refine ⟨[] :: pieces, last, ?_, ?_⟩
      · rw [split, if_pos hy, h, List.cons_append]
      · rw [List.cons_append, split, if_pos hy, h', List.cons_append]
    · rw [List.cons_append, split, split, if_neg hy, if_neg hy, h, h']
      cases pieces with
      | nil => exact ⟨[], y :: last, rfl, rfl⟩
      | cons piece pieces => exact ⟨(y :: piece) :: pieces, last, rfl, rfl⟩

/-- **What surrounds a text does not change its trimmed pieces**, the separator not being white space. -/
theorem split_trimChars {c : Char} (hc : isWhitespace c = false) (l : List Char) :
    (split c (trimChars l)).map trimChars = (split c l).map trimChars := by
  have hne : ∀ {w : Char}, isWhitespace w = true → w ≠ c := by
    intro w hw heq
    rw [heq, hc] at hw
    cases hw
  have hleft : ∀ (l : List Char), (split c (l.dropWhile isWhitespace)).map trimChars = (split c l).map trimChars := by
    intro l
    induction l with
    | nil => rfl
    | cons w l ih =>
      by_cases hw : isWhitespace w = true
      · obtain ⟨piece, rest, h, h'⟩ := split_cons (hne hw) l
        rw [List.dropWhile_cons_of_pos hw, ih, h, h', List.map_cons, List.map_cons, trimChars_cons hw]
      · rw [List.dropWhile_cons_of_neg hw]
  have hright : ∀ (l : List Char), (split c (l.rdropWhile isWhitespace)).map trimChars = (split c l).map trimChars := by
    intro l
    induction l using List.reverseRecOn with
    | nil => rfl
    | append_singleton l w ih =>
      by_cases hw : isWhitespace w = true
      · obtain ⟨pieces, last, h, h'⟩ := split_concat (hne hw) l
        rw [List.rdropWhile_concat_pos _ _ _ hw, ih, h, h', List.map_append, List.map_append, List.map_singleton,
          List.map_singleton, trimChars_concat hw]
      · rw [List.rdropWhile_concat_neg _ _ _ hw]
  unfold trimChars at hleft hright ⊢
  rw [hright, hleft]

/-! ## Lines -/

theorem split_append {c : Char} : ∀ {l : List Char} (rest : List Char), c ∉ l →
    split c (l ++ c :: rest) = l :: split c rest
  | [], rest, _ => by rw [List.nil_append, split, if_pos rfl]
  | x :: xs, rest, h => by
    have hx : x ≠ c := fun heq => h (by rw [heq]; exact List.mem_cons_self)
    rw [List.cons_append, split, if_neg hx, split_append rest (fun hmem => h (List.mem_cons_of_mem _ hmem))]

theorem split_terminated {c : Char} {ls : List (List Char)} (h : ∀ l ∈ ls, c ∉ l) :
    split c (ls.flatMap (fun l => l ++ [c])) = ls ++ [[]] := by
  induction ls with
  | nil => rfl
  | cons l ls ih =>
    rw [List.flatMap_cons, List.append_assoc, List.singleton_append, split_append _ (h l List.mem_cons_self),
      ih (fun l hl => h l (List.mem_cons_of_mem _ hl)), List.cons_append]

theorem dropReturn_eq_self {l : List Char} (h : '\r' ∉ l) : dropReturn l = l := by
  unfold dropReturn stripSuffix
  rw [if_neg]
  · rfl
  · rw [List.isSuffixOf_iff_suffix]
    rintro ⟨before, rfl⟩
    exact h (List.mem_append_right _ List.mem_cons_self)

/-- **Lines that are ended are read back**, but for a return at their end. -/
theorem lines_ended {ls : List (List Char)} (h : ∀ l ∈ ls, '\n' ∉ l) :
    lines (ls.flatMap (fun l => l ++ ['\n'])) = ls.map dropReturn := by
  unfold lines
  rw [split_terminated h]
  dsimp only
  rw [List.dropLast_concat, List.getLast?_concat]
  have hlast : (some ([] : List Char)).toList.filter (fun piece => decide (piece ≠ [])) = [] := rfl
  rw [hlast, List.append_nil]

theorem lines_terminated {ls : List (List Char)} (h : ∀ l ∈ ls, '\n' ∉ l ∧ '\r' ∉ l) :
    lines (ls.flatMap (fun l => l ++ ['\n'])) = ls := by
  rw [lines_ended (fun l hl => (h l hl).1)]
  exact (List.map_congr_left (fun l hl => dropReturn_eq_self (h l hl).2)).trans (List.map_id ls)

theorem trimChars_dropReturn (l : List Char) : trimChars (dropReturn l) = trimChars l := by
  unfold dropReturn stripSuffix
  split_ifs with h
  · obtain ⟨front, rfl⟩ := List.isSuffixOf_iff_suffix.1 h
    have hreturn : isWhitespace '\r' = true := by decide
    rw [List.length_append, Nat.add_sub_cancel, List.take_left, trimChars_concat hreturn]
    rfl
  · rfl

/-! ## Sizes -/

/-- A `String`: it holds at most `isize::MAX` bytes. -/
structure Text where
  val : String
  fits : val.utf8ByteSize ≤ 9223372036854775807

theorem length_le_utf8ByteSize (s : String) : s.toList.length ≤ s.utf8ByteSize := by
  have hencode : ∀ l : List Char, l.length ≤ l.utf8Encode.size := by
    intro l
    induction l with
    | nil => exact Nat.zero_le _
    | cons c l ih =>
      have hpos : 0 < (String.utf8EncodeChar c).length := List.length_pos_iff.2 String.utf8EncodeChar_ne_nil
      rw [List.utf8Encode_cons, ByteArray.size_append, List.utf8Encode_singleton, List.size_toByteArray]
      simp only [List.length_cons]
      omega
  have h := hencode s.toList
  rwa [← String.toByteArray_ofList, String.ofList_toList, String.size_toByteArray] at h

theorem utf8ByteSize_le_of_prefix {s t : String} (h : s.toList <+: t.toList) : s.utf8ByteSize ≤ t.utf8ByteSize := by
  obtain ⟨rest, hrest⟩ := h
  have ht : t = s ++ String.ofList rest := by
    rw [← String.toList_inj, String.toList_append, String.toList_ofList, hrest]
  rw [ht, String.utf8ByteSize_append]
  exact Nat.le_add_right _ _

theorem length_split (c : Char) : ∀ (l : List Char), (split c l).length ≤ l.length + 1
  | [] => by simp [split]
  | x :: xs => by
    have ih := length_split c xs
    by_cases hx : x = c
    · rw [split, if_pos hx]
      simpa using ih
    · obtain ⟨piece, rest, h, h'⟩ := split_cons hx xs
      rw [h']
      rw [h] at ih
      simp only [List.length_cons] at ih ⊢
      omega

theorem length_lines (l : List Char) : (lines l).length ≤ l.length + 1 := by
  have hsplit := length_split '\n' l
  unfold lines
  rcases List.eq_nil_or_concat (split '\n' l) with hnil | ⟨pieces, last, hpieces⟩
  · simp [hnil]
  · have hfilter := List.length_filter_le (fun piece : List Char => decide (piece ≠ [])) [last]
    rw [hpieces, List.concat_eq_append] at hsplit ⊢
    simp only [List.dropLast_concat, List.getLast?_concat, Option.toList_some, List.length_append, List.length_map,
      List.length_singleton] at hsplit hfilter ⊢
    omega

/-! ## Joining -/

theorem split_eq_splitOn (c : Char) : ∀ (l : List Char), split c l = l.splitOn c
  | [] => rfl
  | x :: xs => by
    rw [List.splitOn, List.splitOnP_cons_eq_if_modifyHead, ← List.splitOn, ← split_eq_splitOn c xs]
    by_cases hx : x = c
    · rw [split, if_pos hx, if_pos (by rw [hx, beq_self_eq_true])]
    · obtain ⟨piece, rest, h, h'⟩ := split_cons hx xs
      rw [h', h, if_neg (by rw [beq_iff_eq]; exact hx), List.modifyHead_cons]

theorem intercalate_split (c : Char) (l : List Char) : [c].intercalate (split c l) = l := by
  rw [split_eq_splitOn, List.intercalate_splitOn]

/-- **Pieces without the separator are read back from their join.** -/
theorem split_intercalate {c : Char} {pieces : List (List Char)} (hne : pieces ≠ []) (h : ∀ p ∈ pieces, c ∉ p) :
    split c ([c].intercalate pieces) = pieces := by
  rw [split_eq_splitOn, List.splitOn_intercalate c h hne]

theorem not_mem_of_mem_split {c : Char} : ∀ {l piece : List Char}, piece ∈ split c l → c ∉ piece
  | [], piece, h => by
    rw [List.mem_singleton.1 h]
    exact List.not_mem_nil
  | x :: xs, piece, h => by
    by_cases hx : x = c
    · rw [split, if_pos hx] at h
      rcases List.mem_cons.1 h with rfl | h
      · exact List.not_mem_nil
      · exact not_mem_of_mem_split h
    · obtain ⟨first, rest, hs, hs'⟩ := split_cons hx xs
      rw [hs'] at h
      rcases List.mem_cons.1 h with rfl | h
      · have hfirst : c ∉ first := not_mem_of_mem_split (hs ▸ List.mem_cons_self)
        rw [List.mem_cons, not_or]
        exact ⟨Ne.symm hx, hfirst⟩
      · exact not_mem_of_mem_split (hs ▸ List.mem_cons_of_mem _ h)

/-! ## Trimmed texts -/

theorem trimChars_sublist (l : List Char) : (trimChars l).Sublist l :=
  ((List.rdropWhile_prefix _ _).sublist).trans (List.dropWhile_suffix _).sublist

theorem head?_trimChars {l : List Char} {c : Char} (h : (trimChars l).head? = some c) : isWhitespace c = false := by
  obtain ⟨cut, hcut⟩ := List.rdropWhile_prefix isWhitespace (l.dropWhile isWhitespace)
  have hhead : (l.dropWhile isWhitespace).head? = some c := by
    rw [← hcut, List.head?_append, ← trimChars, h, Option.some_or]
  have hfirst := List.head?_dropWhile_not isWhitespace l
  rw [hhead] at hfirst
  exact hfirst

theorem trimChars_trimChars (l : List Char) : trimChars (trimChars l) = trimChars l := by
  have hleft : (trimChars l).dropWhile isWhitespace = trimChars l := by
    rw [List.dropWhile_eq_self_iff]
    intro hpos
    rw [head?_trimChars (List.head?_eq_getElem? ▸ List.getElem?_eq_getElem hpos)]
    decide
  rw [trimChars, hleft, trimChars, List.rdropWhile_idempotent]

theorem trim_trim (s : String) : trim (trim s) = trim s := by
  rw [trim, trim, String.toList_ofList, trimChars_trimChars]

theorem trim_eq_self_iff {s : String} : trim s = s ↔ trimChars s.toList = s.toList := by
  rw [String.ext_iff, trim, String.toList_ofList]

theorem stripSuffix_singleton (c x : Char) (l : List Char) :
    stripSuffix [c] (l ++ [x]) = if x = c then some l else none := by
  have hsuffix : [c].isSuffixOf (l ++ [x]) = true ↔ x = c := by
    rw [List.isSuffixOf_iff_suffix, ← List.concat_eq_append]
    constructor
    · rintro ⟨before, h⟩
      rw [List.concat_eq_append] at h
      exact (List.singleton_inj.1 (List.append_inj' h rfl).2).symm
    · rintro rfl
      exact ⟨l, List.concat_eq_append.symm⟩
  unfold stripSuffix
  by_cases hx : x = c
  · rw [if_pos (hsuffix.2 hx), if_pos hx, List.length_append, List.length_singleton, List.length_singleton,
      Nat.add_sub_cancel, List.take_left]
  · rw [if_neg (fun h => hx (hsuffix.1 h)), if_neg hx]

theorem trimEndMatchesUpTo_singleton (c : Char) : ∀ (n : Nat) (l : List Char), l.length ≤ n →
    trimEndMatchesUpTo [c] n l = l.rdropWhile (· == c) := by
  intro n l
  induction l using List.reverseRecOn generalizing n with
  | nil =>
    intro _
    cases n <;> rfl
  | append_singleton l x ih =>
    intro h
    cases n with
    | zero => simp at h
    | succ n =>
      rw [trimEndMatchesUpTo, stripSuffix_singleton]
      by_cases hx : x = c
      · rw [if_pos hx, List.rdropWhile_concat_pos _ _ _ (by simpa using hx)]
        exact ih n (by simpa using h)
      · rw [if_neg hx, List.rdropWhile_concat_neg _ _ _ (by simpa using hx)]

theorem trimEndMatches_singleton (c : Char) (l : List Char) : trimEndMatches [c] l = l.rdropWhile (· == c) :=
  trimEndMatchesUpTo_singleton c _ l le_rfl

theorem head?_rdropWhile {p : Char → Bool} {x : Char} (hx : p x = false) (xs : List Char) :
    ((x :: xs).rdropWhile p).head? = some x := by
  have hkeep : (x :: xs).rdropWhile p ≠ [] := by
    rw [Ne, List.rdropWhile_eq_nil_iff]
    intro hall
    rw [hall x List.mem_cons_self] at hx
    cases hx
  rw [List.head?_eq_some_head hkeep, (List.rdropWhile_prefix p (x :: xs)).head hkeep, List.head_cons]

/-- **Blanks around a text still show when its trailing separators are cut.** -/
theorem rdropWhile_trimChars_iff {p : Char → Bool} (hp : ∀ c, p c = true → isWhitespace c = false) (l : List Char) :
    l.rdropWhile p = (trimChars l).rdropWhile p ↔ trimChars l = l := by
  constructor
  · intro h
    by_cases hlast : l.rdropWhile isWhitespace = l
    · by_cases hfirst : l.dropWhile isWhitespace = l
      · rw [trimChars, hfirst, hlast]
      · -- a blank in front is the first character of one text and not of the other
        cases l with
        | nil => exact absurd rfl hfirst
        | cons x xs =>
          have hx : isWhitespace x = true := by
            by_contra hx
            exact hfirst (List.dropWhile_cons_of_neg hx)
          have hkept : p x = false := by
            cases hcut : p x with
            | false => rfl
            | true =>
              rw [hp x hcut] at hx
              cases hx
          obtain ⟨cut, hcut⟩ := List.rdropWhile_prefix p (trimChars (x :: xs))
          have hhead : (trimChars (x :: xs)).head? = some x := by
            rw [← hcut, List.head?_append, ← h, head?_rdropWhile hkept, Option.some_or]
          rw [head?_trimChars hhead] at hx
          cases hx
    · -- a blank at the end is not cut, so the two texts have one length
      have hkeep : l.rdropWhile p = l := by
        rw [List.rdropWhile_eq_self_iff] at hlast ⊢
        push Not at hlast
        obtain ⟨hne, hblank⟩ := hlast
        intro _ hcut
        rw [hp _ hcut] at hblank
        cases hblank
      refine (trimChars_sublist l).eq_of_length_le ?_
      have hprefix := (List.rdropWhile_prefix p (trimChars l)).length_le
      rwa [← h, hkeep] at hprefix
  · intro h
    rw [h]

/-! ## What a number's text looks like -/

theorem parseUnsignedFrom_ok {hi m : Nat} : ∀ {l : List Char} {n : Nat}, parseUnsignedFrom hi n l = .ok m →
    n ≤ m ∧ (n ≤ hi → m ≤ hi) ∧ (∀ c ∈ l, c.isDigit = true) ∧ ∀ hi', m ≤ hi' → parseUnsignedFrom hi' n l = .ok m
  | [], n, h => by
    cases h
    exact ⟨le_rfl, id, by simp, fun _ _ => rfl⟩
  | c :: cs, n, h => by
    rw [parseUnsignedFrom] at h
    split_ifs at h with hdigit
    dsimp only at h
    split_ifs at h with hfits
    obtain ⟨hle, hmax, hdigits, hread⟩ := parseUnsignedFrom_ok h
    refine ⟨by omega, fun _ => hmax hfits, ?_, fun hi' hm => ?_⟩
    · intro d hd
      rcases List.mem_cons.1 hd with rfl | hd
      · exact hdigit
      · exact hdigits d hd
    · rw [parseUnsignedFrom, if_pos hdigit]
      dsimp only
      rw [if_pos (hle.trans hm)]
      exact hread hi' hm

theorem parseUnsigned_cases (l : List Char) : l = [] ∨ ∃ sign digits, l = sign ++ digits ∧ (sign = [] ∨ sign = ['+']) ∧
    ∀ hi, parseUnsigned hi l = parseUnsignedFrom hi 0 digits := by
  match l with
  | [] => exact .inl rfl
  | '+' :: c :: cs => exact .inr ⟨['+'], c :: cs, rfl, .inr rfl, fun _ => rfl⟩
  | ['+'] => exact .inr ⟨[], ['+'], rfl, .inl rfl, fun _ => rfl⟩
  | x :: xs =>
    by_cases hx : x = '+'
    · subst hx
      cases xs with
      | nil => exact .inr ⟨[], ['+'], rfl, .inl rfl, fun _ => rfl⟩
      | cons c cs => exact .inr ⟨['+'], c :: cs, rfl, .inr rfl, fun _ => rfl⟩
    · refine .inr ⟨[], x :: xs, rfl, .inl rfl, fun hi => ?_⟩
      unfold parseUnsigned
      split
      · rename_i heq
        cases heq
      · rename_i heq
        cases heq
        exact absurd rfl hx
      · rfl

/-- **A number that parses**: it is in the range, its text has no blanks, and every range that holds it reads it. -/
theorem parseUnsigned_ok {hi m : Nat} {l : List Char} (h : parseUnsigned hi l = .ok m) :
    m ≤ hi ∧ (∀ c ∈ l, isWhitespace c = false) ∧ ∀ hi', m ≤ hi' → parseUnsigned hi' l = .ok m := by
  rcases parseUnsigned_cases l with rfl | ⟨sign, digits, rfl, hsign, hread⟩
  · cases h
  · rw [hread] at h
    obtain ⟨-, hmax, hdigits, hagain⟩ := parseUnsignedFrom_ok h
    refine ⟨hmax (Nat.zero_le _), fun c hc => ?_, fun hi' hm => (hread hi').trans (hagain hi' hm)⟩
    rcases List.mem_append.1 hc with hc | hc
    · rcases hsign with rfl | rfl
      · cases hc
      · rw [List.mem_singleton.1 hc]
        decide
    · exact isWhitespace_of_isDigit (hdigits c hc)

end RustStr
