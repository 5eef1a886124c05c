import HubAgent.Lib.RustStr
/-!
# The parts of a text

What an operation of `str` returns, said by where it stands in the text: before and behind a separator, in front of a
suffix, between blanks.
-/
namespace RustStr

/-! ## In front of a suffix, behind a separator -/

theorem stripSuffix_eq_some_iff {suf l rest : List Char} : stripSuffix suf l = some rest ↔ l = rest ++ suf := by
  unfold stripSuffix
  constructor
  · intro h
    split_ifs at h with hsuf
    obtain ⟨before, rfl⟩ := List.isSuffixOf_iff_suffix.1 hsuf
    rw [← Option.some.inj h, List.length_append, Nat.add_sub_cancel, List.take_left]
  · rintro rfl
    rw [if_pos (List.isSuffixOf_iff_suffix.2 (List.suffix_append _ _)), List.length_append, Nat.add_sub_cancel,
      List.take_left]

theorem trimEndMatchesUpTo_append (suf l : List Char) (n : Nat) :
    trimEndMatchesUpTo suf (n + 1) (l ++ suf) = trimEndMatchesUpTo suf n l := by
  rw [trimEndMatchesUpTo, stripSuffix_eq_some_iff.2 rfl]

theorem trimEndMatchesUpTo_of_not_suffix {suf l : List Char} (h : ¬ suf <:+ l) : ∀ n : Nat,
    trimEndMatchesUpTo suf n l = l
  | 0 => rfl
  | n + 1 => by
    have hnone : stripSuffix suf l = none := Option.eq_none_iff_forall_ne_some.2 fun rest heq =>
      h ⟨rest, (stripSuffix_eq_some_iff.1 heq).symm⟩
    rw [trimEndMatchesUpTo, hnone]

theorem length_trimEndMatchesUpTo_le (suf : List Char) : ∀ (n : Nat) (l : List Char),
    (trimEndMatchesUpTo suf n l).length ≤ l.length
  | 0, _ => Nat.le_refl _
  | n + 1, l => by
    rw [trimEndMatchesUpTo]
    split
    · rename_i rest hstrip
      rw [stripSuffix_eq_some_iff.1 hstrip, List.length_append]
      exact (length_trimEndMatchesUpTo_le suf n rest).trans (Nat.le_add_right _ _)
    · exact Nat.le_refl _

theorem trimEndMatches_append {suf : List Char} (hsuf : suf ≠ []) (l : List Char) :
    trimEndMatches suf (l ++ suf) = trimEndMatchesUpTo suf (l.length + suf.length - 1) l := by
  have hpos : 0 < suf.length := List.length_pos_iff.2 hsuf
  have hlength : (l ++ suf).length = (l.length + suf.length - 1) + 1 := by
    rw [List.length_append]
    omega
  rw [trimEndMatches, hlength, trimEndMatchesUpTo_append]

/-- **What is left of a text that ends in a suffix** is the text in front of it exactly when that does not end in it
again. -/
theorem trimEndMatches_append_eq_iff {suf : List Char} (hsuf : suf ≠ []) (l : List Char) :
    trimEndMatches suf (l ++ suf) = l ↔ ¬ suf <:+ l := by
  rw [trimEndMatches_append hsuf]
  constructor
  · rintro h ⟨rest, rfl⟩
    have hpos : 0 < suf.length := List.length_pos_iff.2 hsuf
    obtain ⟨n, hn⟩ : ∃ n, (rest ++ suf).length + suf.length - 1 = n + 1 :=
      ⟨(rest ++ suf).length + suf.length - 2, by
        rw [List.length_append]
        omega⟩
    rw [hn, trimEndMatchesUpTo_append] at h
    have hshort := length_trimEndMatchesUpTo_le suf n rest
    rw [h, List.length_append] at hshort
    omega
  · exact fun h => trimEndMatchesUpTo_of_not_suffix h _

theorem splitOnce_eq_none_iff {c : Char} {l : List Char} : splitOnce c l = none ↔ c ∉ l := by
  induction l with
  | nil => simp [splitOnce]
  | cons x xs ih =>
    rw [splitOnce, List.mem_cons, not_or]
    by_cases hx : x = c
    · simp [hx]
    · rw [if_neg hx, Option.map_eq_none_iff, ih]
      exact ⟨fun h => ⟨Ne.symm hx, h⟩, fun h => h.2⟩

theorem splitOnce_append {c : Char} {a : List Char} (b : List Char) (h : c ∉ a) :
    splitOnce c (a ++ c :: b) = some (a, b) := by
  induction a with
  | nil => rw [List.nil_append, splitOnce, if_pos rfl]
  | cons x xs ih =>
    rw [List.mem_cons, not_or] at h
    rw [List.cons_append, splitOnce, if_neg (Ne.symm h.1), ih h.2]
    rfl

theorem splitOnce_eq_some_iff {c : Char} {l a b : List Char} :
    splitOnce c l = some (a, b) ↔ l = a ++ c :: b ∧ c ∉ a := by
  constructor
  · intro h
    have hmem : c ∈ l := by
      by_contra hmem
      rw [splitOnce_eq_none_iff.2 hmem] at h
      cases h
    obtain ⟨a', b', rfl, ha'⟩ := List.eq_append_cons_of_mem hmem
    rw [splitOnce_append b' ha'] at h
    cases h
    exact ⟨rfl, ha'⟩
  · rintro ⟨rfl, ha⟩
    exact splitOnce_append b ha

/-! ## Around an occurrence of a text -/

theorem isPrefixOf_append (pat b : List Char) : pat.isPrefixOf (pat ++ b) = true :=
  List.isPrefixOf_iff_prefix.2 (List.prefix_append pat b)

/-- **The first occurrence.** -/
theorem splitOnceStr_eq_some_iff {pat : List Char} (hne : pat ≠ []) : ∀ {l a b : List Char},
    splitOnceStr pat l = some (a, b) ↔
      l = a ++ pat ++ b ∧ ∀ a' b', l = a' ++ pat ++ b' → a.length ≤ a'.length
  | [], a, b => by
    rw [splitOnceStr, if_neg hne]
    constructor
    · intro h
      cases h
    · rintro ⟨h, -⟩
      exact absurd (List.append_eq_nil_iff.1 (List.append_eq_nil_iff.1 h.symm).1).2 hne
  | x :: xs, a, b => by
    rw [splitOnceStr]
    by_cases hpre : pat.isPrefixOf (x :: xs) = true
    · rw [if_pos hpre]
      obtain ⟨rest, hrest⟩ := List.isPrefixOf_iff_prefix.1 hpre
      rw [← hrest, List.drop_left]
      constructor
      · intro h
        cases h
        exact ⟨rfl, fun a' b' _ => Nat.zero_le _⟩
      · rintro ⟨heq, hfirst⟩
        have hnil : a = [] := List.length_eq_zero_iff.1 (Nat.le_zero.1 (hfirst [] rest rfl))
        subst hnil
        rw [List.nil_append] at heq
        rw [List.append_cancel_left heq]
    · rw [if_neg hpre, Option.map_eq_some_iff]
      constructor
      · rintro ⟨⟨a₀, b₀⟩, h, hpair⟩
        cases hpair
        obtain ⟨rfl, hfirst⟩ := (splitOnceStr_eq_some_iff hne).1 h
        refine ⟨rfl, fun a' b' heq => ?_⟩
        cases a' with
        | nil =>
          rw [heq] at hpre
          exact absurd (isPrefixOf_append pat b') hpre
        | cons y a' => exact Nat.succ_le_succ (hfirst a' b' (List.cons.inj heq).2)
      · rintro ⟨heq, hfirst⟩
        cases a with
        | nil =>
          rw [heq] at hpre
          exact absurd (isPrefixOf_append pat b) hpre
        | cons y a₀ =>
          obtain ⟨rfl, hxs⟩ := List.cons.inj heq
          refine ⟨(a₀, b), (splitOnceStr_eq_some_iff hne).2 ⟨hxs, fun a' b' heq' => ?_⟩, rfl⟩
          exact Nat.le_of_succ_le_succ (hfirst (x :: a') b' (congrArg (x :: ·) heq'))

theorem splitOnceStr_eq_none_iff {pat : List Char} (hne : pat ≠ []) : ∀ {l : List Char},
    splitOnceStr pat l = none ↔ ¬ pat <:+: l
  | [] => by
    rw [splitOnceStr, if_neg hne]
    simp [hne]
  | x :: xs => by
    rw [splitOnceStr, List.infix_cons_iff, ← List.isPrefixOf_iff_prefix]
    by_cases hpre : pat.isPrefixOf (x :: xs) = true
    · simp [hpre]
    · rw [if_neg hpre, Option.map_eq_none_iff, splitOnceStr_eq_none_iff hne]
      simp [hpre]

/-- **The last occurrence.** -/
theorem rsplitOnceStr_eq_some_iff {pat : List Char} (hne : pat ≠ []) {l a b : List Char} :
    rsplitOnceStr pat l = some (a, b) ↔
      l = a ++ pat ++ b ∧ ∀ a' b', l = a' ++ pat ++ b' → b.length ≤ b'.length := by
  have hrev : ∀ a' b' : List Char, l = a' ++ pat ++ b' ↔ l.reverse = b'.reverse ++ pat.reverse ++ a'.reverse := by
    intro a' b'
    rw [← List.reverse_append, ← List.reverse_append, List.reverse_inj, List.append_assoc]
  unfold rsplitOnceStr
  rw [Option.map_eq_some_iff, hrev a b]
  constructor
  · rintro ⟨⟨b₀, a₀⟩, h, hpair⟩
    cases hpair
    obtain ⟨heq, hfirst⟩ := (splitOnceStr_eq_some_iff (mt List.reverse_eq_nil_iff.1 hne)).1 h
    rw [List.reverse_reverse, List.reverse_reverse]
    refine ⟨heq, fun a' b' heq' => ?_⟩
    rw [List.length_reverse]
    exact (hfirst _ _ ((hrev a' b').1 heq')).trans_eq List.length_reverse
  · rintro ⟨heq, hlast⟩
    refine ⟨(b.reverse, a.reverse), (splitOnceStr_eq_some_iff (mt List.reverse_eq_nil_iff.1 hne)).2
      ⟨heq, fun b' a' heq' => ?_⟩, by rw [List.reverse_reverse, List.reverse_reverse]⟩
    rw [List.length_reverse]
    refine (hlast a'.reverse b'.reverse ((hrev _ _).2 ?_)).trans_eq List.length_reverse
    rw [heq', List.reverse_reverse, List.reverse_reverse]

theorem rsplitOnceStr_eq_none_iff {pat : List Char} (hne : pat ≠ []) {l : List Char} :
    rsplitOnceStr pat l = none ↔ ¬ pat <:+: l := by
  rw [rsplitOnceStr, Option.map_eq_none_iff, splitOnceStr_eq_none_iff (mt List.reverse_eq_nil_iff.1 hne),
    List.reverse_infix]

theorem length_le_of_last {c : Char} {a b a' b' : List Char} (heq : a ++ c :: b = a' ++ c :: b') (h : c ∉ b) :
    b.length ≤ b'.length := by
  rcases List.append_eq_append_iff.1 heq with ⟨t, -, ht⟩ | ⟨t, -, ht⟩
  · cases t with
    | nil => exact Nat.le_of_eq (congrArg List.length (List.cons.inj ht).2)
    | cons y t =>
      rw [(List.cons.inj ht).2] at h
      exact absurd (List.mem_append_right t List.mem_cons_self) h
  · have hlength := congrArg List.length ht
    simp only [List.length_append, List.length_cons] at hlength
    omega

theorem rsplitOnceStr_singleton_iff {c : Char} {l a b : List Char} :
    rsplitOnceStr [c] l = some (a, b) ↔ l = a ++ c :: b ∧ c ∉ b := by
  rw [rsplitOnceStr_eq_some_iff (List.cons_ne_nil c [])]
  constructor
  · rintro ⟨rfl, hlast⟩
    refine ⟨by simp, fun hmem => ?_⟩
    obtain ⟨b₁, b₂, rfl⟩ := List.append_of_mem hmem
    have hle := hlast (a ++ c :: b₁) b₂ (by simp)
    simp only [List.length_append, List.length_cons] at hle
    omega
  · rintro ⟨rfl, hnot⟩
    refine ⟨by simp, fun a' b' heq => ?_⟩
    rw [List.append_assoc, List.singleton_append] at heq
    exact length_le_of_last heq hnot

/-! ## Between blanks -/

def Blank (l : List Char) : Prop := ∀ c ∈ l, isWhitespace c = true

theorem trimChars_blank_append {pre : List Char} (h : Blank pre) (l : List Char) :
    trimChars (pre ++ l) = trimChars l := by
  induction pre with
  | nil => rfl
  | cons c cs ih =>
    rw [List.cons_append, trimChars_cons (h c List.mem_cons_self)]
    exact ih (fun x hx => h x (List.mem_cons_of_mem _ hx))

theorem trimChars_append_blank {post : List Char} (h : Blank post) (l : List Char) :
    trimChars (l ++ post) = trimChars l := by
  induction post using List.reverseRecOn with
  | nil => rw [List.append_nil]
  | append_singleton cs c ih =>
    rw [← List.append_assoc, trimChars_concat (h c (List.mem_append_right _ List.mem_cons_self))]
    exact ih (fun x hx => h x (List.mem_append_left _ hx))

theorem trimChars_surrounded {pre post : List Char} (hpre : Blank pre) (hpost : Blank post) (l : List Char) :
    trimChars (pre ++ l ++ post) = trimChars l := by
  rw [trimChars_append_blank hpost, trimChars_blank_append hpre]

theorem blank_takeWhile (l : List Char) : Blank (l.takeWhile isWhitespace) := fun _ hc => List.mem_takeWhile_imp hc

/-- **A text is what is left of it when it is trimmed, between blanks.** -/
theorem exists_surrounded (l : List Char) : ∃ pre post, l = pre ++ trimChars l ++ post ∧ Blank pre ∧ Blank post := by
  refine ⟨l.takeWhile isWhitespace, (l.dropWhile isWhitespace).rtakeWhile isWhitespace, ?_, blank_takeWhile l, ?_⟩
  · unfold trimChars
    rw [List.append_assoc, List.rdropWhile_append_rtakeWhile, List.takeWhile_append_dropWhile]
  · exact fun c hc => List.mem_rtakeWhile_imp hc

theorem trimChars_of_ends {l : List Char} (hhead : ∀ c ∈ l.head?, isWhitespace c = false)
    (hlast : ∀ c ∈ l.getLast?, isWhitespace c = false) : trimChars l = l := by
  cases l with
  | nil => rfl
  | cons x xs =>
    have hx : isWhitespace x = false := hhead x rfl
    unfold trimChars
    rw [List.dropWhile_cons_of_neg (by rw [hx]; decide), List.rdropWhile_eq_self_iff]
    intro hne
    rw [hlast _ (List.getLast?_eq_getLast_of_ne_nil hne)]
    decide

/-! ## Pieces -/

theorem split_at (c : Char) (a b : List Char) : split c (a ++ c :: b) = split c a ++ split c b := by
  rw [split_eq_splitOn, split_eq_splitOn, split_eq_splitOn, List.splitOn, List.splitOnP_append_cons a b (by simp)]
  rfl

theorem split_behind {c : Char} {a : List Char} (h : c ∉ a) (l : List Char) :
    split c (a ++ l) = (split c l).modifyHead (fun piece => a ++ piece) := by
  induction a with
  | nil =>
    rw [List.nil_append]
    exact (congrFun List.modifyHead_id _).symm
  | cons x a ih =>
    rw [List.mem_cons, not_or] at h
    obtain ⟨piece, rest, hpieces, hcons⟩ := split_cons (Ne.symm h.1) (a ++ l)
    rw [List.cons_append, hcons]
    rw [ih h.2] at hpieces
    cases hsplit : split c l with
    | nil =>
      rw [hsplit] at hpieces
      cases hpieces
    | cons first others =>
      rw [hsplit] at hpieces
      cases hpieces
      rfl

theorem split_whole {c : Char} {l : List Char} (h : c ∉ l) : split c l = [l] := by
  have hpieces := split_behind h []
  rw [List.append_nil] at hpieces
  rw [hpieces, split, List.modifyHead_cons, List.append_nil]

/-- **The pieces of an encoded text** are the encoded pieces, when the code keeps the separator and does not make one. -/
theorem split_flatMap {c : Char} {f : Char → List Char} (hkeep : f c = [c]) (hmake : ∀ x, x ≠ c → c ∉ f x) :
    ∀ l : List Char, split c (l.flatMap f) = (split c l).map (fun piece => piece.flatMap f)
  | [] => rfl
  | x :: l => by
    rw [List.flatMap_cons]
    by_cases hx : x = c
    · subst hx
      rw [hkeep, List.singleton_append, split, if_pos rfl, split, if_pos rfl, split_flatMap hkeep hmake l]
      rfl
    · obtain ⟨piece, rest, hpieces, hcons⟩ := split_cons hx l
      rw [split_behind (hmake x hx), split_flatMap hkeep hmake l, hcons, hpieces, List.map_cons, List.map_cons,
        List.modifyHead_cons, List.flatMap_cons]

theorem split_ne_nil (c : Char) (l : List Char) : split c l ≠ [] := by
  rw [split_eq_splitOn]
  exact List.splitOnP_ne_nil _ l

theorem sublist_of_mem_split {c : Char} : ∀ {l piece : List Char}, piece ∈ split c l → piece.Sublist l
  | [], piece, h => by
    rw [List.mem_singleton.1 h]
  | x :: xs, piece, h => by
    by_cases hx : x = c
    · rw [split, if_pos hx] at h
      rcases List.mem_cons.1 h with rfl | h
      · exact List.nil_sublist _
      · exact (sublist_of_mem_split h).cons x
    · obtain ⟨first, rest, hpieces, hcons⟩ := split_cons hx xs
      rw [hcons] at h
      rcases List.mem_cons.1 h with rfl | h
      · exact (sublist_of_mem_split (hpieces ▸ List.mem_cons_self)).cons_cons x
      · exact (sublist_of_mem_split (hpieces ▸ List.mem_cons_of_mem _ h)).cons x

theorem split_intercalate_parts (c : Char) : ∀ {parts : List (List Char)}, parts ≠ [] →
    split c ([c].intercalate parts) = parts.flatMap (split c)
  | [], h => absurd rfl h
  | [part], _ => by simp
  | part :: next :: parts, _ => by
    rw [List.intercalate_cons_cons, List.append_assoc, List.singleton_append, split_at,
      split_intercalate_parts c (List.cons_ne_nil next parts), ← List.flatMap_cons]

theorem mem_intercalate {c x : Char} : ∀ {parts : List (List Char)}, x ∈ [c].intercalate parts →
    x = c ∨ ∃ part ∈ parts, x ∈ part
  | [], h => by cases h
  | [part], h => by
    rw [List.intercalate_singleton] at h
    exact .inr ⟨part, List.mem_cons_self, h⟩
  | part :: next :: parts, h => by
    rw [List.intercalate_cons_cons, List.append_assoc, List.singleton_append, List.mem_append, List.mem_cons] at h
    rcases h with h | h | h
    · exact .inr ⟨part, List.mem_cons_self, h⟩
    · exact .inl h
    · rcases mem_intercalate h with h | ⟨p, hp, hx⟩
      · exact .inl h
      · exact .inr ⟨p, List.mem_cons_of_mem _ hp, hx⟩

theorem mem_intercalate_of_mem {c x : Char} : ∀ {parts : List (List Char)} {part : List Char}, part ∈ parts → x ∈ part →
    x ∈ [c].intercalate parts
  | [only], part, hpart, hx => by
    rw [List.intercalate_singleton, ← List.mem_singleton.1 hpart]
    exact hx
  | first :: next :: parts, part, hpart, hx => by
    rw [List.intercalate_cons_cons]
    rcases List.mem_cons.1 hpart with rfl | hpart
    · exact List.mem_append_left _ (List.mem_append_left _ hx)
    · exact List.mem_append_right _ (mem_intercalate_of_mem hpart hx)

theorem intercalate_append (c : Char) : ∀ {pre post : List (List Char)}, pre ≠ [] → post ≠ [] →
    [c].intercalate (pre ++ post) = [c].intercalate pre ++ c :: [c].intercalate post
  | [], _, h, _ => absurd rfl h
  | [part], post, _, hpost => by
    rw [List.singleton_append, List.intercalate_cons_of_ne_nil hpost, List.intercalate_singleton, List.append_assoc,
      List.singleton_append]
  | part :: next :: pre, post, _, hpost => by
    have ih := intercalate_append c (List.cons_ne_nil next pre) hpost
    rw [List.cons_append] at ih
    rw [List.cons_append, List.cons_append, List.intercalate_cons_cons, ih, List.intercalate_cons_cons, List.append_assoc,
      List.append_assoc, List.append_assoc]

/-- **The pieces in front of the last one** are those with a separator behind them. -/
theorem mem_dropLast_split_iff {c : Char} {w l : List Char} (hw : c ∉ w) :
    w ∈ (split c l).dropLast ↔ w ++ [c] <+: l ∨ c :: (w ++ [c]) <:+: l := by
  constructor
  · intro h
    obtain ⟨pre, post, hdrop⟩ := List.append_of_mem h
    have hpieces := List.dropLast_append_getLast (split_ne_nil c l)
    rw [hdrop, List.append_assoc, List.cons_append] at hpieces
    have hjoin := intercalate_split c l
    rw [← hpieces] at hjoin
    have hpost : post ++ [(split c l).getLast (split_ne_nil c l)] ≠ [] :=
      List.append_ne_nil_of_right_ne_nil post (List.cons_ne_nil _ [])
    rw [← hjoin]
    cases pre with
    | nil =>
      left
      rw [List.nil_append, List.intercalate_cons_of_ne_nil hpost]
      exact List.prefix_append _ _
    | cons first pre =>
      right
      rw [intercalate_append c (List.cons_ne_nil first pre) (List.cons_ne_nil w _), List.intercalate_cons_of_ne_nil hpost,
        ← List.cons_append]
      exact List.infix_append' _ _ _
  · have hbehind : ∀ rest, w ∈ ([w] ++ split c rest).dropLast := fun rest => by
      rw [List.dropLast_append_of_ne_nil (split_ne_nil c rest)]
      exact List.mem_append_left _ List.mem_cons_self
    rintro (⟨rest, rfl⟩ | ⟨before, rest, rfl⟩)
    · rw [List.append_assoc, List.singleton_append, split_at, split_whole hw]
      exact hbehind rest
    · rw [List.append_assoc, List.cons_append, List.append_assoc, List.singleton_append, split_at, split_at, split_whole hw,
        List.dropLast_append_of_ne_nil (List.append_ne_nil_of_left_ne_nil (List.cons_ne_nil w []) _)]
      exact List.mem_append_right _ (hbehind rest)

/-! ## Words -/

/-- `str::split_whitespace`. -/
def splitWhitespace (l : List Char) : List (List Char) := (l.splitOnP isWhitespace).filter (· ≠ [])

theorem splitWhitespace_append {w : Char} (hw : isWhitespace w = true) (a b : List Char) :
    splitWhitespace (a ++ w :: b) = splitWhitespace a ++ splitWhitespace b := by
  rw [splitWhitespace, List.splitOnP_append_cons a b hw, List.filter_append]
  rfl

theorem splitWhitespace_word {word : List Char} (hne : word ≠ []) (hword : ∀ c ∈ word, isWhitespace c = false) :
    splitWhitespace word = [word] := by
  rw [splitWhitespace, List.splitOnP_eq_singleton hword, List.filter_cons_of_pos (by simpa using hne), List.filter_nil]

theorem splitWhitespace_blank : ∀ {l : List Char}, Blank l → splitWhitespace l = []
  | [], _ => rfl
  | w :: l, h => by
    have hrest : Blank l := fun c hc => h c (List.mem_cons_of_mem _ hc)
    rw [← List.nil_append (w :: l), splitWhitespace_append (h w List.mem_cons_self), splitWhitespace_blank hrest]
    rfl

theorem splitWhitespace_append_blank {l post : List Char} (h : Blank post) :
    splitWhitespace (l ++ post) = splitWhitespace l := by
  cases post with
  | nil => rw [List.append_nil]
  | cons w post =>
    have hrest : Blank post := fun c hc => h c (List.mem_cons_of_mem _ hc)
    rw [splitWhitespace_append (h w List.mem_cons_self), splitWhitespace_blank hrest, List.append_nil]

theorem splitWhitespace_blank_append : ∀ {pre : List Char} (_ : Blank pre) (l : List Char),
    splitWhitespace (pre ++ l) = splitWhitespace l
  | [], _, l => rfl
  | w :: pre, h, l => by
    have hrest : Blank pre := fun c hc => h c (List.mem_cons_of_mem _ hc)
    rw [List.cons_append, ← List.nil_append (w :: (pre ++ l)), splitWhitespace_append (h w List.mem_cons_self),
      splitWhitespace_blank_append hrest l]
    rfl

theorem splitWhitespace_ne_nil {c : Char} (hc : isWhitespace c = false) : ∀ {l : List Char}, c ∈ l →
    splitWhitespace l ≠ []
  | x :: l, h => by
    by_cases hx : isWhitespace x = true
    · have hl : c ∈ l := by
        rcases List.mem_cons.1 h with rfl | h
        · rw [hx] at hc
          cases hc
        · exact h
      rw [← List.nil_append (x :: l), splitWhitespace_append hx]
      exact splitWhitespace_ne_nil hc hl
    · rw [splitWhitespace, List.splitOnP_cons_eq_if_modifyHead, if_neg hx]
      cases hpieces : l.splitOnP isWhitespace with
      | nil => exact absurd hpieces (List.splitOnP_ne_nil _ _)
      | cons piece rest => simp

/-- **Blanks around a text are not in its words.** -/
theorem splitWhitespace_trimChars (l : List Char) : splitWhitespace (trimChars l) = splitWhitespace l := by
  obtain ⟨pre, post, hl, hpre, hpost⟩ := exists_surrounded l
  conv_rhs => rw [hl, splitWhitespace_append_blank hpost, splitWhitespace_blank_append hpre]

/-! ## The case of an ASCII letter -/

theorem toLower_cases (c : Char) :
    c.toLower = c ∨ 65 ≤ c.toNat ∧ c.toNat ≤ 90 ∧ c.toLower.toNat = c.toNat + 32 := by
  by_cases h : c.val ≥ 'A'.val ∧ c.val ≤ 'Z'.val
  · right
    have hlow : 65 ≤ c.toNat := UInt32.le_iff_toNat_le.mp h.1
    have hhigh : c.toNat ≤ 90 := UInt32.le_iff_toNat_le.mp h.2
    refine ⟨hlow, hhigh, ?_⟩
    have hval : c.toLower.val = c.val + ('a'.val - 'A'.val) := congrArg Char.val (dif_pos h)
    have hdiff : ('a'.val - 'A'.val).toNat = 32 := by decide
    have hword : c.val.toNat ≤ 90 := hhigh
    show c.toLower.val.toNat = c.val.toNat + 32
    rw [hval, UInt32.toNat_add, hdiff]
    omega
  · exact .inl (dif_neg h)

end RustStr
