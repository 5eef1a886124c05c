import Mathlib.Data.List.Perm.Subperm
import HubAgent.Lib.Fallible
import HubAgent.Lib.RustStr
/-!
# Keyword and value parameters

The text of a connection in its keyword form: `key=value` parameters with white space between them.  A value is plain
up to the next white space, or between apostrophes; a backslash takes the character behind it as it is.  A parameter
without a keyword ends the text.

A parsed parameter is never longer than the text it was read from, and as long only when its value stands there as it
is: so a rendered text whose parameters are read back has only plain values (`plain_of_read_back`).
-/
namespace KeyValue

open RustStr (isWhitespace)

abbrev Params := List (List Char × List Char)

inductive ParseError where
  | unexpected (found : Option Char)
  | emptyValue
  | unterminated
  deriving DecidableEq

/-! ## The grammar -/

def isKeyChar (c : Char) : Bool := !isWhitespace c && c != '='

/-- A value without apostrophes, and the text behind it. -/
def simpleValue : List Char → List Char × List Char
  | [] => ([], [])
  | c :: l =>
    if c = '\\' then
      match l with
      | [] => ([], [])
      | d :: l => (d :: (simpleValue l).1, (simpleValue l).2)
    else if isWhitespace c then ([], c :: l)
    else (c :: (simpleValue l).1, (simpleValue l).2)

/-- A value up to its closing apostrophe, and the text behind that. -/
def quotedValue : List Char → Option (List Char × List Char)
  | [] => none
  | c :: l =>
    if c = '\x27' then some ([], l)
    else if c = '\\' then
      match l with
      | [] => none
      | d :: l => (quotedValue l).map (fun r => (d :: r.1, r.2))
    else (quotedValue l).map (fun r => (c :: r.1, r.2))

def value (l : List Char) : Except ParseError (List Char × List Char) :=
  if l.head? = some '\x27' then
    match quotedValue l.tail with
    | some r => .ok r
    | none => .error .unterminated
  else if (simpleValue l).1 = [] then .error .emptyValue
  else .ok (simpleValue l)

/-- The next parameter and the text behind it, or none where no keyword stands. -/
def parameter (l : List Char) : Except ParseError (Option ((List Char × List Char) × List Char)) :=
  let l := l.dropWhile isWhitespace
  let key := l.takeWhile isKeyChar
  if key = [] then .ok none
  else
    match (l.dropWhile isKeyChar).dropWhile isWhitespace with
    | '=' :: l => (value (l.dropWhile isWhitespace)).map (fun r => some ((key, r.1), r.2))
    | l => .error (.unexpected l.head?)

/-- A turn for each parameter; there are fewer than letters. -/
def parseUpTo : Nat → List Char → Except ParseError Params
  | 0, _ => .ok []
  | n + 1, l =>
    match parameter l with
    | .error e => .error e
    | .ok none => .ok []
    | .ok (some (param, rest)) => (parseUpTo n rest).map (param :: ·)

def parse (l : List Char) : Except ParseError Params := parseUpTo (l.length + 1) l

def render (params : Params) : List Char := [' '].intercalate (params.map (fun p => p.1 ++ '=' :: p.2))

/-- The value a keyword has: the last one that is given. -/
def lastOf (params : Params) (key : List Char) : Option (List Char) := params.reverse.lookup key

/-- A value that stands for itself. -/
structure Plain (v : List Char) : Prop where
  ne_nil : v ≠ []
  head : v.head? ≠ some '\x27'
  chars : ∀ c ∈ v, isWhitespace c = false ∧ c ≠ '\\'

def IsKey (key : List Char) : Prop := key ≠ [] ∧ key.all isKeyChar = true

instance (key : List Char) : Decidable (IsKey key) := inferInstanceAs (Decidable (_ ∧ _))

section OneCharacter

variable {c : Char} {l : List Char}

theorem simpleValue_space (h : isWhitespace c = true) (l : List Char) : simpleValue (c :: l) = ([], c :: l) := by
  have hslash : c ≠ '\\' := by
    rintro rfl
    revert h
    decide
  cases l <;> simp [simpleValue, h, hslash]

theorem simpleValue_char (h : isWhitespace c = false) (hslash : c ≠ '\\') (l : List Char) :
    simpleValue (c :: l) = (c :: (simpleValue l).1, (simpleValue l).2) := by
  cases l <;> simp [simpleValue, h, hslash]

theorem simpleValue_escape (d : Char) (l : List Char) :
    simpleValue ('\\' :: d :: l) = (d :: (simpleValue l).1, (simpleValue l).2) := by
  simp [simpleValue]

theorem quotedValue_close (l : List Char) : quotedValue ('\x27' :: l) = some ([], l) := by
  cases l <;> simp [quotedValue]

theorem quotedValue_char (hquote : c ≠ '\x27') (hslash : c ≠ '\\') (l : List Char) :
    quotedValue (c :: l) = (quotedValue l).map (fun r => (c :: r.1, r.2)) := by
  cases l <;> simp [quotedValue, hquote, hslash]

theorem quotedValue_escape (d : Char) (l : List Char) :
    quotedValue ('\\' :: d :: l) = (quotedValue l).map (fun r => (d :: r.1, r.2)) := by
  simp [quotedValue]

end OneCharacter

/-! ## Plain values are read back -/

theorem simpleValue_append {v rest : List Char} (hv : ∀ c ∈ v, isWhitespace c = false ∧ c ≠ '\\')
    (hrest : ∀ c ∈ rest.head?, isWhitespace c = true) : simpleValue (v ++ rest) = (v, rest) := by
  induction v with
  | nil =>
    cases rest with
    | nil => rfl
    | cons c rest => exact simpleValue_space (hrest c rfl) rest
  | cons c v ih =>
    obtain ⟨hspace, hslash⟩ := hv c List.mem_cons_self
    have hrec := ih (fun d hd => hv d (List.mem_cons_of_mem c hd))
    rw [List.cons_append, simpleValue_char hspace hslash, hrec]

theorem value_plain {v rest : List Char} (hv : Plain v) (hrest : ∀ c ∈ rest.head?, isWhitespace c = true) :
    value (v ++ rest) = .ok (v, rest) := by
  have hhead : (v ++ rest).head? ≠ some '\x27' := by
    rw [List.head?_append_of_ne_nil _ hv.ne_nil]
    exact hv.head
  rw [value, if_neg hhead, simpleValue_append hv.chars hrest, if_neg hv.ne_nil]

theorem takeWhile_key {key : List Char} (hkey : IsKey key) (rest : List Char) :
    (key ++ '=' :: rest).takeWhile isKeyChar = key ∧ (key ++ '=' :: rest).dropWhile isKeyChar = '=' :: rest := by
  have heq : isKeyChar '=' = false := by decide
  have hchars := List.all_eq_true.1 hkey.2
  constructor
  · rw [List.takeWhile_append_of_pos hchars, List.takeWhile_cons_of_neg (by simp [heq]), List.append_nil]
  · rw [List.dropWhile_append_of_pos hchars, List.dropWhile_cons_of_neg (by simp [heq])]

theorem IsKey.isKeyChar {key : List Char} (h : IsKey key) {c : Char} (hc : c ∈ key) : isKeyChar c = true :=
  List.all_eq_true.1 h.2 c hc

theorem not_space_of_key {c : Char} (h : isKeyChar c = true) : isWhitespace c = false := by
  unfold isKeyChar at h
  simpa using (Bool.and_eq_true_iff.1 h).1

theorem dropWhile_space {l : List Char} (h : ∀ c ∈ l.head?, isWhitespace c = false) : l.dropWhile isWhitespace = l := by
  cases l with
  | nil => rfl
  | cons c l => exact List.dropWhile_cons_of_neg (by simp [h c rfl])

theorem parameter_plain {key v rest : List Char} (hkey : IsKey key) (hv : Plain v)
    (hrest : ∀ c ∈ rest.head?, isWhitespace c = true) :
    parameter (key ++ '=' :: (v ++ rest)) = .ok (some ((key, v), rest)) := by
  have hstart : (key ++ '=' :: (v ++ rest)).dropWhile isWhitespace = key ++ '=' :: (v ++ rest) := by
    apply dropWhile_space
    intro c hc
    rw [List.head?_append_of_ne_nil _ hkey.1] at hc
    exact not_space_of_key (hkey.isKeyChar (List.mem_of_mem_head? hc))
  have hvalue : (v ++ rest).dropWhile isWhitespace = v ++ rest := by
    apply dropWhile_space
    intro c hc
    rw [List.head?_append_of_ne_nil _ hv.ne_nil] at hc
    exact (hv.chars c (List.mem_of_mem_head? hc)).1
  obtain ⟨htake, hdrop⟩ := takeWhile_key hkey (v ++ rest)
  have hequals : ('=' :: (v ++ rest)).dropWhile isWhitespace = '=' :: (v ++ rest) :=
    dropWhile_space (fun c hc => by cases hc; decide)
  unfold parameter
  simp only [hstart, htake, hdrop, hequals, if_neg hkey.1, hvalue, value_plain hv hrest]
  rfl

theorem parameter_space {w : Char} (hw : isWhitespace w = true) (l : List Char) : parameter (w :: l) = parameter l := by
  unfold parameter
  rw [List.dropWhile_cons_of_pos hw]

theorem parseUpTo_space {w : Char} (hw : isWhitespace w = true) (n : Nat) (l : List Char) :
    parseUpTo n (w :: l) = parseUpTo n l := by
  cases n with
  | zero => rfl
  | succ n => rw [parseUpTo, parseUpTo, parameter_space hw]

theorem render_cons (p q : List Char × List Char) (params : Params) :
    render (p :: q :: params) = p.1 ++ '=' :: (p.2 ++ ' ' :: render (q :: params)) := by
  simp [render, List.intercalate_cons_cons]

theorem parseUpTo_render {params : Params} (h : ∀ p ∈ params, IsKey p.1 ∧ Plain p.2) :
    ∀ {n : Nat}, params.length < n → parseUpTo n (render params) = .ok params := by
  induction params with
  | nil =>
    intro n hn
    cases n with
    | zero => cases hn
    | succ n => rfl
  | cons p params ih =>
    intro n hn
    obtain ⟨hkey, hplain⟩ := h p List.mem_cons_self
    have hrest := fun q hq => h q (List.mem_cons_of_mem p hq)
    cases n with
    | zero => cases hn
    | succ n =>
      rw [List.length_cons] at hn
      cases params with
      | nil =>
        have hone : render [p] = p.1 ++ '=' :: (p.2 ++ []) := by simp [render]
        have hend : parseUpTo n [] = .ok [] := ih hrest (by omega)
        rw [hone, parseUpTo, parameter_plain hkey hplain (fun c hc => by cases hc)]
        simp only [hend]
        rfl
      | cons q params =>
        have hnext : parseUpTo n (render (q :: params)) = .ok (q :: params) := ih hrest (by omega)
        rw [render_cons, parseUpTo, parameter_plain hkey hplain (fun c hc => by cases hc; decide)]
        simp only [parseUpTo_space (show isWhitespace ' ' = true by decide), hnext]
        rfl

/-! ## The size of what is parsed -/

/-- The letters of the parameters, with an `=` and a space for each. -/
def size : Params → Nat
  | [] => 0
  | p :: params => p.1.length + p.2.length + 2 + size params

theorem length_render {params : Params} (h : params ≠ []) : (render params).length + 1 = size params := by
  induction params with
  | nil => exact absurd rfl h
  | cons p params ih =>
    cases params with
    | nil =>
      simp [render, size]
      omega
    | cons q params =>
      have hrest := ih (List.cons_ne_nil q params)
      rw [render_cons, size, ← hrest]
      simp
      omega

theorem length_le_size (params : Params) : params.length ≤ size params := by
  induction params with
  | nil => exact Nat.le_refl 0
  | cons p params ih =>
    rw [List.length_cons, size]
    omega

/-- **Rendered parameters with plain values are read back.** -/
theorem parse_render {params : Params} (h : ∀ p ∈ params, IsKey p.1 ∧ Plain p.2) :
    parse (render params) = .ok params := by
  unfold parse
  apply parseUpTo_render h
  cases params with
  | nil => exact Nat.zero_lt_succ _
  | cons p params =>
    have hlength := length_render (List.cons_ne_nil p params)
    have hle := length_le_size params
    rw [size] at hlength
    rw [List.length_cons]
    omega

/-- A simple value is no longer than the text it is read from, which then holds it as it is, and white space ends it. -/
theorem simpleValue_length : ∀ (l : List Char), (simpleValue l).1.length + (simpleValue l).2.length ≤ l.length ∧
    ((simpleValue l).1.length + (simpleValue l).2.length = l.length → l = (simpleValue l).1 ++ (simpleValue l).2 ∧
      ∀ c ∈ (simpleValue l).1, isWhitespace c = false ∧ c ≠ '\\') ∧
    ∀ c ∈ (simpleValue l).2.head?, isWhitespace c = true
  | [] => by simp [simpleValue]
  | c :: l => by
    by_cases hspace : isWhitespace c = true
    · rw [simpleValue_space hspace]
      simp [hspace]
    · rw [Bool.not_eq_true] at hspace
      by_cases hslash : c = '\\'
      · subst hslash
        cases l with
        | nil => simp [simpleValue]
        | cons d l =>
          obtain ⟨hle, -, hend⟩ := simpleValue_length l
          rw [simpleValue_escape]
          refine ⟨?_, fun heq => ?_, hend⟩
          · simp only [List.length_cons]
            omega
          · simp only [List.length_cons] at heq
            omega
      · obtain ⟨hle, heq, hend⟩ := simpleValue_length l
        rw [simpleValue_char hspace hslash]
        refine ⟨?_, fun hsame => ?_, hend⟩
        · simp only [List.length_cons]
          omega
        · simp only [List.length_cons] at hsame
          obtain ⟨happend, hchars⟩ := heq (by omega)
          refine ⟨congrArg (c :: ·) happend, fun d hd => ?_⟩
          rcases List.mem_cons.1 hd with rfl | hd
          · exact ⟨hspace, hslash⟩
          · exact hchars d hd

theorem quotedValue_length : ∀ {l v rest : List Char}, quotedValue l = some (v, rest) →
    v.length + rest.length + 1 ≤ l.length
  | [], v, rest, h => by cases h
  | c :: l, v, rest, h => by
    by_cases hquote : c = '\x27'
    · subst hquote
      rw [quotedValue_close] at h
      cases h
      simp
    · by_cases hslash : c = '\\'
      · subst hslash
        cases l with
        | nil => cases h
        | cons d l =>
          rw [quotedValue_escape] at h
          obtain ⟨⟨v', rest'⟩, hrec, hpair⟩ := Option.map_eq_some_iff.1 h
          cases hpair
          have hle := quotedValue_length hrec
          simp only [List.length_cons]
          omega
      · rw [quotedValue_char hquote hslash] at h
        obtain ⟨⟨v', rest'⟩, hrec, hpair⟩ := Option.map_eq_some_iff.1 h
        cases hpair
        have hle := quotedValue_length hrec
        simp only [List.length_cons]
        omega

/-- **A value is shorter than its text**, or it is there as it is; white space ends it unless it was quoted. -/
theorem value_cases {l v rest : List Char} (h : value l = .ok (v, rest)) :
    v.length + rest.length + 2 ≤ l.length ∨
      (∀ c ∈ rest.head?, isWhitespace c = true) ∧
        (v.length + rest.length < l.length ∨ v.length + rest.length = l.length ∧ Plain v) := by
  unfold value at h
  by_cases hquote : l.head? = some '\x27'
  · rw [if_pos hquote] at h
    cases l with
    | nil => cases hquote
    | cons c l =>
      cases hquoted : quotedValue l with
      | none =>
        rw [List.tail_cons, hquoted] at h
        cases h
      | some r =>
        rw [List.tail_cons, hquoted] at h
        cases h
        have hle := quotedValue_length hquoted
        rw [List.length_cons]
        exact .inl (by omega)
  · rw [if_neg hquote] at h
    split_ifs at h with hnil
    obtain ⟨hle, heq, hend⟩ := simpleValue_length l
    generalize simpleValue l = r at h hnil hle heq hend
    cases h
    refine .inr ⟨hend, ?_⟩
    by_cases hsame : v.length + rest.length = l.length
    · obtain ⟨rfl, hchars⟩ := heq hsame
      rw [List.head?_append_of_ne_nil _ hnil] at hquote
      exact .inr ⟨hsame, hnil, hquote, hchars⟩
    · exact .inl (by dsimp only at hle; omega)

theorem parameter_length {l k v rest : List Char} (h : parameter l = .ok (some ((k, v), rest))) :
    ∃ l', value l' = .ok (v, rest) ∧ k.length + 1 + l'.length ≤ l.length := by
  unfold parameter at h
  dsimp only at h
  generalize hl₁ : l.dropWhile isWhitespace = l₁ at h
  have hle₁ : l₁.length ≤ l.length := hl₁ ▸ (List.dropWhile_sublist _).length_le
  by_cases hkey : l₁.takeWhile isKeyChar = []
  · rw [if_pos hkey] at h
    cases h
  rw [if_neg hkey] at h
  split at h
  · rename_i l₂ hequals
    obtain ⟨⟨v', rest'⟩, hvalue, hpair⟩ := (Fallible.map_eq_ok_iff).1 h
    cases hpair
    refine ⟨_, hvalue, ?_⟩
    have hsplit := congrArg List.length (List.takeWhile_append_dropWhile (p := isKeyChar) (l := l₁))
    have hle₂ := (List.dropWhile_sublist isWhitespace (l := l₁.dropWhile isKeyChar)).length_le
    have hle₃ := (List.dropWhile_sublist isWhitespace (l := l₂)).length_le
    rw [hequals, List.length_cons] at hle₂
    rw [List.length_append] at hsplit
    omega
  · cases h

/-- **What is parsed is no longer than its text**, and as long only when every value is plain. -/
theorem size_le : ∀ {n : Nat} {l : List Char} {params : Params}, parseUpTo n l = .ok params →
    size params ≤ l.length + 1 ∧ (size params = l.length + 1 → ∀ p ∈ params, Plain p.2)
  | 0, l, params, h => by
    cases h
    exact ⟨Nat.zero_le _, fun _ p hp => by cases hp⟩
  | n + 1, l, params, h => by
    rw [parseUpTo] at h
    split at h
    · cases h
    · cases h
      exact ⟨Nat.zero_le _, fun _ p hp => by cases hp⟩
    rename_i param rest hparam
    obtain ⟨k, v⟩ := param
    obtain ⟨params, hrest, rfl⟩ := (Fallible.map_eq_ok_iff).1 h
    obtain ⟨l', hvalue, hle⟩ := parameter_length hparam
    have hsize : size ((k, v) :: params) = k.length + v.length + 2 + size params := rfl
    rw [hsize]
    rcases value_cases hvalue with hquoted | ⟨hend, hsimple⟩
    · obtain ⟨ih, -⟩ := size_le hrest
      exact ⟨by omega, fun _ => by omega⟩
    -- white space ends the value, and is not part of what follows
    have hbound : size params ≤ rest.length ∧ (size params = rest.length → ∀ p ∈ params, Plain p.2) := by
      cases rest with
      | nil =>
        have hnil : params = [] := by
          cases n with
          | zero => exact (Except.ok.inj hrest).symm
          | succ n => exact (Except.ok.inj hrest).symm
        subst hnil
        exact ⟨Nat.le_refl 0, fun _ p hp => by cases hp⟩
      | cons w rest =>
        rw [parseUpTo_space (hend w rfl)] at hrest
        exact size_le hrest
    rcases hsimple with hshort | ⟨hsame, hplain⟩
    · exact ⟨by omega, fun _ => by omega⟩
    · refine ⟨by omega, fun heq p hp => ?_⟩
      rcases List.mem_cons.1 hp with rfl | hp
      · exact hplain
      · exact hbound.2 (by omega) p hp

theorem size_perm {params params' : Params} (h : params.Perm params') : size params = size params' := by
  induction h with
  | nil => rfl
  | cons p _ ih => rw [size, size, ih]
  | swap p q l =>
    simp only [size]
    omega
  | trans _ _ ih ih' => rw [ih, ih']

theorem size_sublist {params params' : Params} (h : params.Sublist params') : size params ≤ size params' := by
  induction h with
  | slnil => exact Nat.le_refl 0
  | cons p _ ih =>
    rw [size]
    omega
  | cons_cons p _ ih =>
    rw [size, size]
    omega

/-- **Parameters that are read back from their rendering have plain values**, whatever else is read. -/
theorem plain_of_read_back {params read : Params} (hne : params ≠ []) (hnodup : params.Nodup)
    (hparse : parse (render params) = .ok read) (hsub : ∀ p ∈ params, p ∈ read) : ∀ p ∈ params, Plain p.2 := by
  obtain ⟨hle, hplain⟩ := size_le hparse
  obtain ⟨same, hperm, hsublist⟩ := List.subperm_of_subset hnodup (fun p hp => hsub p hp)
  have hsize : size params ≤ size read := (size_perm hperm).symm.trans_le (size_sublist hsublist)
  have hlength := length_render hne
  exact fun p hp => hplain (by omega) p (hsub p hp)

end KeyValue
