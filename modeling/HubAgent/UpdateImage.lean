import HubAgent.Lib.Slices
import HubAgent.Lib.StrParts
import HubAgent.Executor
/-!
# The image references that `update_agent` accepts (`executor.rs`)

The validator looks for a digest from the right, then for a tag from the right, and tests some of the pieces.  The
documented references are a grammar on what follows the allowed prefix; `image_grammar_iff` says at which texts the two
part.
-/
namespace HubAgent
namespace Executor

open RustStr (isAsciiHexdigit rsplitOnceStr)

/-! ## The grammar -/

def IsImageName (name : List Char) : Prop := name ≠ [] ∧ ':' ∉ name ∧ '@' ∉ name

def IsTag (tag : List Char) : Prop := tag ≠ [] ∧ '/' ∉ tag ∧ '@' ∉ tag

def IsSha256 (digest : List Char) : Prop := digest.length = 64 ∧ ∀ c ∈ digest, isAsciiHexdigit c = true

def sha256Mark : List Char := "@sha256:".toList

/-- What may stand before a digest. -/
inductive Named : List Char → Prop
  | untagged {name : List Char} (hname : IsImageName name) : Named name
  | tagged {name tag : List Char} (hname : IsImageName name) (htag : IsTag tag) : Named (name ++ ':' :: tag)

/-- What may follow the allowed prefix. -/
inductive Reference : List Char → Prop
  | tagged {name tag : List Char} (hname : IsImageName name) (htag : IsTag tag) : Reference (name ++ ':' :: tag)
  | pinned {named digest : List Char} (hnamed : Named named) (hdigest : IsSha256 digest) :
      Reference (named ++ sha256Mark ++ digest)

/-- **The documented references, and no others, are accepted**, without the blanks around them. -/
structure AcceptsDocumented (image : String) : Prop where
  accepted : (∃ r, validateUpdateAgentImage image = .ok r) ↔
    ∃ suffix, (RustStr.trim image).toList = updateAgentAllowedPrefix.toList ++ suffix ∧ Reference suffix
  trimmed : ∀ r, validateUpdateAgentImage image = .ok r → r = RustStr.trim image

/-! ## What the validator accepts -/

inductive Accepted : List Char → Prop
  | pinned {named digest : List Char} (hdigest : IsSha256 digest) : Accepted (named ++ sha256Mark ++ digest)
  | tagged {name tag : List Char} (hmark : ¬ sha256Mark <:+: name ++ ':' :: tag) (hname : name ≠ []) (htag : tag ≠ [])
      (hlast : ':' ∉ tag) : Accepted (name ++ ':' :: tag)

theorem IsSha256.not_at {digest : List Char} (h : IsSha256 digest) : '@' ∉ digest := by
  intro hmem
  cases h.2 '@' hmem

theorem Named.not_at {named : List Char} (h : Named named) : '@' ∉ named := by
  cases h with
  | untagged hname => exact hname.2.2
  | tagged hname htag =>
    intro hmem
    rcases List.mem_append.1 hmem with hmem | hmem
    · exact hname.2.2 hmem
    · rcases List.mem_cons.1 hmem with heq | hmem
      · cases heq
      · exact htag.2.2 hmem

theorem sha256Mark_ne_nil : sha256Mark ≠ [] := by decide

theorem at_mem_sha256Mark : '@' ∈ sha256Mark := by decide

theorem not_mark_of_not_at {l : List Char} (h : '@' ∉ l) : ¬ sha256Mark <:+: l :=
  fun hinside => h (hinside.subset at_mem_sha256Mark)

theorem sha256Mark_eq : sha256Mark = '@' :: "sha256:".toList := by decide

theorem rsplitOnceStr_mark {named digest : List Char} (hdigest : '@' ∉ digest) :
    rsplitOnceStr sha256Mark (named ++ sha256Mark ++ digest) = some (named, digest) := by
  have hnot : '@' ∉ "sha256:".toList ++ digest := by simp [hdigest]
  refine (RustStr.rsplitOnceStr_eq_some_iff sha256Mark_ne_nil).2 ⟨rfl, fun named' digest' heq => ?_⟩
  simp only [sha256Mark_eq, List.append_assoc, List.cons_append] at heq
  have hle := RustStr.length_le_of_last heq hnot
  simp only [List.length_append] at hle
  omega

theorem accepted_iff {suffix : List Char} : Accepted suffix ↔
    match rsplitOnceStr sha256Mark suffix with
    | some (_, digest) => IsSha256 digest
    | none => ∃ name tag, rsplitOnceStr [':'] suffix = some (name, tag) ∧ name ≠ [] ∧ tag ≠ [] := by
  constructor
  · rintro (hdigest | ⟨hmark, hname, htag, hlast⟩)
    · rw [rsplitOnceStr_mark hdigest.not_at]
      exact hdigest
    · rw [(RustStr.rsplitOnceStr_eq_none_iff sha256Mark_ne_nil).2 hmark]
      exact ⟨_, _, RustStr.rsplitOnceStr_singleton_iff.2 ⟨rfl, hlast⟩, hname, htag⟩
  · cases hsplit : rsplitOnceStr sha256Mark suffix with
    | some p =>
      obtain ⟨rfl, -⟩ := (RustStr.rsplitOnceStr_eq_some_iff sha256Mark_ne_nil).1 hsplit
      exact .pinned
    | none =>
      rintro ⟨name, tag, htag, hname, hne⟩
      obtain ⟨rfl, hlast⟩ := RustStr.rsplitOnceStr_singleton_iff.1 htag
      exact .tagged ((RustStr.rsplitOnceStr_eq_none_iff sha256Mark_ne_nil).1 hsplit) hname hne hlast

theorem Accepted.ne_nil {suffix : List Char} (h : Accepted suffix) : suffix ≠ [] ∧ suffix ≠ ['/'] := by
  cases h with
  | pinned hdigest =>
    have hlength : sha256Mark.length = 8 := by decide
    constructor
    · intro heq
      have := congrArg List.length heq
      simp only [List.length_append, List.length_nil] at this
      omega
    · intro heq
      have := congrArg List.length heq
      simp only [List.length_append, List.length_singleton] at this
      omega
  | @tagged name tag hmark hname htag hlast =>
    constructor
    · simp
    · cases name with
      | nil => exact absurd rfl hname
      | cons c name => simp

theorem ok_if_iff {p : Prop} [Decidable p] {image r message : String} :
    (if p then Except.ok image else Except.error message) = .ok r ↔ r = image ∧ p := by
  split_ifs with h
  · simp [h, eq_comm]
  · simp [h]

theorem error_if_iff {p : Prop} [Decidable p] {image r message : String} :
    (if p then Except.error message else Except.ok image) = .ok r ↔ r = image ∧ ¬ p := by
  split_ifs with h
  · simp [h]
  · simp [h, eq_comm]

/-- **What the validator accepts.** -/
theorem validateUpdateAgentImage_eq_ok_iff {image r : String} : validateUpdateAgentImage image = .ok r ↔
    r = RustStr.trim image ∧
      ∃ suffix, (RustStr.trim image).toList = updateAgentAllowedPrefix.toList ++ suffix ∧ Accepted suffix := by
  unfold validateUpdateAgentImage
  dsimp only
  by_cases hempty : RustStr.trim image = ""
  · rw [if_pos hempty]
    constructor
    · intro h
      cases h
    · rintro ⟨-, suffix, hsuffix, -⟩
      rw [hempty] at hsuffix
      have hhead := (List.append_eq_nil_iff.1 hsuffix.symm).1
      exact absurd hhead (by decide)
  rw [if_neg hempty]
  by_cases hhead : updateAgentAllowedPrefix.toList.isPrefixOf (RustStr.trim image).toList = true
  · obtain ⟨suffix, hsuffix⟩ := List.isPrefixOf_iff_prefix.1 hhead
    rw [if_neg (by rw [hhead]; decide), ← hsuffix, List.drop_left]
    have honly : (∃ suffix', updateAgentAllowedPrefix.toList ++ suffix = updateAgentAllowedPrefix.toList ++ suffix' ∧
        Accepted suffix') ↔ Accepted suffix := by
      constructor
      · rintro ⟨suffix', heq, h⟩
        rwa [List.append_cancel_left heq]
      · exact fun h => ⟨suffix, rfl, h⟩
    rw [honly]
    by_cases hshort : suffix = [] ∨ suffix = ['/']
    · rw [if_pos hshort]
      constructor
      · intro h
        cases h
      · rintro ⟨-, h⟩
        rcases hshort with heq | heq
        · exact absurd heq h.ne_nil.1
        · exact absurd heq h.ne_nil.2
    rw [if_neg hshort, accepted_iff]
    have hmark : "@sha256:".toList = sha256Mark := rfl
    rw [hmark]
    cases rsplitOnceStr sha256Mark suffix with
    | some p =>
      dsimp only
      rw [ok_if_iff, IsSha256, List.all_eq_true]
    | none =>
      cases rsplitOnceStr [':'] suffix with
      | some p =>
        obtain ⟨name, tag⟩ := p
        dsimp only
        rw [error_if_iff, not_or]
        simp
      | none => simp
  · rw [if_pos (by rw [Bool.not_eq_true] at hhead; rw [hhead]; rfl)]
    constructor
    · intro h
      cases h
    · rintro ⟨-, suffix, hsuffix, -⟩
      rw [hsuffix, RustStr.isPrefixOf_append] at hhead
      exact absurd rfl hhead

/-! ## Where grammar and validator part -/

/-- What follows the prefix of the references that are misjudged. -/
inductive Misjudged : List Char → Prop
  /-- Accepted with a digest: what stands before it is no image name, alone or with a tag. -/
  | digestOfNothing {named digest : List Char} (hdigest : IsSha256 digest) (hnamed : ¬ Named named) :
      Misjudged (named ++ sha256Mark ++ digest)
  /-- Accepted with a tag: without a name before the first `:`, with an `@`, or with a `/` behind the first `:`. -/
  | looseTag {name tag : List Char} (hmark : ¬ sha256Mark <:+: name ++ ':' :: tag) (hname : name ≠ []) (htag : tag ≠ [])
      (hlast : ':' ∉ tag) (hloose : name.head? = some ':' ∨ '@' ∈ name ++ ':' :: tag ∨
        ∃ first rest, name ++ ':' :: tag = first ++ ':' :: rest ∧ ':' ∉ first ∧ '/' ∈ rest) :
      Misjudged (name ++ ':' :: tag)
  /-- Refused: the tag ends with `:`. -/
  | openTag {name tag : List Char} (hname : IsImageName name) (htag : IsTag (tag ++ [':'])) :
      Misjudged (name ++ ':' :: tag ++ [':'])

theorem IsSha256.append_inj {named named' digest digest' : List Char} (h : IsSha256 digest) (h' : IsSha256 digest')
    (heq : named ++ sha256Mark ++ digest = named' ++ sha256Mark ++ digest') : named = named' :=
  List.append_cancel_right (List.append_inj' heq (h.1.trans h'.1.symm)).1

/-- The first `:` of a reference with a tag ends its name. -/
theorem first_of_name {name tag first rest : List Char} (hname : ':' ∉ name) (hfirst : ':' ∉ first)
    (heq : name ++ ':' :: tag = first ++ ':' :: rest) : name = first ∧ tag = rest := by
  have h := (RustStr.splitOnce_append tag hname).symm.trans
    ((congrArg (RustStr.splitOnce ':') heq).trans (RustStr.splitOnce_append rest hfirst))
  cases h
  exact ⟨rfl, rfl⟩

theorem head?_ne_of_isImageName {name : List Char} (h : IsImageName name) (rest : List Char) :
    (name ++ rest).head? ≠ some ':' := by
  cases name with
  | nil => exact absurd rfl h.1
  | cons c name =>
    intro hhead
    cases hhead
    exact h.2.1 List.mem_cons_self

theorem colon_ends_tag {name tag a : List Char} (htag : tag ≠ []) (heq : name ++ ':' :: tag = a ++ [':']) :
    ∃ init, tag = init ++ [':'] := by
  obtain ⟨init, last, rfl⟩ := (List.eq_nil_or_concat' tag).resolve_left htag
  rw [← List.cons_append, ← List.append_assoc] at heq
  cases (List.append_inj' heq rfl).2
  exact ⟨init, rfl⟩

theorem at_mem_pinned (named digest : List Char) : '@' ∈ named ++ sha256Mark ++ digest :=
  List.mem_append_left _ (List.mem_append_right _ at_mem_sha256Mark)

theorem not_reference_of_accepted {suffix : List Char} (h : Misjudged suffix) :
    ¬ (Accepted suffix ↔ Reference suffix) := by
  cases h with
  | @digestOfNothing named digest hdigest hnamed =>
    intro h
    have href := h.1 (.pinned hdigest)
    generalize hs : named ++ sha256Mark ++ digest = suffix at href
    cases href with
    | tagged hname htag => exact (Named.tagged hname htag).not_at (hs ▸ at_mem_pinned named digest)
    | pinned hnamed' hdigest' =>
      rw [hdigest.append_inj hdigest' hs] at hnamed
      exact hnamed hnamed'
  | @looseTag name tag hmark hname htag hlast hloose =>
    intro h
    have href := h.1 (.tagged hmark hname htag hlast)
    generalize hs : name ++ ':' :: tag = suffix at href hmark hloose
    cases href with
    | @tagged name' tag' hname' htag' =>
      rcases hloose with hhead | hat | ⟨first, rest, heq, hfirst, hslash⟩
      · refine head?_ne_of_isImageName hname' (':' :: tag') ?_
        rw [← hs, List.head?_append, hhead]
        rfl
      · exact (Named.tagged hname' htag').not_at hat
      · obtain ⟨-, rfl⟩ := first_of_name hname'.2.1 hfirst heq
        exact htag'.2.1 hslash
    | pinned hnamed' hdigest' => exact hmark ⟨_, _, rfl⟩
  | @openTag name tag hname htag =>
    intro h
    have haccepted := h.2 (by rw [List.append_assoc]; exact .tagged hname htag)
    generalize hs : name ++ ':' :: tag ++ [':'] = suffix at haccepted
    cases haccepted with
    | pinned hdigest =>
      rw [List.append_assoc] at hs
      exact (Named.tagged hname htag).not_at (by rw [← List.cons_append, hs]; exact at_mem_pinned _ _)
    | @tagged name' tag' hmark hname' htag' hlast =>
      obtain ⟨init, rfl⟩ := colon_ends_tag htag' hs.symm
      exact hlast (List.mem_append_right init List.mem_cons_self)

theorem accepted_iff_reference {suffix : List Char} (h : ¬ Misjudged suffix) : Accepted suffix ↔ Reference suffix := by
  constructor
  · intro haccepted
    cases haccepted with
    | @pinned named digest hdigest =>
      have hnamed : Named named := by
        by_contra hnamed
        exact h (.digestOfNothing hdigest hnamed)
      exact .pinned hnamed hdigest
    | @tagged name tag hmark hname htag hlast =>
      have htight := fun hloose => h (.looseTag hmark hname htag hlast hloose)
      obtain ⟨first, rest, heq, hfirst⟩ :=
        List.eq_append_cons_of_mem (List.mem_append_right name (List.mem_cons_self (a := ':') (l := tag)))
      have hat : '@' ∉ first ++ ':' :: rest := fun hat => htight (.inr (.inl (heq ▸ hat)))
      rw [heq]
      refine .tagged ⟨?_, hfirst, fun hmem => hat (List.mem_append_left _ hmem)⟩
        ⟨?_, fun hslash => htight (.inr (.inr ⟨first, rest, heq, hfirst, hslash⟩)),
          fun hmem => hat (List.mem_append_right _ (List.mem_cons_of_mem _ hmem))⟩
      · rintro rfl
        cases name with
        | nil => exact hname rfl
        | cons c name =>
          cases heq
          exact htight (.inl rfl)
      · rintro rfl
        have hle := RustStr.length_le_of_last heq hlast
        exact htag (List.length_eq_zero_iff.1 (Nat.le_zero.1 hle))
  · intro href
    cases href with
    | @tagged name tag hname htag =>
      obtain ⟨a, b, heq, hlast⟩ := RustStr.exists_last
        (List.mem_append_right name (List.mem_cons_self (a := ':') (l := tag)))
      have hmark := not_mark_of_not_at (Named.tagged hname htag).not_at
      rw [heq] at hmark ⊢
      refine .tagged hmark ?_ ?_ hlast
      · rintro rfl
        exact head?_ne_of_isImageName hname (':' :: tag) (by rw [heq]; rfl)
      · rintro rfl
        obtain ⟨init, rfl⟩ := colon_ends_tag htag.1 heq
        refine h ?_
        rw [← List.cons_append, ← List.append_assoc]
        exact .openTag hname htag
    | pinned hnamed hdigest => exact .pinned hdigest

theorem AcceptsDocumented.accepted_iff {image : String} (h : AcceptsDocumented image) {suffix : List Char}
    (hsuffix : (RustStr.trim image).toList = updateAgentAllowedPrefix.toList ++ suffix) :
    Accepted suffix ↔ Reference suffix := by
  have honly : ∀ {P : List Char → Prop}, (∃ suffix', (RustStr.trim image).toList =
      updateAgentAllowedPrefix.toList ++ suffix' ∧ P suffix') ↔ P suffix := by
    intro P
    constructor
    · rintro ⟨suffix', heq, hP⟩
      rwa [List.append_cancel_left (hsuffix.symm.trans heq)]
    · exact fun hP => ⟨suffix, hsuffix, hP⟩
  rw [← honly (P := Reference), ← h.accepted, ← honly (P := Accepted)]
  simp only [validateUpdateAgentImage_eq_ok_iff, exists_eq_left]

/-- **Exactly the documented references are accepted** unless the text behind the prefix is one of the misjudged. -/
theorem image_grammar_iff (image : String) : AcceptsDocumented image ↔
    ∀ suffix, (RustStr.trim image).toList = updateAgentAllowedPrefix.toList ++ suffix → ¬ Misjudged suffix := by
  constructor
  · exact fun h suffix hsuffix hmisjudged => not_reference_of_accepted hmisjudged (h.accepted_iff hsuffix)
  · intro h
    constructor
    · simp only [validateUpdateAgentImage_eq_ok_iff, exists_eq_left]
      constructor
      · rintro ⟨suffix, hsuffix, haccepted⟩
        exact ⟨suffix, hsuffix, (accepted_iff_reference (h suffix hsuffix)).1 haccepted⟩
      · rintro ⟨suffix, hsuffix, href⟩
        exact ⟨suffix, hsuffix, (accepted_iff_reference (h suffix hsuffix)).2 href⟩
    · exact fun r hr => (validateUpdateAgentImage_eq_ok_iff.1 hr).1

/-- A digest of 64 digits. -/
def sixtyFourAs : List Char := List.replicate 64 'a'

theorem sixtyFourAs_isSha256 : IsSha256 sixtyFourAs :=
  ⟨List.length_replicate, fun c hc => by rw [List.eq_of_mem_replicate hc]; decide⟩

/-- The allowed prefix with a digest, and no image name between them. -/
def namelessImage : String := updateAgentAllowedPrefix ++ "@sha256:" ++ String.ofList sixtyFourAs

theorem toList_namelessImage :
    namelessImage.toList = updateAgentAllowedPrefix.toList ++ ([] ++ sha256Mark ++ sixtyFourAs) := by
  rw [namelessImage, String.toList_append, String.toList_append, String.toList_ofList, List.nil_append,
    List.append_assoc]
  rfl

theorem trim_namelessImage : RustStr.trim namelessImage = namelessImage := by
  have hhead : updateAgentAllowedPrefix.toList.head? = some 'u' := by decide
  have hdigest : sixtyFourAs.getLast? = some 'a' := List.getLast?_replicate.trans (if_neg (by decide))
  rw [RustStr.trim_eq_self_iff, toList_namelessImage]
  refine RustStr.trimChars_of_ends (fun c hc => ?_) (fun c hc => ?_)
  · rw [List.head?_append, hhead, Option.some_or] at hc
    rw [← Option.some.inj hc]
    decide
  · rw [List.getLast?_append, List.getLast?_append, hdigest, Option.some_or, Option.some_or] at hc
    rw [← Option.some.inj hc]
    decide

theorem namelessImage_accepted :
    ¬ AcceptsDocumented namelessImage ∧ validateUpdateAgentImage namelessImage = .ok namelessImage := by
  have hsuffix := (congrArg String.toList trim_namelessImage).trans toList_namelessImage
  have hnamed : ¬ Named [] := by
    intro h
    generalize hnil : ([] : List Char) = l at h
    cases h with
    | untagged hname => exact hname.1 hnil.symm
    | tagged hname htag => exact absurd hnil (by simp)
  constructor
  · exact fun h => not_reference_of_accepted (.digestOfNothing sixtyFourAs_isSha256 hnamed) (h.accepted_iff hsuffix)
  · exact validateUpdateAgentImage_eq_ok_iff.2 ⟨trim_namelessImage.symm, _, hsuffix, .pinned sixtyFourAs_isSha256⟩

end Executor
end HubAgent
