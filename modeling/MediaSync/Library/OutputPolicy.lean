import MediaSync.Library.OutputDirectories

/-!
# The stored policy

A root that was accepted is accepted again in the spelling that is stored,
unless its last name ends in a blank that a slash had covered. The policy that
is read from a row is then the one that was written to it.
-/

namespace MediaSync.Library

open Python Posix Scheduler OutputDirectoryService

variable {host : OutputHost} {disk : Disk} {value : String} {path : Path} {p q : Policy}

/-- The text of a path has no blank to lose at its end. -/
def Kept (path : Path) : Prop := path.str = strip path.str

instance (path : Path) : Decidable (Kept path) := inferInstanceAs (Decidable (_ = _))

/-- What `_native_root` asks of a text. -/
structure IsNative (value : String) : Prop where
  stripped : value = strip value
  bounded : Path.utf8Length value.toList ≤ 4096
  printable : ∀ c ∈ value.toList, isControl c = false
  plain : ∀ part ∈ splitBy isSeparator value.toList, part ≠ ['.'] ∧ part ≠ ['.', '.']
  absolute : value.toList.head? = some '/'
  named : (Path.of value).names ≠ []
  slashes : ∀ c ∈ value.toList, c ≠ '\\'
  single : (value.toList.drop 1).head? ≠ some '/'

theorem isNativeRoot_iff : isNativeRoot value = true ↔ IsNative value := by
  unfold isNativeRoot
  simp only [Bool.and_eq_true, Bool.not_eq_true', List.isEmpty_eq_false_iff, decide_eq_true_eq,
    List.any_eq_false, Bool.or_eq_true, not_or]
  constructor
  · rintro ⟨⟨⟨⟨⟨⟨⟨⟨-, h₁⟩, h₂⟩, h₃⟩, h₄⟩, h₅⟩, h₆⟩, h₇⟩, h₈⟩
    exact ⟨h₁, h₂, fun c hc => by simpa using h₃ c hc, h₄, h₅, h₆, h₇, h₈⟩
  · rintro ⟨h₁, h₂, h₃, h₄, h₅, h₆, h₇, h₈⟩
    refine ⟨⟨⟨⟨⟨⟨⟨⟨?_, h₁⟩, h₂⟩, fun c hc => by simp [h₃ c hc]⟩, h₄⟩, h₅⟩, h₆⟩, h₇⟩, h₈⟩
    intro hnil
    rw [hnil] at h₅
    cases h₅

theorem nativeRoot_ok : nativeRoot value = .ok path ↔ IsNative value ∧ Path.of value = path := by
  unfold nativeRoot
  split
  · rename_i h
    rw [Except.ok.injEq]
    exact ⟨fun he => ⟨isNativeRoot_iff.1 h, he⟩, fun he => he.2⟩
  · rename_i h
    constructor
    · intro he
      cases he
    · exact fun he => absurd (isNativeRoot_iff.2 he.1) h

/-- Without a backslash the two ways to cut a text agree. -/
theorem splitBy_isSeparator {text : List Char} (h : ∀ c ∈ text, c ≠ '\\') :
    splitBy isSeparator text = splitBy isSlash text :=
  splitBy_congr fun c hc => by simp [isSeparator, isSlash, h c hc]

theorem str_toList (path : Path) : path.str.toList = path.text := String.toList_ofList

/-- The spelling of an accepted root is accepted, if it keeps its end. -/
theorem IsNative.str (h : IsNative value) (hkept : Kept (Path.of value)) :
    IsNative (Path.of value).str where
  stripped := hkept
  bounded := by
    rw [str_toList]
    exact (Path.utf8Length_text_ofText h.absolute).trans h.bounded
  printable c hc := by
    rw [str_toList] at hc
    rcases Path.mem_text_ofText hc with rfl | hc
    · rfl
    · exact h.printable c hc
  plain part hpart := by
    have hslashes : ∀ c ∈ (Path.of value).text, c ≠ '\\' := by
      intro c hc
      rcases Path.mem_text_ofText hc with rfl | hc
      · decide
      · exact h.slashes c hc
    rw [str_toList, splitBy_isSeparator hslashes, Path.text, if_neg h.named,
      Path.splitBy_slashed (Path.of value).proper] at hpart
    rcases List.mem_cons.1 hpart with rfl | hpart
    · exact ⟨by decide, by decide⟩
    · refine h.plain part ?_
      rw [splitBy_isSeparator h.slashes]
      exact (List.mem_filter.1 hpart).1
  absolute := by
    rw [str_toList]
    exact Path.text_head _
  named := by
    rw [Path.of_str]
    exact h.named
  slashes c hc := by
    rw [str_toList] at hc
    rcases Path.mem_text_ofText hc with rfl | hc
    · decide
    · exact h.slashes c hc
  single := by
    rw [str_toList]
    exact Path.text_second _

theorem nativeRoot_str (h : nativeRoot value = .ok path) :
    nativeRoot path.str = .ok path ↔ Kept path := by
  obtain ⟨hnative, rfl⟩ := nativeRoot_ok.1 h
  rw [nativeRoot_ok]
  exact ⟨fun hstr => hstr.1.stripped, fun hkept => ⟨hnative.str hkept, Path.of_str _⟩⟩

theorem safeRoot_ok : safeRoot host disk value = .ok path ↔
    nativeRoot value = .ok path ∧ host.isPrivate path = false ∧ ancestorError disk path = none := by
  unfold safeRoot
  cases hn : nativeRoot value with
  | error e =>
    constructor
    · intro h
      cases h
    · intro h
      cases h.1
  | ok a =>
    simp only [bind, Except.bind, Except.ok.injEq]
    cases hprivate : host.isPrivate a with
    | true =>
      constructor
      · intro h
        simp at h
      · rintro ⟨rfl, h, -⟩
        rw [hprivate] at h
        cases h
    | false =>
      simp only [Bool.false_eq_true, if_false]
      cases hdisk : ancestorError disk a with
      | some e =>
        constructor
        · intro h
          cases h
        · rintro ⟨rfl, -, h⟩
          rw [hdisk] at h
          cases h
      | none =>
        rw [Except.ok.injEq]
        constructor
        · rintro rfl
          exact ⟨rfl, hprivate, hdisk⟩
        · exact fun h => h.1

theorem safeRoot_invalid (h : ¬ IsNative value) : safeRoot host disk value = .error invalidError := by
  unfold safeRoot nativeRoot
  rw [if_neg fun hn => h (isNativeRoot_iff.1 hn)]
  rfl

/-! ## Policies -/

theorem forPlatforms_ok {ε α : Type} {f : Platform → Except ε α} {g : Platform → α} :
    forPlatforms f = .ok g ↔ ∀ x, f x = .ok (g x) := by
  constructor
  · intro h x
    obtain ⟨a₁, h₁, h⟩ := Transaction.except_bind_ok h
    obtain ⟨a₂, h₂, h⟩ := Transaction.except_bind_ok h
    obtain ⟨a₃, h₃, h⟩ := Transaction.except_bind_ok h
    obtain ⟨a₄, h₄, h⟩ := Transaction.except_bind_ok h
    obtain ⟨a₅, h₅, h⟩ := Transaction.except_bind_ok h
    obtain ⟨a₆, h₆, h⟩ := Transaction.except_bind_ok h
    obtain ⟨a₇, h₇, h⟩ := Transaction.except_bind_ok h
    cases h
    cases x <;> assumption
  · intro h
    unfold forPlatforms
    simp only [h, bind, Except.bind, pure, Except.pure, Except.ok.injEq]
    funext x
    cases x <;> rfl

/-- What every policy satisfies that passed the checks. -/
structure Policy.Lawful (host : OutputHost) (p : Policy) : Prop where
  revision : p.revision ≤ maxRevision
  layout : p.layout ∈ layouts
  shared : ∃ value, nativeRoot value = .ok p.sharedRoot
  sharedSafe : host.isPrivate p.sharedRoot = false
  roots : ∀ x, nativeRoot (p.root x).str = .ok (p.root x)
  safe : ∀ x, host.isPrivate (p.root x) = false
  apart : overlap p.root p.layout = none

/-- The places of a policy on the disk are directories, as far as they exist. -/
def Policy.Open (disk : Disk) (p : Policy) : Prop :=
  ancestorError disk p.sharedRoot = none ∧ ∀ x, ancestorError disk (p.root x) = none

variable {revision : Nat} {initialized : Bool} {sharedRoot layout : String}
  {overrides : List (String × Option String)}

/-- The policy that the checks return, in terms of the texts it is read from. -/
theorem policy_ok : policy host disk revision initialized sharedRoot overrides layout = .ok p ↔
    isPolicyShape revision overrides layout = true ∧ p.revision = revision ∧
      p.initialized = initialized ∧ p.layout = layout ∧
      safeRoot host disk sharedRoot = .ok p.sharedRoot ∧
      (∀ x, safeOverride host disk (overrideOf overrides x) = .ok (p.overrides x)) ∧
      (∀ x, safeRoot host disk (p.root x).str = .ok (p.root x)) ∧
      overlap p.root p.layout = none := by
  unfold policy
  constructor
  · intro h
    split at h
    · rename_i hshape
      obtain ⟨root, hroot, h₁⟩ := Transaction.except_bind_ok h
      obtain ⟨normalized, hnormalized, h₂⟩ := Transaction.except_bind_ok h₁
      obtain ⟨effective, heffective, h₃⟩ := Transaction.except_bind_ok h₂
      have heff := forPlatforms_ok.1 heffective
      have hsame : effective =
          (Policy.mk revision initialized root layout normalized).root := by
        funext x
        have hx := (nativeRoot_ok.1 (safeRoot_ok.1 (heff x)).1).2
        rw [Path.of_str] at hx
        exact hx.symm
      rw [hsame] at h₃ heff
      split at h₃
      · cases h₃
      · rename_i hoverlap
        cases h₃
        exact ⟨hshape, rfl, rfl, rfl, hroot, forPlatforms_ok.1 hnormalized, heff, hoverlap⟩
    · cases h
  · rintro ⟨hshape, hrevision, hinitialized, hlayout, hroot, hnormalized, heffective, hoverlap⟩
    have hp : p = ⟨revision, initialized, p.sharedRoot, layout, p.overrides⟩ := by
      rw [← hrevision, ← hinitialized, ← hlayout]
    rw [if_pos hshape, hroot, forPlatforms_ok.2 hnormalized]
    simp only [bind, Except.bind]
    rw [← hp, forPlatforms_ok.2 heffective]
    simp only
    rw [← hlayout, hoverlap]

theorem policy_lawful
    (h : policy host disk revision initialized sharedRoot overrides layout = .ok p) :
    p.Lawful host := by
  obtain ⟨hshape, hrevision, -, hlayout, hroot, -, heffective, hoverlap⟩ := policy_ok.1 h
  obtain ⟨hnative, hsafe, -⟩ := safeRoot_ok.1 hroot
  simp only [isPolicyShape, Bool.and_eq_true, decide_eq_true_eq] at hshape
  exact ⟨hrevision ▸ hshape.1.1, hlayout ▸ hshape.1.2, ⟨_, hnative⟩, hsafe,
    fun x => (safeRoot_ok.1 (heffective x)).1, fun x => (safeRoot_ok.1 (heffective x)).2.1,
    hoverlap⟩

theorem overrideOf_rowOverrides (row : LibraryOutputPolicy) (x : Platform) :
    overrideOf (rowOverrides row) x = row.root x := by
  cases x <;> rfl

theorem rowOverrides_shape (row : LibraryOutputPolicy) :
    (rowOverrides row).all (fun x => x.1 ∈ platforms.map Platform.value) = true := by
  rw [List.all_eq_true]
  intro x hx
  obtain ⟨y, hy, rfl⟩ := List.mem_map.1 hx
  exact decide_eq_true (List.mem_map_of_mem hy)

theorem mem_platforms (x : Platform) : x ∈ platforms := by
  cases x <;> decide

/-- The policy as it is read once it is a row. -/
def Policy.stored (p : Policy) : Policy := { p with initialized := true }

@[simp] theorem policyRow_stored (p : Policy) : policyRow p.stored = policyRow p := rfl

@[simp] theorem stored_root (p : Policy) : p.stored.root = p.root := rfl

theorem Policy.Lawful.stored (hp : p.Lawful host) : p.stored.Lawful host :=
  ⟨hp.revision, hp.layout, hp.shared, hp.sharedSafe, hp.roots, hp.safe, hp.apart⟩

theorem stored_eq (hinit : p.initialized = true) : p.stored = p := by
  cases p
  cases hinit
  rfl

/-- A policy with a root that keeps its end is read back from its row. -/
theorem rowPolicy_policyRow (hp : p.Lawful host) (hkept : Kept p.sharedRoot)
    (hopen : p.Open disk) : rowPolicy host disk (policyRow p) = .ok p.stored := by
  refine policy_ok.2 ⟨?_, rfl, rfl, rfl, ?_, fun x => ?_, fun x => ?_, hp.apart⟩
  · simp only [isPolicyShape, rowOverrides_shape, Bool.and_true, Bool.and_eq_true,
      decide_eq_true_eq]
    exact ⟨hp.revision, hp.layout⟩
  · obtain ⟨value, hvalue⟩ := hp.shared
    exact safeRoot_ok.2 ⟨(nativeRoot_str hvalue).2 hkept, hp.sharedSafe, hopen.1⟩
  · rw [overrideOf_rowOverrides]
    cases ho : p.overrides x with
    | none => simp [policyRow, ho, safeOverride, Policy.stored]
    | some o =>
      have hroot : p.root x = o := by simp [Policy.root, ho]
      have hsafe : safeRoot host disk o.str = .ok o := by
        rw [← hroot]
        exact safeRoot_ok.2 ⟨hp.roots x, hp.safe x, hopen.2 x⟩
      simp [policyRow, ho, safeOverride, hsafe, Except.map, Policy.stored]
  · exact safeRoot_ok.2 ⟨hp.roots x, hp.safe x, hopen.2 x⟩

/-- Whatever is read from the row of a policy is that policy. -/
theorem rowPolicy_eq (h : rowPolicy host disk (policyRow p) = .ok q) :
    q = p.stored ∧ Kept p.sharedRoot := by
  obtain ⟨-, hrevision, hinitialized, hlayout, hroot, hoverrides, -, -⟩ := policy_ok.1 h
  obtain ⟨hnative, hshared⟩ := nativeRoot_ok.1 (safeRoot_ok.1 hroot).1
  refine ⟨?_, hnative.stripped⟩
  have hover : q.overrides = p.overrides := by
    funext x
    have hx := hoverrides x
    rw [overrideOf_rowOverrides] at hx
    cases ho : p.overrides x with
    | none =>
      simp only [policyRow, ho, Option.map_none, safeOverride, Except.ok.injEq] at hx
      exact hx.symm
    | some o =>
      simp only [policyRow, ho, Option.map_some, safeOverride] at hx
      cases hs : safeRoot host disk o.str with
      | error e =>
        rw [hs] at hx
        cases hx
      | ok a =>
        rw [hs] at hx
        have ha := (nativeRoot_ok.1 (safeRoot_ok.1 hs).1).2
        rw [Path.of_str] at ha
        rw [ha]
        exact (Except.ok.inj hx).symm
  cases p
  cases q
  simp only [policyRow, Path.of_str] at hrevision hinitialized hlayout hshared hover
  rw [hrevision, hinitialized, hlayout, ← hshared, hover]
  rfl

theorem str_injective {a b : Path} (h : a.str = b.str) : a = b := by
  rw [← Path.of_str a, h, Path.of_str]

/-- A row is the row of one policy. -/
theorem policyRow_injective (h : policyRow p = policyRow q) : p.stored = q.stored := by
  cases p
  cases q
  simp only [policyRow, LibraryOutputPolicy.mk.injEq] at h
  obtain ⟨rfl, hshared, rfl, hover⟩ := h
  rw [Policy.stored, Policy.stored, str_injective hshared, Policy.mk.injEq]
  refine ⟨rfl, rfl, rfl, rfl, ?_⟩
  funext x
  exact Option.map_injective (fun _ _ => str_injective) (congrFun hover x)

/-- A root that loses its end closes its row for every reader. -/
theorem rowPolicy_lost (hp : p.Lawful host) (hlost : ¬ Kept p.sharedRoot) :
    rowPolicy host disk (policyRow p) = .error invalidError := by
  have hshape : isPolicyShape (policyRow p).revision (rowOverrides (policyRow p))
      (policyRow p).layout = true := by
    simp only [isPolicyShape, rowOverrides_shape, Bool.and_true, Bool.and_eq_true,
      decide_eq_true_eq]
    exact ⟨hp.revision, hp.layout⟩
  have hroot : safeRoot host disk p.sharedRoot.str = .error invalidError :=
    safeRoot_invalid fun hnative => hlost hnative.stripped
  unfold rowPolicy policy
  rw [if_pos hshape]
  simp only [policyRow, hroot, bind, Except.bind]

end MediaSync.Library
