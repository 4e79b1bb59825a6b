-- How a record may be written. Its members stand in an object in any order,
-- with others between them, or their contents stand in a list in a fixed order.
-- Either way the reader finds each member where it looks for it.
import RuleFields.Proofs.Interchange.Parts

namespace RuleFields.Json.Doc

/-! ## Members under a key -/

namespace Members

/-- What the object holds under the key: nothing, or one value. -/
def Holds (ms : Members) (key : String) (content : Option Doc) : Prop :=
  ms.under key = content.toList.map fun d => (some key, d)

/-- The key stands twice in the object. -/
def Twice (ms : Members) (key : String) : Prop :=
  ∃ before d between e after,
    ms = before ++ (some key, d) :: between ++ (some key, e) :: after

variable {ms : Members} {key : String} {d : Doc} {content : Option Doc}

theorem fst_of_mem_under {m : Option String × Doc} (h : m ∈ ms.under key) : m.1 = some key := by
  simpa using (List.mem_filter.mp h).2

theorem required?_eq_some_iff : ms.required? key = some d ↔ ms.Holds key (some d) := by
  unfold required? Holds
  split
  · rename_i m hm
    obtain ⟨k, x⟩ := m
    obtain rfl : k = some key := fst_of_mem_under (hm ▸ List.mem_singleton_self _)
    simp [hm]
  · rename_i hne
    refine ⟨?_, ?_⟩
    · intro h
      cases h
    · intro h
      exact absurd h (hne (some key, d))

theorem optional?_eq_some_iff : ms.optional? key = some content ↔ ms.Holds key content := by
  unfold optional? Holds
  split
  · rename_i hm
    cases content <;> simp [hm]
  · rename_i m hm
    obtain ⟨k, x⟩ := m
    obtain rfl : k = some key := fst_of_mem_under (hm ▸ List.mem_singleton_self _)
    cases content <;> simp [hm]
  · rename_i hnil hne
    refine ⟨?_, ?_⟩
    · intro h
      cases h
    · intro h
      cases content with
      | none => exact absurd h hnil
      | some d => exact absurd h (hne (some key, d))

theorem Holds.unique {content' : Option Doc} (h : ms.Holds key content)
    (h' : ms.Holds key content') : content = content' := by
  rw [← optional?_eq_some_iff] at h h'
  exact Option.some.inj (h.symm.trans h')

theorem Holds.mem (h : ms.Holds key (some d)) : (some key, d) ∈ ms := by
  have hmem : (some key, d) ∈ ms.under key := by
    rw [h]
    exact List.mem_singleton_self _
  exact List.mem_of_mem_filter hmem

/-- What an object holds under a key does not change when another key is taken out. -/
theorem Holds.without {other : String} (h : ms.Holds key content) (hne : key ≠ other) :
    Holds (ms.filter fun m => m.1 != some other) key content := by
  have hkeep : ∀ m : Option String × Doc, ((m.1 == some key) && (m.1 != some other)) =
      (m.1 == some key) := by
    rintro ⟨k, d⟩
    by_cases hk : k = some key
    · simp [hk, hne]
    · simp [hk]
  unfold Holds under at h ⊢
  rw [List.filter_filter, ← h]
  exact congrArg (ms.filter ·) (funext hkeep)

/-- The members of a value hold what a look-up finds, if no key stands twice. -/
theorem holds_memberDocs {members : List (String × Json)} (h : (members.map Prod.fst).Nodup)
    (key : String) : Holds (memberDocs members) key ((members.lookup key).map toDoc) := by
  induction members with
  | nil => rfl
  | cons m rest ih =>
    obtain ⟨k, j⟩ := m
    rw [List.map_cons, List.nodup_cons] at h
    obtain ⟨hfree, hrest⟩ := h
    have hholds := ih hrest
    unfold Holds at hholds ⊢
    rw [memberDocs_cons, SortedMap.lookup_cons]
    by_cases hk : key = k
    · subst hk
      have hnone : rest.lookup key = none := by
        rw [List.lookup_eq_none_iff]
        intro m hm
        refine bne_iff_ne.mpr fun hkey => hfree ?_
        exact List.mem_map.mpr ⟨m, hm, hkey.symm⟩
      rw [hnone] at hholds
      rw [under_cons_self, hholds, if_pos rfl]
      rfl
    · rw [under_cons_of_ne (Ne.symm hk), hholds, if_neg hk]

theorem hasReadableKeys_memberDocs (members : List (String × Json)) :
    hasReadableKeys (memberDocs members) = true := by
  rw [memberDocs_eq_map]
  simp [hasReadableKeys]

theorem two_le_length_under (h : ms.Twice key) : 2 ≤ (ms.under key).length := by
  obtain ⟨before, d, between, e, after, rfl⟩ := h
  simp [under]
  omega

/-- A key that stands twice holds nothing that a reader takes. -/
theorem not_holds_of_twice (h : ms.Twice key) : ¬ ms.Holds key content := by
  intro hholds
  have hlength := two_le_length_under h
  rw [hholds] at hlength
  cases content <;> simp at hlength

/-- A key stands twice wherever another key is taken out. -/
theorem Twice.without {other : String} (h : ms.Twice key) (hne : key ≠ other) :
    Twice (ms.filter fun m => m.1 != some other) key := by
  obtain ⟨before, d, between, e, after, rfl⟩ := h
  simp only [List.filter_append, List.filter_cons, bne_iff_ne, ne_eq, Option.some.injEq, hne,
    not_false_eq_true, if_true]
  exact ⟨_, d, _, e, _, rfl⟩

theorem required?_of_twice (h : ms.Twice key) : ms.required? key = none := by
  rw [Option.eq_none_iff_forall_ne_some]
  intro d hd
  exact not_holds_of_twice h (required?_eq_some_iff.mp hd)

theorem optional?_of_twice (h : ms.Twice key) : ms.optional? key = none := by
  rw [Option.eq_none_iff_forall_ne_some]
  intro content hd
  exact not_holds_of_twice h (optional?_eq_some_iff.mp hd)

end Members

/-! ## Records -/

/-- The members of a record in their order. One that is left out has no content. -/
abbrev Parts := List (String × Option Doc)

namespace Parts

/-- The members that are not left out. -/
def members (ps : Parts) : Members := ps.filterMap fun p => p.2.map fun d => (some p.1, d)

/-- The contents in order. Only the last ones may be left out. -/
inductive Listed : Parts → List Doc → Prop
  | nil {ps : Parts} (h : ∀ p ∈ ps, p.2 = none) : Listed ps []
  | cons {key : String} {d : Doc} {ps : Parts} {items : List Doc} (h : Listed ps items) :
      Listed ((key, some d) :: ps) (d :: items)

/-- The ways to write a record: as an object with the members in any order, between any others
with other keys, or as the list of the contents. -/
inductive WrittenAs (ps : Parts) : Doc → Prop
  | object {ms others : Members} (hms : ms.Perm (members ps ++ others))
      (hothers : ∀ m ∈ others, ∀ p ∈ ps, m.1 ≠ some p.1) : WrittenAs ps (.object ms)
  | list {items : List Doc} (h : ps.Listed items) : WrittenAs ps (.array items)

theorem listed_cons_some {key : String} {d : Doc} {ps : Parts} {items : List Doc} :
    Listed ((key, some d) :: ps) items ↔ ∃ rest, items = d :: rest ∧ ps.Listed rest := by
  refine ⟨?_, ?_⟩
  · intro h
    cases h with
    | nil h => exact absurd (h _ List.mem_cons_self) (by simp)
    | cons h => exact ⟨_, rfl, h⟩
  · rintro ⟨rest, rfl, h⟩
    exact .cons h

theorem listed_cons_none {key : String} {ps : Parts} {items : List Doc} :
    Listed ((key, none) :: ps) items ↔ items = [] ∧ ∀ p ∈ ps, p.2 = none := by
  refine ⟨?_, ?_⟩
  · intro h
    cases h with
    | nil h => exact ⟨rfl, fun p hp => h p (List.mem_cons_of_mem _ hp)⟩
  · rintro ⟨rfl, h⟩
    exact .nil (List.forall_mem_cons.mpr ⟨rfl, h⟩)

theorem listed_nil {items : List Doc} : Listed [] items ↔ items = [] := by
  refine ⟨?_, ?_⟩
  · intro h
    cases h
    rfl
  · rintro rfl
    exact .nil (by simp)

theorem WrittenAs.listed {ps : Parts} {items : List Doc} (h : ps.WrittenAs (.array items)) :
    ps.Listed items := by
  cases h with
  | list h => exact h

theorem exists_part_of_mem_members {ps : Parts} {m : Option String × Doc} (h : m ∈ members ps) :
    ∃ p ∈ ps, m.1 = some p.1 := by
  obtain ⟨p, hp, hm⟩ := List.mem_filterMap.mp h
  obtain ⟨d, -, rfl⟩ := Option.map_eq_some_iff.mp hm
  exact ⟨p, hp, rfl⟩

/-- A record has nothing under a key that is not its own. -/
theorem under_members_of_not_mem {ps : Parts} {key : String} (h : ∀ p ∈ ps, p.1 ≠ key) :
    (members ps).under key = [] := by
  unfold Members.under
  rw [List.filter_eq_nil_iff]
  intro m hm hkey
  obtain ⟨p, hp, hmp⟩ := exists_part_of_mem_members hm
  have hpkey : p.1 = key := by simpa [hmp] using hkey
  exact h p hp hpkey

theorem under_append (ms ms' : Members) (key : String) :
    Members.under (ms ++ ms') key = ms.under key ++ ms'.under key := by
  unfold Members.under
  rw [List.filter_append]

/-- A record holds each of its parts. -/
theorem holds_members {ps : Parts} (hps : (ps.map Prod.fst).Nodup) {key : String}
    {content : Option Doc} (h : (key, content) ∈ ps) : (members ps).Holds key content := by
  induction ps with
  | nil => cases h
  | cons p rest ih =>
    rw [List.map_cons, List.nodup_cons, List.mem_map, not_exists] at hps
    obtain ⟨hfree, hrest⟩ := hps
    have hsplit : members ([p] ++ rest) = members [p] ++ members rest := List.filterMap_append
    rw [List.singleton_append] at hsplit
    unfold Members.Holds
    rw [hsplit, under_append]
    rcases List.mem_cons.mp h with rfl | hp
    · rw [under_members_of_not_mem fun q hq hkey => hfree q ⟨hq, hkey⟩, List.append_nil]
      cases content <;> simp [members, Members.under]
    · have hother : ∀ q ∈ [p], q.1 ≠ key := by
        intro q hq hkey
        obtain rfl := List.mem_singleton.mp hq
        exact hfree (key, content) ⟨hp, hkey.symm⟩
      rw [under_members_of_not_mem hother, List.nil_append]
      exact ih hrest hp

/-- An object that writes a record holds each of its parts, wherever it stands. -/
theorem WrittenAs.holds {ps : Parts} {ms : Members} (h : ps.WrittenAs (.object ms))
    (hps : (ps.map Prod.fst).Nodup) {key : String} {content : Option Doc}
    (hp : (key, content) ∈ ps) : ms.Holds key content := by
  cases h with
  | @object ms others hms hothers =>
    have hnone : Members.under others key = [] := by
      unfold Members.under
      rw [List.filter_eq_nil_iff]
      intro m hm hkey
      exact hothers m hm _ hp (by simpa using hkey)
    have hperm : (ms.under key).Perm (Members.under (members ps ++ others) key) := hms.filter _
    rw [under_append, hnone, List.append_nil, holds_members hps hp] at hperm
    unfold Members.Holds
    cases content with
    | none => exact hperm.eq_nil
    | some d => exact List.perm_singleton.mp hperm

theorem WrittenAs.required? {ps : Parts} {ms : Members} (h : ps.WrittenAs (.object ms))
    (hps : (ps.map Prod.fst).Nodup) {key : String} {d : Doc} (hp : (key, some d) ∈ ps) :
    ms.required? key = some d :=
  Members.required?_eq_some_iff.mpr (h.holds hps hp)

theorem WrittenAs.optional? {ps : Parts} {ms : Members} (h : ps.WrittenAs (.object ms))
    (hps : (ps.map Prod.fst).Nodup) {key : String} {content : Option Doc}
    (hp : (key, content) ∈ ps) : ms.optional? key = some content :=
  Members.optional?_eq_some_iff.mpr (h.holds hps hp)

end Parts

/-- A record can be written with nothing but its members, in their order. -/
theorem Parts.writtenAs_members (ps : Parts) : ps.WrittenAs (.object ps.members) := by
  have hperm : ps.members.Perm (ps.members ++ []) := by rw [List.append_nil]
  exact .object hperm (by simp)

/-! ## Parts that may be left out -/

section
variable {α : Type}

/-- A part that a value need not have: left out, or null, where it has none. -/
inductive OptionWrittenAs (W : α → Doc → Prop) : Option α → Option Doc → Prop
  | leftOut : OptionWrittenAs W none none
  | null : OptionWrittenAs W none (some .null)
  | written {x : α} {d : Doc} (h : W x d) : OptionWrittenAs W (some x) (some d)

/-- A part that may be left out where it is `usual`. -/
inductive DefaultWrittenAs (W : α → Doc → Prop) (usual : α) : α → Option Doc → Prop
  | leftOut {x : α} (h : x = usual) : DefaultWrittenAs W usual x none
  | written {x : α} {d : Doc} (h : W x d) : DefaultWrittenAs W usual x (some d)

end

theorem OptionWrittenAs.eq_none {α : Type} {W : α → Doc → Prop} {x : Option α}
    (h : OptionWrittenAs W x none) : x = none := by
  cases h
  rfl

/-- What is read wherever it is written is read as a part that may be missing. -/
theorem orNull_of_writtenAs {α : Type} {W : α → Doc → Prop} {read : Doc → Option α}
    {x : Option α} {content : Option Doc} (h : OptionWrittenAs W x content)
    (hnull : read .null = none)
    (hread : ∀ y d, content = some d → W y d → read d = some y) :
    orNull read content = some x := by
  cases h with
  | leftOut => rfl
  | null => rfl
  | @written y d h =>
    have hy := hread y d rfl h
    cases d with
    | null => exact absurd (hnull.symm.trans hy) (by simp)
    | _ => exact congrArg (some <$> ·) hy

/-- A list is read if each item is read as what it writes. -/
theorem mapM_of_forall₂ {α : Type} {W : α → Doc → Prop} {read : Doc → Option α} {xs : List α}
    {items : List Doc} (h : List.Forall₂ W xs items)
    (hread : ∀ x, ∀ d ∈ items, W x d → read d = some x) : items.mapM read = some xs := by
  induction h with
  | nil => rfl
  | @cons x d xs items hx _ ih =>
    have hrest := ih fun y e he => hread y e (List.mem_cons_of_mem d he)
    rw [List.mapM_cons, hread x d List.mem_cons_self hx, hrest]
    rfl

/-! ## Readable documents -/

theorem isReadable_of_memberValues? {room : Nat} {ms : Members}
    (h : (memberValues? room ms).isSome = true) :
    ∀ m ∈ ms, m.1.isSome = true ∧ m.2.isReadable room = true := by
  induction ms with
  | nil => simp
  | cons m rest ih =>
    obtain ⟨k, d⟩ := m
    cases k with
    | none => simp [memberValues?] at h
    | some k =>
      cases hd : d.value? room with
      | none => simp [memberValues?, hd] at h
      | some j =>
        cases hrest : memberValues? room rest with
        | none => simp [memberValues?, hd, hrest] at h
        | some js =>
          have hd' : d.isReadable room = true := by simp [isReadable, hd]
          exact List.forall_mem_cons.mpr ⟨⟨rfl, hd'⟩, ih (by rw [hrest]; rfl)⟩

theorem isReadable_of_values? {room : Nat} {items : List Doc}
    (h : (values? room items).isSome = true) : ∀ d ∈ items, d.isReadable room = true := by
  induction items with
  | nil => simp
  | cons d rest ih =>
    cases hd : d.value? room with
    | none => simp [values?, hd] at h
    | some j =>
      cases hrest : values? room rest with
      | none => simp [values?, hd, hrest] at h
      | some js =>
        have hd' : d.isReadable room = true := by simp [isReadable, hd]
        exact List.forall_mem_cons.mpr ⟨hd', ih (by rw [hrest]; rfl)⟩

/-- The members of a readable object are readable, with room for one level less. -/
theorem isReadable_of_mem_object {room : Nat} {ms : Members}
    (h : (object ms).isReadable room = true) :
    ∀ m ∈ ms, m.1.isSome = true ∧ m.2.isReadable (room - 1) = true := by
  unfold isReadable value? at h
  split at h
  · cases h
  · exact isReadable_of_memberValues? (by simpa using h)

theorem isReadable_of_mem_array {room : Nat} {items : List Doc}
    (h : (array items).isReadable room = true) :
    ∀ d ∈ items, d.isReadable (room - 1) = true := by
  unfold isReadable value? at h
  split at h
  · cases h
  · exact isReadable_of_values? (by simpa using h)

theorem hasReadableKeys_of_isReadable {room : Nat} {ms : Members}
    (h : (object ms).isReadable room = true) : Members.hasReadableKeys ms = true :=
  List.all_eq_true.mpr fun m hm => (isReadable_of_mem_object h m hm).1

end RuleFields.Json.Doc
