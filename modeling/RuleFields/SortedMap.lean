-- Maps with text keys, kept in ascending order of the keys. The order of
-- texts is that of their code points, which is also the order of their UTF-8
-- bytes. Each key stands once, so a map is known by its look-ups.

namespace RuleFields

/-- A map whose entries ascend strictly by key. -/
structure SortedMap (α : Type) where
  entries : List (String × α)
  ascending : entries.Pairwise (fun a b => a.1 < b.1)
deriving DecidableEq

/-- A map from text to text. -/
abbrev StringMap := SortedMap String

namespace SortedMap

variable {α : Type}

def empty : SortedMap α := ⟨[], .nil⟩

instance : Inhabited (SortedMap α) := ⟨empty⟩

def isEmpty (m : SortedMap α) : Bool := m.entries.isEmpty

/-- The value that stands under `k`. -/
def get? (m : SortedMap α) (k : String) : Option α := m.entries.lookup k

/-! ## Insertion -/

/-- Puts `v` under `k` at the place of `k` in the order. A value that stood there gives way. -/
def insertEntry (k : String) (v : α) : List (String × α) → List (String × α)
  | [] => [(k, v)]
  | e :: rest =>
    if k < e.1 then (k, v) :: e :: rest
    else if k = e.1 then (k, v) :: rest
    else e :: insertEntry k v rest

theorem mem_insertEntry {k : String} {v : α} {l : List (String × α)} {x : String × α}
    (h : x ∈ insertEntry k v l) : x = (k, v) ∨ x ∈ l := by
  induction l with
  | nil => exact Or.inl (by simpa [insertEntry] using h)
  | cons e rest ih =>
    unfold insertEntry at h
    split at h
    · simpa using h
    · split at h
      · rcases List.mem_cons.mp h with h | h
        · exact Or.inl h
        · exact Or.inr (List.mem_cons_of_mem _ h)
      · rcases List.mem_cons.mp h with h | h
        · exact Or.inr (h ▸ List.mem_cons_self)
        · exact (ih h).imp_right (List.mem_cons_of_mem _)

theorem ascending_insertEntry (k : String) (v : α) {l : List (String × α)}
    (h : l.Pairwise (fun a b => a.1 < b.1)) :
    (insertEntry k v l).Pairwise (fun a b => a.1 < b.1) := by
  induction l with
  | nil => exact List.pairwise_singleton _ _
  | cons e rest ih =>
    obtain ⟨he, hrest⟩ := List.pairwise_cons.mp h
    unfold insertEntry
    split
    · rename_i hlt
      refine List.pairwise_cons.mpr ⟨fun x hx => ?_, h⟩
      rcases List.mem_cons.mp hx with rfl | hx
      · exact hlt
      · exact String.lt_trans hlt (he x hx)
    · rename_i hge
      split
      · rename_i heq
        exact List.pairwise_cons.mpr ⟨fun x hx => heq ▸ he x hx, hrest⟩
      · rename_i hne
        refine List.pairwise_cons.mpr ⟨fun x hx => ?_, ih hrest⟩
        rcases mem_insertEntry hx with rfl | hx
        · exact String.not_le.mp fun hle => hne (String.le_antisymm hle (String.not_lt.mp hge))
        · exact he x hx

/-- The map with `v` under `k`. -/
def insert (m : SortedMap α) (k : String) (v : α) : SortedMap α :=
  ⟨insertEntry k v m.entries, ascending_insertEntry k v m.ascending⟩

/-- The map of a list of bindings. Of two bindings of one key the later one counts. -/
def ofList (l : List (String × α)) : SortedMap α :=
  l.foldl (fun m e => m.insert e.1 e.2) empty

/-! ## The laws of look-up -/

theorem lookup_cons (x : String) (e : String × α) (l : List (String × α)) :
    (e :: l).lookup x = if x = e.1 then some e.2 else l.lookup x := by
  rw [List.lookup_cons]
  by_cases h : x = e.1
  · rw [if_pos h, beq_iff_eq.mpr h]
  · rw [if_neg h, beq_eq_false_iff_ne.mpr h]

theorem lookup_insertEntry (k : String) (v : α) (l : List (String × α)) (x : String) :
    (insertEntry k v l).lookup x = if x = k then some v else l.lookup x := by
  induction l with
  | nil => simp [insertEntry, lookup_cons]
  | cons e rest ih =>
    unfold insertEntry
    split
    · rw [lookup_cons]
    · split
      · rename_i heq
        simp only [lookup_cons, ← heq]
        split <;> rfl
      · rename_i hne
        rw [lookup_cons, lookup_cons, ih]
        by_cases h : x = e.1
        · have hk : ¬ e.1 = k := fun hk => hne hk.symm
          simp [h, hk]
        · simp [h]

/-- A look-up after an insertion finds the new value under its key, and what stood before
under every other key. -/
theorem get?_insert (m : SortedMap α) (k : String) (v : α) (x : String) :
    (m.insert k v).get? x = if x = k then some v else m.get? x :=
  lookup_insertEntry k v m.entries x

@[simp] theorem get?_empty (x : String) : (empty : SortedMap α).get? x = none := rfl

end SortedMap

end RuleFields
