-- The laws of sorted maps. A map is known by its look-ups, and by its entries.
-- A map that is made of a list of bindings holds the last one of each key.
import Mathlib.Data.List.Induction
import RuleFields.SortedMap
import RuleFields.Proofs.Text.ByteOrder

namespace RuleFields.SortedMap

variable {α : Type}

/-! ## Maps by their entries -/

theorem eq_of_entries {m n : SortedMap α} (h : m.entries = n.entries) : m = n := by
  obtain ⟨entries, ascending⟩ := m
  obtain ⟨entries', ascending'⟩ := n
  obtain rfl : entries = entries' := h
  rfl

theorem eq_empty_of_isEmpty {m : SortedMap α} (h : m.isEmpty = true) : m = empty :=
  eq_of_entries (List.isEmpty_iff.mp h)

/-- A key above all others goes to the end. -/
theorem insertEntry_above {k : String} {l : List (String × α)} (h : ∀ e ∈ l, e.1 < k) (v : α) :
    insertEntry k v l = l ++ [(k, v)] := by
  induction l with
  | nil => rfl
  | cons e rest ih =>
    have he := h e List.mem_cons_self
    have hne : k ≠ e.1 := fun hk => String.lt_irrefl k (hk ▸ he)
    have hrest := ih fun x hx => h x (List.mem_cons_of_mem _ hx)
    rw [insertEntry, if_neg (String.lt_asymm he), if_neg hne, hrest, List.cons_append]

theorem entries_foldl_insert (l : List (String × α)) (m : SortedMap α)
    (h : (m.entries ++ l).Pairwise fun a b => a.1 < b.1) :
    (l.foldl (fun m e => m.insert e.1 e.2) m).entries = m.entries ++ l := by
  induction l generalizing m with
  | nil => rw [List.append_nil, List.foldl_nil]
  | cons e rest ih =>
    have hbelow : ∀ x ∈ m.entries, x.1 < e.1 := fun x hx =>
      (List.pairwise_append.mp h).2.2 x hx e List.mem_cons_self
    have hentries : (m.insert e.1 e.2).entries = m.entries ++ [e] := insertEntry_above hbelow e.2
    have hsplit : m.entries ++ e :: rest = (m.insert e.1 e.2).entries ++ rest := by
      rw [hentries, List.append_assoc, List.singleton_append]
    rw [List.foldl_cons, ih _ (hsplit ▸ h), ← hsplit]

/-- A map is the map of its entries. -/
theorem ofList_entries (m : SortedMap α) : ofList m.entries = m :=
  eq_of_entries (entries_foldl_insert m.entries empty m.ascending)

/-- The keys ascend by their UTF-8 bytes. -/
theorem pairwise_toUTF8_lt (m : SortedMap α) :
    m.entries.Pairwise fun a b => a.1.toUTF8.data.toList < b.1.toUTF8.data.toList :=
  m.ascending.imp fun h => (lt_iff_toUTF8_lt _ _).mp h

/-! ## Maps by their look-ups -/

theorem mem_iff_lookup_of_ascending {l : List (String × α)}
    (h : l.Pairwise fun a b => a.1 < b.1) (k : String) (v : α) :
    (k, v) ∈ l ↔ l.lookup k = some v := by
  induction l with
  | nil => simp
  | cons e rest ih =>
    obtain ⟨he, hrest⟩ := List.pairwise_cons.mp h
    rw [lookup_cons, List.mem_cons]
    by_cases hk : k = e.1
    · have habsent : (k, v) ∉ rest := fun hv => String.lt_irrefl k (hk ▸ he (k, v) hv)
      rw [if_pos hk, Option.some_inj]
      refine ⟨?_, ?_⟩
      · rintro (rfl | hv)
        · rfl
        · exact absurd hv habsent
      · rintro rfl
        exact Or.inl (Prod.ext hk rfl)
    · rw [if_neg hk, ← ih hrest]
      refine ⟨?_, Or.inr⟩
      rintro (rfl | hv)
      · exact absurd rfl hk
      · exact hv

theorem mem_entries_iff (m : SortedMap α) (k : String) (v : α) :
    (k, v) ∈ m.entries ↔ m.get? k = some v :=
  mem_iff_lookup_of_ascending m.ascending k v

theorem nodup_entries (m : SortedMap α) : m.entries.Nodup := by
  unfold List.Nodup
  refine m.ascending.imp ?_
  rintro a b hab rfl
  exact String.lt_irrefl _ hab

/-- Two maps with the same look-ups are one. -/
theorem eq_of_get? {m n : SortedMap α} (h : ∀ k, m.get? k = n.get? k) : m = n := by
  have hperm : m.entries.Perm n.entries := by
    rw [List.perm_ext_iff_of_nodup m.nodup_entries n.nodup_entries]
    rintro ⟨k, v⟩
    rw [mem_entries_iff, mem_entries_iff, h]
  exact eq_of_entries (hperm.eq_of_pairwise
    (fun _ _ _ _ hab hba => absurd hba (String.lt_asymm hab)) m.ascending n.ascending)

/-- The order of insertions under different keys does not count. -/
theorem insert_comm (m : SortedMap α) {k k' : String} (h : k ≠ k') (v w : α) :
    (m.insert k v).insert k' w = (m.insert k' w).insert k v := by
  apply eq_of_get?
  intro x
  rw [get?_insert, get?_insert, get?_insert, get?_insert]
  by_cases hx : x = k
  · have hx' : x ≠ k' := fun hx' => h (hx.symm.trans hx')
    rw [if_neg hx', if_neg hx']
  · rw [if_neg hx, if_neg hx]

/-! ## Maps of bindings -/

theorem ofList_append_singleton (l : List (String × α)) (e : String × α) :
    ofList (l ++ [e]) = (ofList l).insert e.1 e.2 := by
  simp only [ofList, List.foldl_append, List.foldl_cons, List.foldl_nil]

theorem get?_ofList (l : List (String × α)) (k : String) :
    (ofList l).get? k = l.reverse.lookup k := by
  induction l using List.reverseRecOn with
  | nil => rfl
  | append_singleton l e ih =>
    rw [ofList_append_singleton, get?_insert, List.reverse_append, List.reverse_singleton,
      List.singleton_append, lookup_cons, ih]

theorem get?_ofList_append (l l' : List (String × α)) (k : String) :
    (ofList (l ++ l')).get? k = ((ofList l').get? k).or ((ofList l).get? k) := by
  rw [get?_ofList, get?_ofList, get?_ofList, List.reverse_append, List.lookup_append]

/-- The key is bound to `v`, and not bound again later. -/
def LastBinding (l : List (String × α)) (k : String) (v : α) : Prop :=
  ∃ before after, l = before ++ (k, v) :: after ∧ ∀ e ∈ after, e.1 ≠ k

/-- The keys of both lists are the same, and so are their last values. -/
def SameLastBindings (l l' : List (String × α)) : Prop :=
  ∀ k v, LastBinding l k v ↔ LastBinding l' k v

/-- Of the bindings of one key, the last one counts. -/
theorem get?_ofList_eq_some_iff (l : List (String × α)) (k : String) (v : α) :
    (ofList l).get? k = some v ↔ LastBinding l k v := by
  rw [get?_ofList, List.lookup_eq_some_iff]
  refine ⟨?_, ?_⟩
  · rintro ⟨after, before, hl, hafter⟩
    refine ⟨before.reverse, after.reverse, ?_, ?_⟩
    · rw [← l.reverse_reverse, hl, List.reverse_append, List.reverse_cons, List.append_assoc,
        List.singleton_append]
    · intro e he
      exact (bne_iff_ne.mp (hafter e (List.mem_reverse.mp he))).symm
  · rintro ⟨before, after, rfl, hafter⟩
    refine ⟨after.reverse, before.reverse, ?_, ?_⟩
    · rw [List.reverse_append, List.reverse_cons, List.append_assoc, List.singleton_append]
    · intro e he
      exact bne_iff_ne.mpr (hafter e (List.mem_reverse.mp he)).symm

theorem get?_ofList_eq_none_iff (l : List (String × α)) (k : String) :
    (ofList l).get? k = none ↔ ∀ e ∈ l, e.1 ≠ k := by
  rw [get?_ofList, List.lookup_eq_none_iff]
  simp only [List.mem_reverse, bne_iff_ne, ne_comm]

/-- A map is known by the last values of its bindings. -/
theorem ofList_eq_ofList_iff (l l' : List (String × α)) :
    ofList l = ofList l' ↔ SameLastBindings l l' := by
  unfold SameLastBindings
  refine ⟨?_, ?_⟩
  · intro h k v
    rw [← get?_ofList_eq_some_iff, h, get?_ofList_eq_some_iff]
  · intro h
    apply eq_of_get?
    intro k
    ext v
    rw [get?_ofList_eq_some_iff, get?_ofList_eq_some_iff, h]

/-- The order of two bindings of different keys does not count. -/
theorem sameLastBindings_swap (before : List (String × α)) {e f : String × α} (h : e.1 ≠ f.1)
    (after : List (String × α)) :
    SameLastBindings (before ++ e :: f :: after) (before ++ f :: e :: after) := by
  rw [← ofList_eq_ofList_iff]
  unfold ofList
  rw [List.foldl_append, List.foldl_append, List.foldl_cons, List.foldl_cons, List.foldl_cons,
    List.foldl_cons, insert_comm _ h]

/-- A binding of a key that is bound again later does not count. -/
theorem sameLastBindings_erase (before : List (String × α)) {e : String × α}
    {after : List (String × α)} (h : ∃ f ∈ after, f.1 = e.1) :
    SameLastBindings (before ++ e :: after) (before ++ after) := by
  rw [← ofList_eq_ofList_iff]
  apply eq_of_get?
  intro k
  rw [← List.singleton_append, get?_ofList_append, get?_ofList_append, get?_ofList_append before]
  cases hk : (ofList after).get? k with
  | some v => simp
  | none =>
    rw [get?_ofList_eq_none_iff] at hk
    have he : k ≠ e.1 := by
      rintro rfl
      obtain ⟨f, hf, hfe⟩ := h
      exact hk f hf hfe
    rw [get?_ofList, List.reverse_singleton, lookup_cons, if_neg he]
    rfl

theorem isEmpty_ofList_iff (l : List (String × α)) : (ofList l).isEmpty = true ↔ l = [] := by
  refine ⟨?_, ?_⟩
  · intro h
    rw [List.eq_nil_iff_forall_not_mem]
    intro e he
    have hnone : (ofList l).get? e.1 = none := by
      rw [eq_empty_of_isEmpty h, get?_empty]
    exact (get?_ofList_eq_none_iff l e.1).mp hnone e he rfl
  · rintro rfl
    rfl

theorem lookup_graph (g : String → α) (l : List String) (k : String) :
    (l.map fun x => (x, g x)).lookup k = if k ∈ l then some (g k) else none := by
  induction l with
  | nil => rfl
  | cons x rest ih =>
    rw [List.map_cons, lookup_cons, ih]
    by_cases h : k = x
    · simp [h]
    · simp [h]

/-- A map of keys to what a function gives for them has each of the keys once. -/
theorem get?_ofList_graph (g : String → α) (l : List String) (k : String) :
    (ofList (l.map fun x => (x, g x))).get? k = if k ∈ l then some (g k) else none := by
  rw [get?_ofList, ← List.map_reverse, lookup_graph]
  simp only [List.mem_reverse]

end RuleFields.SortedMap
