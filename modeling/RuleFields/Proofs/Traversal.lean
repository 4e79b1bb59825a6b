-- The laws of steps that may fail: a sequence of steps succeeds when each
-- step does, and a walk over a list fails with the error of the first
-- element that fails. A search by id finds the one value with the id.
import Mathlib.Data.List.Forall2
import Mathlib.Data.List.Nodup

namespace RuleFields

/-! ## Two steps -/

theorem bind_eq_ok_iff {α β ε : Type} {x : Except ε α} {f : α → Except ε β} {b : β} :
    x >>= f = .ok b ↔ ∃ a, x = .ok a ∧ f a = .ok b := by
  cases x <;> simp [bind, Except.bind]

theorem bind_eq_error_iff {α β ε : Type} {x : Except ε α} {f : α → Except ε β} {e : ε} :
    x >>= f = .error e ↔ x = .error e ∨ ∃ a, x = .ok a ∧ f a = .error e := by
  cases x <;> simp [bind, Except.bind]

theorem map_eq_ok_iff {α β ε : Type} {x : Except ε α} {f : α → β} {b : β} :
    f <$> x = .ok b ↔ ∃ a, x = .ok a ∧ f a = b := by
  cases x <;> simp [Functor.map, Except.map]

theorem map_eq_error_iff {α β ε : Type} {x : Except ε α} {f : α → β} {e : ε} :
    f <$> x = .error e ↔ x = .error e := by
  cases x <;> simp [Functor.map, Except.map]

/-! ## Walks over a list -/

/-- A walk over a list fails with the error of the first step that fails. -/
theorem foldlM_eq_error_iff {α β ε : Type} (f : β → α → Except ε β) (l : List α) (b : β) (e : ε) :
    l.foldlM f b = .error e ↔
      ∃ before x after m, l = before ++ x :: after ∧ before.foldlM f b = .ok m ∧
        f m x = .error e := by
  induction l generalizing b with
  | nil =>
    refine ⟨?_, ?_⟩
    · intro h
      cases h
    · rintro ⟨before, x, after, m, h, -⟩
      simp at h
  | cons y rest ih =>
    rw [List.foldlM_cons, bind_eq_error_iff]
    refine ⟨?_, ?_⟩
    · rintro (h | ⟨m₁, hy, h⟩)
      · exact ⟨[], y, rest, b, rfl, rfl, h⟩
      · obtain ⟨before, x, after, m, rfl, hbefore, hx⟩ := (ih m₁).mp h
        refine ⟨y :: before, x, after, m, rfl, ?_, hx⟩
        rw [List.foldlM_cons, hy]
        exact hbefore
    · rintro ⟨before, x, after, m, hsplit, hbefore, hx⟩
      cases before with
      | nil =>
        cases hsplit
        cases hbefore
        exact Or.inl hx
      | cons z before =>
        cases hsplit
        rw [List.foldlM_cons, bind_eq_ok_iff] at hbefore
        obtain ⟨m₁, hy, hbefore⟩ := hbefore
        exact Or.inr ⟨m₁, hy, (ih m₁).mpr ⟨before, x, after, m, rfl, hbefore, hx⟩⟩

/-- A list is answered element by element, in order, or not at all. -/
theorem mapM_eq_ok_iff {α β ε : Type} (f : α → Except ε β) (l : List α) (r : List β) :
    l.mapM f = .ok r ↔ List.Forall₂ (fun x y => f x = .ok y) l r := by
  induction l generalizing r with
  | nil =>
    rw [List.mapM_nil, List.forall₂_nil_left_iff]
    exact ⟨fun h => by cases h; rfl, fun h => h ▸ rfl⟩
  | cons x rest ih =>
    rw [List.mapM_cons, bind_eq_ok_iff, List.forall₂_cons_left_iff]
    refine ⟨?_, ?_⟩
    · rintro ⟨y, hy, h⟩
      obtain ⟨ys, hys, h⟩ := bind_eq_ok_iff.mp h
      cases h
      exact ⟨y, ys, hy, (ih ys).mp hys, rfl⟩
    · rintro ⟨y, ys, hy, hys, rfl⟩
      refine ⟨y, hy, ?_⟩
      rw [(ih ys).mpr hys]
      rfl

/-- A list that is not answered has the error of its first element that is not. -/
theorem mapM_eq_error_iff {α β ε : Type} (f : α → Except ε β) (l : List α) (e : ε) :
    l.mapM f = .error e ↔
      ∃ before x after, l = before ++ x :: after ∧ (∀ y ∈ before, ∃ z, f y = .ok z) ∧
        f x = .error e := by
  induction l with
  | nil =>
    refine ⟨?_, ?_⟩
    · intro h
      cases h
    · rintro ⟨before, x, after, h, -⟩
      simp at h
  | cons x rest ih =>
    have htail : ∀ y, (rest.mapM f >>= fun ys => (pure (y :: ys) : Except ε (List β))) = .error e ↔
        rest.mapM f = .error e := by
      intro y
      cases rest.mapM f <;> simp [bind, Except.bind, pure, Except.pure]
    rw [List.mapM_cons, bind_eq_error_iff]
    refine ⟨?_, ?_⟩
    · rintro (h | ⟨y, hy, h⟩)
      · exact ⟨[], x, rest, rfl, by simp, h⟩
      · obtain ⟨before, z, after, rfl, hbefore, hz⟩ := ih.mp ((htail y).mp h)
        exact ⟨x :: before, z, after, rfl, List.forall_mem_cons.mpr ⟨⟨y, hy⟩, hbefore⟩, hz⟩
    · rintro ⟨before, z, after, hsplit, hbefore, hz⟩
      cases before with
      | nil =>
        cases hsplit
        exact Or.inl hz
      | cons w before =>
        cases hsplit
        obtain ⟨⟨y, hy⟩, hbefore⟩ := List.forall_mem_cons.mp hbefore
        exact Or.inr ⟨y, hy, (htail y).mpr (ih.mpr ⟨before, z, after, rfl, hbefore, hz⟩)⟩

/-! ## Two lists side by side -/

theorem exists_mem_of_forall₂ {α β : Type} {R : α → β → Prop} {l : List α} {r : List β}
    (h : List.Forall₂ R l r) {y : β} (hy : y ∈ r) : ∃ x ∈ l, R x y := by
  induction h with
  | nil => cases hy
  | @cons x z l r hxz _ ih =>
    rcases List.mem_cons.mp hy with rfl | hy
    · exact ⟨x, List.mem_cons_self, hxz⟩
    · obtain ⟨w, hw, hwy⟩ := ih hy
      exact ⟨w, List.mem_cons_of_mem _ hw, hwy⟩

theorem exists_forall₂_iff {α β : Type} {R : α → β → Prop} {l : List α} :
    (∃ r, List.Forall₂ R l r) ↔ ∀ x ∈ l, ∃ y, R x y := by
  induction l with
  | nil => exact ⟨fun _ => by simp, fun _ => ⟨[], .nil⟩⟩
  | cons x rest ih =>
    rw [List.forall_mem_cons, ← ih]
    refine ⟨?_, ?_⟩
    · rintro ⟨r, h⟩
      obtain ⟨y, ys, hy, hys, -⟩ := List.forall₂_cons_left_iff.mp h
      exact ⟨⟨y, hy⟩, ys, hys⟩
    · rintro ⟨⟨y, hy⟩, ys, hys⟩
      exact ⟨y :: ys, .cons hy hys⟩

/-! ## Searches by id -/

/-- In a table that lists every value and no id twice, a search finds exactly the value with the
id. -/
theorem find?_id_eq_some_iff {α : Type} {all : List α} {id : α → String} (hall : ∀ x, x ∈ all)
    (hids : (all.map id).Nodup) (s : String) (x : α) :
    all.find? (fun y => id y == s) = some x ↔ id x = s := by
  refine ⟨?_, ?_⟩
  · intro h
    simpa using List.find?_some h
  · rintro rfl
    cases hfound : all.find? (fun y => id y == id x) with
    | none =>
      rw [List.find?_eq_none] at hfound
      exact absurd (beq_self_eq_true (id x)) (hfound x (hall x))
    | some y =>
      have hid : id y = id x := by simpa using List.find?_some hfound
      rw [List.inj_on_of_nodup_map hids (hall y) (hall x) hid]

end RuleFields
