-- Maps with text keys that keep the order in which their entries came.

namespace RuleFields

/-- A map whose entries stand in the order of their arrival. -/
structure OrderedMap (α : Type) where
  entries : List (String × α)

namespace OrderedMap

variable {α : Type}

def empty : OrderedMap α := ⟨[]⟩

instance : Inhabited (OrderedMap α) := ⟨empty⟩

def keys (m : OrderedMap α) : List String := m.entries.map Prod.fst

def values (m : OrderedMap α) : List α := m.entries.map Prod.snd

def size (m : OrderedMap α) : Nat := m.entries.length

def isEmpty (m : OrderedMap α) : Bool := m.entries.isEmpty

/-- The value under `k`. -/
def get? (m : OrderedMap α) (k : String) : Option α := m.entries.lookup k

/-- The map with one more entry, last in order. It is meant for a key that is not there yet:
a key that is there keeps its first value. -/
def push (m : OrderedMap α) (k : String) (v : α) : OrderedMap α := ⟨m.entries ++ [(k, v)]⟩

/-! ## What each operation does to the entries -/

@[simp] theorem entries_push (m : OrderedMap α) (k : String) (v : α) :
    (m.push k v).entries = m.entries ++ [(k, v)] := rfl

@[simp] theorem keys_push (m : OrderedMap α) (k : String) (v : α) :
    (m.push k v).keys = m.keys ++ [k] := by simp [keys]

/-- A key is missing exactly when no entry has it. -/
theorem get?_eq_none_iff (m : OrderedMap α) (k : String) : m.get? k = none ↔ k ∉ m.keys := by
  unfold get? keys
  generalize m.entries = l
  induction l with
  | nil => simp
  | cons e rest ih =>
    rw [List.lookup_cons, List.map_cons, List.mem_cons, not_or]
    by_cases h : k = e.1
    · simp [h]
    · rw [beq_eq_false_iff_ne.mpr h]
      exact ih.trans ⟨fun hr => ⟨h, hr⟩, fun hr => hr.2⟩

end OrderedMap

end RuleFields
