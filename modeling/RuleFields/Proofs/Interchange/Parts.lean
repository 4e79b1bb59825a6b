-- The laws of the parts of a document: lists, maps and members that were
-- written are read as they were, and a document of known depth is readable.
import Mathlib.Data.Option.Basic
import RuleFields.Interchange.Format
import RuleFields.Proofs.SortedMap

namespace RuleFields

/-! ## Lists -/

/-- A list whose items are read as they were is read as it was. -/
theorem mapM_map_of_inverse {α β : Type} {write : α → β} (read : β → Option α)
    (h : ∀ x, read (write x) = some x) (l : List α) : (l.map write).mapM read = some l := by
  induction l with
  | nil => rfl
  | cons x rest ih =>
    rw [List.map_cons, List.mapM_cons, h, ih]
    rfl

namespace Json

/-! ## Documents of values -/

@[simp] theorem toDoc_string (s : String) : (Json.string s).toDoc = .string (some s) := rfl

@[simp] theorem toDoc_object (members : List (String × Json)) :
    (Json.object members).toDoc = .object (memberDocs members) := rfl

@[simp] theorem memberDocs_nil : memberDocs [] = [] := rfl

@[simp] theorem memberDocs_cons (k : String) (j : Json) (members : List (String × Json)) :
    memberDocs ((k, j) :: members) = (some k, j.toDoc) :: memberDocs members := rfl

theorem docs_eq_map (items : List Json) : docs items = items.map toDoc := by
  induction items with
  | nil => rfl
  | cons j rest ih => rw [docs, ih, List.map_cons]

/-- A list is written item by item. -/
theorem toDoc_array_map {α : Type} (write : α → Json) (l : List α) :
    (Json.array (l.map write)).toDoc = .array (l.map fun x => (write x).toDoc) := by
  rw [toDoc, docs_eq_map, List.map_map]
  rfl

theorem memberDocs_eq_map (members : List (String × Json)) :
    memberDocs members = members.map fun m => (some m.1, m.2.toDoc) := by
  induction members with
  | nil => rfl
  | cons m rest ih =>
    rw [memberDocs_cons, ih, List.map_cons]

namespace Doc

@[simp] theorem text?_string (s : Option String) : (Doc.string s).text? = s := rfl

@[simp] theorem name?_string (s : Option String) : (Doc.string s).name? = s := rfl

theorem texts?_strings (items : List String) :
    (Json.array (items.map .string)).toDoc.texts? = some items := by
  rw [toDoc_array_map]
  exact mapM_map_of_inverse text? (fun _ => rfl) items

/-- A map is written as an object with its entries in their order. -/
theorem toDoc_stringMap (m : StringMap) :
    m.toJson.toDoc = .object (m.entries.map fun e => (some e.1, .string (some e.2))) := by
  rw [StringMap.toJson, toDoc_object, memberDocs_eq_map, List.map_map]
  rfl

theorem stringMap?_toJson (m : StringMap) : m.toJson.toDoc.stringMap? = some m := by
  have hmembers : (m.entries.map fun e => (some e.1, Doc.string (some e.2))).mapM textMember? =
      some m.entries := mapM_map_of_inverse textMember? (fun _ => rfl) m.entries
  rw [toDoc_stringMap, stringMap?, hmembers]
  exact congrArg some (SortedMap.ofList_entries m)

/-! ## Members -/

namespace Members

variable {key k : String} {d : Doc} {ms : List (Option String × Doc)}

@[simp] theorem hasReadableKeys_nil : hasReadableKeys [] = true := rfl

@[simp] theorem hasReadableKeys_cons :
    hasReadableKeys ((some k, d) :: ms) = hasReadableKeys ms := by
  simp [hasReadableKeys]

@[simp] theorem under_nil : under [] key = [] := by
  rw [under, List.filter_nil]

theorem under_cons_self : under ((some key, d) :: ms) key = (some key, d) :: under ms key := by
  simp [under]

@[simp] theorem under_cons_of_ne (h : k ≠ key) : under ((some k, d) :: ms) key = under ms key := by
  simp [under, h]

@[simp] theorem required?_cons_self (h : under ms key = []) :
    required? ((some key, d) :: ms) key = some d := by
  rw [required?, under_cons_self, h]

@[simp] theorem required?_cons_of_ne (h : k ≠ key) :
    required? ((some k, d) :: ms) key = required? ms key := by
  rw [required?, required?, under_cons_of_ne h]

@[simp] theorem optional?_nil : optional? [] key = some none := rfl

@[simp] theorem optional?_cons_self (h : under ms key = []) :
    optional? ((some key, d) :: ms) key = some (some d) := by
  rw [optional?, under_cons_self, h]

@[simp] theorem optional?_cons_of_ne (h : k ≠ key) :
    optional? ((some k, d) :: ms) key = optional? ms key := by
  rw [optional?, optional?, under_cons_of_ne h]

end Members

/-! ## Readable documents -/

theorem isSome_memberValues? {room : Nat} {members : List (Option String × Doc)}
    (h : ∀ m ∈ members, m.1.isSome = true ∧ m.2.isReadable room = true) :
    (memberValues? room members).isSome = true := by
  induction members with
  | nil => rfl
  | cons m rest ih =>
    obtain ⟨k, d⟩ := m
    obtain ⟨hk, hd⟩ := h _ List.mem_cons_self
    obtain ⟨key, rfl⟩ := Option.isSome_iff_exists.mp hk
    obtain ⟨j, hj⟩ := Option.isSome_iff_exists.mp hd
    have hrest := ih fun x hx => h x (List.mem_cons_of_mem _ hx)
    obtain ⟨js, hjs⟩ := Option.isSome_iff_exists.mp hrest
    have hj' : d.value? room = some j := hj
    simp [memberValues?, hj', hjs]

/-- An object is readable if its members are, with room for one level less. -/
theorem isReadable_object {room : Nat} {members : List (Option String × Doc)}
    (h : ∀ m ∈ members, m.1.isSome = true ∧ m.2.isReadable room = true) :
    (object members).isReadable (room + 1) = true := by
  have hmembers := isSome_memberValues? h
  simpa [isReadable, value?] using hmembers

theorem isReadable_stringMap (m : StringMap) (room : Nat) :
    m.toJson.toDoc.isReadable (room + 1) = true := by
  rw [toDoc_stringMap]
  apply isReadable_object
  intro x hx
  obtain ⟨e, -, rfl⟩ := List.mem_map.mp hx
  exact ⟨rfl, rfl⟩

end Doc

end Json

end RuleFields
