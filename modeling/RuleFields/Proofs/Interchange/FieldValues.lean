-- The format of field values: which kinds and contents fit together. A field
-- value is read from these and from nothing else, so what is read as a
-- reference was written as one.
import RuleFields.Proofs.Interchange.Records

namespace RuleFields

/-! ## Lists -/

/-- A list is read exactly if each item is what some element is written as. -/
theorem mapM_eq_some_iff_map {α β : Type} {read : β → Option α} {write : α → β}
    (h : ∀ y x, read y = some x ↔ y = write x) (l : List β) (xs : List α) :
    l.mapM read = some xs ↔ l = xs.map write := by
  induction l generalizing xs with
  | nil =>
    rw [List.mapM_nil, eq_comm (a := []), List.map_eq_nil_iff]
    exact ⟨fun h => (Option.some.inj h).symm, fun h => congrArg some h.symm⟩
  | cons y rest ih =>
    rw [List.mapM_cons]
    refine ⟨?_, ?_⟩
    · intro hread
      obtain ⟨x, hx, hread⟩ := Option.bind_eq_some_iff.mp hread
      obtain ⟨xs', hxs', hread⟩ := Option.bind_eq_some_iff.mp hread
      obtain rfl := Option.some.inj hread
      rw [(h y x).mp hx, (ih xs').mp hxs', List.map_cons]
    · intro hwrite
      cases xs with
      | nil => cases hwrite
      | cons x xs =>
        obtain ⟨hy, hrest⟩ := List.cons.inj hwrite
        rw [(h y x).mpr hy, (ih xs).mpr hrest]
        rfl

/-! ## Parts of a document -/

/-- An object of texts with the entries of the map, in any order. Of two members with one key the
later counts. -/
def StringMap.WrittenAs (m : StringMap) (d : Json.Doc) : Prop :=
  ∃ l : List (String × String), SortedMap.ofList l = m ∧
    d = .object (l.map fun e => (some e.1, .string (some e.2)))

namespace Json.Doc

variable {d : Doc}

/-- The document is this name out of a fixed set: the text of it, or an object that holds null
under it. -/
inductive Names (name : String) : Doc → Prop
  | text : Names name (.string (some name))
  | key : Names name (.object [(some name, .null)])

theorem text?_eq_some_iff {s : String} : d.text? = some s ↔ d = .string (some s) := by
  cases d <;> simp [text?]

theorem bool?_eq_some_iff {b : Bool} : d.bool? = some b ↔ d = .bool b := by
  cases d <;> simp [bool?]

theorem name?_eq_some_iff {name : String} : d.name? = some name ↔ d.Names name := by
  refine ⟨?_, ?_⟩
  · intro h
    unfold name? at h
    split at h
    · cases h
      exact .text
    · cases h
      exact .key
    · cases h
  · intro h
    cases h <;> rfl

theorem texts?_eq_some_iff {items : List String} :
    d.texts? = some items ↔ d = .array (items.map fun s => .string (some s)) := by
  have hitems := mapM_eq_some_iff_map (fun y x => text?_eq_some_iff (d := y) (s := x))
  cases d <;> simp [texts?, hitems]

theorem textMember?_eq_some_iff (m : Option String × Doc) (e : String × String) :
    textMember? m = some e ↔ m = (some e.1, .string (some e.2)) := by
  obtain ⟨k, d⟩ := m
  obtain ⟨key, s⟩ := e
  cases k <;> simp [textMember?, Option.bind_eq_some_iff, text?_eq_some_iff, and_comm]

theorem stringMap?_eq_some_iff {m : StringMap} : d.stringMap? = some m ↔ m.WrittenAs d := by
  have hmembers := mapM_eq_some_iff_map textMember?_eq_some_iff
  unfold StringMap.WrittenAs
  cases d with
  | object members => simp [stringMap?, hmembers, and_comm]
  | _ => simp [stringMap?]

/-- The document names its kind: under the key of the kind if it is an object, and as the first
element if it is a list. -/
inductive HasKind (kind : String) : Doc → Prop
  | member {ms : Members} {k : Doc} (h : ms.Holds "kind" (some k)) (hk : k.Names kind) :
      HasKind kind (.object ms)
  | first {rest : List Doc} : HasKind kind (.array (.string (some kind) :: rest))

end Json.Doc

open Json (Doc)

/-! ## Kind and content -/

/-- The kind and the content fit together and are this value. Only null may do without content. -/
inductive FieldValue.Fits : String → Option Doc → FieldValue → Prop
  | null : Fits "null" none .null
  | writtenNull : Fits "null" (some .null) .null
  | bool (b : Bool) : Fits "bool" (some (.bool b)) (.bool b)
  | text (s : String) : Fits "text" (some (.string (some s))) (.text s)
  | textList (items : List String) :
      Fits "text-list" (some (.array (items.map fun s => .string (some s)))) (.textList items)
  | textMap {entries : StringMap} {d : Doc} (h : entries.WrittenAs d) :
      Fits "text-map" (some d) (.textMap entries)
  | phid (id : String) : Fits "phid" (some (.string (some id))) (.phid id)
  | phidList (ids : List String) :
      Fits "phid-list" (some (.array (ids.map fun s => .string (some s)))) (.phidList ids)

namespace FieldValue

variable {kind : String} {content : Option Doc} {v : FieldValue}

theorem fits_of_ofContent? (h : ofContent? kind content = some v) : Fits kind content v := by
  unfold ofContent? at h
  split at h
  · cases h
    exact .null
  · cases h
    exact .writtenNull
  · obtain ⟨b, hb, rfl⟩ := Option.map_eq_some_iff.mp h
    obtain rfl := Doc.bool?_eq_some_iff.mp hb
    exact .bool b
  · obtain ⟨s, hs, rfl⟩ := Option.map_eq_some_iff.mp h
    obtain rfl := Doc.text?_eq_some_iff.mp hs
    exact .text s
  · obtain ⟨items, hitems, rfl⟩ := Option.map_eq_some_iff.mp h
    obtain rfl := Doc.texts?_eq_some_iff.mp hitems
    exact .textList items
  · obtain ⟨entries, hentries, rfl⟩ := Option.map_eq_some_iff.mp h
    exact .textMap (Doc.stringMap?_eq_some_iff.mp hentries)
  · obtain ⟨id, hid, rfl⟩ := Option.map_eq_some_iff.mp h
    obtain rfl := Doc.text?_eq_some_iff.mp hid
    exact .phid id
  · obtain ⟨ids, hids, rfl⟩ := Option.map_eq_some_iff.mp h
    obtain rfl := Doc.texts?_eq_some_iff.mp hids
    exact .phidList ids
  · cases h

theorem ofContent?_of_fits (h : Fits kind content v) : ofContent? kind content = some v := by
  cases h with
  | null => rfl
  | writtenNull => rfl
  | bool b => rfl
  | text s => rfl
  | textList items => simp [ofContent?, Doc.texts?_eq_some_iff.mpr rfl]
  | textMap h => simp [ofContent?, Doc.stringMap?_eq_some_iff.mpr h]
  | phid id => rfl
  | phidList ids => simp [ofContent?, Doc.texts?_eq_some_iff.mpr rfl]

/-- A value is made of exactly the kinds and contents that fit together. -/
theorem ofContent?_eq_some_iff : ofContent? kind content = some v ↔ Fits kind content v :=
  ⟨fits_of_ofContent?, ofContent?_of_fits⟩

/-- Only the kinds of references hold references. -/
theorem kind_of_phids_ne_nil (h : Fits kind content v) (hv : v.phids ≠ []) :
    kind = "phid" ∨ kind = "phid-list" := by
  cases h with
  | phid id => exact Or.inl rfl
  | phidList ids => exact Or.inr rfl
  | _ => exact absurd rfl hv

/-! ## Objects and lists -/

theorem ofDoc?_object_eq_some_iff {ms : Doc.Members} :
    ofDoc? (.object ms) = some v ↔
      Doc.Members.hasReadableKeys ms = true ∧ ∃ k kind content, ms.Holds "kind" (some k) ∧
        k.Names kind ∧ ms.Holds "value" content ∧ Fits kind content v := by
  simp only [ofDoc?, Option.bind_eq_bind, Option.bind_eq_some_iff, Option.guard_eq_some',
    Doc.Members.required?_eq_some_iff, Doc.Members.optional?_eq_some_iff,
    Doc.name?_eq_some_iff, ofContent?_eq_some_iff]
  refine ⟨?_, ?_⟩
  · rintro ⟨-, hkeys, kind, ⟨k, hk, hkind⟩, content, hcontent, hfits⟩
    exact ⟨hkeys, k, kind, content, hk, hkind, hcontent, hfits⟩
  · rintro ⟨hkeys, k, kind, content, hk, hkind, hcontent, hfits⟩
    exact ⟨(), hkeys, kind, ⟨k, hk, hkind⟩, content, hcontent, hfits⟩

/-- An object whose kind is a text is read by its kind and its content. -/
theorem ofDoc?_object_of_kind {ms : Doc.Members} (hkeys : Doc.Members.hasReadableKeys ms = true)
    (hkind : ms.Holds "kind" (some (.string (some kind)))) :
    ofDoc? (.object ms) = some v ↔
      ∃ content, ms.Holds "value" content ∧ Fits kind content v := by
  rw [ofDoc?_object_eq_some_iff]
  refine ⟨?_, ?_⟩
  · rintro ⟨-, k, kind', content, hk, hnames, hcontent, hfits⟩
    obtain rfl := Option.some.inj (hk.unique hkind)
    cases hnames
    exact ⟨content, hcontent, hfits⟩
  · rintro ⟨content, hcontent, hfits⟩
    exact ⟨hkeys, _, kind, content, hkind, .text, hcontent, hfits⟩

theorem ofDoc?_array_eq_some_iff {items : List Doc} :
    ofDoc? (.array items) = some v ↔
      ∃ kind content, items = [.string (some kind), content] ∧ Fits kind (some content) v := by
  refine ⟨?_, ?_⟩
  · intro h
    unfold ofDoc? at h
    split at h
    · rename_i heq
      cases heq
    · rename_i k content heq
      cases heq
      obtain ⟨kind, hkind, h⟩ := Option.bind_eq_some_iff.mp h
      obtain rfl := Doc.text?_eq_some_iff.mp hkind
      exact ⟨kind, content, rfl, fits_of_ofContent? h⟩
    · cases h
  · rintro ⟨kind, content, rfl, hfits⟩
    exact ofContent?_of_fits hfits

/-- What is read as references names a kind of references. -/
theorem hasKind_of_phids_ne_nil {d : Doc} (h : ofDoc? d = some v) (hv : v.phids ≠ []) :
    d.HasKind "phid" ∨ d.HasKind "phid-list" := by
  cases d with
  | object ms =>
    obtain ⟨-, k, kind, content, hk, hkind, -, hfits⟩ := ofDoc?_object_eq_some_iff.mp h
    rcases kind_of_phids_ne_nil hfits hv with rfl | rfl
    · exact Or.inl (.member hk hkind)
    · exact Or.inr (.member hk hkind)
  | array items =>
    obtain ⟨kind, content, rfl, hfits⟩ := ofDoc?_array_eq_some_iff.mp h
    rcases kind_of_phids_ne_nil hfits hv with rfl | rfl
    · exact Or.inl .first
    · exact Or.inr .first
  | _ => cases h

end FieldValue

/-! ## The laws -/

/-- An object whose kind is a text is read as a field value exactly if the kind fits what the
object holds as value, whatever else it holds, and a list that begins with the kind exactly if it
goes on with one content that fits. The value is the one of that kind with that content. Only
what names a kind of references is read as references. -/
theorem a_field_value_is_read_where_kind_and_content_fit :
    (∀ ms : Doc.Members, Doc.Members.hasReadableKeys ms = true →
      ∀ kind, ms.Holds "kind" (some (.string (some kind))) →
        ∀ v, FieldValue.ofDoc? (.object ms) = some v ↔
          ∃ content, ms.Holds "value" content ∧ FieldValue.Fits kind content v) ∧
    (∀ members : List (String × Json), (members.map Prod.fst).Nodup →
      ∀ kind, members.lookup "kind" = some (.string kind) →
        ∀ v, FieldValue.ofDoc? (Json.object members).toDoc = some v ↔
          FieldValue.Fits kind ((members.lookup "value").map Json.toDoc) v) ∧
    (∀ kind rest v, FieldValue.ofDoc? (.array (.string (some kind) :: rest)) = some v ↔
      ∃ content, rest = [content] ∧ FieldValue.Fits kind (some content) v) ∧
    (∀ d v, FieldValue.ofDoc? d = some v → v.phids ≠ [] →
      d.HasKind "phid" ∨ d.HasKind "phid-list") := by
  refine ⟨?_, ?_, ?_, fun d v => FieldValue.hasKind_of_phids_ne_nil⟩
  · intro ms hkeys kind hkind v
    exact FieldValue.ofDoc?_object_of_kind hkeys hkind
  · intro members hnodup kind hkind v
    have hholds := Doc.Members.holds_memberDocs hnodup
    have hkind' := hholds "kind"
    rw [hkind, Option.map_some] at hkind'
    have hkeys := Doc.Members.hasReadableKeys_memberDocs members
    rw [Json.toDoc_object, FieldValue.ofDoc?_object_of_kind hkeys hkind']
    refine ⟨?_, fun hfits => ⟨_, hholds "value", hfits⟩⟩
    rintro ⟨content, hcontent, hfits⟩
    rwa [hcontent.unique (hholds "value")] at hfits
  · intro kind rest v
    rw [FieldValue.ofDoc?_array_eq_some_iff]
    refine ⟨?_, ?_⟩
    · rintro ⟨kind', content, h, hfits⟩
      cases h
      exact ⟨content, rfl, hfits⟩
    · rintro ⟨content, rfl, hfits⟩
      exact ⟨kind, content, rfl, hfits⟩

end RuleFields
