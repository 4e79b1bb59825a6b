-- The laws of labels: which label a reference gets where many are asked for at
-- once, and which calls that takes. Each reference gets a label, and it is
-- asked for alone only if the common answer lacks it.
import Mathlib.Data.List.Basic
import RuleFields.Resolver

namespace RuleFields.Resolver

variable (r : Resolver)

/-! ## What is expected of a resolver -/

/-- The label of `id` where all of `ids` are asked for: that of the common answer, and where the
answer lacks it the one that `id` has alone. -/
def labelAmong (ids : List String) (id : String) : String :=
  match r.batch with
  | some batch => (batch ids id).getD (r.label id)
  | none => r.label id

/-- The calls for the labels of `ids`: one for all of them, and then one for each that the answer
lacks, as often as it occurs. A resolver without an answer for many takes one call for each. -/
def callsFor (ids : List String) : List Call :=
  match r.batch with
  | some batch => .labels ids :: (ids.filter fun id => (batch ids id).isNone).map .label
  | none => ids.map .label

/-- Each common answer has the labels that the references have alone, as far as it goes. -/
def AgreesOn (ids : List String) : Prop :=
  ∀ batch, r.batch = some batch → ∀ id ∈ ids, ∀ label, batch ids id = some label →
    label = r.label id

/-- The label of a reference does not depend on what else is asked for. -/
def Steady : Prop :=
  ∀ ids ids' id, id ∈ ids → id ∈ ids' → r.labelAmong ids id = r.labelAmong ids' id

variable {r}

theorem labelAmong_of_agreesOn {ids : List String} (h : r.AgreesOn ids) {id : String}
    (hid : id ∈ ids) : r.labelAmong ids id = r.label id := by
  unfold labelAmong
  cases hb : r.batch with
  | none => rfl
  | some batch =>
    dsimp only
    cases hlabel : batch ids id with
    | none => rfl
    | some label => exact h batch hb id hid label hlabel

/-! ## What a resolver does -/

theorem value_labelFrom (labels : String → Option String) (id : String) :
    (r.labelFrom labels id).value = (labels id).getD (r.label id) := by
  unfold labelFrom
  cases labels id <;> rfl

/-- Exactly the references that an answer lacks are asked for alone, in order. -/
theorem flatMap_calls_labelFrom (labels : String → Option String) (ids : List String) :
    (ids.flatMap fun id => (r.labelFrom labels id).calls) =
      (ids.filter fun id => (labels id).isNone).map .label := by
  induction ids with
  | nil => rfl
  | cons id rest ih =>
    rw [List.flatMap_cons, ih]
    unfold labelFrom
    cases h : labels id with
    | none =>
      rw [List.filter_cons_of_pos (by simp [h])]
      rfl
    | some label =>
      rw [List.filter_cons_of_neg (by simp [h])]
      rfl

theorem getD_resolveLabels {ids : List String} {id : String} (h : id ∈ ids) :
    ((r.resolveLabels ids).value id).getD (r.label id) = r.labelAmong ids id := by
  unfold resolveLabels labelAmong
  cases r.batch with
  | none => simp [h]
  | some batch => rfl

/-- All that it takes to ask for the labels of `ids`, at once and then alone. -/
theorem calls_resolveLabels_append (ids : List String) :
    ((r.resolveLabels ids).calls ++
      ids.flatMap fun id => (r.labelFrom (r.resolveLabels ids).value id).calls) =
        r.callsFor ids := by
  rw [flatMap_calls_labelFrom]
  unfold resolveLabels callsFor
  cases r.batch with
  | none =>
    -- The answer of a resolver that is asked one by one lacks none.
    have hnone : (ids.filter fun id => (if id ∈ ids then some (r.label id) else none).isNone) =
        [] := by
      apply List.filter_eq_nil_iff.mpr
      intro id hid
      simp [hid]
    dsimp only
    rw [hnone, List.map_nil, List.append_nil]
  | some batch => rfl

/-! ## A resolver with a short answer -/

/-- A resolver whose common answer knows one user only. -/
def shortDirectory : Resolver where
  label id := "@" ++ id
  batch := some fun _ id => if id = "PHID-USER-1" then some "@PHID-USER-1" else none

theorem shortDirectory_agreesOn (ids : List String) : shortDirectory.AgreesOn ids := by
  rintro batch ⟨rfl⟩ id - label hlabel
  by_cases hid : id = "PHID-USER-1"
  · simp only [if_pos hid, Option.some_inj] at hlabel
    rw [← hlabel, hid]
    rfl
  · simp [if_neg hid] at hlabel

theorem shortDirectory_steady : shortDirectory.Steady := by
  intro ids ids' id _ _
  rfl

end RuleFields.Resolver
